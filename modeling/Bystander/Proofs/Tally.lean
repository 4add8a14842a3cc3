import Bystander.Proofs.Outcomes
/-! # Every draw is accounted for

A frame takes one fraction for sounds, one for each of arm, head and legs that is at rest, and one more for a glance that
begins; a wave and a walk take three when they start, and a clip takes one.  So the draws of a run are a sum of what was
counted in it.
-/
namespace Bystander

open Act (run_bind_eq_ok run_map_eq_ok)

variable {α κ τ : Type} [Scalar α]

theorem Source.taken_draw (s : Source α) : s.draw.2.taken = s.taken + 1 := by
  obtain ⟨supply, taken⟩ := s
  unfold Source.draw
  cases supply with
  | scripted pending fallback => cases pending <;> rfl
  | seeded g => rfl

/-! ## Accounts -/

/-- How much of each kind a brain has started. -/
structure Starts where
  waves : Nat
  clips : Nat
  walks : Nat

/-- The fractions that went into what was started. -/
def Starts.spent (c : Starts) : Nat := 3 * c.waves + c.clips + 3 * c.walks

namespace Brain

def starts (b : Brain α) : Starts := ⟨b.state.waveCount, b.sounds, b.walks⟩

/-- The fractions that frames take for other things, each frame with the brain that enters and the one that leaves. -/
def tally (calls : List (Brain α × Brain α)) : Nat :=
  calls.length + calls.countP (fun c => c.1.state.wave == .idle) + calls.countP (fun c => c.1.state.head == .idle) +
    calls.countP (fun c => c.1.state.head == .idle && c.2.state.head == .turning) +
    calls.countP (fun c => c.1.state.walk == .idle)

omit [Scalar α] in
theorem tally_singleton (b c : Brain α) : tally [(b, c)] =
    1 + (b.state.wave == .idle).toNat + (b.state.head == .idle).toNat +
      (b.state.head == .idle && c.state.head == .turning).toNat + (b.state.walk == .idle).toNat := by
  simp only [tally, List.length_singleton, List.countP_singleton]
  cases b.state.wave <;> cases b.state.head <;> cases c.state.head <;> cases b.state.walk <;> rfl

omit [Scalar α] in
theorem tally_append (calls more : List (Brain α × Brain α)) : tally (calls ++ more) = tally calls + tally more := by
  unfold tally
  rw [List.length_append, List.countP_append, List.countP_append, List.countP_append, List.countP_append]
  omega

end Brain

/-- **From some starts on to more of them**, so many fractions are taken beside those that went into the starts. -/
structure Pays (n taken : Nat) (b : Starts) (taken' : Nat) (c : Starts) : Prop where
  draws : taken' + b.spent = taken + n + c.spent
  waves : b.waves ≤ c.waves
  clips : b.clips ≤ c.clips
  walks : b.walks ≤ c.walks

theorem Pays.refl (taken : Nat) (b : Starts) : Pays 0 taken b taken b :=
  ⟨rfl, Nat.le_refl _, Nat.le_refl _, Nat.le_refl _⟩

theorem Pays.trans {n m x y z : Nat} {b c d : Starts} (h : Pays n x b y c) (h' : Pays m y c z d) :
    Pays (n + m) x b z d := by
  constructor
  · have hfirst := h.draws
    have hsecond := h'.draws
    omega
  · exact Nat.le_trans h.waves h'.waves
  · exact Nat.le_trans h.clips h'.clips
  · exact Nat.le_trans h.walks h'.walks

/-! ## What each behaviour takes -/

def Scene.Pays (n : Nat) (s t : Scene α κ τ) : Prop :=
  Bystander.Pays n s.source.taken s.brain.starts t.source.taken t.brain.starts

omit [Scalar α] in
theorem Scene.Pays.trans {n m : Nat} {s t u : Scene α κ τ} (h : Scene.Pays n s t) (h' : Scene.Pays m t u) :
    Scene.Pays (n + m) s u := Bystander.Pays.trans h h'

omit [Scalar α] in
theorem Scene.Pays.eq {n m : Nat} {s t : Scene α κ τ} (h : Scene.Pays n s t) (hn : n = m) : Scene.Pays m s t := hn ▸ h

theorem Scene.pays_drawn (s : Scene α κ τ) : Scene.Pays 1 s s.drawn := by
  refine ⟨?_, Nat.le_refl _, Nat.le_refl _, Nat.le_refl _⟩
  change s.source.draw.2.taken + _ = _
  rw [Source.taken_draw]
  rfl

theorem Wave.pays_begun (s : Scene α κ τ) : Scene.Pays 0 s (begun s) := by
  refine ⟨?_, Nat.le_succ _, Nat.le_refl _, Nat.le_refl _⟩
  have htaken : (begun s).source.taken = s.source.taken + 3 := by
    change s.source.draw.2.draw.2.draw.2.taken = _
    rw [Source.taken_draw, Source.taken_draw, Source.taken_draw]
  rw [htaken]
  simp only [Starts.spent, Brain.starts, begun]
  omega

/-- A wave by hand takes three fractions, whether or not its timer is accepted. -/
theorem Wave.pays_start (ending : Nat → τ) (s : Scene α κ τ) :
    let t := ((discard (start ending) : Play α κ τ Unit).run s).2
    Scene.Pays 0 s t ∧ t.scheduler.callbacks = s.scheduler.callbacks ∧ t.brain.closed = s.brain.closed := by
  rw [Act.run_discard, run_start]
  cases h : s.scheduler.setTimeout (ending (s.brain.arm.count + 1)) (s.brain.arm.nextDuration s.source) with
  | error fault => exact ⟨pays_begun s, rfl, rfl⟩
  | ok scheduler =>
    obtain ⟨-, rfl⟩ := Scheduler.setTimeout_eq_ok h
    exact ⟨pays_begun s, rfl, rfl⟩

theorem Wave.pays_frame (ending : Nat → τ) {s t : Scene α κ τ} {u : Unit} (h : (frame ending).run s = (.ok u, t)) :
    Scene.Pays (s.brain.state.wave == .idle).toNat s t := by
  obtain ⟨hw, hr | ⟨scheduler, -, hr⟩ | ⟨fault, -, hr⟩⟩ | ⟨hw, result, joints, hr⟩ := frame_cases ending s
  · rw [hr] at h
    cases h
    rw [hw]
    exact s.pays_drawn
  · rw [hr] at h
    cases h
    rw [hw]
    exact s.pays_drawn.trans (pays_begun s.drawn)
  · rw [hr] at h
    cases h
  · rw [hr] at h
    cases h
    rw [hw]
    exact .refl _ _

theorem Chatter.pays_heard (index : Nat) (clip : Clip α) (s : Scene α κ τ) :
    Scene.Pays 0 s (heard index clip s.drawn) := by
  refine ⟨?_, Nat.le_refl _, Nat.le_succ _, Nat.le_refl _⟩
  have htaken : (heard index clip s.drawn).source.taken = s.source.taken + 1 := Source.taken_draw s.source
  rw [htaken]
  simp only [Starts.spent, Brain.starts, heard, Scene.drawn]
  omega

theorem Chatter.pays_frame {s t : Scene α κ τ} {answer : Option Nat} (h : frame.run s = (.ok answer, t)) :
    Scene.Pays 1 s t := by
  obtain hr | ⟨fault, hr⟩ | ⟨index, clip, hr⟩ := frame_cases s
  · rw [hr] at h
    cases h
    exact s.pays_drawn
  · rw [hr] at h
    cases h
  · rw [hr] at h
    cases h
    exact s.pays_drawn.trans (pays_heard index clip s.drawn)

theorem Head.pays_frame {s t : Scene α κ τ} {u : Unit} (h : frame.run s = (.ok u, t)) :
    Scene.Pays ((s.brain.state.head == .idle).toNat +
      (s.brain.state.head == .idle && t.brain.state.head == .turning).toNat) s t := by
  rw [run_frame] at h
  cases hw : s.brain.state.head with
  | turning =>
    rw [hw] at h
    cases h
    exact .refl _ _
  | idle =>
    rw [hw] at h
    dsimp only at h
    split at h
    · cases h
      exact s.pays_drawn.trans s.drawn.pays_drawn
    · cases h
      have hrest : (ease s.drawn).brain.state.head = .idle := by
        change (if _ then HeadPhase.idle else s.brain.state.head) = _
        rw [hw, ite_self]
      rw [hrest]
      exact s.pays_drawn

theorem Walk.pays_chosen (turn : Quat α) (s : Scene α κ τ) : Scene.Pays 0 s (chosen turn s) := by
  refine ⟨?_, Nat.le_refl _, Nat.le_refl _, Nat.le_succ _⟩
  have htaken : (chosen turn s).source.taken = s.source.taken + 3 := by
    change s.source.draw.2.draw.2.draw.2.taken = _
    rw [Source.taken_draw, Source.taken_draw, Source.taken_draw]
  rw [htaken]
  simp only [Starts.spent, Brain.starts, chosen]
  omega

theorem Walk.pays_pickTarget {s t : Scene α κ τ} {u : Unit} (h : pickTarget.run s = (.ok u, t)) :
    Scene.Pays 0 s t ∧ t.scheduler.callbacks = s.scheduler.callbacks ∧ t.brain.closed = s.brain.closed := by
  obtain ⟨fault, hr⟩ | ⟨turn, -, hr⟩ := pickTarget_cases s
  · rw [hr] at h
    cases h
  · rw [hr] at h
    cases h
    exact ⟨pays_chosen turn s, rfl, rfl⟩

theorem Walk.pays_frame {s t : Scene α κ τ} {u : Unit} (h : frame.run s = (.ok u, t)) :
    Scene.Pays (s.brain.state.walk == .idle).toNat s t := by
  rw [run_frame] at h
  cases hw : s.brain.state.walk with
  | walking =>
    rw [hw] at h
    dsimp only at h
    obtain ⟨fault, hr⟩ | ⟨sine, ⟨fault, hr⟩ | ⟨orientation, -, hr | hr⟩⟩ := stride_cases s
    all_goals
      rw [hr] at h
      cases h
    all_goals exact .refl _ _
  | idle =>
    rw [hw] at h
    dsimp only at h
    split at h
    · exact s.pays_drawn.trans (pays_pickTarget h).1
    · cases h
      exact s.pays_drawn

/-- **What a frame takes.** -/
theorem Brain.pays_frame (ending : Nat → τ) (delta : α) {s t : Scene α κ τ} {u : Unit} (hopen : s.brain.closed = false)
    (h : (frame ending delta).run s = (.ok u, t)) : Scene.Pays (tally [(s.brain, t.brain)]) s t := by
  rw [run_frame_open ending delta hopen, behave] at h
  obtain ⟨_, c, hview, h⟩ := run_bind_eq_ok h
  obtain ⟨_, d, hwave, h⟩ := run_bind_eq_ok h
  obtain ⟨_, e, hchatter, h⟩ := run_bind_eq_ok h
  obtain ⟨_, f, hhead, hwalk⟩ := run_bind_eq_ok h
  have hc : View.Touches (begin delta s) c := (View.obeys_frame.map _).of_run hview
  have hd : Wave.Touches c d := (Wave.obeys_frame ending).of_run hwave
  have he : Chatter.Touches d e := (Chatter.obeys_frame.map _).of_run hchatter
  have hf : Head.Touches e f := Head.obeys_frame.of_run hhead
  have ht : Walk.Touches f t := Walk.obeys_frame.of_run hwalk
  obtain ⟨answer, hplay, -⟩ := run_map_eq_ok hchatter
  have hpays := (Wave.pays_frame ending hwave).trans ((Chatter.pays_frame hplay).trans
    ((Head.pays_frame hhead).trans (Walk.pays_frame hwalk)))
  obtain ⟨_, _, _, -, rfl⟩ := hc
  obtain ⟨_, _, _, _, _, _, _, -, rfl⟩ := hd
  obtain ⟨_, _, _, _, -, rfl⟩ := he
  obtain ⟨_, _, _, _, _, _, -, rfl⟩ := hf
  obtain ⟨_, _, _, _, _, _, _, _, _, _, _, -, rfl⟩ := ht
  refine Scene.Pays.eq hpays ?_
  rw [tally_singleton]
  dsimp only [begin]
  omega

end Bystander
