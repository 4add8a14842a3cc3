import Mathlib
import Bystander.Proofs.Arrival
import Bystander.Proofs.Clocks
/-! # The head rests near its target

With exact numbers every frame after the one that has armed a turn leaves a fixed fraction of the way to the target.
The turn ends with the first of them after which the rest is within the tolerance.  The head eases on after that, until
another turn is armed, so at rest it is never farther than the tolerance from its target.  This is said of every run of
a head (`Head.Runs`), and each session on a fresh host is one (`Bot.head_runs_of_start`).
-/
namespace Bystander

open Act (Obeys run_bind)

variable {α κ τ : Type}

/-! ## The part of a scene that glances -/

/-- **The part of a scene that glances.** -/
structure Gaze (α : Type) where
  settings : HeadSettings α
  phase : HeadPhase
  pitch : α
  target : α

def Scene.gaze (s : Scene α κ τ) : Gaze α where
  settings := s.brain.settings.head
  phase := s.brain.state.head
  pitch := s.avatar.headPitch
  target := s.brain.state.targetPitch

section Frames

variable [Scalar α]

namespace Gaze

/-- One frame later: nearer to the target, and at rest once that is within the tolerance. -/
def eased (g : Gaze α) : Gaze α :=
  let pitch := Head.approach g.pitch g.target g.settings.pitchRate
  { g with
    pitch
    phase := if Scalar.magnitude (pitch - g.target) < g.settings.stopTolerance then .idle else g.phase }

theorem eased_phase_of_idle {g : Gaze α} (h : g.phase = .idle) : g.eased.phase = .idle := by
  rw [eased, h]
  exact ite_self _

/-- A gaze after a fraction has chosen its next target. -/
def aimed (g : Gaze α) (r : α) : Gaze α :=
  { g with target := Scalar.between (-g.settings.pitchRange) g.settings.pitchRange r, phase := .turning }

end Gaze

/-- **A frame of the head** eases it or, where it was at rest, may aim it at another target. -/
theorem Head.gaze_frame (s : Scene α κ τ) : ∃ t, frame.run s = (.ok (), t) ∧
    (t.gaze = s.gaze.eased ∨ s.brain.state.head = .idle ∧ t.gaze = s.gaze.aimed s.source.draw.2.draw.1) := by
  rw [Head.run_frame]
  cases s.brain.state.head with
  | turning => exact ⟨_, rfl, .inl rfl⟩
  | idle =>
    dsimp only
    split
    · exact ⟨_, rfl, .inr ⟨rfl, rfl⟩⟩
    · exact ⟨_, rfl, .inl rfl⟩

theorem Walk.leaves_gaze_frame : Obeys (leaving Scene.gaze) (Walk.frame : Play α κ τ Unit) := by
  refine Walk.obeys_frame.imp ?_
  rintro s t ⟨_, _, _, _, _, _, _, _, _, _, _, -, rfl⟩
  rfl

namespace Brain

theorem behave_eq_overture (ending : Nat → τ) :
    (behave ending : Play α κ τ Unit) = (do overture ending; Head.frame; Walk.frame) := by
  rw [behave_eq, prelude_eq, bind_assoc]

/-- What comes before the head leaves the gaze alone. -/
theorem leaves_gaze_overture (ending : Nat → τ) :
    Obeys (leaving Scene.gaze) (overture ending : Play α κ τ Unit) := by
  apply obeys_overture
  · rintro s t ⟨_, _, _, -, rfl⟩
    rfl
  · rintro s t ⟨_, _, _, _, _, _, _, -, rfl⟩
    rfl
  · rintro s t ⟨_, _, _, _, -, rfl⟩
    rfl

theorem gaze_begin (delta : α) (s : Scene α κ τ) : (begin delta s).gaze = s.gaze := by
  have hpitch : (begin delta s).avatar.headPitch = s.avatar.headPitch := by
    unfold begin
    dsimp only
    split <;> rfl
  change { s.gaze with pitch := (begin delta s).avatar.headPitch : Gaze α } = s.gaze
  rw [hpitch]
  rfl

/-- **A frame in which the head turns** eases it between the overture and the walk, and takes nothing from the source
for it. -/
theorem run_frame_turning {ending : Nat → τ} {delta : α} {s t : Scene α κ τ} (hopen : s.brain.closed = false)
    (hturning : s.brain.state.head = .turning) (h : (overture ending).run (begin delta s) = (.ok (), t)) :
    (frame ending delta).run s = Walk.frame.run (Head.ease t) := by
  have hgaze : t.gaze = s.gaze := ((leaves_gaze_overture ending).of_run h).trans (gaze_begin delta s)
  have hphase : t.brain.state.head = .turning := (congrArg Gaze.phase hgaze).trans hturning
  rw [run_frame_open ending delta hopen, behave_eq_overture, run_bind, h]
  dsimp only
  rw [run_bind, Head.run_frame, hphase]

end Brain
end Frames

/-! ## One frame over the reals -/

/-- **A turn is armed** between two scenes. -/
def Head.Arms (s t : Scene α κ τ) : Prop := s.brain.state.head = .idle ∧ t.brain.state.head = .turning

/-- **What a frame does to the gaze**: it fails before the head is reached, arms a turn with what a fraction chooses, or
eases the head. -/
theorem Brain.gaze_frame {ending : Nat → τ} {delta : ℝ} {s t : Scene ℝ κ τ} (hopen : s.brain.closed = false)
    {answer : Except (Fault ℝ) Unit} (hr : (frame ending delta).run s = (answer, t)) :
    (∃ fault, answer = .error fault ∧ t.gaze = s.gaze) ∨ answer = .ok () ∧
      (Head.Arms s t ∧ (∃ source, s.source.Leads source ∧ t.gaze = s.gaze.aimed source.draw.1) ∨
        ¬ Head.Arms s t ∧ t.gaze = s.gaze.eased) := by
  rw [run_frame_open ending delta hopen, behave_eq_overture, run_bind] at hr
  rcases hbefore : (overture ending).run (begin delta s) with ⟨first, u⟩
  have hgaze : u.gaze = s.gaze := ((leaves_gaze_overture ending).of_run hbefore).trans (gaze_begin delta s)
  have hleads : (begin delta s).source.Leads u.source := (draws_overture ending).of_run hbefore
  rw [hbefore] at hr
  cases first with
  | error fault =>
    obtain ⟨rfl, rfl⟩ := Prod.mk.inj hr
    exact .inl ⟨fault, rfl, hgaze⟩
  | ok =>
    obtain ⟨v, hhead, hmoved⟩ := Head.gaze_frame u
    dsimp only at hr
    rw [run_bind, hhead] at hr
    have hok : answer = .ok () := (congrArg Prod.fst hr).symm.trans (Walk.answers_frame_real v)
    have hlast : t.gaze = v.gaze := Walk.leaves_gaze_frame.of_run hr
    rw [← hlast, hgaze] at hmoved
    refine .inr ⟨hok, ?_⟩
    obtain heased | ⟨hidle, haimed⟩ := hmoved
    · refine .inr ⟨fun ⟨hidle, hturning⟩ => ?_, heased⟩
      -- a head at rest that is eased stays at rest
      have hphase : t.gaze.phase = .idle := by
        rw [heased, Gaze.eased_phase_of_idle hidle]
      exact absurd (hphase.symm.trans hturning) nofun
    · have harms : Head.Arms s t := ⟨(congrArg Gaze.phase hgaze).symm.trans hidle, congrArg Gaze.phase haimed⟩
      exact .inl ⟨harms, _, hleads.fraction, haimed⟩

/-! ## Turns -/

/-- **Settings of a head that gets on**: it has a range, and with each frame it covers some of the way. -/
structure HeadSettings.Proper (h : HeadSettings ℝ) : Prop where
  range : 0 ≤ h.pitchRange
  rate : 0 < h.pitchRate ∧ h.pitchRate ≤ 1
  tolerance : 0 < h.stopTolerance

namespace Gaze

/-- The fraction of the way that a frame leaves. -/
noncomputable def rest (g : Gaze ℝ) : ℝ := 1 - g.settings.pitchRate

/-- **Where the head is after some frames** in which it is eased. -/
noncomputable def along (g : Gaze ℝ) (k : ℕ) (phase : HeadPhase) : Gaze ℝ :=
  { g with pitch := g.target + g.rest ^ k * (g.pitch - g.target), phase }

/-- After these many frames the rest of the way is within the tolerance. -/
def Near (g : Gaze ℝ) (k : ℕ) : Prop := g.rest ^ k * |g.pitch - g.target| < g.settings.stopTolerance

noncomputable instance (g : Gaze ℝ) (k : ℕ) : Decidable (g.Near k) := inferInstanceAs (Decidable (_ < _))

/-- **A head in its range** that rests near its target only. -/
structure Poised (g : Gaze ℝ) : Prop where
  pitch : |g.pitch| ≤ g.settings.pitchRange
  target : |g.target| ≤ g.settings.pitchRange
  rest : g.phase = .idle → |g.pitch - g.target| < g.settings.stopTolerance

variable {g : Gaze ℝ}

theorem along_zero (g : Gaze ℝ) : g.along 0 g.phase = g := by
  rw [along, pow_zero, one_mul, add_sub_cancel]

theorem abs_along (h : g.settings.Proper) (k : ℕ) (phase : HeadPhase) :
    |(g.along k phase).pitch - g.target| = g.rest ^ k * |g.pitch - g.target| := by
  have hrest : 0 ≤ g.rest ^ k := pow_nonneg (sub_nonneg.2 h.rate.2) k
  rw [along, add_sub_cancel_left, abs_mul, abs_of_nonneg hrest]

/-- **A frame covers the same fraction of the rest**, and brings the head to rest within the tolerance. -/
theorem eased_along (h : g.settings.Proper) (k : ℕ) (phase : HeadPhase) :
    (g.along k phase).eased = g.along (k + 1) (if g.Near (k + 1) then .idle else phase) := by
  have hpitch : Head.approach (g.along k phase).pitch g.target g.settings.pitchRate =
      (g.along (k + 1) phase).pitch := by
    simp only [Head.approach, Scalar.between, along, rest]
    ring
  have hnear : Scalar.magnitude ((g.along (k + 1) phase).pitch - g.target) < g.settings.stopTolerance ↔
      g.Near (k + 1) := by
    rw [Scalar.magnitude_real, abs_along h]
    exact Iff.rfl
  change ({ g with
    pitch := Head.approach (g.along k phase).pitch g.target g.settings.pitchRate
    phase := if Scalar.magnitude (Head.approach (g.along k phase).pitch g.target g.settings.pitchRate - g.target) <
      g.settings.stopTolerance then .idle else phase } : Gaze ℝ) = _
  rw [hpitch]
  simp only [hnear]
  rfl

theorem Poised.eased (hg : g.settings.Proper) (h : g.Poised) : g.eased.Poised where
  pitch := abs_le.2 (Scalar.between_mem (abs_le.1 h.pitch) (abs_le.1 h.target) ⟨hg.rate.1.le, hg.rate.2⟩)
  target := h.target
  rest := by
    have heased : g.eased = g.along 1 (if g.Near 1 then .idle else g.phase) := by
      rw [← eased_along hg, along_zero]
    rw [heased]
    intro hidle
    refine lt_of_eq_of_lt (abs_along hg 1 _) ?_
    by_cases hnear : g.Near 1
    · exact hnear
    · -- the head was at rest before, and has not moved away
      have hbefore : g.phase = .idle := (if_neg hnear).symm.trans hidle
      refine lt_of_le_of_lt (mul_le_of_le_one_left (abs_nonneg _) ?_) (h.rest hbefore)
      rw [pow_one]
      exact sub_le_self 1 hg.rate.1.le

theorem Poised.aimed (hg : g.settings.Proper) (h : g.Poised) {r : ℝ} (hr : 0 ≤ r ∧ r < 1) : (g.aimed r).Poised where
  pitch := h.pitch
  target := by
    have hends : -g.settings.pitchRange ≤ g.settings.pitchRange := neg_le_self hg.range
    exact abs_le.2 (Scalar.between_mem ⟨le_rfl, hends⟩ ⟨hends, le_rfl⟩ ⟨hr.1, hr.2.le⟩)
  rest := nofun

end Gaze

namespace Head

/-- **What a head lives through**, with the number of turns that have been armed and of frames that have answered:
frames of an open brain, which may arm a turn, spare the head one, or fail, and whatever leaves its gaze alone. -/
inductive Runs (ending : Nat → τ) : ℕ → ℕ → Scene ℝ κ τ → Scene ℝ κ τ → Prop
  | refl (s : Scene ℝ κ τ) : Runs ending 0 0 s s
  | aside {m n : ℕ} {s t u : Scene ℝ κ τ} :
    Runs ending m n s t → u.gaze = t.gaze → (t.source.Fair → u.source.Fair) → Runs ending m n s u
  | failed {m n : ℕ} {s t u : Scene ℝ κ τ} {delta : ℝ} {fault : Fault ℝ} :
    Runs ending m n s t → t.brain.closed = false → (Brain.frame ending delta).run t = (.error fault, u) →
    Runs ending m n s u
  | armed {m n : ℕ} {s t u : Scene ℝ κ τ} {delta : ℝ} :
    Runs ending m n s t → t.brain.closed = false → (Brain.frame ending delta).run t = (.ok (), u) → Arms t u →
    Runs ending (m + 1) (n + 1) s u
  | spared {m n : ℕ} {s t u : Scene ℝ κ τ} {delta : ℝ} :
    Runs ending m n s t → t.brain.closed = false → (Brain.frame ending delta).run t = (.ok (), u) → ¬ Arms t u →
    Runs ending m (n + 1) s u

/-- **Where a turn has got to**, if it takes `K` frames: it is under way, or it is over and the head eases on, or
another turn has been armed. -/
inductive Progress (g : Gaze ℝ) (K : ℕ) : ℕ → ℕ → Gaze ℝ → Prop
  | underWay {n : ℕ} : n < K → Progress g K 0 n (g.along n .turning)
  | finished {n : ℕ} : K ≤ n → Progress g K 0 n (g.along n .idle)
  | again {m n : ℕ} {h : Gaze ℝ} : K ≤ n → 0 < m → Progress g K m n h

/-- **A scene whose head is in its range**, with the settings it has and with fair chances. -/
structure InRange (settings : HeadSettings ℝ) (s : Scene ℝ κ τ) : Prop where
  told : s.gaze.settings = settings
  poised : s.gaze.Poised
  fair : s.source.Fair

variable {ending : Nat → τ} {delta : ℝ} {settings : HeadSettings ℝ} {s t : Scene ℝ κ τ} {g : Gaze ℝ} {K m n : ℕ}

/-- **A frame keeps the head in its range.** -/
theorem InRange.frame (hproper : settings.Proper) (h : InRange settings s) (hopen : s.brain.closed = false)
    {answer : Except (Fault ℝ) Unit} (hr : (Brain.frame ending delta).run s = (answer, t)) : InRange settings t := by
  have hg : s.gaze.settings.Proper := h.told ▸ hproper
  have hfair : t.source.Fair := h.fair.leads ((Brain.draws_frame ending delta).of_run hr)
  obtain ⟨fault, -, hgaze⟩ | ⟨-, ⟨-, source, hleads, hgaze⟩ | ⟨-, hgaze⟩⟩ := Brain.gaze_frame hopen hr
  · exact ⟨hgaze ▸ h.told, hgaze ▸ h.poised, hfair⟩
  · exact ⟨hgaze ▸ h.told, hgaze ▸ h.poised.aimed hg (h.fair.fraction hleads), hfair⟩
  · exact ⟨hgaze ▸ h.told, hgaze ▸ h.poised.eased hg, hfair⟩

/-- **A run keeps the head in its range.** -/
theorem Runs.inRange (hproper : settings.Proper) (h : Runs ending m n s t) (hs : InRange settings s) :
    InRange settings t := by
  induction h with
  | refl => exact hs
  | aside _ hgaze hfair ih => exact ⟨hgaze ▸ (ih hs).told, hgaze ▸ (ih hs).poised, hfair (ih hs).fair⟩
  | failed _ hopen hr ih => exact (ih hs).frame hproper hopen hr
  | armed _ hopen hr _ ih => exact (ih hs).frame hproper hopen hr
  | spared _ hopen hr _ ih => exact (ih hs).frame hproper hopen hr

/-- A turn that has not taken all its frames is under way. -/
theorem Progress.turning {h : Gaze ℝ} (hprogress : Progress g K m n h) (hn : n < K) : m = 0 ∧ h.phase = .turning := by
  cases hprogress with
  | underWay => exact ⟨rfl, rfl⟩
  | finished hle => omega
  | again hle => omega

/-- Until another turn is armed the head is on its way, whether or not the turn is over. -/
theorem Progress.along {h : Gaze ℝ} (hprogress : Progress g K 0 n h) :
    ∃ phase, h = g.along n phase ∧ (phase = .turning ↔ n < K) := by
  cases hprogress with
  | underWay hlt => exact ⟨.turning, rfl, iff_of_true rfl hlt⟩
  | finished hle => exact ⟨.idle, rfl, iff_of_false nofun (not_lt.2 hle)⟩
  | again _ hpos => exact absurd hpos (lt_irrefl 0)

/-- **One frame of a turn**: a turn is armed only when the one before is over, and each other frame eases the head. -/
theorem Progress.frame (hg : g.settings.Proper) (hK : IsLeast {k | 1 ≤ k ∧ g.Near k} K) (h : Progress g K m n s.gaze)
    (hopen : s.brain.closed = false) (hr : (Brain.frame ending delta).run s = (.ok (), t)) :
    (Arms s t → Progress g K (m + 1) (n + 1) t.gaze) ∧ (¬ Arms s t → Progress g K m (n + 1) t.gaze) := by
  have hmoved := Brain.gaze_frame hopen hr
  generalize hs : s.gaze = f at h hmoved
  cases h with
  | underWay hn =>
    have hphase : s.brain.state.head = .turning := congrArg Gaze.phase hs
    obtain ⟨fault, hfault, -⟩ | ⟨-, ⟨harms, -⟩ | ⟨hspared, hgaze⟩⟩ := hmoved
    · cases hfault
    · exact absurd (harms.1.symm.trans hphase) nofun
    · refine ⟨fun harms => absurd harms hspared, fun _ => ?_⟩
      rw [hgaze, Gaze.eased_along hg]
      split
      · next hnear => exact .finished (hK.2 ⟨by omega, hnear⟩)
      · next hfar =>
        have hlast : n + 1 ≠ K := fun hlast => hfar (hlast ▸ hK.1.2)
        exact .underWay (by omega)
  | finished hn =>
    refine ⟨fun _ => .again (by omega) (Nat.succ_pos _), fun hspared => ?_⟩
    obtain ⟨fault, hfault, -⟩ | ⟨-, ⟨harms, -⟩ | ⟨-, hgaze⟩⟩ := hmoved
    · cases hfault
    · exact absurd harms hspared
    · rw [hgaze, Gaze.eased_along hg, ite_self]
      exact .finished (by omega)
  | again hn hm => exact ⟨fun _ => .again (by omega) (Nat.succ_pos _), fun _ => .again (by omega) hm⟩

/-- **A run gets on with a turn** with each frame that answers. -/
theorem Runs.progress (hg : g.settings.Proper) (hK : IsLeast {k | 1 ≤ k ∧ g.Near k} K) (h : Runs ending m n s t)
    (hs : s.gaze = g.along 0 .turning) : Progress g K m n t.gaze := by
  induction h with
  | refl s => exact hs ▸ .underWay hK.1.1
  | aside _ hgaze _ ih => exact hgaze ▸ ih hs
  | failed _ hopen hr ih =>
    obtain ⟨fault, -, hgaze⟩ | ⟨hok, -⟩ := Brain.gaze_frame hopen hr
    · exact hgaze ▸ ih hs
    · cases hok
  | armed _ hopen hr harms ih => exact ((ih hs).frame hg hK hopen hr).1 harms
  | spared _ hopen hr hspared ih => exact ((ih hs).frame hg hK hopen hr).2 hspared

/-- The gaze of a fresh brain is at rest on its target. -/
theorem inRange_opening {settings : Settings ℝ} {bounds : Bounds ℝ} {clips : List (Clip ℝ)} {spawn : Vec3 ℝ}
    {avatar : Avatar ℝ} (hproper : settings.head.Proper)
    (hbrain : s.brain = .opening settings bounds clips spawn avatar)
    (hpitch : s.avatar.headPitch = 0) (hfair : s.source.Fair) : InRange settings.head s := by
  have hgaze : s.gaze = ⟨settings.head, .idle, 0, 0⟩ := by
    rw [Scene.gaze, hpitch, hbrain]
    exact congrArg (Gaze.mk settings.head .idle 0) Scalar.zero_literal
  refine ⟨congrArg Gaze.settings hgaze, ?_, hfair⟩
  rw [hgaze]
  have hzero : |(0 : ℝ)| ≤ settings.head.pitchRange := abs_zero.trans_le hproper.range
  refine ⟨hzero, hzero, fun _ => ?_⟩
  rw [sub_zero, abs_zero]
  exact hproper.tolerance

/-- **A frame that arms a turn** is one of an open brain, and leaves the head where it is. -/
theorem aimed_of_arms (harms : Arms s t) {answer : Except (Fault ℝ) Unit}
    (hr : (Brain.frame ending delta).run s = (answer, t)) :
    ∃ source, s.source.Leads source ∧ t.gaze = s.gaze.aimed source.draw.1 := by
  obtain ⟨hidle, hturning⟩ := harms
  cases hclosed : s.brain.closed with
  | true =>
    rw [Brain.run_frame_closed ending delta hclosed] at hr
    cases hr
    cases hidle.symm.trans hturning
  | false =>
    obtain ⟨fault, -, hgaze⟩ | ⟨-, ⟨-, haimed⟩ | ⟨hspared, -⟩⟩ := Brain.gaze_frame hclosed hr
    · cases hidle.symm.trans ((congrArg Gaze.phase hgaze).symm.trans hturning)
    · exact haimed
    · exact absurd ⟨hidle, hturning⟩ hspared

/-- **A frame goes on with a run**, whatever comes of it. -/
theorem Runs.frame {first : Scene ℝ κ τ} (h : Runs ending m n first s) (hopen : s.brain.closed = false) (delta : ℝ) :
    ∃ m' n', Runs ending m' n' first ((Brain.frame ending delta).run s).2 := by
  rcases hr : (Brain.frame ending delta).run s with ⟨fault | ⟨⟩, t⟩
  · exact ⟨m, n, h.failed hopen hr⟩
  · by_cases harms : Arms s t
    · exact ⟨m + 1, n + 1, h.armed hopen hr harms⟩
    · exact ⟨m, n + 1, h.spared hopen hr harms⟩

/-- **Every turn ends**, and the head rests near its target.  On a fresh host head and target stay in the range.  A
frame that arms a turn does not move the head; each frame after it leaves the same fraction of the way, and the turn
ends with the first after which the rest is within the tolerance.  Until then the target stays and the head takes
nothing from the source; afterwards the head eases on until the next turn is armed. -/
theorem turns_end {settings : Settings ℝ} {bounds : Bounds ℝ} {clips : List (Clip ℝ)} {spawn : Vec3 ℝ}
    {avatar : Avatar ℝ} (hbrain : s.brain = .opening settings bounds clips spawn avatar)
    (hpitch : s.avatar.headPitch = 0) (hfair : s.source.Fair) (hrange : 0 ≤ settings.head.pitchRange)
    (hrate : 0 < settings.head.pitchRate ∧ settings.head.pitchRate ≤ 1) (htolerance : 0 < settings.head.stopTolerance)
    (hruns : Runs ending m n s t) :
    |t.avatar.headPitch| ≤ settings.head.pitchRange ∧ |t.brain.state.targetPitch| ≤ settings.head.pitchRange ∧
    (t.brain.state.head = .idle → |t.avatar.headPitch - t.brain.state.targetPitch| < settings.head.stopTolerance) ∧
    ∀ delta answer first, (Brain.frame ending delta).run t = (answer, first) → Arms t first →
      let rest := 1 - settings.head.pitchRate
      let target := first.brain.state.targetPitch
      let way := t.avatar.headPitch - target
      first.avatar.headPitch = t.avatar.headPitch ∧
      ∃ K, IsLeast {k | 1 ≤ k ∧ rest ^ k * |way| < settings.head.stopTolerance} K ∧
        ∀ again k c, Runs ending again k first c →
          (k < K → again = 0 ∧ ∀ delta before, c.brain.closed = false →
            (Brain.overture ending).run (Brain.begin delta c) = (.ok (), before) →
              (Brain.frame ending delta).run c = Walk.frame.run (ease before) ∧ (ease before).source = before.source) ∧
          (again = 0 → c.brain.state.targetPitch = target ∧ c.avatar.headPitch = target + rest ^ k * way ∧
            (c.brain.state.head = .turning ↔ k < K)) := by
  have hproper : settings.head.Proper := ⟨hrange, hrate, htolerance⟩
  have ht : InRange settings.head t := hruns.inRange hproper (inRange_opening hproper hbrain hpitch hfair)
  refine ⟨ht.told ▸ ht.poised.pitch, ht.told ▸ ht.poised.target, fun hidle => ht.told ▸ ht.poised.rest hidle,
    fun delta answer first hr harms => ?_⟩
  obtain ⟨source, -, haimed⟩ := aimed_of_arms harms hr
  have hplace : first.avatar.headPitch = t.avatar.headPitch := congrArg Gaze.pitch haimed
  have htold : first.gaze.settings = settings.head := (congrArg Gaze.settings haimed).trans ht.told
  have hg : first.gaze.settings.Proper := htold ▸ hproper
  intro rest target way
  have hrest : first.gaze.rest = rest := congrArg (fun h : HeadSettings ℝ => 1 - h.pitchRate) htold
  have hway : first.gaze.pitch - first.gaze.target = way := congrArg (· - target) hplace
  have hnear : ∀ k, first.gaze.Near k ↔ rest ^ k * |way| < settings.head.stopTolerance := by
    intro k
    rw [Gaze.Near, hrest, hway, htold]
  have hfraction : 0 ≤ rest ∧ rest < 1 := ⟨sub_nonneg.2 hrate.2, sub_lt_self 1 hrate.1⟩
  obtain ⟨K, hK⟩ := Scalar.exists_isLeast_within hfraction (abs_nonneg way) htolerance
  refine ⟨hplace, K, hK, fun again k c hafter => ?_⟩
  have hstart : first.gaze = first.gaze.along 0 .turning := by
    have hphase : first.gaze.phase = .turning := harms.2
    rw [← hphase, Gaze.along_zero]
  have hprogress : Progress first.gaze K again k c.gaze := by
    refine hafter.progress hg ?_ hstart
    simpa only [hnear] using hK
  constructor
  · intro hk
    obtain ⟨hnone, hturning⟩ := hprogress.turning hk
    exact ⟨hnone, fun delta before hopen hbefore => ⟨Brain.run_frame_turning hopen hturning hbefore, rfl⟩⟩
  · rintro rfl
    obtain ⟨phase, halong, hphase⟩ := hprogress.along
    have hpoint : c.avatar.headPitch = target + first.gaze.rest ^ k * (first.gaze.pitch - first.gaze.target) :=
      congrArg Gaze.pitch halong
    have hhead : c.brain.state.head = phase := congrArg Gaze.phase halong
    rw [hrest, hway] at hpoint
    rw [hhead]
    exact ⟨congrArg Gaze.target halong, hpoint, hphase⟩

/-- A first frame that arms a turn of fifteen degrees, which has come within the tolerance when it ends. -/
theorem turns_end_fresh :
    let settings : Settings ℝ := { Settings.standard with view := ⟨false, 60.0⟩ }
    let s : Scene ℝ Unit ℕ := { Host.fresh with
      source := .scripted [0.5, 0.5, 0.0, 0.75] 0.5
      brain := .opening settings .standard [] .zero .fresh }
    ∃ first, (Brain.frame id 0.1).run s = (.ok (), first) ∧ Arms s first ∧ first.brain.state.targetPitch = 15 ∧
      ∃ K, IsLeast {k | 1 ≤ k ∧ (1 - 0.2 : ℝ) ^ k * |0 - 15| < 0.05} K ∧ ∀ c, Runs id 0 K first c →
        c.brain.state.head = .idle ∧ c.avatar.headPitch = 15 + (1 - 0.2) ^ K * (0 - 15) := by
  intro settings s
  let begun : Scene ℝ Unit ℕ := Brain.begin 0.1 s
  let aim : Scene ℝ Unit ℕ := aimed begun.drawn.drawn.drawn
  have hquiet : (Brain.overture id).run begun = (.ok (), begun.drawn.drawn) :=
    Brain.run_overture_quiet id rfl rfl (show ¬ (0.5 : ℝ) < 0.009 by norm_num) (show ¬ (0.5 : ℝ) < 0.0 by norm_num)
  have hhead : Head.frame.run begun.drawn.drawn = (.ok (), aim) := by
    rw [Head.run_frame]
    exact if_pos (show (0.0 : ℝ) < 0.05 by norm_num)
  have hwalk : Walk.frame.run aim = (.ok (), aim.drawn) := by
    rw [Walk.run_frame]
    exact if_neg (show ¬ (0.5 : ℝ) < 0.005 by norm_num)
  have hrun : (Brain.frame id 0.1).run s = (.ok (), aim.drawn) := by
    rw [Brain.run_frame_open id 0.1 rfl, Brain.behave_eq_overture, run_bind, hquiet]
    change (do Head.frame; Walk.frame : Play ℝ Unit ℕ Unit).run begun.drawn.drawn = _
    rw [run_bind, hhead]
    exact hwalk
  have hfair : s.source.Fair := Source.fair_scripted fun r hr => by
    simp only [List.mem_cons, List.not_mem_nil, or_false] at hr
    rcases hr with rfl | rfl | rfl | rfl | rfl <;> norm_num
  have htarget : aim.drawn.brain.state.targetPitch = 15 := by
    change (-30.0 : ℝ) + (30.0 - -30.0) * 0.75 = 15
    norm_num
  have hbrain : s.brain = .opening settings .standard [] .zero .fresh := rfl
  have hpitch : s.avatar.headPitch = 0 := Scalar.zero_literal
  have harms : Arms s aim.drawn := ⟨rfl, rfl⟩
  obtain ⟨-, -, -, hturn⟩ := turns_end hbrain hpitch hfair (show (0 : ℝ) ≤ 30.0 by norm_num)
    (show (0 : ℝ) < 0.2 ∧ (0.2 : ℝ) ≤ 1 by norm_num) (show (0 : ℝ) < 0.05 by norm_num) (Runs.refl s)
  obtain ⟨-, K, hK, hafter⟩ := hturn 0.1 (.ok ()) aim.drawn hrun harms
  rw [htarget, hpitch] at hK hafter
  refine ⟨aim.drawn, hrun, harms, htarget, K, hK, fun c hc => ?_⟩
  obtain ⟨-, hplace, hphase⟩ := (hafter 0 K c hc).2 rfl
  refine ⟨?_, hplace⟩
  cases hhead : c.brain.state.head with
  | idle => rfl
  | turning => exact absurd (hphase.1 hhead) (lt_irrefl K)

end Head

/-! ## Sessions -/

namespace Bot

variable {config : BotConfig ℝ} {source : Source ℝ}

/-- A frame of a stage with one bot goes on with the run of its head: what comes before its brain leaves the gaze
alone. -/
theorem Shows.runs_step {s : BotStage ℝ Empty} {c first : Scene ℝ (Callback Empty) (Alarm Empty)} {m n : ℕ}
    (h : Shows s c) (hc : c.Lone) (hruns : Head.Runs (.waveEnd 0) m n first c) (delta : ℝ) :
    ∃ d m' n', Shows ((step .absent delta).run s).2 d ∧ d.Lone ∧ Head.Runs (.waveEnd 0) m' n' first d := by
  by_cases hd : delta < 0.0
  · rw [run_step_refused .absent hd s]
    exact ⟨c, m, n, h, hc, hruns⟩
  · obtain ⟨u, hrings, -, t, hr, ht⟩ := h.run_step hc hd
    have hu : u.Lone := (hc.ticked delta).rings hrings
    have hbefore : Head.Runs (.waveEnd 0) m n first u := by
      obtain ⟨_, _, _, _, _, _, -, -, -, rfl⟩ := hrings
      exact hruns.aside rfl id
    obtain ⟨m', n', hafter⟩ := hbefore.frame hu.opened delta
    rw [hr]
    exact ⟨_, m', n', ht, hu.frame delta, hafter⟩

theorem Shows.runs_steps {first : Scene ℝ (Callback Empty) (Alarm Empty)} : ∀ (deltas : List ℝ) {s : BotStage ℝ Empty}
    {c : Scene ℝ (Callback Empty) (Alarm Empty)} {m n : ℕ}, Shows s c → c.Lone → Head.Runs (.waveEnd 0) m n first c →
    ∃ d m' n', Shows (steps .absent deltas s) d ∧ Head.Runs (.waveEnd 0) m' n' first d
  | [], _, c, m, n, h, _, hruns => ⟨c, m, n, h, hruns⟩
  | delta :: deltas, _, _, _, _, h, hc, hruns => by
    obtain ⟨d, m, n, hd, hlone, hafter⟩ := h.runs_step hc hruns delta
    exact runs_steps deltas hd hlone hafter

/-- **Each session on a fresh host is a run of its head**, from a fresh brain and a head that looks straight ahead. -/
theorem head_runs_of_start {first : BotStage ℝ Empty} {answer : Bool}
    (h : (start config).run (waiting source) = (.ok answer, first)) (deltas : List ℝ) :
    ∃ c d m n, (∃ clips spawn avatar, c.brain = .opening config.settings config.spawn clips spawn avatar) ∧
      c.avatar.headPitch = 0 ∧ source.Leads c.source ∧ Shows (steps .absent deltas first) d ∧
      Head.Runs (.waveEnd 0) m n c d := by
  obtain ⟨c, hshows, hlone, -, -, hleads, spawn, avatar, hbrain⟩ := shows_of_start h
  obtain ⟨d, m, n, hd, hruns⟩ := hshows.runs_steps deltas hlone (.refl c)
  have hpitch : c.avatar.headPitch = 0 := by
    have hscene : c.avatar = first.avatar := congrArg (·.avatar) hshows.scene.symm
    obtain ⟨source', appearance, journal, -, rfl⟩ := entered_of_start h
    rw [hscene]
    exact Scalar.zero_literal
  exact ⟨c, d, m, n, ⟨_, spawn, avatar, hbrain⟩, hpitch, hleads, hd, hruns⟩

end Bot
end Bystander
