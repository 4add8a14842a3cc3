import Bystander.Proofs.Arms
/-! # Nobody looks at the timers of others

Timers are taken out from the front of the queue and put in by their moment, so some can be removed beforehand without
the others noticing (`Scheduler.without`).  A play does the same after the removal as before it, and leaves behind the
same, less what was removed (`Act.Follows`): none of the behaviours reads the queue, and a wave puts the timer of its
end where it would have been.
-/
namespace Bystander

open Scalar (Defined)
open Act (run_bind run_get_bind)

/-! ## Two runs of one action -/

namespace Act

variable {ε σ β γ : Type} {f : σ → σ} {s : σ}

/-- **An action does not notice a change** of the state that it starts from: it answers the same, and leaves behind what
it would have left, changed in the same way. -/
def Follows (f : σ → σ) (act : Act ε σ β) (s : σ) : Prop := act.run (f s) = ((act.run s).1, f (act.run s).2)

theorem follows_pure (b : β) : Follows f (pure b : Act ε σ β) s := rfl

theorem follows_ofExcept (result : Except ε β) : Follows f (ofExcept result : Act ε σ β) s := by
  unfold Follows
  rw [run_ofExcept, run_ofExcept]

theorem follows_modify {g : σ → σ} (h : g (f s) = f (g s)) : Follows f (modify g : Act ε σ Unit) s := by
  unfold Follows
  rw [run_modify, run_modify, h]

theorem Follows.bind {act : Act ε σ β} {next : β → Act ε σ γ} (h : Follows f act s)
    (hnext : ∀ b t, act.run s = (.ok b, t) → Follows f (next b) t) : Follows f (act >>= next) s := by
  unfold Follows at h ⊢
  rw [run_bind, run_bind, h]
  rcases hr : act.run s with ⟨fault | b, t⟩
  · rfl
  · exact hnext b t hr

/-- What an action reads first may be anything in which the change does not show. -/
theorem follows_get_bind {next : σ → Act ε σ β} (hsame : next (f s) = next s) (h : Follows f (next s) s) :
    Follows f (get >>= next) s := by
  unfold Follows at h ⊢
  rw [run_get_bind, run_get_bind, hsame]
  exact h

theorem Follows.map {act : Act ε σ β} (h : Follows f act s) (g : β → γ) : Follows f (g <$> act) s := by
  unfold Follows at h ⊢
  rw [run_map, run_map, h]

theorem follows_forIn {δ : Type} {body : δ → β → Act ε σ (ForInStep β)} : ∀ (l : List δ) {b : β} {s : σ},
    (∀ d b s, Follows f (body d b) s) → Follows f (forIn l b body) s
  | [], b, s, _ => by
    rw [List.forIn_nil]
    exact follows_pure b
  | d :: l, b, s, h => by
    rw [List.forIn_cons]
    refine (h d b s).bind fun result t _ => ?_
    cases result with
    | done b => exact follows_pure b
    | yield b => exact follows_forIn l h

end Act

open Act (Follows follows_pure follows_ofExcept follows_modify follows_get_bind follows_forIn)

variable {α κ τ : Type} [Scalar α]

/-! ## Timers less some -/

namespace Scheduler

/-- **A scheduler in order for as long as its clock is defined**; after that no timer falls due any more. -/
def Sensible (s : Scheduler α κ τ) : Prop := Defined s.now → s.Ordered

def without (p : τ → Bool) (s : Scheduler α κ τ) : Scheduler α κ τ :=
  { s with timers := s.timers.filter fun t => !p t.purpose }

theorem enqueue_of_lt {t : Timer α τ} : ∀ {timers : List (Timer α τ)}, (∀ u ∈ timers, t.due < u.due) →
    enqueue t timers = t :: timers
  | [], _ => rfl
  | head :: _, h => if_pos (h head List.mem_cons_self)

/-- A timer is put in the same place among some of the timers, if those that it precedes are the last ones. -/
theorem enqueue_filter {t : Timer α τ} {p : τ → Bool} (hp : p t.purpose = false) :
    ∀ {timers : List (Timer α τ)}, timers.Pairwise (fun u v => t.due < u.due → t.due < v.due) →
      (enqueue t timers).filter (fun u => !p u.purpose) = enqueue t (timers.filter fun u => !p u.purpose)
  | [], _ => by
    rw [enqueue, List.filter_cons, hp]
    rfl
  | head :: rest, hlast => by
    by_cases hlt : t.due < head.due
    · -- then it precedes all that follow, and so the first of those that are left
      have hall : ∀ u ∈ (head :: rest).filter fun u => !p u.purpose, t.due < u.due := by
        intro u hu
        rcases List.mem_cons.1 (List.mem_filter.1 hu).1 with rfl | hrest
        · exact hlt
        · exact List.rel_of_pairwise_cons hlast hrest hlt
      rw [enqueue, if_pos hlt, enqueue_of_lt hall, List.filter_cons, hp]
      rfl
    · rw [enqueue, if_neg hlt, List.filter_cons, List.filter_cons, enqueue_filter hp hlast.of_cons]
      split
      · rw [enqueue, if_neg hlt]
      · rfl

section Operations

variable [Timekeeping α] [Strict α] {s s' : Scheduler α κ τ} {p : τ → Bool}

/-- **A timer that is not removed is registered alike** among all timers and among those that are left. -/
theorem setTimeout_without (hs : s.Sensible) {purpose : τ} (hp : p purpose = false) (delay : α) :
    (s.without p).setTimeout purpose delay = (s.setTimeout purpose delay).map (without p) := by
  unfold setTimeout
  cases ha : acceptsDelay delay with
  | false => rfl
  | true =>
    have hlast : s.timers.Pairwise fun u v => s.now + delay / 1000.0 < u.due → s.now + delay / 1000.0 < v.due := by
      by_cases hnow : Defined s.now
      · have hordered := hs hnow
        have hdue := Timekeeping.defined_wait hnow ((acceptsDelay_iff delay).1 ha)
        refine hordered.sorted.imp_of_mem fun {u v} hu hv hbefore hlt => ?_
        exact Timekeeping.lt_of_lt_of_le hdue (hordered.dues u hu) (hordered.dues v hv) hlt hbefore.due_le
      · -- what falls due at an undefined moment precedes nothing
        refine List.pairwise_of_forall fun u v hlt => ?_
        exact absurd (Strict.defined_of_add (Strict.defined_of_lt hlt)).1 hnow
    have hqueue := enqueue_filter (t := ⟨s.now + delay / 1000.0, s.nextSerial, purpose⟩) hp hlast
    exact congrArg (fun timers => Except.ok { s with timers, nextSerial := s.nextSerial + 1 }) hqueue.symm

omit [Strict α] in
theorem Sensible.setTimeout (hs : s.Sensible) {purpose : τ} {delay : α} (h : s.setTimeout purpose delay = .ok s') :
    s'.Sensible := by
  intro hnow
  obtain ⟨-, rfl⟩ := setTimeout_eq_ok h
  exact (hs hnow).setTimeout h

omit [Timekeeping α] in
theorem Sensible.advance (hs : s.Sensible) {delta : α} (h : s.advance delta = .ok s') : s'.Sensible := by
  obtain ⟨-, rfl⟩ := advance_eq_ok h
  intro hnow
  have hordered := hs (Strict.defined_of_add hnow).1
  exact ⟨hnow, hordered.dues, hordered.sorted, hordered.numbered⟩

omit [Timekeeping α] [Strict α] in
theorem Sensible.takeDue (hs : s.Sensible) {t : Timer α τ} (h : s.takeDue = some (t, s')) : s'.Sensible := by
  intro hnow
  obtain ⟨rest, -, -, rfl⟩ := takeDue_eq_some h
  exact (hs hnow).takeDue h

omit [Timekeeping α] [Strict α] in
theorem Sensible.connect [BEq κ] (hs : s.Sensible) (k : κ) : (s.connect k).Sensible := by
  intro hnow
  rw [now_connect] at hnow
  exact (hs hnow).connect k

omit [Strict α] in
theorem Sensible.asked (hs : s.Sensible) (purpose : τ) (delay : α) : (s.asked purpose delay).Sensible := by
  unfold Scheduler.asked
  cases h : s.setTimeout purpose delay with
  | error fault => exact hs
  | ok s' => exact hs.setTimeout h

/-- **Where no timer can be taken** none can be taken after a removal either. -/
theorem takeDue_without_eq_none (hs : s.Sensible) (h : s.takeDue = none) : (s.without p).takeDue = none := by
  have hnone : ∀ u ∈ s.timers, ¬ u.due ≤ s.now := by
    intro u hu hdue
    exact (hs (Strict.defined_of_le hdue)).not_due_of_takeDue h u hu hdue
  cases hq : (s.without p).timers with
  | nil => rw [Scheduler.takeDue, hq]
  | cons u rest =>
    have hleft : u ∈ (s.without p).timers := hq ▸ List.mem_cons_self
    have hu : u ∈ s.timers := (List.mem_filter.1 hleft).1
    rw [Scheduler.takeDue, hq]
    exact if_neg (hnone u hu)

omit [Timekeeping α] [Strict α] in
/-- A timer that is not removed is taken alike. -/
theorem takeDue_without_eq_some {t : Timer α τ} (h : s.takeDue = some (t, s')) (hp : p t.purpose = false) :
    (s.without p).takeDue = some (t, s'.without p) := by
  obtain ⟨rest, hq, hdue, rfl⟩ := takeDue_eq_some h
  have hfiltered : (s.without p).timers = t :: rest.filter fun t => !p t.purpose := by
    change s.timers.filter _ = _
    rw [hq, List.filter_cons, hp]
    rfl
  rw [Scheduler.takeDue, hfiltered]
  exact if_pos hdue

omit [Timekeeping α] [Strict α] in
/-- A timer that is removed makes no difference when it is taken. -/
theorem without_of_takeDue {t : Timer α τ} (h : s.takeDue = some (t, s')) (hp : p t.purpose = true) :
    s'.without p = s.without p := by
  obtain ⟨rest, hq, hdue, rfl⟩ := takeDue_eq_some h
  unfold without
  rw [hq, List.filter_cons, hp]
  rfl

omit [Timekeeping α] [Strict α] [Scalar α] in
theorem connect_without [BEq κ] (k : κ) : (s.without p).connect k = (s.connect k).without p := by
  unfold connect
  change (if s.callbacks.contains k then _ else _) = _
  split <;> rfl

end Operations

end Scheduler

/-! ## The behaviours -/

namespace Scene

def without (p : τ → Bool) (s : Scene α κ τ) : Scene α κ τ := { s with scheduler := s.scheduler.without p }

variable {p : τ → Bool} {s : Scene α κ τ}

omit [Scalar α] in
theorem follows_note (event : Event α) : Follows (without p) (note event) s := rfl

omit [Scalar α] in
theorem follows_become (f : BotState α → BotState α) : Follows (without p) (become f) s := rfl

omit [Scalar α] in
theorem follows_pose (f : Avatar α → Avatar α) : Follows (without p) (pose f) s := rfl

theorem follows_draw : Follows (without p) draw s := rfl

theorem follows_uniform (low high : α) : Follows (without p) (uniform low high) s := rfl

end Scene

open Scene (follows_note follows_become follows_pose follows_draw follows_uniform)

variable {p : τ → Bool} {s : Scene α κ τ}

theorem View.follows_frame : Follows (Scene.without p) (View.frame : Play α κ τ Bool) s := by
  refine follows_get_bind rfl ?_
  dsimp only
  split
  · exact follows_pure _
  · refine Follows.bind (follows_ofExcept _) fun pause t _ => ?_
    split
    · exact follows_pure _
    · exact Follows.bind (follows_modify rfl) fun _ _ _ => follows_pure _

theorem Chatter.follows_play : Follows (Scene.without p) (Chatter.play : Play α κ τ (Option Nat)) s := by
  refine follows_get_bind rfl ?_
  dsimp only
  split
  · exact follows_pure _
  · refine Follows.bind follows_draw fun r t _ => Follows.bind (follows_ofExcept _) fun index u _ => ?_
    split
    · exact follows_pure _
    · refine Follows.bind (follows_modify rfl) fun _ _ _ => ?_
      exact Follows.bind (follows_note _) fun _ _ _ => follows_pure _

theorem Chatter.follows_frame : Follows (Scene.without p) (Chatter.frame : Play α κ τ (Option Nat)) s := by
  refine Follows.bind follows_draw fun r t _ => follows_get_bind rfl ?_
  split
  · exact Chatter.follows_play
  · exact follows_pure _

theorem Head.follows_aim : Follows (Scene.without p) (Head.aim : Play α κ τ Unit) s := by
  refine follows_get_bind rfl ?_
  refine Follows.bind (follows_uniform _ _) fun target _ _ => ?_
  exact Follows.bind (follows_become _) fun _ _ _ => follows_note _

theorem Head.follows_frame : Follows (Scene.without p) (Head.frame : Play α κ τ Unit) s := by
  refine follows_get_bind rfl ?_
  split
  · exact follows_modify rfl
  · refine Follows.bind follows_draw fun r t _ => follows_get_bind rfl ?_
    split
    · exact Head.follows_aim
    · exact follows_modify rfl

theorem Walk.follows_pickTarget : Follows (Scene.without p) (Walk.pickTarget : Play α κ τ Unit) s := by
  unfold Act.Follows
  rw [Walk.run_pickTarget, Walk.run_pickTarget, show nextYaw (s.without p) = nextYaw s from rfl]
  cases Quat.angleAxis (nextYaw s) (.up : Vec3 α) <;> rfl

theorem Walk.follows_swing (t : α) : Follows (Scene.without p) (Walk.swing t : Play α κ τ Unit) s :=
  follows_get_bind rfl (Follows.bind (follows_ofExcept _) fun _ _ _ => follows_pose _)

theorem Walk.follows_stride : Follows (Scene.without p) (Walk.stride : Play α κ τ Unit) s := by
  refine follows_get_bind rfl (Follows.bind (Walk.follows_swing _) fun _ _ _ => follows_get_bind rfl ?_)
  refine Follows.bind (follows_ofExcept _) fun orientation _ _ => ?_
  refine Follows.bind (follows_pose _) fun _ _ _ => Follows.bind (follows_become _) fun _ _ _ => ?_
  split
  · refine Follows.bind (follows_become _) fun _ _ _ => ?_
    exact Follows.bind (follows_pose _) fun _ _ _ => follows_note _
  · exact follows_pure _

theorem Walk.follows_frame : Follows (Scene.without p) (Walk.frame : Play α κ τ Unit) s := by
  refine follows_get_bind rfl ?_
  split
  · exact Walk.follows_stride
  · refine Follows.bind follows_draw fun r t _ => follows_get_bind rfl ?_
    split
    · exact Walk.follows_pickTarget
    · exact follows_pure _

omit [Scalar α] in
theorem Wave.follows_stop (number : Option Int) :
    Follows (Scene.without p) (Wave.stop number : Play α κ τ Unit) s := by
  unfold Act.Follows
  cases hclosed : s.brain.closed with
  | true => rw [run_stop_closed number hclosed, run_stop_closed (s := s.without p) number hclosed]
  | false =>
    cases hc : concerns number s.brain.state.episode with
    | true =>
      rw [run_stop_concerned hclosed hc, run_stop_concerned (s := s.without p) hclosed hc]
      rfl
    | false =>
      obtain ⟨n, hn, hr⟩ := run_stop_stale hclosed hc
      obtain ⟨m, hm, hr'⟩ := run_stop_stale (s := s.without p) hclosed hc
      obtain rfl : n = m := Option.some.inj (hn.symm.trans hm)
      rw [hr, hr']
      rfl

theorem Wave.follows_roll (episode : Episode α) :
    Follows (Scene.without p) (Wave.roll episode : Play α κ τ Unit) s := by
  refine follows_get_bind rfl (Follows.bind (follows_ofExcept _) fun rolls _ _ => ?_)
  refine Follows.bind (follows_forIn rolls fun pair _ _ => ?_) fun _ _ _ => follows_pure _
  exact Follows.bind (follows_pose _) fun _ _ _ => follows_pure _

section Waves

variable [Timekeeping α] [Strict α] {ending : Nat → τ} (hending : ∀ n, p (ending n) = false)

include hending

/-- **A wave starts alike**: the timer of its end is not one of those that were removed. -/
theorem Wave.follows_start (hs : s.scheduler.Sensible) :
    Follows (Scene.without p) (Wave.start ending : Play α κ τ (Episode α)) s := by
  unfold Act.Follows
  have htimeout : (s.without p).scheduler.setTimeout (ending ((s.without p).brain.arm.count + 1))
      ((s.without p).brain.arm.nextDuration (s.without p).source) =
        (s.scheduler.setTimeout (ending (s.brain.arm.count + 1)) (s.brain.arm.nextDuration s.source)).map
          (Scheduler.without p) :=
    Scheduler.setTimeout_without hs (hending _) _
  rw [Wave.run_start, Wave.run_start, htimeout]
  cases s.scheduler.setTimeout (ending (s.brain.arm.count + 1)) (s.brain.arm.nextDuration s.source) <;> rfl

theorem Wave.follows_frame (hs : s.scheduler.Sensible) :
    Follows (Scene.without p) (Wave.frame ending : Play α κ τ Unit) s := by
  refine follows_get_bind rfl ?_
  split
  · refine Follows.bind follows_draw fun r t ht => ?_
    split
    · rw [Scene.run_draw] at ht
      cases ht
      exact (Wave.follows_start hending (by exact hs)).map _
    · exact follows_pure _
  · exact follows_pure _
  · exact Wave.follows_roll _

/-- **A frame of a brain goes alike** without timers that are not its own. -/
theorem Brain.follows_frame (delta : α) (hs : s.scheduler.Sensible) :
    Follows (Scene.without p) (Brain.frame ending delta : Play α κ τ Unit) s := by
  refine follows_get_bind rfl ?_
  split
  · exact follows_pure _
  · refine Follows.bind (follows_modify rfl) fun _ c hc => ?_
    rw [Act.run_modify] at hc
    cases hc
    refine Follows.bind (View.follows_frame.map _) fun _ d hd => ?_
    have hview : ∀ c : Scene α κ τ, View.Touches c ((discard View.frame).run c).2 := View.obeys_frame.map _
    have htouches := hview (begin delta s)
    rw [hd] at htouches
    obtain ⟨_, _, _, -, rfl⟩ := htouches
    refine Follows.bind (Wave.follows_frame hending (by exact hs)) fun _ _ _ => ?_
    refine Follows.bind (Chatter.follows_frame.map _) fun _ _ _ => ?_
    exact Follows.bind Head.follows_frame fun _ _ _ => Walk.follows_frame

end Waves

omit [Scalar α] in
theorem Brain.follows_close : Follows (Scene.without p) (Brain.close : Play α κ τ Unit) s := by
  refine follows_get_bind rfl ?_
  dsimp only
  split
  · exact follows_pure _
  · exact Follows.bind (follows_modify rfl) fun _ _ _ => follows_note _

end Bystander
