import Bystander.Proofs.Arrangement
import Bystander.Proofs.FrameLoop
/-! # A loop of frames, told frame by frame

What a frame does is told without a limit on the timers that it fires: which timers were due, which of them fired,
which callbacks were called, and the fault that ended it (`Frame`).  If all that callbacks do is to arrange things, every
stage has such a frame, and it is the one that is run, whatever the limit (`Frame.run_step`).
-/
namespace Bystander

open Act (run_bind run_get_bind run_orElse)
open Scalar (Defined)

variable {α κ τ ρ : Type} [Scalar α]

/-- What happens in one frame. -/
structure FrameRecord (α κ τ : Type) where
  /-- The timers that are due when the clock has moved on. -/
  due : List (Timer α τ)
  fired : List (Timer α τ)
  called : List κ
  fault : Option (Fault α)
  /-- The timers that are left when it ends. -/
  pending : List (Timer α τ)

namespace Stage

def answer : Option (Fault α) → Except (Fault α) Unit
  | none => .ok ()
  | some fault => .error fault

/-- **Firing due timers**, the first one again and again, until none is due or one fails. -/
inductive Fires (h : Handlers α κ τ ρ) :
    Stage α κ τ ρ → List (Timer α τ) → Option (Fault α) → Stage α κ τ ρ → Prop
  | done {s : Stage α κ τ ρ} (hnone : s.scheduler.takeDue = none) : Fires h s [] none s
  | failed {s t : Stage α κ τ ρ} {timer : Timer α τ} {scheduler : Scheduler α κ τ} {fault : Fault α}
    (hdue : s.scheduler.takeDue = some (timer, scheduler))
    (hrun : (h.onTimer timer.purpose).run { s with scheduler } = (.error fault, t)) :
    Fires h s [timer] (some fault) t
  | fired {s t u : Stage α κ τ ρ} {timer : Timer α τ} {scheduler : Scheduler α κ τ} {rest : List (Timer α τ)}
    {fault : Option (Fault α)} (hdue : s.scheduler.takeDue = some (timer, scheduler))
    (hrun : (h.onTimer timer.purpose).run { s with scheduler } = (.ok (), t)) (hrest : Fires h t rest fault u) :
    Fires h s (timer :: rest) fault u

/-- **Calling callbacks** one after the other, until all are called or one fails. -/
inductive Calls (h : Handlers α κ τ ρ) (delta : α) :
    List κ → Stage α κ τ ρ → List κ → Option (Fault α) → Stage α κ τ ρ → Prop
  | done (s : Stage α κ τ ρ) : Calls h delta [] s [] none s
  | failed {s t : Stage α κ τ ρ} {k : κ} {rest : List κ} {fault : Fault α}
    (hrun : (h.onFrame k delta).run s = (.error fault, t)) : Calls h delta (k :: rest) s [k] (some fault) t
  | called {s t u : Stage α κ τ ρ} {k : κ} {rest called : List κ} {fault : Option (Fault α)}
    (hrun : (h.onFrame k delta).run s = (.ok (), t)) (hrest : Calls h delta rest t called fault u) :
    Calls h delta (k :: rest) s (k :: called) fault u

/-- **One frame**: the clock moves on, timers fire, and if none fails the connected callbacks are called. -/
inductive Frame (h : Handlers α κ τ ρ) (delta : α) (s : Stage α κ τ ρ) : FrameRecord α κ τ → Stage α κ τ ρ → Prop
  | stopped {scheduler : Scheduler α κ τ} {fired : List (Timer α τ)} {fault : Fault α} {t : Stage α κ τ ρ}
    (hadvance : s.scheduler.advance delta = .ok scheduler)
    (hfires : Fires h { s with scheduler } fired (some fault) t) :
    Frame h delta s ⟨scheduler.timers.filter fun u => decide (u.due ≤ scheduler.now), fired, [], some fault,
      t.scheduler.timers⟩ t
  | passed {scheduler : Scheduler α κ τ} {fired : List (Timer α τ)} {called : List κ} {fault : Option (Fault α)}
    {t u : Stage α κ τ ρ} (hadvance : s.scheduler.advance delta = .ok scheduler)
    (hfires : Fires h { s with scheduler } fired none t)
    (hcalls : Calls h delta t.scheduler.callbacks t called fault u) :
    Frame h delta s ⟨scheduler.timers.filter fun u => decide (u.due ≤ scheduler.now), fired, called, fault,
      u.scheduler.timers⟩ u

def noted (event : Event α) (s : Stage α κ τ ρ) : Stage α κ τ ρ := { s with journal := s.journal.note event }

/-- The stage on which the fault of a frame is written down, if it failed. -/
def reported (fault : Option (Fault α)) (s : Stage α κ τ ρ) : Stage α κ τ ρ :=
  match fault with
  | none => s
  | some fault => s.noted (.frameFailed fault)

/-- **Frames one after the other**, each a step whatever its limit; the fault of one that fails is written down. -/
inductive Frames (h : Handlers α κ τ ρ) (delta : α) :
    Stage α κ τ ρ → List (FrameRecord α κ τ) → Stage α κ τ ρ → Prop
  | nil (s : Stage α κ τ ρ) : Frames h delta s [] s
  | cons {s t u : Stage α κ τ ρ} {r : FrameRecord α κ τ} {rs : List (FrameRecord α κ τ)}
    (hframe : Frame h delta s r t) (hstep : ∀ spare, (step h spare delta).run s = (answer r.fault, t))
    (hrest : Frames h delta (t.reported r.fault) rs u) : Frames h delta s (r :: rs) u

/-- What the clock shows after some frames. -/
def clockAfter (delta : α) : Nat → α → α
  | 0, now => now
  | n + 1, now => clockAfter delta n (now + delta)

omit [Scalar α] in
theorem scheduler_reported (fault : Option (Fault α)) (s : Stage α κ τ ρ) :
    (s.reported fault).scheduler = s.scheduler := by
  cases fault <;> rfl

omit [Scalar α] in
theorem failures_reported (fault : Option (Fault α)) (s : Stage α κ τ ρ) :
    (s.reported fault).journal.failures = s.journal.failures ++ fault.toList := by
  cases fault with
  | none => exact (List.append_nil _).symm
  | some fault => exact Journal.failures_note_failed fault s.journal

/-! ## What is told is what is run -/

section Runs

variable {h : Handlers α κ τ ρ} {delta : α} {s t : Stage α κ τ ρ} {fault : Option (Fault α)}

theorem Fires.run_fireDue {fired : List (Timer α τ)} (hfires : Fires h s fired fault t) :
    ∀ {limit : Nat}, fired.length ≤ limit → (fireDue h limit).run s = (answer fault, t) := by
  induction hfires with
  | @done s hnone =>
    intro limit _
    cases limit with
    | zero => rw [run_fireDue_zero, hnone]; rfl
    | succ limit => rw [run_fireDue_succ, hnone]; rfl
  | failed hdue hrun =>
    intro limit hlimit
    obtain ⟨limit, rfl⟩ := Nat.exists_eq_succ_of_ne_zero (Nat.ne_of_gt hlimit)
    exact run_fireDue_failed limit hdue hrun
  | fired hdue hrun _ ih =>
    intro limit hlimit
    obtain ⟨limit, rfl⟩ := Nat.exists_eq_succ_of_ne_zero (Nat.ne_of_gt (Nat.zero_lt_of_lt hlimit))
    rw [run_fireDue_succ, hdue]
    dsimp only
    rw [hrun]
    exact ih (Nat.le_of_succ_le_succ hlimit)

omit [Scalar α] in
theorem Calls.run_callAll {callbacks called : List κ} (hcalls : Calls h delta callbacks s called fault t) :
    (callAll h delta callbacks).run s = (answer fault, t) := by
  induction hcalls with
  | done s => rfl
  | failed hrun => rw [callAll, run_bind, hrun]; rfl
  | called hrun _ ih =>
    rw [callAll, run_bind, hrun]
    exact ih

end Runs

/-! ## What frames keep -/

/-- What the timers and callbacks of a frame leave as it is. -/
structure Keeps (s t : Stage α κ τ ρ) : Prop where
  now : t.scheduler.now = s.scheduler.now
  frameCount : t.scheduler.frameCount = s.scheduler.frameCount
  failures : t.journal.failures = s.journal.failures
  sound : s.scheduler.Sound → t.scheduler.Sound

omit [Scalar α] in
theorem Keeps.refl [Scalar α] (s : Stage α κ τ ρ) : Keeps s s := ⟨rfl, rfl, rfl, id⟩

theorem Keeps.trans {s t u : Stage α κ τ ρ} (hst : Keeps s t) (htu : Keeps t u) : Keeps s u :=
  ⟨htu.now.trans hst.now, htu.frameCount.trans hst.frameCount, htu.failures.trans hst.failures,
    fun hs => htu.sound (hst.sound hs)⟩

theorem Keeps.of_takeDue {s : Stage α κ τ ρ} {timer : Timer α τ} {scheduler : Scheduler α κ τ}
    (hdue : s.scheduler.takeDue = some (timer, scheduler)) : Keeps s { s with scheduler } := by
  have hsound (hs : s.scheduler.Sound) : scheduler.Sound := hs.takeDue hdue
  obtain ⟨rest, -, -, rfl⟩ := Scheduler.takeDue_eq_some hdue
  exact ⟨rfl, rfl, rfl, hsound⟩

theorem Arranges.keeps [Timekeeping α] [BEq κ] {s t : Stage α κ τ ρ} (h : s.Arranges t) : Keeps s t :=
  ⟨h.scheduler.clock.1, h.scheduler.clock.2, h.failures, h.scheduler.sound⟩

theorem splits_of_takeDue [Timekeeping α] [BEq κ] {s t : Stage α κ τ ρ} {timer : Timer α τ}
    {scheduler : Scheduler α κ τ} (hdue : s.scheduler.takeDue = some (timer, scheduler))
    (harranges : Arranges { s with scheduler } t) {due later : List (Timer α τ)} (hs : s.scheduler.Splits due later) :
    ∃ rest later', due = timer :: rest ∧ t.scheduler.Splits rest later' := by
  cases due with
  | nil => cases hs.takeDue_nil.symm.trans hdue
  | cons first rest =>
    cases hs.takeDue_cons.1.symm.trans hdue
    obtain ⟨later', ht⟩ := harranges.scheduler.splits hs.takeDue_cons.2
    exact ⟨rest, later', rfl, ht⟩

section Facts

variable [Timekeeping α] [BEq κ] {h : Handlers α κ τ ρ} {clock delta : α} (hh : h.Arranges clock delta)

include hh

omit [Timekeeping α] in
theorem arranges_of_onTimer {s t : Stage α κ τ ρ} {timer : Timer α τ} {scheduler : Scheduler α κ τ}
    {result : Except (Fault α) Unit} (hclock : s.scheduler.now = clock)
    (hdue : s.scheduler.takeDue = some (timer, scheduler))
    (hrun : (h.onTimer timer.purpose).run { s with scheduler } = (result, t)) :
    Arranges { s with scheduler } t := by
  have harranges := hh.onTimer timer.purpose { s with scheduler } ((Keeps.of_takeDue hdue).now.trans hclock)
  rwa [hrun] at harranges

omit [Timekeeping α] in
theorem arranges_of_onFrame {s t : Stage α κ τ ρ} {k : κ} {result : Except (Fault α) Unit}
    (hclock : s.scheduler.now = clock) (hrun : (h.onFrame k delta).run s = (result, t)) : Arranges s t := by
  have harranges := hh.onFrame k s hclock
  rwa [hrun] at harranges

theorem Fires.keeps {s t : Stage α κ τ ρ} {fired : List (Timer α τ)} {fault : Option (Fault α)}
    (hfires : Fires h s fired fault t) (hclock : s.scheduler.now = clock) : Keeps s t := by
  induction hfires with
  | done => exact .refl _
  | failed hdue hrun => exact (Keeps.of_takeDue hdue).trans (arranges_of_onTimer hh hclock hdue hrun).keeps
  | fired hdue hrun _ ih =>
    have hkeeps := (Keeps.of_takeDue hdue).trans (arranges_of_onTimer hh hclock hdue hrun).keeps
    exact hkeeps.trans (ih (hkeeps.now.trans hclock))

/-- **Only timers that were due fire, in their order**: all of them where none fails, and else those that are left stay
in front. -/
theorem Fires.splits {s t : Stage α κ τ ρ} {fired : List (Timer α τ)} {fault : Option (Fault α)}
    (hfires : Fires h s fired fault t) (hclock : s.scheduler.now = clock) :
    ∀ {due later : List (Timer α τ)}, s.scheduler.Splits due later →
      ∃ left later', due = fired ++ left ∧ t.scheduler.Splits left later' ∧ (fault = none → left = []) := by
  induction hfires with
  | done hnone =>
    intro due later hs
    cases due with
    | nil => exact ⟨[], later, rfl, hs, fun _ => rfl⟩
    | cons timer due => cases hnone.symm.trans hs.takeDue_cons.1
  | failed hdue hrun =>
    intro due later hs
    obtain ⟨rest, later', rfl, ht⟩ := splits_of_takeDue hdue (arranges_of_onTimer hh hclock hdue hrun) hs
    exact ⟨rest, later', rfl, ht, nofun⟩
  | @fired s t u timer scheduler rest fault hdue hrun hrest ih =>
    intro due later hs
    have harranges := arranges_of_onTimer hh hclock hdue hrun
    have hclock' : t.scheduler.now = clock := ((Keeps.of_takeDue hdue).trans harranges.keeps).now.trans hclock
    obtain ⟨behind, later', rfl, ht⟩ := splits_of_takeDue hdue harranges hs
    obtain ⟨left, later'', rfl, hu, hleft⟩ := ih hclock' ht
    exact ⟨left, later'', rfl, hu, hleft⟩

/-- **The loop ends by itself**: it has no more timers to fire than were due. -/
theorem exists_fires : ∀ {due later : List (Timer α τ)} {s : Stage α κ τ ρ}, s.scheduler.now = clock →
    s.scheduler.Splits due later → ∃ fired fault t, Fires h s fired fault t
  | [], _, s, _, hs => ⟨[], none, s, .done hs.takeDue_nil⟩
  | timer :: due, later, s, hclock, hs => by
    have hdue := hs.takeDue_cons.1
    rcases hrun : (h.onTimer timer.purpose).run { s with scheduler := { s.scheduler with timers := due ++ later } } with
      ⟨fault | _, t⟩
    · exact ⟨[timer], some fault, t, .failed hdue hrun⟩
    · -- What the timer registered is not due, so there is one timer less to fire.
      have harranges := arranges_of_onTimer hh hclock hdue hrun
      obtain ⟨rest, later', hrest, ht⟩ := splits_of_takeDue hdue harranges hs
      cases hrest
      obtain ⟨fired, fault, u, hfires⟩ := exists_fires (harranges.keeps.now.trans hclock) ht
      exact ⟨timer :: fired, fault, u, .fired hdue hrun hfires⟩

theorem Calls.keeps {callbacks called : List κ} {s t : Stage α κ τ ρ} {fault : Option (Fault α)}
    (hcalls : Calls h delta callbacks s called fault t) (hclock : s.scheduler.now = clock) : Keeps s t := by
  induction hcalls with
  | done => exact .refl _
  | failed hrun => exact (arranges_of_onFrame hh hclock hrun).keeps
  | called hrun _ ih =>
    have hkeeps := (arranges_of_onFrame hh hclock hrun).keeps
    exact hkeeps.trans (ih (hkeeps.now.trans hclock))

theorem Calls.splits {callbacks called : List κ} {s t : Stage α κ τ ρ} {fault : Option (Fault α)}
    (hcalls : Calls h delta callbacks s called fault t) (hclock : s.scheduler.now = clock) :
    ∀ {due later : List (Timer α τ)}, s.scheduler.Splits due later → ∃ later', t.scheduler.Splits due later' := by
  induction hcalls with
  | done => exact fun hs => ⟨_, hs⟩
  | failed hrun => exact (arranges_of_onFrame hh hclock hrun).scheduler.splits
  | called hrun _ ih =>
    intro due later hs
    have harranges := arranges_of_onFrame hh hclock hrun
    obtain ⟨later', ht⟩ := harranges.scheduler.splits hs
    exact ih (harranges.keeps.now.trans hclock) ht

end Facts

omit [Scalar α] in
theorem exists_calls (h : Handlers α κ τ ρ) (delta : α) :
    ∀ (callbacks : List κ) (s : Stage α κ τ ρ), ∃ called fault t, Calls h delta callbacks s called fault t
  | [], s => ⟨[], none, s, .done s⟩
  | k :: callbacks, s => by
    rcases hrun : (h.onFrame k delta).run s with ⟨fault | _, t⟩
    · exact ⟨[k], some fault, t, .failed hrun⟩
    · obtain ⟨called, fault, u, hcalls⟩ := exists_calls h delta callbacks t
      exact ⟨k :: called, fault, u, .called hrun hcalls⟩

/-! ## One frame -/

section Frame

variable [Ticking α] [BEq κ] {h : Handlers α κ τ ρ} {delta : α} {s t : Stage α κ τ ρ} {r : FrameRecord α κ τ}
  (hh : h.Arranges (s.scheduler.now + delta) delta) (hs : s.scheduler.Sound)

include hh hs

theorem exists_frame (hdelta : ¬ delta < 0.0) : ∃ r t, Frame h delta s r t := by
  have hadvance : s.scheduler.advance delta = .ok _ := if_neg hdelta
  obtain ⟨later, hsplits⟩ := (hs.advance hadvance).splits
  obtain ⟨fired, fault, t, hfires⟩ := exists_fires (s := { s with scheduler := _ }) hh rfl hsplits
  cases fault with
  | some fault => exact ⟨_, t, .stopped hadvance hfires⟩
  | none =>
    obtain ⟨called, fault, u, hcalls⟩ := exists_calls h delta t.scheduler.callbacks t
    exact ⟨_, u, .passed hadvance hfires hcalls⟩

theorem Frame.advances (hframe : Frame h delta s r t) :
    t.scheduler.now = s.scheduler.now + delta ∧ t.scheduler.frameCount = s.scheduler.frameCount + 1 ∧
      t.journal.failures = s.journal.failures ∧ t.scheduler.Sound := by
  cases hframe with
  | stopped hadvance hfires =>
    have hsound := hs.advance hadvance
    obtain ⟨-, rfl⟩ := Scheduler.advance_eq_ok hadvance
    have hkeeps := hfires.keeps hh rfl
    exact ⟨hkeeps.now, hkeeps.frameCount, hkeeps.failures, hkeeps.sound hsound⟩
  | passed hadvance hfires hcalls =>
    have hsound := hs.advance hadvance
    obtain ⟨-, rfl⟩ := Scheduler.advance_eq_ok hadvance
    have hfired := hfires.keeps hh rfl
    have hkeeps := hfired.trans (hcalls.keeps hh hfired.now)
    exact ⟨hkeeps.now, hkeeps.frameCount, hkeeps.failures, hkeeps.sound hsound⟩

/-- **A frame fires timers that are due, in their order.**  Those that are left stay in front of the queue, and where
callbacks are called none is left. -/
theorem Frame.splits (hframe : Frame h delta s r t) :
    ∃ left later, r.due = r.fired ++ left ∧ t.scheduler.Splits left later ∧ (r.called ≠ [] → left = []) := by
  cases hframe with
  | stopped hadvance hfires =>
    obtain ⟨later, hsplits⟩ := (hs.advance hadvance).splits
    obtain ⟨-, rfl⟩ := Scheduler.advance_eq_ok hadvance
    obtain ⟨left, later', hdue, ht, -⟩ := hfires.splits hh rfl hsplits
    exact ⟨left, later', hdue, ht, fun hcalled => absurd rfl hcalled⟩
  | passed hadvance hfires hcalls =>
    obtain ⟨later, hsplits⟩ := (hs.advance hadvance).splits
    obtain ⟨-, rfl⟩ := Scheduler.advance_eq_ok hadvance
    obtain ⟨left, later', hdue, hmid, hleft⟩ := hfires.splits hh rfl hsplits
    obtain ⟨later'', ht⟩ := hcalls.splits hh (hfires.keeps hh rfl).now hmid
    exact ⟨left, later'', hdue, ht, fun _ => hleft rfl⟩

omit [Ticking α] [BEq κ] hh hs in
theorem Frame.pending_eq (hframe : Frame h delta s r t) : r.pending = t.scheduler.timers := by
  cases hframe <;> rfl

omit [Ticking α] [BEq κ] hh hs in
theorem Frame.due_eq (hframe : Frame h delta s r t) :
    r.due = s.scheduler.timers.filter fun u => decide (u.due ≤ s.scheduler.now + delta) := by
  cases hframe with
  | stopped hadvance _ =>
    obtain ⟨-, rfl⟩ := Scheduler.advance_eq_ok hadvance
    rfl
  | passed hadvance _ _ =>
    obtain ⟨-, rfl⟩ := Scheduler.advance_eq_ok hadvance
    rfl

omit [BEq κ] hh in
theorem Frame.ordered (hframe : Frame h delta s r t) : r.due.Pairwise Timer.Before := by
  rw [hframe.due_eq]
  by_cases hclock : Defined s.scheduler.now
  · exact (hs.ordered hclock).sorted.filter _
  · have hnone : ∀ u ∈ s.scheduler.timers, ¬ decide (u.due ≤ s.scheduler.now + delta) = true := fun u _ hdue =>
      hclock (Strict.defined_of_add (Strict.defined_of_le (of_decide_eq_true hdue))).1
    rw [List.filter_eq_nil_iff.2 hnone]
    exact .nil

omit [BEq κ] hh in
/-- What was due and left when a frame starts is the first that is due in it. -/
theorem Frame.prefix_due (hframe : Frame h delta s r t) (hdefined : Defined delta) (hdelta : ¬ delta < 0.0)
    {due later : List (Timer α τ)} (hsplits : s.scheduler.Splits due later) : due <+: r.due := by
  rw [hframe.due_eq, hsplits.timers, List.filter_append]
  have hdue : ∀ u ∈ due, decide (u.due ≤ s.scheduler.now + delta) = true := fun u hu => by
    have hnow := hsplits.due u hu
    exact decide_eq_true (Timekeeping.le_trans hnow
      (Ticking.tick (Strict.defined_of_le hnow) hs.started hdefined hdelta).2)
  rw [List.filter_eq_self.2 hdue]
  exact List.prefix_append _ _

/-- **A frame is run as it is told**, whatever the limit on the timers that it fires. -/
theorem Frame.run_step (hframe : Frame h delta s r t) (spare : Nat) :
    (step h spare delta).run s = (answer r.fault, t) := by
  -- Only what is pending fires, so the limit is never reached.
  have hfired : r.fired.length ≤ s.scheduler.timers.length + spare := by
    obtain ⟨left, -, hdue, -⟩ := hframe.splits hh hs
    have hlength := congrArg List.length hdue
    rw [hframe.due_eq, List.length_append] at hlength
    exact (Nat.le_of_add_right_le (Nat.le_of_eq hlength.symm)).trans
      ((List.length_filter_le _ _).trans (Nat.le_add_right _ spare))
  rw [step_eq, timerPhase, run_bind, run_scheduling]
  cases hframe with
  | stopped hadvance hfires =>
    rw [hadvance]
    dsimp only
    obtain ⟨-, rfl⟩ := Scheduler.advance_eq_ok hadvance
    rw [run_get_bind, hfires.run_fireDue hfired]
    rfl
  | passed hadvance hfires hcalls =>
    rw [hadvance]
    dsimp only
    obtain ⟨-, rfl⟩ := Scheduler.advance_eq_ok hadvance
    rw [run_get_bind, hfires.run_fireDue hfired]
    exact hcalls.run_callAll

end Frame

end Stage
end Bystander
