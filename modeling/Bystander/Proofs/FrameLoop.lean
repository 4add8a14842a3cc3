import Bystander.Host.Stage
import Bystander.Proofs.Obedience
import Bystander.Proofs.Queue
/-! # What a frame may do to a stage

A frame is made of moving the clock, firing due timers and calling callbacks.  A rule that these three obey is obeyed by
the frame (`obeys_step`), however many timers fire and wherever it fails.
-/
namespace Bystander.Stage

open Act (Obeys run_bind run_get_bind run_modify_bind)

variable {α κ τ ρ : Type} [Scalar α]

/-- The part of a frame before its callbacks: the clock moves on and the timers that are due fire. -/
def timerPhase (h : Handlers α κ τ ρ) (spare : Nat) (delta : α) : Act (Fault α) (Stage α κ τ ρ) Unit := do
  scheduling (Scheduler.advance delta)
  fireDue h ((← get).scheduler.timers.length + spare)

/-- **A frame is its timers and then its callbacks.** -/
theorem step_eq (h : Handlers α κ τ ρ) (spare : Nat) (delta : α) (s : Stage α κ τ ρ) :
    (step h spare delta).run s =
      match (timerPhase h spare delta).run s with
      | (.ok _, s) => (callAll h delta s.scheduler.callbacks).run s
      | (.error fault, s) => (.error fault, s) := by
  unfold step timerPhase
  rw [run_bind, run_bind]
  rcases (scheduling (Scheduler.advance delta)).run s with ⟨result | u, after⟩
  · rfl
  · dsimp only
    rw [run_get_bind, run_get_bind, run_bind]
    rcases (fireDue h (after.scheduler.timers.length + spare)).run after with ⟨result | u, after⟩ <;> rfl

omit [Scalar α] in
theorem run_scheduling (f : Scheduler α κ τ → Except (Fault α) (Scheduler α κ τ)) (s : Stage α κ τ ρ) :
    (scheduling f).run s =
      match f s.scheduler with
      | .ok scheduler => (.ok (), { s with scheduler })
      | .error fault => (.error fault, s) := rfl

theorem run_fireDue_zero (h : Handlers α κ τ ρ) (s : Stage α κ τ ρ) :
    (fireDue h 0).run s =
      match s.scheduler.takeDue with
      | none => (.ok (), s)
      | some _ => (.error .endlessTimers, s) := by
  unfold fireDue
  rw [run_get_bind]
  cases s.scheduler.takeDue <;> rfl

theorem run_fireDue_succ (h : Handlers α κ τ ρ) (limit : Nat) (s : Stage α κ τ ρ) :
    (fireDue h (limit + 1)).run s =
      match s.scheduler.takeDue with
      | none => (.ok (), s)
      | some (t, scheduler) =>
        match (h.onTimer t.purpose).run { s with scheduler } with
        | (.ok _, s) => (fireDue h limit).run s
        | (.error fault, s) => (.error fault, s) := by
  rw [fireDue, run_get_bind]
  cases s.scheduler.takeDue with
  | none => rfl
  | some due =>
    dsimp only
    rw [run_modify_bind, run_bind]
    rcases (h.onTimer due.1.purpose).run { s with scheduler := due.2 } with ⟨result | u, after⟩ <;> rfl

/-- **A timer that fails ends the loop**: it is gone, and the others are as it left them. -/
theorem run_fireDue_failed {h : Handlers α κ τ ρ} (limit : Nat) {s s' : Stage α κ τ ρ} {t : Timer α τ}
    {scheduler : Scheduler α κ τ} {fault : Fault α} (hdue : s.scheduler.takeDue = some (t, scheduler))
    (hfail : (h.onTimer t.purpose).run { s with scheduler } = (.error fault, s')) :
    (fireDue h (limit + 1)).run s = (.error fault, s') := by
  rw [run_fireDue_succ, hdue]
  dsimp only
  rw [hfail]

omit [Scalar α] in
theorem run_scheduling_refused {f : Scheduler α κ τ → Except (Fault α) (Scheduler α κ τ)} {s : Stage α κ τ ρ}
    {fault : Fault α} (h : f s.scheduler = .error fault) : (scheduling f).run s = (.error fault, s) := by
  rw [run_scheduling, h]

/-- **A frame that goes back in time is refused** before it does anything. -/
theorem run_step_refused (h : Handlers α κ τ ρ) (spare : Nat) {delta : α} (hd : delta < 0.0) (s : Stage α κ τ ρ) :
    (step h spare delta).run s = (.error (.frameDelta delta), s) := by
  have hadvance := (Scheduler.advance_eq_error_iff delta s.scheduler).2 hd
  rw [step, run_bind, run_scheduling_refused hadvance]

/-- **A loop that is done leaves nothing due.** -/
theorem takeDue_of_run_fireDue {h : Handlers α κ τ ρ} :
    ∀ {limit : Nat} {s s' : Stage α κ τ ρ} {u : Unit},
      (fireDue h limit).run s = (.ok u, s') → s'.scheduler.takeDue = none
  | 0, s, s', u, hr => by
    rw [run_fireDue_zero] at hr
    cases hdue : s.scheduler.takeDue with
    | none =>
      rw [hdue] at hr
      cases hr
      exact hdue
    | some due => rw [hdue] at hr; cases hr
  | limit + 1, s, s', u, hr => by
    rw [run_fireDue_succ] at hr
    cases hdue : s.scheduler.takeDue with
    | none =>
      rw [hdue] at hr
      cases hr
      exact hdue
    | some due =>
      rw [hdue] at hr
      dsimp only at hr
      rcases hfired : (h.onTimer due.1.purpose).run { s with scheduler := due.2 } with ⟨fault | v, after⟩
      · rw [hfired] at hr; cases hr
      · rw [hfired] at hr
        exact takeDue_of_run_fireDue hr

theorem takeDue_of_run_timerPhase {h : Handlers α κ τ ρ} {spare : Nat} {delta : α} {s s' : Stage α κ τ ρ} {u : Unit}
    (hr : (timerPhase h spare delta).run s = (.ok u, s')) : s'.scheduler.takeDue = none := by
  rw [timerPhase, run_bind] at hr
  rcases hs : (scheduling (Scheduler.advance delta)).run s with ⟨fault | v, after⟩
  · rw [hs] at hr
    cases hr
  · rw [hs] at hr
    exact takeDue_of_run_fireDue hr

section Completion

variable {h : Handlers α κ τ ρ} {P : Stage α κ τ ρ → Prop}
  (hfire : ∀ s t scheduler, P s → s.scheduler.takeDue = some (t, scheduler) →
    ∃ s', (h.onTimer t.purpose).run { s with scheduler } = (.ok (), s') ∧ s'.scheduler = scheduler ∧ P s')

include hfire

/-- **A loop gets through** if no timer of it fails and none registers another one. -/
theorem run_fireDue_of_fires : ∀ {limit : Nat} {s : Stage α κ τ ρ}, P s → s.scheduler.timers.length ≤ limit →
    ∃ t, (fireDue h limit).run s = (.ok (), t) ∧ P t
  | 0, s, hs, hlimit => by
    have hnil : s.scheduler.timers = [] := List.eq_nil_of_length_eq_zero (Nat.le_zero.1 hlimit)
    have hnone : s.scheduler.takeDue = none := by
      unfold Scheduler.takeDue
      rw [hnil]
    rw [run_fireDue_zero, hnone]
    exact ⟨s, rfl, hs⟩
  | limit + 1, s, hs, hlimit => by
    rw [run_fireDue_succ]
    cases hdue : s.scheduler.takeDue with
    | none => exact ⟨s, rfl, hs⟩
    | some due =>
      obtain ⟨t, scheduler⟩ := due
      obtain ⟨after, hr, hscheduler, hafter⟩ := hfire s t scheduler hs hdue
      obtain ⟨rest, hq, -, rfl⟩ := Scheduler.takeDue_eq_some hdue
      have hlength : after.scheduler.timers.length ≤ limit := by
        rw [hq, List.length_cons] at hlimit
        rw [hscheduler]
        exact Nat.le_of_succ_le_succ hlimit
      dsimp only
      rw [hr]
      exact run_fireDue_of_fires hafter hlength

theorem run_timerPhase_of_fires {spare : Nat} {delta : α} {s : Stage α κ τ ρ} {scheduler : Scheduler α κ τ}
    (hadvance : s.scheduler.advance delta = .ok scheduler) (hs : P { s with scheduler }) :
    ∃ t, (timerPhase h spare delta).run s = (.ok (), t) ∧ P t := by
  rw [timerPhase, run_bind, run_scheduling, hadvance]
  dsimp only
  rw [run_get_bind]
  exact run_fireDue_of_fires hfire hs (Nat.le_add_right _ spare)

end Completion

section Rules

variable {R : Stage α κ τ ρ → Stage α κ τ ρ → Prop} [Steady R] {h : Handlers α κ τ ρ}

omit [Scalar α] in
theorem obeys_scheduling {f : Scheduler α κ τ → Except (Fault α) (Scheduler α κ τ)}
    (hf : ∀ s scheduler, f s.scheduler = .ok scheduler → R s { s with scheduler }) :
    Obeys R (scheduling f : Act (Fault α) (Stage α κ τ ρ) Unit) := by
  intro s
  rw [run_scheduling]
  cases hr : f s.scheduler with
  | ok scheduler => exact hf s scheduler hr
  | error fault => exact Steady.refl s

/-- **Firing obeys what taking out a timer and firing it obeys.** -/
theorem obeys_fireDue
    (hfire : ∀ s t scheduler, s.scheduler.takeDue = some (t, scheduler) →
      R s ((h.onTimer t.purpose).run { s with scheduler }).2) :
    ∀ limit, Obeys R (fireDue h limit)
  | 0 => by
    intro s
    rw [run_fireDue_zero]
    cases s.scheduler.takeDue <;> exact Steady.refl s
  | limit + 1 => by
    intro s
    rw [run_fireDue_succ]
    cases hdue : s.scheduler.takeDue with
    | none => exact Steady.refl s
    | some due =>
      obtain ⟨t, scheduler⟩ := due
      have hs := hfire s t scheduler hdue
      dsimp only
      rcases hr : (h.onTimer t.purpose).run { s with scheduler } with ⟨fault | u, after⟩
      · rw [hr] at hs
        exact hs
      · rw [hr] at hs
        exact Steady.trans hs (obeys_fireDue hfire limit after)

omit [Scalar α] in
theorem obeys_callAll {delta : α} (hframe : ∀ k, Obeys R (h.onFrame k delta)) :
    ∀ callbacks, Obeys R (callAll h delta callbacks)
  | [] => Act.obeys_pure ()
  | k :: rest => (hframe k).bind fun _ => obeys_callAll hframe rest

theorem obeys_timerPhase {spare : Nat} {delta : α}
    (hadvance : ∀ s scheduler, s.scheduler.advance delta = .ok scheduler → R s { s with scheduler })
    (hfire : ∀ s t scheduler, s.scheduler.takeDue = some (t, scheduler) →
      R s ((h.onTimer t.purpose).run { s with scheduler }).2) : Obeys R (timerPhase h spare delta) :=
  (obeys_scheduling hadvance).bind fun _ => Act.obeys_get.bind fun _ => obeys_fireDue hfire _

/-- **A frame obeys what its parts obey.** -/
theorem obeys_step {spare : Nat} {delta : α}
    (hadvance : ∀ s scheduler, s.scheduler.advance delta = .ok scheduler → R s { s with scheduler })
    (hfire : ∀ s t scheduler, s.scheduler.takeDue = some (t, scheduler) →
      R s ((h.onTimer t.purpose).run { s with scheduler }).2)
    (hframe : ∀ k, Obeys R (h.onFrame k delta)) : Obeys R (step h spare delta) := by
  intro s
  have hs : R s ((timerPhase h spare delta).run s).2 := obeys_timerPhase hadvance hfire s
  rw [step_eq]
  rcases hr : (timerPhase h spare delta).run s with ⟨fault | u, after⟩
  · rw [hr] at hs
    exact hs
  · rw [hr] at hs
    exact Steady.trans hs (obeys_callAll hframe _ after)

end Rules

end Bystander.Stage
