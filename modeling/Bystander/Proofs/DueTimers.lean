import Bystander.Proofs.Chronicle
import Bystander.Proofs.Delivery
import Bystander.Proofs.Transcript
/-! # The timers of a frame get done

A timer that fires may register others, any number of them, so that the queue may grow with every timer that is taken
from it.  If none of the new ones is due at once they stand behind all that are due, and so the loop is through with
the timers that were due when it began and with no others (`Duties.Drains`).  Over the reals it is enough that the
delays are positive (`timer_loop_ends`); timers that register others which are due at once keep a loop going for ever
(`endless_of_due_at_once`).
-/
namespace Bystander

open Act (run_bind run_get_bind run_modify_bind run_orElse)

variable {α κ τ ρ : Type} [Scalar α]

namespace Scheduler

def dueTimers (s : Scheduler α κ τ) : List (Timer α τ) := s.timers.filter fun t => decide (t.due ≤ s.now)

def laterTimers (s : Scheduler α κ τ) : List (Timer α τ) := s.timers.filter fun t => !decide (t.due ≤ s.now)

/-- Where a timer is due one can be taken. -/
theorem Ordered.exists_takeDue [Timekeeping α] {s : Scheduler α κ τ} (hs : s.Ordered) (hdue : s.dueTimers ≠ []) :
    ∃ timer taken, s.takeDue = some (timer, taken) := by
  cases htake : s.takeDue with
  | some due => exact ⟨due.1, due.2, rfl⟩
  | none =>
    refine absurd (List.filter_eq_nil_iff.2 fun t ht => ?_) hdue
    rw [decide_eq_true_eq]
    exact hs.not_due_of_takeDue htake t ht

variable [BEq κ] {s t : Scheduler α κ τ} {moments : List (Moment α κ τ)}

/-- Deeds that arrange things, and register no timer that is due at once, leave the scheduler arranged. -/
theorem Undergoes.arranged (h : s.Undergoes moments t)
    (hmoments : ∀ m ∈ moments, m.deed.Arranges fun delay => ¬ s.now + delay / 1000.0 ≤ s.now) : s.Arranged t := by
  induction h with
  | nothing => exact .refl
  | @next earlier t deed _ hfits ih =>
    have ht : s.Arranged t := ih fun m hm => hmoments m (List.mem_cons_of_mem _ hm)
    have hdeed := hmoments ⟨deed, deed.effect t⟩ List.mem_cons_self
    cases deed with
    | accepted timer since delay =>
      have hregister := Deed.setTimeout_of_fits hfits
      refine ht.register hregister ?_
      rw [ht.clock.1]
      exact hdeed
    | refused fault => exact ht
    | connected k => exact ht.connect k
    | disconnected k => exact ht.disconnect k
    | _ => exact hdeed.elim

end Scheduler

theorem Chronicle.run_fireDue_fired {onTimer : τ → Act (Fault α) (Chronicle α κ τ ρ) Unit} (limit : Nat)
    {c after : Chronicle α κ τ ρ} {timer : Timer α τ} {scheduler : Scheduler α κ τ}
    (hdue : c.stage.scheduler.takeDue = some (timer, scheduler))
    (hrun : (onTimer timer.purpose).run ⟨{ c.stage with scheduler }, ⟨.fired timer, scheduler⟩ :: c.latestFirst⟩ =
      (.ok (), after)) : (fireDue onTimer (limit + 1)).run c = (fireDue onTimer limit).run after := by
  rw [fireDue, run_get_bind, hdue]
  dsimp only
  rw [run_modify_bind, note, run_modify_bind, run_bind, admitting, run_orElse, hrun]

variable [BEq κ]

/-- **A timer loop that is through**: it ends whatever the limit, it has fired in their order the timers that were due
when it began, and what is left is not due and is what was not due before and all that was registered meanwhile. -/
structure Duties.Drains (d : Duties α κ τ ρ) (s t : Stage α κ τ ρ) (moments : List (Moment α κ τ)) : Prop where
  ends : Stage.Fires d.handlers s s.scheduler.dueTimers none t
  recorded : ∀ limit, s.scheduler.dueTimers.length ≤ limit →
    (Chronicle.fireDue (fun purpose => (d.onTimer purpose).told) limit).run ⟨s, []⟩ = (.ok (), ⟨t, moments⟩)
  fired : (firedIn moments).reverse = s.scheduler.dueTimers
  left : t.scheduler.timers.Perm (acceptedIn moments ++ s.scheduler.laterTimers)
  clock : t.scheduler.now = s.scheduler.now
  notDue : ∀ timer ∈ t.scheduler.timers, ¬ timer.due ≤ t.scheduler.now

section Drains

variable [Timekeeping α] {d : Duties α κ τ ρ} (hreturns : ∀ purpose s, ((d.onTimer purpose).act.run s).1 = .ok ())

include hreturns

/-- **Firing what is due**, by induction on it: the timers that are registered meanwhile stand behind. -/
theorem Duties.fires_of_splits {clock : α}
    (hlater : ∀ purpose, (d.onTimer purpose).Does (Deed.Arranges fun delay => ¬ clock + delay / 1000.0 ≤ clock)) :
    ∀ {due later : List (Timer α τ)} {c : Chronicle α κ τ ρ}, c.stage.scheduler.now = clock →
      c.stage.scheduler.Splits due later →
        ∃ c' later', Stage.Fires d.handlers c.stage due none c'.stage ∧
          (∀ limit, due.length ≤ limit →
            (Chronicle.fireDue (fun purpose => (d.onTimer purpose).told) limit).run c = (.ok (), c')) ∧
          firedIn c'.latestFirst = due.reverse ++ firedIn c.latestFirst ∧
          c'.stage.scheduler.now = clock ∧ c'.stage.scheduler.Splits [] later'
  | [], later, c, hclock, hs => by
    refine ⟨c, later, .done hs.takeDue_nil, fun limit _ => ?_, rfl, hclock, hs⟩
    cases limit <;> rw [Chronicle.fireDue, run_get_bind, hs.takeDue_nil] <;> rfl
  | timer :: due, later, c, hclock, hs => by
    obtain ⟨hdue, hrest⟩ := hs.takeDue_cons
    let s : Stage α κ τ ρ := { c.stage with scheduler := { c.stage.scheduler with timers := due ++ later } }
    let fired : Chronicle α κ τ ρ := ⟨s, ⟨.fired timer, s.scheduler⟩ :: c.latestFirst⟩
    have hact := (d.onTimer timer.purpose).told_act fired
    have hreturn := hreturns timer.purpose s
    rcases hrun : (d.onTimer timer.purpose).told.run fired with ⟨result, after⟩
    rw [hrun] at hact
    rw [hact] at hreturn
    obtain rfl : result = .ok () := hreturn
    obtain ⟨arranged, hrecord, hundergoes, harranges⟩ := ((hlater timer.purpose).gains.of_run hrun).moments
    have hfiredClock : fired.stage.scheduler.now = clock := hclock
    rw [← hfiredClock] at harranges
    -- What the timer registered is not due, so there is one timer less to fire.
    have harranged := hundergoes.arranged harranges
    obtain ⟨later', hsplits⟩ := harranged.splits hrest
    obtain ⟨c', later'', hfires, hloop, hfirst, hclock', hdone⟩ :=
      fires_of_splits hlater (harranged.clock.1.trans hclock) hsplits
    refine ⟨c', later'', .fired hdue hact hfires, fun limit hlimit => ?_, ?_, hclock', hdone⟩
    · obtain ⟨limit, rfl⟩ := Nat.exists_eq_succ_of_ne_zero (Nat.ne_of_gt (Nat.zero_lt_of_lt hlimit))
      rw [Chronicle.run_fireDue_fired limit hdue hrun]
      exact hloop limit (Nat.le_of_succ_le_succ hlimit)
    · rw [hfirst, hrecord, firedIn, List.filterMap_append, ← firedIn, firedIn_arranged harranges, List.reverse_cons,
        List.append_assoc]
      rfl

/-- **A loop gets through** with the timers that are due if none that it fires registers another that is due at once. -/
theorem Duties.exists_drains {s : Stage α κ τ ρ} (hs : s.scheduler.Ordered)
    (hlater : ∀ purpose, (d.onTimer purpose).Does
      (Deed.Arranges fun delay => ¬ s.scheduler.now + delay / 1000.0 ≤ s.scheduler.now)) :
    ∃ t moments, d.Drains s t moments := by
  have hsplits : s.scheduler.Splits s.scheduler.dueTimers s.scheduler.laterTimers := hs.splits
  obtain ⟨⟨t, moments⟩, later', hfires, hloop, hfired, hclock, hdone⟩ :=
    fires_of_splits hreturns hlater (c := ⟨s, []⟩) rfl hsplits
  have hfired : firedIn moments = s.scheduler.dueTimers.reverse := hfired.trans (List.append_nil _)
  refine ⟨t, moments, hfires, hloop, ?_, ?_, hclock, fun timer htimer => ?_⟩
  · rw [hfired, List.reverse_reverse]
  · have hgains := Chronicle.gains_fireDue (fun _ => trivial) (fun _ _ => trivial)
      fun purpose => (d.onTimer purpose).gains_told
    obtain ⟨moments', hrecord, hundergoes, -⟩ := ((hgains _).of_run (hloop _ le_rfl)).moments
    obtain rfl : moments = moments' := hrecord.trans (List.append_nil _)
    have hbalance := hundergoes.balance
    rw [hfired, hsplits.timers] at hbalance
    refine (List.perm_append_left_iff s.scheduler.dueTimers).1 ?_
    have hreversed : (s.scheduler.dueTimers ++ t.scheduler.timers).Perm
        (s.scheduler.dueTimers.reverse ++ t.scheduler.timers) := (List.reverse_perm _).symm.append_right _
    exact hreversed.trans (hbalance.symm.trans (List.perm_append_comm_assoc _ _ _))
  · have htimers := hdone.timers
    rw [List.nil_append] at htimers
    exact hdone.later timer (htimers ▸ htimer)

end Drains

/-- **The timer loop of a frame ends.**  At every moment of its history a scheduler is in order; from there, whatever
time a frame moves it on by, the loop is through with the timers that are due, if no timer that fires fails and each
registers others with positive delays only, and the frame goes on to its callbacks. -/
theorem Duties.timer_loop_ends {d : Duties ℝ κ τ ρ} (hreturns : ∀ purpose s, ((d.onTimer purpose).act.run s).1 = .ok ())
    (hlater : ∀ purpose, (d.onTimer purpose).Does (Deed.Arranges (0 < ·))) :
    (∀ (errand : Errand ℝ κ τ ρ) s, s.scheduler = .fresh →
      ∀ m ∈ (errand.told.run ⟨s, []⟩).2.latestFirst, m.scheduler.Ordered) ∧
    ∀ (s : Stage ℝ κ τ ρ) delta, s.scheduler.Ordered → 0 ≤ delta →
      ∃ scheduler t moments, s.scheduler.advance delta = .ok scheduler ∧ d.Drains { s with scheduler } t moments ∧
        ∀ spare, (Stage.step d.handlers spare delta).run s =
          (Stage.callAll d.handlers delta t.scheduler.callbacks).run t := by
  refine ⟨fun errand s hs m hm => ?_, fun s delta hs hdelta => ?_⟩
  · obtain ⟨before, after, hrecord⟩ := List.append_of_mem hm
    have hsound := (Chronicle.sound_fresh hs).gains (errand.gains_told _)
    exact (hsound.moments m after ⟨before, hrecord.symm⟩).1.ordered
  · have hpasses : Scalar.Elapses delta := (Scalar.elapses_real delta).2 hdelta
    have hadvance : s.scheduler.advance delta = .ok _ := if_neg hpasses.2
    have hpositive (now delay : ℝ) (hdelay : 0 < delay) : ¬ now + delay / 1000.0 ≤ now := by
      have : 0 < delay / 1000.0 := by positivity
      linarith
    obtain ⟨t, moments, hdrains⟩ := exists_drains hreturns (s := { s with scheduler := _ })
      (hs.advance hpasses hadvance).1 fun purpose => (hlater purpose).imp fun _ h => h.imp (hpositive _)
    refine ⟨_, t, moments, hadvance, hdrains, fun spare => ?_⟩
    rw [Stage.step_eq, Stage.timerPhase, run_bind, Stage.run_scheduling, hadvance]
    dsimp only
    rw [run_get_bind, hdrains.ends.run_fireDue ((List.length_filter_le _ _).trans (Nat.le_add_right _ spare))]
    rfl

/-- **Timers that register others**: the first kind registers two of the second kind, for later. -/
noncomputable def sprouting : Duties ℝ Unit Bool Unit where
  onTimer
    | true => .book false 100.0 fun _ => .book false 200.0 fun _ => .done
    | false => .done
  onFrame _ _ := .done

theorem sprouting_timer_loop_ends :
    let scheduler : Scheduler ℝ Unit Bool := ⟨1, 0, [], [⟨1, 0, true⟩, ⟨2, 1, false⟩, ⟨9, 2, true⟩], 3⟩
    let s : Stage ℝ Unit Bool Unit := { (Host.fresh : Host ℝ Unit Bool) with scheduler, cast := () }
    ∃ started t moments, s.scheduler.advance 1 = .ok started ∧
      sprouting.Drains { s with scheduler := started } t moments ∧
      (firedIn moments).reverse = [⟨1, 0, true⟩, ⟨2, 1, false⟩] ∧ ⟨9, 2, true⟩ ∈ t.scheduler.timers := by
  intro scheduler s
  have hreturns (purpose : Bool) (s : Stage ℝ Unit Bool Unit) : ((sprouting.onTimer purpose).act.run s).1 = .ok () := by
    cases purpose <;> rfl
  have hlater (purpose : Bool) : (sprouting.onTimer purpose).Does (Deed.Arranges (0 < ·)) := by
    have hrefused (fault : Fault ℝ) : (Deed.refused fault : Deed ℝ Unit Bool).Arranges (0 < ·) := trivial
    have hfirst : (0 : ℝ) < 100.0 := by norm_num
    have hsecond : (0 : ℝ) < 200.0 := by norm_num
    cases purpose with
    | false => exact Errand.does_done
    | true =>
      refine Errand.does_book hrefused (fun _ _ => hfirst) fun _ => ?_
      exact Errand.does_book hrefused (fun _ _ => hsecond) fun _ => Errand.does_done
  have hs : s.scheduler.Ordered := by
    refine ⟨Scalar.defined_real _, fun _ _ => Scalar.defined_real _, ?_, ?_⟩
    · norm_num [s, scheduler, Timer.Before]
    · simp [s, scheduler]
  obtain ⟨started, t, moments, hadvance, hdrains, -⟩ :=
    (Duties.timer_loop_ends hreturns hlater).2 s 1 hs zero_le_one
  refine ⟨started, t, moments, hadvance, hdrains, ?_, ?_⟩
  · obtain ⟨-, rfl⟩ := Scheduler.advance_eq_ok hadvance
    rw [hdrains.fired]
    norm_num [s, scheduler, Scheduler.dueTimers]
  · obtain ⟨-, rfl⟩ := Scheduler.advance_eq_ok hadvance
    refine hdrains.left.mem_iff.2 (List.mem_append_right _ ?_)
    norm_num [s, scheduler, Scheduler.laterTimers]

/-- **A loop whose timers register others that are due at once does not end**, whatever the limit. -/
theorem Duties.endless_of_due_at_once [Timekeeping α] {d : Duties α κ τ ρ} {clock delay : α}
    (hd : ∀ purpose, d.onTimer purpose = .book purpose delay fun _ => .done) (hdelay : Scalar.Elapses delay)
    (hnone : clock + delay / 1000.0 ≤ clock) :
    ∀ (limit : Nat) {s : Stage α κ τ ρ}, s.scheduler.Ordered → s.scheduler.now = clock → s.scheduler.dueTimers ≠ [] →
      ((Stage.fireDue d.handlers limit).run s).1 = .error .endlessTimers := by
  intro limit
  induction limit with
  | zero =>
    intro s hs _ hdue
    obtain ⟨timer, taken, htaken⟩ := hs.exists_takeDue hdue
    rw [Stage.run_fireDue_zero, htaken]
  | succ limit ih =>
    intro s hs hclock hdue
    obtain ⟨timer, taken, htaken⟩ := hs.exists_takeDue hdue
    have hnow : taken.now = clock := by
      obtain ⟨rest, -, -, rfl⟩ := Scheduler.takeDue_eq_some htaken
      exact hclock
    let next : Timer α τ := ⟨taken.now + delay / 1000.0, taken.nextSerial, timer.purpose⟩
    let booked : Scheduler α κ τ :=
      { taken with timers := Scheduler.enqueue next taken.timers, nextSerial := taken.nextSerial + 1 }
    have hbooked : taken.setTimeout timer.purpose delay = .ok booked :=
      if_pos ((Scheduler.acceptsDelay_iff delay).2 hdelay)
    have hrun : ((d.onTimer timer.purpose).act).run { s with scheduler := taken } =
        (.ok (), { s with scheduler := booked }) := by
      rw [hd, Errand.act, run_bind, Act.run_observe, Stage.run_scheduling, hbooked]
      rfl
    -- The timer that is taken leaves its place to one that is due as well.
    have hagain : next ∈ booked.dueTimers := by
      refine List.mem_filter.2 ⟨(Scheduler.mem_enqueue next next taken.timers).2 (.inl rfl), decide_eq_true ?_⟩
      change taken.now + delay / 1000.0 ≤ taken.now
      rw [hnow]
      exact hnone
    rw [Stage.run_fireDue_succ, htaken]
    dsimp only [Duties.handlers]
    rw [hrun]
    exact ih ((hs.takeDue htaken).setTimeout hbooked) hnow (List.ne_nil_of_mem hagain)

end Bystander
