import Bystander.Proofs.Reals
import Bystander.Proofs.Deeds
/-! # What holds at every moment of a scheduler's history

At every moment the timers accepted so far are those pending and those fired, each once; the fired ones have fired in
the order of timers, none before its time, and all of them stand before all that are pending (`Kept`).  Each deed keeps
this where it may happen (`Kept.deed`), so it holds of every errand (`timers_fire_once_in_order`).
-/
namespace Bystander

open Scalar (Defined Elapses)

variable {α κ τ ρ : Type} [Scalar α]

def latestScheduler : List (Moment α κ τ) → Scheduler α κ τ
  | [] => .fresh
  | m :: _ => m.scheduler

/-- **How a scheduler stands to the moments so far.** -/
structure Kept (s : Scheduler α κ τ) (moments : List (Moment α κ τ)) : Prop where
  ordered : s.Ordered
  /-- Each accepted timer is pending or fired, and not both. -/
  balance : (acceptedIn moments).Perm (s.timers ++ firedIn moments)
  distinct : (acceptedIn moments).Pairwise fun t u => u.serial < t.serial
  numbered : ∀ t ∈ acceptedIn moments, t.serial < s.nextSerial
  past : ∀ t ∈ firedIn moments, Defined t.due ∧ t.due ≤ s.now
  inLine : (firedIn moments).Pairwise fun t u => u.Before t
  ahead : ∀ t ∈ firedIn moments, ∀ u ∈ s.timers, t.Before u

/-- **What each deed says about its moment**, given the scheduler before it. -/
def Moment.Right (m : Moment α κ τ) (before : Scheduler α κ τ) (earlier : List (Moment α κ τ)) : Prop :=
  match m.deed with
  | .accepted t since delay => since = before.now ∧ Elapses delay ∧ t.due = since + delay / 1000.0
  | .refused _ => m.scheduler = before
  | .advanced delta => m.scheduler.now = before.now + delta
  | .fired t => before.timers = t :: m.scheduler.timers ∧ t.due ≤ m.scheduler.now
  | .broke t _ => m.scheduler = before ∧ t ∈ firedIn earlier ∧ t ∉ m.scheduler.timers
  | .calling => ∀ t ∈ m.scheduler.timers, ¬ t.due ≤ m.scheduler.now
  | _ => True

theorem kept_fresh [Timekeeping α] : Kept (.fresh : Scheduler α κ τ) [] where
  ordered := Scheduler.ordered_fresh
  balance := List.Perm.refl []
  distinct := List.Pairwise.nil
  numbered := fun t ht => by cases ht
  past := fun t ht => by cases ht
  inLine := List.Pairwise.nil
  ahead := fun t ht => by cases ht

namespace Kept

variable {s s' : Scheduler α κ τ} {moments : List (Moment α κ τ)}

theorem not_pending (h : Kept s moments) {t : Timer α τ} (ht : t ∈ firedIn moments) : t ∉ s.timers := by
  intro hpending
  have hnodup : (acceptedIn moments).Nodup := h.distinct.imp fun {a b} hab => by
    rintro rfl
    exact Nat.lt_irrefl _ hab
  have hboth := h.balance.nodup_iff.1 hnodup
  exact (List.nodup_append.1 hboth).2.2 t hpending t ht rfl

theorem pending_of_not_fired (h : Kept s moments) {t : Timer α τ} (ha : t ∈ acceptedIn moments)
    (ht : t ∉ firedIn moments) : t ∈ s.timers :=
  (List.mem_append.1 (h.balance.mem_iff.1 ha)).resolve_right ht

theorem aside (h : Kept s moments) {deed : Deed α κ τ} (ha : deed.accepted? = none) (hf : deed.fired? = none)
    (ho : s'.Ordered) (ht : s'.timers = s.timers) (hn : s'.nextSerial = s.nextSerial)
    (hclock : ∀ a : α, a ≤ s.now → a ≤ s'.now) : Kept s' (⟨deed, s'⟩ :: moments) := by
  have ea : acceptedIn (⟨deed, s'⟩ :: moments) = acceptedIn moments := List.filterMap_cons_none ha
  have ef : firedIn (⟨deed, s'⟩ :: moments) = firedIn moments := List.filterMap_cons_none hf
  constructor
  · exact ho
  · rw [ea, ef, ht]; exact h.balance
  · rw [ea]; exact h.distinct
  · rw [ea, hn]; exact h.numbered
  · rw [ef]; exact fun t hmem => ⟨(h.past t hmem).1, hclock _ (h.past t hmem).2⟩
  · rw [ef]; exact h.inLine
  · rw [ef, ht]; exact h.ahead

/-- What changes nothing may be noted. -/
theorem noted (h : Kept s moments) {deed : Deed α κ τ} (ha : deed.accepted? = none) (hf : deed.fired? = none) :
    Kept s (⟨deed, s⟩ :: moments) :=
  h.aside ha hf h.ordered rfl rfl fun _ hle => hle

/-- **A firing**: the first pending timer is behind all that have fired and before all that stay. -/
theorem fire (h : Kept s moments) {t : Timer α τ} (hs : s.takeDue = some (t, s')) :
    Kept s' (⟨.fired t, s'⟩ :: moments) ∧ s.timers = t :: s'.timers ∧ t.due ≤ s'.now := by
  have ho := h.ordered.takeDue hs
  obtain ⟨rest, hq, hdue, rfl⟩ := Scheduler.takeDue_eq_some hs
  have ht : t ∈ s.timers := hq ▸ List.mem_cons_self
  have hsorted := h.ordered.sorted
  rw [hq] at hsorted
  refine ⟨⟨ho, ?_, h.distinct, h.numbered, ?_, ?_, ?_⟩, hq, hdue⟩
  · have hb := h.balance
    rw [hq] at hb
    exact hb.trans List.perm_middle.symm
  · intro u hu
    rcases List.mem_cons.1 hu with rfl | hu'
    · exact ⟨h.ordered.dues _ ht, hdue⟩
    · exact h.past u hu'
  · exact List.Pairwise.cons (fun u hu => h.ahead u hu t ht) h.inLine
  · intro u hu v hv
    rcases List.mem_cons.1 hu with rfl | hu'
    · exact List.rel_of_pairwise_cons hsorted hv
    · exact h.ahead u hu' v (hq ▸ List.mem_cons_of_mem _ hv)

variable [Timekeeping α]

theorem accept (h : Kept s moments) {purpose : τ} {delay : α} (hs : s.setTimeout purpose delay = .ok s') :
    Kept s' (⟨.accepted ⟨s.now + delay / 1000.0, s.nextSerial, purpose⟩ s.now delay, s'⟩ :: moments) := by
  have ho := h.ordered.setTimeout hs
  obtain ⟨hd, rfl⟩ := Scheduler.setTimeout_eq_ok hs
  generalize hu : (⟨s.now + delay / 1000.0, s.nextSerial, purpose⟩ : Timer α τ) = u at ho ⊢
  have hserial : u.serial = s.nextSerial := by rw [← hu]
  have hdue : s.now ≤ u.due := by rw [← hu]; exact Timekeeping.le_wait h.ordered.clock hd
  have hmem : ∀ v, v ∈ Scheduler.enqueue u s.timers ↔ v = u ∨ v ∈ s.timers :=
    fun v => Scheduler.mem_enqueue u v s.timers
  constructor
  · exact ho
  · refine (List.Perm.cons u h.balance).trans ?_
    exact List.Perm.append_right _ (Scheduler.perm_enqueue u s.timers).symm
  · refine List.Pairwise.cons (fun t ht => ?_) h.distinct
    rw [hserial]
    exact h.numbered t ht
  · intro t ht
    rcases List.mem_cons.1 ht with rfl | ht'
    · rw [hserial]; exact Nat.lt_succ_self _
    · exact Nat.lt_succ_of_lt (h.numbered t ht')
  · exact h.past
  · exact h.inLine
  · intro t ht v hv
    rcases (hmem v).1 hv with rfl | hv'
    · refine Or.inr ⟨Timekeeping.le_trans (h.past t ht).2 hdue, ?_⟩
      rw [hserial]
      exact h.numbered t (h.balance.mem_iff.2 (List.mem_append_right _ ht))
    · exact h.ahead t ht v hv'

/-- **A frame's start**: the clock moves on, so what was due stays due. -/
theorem advance (h : Kept s moments) {delta : α} (hd : Scalar.isFinite delta = true ∨ delta < 0.0)
    (hs : s.advance delta = .ok s') : Kept s' (⟨.advanced delta, s'⟩ :: moments) := by
  have hneg := (Scheduler.advance_eq_ok hs).1
  have hel : Elapses delta := ⟨hd.resolve_right hneg, hneg⟩
  obtain ⟨ho, hle⟩ := h.ordered.advance hel hs
  obtain ⟨-, rfl⟩ := Scheduler.advance_eq_ok hs
  exact h.aside rfl rfl ho rfl rfl fun a ha => Timekeeping.le_trans ha hle

/-- **Each deed keeps it**, and says the right thing, if it happens where it may. -/
theorem deed [BEq κ] (h : Kept s moments) {deed : Deed α κ τ} (hwithin : deed.Within Elapses)
    (hhappens : deed.Happens s moments) :
    Kept (deed.effect s) (⟨deed, deed.effect s⟩ :: moments) ∧ Moment.Right ⟨deed, deed.effect s⟩ s moments := by
  cases deed with
  | accepted t since delay =>
    have hregister := Deed.setTimeout_of_fits hhappens
    obtain ⟨helapses, rfl, ht⟩ := hhappens
    have hkept := h.accept hregister
    rw [← ht] at hkept
    exact ⟨hkept, rfl, helapses, congrArg Timer.due ht⟩
  | advanced delta => exact ⟨h.advance (.inl hwithin.1) (if_neg hhappens), rfl⟩
  | fired t => exact h.fire hhappens
  | connected k =>
    have hsame : (s.connect k).timers = s.timers ∧ (s.connect k).nextSerial = s.nextSerial ∧
        (s.connect k).now = s.now := by
      unfold Scheduler.connect
      split <;> exact ⟨rfl, rfl, rfl⟩
    obtain ⟨ht, hn, hclock⟩ := hsame
    exact ⟨h.aside rfl rfl (h.ordered.connect k) ht hn fun a ha => hclock ▸ ha, trivial⟩
  | disconnected k => exact ⟨h.aside rfl rfl (h.ordered.disconnect k) rfl rfl fun _ ha => ha, trivial⟩
  | refused fault => exact ⟨h.noted rfl rfl, rfl⟩
  | broke t fault => exact ⟨h.noted rfl rfl, rfl, hhappens, h.not_pending hhappens⟩
  | calling => exact ⟨h.noted rfl rfl, h.ordered.not_due_of_takeDue hhappens⟩
  | called k delta => exact ⟨h.noted rfl rfl, trivial⟩

end Kept

/-! ## Every errand keeps it -/

namespace Chronicle

/-- **A record that is right at each of its moments**, and up to date. -/
structure Sound (c : Chronicle α κ τ ρ) : Prop where
  kept : Kept c.stage.scheduler c.latestFirst
  current : latestScheduler c.latestFirst = c.stage.scheduler
  moments : ∀ m earlier, m :: earlier <:+ c.latestFirst →
    Kept m.scheduler (m :: earlier) ∧ m.Right (latestScheduler earlier) earlier

variable [BEq κ] [Timekeeping α] {c c' : Chronicle α κ τ ρ}

theorem Sound.doing (hc : c.Sound) {deed : Deed α κ τ} (hwithin : deed.Within Elapses)
    (hhappens : deed.Happens c.stage.scheduler c.latestFirst) : (c.doing deed).Sound := by
  obtain ⟨hkept, hright⟩ := hc.kept.deed hwithin hhappens
  refine ⟨hkept, rfl, fun m earlier hm => ?_⟩
  rcases List.suffix_cons_iff.1 hm with heq | hm'
  · cases heq
    rw [hc.current]
    exact ⟨hkept, hright⟩
  · exact hc.moments m earlier hm'

/-- **A sound record goes on soundly.** -/
theorem Sound.gains (hc : c.Sound) (h : Gains (Deed.Within Elapses) c c') : c'.Sound := by
  induction h with
  | nothing => exact hc
  | own _ hstage ih => exact ⟨hstage ▸ ih.kept, ih.current.trans hstage.symm, ih.moments⟩
  | deed _ hwithin hhappens ih => exact ih.doing hwithin hhappens

end Chronicle

theorem Chronicle.sound_fresh [Timekeeping α] {s : Stage α κ τ ρ} (hs : s.scheduler = .fresh) :
    (⟨s, []⟩ : Chronicle α κ τ ρ).Sound where
  kept := hs ▸ kept_fresh
  current := hs.symm
  moments := fun m earlier hm => by cases List.suffix_nil.1 hm

/-- **Timers fire once, in order and in time.**  Of every errand with a fresh scheduler the record tells what happened,
and at each of its moments every accepted timer is either pending or fired.  A timer that fails is consumed, and what is
refused changes nothing. -/
theorem Errand.timers_fire_once_in_order [BEq κ] [Timekeeping α] (errand : Errand α κ τ ρ) (s : Stage α κ τ ρ)
    (hs : s.scheduler = .fresh) :
    let told := errand.told.run ⟨s, []⟩
    errand.act.run s = (told.1, told.2.stage) ∧
    told.2.Sound ∧
    (∀ m earlier, m :: earlier <:+ told.2.latestFirst → ∀ t ∈ acceptedIn (m :: earlier),
      (t ∈ m.scheduler.timers ↔ t ∉ firedIn (m :: earlier))) ∧
    (∀ (h : Handlers α κ τ ρ) limit s t scheduler fault s', s.scheduler.takeDue = some (t, scheduler) →
      (h.onTimer t.purpose).run { s with scheduler } = (.error fault, s') →
      (Stage.fireDue h (limit + 1)).run s = (.error fault, s')) ∧
    (∀ (s : Stage α κ τ ρ) purpose delay, ¬ Elapses delay →
      (Stage.scheduling (Scheduler.setTimeout purpose delay)).run s = (.error (.timerDelay delay), s)) ∧
    (∀ (h : Handlers α κ τ ρ) spare (s : Stage α κ τ ρ) delta, delta < 0.0 →
      (Stage.step h spare delta).run s = (.error (.frameDelta delta), s)) := by
  have hsound : (errand.told.run ⟨s, []⟩).2.Sound :=
    (Chronicle.sound_fresh hs).gains (errand.gains_told _)
  refine ⟨errand.told_act ⟨s, []⟩, hsound, ?_, ?_, ?_, ?_⟩
  · intro m earlier hm t ht
    have hk := (hsound.moments m earlier hm).1
    exact ⟨fun hpending hfired => hk.not_pending hfired hpending, hk.pending_of_not_fired ht⟩
  · intro h limit s t scheduler fault s' hdue hfail
    exact Stage.run_fireDue_failed limit hdue hfail
  · intro s purpose delay hdelay
    have ha : Scheduler.acceptsDelay delay = false := by
      rw [← Bool.not_eq_true, Scheduler.acceptsDelay_iff]
      exact hdelay
    exact Stage.run_scheduling_refused ((Scheduler.setTimeout_eq_error_iff purpose delay s.scheduler).2 ha)
  · intro h spare s delta hdelta
    exact Stage.run_step_refused h spare hdelta s

/-- **A cascade**: the first timer registers a second one that falls due at once, and the second one fails. -/
noncomputable def cascade : Errand ℝ Unit Bool Unit :=
  .book true 0.0 fun _ => .connect () <|
    .step 1 1.0 (Or.inl rfl) (fun first => if first then .book false 0.0 fun _ => .done else .fail .notStarted)
      (fun _ _ => .done) fun _ => .done

theorem cascade_fires_once_in_order :
    let told := cascade.told.run ⟨{ Host.fresh with cast := () }, []⟩
    told.2.Sound ∧ (firedIn told.2.latestFirst).map (·.serial) = [1, 0] := by
  refine ⟨(cascade.timers_fire_once_in_order { Host.fresh with cast := () } rfl).2.1, ?_⟩
  have hnow : ¬ (0.0 : ℝ) < 0.0 := by norm_num
  have hframe : ¬ (1.0 : ℝ) < 0.0 := by norm_num
  have hfirst : (0.0 + 0.0 / 1000.0 : ℝ) ≤ 0.0 + 1.0 := by norm_num
  have hsecond : (0.0 + 1.0 + 0.0 / 1000.0 : ℝ) ≤ 0.0 + 1.0 := by norm_num
  have hfinite : ∀ x : ℝ, Scalar.isFinite x = true := fun _ => rfl
  have hfree : List.contains ([] : List Unit) () = false := rfl
  simp [-bind_pure_comp, cascade, Errand.told, Chronicle.booked, Chronicle.operation, Chronicle.admitting,
    Chronicle.plain, Chronicle.note, Chronicle.step, Chronicle.fireDue, Act.run_bind, Act.run_orElse,
    Stage.run_scheduling, Host.fresh, Scheduler.fresh, Scheduler.connect, Scheduler.setTimeout,
    Scheduler.acceptsDelay, Scheduler.enqueue, Scheduler.advance, Scheduler.takeDue, firedIn, Deed.fired?, *]

end Bystander
