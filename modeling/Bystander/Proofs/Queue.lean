import Bystander.Proofs.Timekeeping
/-! # The order of the timers

The pending timers stand in the order in which they fall due, those due at the same time in the order of their
registration, and the numbers given out so far are below the next one.  Every operation of a scheduler keeps this
(`Ordered`), so that a scheduler of which no timer can be taken has none that is due (`not_due_of_takeDue`).
-/
namespace Bystander

open Scalar (Defined Elapses)

variable {α κ τ : Type} [Scalar α]

/-- **The order of timers**: by the time at which they fall due, then by their number. -/
def Timer.Before (t u : Timer α τ) : Prop := t.due < u.due ∨ t.due ≤ u.due ∧ t.serial < u.serial

/-- **A scheduler in order**: its clock and its timers have defined times, and its timers stand in line. -/
structure Scheduler.Ordered (s : Scheduler α κ τ) : Prop where
  clock : Defined s.now
  dues : ∀ t ∈ s.timers, Defined t.due
  sorted : s.timers.Pairwise Timer.Before
  numbered : ∀ t ∈ s.timers, t.serial < s.nextSerial

namespace Timer

variable [Timekeeping α] {t u v : Timer α τ}

theorem Before.due_le (h : t.Before u) : t.due ≤ u.due := by
  rcases h with h | ⟨h, -⟩
  · exact Timekeeping.le_of_lt h
  · exact h

end Timer

namespace Scheduler

section Taking

variable {s s' : Scheduler α κ τ} {t : Timer α τ}

/-- **What taking a timer does**: the first timer is due and goes, all else stays. -/
theorem takeDue_eq_some (h : s.takeDue = some (t, s')) :
    ∃ rest, s.timers = t :: rest ∧ t.due ≤ s.now ∧ s' = { s with timers := rest } := by
  unfold takeDue at h
  split at h
  · cases h
  · next u rest hs =>
    split at h
    · next hdue =>
      cases h
      exact ⟨rest, hs, hdue, rfl⟩
    · cases h

theorem takeDue_eq_none (h : s.takeDue = none) : ∀ t rest, s.timers = t :: rest → ¬ t.due ≤ s.now := by
  intro t rest hs hdue
  unfold takeDue at h
  rw [hs] at h
  simp [hdue] at h

variable [Timekeeping α]

/-- **Where no timer can be taken none is due.** -/
theorem Ordered.not_due_of_takeDue (hs : s.Ordered) (h : s.takeDue = none) : ∀ t ∈ s.timers, ¬ t.due ≤ s.now := by
  intro t ht hdue
  have hfirst := takeDue_eq_none h
  have hsorted := hs.sorted
  cases hq : s.timers with
  | nil => rw [hq] at ht; cases ht
  | cons u rest =>
    rw [hq] at ht hsorted
    rcases List.mem_cons.1 ht with rfl | htr
    · exact hfirst t rest hq hdue
    · have hut : u.Before t := List.rel_of_pairwise_cons hsorted htr
      exact hfirst u rest hq (Timekeeping.le_trans hut.due_le hdue)

end Taking

section Operations

variable {s s' : Scheduler α κ τ}

theorem perm_enqueue (t : Timer α τ) : ∀ timers : List (Timer α τ), (enqueue t timers).Perm (t :: timers)
  | [] => List.Perm.refl _
  | head :: rest => by
    unfold enqueue
    split
    · exact List.Perm.refl _
    · exact ((perm_enqueue t rest).cons head).trans (List.Perm.swap t head rest)

/-- **What an accepted registration does.** -/
theorem setTimeout_eq_ok {purpose : τ} {delay : α} (h : s.setTimeout purpose delay = .ok s') :
    Elapses delay ∧ s' = { s with
      timers := enqueue ⟨s.now + delay / 1000.0, s.nextSerial, purpose⟩ s.timers
      nextSerial := s.nextSerial + 1 } := by
  unfold setTimeout at h
  split at h
  · next ha =>
    cases h
    exact ⟨(acceptsDelay_iff delay).1 ha, rfl⟩
  · cases h

theorem advance_eq_ok {delta : α} (h : s.advance delta = .ok s') :
    ¬ delta < 0.0 ∧ s' = { s with now := s.now + delta, frameCount := s.frameCount + 1 } := by
  unfold advance at h
  split at h
  · cases h
  · next hd =>
    cases h
    exact ⟨hd, rfl⟩

theorem Ordered.takeDue {t : Timer α τ} (hs : s.Ordered) (h : s.takeDue = some (t, s')) : s'.Ordered := by
  obtain ⟨rest, hq, -, rfl⟩ := takeDue_eq_some h
  have hmem : ∀ u ∈ rest, u ∈ s.timers := fun u hu => hq ▸ List.mem_cons_of_mem t hu
  have hsorted := hs.sorted
  rw [hq] at hsorted
  exact ⟨hs.clock, fun u hu => hs.dues u (hmem u hu), hsorted.of_cons, fun u hu => hs.numbered u (hmem u hu)⟩

omit [Scalar α] in
theorem now_connect [BEq κ] (k : κ) : (s.connect k).now = s.now := by
  unfold connect
  split <;> rfl

theorem Ordered.connect [BEq κ] (hs : s.Ordered) (k : κ) : (s.connect k).Ordered := by
  unfold Scheduler.connect
  split
  · exact hs
  · exact ⟨hs.clock, hs.dues, hs.sorted, hs.numbered⟩

theorem Ordered.disconnect [BEq κ] (hs : s.Ordered) (k : κ) : (s.disconnect k).Ordered :=
  ⟨hs.clock, hs.dues, hs.sorted, hs.numbered⟩

end Operations

/-! ## Every operation keeps the order -/

variable [Timekeeping α] {s s' : Scheduler α κ τ}

theorem ordered_fresh : (fresh : Scheduler α κ τ).Ordered where
  clock := Timekeeping.defined_zero
  dues := fun t ht => by cases ht
  sorted := List.Pairwise.nil
  numbered := fun t ht => by cases ht

theorem pairwise_enqueue (t : Timer α τ) (ht : Defined t.due) :
    ∀ timers : List (Timer α τ), (∀ u ∈ timers, Defined u.due) → (∀ u ∈ timers, u.serial < t.serial) →
      timers.Pairwise Timer.Before → (enqueue t timers).Pairwise Timer.Before
  | [], _, _, _ => List.pairwise_singleton _ _
  | head :: rest, hdue, hserial, hsorted => by
    have hhead : Defined head.due := hdue head List.mem_cons_self
    unfold enqueue
    split
    · next hlt =>
      refine List.Pairwise.cons (fun u hu => ?_) hsorted
      rcases List.mem_cons.1 hu with rfl | hu'
      · exact Or.inl hlt
      · have hhu : head.Before u := List.rel_of_pairwise_cons hsorted hu'
        exact Or.inl (Timekeeping.lt_of_lt_of_le ht hhead (hdue u hu) hlt hhu.due_le)
    · next hge =>
      have hle : head.due ≤ t.due := Timekeeping.le_of_not_lt ht hhead hge
      have ih := pairwise_enqueue t ht rest (fun u hu => hdue u (List.mem_cons_of_mem _ hu))
        (fun u hu => hserial u (List.mem_cons_of_mem _ hu)) hsorted.of_cons
      refine List.Pairwise.cons (fun u hu => ?_) ih
      rcases (mem_enqueue t u rest).1 hu with rfl | hu'
      · -- of two that fall due together the new one has the higher number
        exact Or.inr ⟨hle, hserial head List.mem_cons_self⟩
      · exact List.rel_of_pairwise_cons hsorted hu'

theorem Ordered.setTimeout {purpose : τ} {delay : α} (hs : s.Ordered) (h : s.setTimeout purpose delay = .ok s') :
    s'.Ordered := by
  obtain ⟨hd, rfl⟩ := setTimeout_eq_ok h
  have hdue := Timekeeping.defined_wait hs.clock hd
  refine ⟨hs.clock, fun u hu => ?_, pairwise_enqueue _ hdue _ hs.dues hs.numbered hs.sorted, fun u hu => ?_⟩
  · rcases (mem_enqueue _ u _).1 hu with rfl | hu'
    · exact hdue
    · exact hs.dues u hu'
  · rcases (mem_enqueue _ u _).1 hu with rfl | hu'
    · exact Nat.lt_succ_self _
    · exact Nat.lt_succ_of_lt (hs.numbered u hu')

theorem Ordered.advance {delta : α} (hs : s.Ordered) (hd : Elapses delta) (h : s.advance delta = .ok s') :
    s'.Ordered ∧ s.now ≤ s'.now := by
  obtain ⟨-, rfl⟩ := advance_eq_ok h
  exact ⟨⟨Timekeeping.defined_add hs.clock hd, hs.dues, hs.sorted, hs.numbered⟩, Timekeeping.le_add hs.clock hd⟩

end Scheduler
end Bystander
