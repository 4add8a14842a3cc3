import Bystander.Host.Stage
import Bystander.Proofs.Deeds
import Bystander.Proofs.Ticking
/-! # What a callback may arrange

A callback connects and disconnects callbacks and registers timers; the clock it leaves alone.  If no timer that it
registers is due at once, the queue stays split: in front the timers that were due before, in the same order, and behind
them only timers that are not due (`Arranged.splits`).  A queue can be split at any moment of a scheduler whose clock
has never gone back (`Sound.splits`), and every scheduler that was fresh once is of that kind (`Errand.sound_act`).
-/
namespace Bystander

open Scalar (Defined)

variable {α κ τ ρ : Type} [Scalar α]

namespace Scheduler

/-- **What a callback may arrange**: callbacks come and go, and timers are registered of which none is due at once. -/
inductive Arranged [BEq κ] (s : Scheduler α κ τ) : Scheduler α κ τ → Prop
  | refl : Arranged s s
  | connect {t : Scheduler α κ τ} (h : Arranged s t) (k : κ) : Arranged s (t.connect k)
  | disconnect {t : Scheduler α κ τ} (h : Arranged s t) (k : κ) : Arranged s (t.disconnect k)
  | register {t u : Scheduler α κ τ} {purpose : τ} {delay : α} (h : Arranged s t)
    (hregister : t.setTimeout purpose delay = .ok u) (hlater : ¬ t.now + delay / 1000.0 ≤ t.now) : Arranged s u

/-- **A scheduler that was started**: its clock has never gone back, and while it is defined the timers stand in
line. -/
structure Sound (s : Scheduler α κ τ) : Prop where
  started : ¬ s.now < 0.0
  ordered : Defined s.now → s.Ordered

/-- **A queue that is split**: in front the timers that are due, behind them those that are not. -/
structure Splits (s : Scheduler α κ τ) (due later : List (Timer α τ)) : Prop where
  timers : s.timers = due ++ later
  due : ∀ t ∈ due, t.due ≤ s.now
  later : ∀ t ∈ later, ¬ t.due ≤ s.now

section Arranged

variable [BEq κ] {s t : Scheduler α κ τ}

theorem Arranged.clock (h : Arranged s t) : t.now = s.now ∧ t.frameCount = s.frameCount := by
  induction h with
  | refl => exact ⟨rfl, rfl⟩
  | connect _ k ih =>
    rw [← ih.1, ← ih.2]
    unfold Scheduler.connect
    split <;> exact ⟨rfl, rfl⟩
  | disconnect _ k ih => exact ih
  | register _ hregister _ ih =>
    obtain ⟨-, rfl⟩ := setTimeout_eq_ok hregister
    exact ih

variable [Timekeeping α]

theorem Arranged.sound (h : Arranged s t) (hs : s.Sound) : t.Sound := by
  refine ⟨by rw [h.clock.1]; exact hs.started, fun hclock => ?_⟩
  rw [h.clock.1] at hclock
  have hordered := hs.ordered hclock
  clear hs hclock
  induction h with
  | refl => exact hordered
  | connect _ k ih => exact ih.connect k
  | disconnect _ k ih => exact ih.disconnect k
  | register _ hregister _ ih => exact ih.setTimeout hregister

theorem enqueue_append {now : α} {t : Timer α τ} (ht : ¬ t.due ≤ now) (later : List (Timer α τ)) :
    ∀ {due : List (Timer α τ)}, (∀ u ∈ due, u.due ≤ now) → enqueue t (due ++ later) = due ++ enqueue t later
  | [], _ => rfl
  | u :: due, hdue => by
    have hbehind : ¬ t.due < u.due := fun hlt =>
      ht (Timekeeping.le_trans (Timekeeping.le_of_lt hlt) (hdue u List.mem_cons_self))
    rw [List.cons_append, enqueue, if_neg hbehind,
      enqueue_append ht later fun v hv => hdue v (List.mem_cons_of_mem u hv), List.cons_append]

/-- **What is due stays in front** of what is arranged. -/
theorem Arranged.splits {due later : List (Timer α τ)} (h : Arranged s t) (hs : s.Splits due later) :
    ∃ later', t.Splits due later' := by
  induction h with
  | refl => exact ⟨later, hs⟩
  | connect _ k ih =>
    obtain ⟨later', ht⟩ := ih
    refine ⟨later', ?_⟩
    unfold Scheduler.connect
    split <;> exact ⟨ht.timers, ht.due, ht.later⟩
  | disconnect _ k ih =>
    obtain ⟨later', ht⟩ := ih
    exact ⟨later', ht.timers, ht.due, ht.later⟩
  | @register t u purpose delay _ hregister hlater ih =>
    obtain ⟨later', ht⟩ := ih
    obtain ⟨-, rfl⟩ := setTimeout_eq_ok hregister
    let timer : Timer α τ := ⟨t.now + delay / 1000.0, t.nextSerial, purpose⟩
    have htimers : enqueue timer t.timers = due ++ enqueue timer later' := by
      rw [ht.timers]
      exact enqueue_append hlater later' ht.due
    refine ⟨enqueue timer later', htimers, ht.due, fun u hu => ?_⟩
    rcases (mem_enqueue timer u later').1 hu with rfl | hu
    · exact hlater
    · exact ht.later u hu

end Arranged

/-! ## Schedulers that were started -/

section Sound

variable [Ticking α] {s s' : Scheduler α κ τ}

theorem sound_fresh : (fresh : Scheduler α κ τ).Sound where
  started h :=
    Timekeeping.not_le_of_lt Timekeeping.defined_zero Timekeeping.defined_zero h (Timekeeping.le_of_lt h)
  ordered _ := ordered_fresh

omit [Ticking α] in
theorem Sound.takeDue {t : Timer α τ} (hs : s.Sound) (h : s.takeDue = some (t, s')) : s'.Sound := by
  obtain ⟨rest, -, -, hs'⟩ := takeDue_eq_some h
  have hclock : s'.now = s.now := by rw [hs']
  refine ⟨by rw [hclock]; exact hs.started, fun hdefined => (hs.ordered ?_).takeDue h⟩
  rwa [hclock] at hdefined

/-- **A clock that was started goes on**, unless what it is moved on by is undefined. -/
theorem Sound.advance {delta : α} (hs : s.Sound) (h : s.advance delta = .ok s') : s'.Sound := by
  obtain ⟨hdelta, rfl⟩ := advance_eq_ok h
  have hparts (hdefined : Defined (s.now + delta)) : Defined s.now ∧ s.now ≤ s.now + delta := by
    obtain ⟨hnow, hd⟩ := Strict.defined_of_add hdefined
    exact ⟨hnow, (Ticking.tick hnow hs.started hd hdelta).2⟩
  refine ⟨fun hnegative => ?_, fun hdefined => ?_⟩
  · have hdefined := Strict.defined_of_lt hnegative
    obtain ⟨hnow, hle⟩ := hparts hdefined
    exact Timekeeping.not_negative_of_le hnow hs.started hdefined hle hnegative
  · have hordered := hs.ordered (hparts hdefined).1
    exact ⟨hdefined, hordered.dues, hordered.sorted, hordered.numbered⟩

theorem Sound.setTimeout {purpose : τ} {delay : α} (hs : s.Sound) (h : s.setTimeout purpose delay = .ok s') :
    s'.Sound := by
  have hclock : s'.now = s.now := by
    obtain ⟨-, rfl⟩ := setTimeout_eq_ok h
    rfl
  refine ⟨by rw [hclock]; exact hs.started, fun hdefined => (hs.ordered ?_).setTimeout h⟩
  rwa [hclock] at hdefined

theorem Sound.deed [BEq κ] (hs : s.Sound) {deed : Deed α κ τ} {earlier : List (Moment α κ τ)}
    (h : deed.Happens s earlier) : (deed.effect s).Sound := by
  cases deed with
  | accepted t since delay => exact hs.setTimeout (Deed.setTimeout_of_fits h)
  | connected k => exact (Arranged.refl.connect k).sound hs
  | disconnected k => exact (Arranged.refl.disconnect k).sound hs
  | advanced delta => exact hs.advance (if_neg h)
  | fired t => exact hs.takeDue h
  | _ => exact hs

end Sound

/-! ## Queues that are split -/

section Splits

variable {s : Scheduler α κ τ} {due later : List (Timer α τ)}

theorem Splits.takeDue_nil (h : s.Splits [] later) : s.takeDue = none := by
  unfold Scheduler.takeDue
  cases htimers : s.timers with
  | nil => rfl
  | cons t rest =>
    have ht : t ∈ later := by
      rw [← List.nil_append later, ← h.timers, htimers]
      exact List.mem_cons_self
    exact if_neg (h.later t ht)

theorem Splits.takeDue_cons {t : Timer α τ} (h : s.Splits (t :: due) later) :
    s.takeDue = some (t, { s with timers := due ++ later }) ∧
      Splits { s with timers := due ++ later } due later := by
  refine ⟨?_, rfl, fun u hu => h.due u (List.mem_cons_of_mem t hu), h.later⟩
  unfold Scheduler.takeDue
  rw [h.timers]
  exact if_pos (h.due t List.mem_cons_self)

/-- Where all that is chosen stands before all that is not, choosing cuts a list in two. -/
theorem filter_append_filter_not {γ : Type} {R : γ → γ → Prop} (p : γ → Bool)
    (hR : ∀ a b, R a b → p b = true → p a = true) :
    ∀ {l : List γ}, l.Pairwise R → l = l.filter p ++ l.filter fun a => !p a
  | [], _ => rfl
  | a :: l, h => by
    cases ha : p a with
    | true =>
      rw [List.filter_cons_of_pos ha, List.filter_cons_of_neg (by rw [ha]; exact Bool.false_ne_true),
        List.cons_append, ← filter_append_filter_not p hR h.of_cons]
    | false =>
      have hnone : ∀ b ∈ a :: l, ¬ p b = true := by
        intro b hb hpb
        rcases List.mem_cons.1 hb with rfl | hb
        · rw [ha] at hpb
          cases hpb
        · rw [hR a b (List.rel_of_pairwise_cons h hb) hpb] at ha
          cases ha
      have hall : ∀ b ∈ a :: l, (!p b) = true := fun b hb => by
        rw [Bool.not_eq_true', ← Bool.not_eq_true]
        exact hnone b hb
      rw [List.filter_eq_nil_iff.2 hnone, List.nil_append, List.filter_eq_self.2 hall]

/-- **The queue of a scheduler in order is split**: the timers that are due stand in front. -/
theorem Ordered.splits [Timekeeping α] (hs : s.Ordered) :
    s.Splits (s.timers.filter fun t => decide (t.due ≤ s.now)) (s.timers.filter fun t => !decide (t.due ≤ s.now)) := by
  refine ⟨filter_append_filter_not _ (fun t u htu hu => ?_) hs.sorted, fun t ht => ?_, fun t ht => ?_⟩
  · exact decide_eq_true (Timekeeping.le_trans htu.due_le (of_decide_eq_true hu))
  · exact of_decide_eq_true (List.mem_filter.1 ht).2
  · have hlater := (List.mem_filter.1 ht).2
    rwa [Bool.not_eq_true', decide_eq_false_iff_not] at hlater

theorem Sound.splits [Ticking α] (hs : s.Sound) :
    ∃ later, s.Splits (s.timers.filter fun t => decide (t.due ≤ s.now)) later := by
  by_cases hclock : Defined s.now
  · exact ⟨_, (hs.ordered hclock).splits⟩
  · -- At a clock that is undefined nothing is due.
    have hnone : ∀ t ∈ s.timers, ¬ t.due ≤ s.now := fun t _ hdue => hclock (Strict.defined_of_le hdue)
    rw [List.filter_eq_nil_iff.2 fun t ht => by rw [decide_eq_true_eq]; exact hnone t ht]
    exact ⟨s.timers, rfl, List.forall_mem_nil _, hnone⟩

end Splits

end Scheduler

section Errands

variable [Ticking α] [BEq κ]

theorem Chronicle.Gains.sound {P : Deed α κ τ → Prop} {c c' : Chronicle α κ τ ρ} (h : Gains P c c')
    (hc : c.stage.scheduler.Sound) : c'.stage.scheduler.Sound := by
  induction h with
  | nothing => exact hc
  | own _ hstage ih => exact hstage ▸ ih
  | deed _ _ hhappens ih => exact ih.deed hhappens

/-- **Whatever is done with a fresh scheduler**, what it leaves is a scheduler that was started. -/
theorem Errand.sound_act (errand : Errand α κ τ ρ) {s : Stage α κ τ ρ} (hs : s.scheduler = .fresh) :
    (errand.act.run s).2.scheduler.Sound := by
  have hfresh : (⟨s, []⟩ : Chronicle α κ τ ρ).stage.scheduler.Sound := by
    rw [hs]
    exact Scheduler.sound_fresh
  rw [errand.told_act ⟨s, []⟩]
  exact (errand.gains_told ⟨s, []⟩).sound hfresh

end Errands

/-! ## Callbacks on a stage -/

/-- The faults of the frames that failed, in the order in which they were written down. -/
def Journal.failures (j : Journal α) : List (Fault α) :=
  j.latestFirst.reverse.filterMap fun line =>
    match line.event with
    | .frameFailed fault => some fault
    | _ => none

omit [Scalar α] in
theorem Journal.failures_note_failed (fault : Fault α) (j : Journal α) :
    (j.note (.frameFailed fault)).failures = j.failures ++ [fault] := by
  simp [Journal.failures, Journal.note]

omit [Scalar α] in
theorem Journal.failures_note_other {event : Event α} (h : ∀ fault, event ≠ .frameFailed fault) (j : Journal α) :
    (j.note event).failures = j.failures := by
  cases event with
  | frameFailed fault => exact absurd rfl (h fault)
  | _ => simp [Journal.failures, Journal.note]

/-- **What a callback may do to a stage**: it arranges things on the scheduler, and it does not write down that a frame
failed.  Everything else it may do. -/
structure Stage.Arranges [BEq κ] (s t : Stage α κ τ ρ) : Prop where
  scheduler : s.scheduler.Arranged t.scheduler
  failures : t.journal.failures = s.journal.failures

/-- **Handlers that only arrange things**, at one clock and in frames of one length, whether they answer or fail. -/
structure Handlers.Arranges [BEq κ] (h : Handlers α κ τ ρ) (clock delta : α) : Prop where
  onTimer : ∀ p s, s.scheduler.now = clock → Stage.Arranges s ((h.onTimer p).run s).2
  onFrame : ∀ k s, s.scheduler.now = clock → Stage.Arranges s ((h.onFrame k delta).run s).2

end Bystander
