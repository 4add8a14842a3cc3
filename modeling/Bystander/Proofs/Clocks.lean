import Bystander.Proofs.Alone
import Bystander.Proofs.Doubles
/-! # The clock of the scheduler and the clock of the brain

A session counts its seconds twice.  The scheduler's clock counts every delta that it accepts; the brain's clock counts
one that is not finite as nothing.  So the two agree for as long as all deltas are finite.  Once an undefined delta has
been accepted, no timer of the scheduler falls due again.
-/
namespace Bystander

open Scalar (Defined Elapses)
open Act (Obeys)

variable {α κ τ : Type} [Scalar α]

/-! ## One frame -/

theorem Brain.effectiveDelta_of_elapses {delta : α} (h : Elapses delta) : effectiveDelta delta = delta := by
  unfold effectiveDelta
  rw [h.1]
  simp [h.2]

theorem Brain.effectiveDelta_of_not_elapses {delta : α} (h : ¬ Elapses delta) : effectiveDelta delta = 0.0 := by
  unfold effectiveDelta
  split
  · rfl
  · next hcounted =>
    rw [Bool.or_eq_true, Bool.not_eq_true', decide_eq_true_iff, not_or, Bool.not_eq_false] at hcounted
    exact absurd hcounted h

theorem Brain.clock_frame (ending : Nat → τ) (delta : α) {s : Scene α κ τ} (hopen : s.brain.closed = false) :
    ((Brain.frame ending delta).run s).2.brain.state.clock = s.brain.state.clock + effectiveDelta delta := by
  have hbehave : Obeys (leaving fun c : Scene α κ τ => c.brain.state.clock) (behave ending) := by
    refine obeys_behave ending (fun c d h => ?_) ((Wave.obeys_frame ending).imp fun c d h => ?_) (fun c d h => ?_)
      (fun c d h => ?_) (Walk.obeys_frame.imp fun c d h => ?_)
    · obtain ⟨_, _, _, -, rfl⟩ := h
      rfl
    · obtain ⟨_, _, _, _, _, _, _, -, rfl⟩ := h
      rfl
    · obtain ⟨_, _, _, _, -, rfl⟩ := h
      rfl
    · obtain ⟨_, _, _, _, _, -, rfl⟩ := h
      rfl
    · obtain ⟨_, _, _, _, _, _, _, _, _, _, _, -, rfl⟩ := h
      rfl
  rw [run_frame_open ending delta hopen]
  exact hbehave (begin delta s)

/-- A frame of a brain only adds a timer, which is numbered next. -/
theorem Brain.scheduler_frame (ending : Nat → τ) (delta : α) (s : Scene α κ τ) :
    ((Brain.frame ending delta).run s).2.scheduler = s.scheduler ∨
      ∃ n delay, ((Brain.frame ending delta).run s).2.scheduler = s.scheduler.asked (ending n) delay := by
  rcases Brain.arm_frame ending delta s with ⟨hscheduler, -⟩ | ⟨-, -, -, hscheduler⟩
  · exact Or.inl hscheduler
  · exact Or.inr ⟨_, _, hscheduler⟩

/-- **What a frame does to the timers**: those that are due go, the others stay, and new ones are numbered next. -/
structure Scheduler.Turns (s t : Scheduler α κ τ) (delta : α) : Prop where
  now : t.now = s.now + delta
  stay : ∀ u ∈ s.timers, ¬ u.due ≤ s.now + delta → u ∈ t.timers
  new : ∀ u ∈ t.timers, u ∈ s.timers ∨ u.serial = s.nextSerial
  go : [Timekeeping α] → s.Ordered → Elapses delta → ∀ u ∈ s.timers, u.due ≤ s.now + delta → u ∉ t.timers
  ordered : [Timekeeping α] → s.Ordered → Elapses delta → t.Ordered

namespace Bot

variable {s : BotStage α Empty} {c d : Scene α (Callback Empty) (Alarm Empty)} {delta : α}

theorem turns_of_rings (hrings : Scene.Rings (c.ticked delta) d) (hdue : d.scheduler.takeDue = none)
    {t : Scheduler α (Callback Empty) (Alarm Empty)}
    (ht : t = d.scheduler ∨ ∃ purpose delay, t = d.scheduler.asked purpose delay) : c.scheduler.Turns t delta := by
  obtain ⟨fired, timers, _, _, _, _, hsplit, hfired, -, rfl⟩ := hrings
  have hticked : c.scheduler.timers = fired ++ timers := hsplit
  have hnow : t.now = c.scheduler.now + delta := by
    rcases ht with rfl | ⟨purpose, delay, rfl⟩
    · rfl
    · rw [Scheduler.now_asked]
      rfl
  have hkept : ∀ u ∈ timers, u ∈ t.timers := by
    rcases ht with rfl | ⟨purpose, delay, rfl⟩
    · exact fun u hu => hu
    · exact fun u hu => Scheduler.timers_subset_asked _ purpose delay hu
  have hnew : ∀ u ∈ t.timers, u ∈ timers ∨ u.serial = c.scheduler.nextSerial := by
    rcases ht with rfl | ⟨purpose, delay, rfl⟩
    · exact fun u hu => Or.inl hu
    · intro u hu
      rcases Scheduler.mem_asked hu with rfl | hold
      · exact Or.inr rfl
      · exact Or.inl hold
  have hrest : [Timekeeping α] → c.scheduler.Ordered → Elapses delta →
      ({ (c.ticked delta).scheduler with timers } : Scheduler α (Callback Empty) (Alarm Empty)).Ordered := by
    intro _ ho he
    have hsorted := ho.sorted
    rw [hticked, List.pairwise_append] at hsorted
    have hmem : ∀ u ∈ timers, u ∈ c.scheduler.timers := fun u hu => hticked ▸ List.mem_append_right fired hu
    exact ⟨Timekeeping.defined_add ho.clock he, fun u hu => ho.dues u (hmem u hu), hsorted.2.1,
      fun u hu => ho.numbered u (hmem u hu)⟩
  constructor
  · exact hnow
  · intro u hu hlate
    rw [hticked] at hu
    rcases List.mem_append.1 hu with hgone | hstays
    · exact absurd (hfired u hgone) hlate
    · exact hkept u hstays
  · intro u hu
    rcases hnew u hu with hold | hserial
    · exact Or.inl (hticked ▸ List.mem_append_right fired hold)
    · exact Or.inr hserial
  · intro _ ho he u hu hle hstays
    rcases hnew u hstays with hold | hserial
    · exact (hrest ho he).not_due_of_takeDue hdue u hold hle
    · have hlt := ho.numbered u hu
      rw [hserial] at hlt
      exact Nat.lt_irrefl _ hlt
  · intro _ ho he
    rcases ht with rfl | ⟨purpose, delay, rfl⟩
    · exact hrest ho he
    · exact (hrest ho he).asked purpose delay

/-- **A frame of a session** moves each clock by its own measure, and turns the timers. -/
theorem Shows.turns (h : Shows s c) (hc : c.Lone) (hd : ¬ delta < 0.0) :
    ∃ d, Shows ((step .absent delta).run s).2 d ∧ d.Lone ∧ c.scheduler.Turns d.scheduler delta ∧
      d.brain.state.clock = c.brain.state.clock + Brain.effectiveDelta delta := by
  obtain ⟨d, hrings, hdue, t, hr, ht⟩ := h.run_step hc hd
  rw [hr]
  have hlone : d.Lone := (hc.ticked delta).rings hrings
  have hclock : d.brain.state.clock = c.brain.state.clock := by
    obtain ⟨_, _, _, _, _, _, -, -, -, rfl⟩ := hrings
    rfl
  refine ⟨_, ht, hlone.frame delta, turns_of_rings hrings hdue ?_, ?_⟩
  · rcases Brain.scheduler_frame (.waveEnd 0) delta d with hsame | ⟨n, delay, hasked⟩
    · exact Or.inl hsame
    · exact Or.inr ⟨_, _, hasked⟩
  · rw [Brain.clock_frame _ delta hlone.opened, hclock]

theorem Shows.turns_step (h : Shows s c) (hc : c.Lone) (hd : ¬ delta < 0.0) :
    s.scheduler.Turns ((step .absent delta).run s).2.scheduler delta := by
  obtain ⟨d, hafter, -, hturns, -⟩ := h.turns hc hd
  rw [h.scheduler, hafter.scheduler]
  exact hturns

/-! ## Many frames -/

/-- A stage after frames with these deltas, whatever each of them answered. -/
def steps {γ : Type} (guests : Guests α γ) (deltas : List α) (s : BotStage α γ) : BotStage α γ :=
  deltas.foldl (fun s delta => ((step guests delta).run s).2) s

theorem run_step_refused {γ : Type} (guests : Guests α γ) (hd : delta < 0.0) (s : BotStage α γ) :
    (step guests delta).run s = (.error (.frameDelta delta), s) :=
  Stage.run_step_refused _ 0 hd s

/-- The deltas that a scheduler counts; it refuses the others. -/
def counted (deltas : List α) : List α := deltas.filter fun delta => !decide (delta < 0.0)

def total (since : α) (deltas : List α) : α := deltas.foldl (· + ·) since

theorem counted_cons (delta : α) (deltas : List α) :
    counted (delta :: deltas) = if delta < 0.0 then counted deltas else delta :: counted deltas := by
  unfold counted
  rw [List.filter_cons]
  by_cases hd : delta < 0.0 <;> simp [hd]

/-- **How the clocks stand after some frames** of a session. -/
structure Counts (c d : Scene α (Callback Empty) (Alarm Empty)) (deltas : List α) : Prop where
  now : d.scheduler.now = total c.scheduler.now (counted deltas)
  clock : d.brain.state.clock = total c.brain.state.clock ((counted deltas).map Brain.effectiveDelta)
  ordered : [Timekeeping α] → c.scheduler.Ordered → (∀ delta ∈ counted deltas, Scalar.isFinite delta = true) →
    d.scheduler.Ordered
  stay : [Strict α] → ¬ Defined c.scheduler.now → ∀ u ∈ c.scheduler.timers, u ∈ d.scheduler.timers

theorem Shows.counts : ∀ (deltas : List α) {s : BotStage α Empty} {c : Scene α (Callback Empty) (Alarm Empty)},
    Shows s c → c.Lone → ∃ d, Shows (steps .absent deltas s) d ∧ d.Lone ∧ Counts c d deltas
  | [], s, c, h, hc => ⟨c, h, hc, rfl, rfl, fun ho _ => ho, fun _ _ hu => hu⟩
  | delta :: deltas, s, c, h, hc => by
    unfold Bot.steps
    rw [List.foldl_cons]
    by_cases hd : delta < 0.0
    · -- a frame that is refused changes nothing and is not counted
      rw [run_step_refused .absent hd s]
      obtain ⟨e, he, hlone, hcounts⟩ := Shows.counts deltas h hc
      have hsame : counted (delta :: deltas) = counted deltas := by rw [counted_cons, if_pos hd]
      refine ⟨e, he, hlone, ?_, ?_, ?_, hcounts.stay⟩
      · rw [hsame]
        exact hcounts.now
      · rw [hsame]
        exact hcounts.clock
      · rw [hsame]
        exact hcounts.ordered
    · obtain ⟨d, hd', hlone', hturns, hclock⟩ := h.turns hc hd
      obtain ⟨e, he, hlone, hcounts⟩ := Shows.counts deltas hd' hlone'
      have hmore : counted (delta :: deltas) = delta :: counted deltas := by rw [counted_cons, if_neg hd]
      refine ⟨e, he, hlone, ?_, ?_, ?_, ?_⟩
      · rw [hmore, hcounts.now, hturns.now]
        rfl
      · rw [hmore, hcounts.clock, hclock]
        rfl
      · intro _ ho hfinite
        rw [hmore] at hfinite
        have hfirst : Elapses delta := ⟨hfinite delta List.mem_cons_self, hd⟩
        exact hcounts.ordered (hturns.ordered ho hfirst) fun other hother =>
          hfinite other (List.mem_cons_of_mem delta hother)
      · intro _ hnow u hu
        have hlater : ¬ Defined d.scheduler.now := by
          rw [hturns.now]
          exact fun hdefined => hnow (Strict.defined_of_add hdefined).1
        refine hcounts.stay hlater u (hturns.stay u hu fun hle => ?_)
        exact hnow (Strict.defined_of_add (Strict.defined_of_le hle)).1

theorem map_effectiveDelta {deltas : List α} (h : ∀ delta ∈ counted deltas, Scalar.isFinite delta = true) :
    (counted deltas).map Brain.effectiveDelta = counted deltas := by
  have hsame : ∀ delta ∈ counted deltas, Brain.effectiveDelta delta = id delta := by
    intro delta hdelta
    have hforth : ¬ delta < 0.0 := by
      have hp := (List.mem_filter.1 hdelta).2
      simpa using hp
    exact Brain.effectiveDelta_of_elapses ⟨h delta hdelta, hforth⟩
  rw [List.map_congr_left hsame, List.map_id]

theorem defined_of_total [Strict α] : ∀ {deltas : List α} {since : α}, Defined (total since deltas) →
    Defined since ∧ ∀ delta ∈ deltas, Defined delta
  | [], since, h => ⟨h, fun delta hdelta => by cases hdelta⟩
  | first :: deltas, since, h => by
    have hlater : Defined (total (since + first) deltas) := h
    obtain ⟨hsum, hrest⟩ := defined_of_total hlater
    obtain ⟨hsince, hfirst⟩ := Strict.defined_of_add hsum
    refine ⟨hsince, fun delta hdelta => ?_⟩
    rcases List.mem_cons.1 hdelta with rfl | hold
    · exact hfirst
    · exact hrest delta hold

/-- **The two clocks of a session.**  Both are sums of the deltas that were accepted, and the brain's counts one that is
not finite as nothing.  While all of them are finite, the clocks agree, and a timer fires in the first frame that
reaches it.  After one that is undefined no timer fires any more, whatever frames follow. -/
theorem clocks_agree_while_finite [Timekeeping α] [Strict α] {config : BotConfig α} {source : Source α} {answer : Bool}
    {first : BotStage α Empty} (hstart : (start config).run (waiting source) = (.ok answer, first))
    (deltas : List α) :
    let s := steps .absent deltas first
    isRunning s = true ∧ ∃ brain, s.cast.brains = [brain] ∧
      s.scheduler.now = total 0.0 (counted deltas) ∧
      brain.state.clock = total 0.0 ((counted deltas).map Brain.effectiveDelta) ∧
      ((∀ delta ∈ counted deltas, Scalar.isFinite delta = true) → brain.state.clock = s.scheduler.now ∧
        ∀ delta, Elapses delta → ∀ u ∈ s.scheduler.timers, u.due ≤ s.scheduler.now + delta →
          u ∉ ((step .absent delta).run s).2.scheduler.timers) ∧
      ((∃ delta ∈ counted deltas, ¬ Defined delta) → ¬ Defined s.scheduler.now ∧
        ∀ more, ∀ u ∈ s.scheduler.timers, u ∈ (steps .absent more s).scheduler.timers) := by
  obtain ⟨c, hc, hlone, hnow, htimers, -, _, _, hbrain⟩ := shows_of_start hstart
  have hclock : c.brain.state.clock = 0.0 := by
    rw [hbrain]
    rfl
  obtain ⟨d, hd, hlone', hcounts⟩ := hc.counts deltas hlone
  have hzero : c.scheduler.Ordered := by
    refine ⟨hnow ▸ Timekeeping.defined_zero, ?_, ?_, ?_⟩
    · rw [htimers]
      exact List.forall_mem_nil _
    · rw [htimers]
      exact List.Pairwise.nil
    · rw [htimers]
      exact List.forall_mem_nil _
  have hdnow : d.scheduler.now = total 0.0 (counted deltas) := by rw [hcounts.now, hnow]
  have hdclock : d.brain.state.clock = total 0.0 ((counted deltas).map Brain.effectiveDelta) := by
    rw [hcounts.clock, hclock]
  dsimp only
  rw [hd.scheduler]
  refine ⟨?_, d.brain, hd.brains, hdnow, hdclock, fun hfinite => ⟨?_, ?_⟩, fun hundefined => ?_⟩
  · unfold isRunning brain?
    rw [hd.brains]
    exact congrArg not hlone'.opened
  · rw [hdclock, hdnow, map_effectiveDelta hfinite]
  · intro delta helapses u hu hle
    obtain ⟨e, he, -, hturns, -⟩ := hd.turns hlone' helapses.2
    rw [he.scheduler]
    exact hturns.go (hcounts.ordered hzero hfinite) helapses u hu hle
  · obtain ⟨delta, hdelta, hno⟩ := hundefined
    have hlost : ¬ Defined d.scheduler.now := by
      rw [hdnow]
      exact fun hdefined => hno ((defined_of_total hdefined).2 delta hdelta)
    refine ⟨hlost, fun more u hu => ?_⟩
    obtain ⟨e, he, -, hmore⟩ := hd.counts more hlone'
    rw [he.scheduler]
    exact hmore.stay hlost u hu

/-- A single bot that waves in its first frame. -/
def greeter : BotConfig Float :=
  { BotConfig.standard with
    assets := ⟨"assets", some 7⟩
    settings := { Settings.standard with wave := { WaveSettings.standard with chance := 1.0 } } }

def greeting : BotStage Float Empty := ((start greeter).run (waiting (.scripted [] 0.5))).2

theorem start_greeter : (start greeter).run (waiting (.scripted [] 0.5)) = (.ok false, greeting) := rfl

/-- After half a second the end of its wave is pending, and is due within two more. -/
theorem pending_greeting : (steps .absent [0.5] greeting).scheduler.timers.map Timer.purpose = [.waveEnd 0 1] ∧
    ∀ u ∈ (steps .absent [0.5] greeting).scheduler.timers,
      u.due ≤ (steps .absent [0.5] greeting).scheduler.now + 2.0 := by
  decide +kernel

/-- The same after a frame whose delta is undefined. -/
theorem pending_greeting_lost :
    (steps .absent [0.5, 0.0 / 0.0] greeting).scheduler.timers.map Timer.purpose = [.waveEnd 0 1] := by
  decide +kernel

/-- **A wave whose end is due within two seconds**: after a frame of two seconds its timer is gone, and after a frame
that is undefined it stays pending for ever. -/
theorem clocks_agree_while_finite_undefined :
    (∃ u ∈ (steps .absent [0.5] greeting).scheduler.timers, u.purpose = .waveEnd 0 1 ∧
      u ∉ ((step .absent 2.0).run (steps .absent [0.5] greeting)).2.scheduler.timers) ∧
    ¬ Defined (steps .absent [0.5, 0.0 / 0.0] greeting).scheduler.now ∧
    ∃ u ∈ (steps .absent [0.5, 0.0 / 0.0] greeting).scheduler.timers, u.purpose = .waveEnd 0 1 ∧
      ∀ more, u ∈ (steps .absent more (steps .absent [0.5, 0.0 / 0.0] greeting)).scheduler.timers := by
  obtain ⟨hpurpose, hdue⟩ := pending_greeting
  obtain ⟨u, hu, hp⟩ := List.map_eq_singleton_iff.1 hpurpose
  obtain ⟨v, hv, hq⟩ := List.map_eq_singleton_iff.1 pending_greeting_lost
  have hpending : u ∈ (steps .absent [0.5] greeting).scheduler.timers := hu ▸ List.mem_singleton_self u
  have hpending' : v ∈ (steps .absent [0.5, 0.0 / 0.0] greeting).scheduler.timers := hv ▸ List.mem_singleton_self v
  obtain ⟨-, _, -, -, -, hagree, -⟩ := clocks_agree_while_finite start_greeter [0.5]
  obtain ⟨-, hgone⟩ := hagree (by decide)
  obtain ⟨-, _, -, -, -, -, hlost⟩ := clocks_agree_while_finite start_greeter [0.5, 0.0 / 0.0]
  have hcounted : (0.0 / 0.0 : Float) ∈ counted [0.5, 0.0 / 0.0] :=
    List.mem_filter.2 ⟨List.mem_cons_of_mem _ List.mem_cons_self, by decide⟩
  obtain ⟨hnow, hstay⟩ := hlost ⟨0.0 / 0.0, hcounted, by decide⟩
  exact ⟨⟨u, hpending, hp, hgone 2.0 (by decide) u hpending (hdue u hpending)⟩, hnow, v, hpending', hq,
    fun more => hstay more v hpending'⟩

end Bot
end Bystander
