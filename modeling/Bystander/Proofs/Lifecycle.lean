import Bystander.Proofs.Completion
import Bystander.Proofs.Isolation
import Bystander.Proofs.Outcomes
/-! # Running, connected, and known by a number

That a bot runs shows in three places: its latest brain is open, the host calls that brain and nothing else, and the
lines of the journal carry the number of its looks.  Starts and stops change each of them on its own, and a start puts
another brain in place; frames change none of them (`Bot.leaves_badge_step`), wherever they fail.  So the three agree
after any row of starts, frames and stops.
-/
namespace Bystander

open Act (Obeys)

variable {α κ τ : Type} [Scalar α]

/-! ## What frames leave alone -/

namespace Bot

variable {γ β : Type}

/-- Which brains are closed, whom frames call, the looks, and the number that lines carry. -/
structure Badge (γ : Type) where
  closed : List Bool
  callbacks : List (Callback γ)
  appearance : Option Appearance
  bound : Option Int

def badge (s : BotStage α γ) : Badge γ :=
  ⟨s.cast.brains.map Brain.closed, s.scheduler.callbacks, s.cast.appearance, s.journal.bound⟩

omit [Scalar α] in
theorem leaves_badge_onBrain {play : Play α (Callback γ) (Alarm γ) β} (h : Obeys (leaving Scene.badge) play)
    (serial : Nat) : Obeys (leaving badge) (onBrain serial play) := by
  refine obeys_onBrain fun s brain hb => ?_
  have hplay : (play.run (scene s brain)).2.badge = (scene s brain).badge := h (scene s brain)
  generalize (play.run (scene s brain)).2 = c at hplay ⊢
  have hcallbacks : c.scheduler.callbacks = s.scheduler.callbacks := congrArg Scene.Badge.callbacks hplay
  have hbound : c.journal.bound = s.journal.bound := congrArg Scene.Badge.bound hplay
  have hbrains : (s.cast.brains.set serial c.brain).map Brain.closed = s.cast.brains.map Brain.closed := by
    obtain ⟨hlt, rfl⟩ := List.getElem?_eq_some_iff.1 hb
    have hplace : serial < (s.cast.brains.map Brain.closed).length := by rwa [List.length_map]
    have hsame : c.brain.closed = (s.cast.brains.map Brain.closed)[serial] := by
      rw [List.getElem_map]
      exact congrArg Scene.Badge.closed hplay
    rw [List.map_set, hsame, List.set_getElem_self]
  change Badge.mk ((s.cast.brains.set serial c.brain).map Brain.closed) c.scheduler.callbacks s.cast.appearance
    c.journal.bound = badge s
  rw [hbrains, hcallbacks, hbound]
  rfl

/-- **Frames leave the badge of a bot alone.** -/
theorem leaves_badge_step (delta : α) : Obeys (leaving badge) (step .absent delta) := by
  refine obeys_step ?_ ?_ ?_ nofun (fun serial => leaves_badge_onBrain (Brain.leaves_badge _ delta) serial) nofun
  · intro s scheduler ha
    obtain ⟨-, rfl⟩ := Scheduler.advance_eq_ok ha
    rfl
  · intro s t scheduler serial number hdue _
    obtain ⟨rest, -, -, rfl⟩ := Scheduler.takeDue_eq_some hdue
    exact leaves_badge_onBrain (Wave.leaves_badge _) serial { s with scheduler := { s.scheduler with timers := rest } }
  · exact fun _ _ _ g => g.elim

/-! ## Badges that agree -/

/-- **The badge of a bot that runs or not**: a bot that runs is called by frames, it alone, and is known by the number
of its looks; of one that does not, nothing is left. -/
structure Consistent (s : BotStage α γ) : Prop where
  running : isRunning s = true → s.scheduler.callbacks = [.brain (s.cast.brains.length - 1)] ∧
    ∃ appearance, s.cast.appearance = some appearance ∧ s.journal.bound = some appearance.number ∧
      Catalog.Lists appearance.number
  idle : isRunning s = false → s.scheduler.callbacks = [] ∧ s.journal.bound = none

omit [Scalar α] in
theorem isRunning_eq (s : BotStage α γ) : isRunning s = (s.cast.brains.map Brain.closed).getLast?.any not := by
  unfold isRunning brain?
  rw [List.getLast?_map]
  cases s.cast.brains.getLast? <;> rfl

omit [Scalar α] in
theorem Consistent.of_badge {s t : BotStage α γ} (h : Consistent s) (ht : badge t = badge s) : Consistent t := by
  have hclosed : t.cast.brains.map Brain.closed = s.cast.brains.map Brain.closed := congrArg Badge.closed ht
  have hcallbacks : t.scheduler.callbacks = s.scheduler.callbacks := congrArg Badge.callbacks ht
  have happearance : t.cast.appearance = s.cast.appearance := congrArg Badge.appearance ht
  have hbound : t.journal.bound = s.journal.bound := congrArg Badge.bound ht
  have hrunning : isRunning t = isRunning s := by rw [isRunning_eq, isRunning_eq, hclosed]
  have hlength : t.cast.brains.length = s.cast.brains.length := by
    have hmapped := congrArg List.length hclosed
    rwa [List.length_map, List.length_map] at hmapped
  constructor
  · rw [hrunning, hcallbacks, hlength, happearance, hbound]
    exact h.running
  · rw [hrunning, hcallbacks, hbound]
    exact h.idle

theorem consistent_waiting (source : Source α) : Consistent (waiting source : BotStage α γ) :=
  ⟨nofun, fun _ => ⟨rfl, rfl⟩⟩

end Bot

omit [Scalar α] in
/-- **Looks that are found** are those of a number of the catalog. -/
theorem Catalog.lists_of_appearance {number : Int} {root : String} {a : Appearance}
    (h : appearance number root = (.ok a : Except (Fault α) Appearance)) : a.number = number ∧ Lists number := by
  unfold appearance at h
  cases hf : (faceAndBody number : Except (Fault α) (String × String)) with
  | error fault =>
    rw [hf] at h
    cases h
  | ok models =>
    rw [hf] at h
    cases h
    refine ⟨rfl, ?_⟩
    unfold faceAndBody at hf
    split at hf
    · cases hf
    · next hlisted =>
      rw [Bool.or_eq_true, decide_eq_true_iff, decide_eq_true_iff, not_or, not_lt, not_lt] at hlisted
      exact hlisted

omit [Scalar α] in
theorem Scheduler.callbacks_connect_nil [BEq κ] {s : Scheduler α κ τ} (h : s.callbacks = []) (k : κ) :
    (s.connect k).callbacks = [k] := by
  unfold connect
  rw [h]
  rfl

namespace Bot

variable {γ : Type} [DecidableEq γ]

theorem isRunning_entered (config : BotConfig α) (appearance : Appearance) (journal : Journal α) (s : BotStage α γ) :
    isRunning (entered config appearance journal s) = true := by
  rw [isRunning_eq, entered, List.map_append, List.map_singleton, List.getLast?_append]
  rfl

theorem consistent_start (config : BotConfig α) :
    Obeys (keeping Consistent) (start config : Act (Fault α) (BotStage α γ) Bool) := by
  intro s hs
  cases hrunning : isRunning s with
  | true =>
    rw [run_start_running config hrunning]
    exact hs.of_badge rfl
  | false =>
    obtain ⟨hcallbacks, -⟩ := hs.idle hrunning
    obtain ⟨source, -, ⟨fault, hr⟩ | ⟨number, appearance, event, hlooks, hr⟩⟩ := start_cases config hrunning
    · rw [hr]
      exact hs.of_badge rfl
    · obtain ⟨hnumber, hlists⟩ := Catalog.lists_of_appearance hlooks
      rw [hr]
      refine ⟨fun _ => ⟨?_, appearance, rfl, congrArg some hnumber.symm, hnumber ▸ hlists⟩, fun hidle => ?_⟩
      · have hlast : ∀ brain, (s.cast.brains ++ [brain]).length - 1 = s.cast.brains.length := fun brain => by
          rw [List.length_append, List.length_singleton, Nat.add_sub_cancel]
        refine (Scheduler.callbacks_connect_nil hcallbacks (.brain s.cast.brains.length)).trans ?_
        exact congrArg (fun k => [Callback.brain k]) (hlast _).symm
      · rw [isRunning_entered] at hidle
        cases hidle

omit [Scalar α] in
theorem consistent_stop : Obeys (keeping Consistent) (stop : Act (Fault α) (BotStage α γ) Unit) := by
  intro s hs
  cases hrunning : isRunning s with
  | false =>
    rw [run_stop_idle hrunning]
    exact hs
  | true =>
    obtain ⟨brain, hb, hopen⟩ := (isRunning_iff s).1 hrunning
    obtain ⟨journal, hunbound, hr⟩ := run_stop_running hb hopen
    obtain ⟨hcallbacks, -⟩ := hs.running hrunning
    obtain ⟨t, ht, hidle⟩ := stop_answers s
    rw [ht] at hr ⊢
    refine ⟨fun hstill => ?_, fun _ => ?_⟩
    · rw [hidle] at hstill
      cases hstill
    · obtain ⟨-, rfl⟩ := Prod.mk.inj hr
      refine ⟨?_, hunbound⟩
      change s.scheduler.callbacks.erase _ = []
      rw [hcallbacks, List.erase_cons_head]

/-! ## Whatever a bot lives through -/

/-- What is left of a stage on which a bot has lived through some doings, failed ones included. -/
def lived (doings : List (Doing α)) (s : BotStage α Empty) : BotStage α Empty :=
  doings.foldl (fun s doing => ((doing.act .absent).run s).2) s

theorem consistent_doing (doing : Doing α) :
    Obeys (keeping Consistent) (doing.act .absent : Act (Fault α) (BotStage α Empty) Unit) := by
  cases doing with
  | start config => exact (consistent_start config).map _
  | step delta => exact fun s hs => hs.of_badge (leaves_badge_step delta s)
  | stop => exact consistent_stop

theorem Consistent.lived : ∀ (doings : List (Doing α)) {s : BotStage α Empty}, Consistent s → Consistent (lived doings s)
  | [], _, hs => hs
  | doing :: rest, s, hs => Consistent.lived rest (consistent_doing doing s hs)

/-- **A start has answered**, somewhere in a row of doings. -/
def HasStarted (doings : List (Doing α)) (s : BotStage α Empty) : Prop :=
  ∃ pre config post answer, doings = pre ++ .start config :: post ∧
    ((start config).run (lived pre s)).1 = .ok answer

theorem hasStarted_cons {doing : Doing α} {rest : List (Doing α)} {s : BotStage α Empty} :
    HasStarted (doing :: rest) s ↔
      (∃ config answer, doing = .start config ∧ ((start config).run s).1 = .ok answer) ∨
        HasStarted rest ((doing.act .absent).run s).2 := by
  constructor
  · rintro ⟨pre, config, post, answer, hsplit, hanswer⟩
    cases pre with
    | nil =>
      rw [List.nil_append, List.cons.injEq] at hsplit
      exact .inl ⟨config, answer, hsplit.1, hanswer⟩
    | cons first pre =>
      rw [List.cons_append, List.cons.injEq] at hsplit
      obtain ⟨rfl, hrest⟩ := hsplit
      exact .inr ⟨pre, config, post, answer, hrest, hanswer⟩
  · rintro (⟨config, answer, rfl, hanswer⟩ | ⟨pre, config, post, answer, rfl, hanswer⟩)
    · exact ⟨[], config, rest, answer, rfl, hanswer⟩
    · exact ⟨doing :: pre, config, post, answer, rfl, hanswer⟩

theorem brains_start_failed {config : BotConfig α} {s t : BotStage α γ} {fault : Fault α}
    (h : (start config).run s = (.error fault, t)) : t.cast.brains = s.cast.brains := by
  cases hrunning : isRunning s with
  | true =>
    rw [run_start_running config hrunning] at h
    cases h
  | false =>
    obtain ⟨source, -, ⟨_, hr⟩ | ⟨_, _, hr⟩⟩ := run_start config hrunning
    · rw [hr] at h
      cases h
      rfl
    · rw [hr] at h
      cases h

omit [Scalar α] in
theorem brains_stop (s : BotStage α γ) : (stop.run s).2.cast.brains = [] ↔ s.cast.brains = [] := by
  cases hrunning : isRunning s with
  | false => rw [run_stop_idle hrunning]
  | true =>
    obtain ⟨brain, hb, hopen⟩ := (isRunning_iff s).1 hrunning
    obtain ⟨journal, -, hr⟩ := run_stop_running hb hopen
    rw [hr]
    exact List.set_eq_nil_iff _ _

/-- **The first brain comes with a start that answers.** -/
theorem brains_doing (doing : Doing α) (s : BotStage α Empty) :
    ((doing.act .absent).run s).2.cast.brains = [] ↔
      s.cast.brains = [] ∧ ¬ ∃ config answer, doing = .start config ∧ ((start config).run s).1 = .ok answer := by
  cases doing with
  | start config =>
    have hafter : (((Doing.start config).act .absent).run s).2 = ((start config).run s).2 :=
      congrArg Prod.snd (Act.run_discard _ s)
    rw [hafter]
    rcases hr : (start config).run s with ⟨fault | answer, t⟩
    · have hfailed : ¬ ∃ config' answer, Doing.start config = .start config' ∧
          ((start config').run s).1 = .ok answer := by
        rintro ⟨config', answer, hsame, hanswer⟩
        cases hsame
        rw [hr] at hanswer
        cases hanswer
      rw [brains_start_failed hr, and_iff_left hfailed]
    · refine iff_of_false (brains_of_start hr) fun h => h.2 ⟨config, answer, rfl, ?_⟩
      rw [hr]
  | step delta =>
    have hkept : (((step .absent delta).run s).2.cast.brains.map Brain.closed) = s.cast.brains.map Brain.closed :=
      congrArg Badge.closed (leaves_badge_step delta s)
    change ((step .absent delta).run s).2.cast.brains = [] ↔ _
    rw [and_iff_left (by rintro ⟨_, _, ⟨⟩, _⟩), ← List.map_eq_nil_iff (f := Brain.closed), hkept, List.map_eq_nil_iff]
  | stop => exact (brains_stop s).trans (and_iff_left (by rintro ⟨_, _, ⟨⟩, _⟩)).symm

theorem brains_lived : ∀ (doings : List (Doing α)) (s : BotStage α Empty),
    (lived doings s).cast.brains = [] ↔ s.cast.brains = [] ∧ ¬ HasStarted doings s
  | [], s => by
    have hnone : ¬ HasStarted [] s := by
      rintro ⟨pre, config, post, answer, hsplit, -⟩
      cases pre <;> cases hsplit
    exact ⟨fun h => ⟨h, hnone⟩, And.left⟩
  | doing :: rest, s => by
    rw [hasStarted_cons, not_or, ← and_assoc, ← brains_doing doing s]
    exact brains_lived rest _

/-! ## The marks of a session -/

section Marks

variable {s : BotStage α γ}

omit [Scalar α] [DecidableEq γ] in
theorem run_current_ok_iff {k : Nat} : current.run s = (.ok k, s) ↔ latest s = some k := by
  rw [run_current]
  cases latest s with
  | none => exact iff_of_false nofun nofun
  | some serial => simp

omit [Scalar α] [DecidableEq γ] in
/-- **The current brain is missing** until there is one. -/
theorem run_current_cases (s : BotStage α γ) :
    s.cast.brains ≠ [] ∧ (∃ k, current.run s = (.ok k, s)) ∨
      s.cast.brains = [] ∧ current.run s = (.error .notStarted, s) := by
  rw [run_current, latest]
  cases hbrains : s.cast.brains with
  | nil => exact .inr ⟨rfl, rfl⟩
  | cons first rest => exact .inl ⟨nofun, _, rfl⟩

omit [Scalar α] [DecidableEq γ] in
theorem Consistent.called_iff (h : Consistent s) :
    isRunning s = true ↔ ∃ k, current.run s = (.ok k, s) ∧ s.scheduler.callbacks = [.brain k] := by
  constructor
  · intro hrunning
    obtain ⟨brain, hb, -⟩ := (isRunning_iff s).1 hrunning
    exact ⟨s.cast.brains.length - 1, run_current_ok_iff.2 (latest_of_brain? hb), (h.running hrunning).1⟩
  · rintro ⟨k, -, hcallbacks⟩
    by_contra hidle
    rw [(h.idle (Bool.not_eq_true _ ▸ hidle)).1] at hcallbacks
    cases hcallbacks

omit [Scalar α] [DecidableEq γ] in
theorem Consistent.bound_iff (h : Consistent s) : isRunning s = true ↔ ∃ n, s.journal.bound = some n := by
  constructor
  · intro hrunning
    obtain ⟨-, appearance, -, hbound, -⟩ := h.running hrunning
    exact ⟨appearance.number, hbound⟩
  · rintro ⟨n, hbound⟩
    by_contra hidle
    rw [(h.idle (Bool.not_eq_true _ ▸ hidle)).2] at hbound
    cases hbound

omit [Scalar α] [DecidableEq γ] in
theorem Consistent.of_bound (h : Consistent s) {n : Int} (hbound : s.journal.bound = some n) :
    Catalog.Lists n ∧ ∃ appearance, s.cast.appearance = some appearance ∧ appearance.number = n := by
  obtain ⟨-, appearance, hlooks, hnumber, hlists⟩ := h.running (h.bound_iff.2 ⟨n, hbound⟩)
  obtain rfl : appearance.number = n := Option.some.inj (hnumber.symm.trans hbound)
  exact ⟨hlists, appearance, hlooks, rfl⟩

end Marks

/-- **After a start with an accepted configuration the bot runs**, if a number can be drawn where none is configured. -/
theorem start_accepted {d : Data} {config : BotConfig Float} {s : BotStage Float Empty}
    (haccepted : BotConfig.ofData d = .accepted config)
    (hdrawn : config.assets.number = none → ∃ k, (s.cast.source.below Catalog.lastNumber.toNat).1 = .ok k) :
    ∃ answer t, (start config).run s = (.ok answer, t) ∧ isRunning t = true := by
  cases hrunning : isRunning s with
  | true => exact ⟨true, _, run_start_running config hrunning, hrunning⟩
  | false =>
    obtain ⟨t, ht⟩ := start_answers hrunning (BotConfig.lists_of_ofData haccepted) hdrawn
    obtain ⟨source, -, ⟨fault, hr⟩ | ⟨appearance, journal, hr⟩⟩ := run_start config hrunning
    · rw [hr] at ht
      cases ht
    · exact ⟨false, _, hr, isRunning_entered config appearance journal _⟩

/-- **All marks of a session agree**, after any row of starts, with any configurations, frames and stops.  Frames call
the current brain and nothing else while the bot runs, and else nothing; lines carry the number of its looks, one from 1
to 100, while it runs, and else none.  A start of a bot that runs only adds a line, and a stop of one that does not run
does nothing.  The current brain is missing until a start has answered. -/
theorem marks_agree (source : Source Float) (doings : List (Doing Float)) :
    let s := lived doings (waiting source)
    (isRunning s = true ↔ ∃ k, current.run s = (.ok k, s) ∧ s.scheduler.callbacks = [.brain k]) ∧
    (isRunning s = false → s.scheduler.callbacks = []) ∧
    (isRunning s = true ↔ ∃ n, s.journal.bound = some n) ∧
    (∀ n, s.journal.bound = some n → (1 ≤ n ∧ n ≤ 100) ∧ ∃ appearance, s.cast.appearance = some appearance ∧
      appearance.number = n) ∧
    (isRunning s = true → ∀ config, ∃ t, (start config).run s = (.ok true, t) ∧
      t = { s with journal := s.journal.note .alreadyRunning } ∧ ∃ k, current.run s = (.ok k, s) ∧
      current.run t = (.ok k, t)) ∧
    (isRunning s = false → stop.run s = (.ok (), s)) ∧
    (HasStarted doings (waiting source) ∧ (∃ k, current.run s = (.ok k, s)) ∨
      ¬ HasStarted doings (waiting source) ∧ ∃ fault, current.run s = (.error fault, s) ∧
        fault.report.kind = "HostError" ∧ fault.report.code = some .notStarted) ∧
    (∀ d config, BotConfig.ofData d = .accepted config →
      (config.assets.number = none → ∃ k, (s.cast.source.below Catalog.lastNumber.toNat).1 = .ok k) →
      ∃ answer t, (start config).run s = (.ok answer, t) ∧ isRunning t = true) ∧
    ∃ t, stop.run s = (.ok (), t) ∧ isRunning t = false := by
  have hs : Consistent (lived doings (waiting source)) := (consistent_waiting source).lived doings
  have hbrains := brains_lived doings (waiting source)
  generalize lived doings (waiting source) = s at hs hbrains
  refine ⟨hs.called_iff, fun hidle => (hs.idle hidle).1, hs.bound_iff, fun n hbound => hs.of_bound hbound, ?_,
    run_stop_idle, ?_, fun d config => start_accepted, stop_answers s⟩
  · intro hrunning config
    obtain ⟨k, hk, -⟩ := hs.called_iff.1 hrunning
    have hlatest : latest s = some k := run_current_ok_iff.1 hk
    exact ⟨_, run_start_running config hrunning, rfl, k, hk, run_current_ok_iff.2 hlatest⟩
  · have hwaiting : (waiting source : BotStage Float Empty).cast.brains = [] := rfl
    obtain ⟨hsome, hk⟩ | ⟨hnil, hmissing⟩ := run_current_cases s
    · refine .inl ⟨?_, hk⟩
      by_contra hnever
      exact hsome (hbrains.2 ⟨hwaiting, hnever⟩)
    · exact .inr ⟨(hbrains.1 hnil).2, _, hmissing, rfl, rfl⟩

/-- A bot that is started, runs a frame, is stopped twice, and is started twice again. -/
theorem marks_agree_restart :
    let config : BotConfig Float := { BotConfig.standard with assets := ⟨"assets", some 7⟩ }
    let doings : List (Doing Float) := [.start config, .step 0.5, .stop, .stop, .start config, .start config]
    let source : Source Float := .scripted [] 0.5
    (lived doings (waiting source)).journal.bound = some 7 ∧ isRunning (lived doings (waiting source)) = true ∧
      HasStarted doings (waiting source) ∧ ∃ k, (lived doings (waiting source)).scheduler.callbacks = [.brain k] := by
  intro config doings source
  have hseven : (lived doings (waiting source)).journal.bound = some 7 := by decide +kernel +zetaReduce
  obtain ⟨hcalled, -, hbound, -, -, -, hcurrent, -⟩ := marks_agree source doings
  have hrunning : isRunning (lived doings (waiting source)) = true := hbound.2 ⟨7, hseven⟩
  obtain ⟨k, hk, hcallbacks⟩ := hcalled.1 hrunning
  refine ⟨hseven, hrunning, ?_, k, hcallbacks⟩
  obtain ⟨hstarted, -⟩ | ⟨-, fault, hmissing, -⟩ := hcurrent
  · exact hstarted
  · cases (Prod.mk.inj (hk.symm.trans hmissing)).1

end Bot
end Bystander
