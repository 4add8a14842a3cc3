import Bystander.Bot.Session
import Bystander.Proofs.FrameLoop
import Bystander.Proofs.Touch
/-! # Brains and guests on one stage

A frame of the bot's stage fires the ends of waves and calls brains, each at its place among all that the bot has had;
what else it calls are guests.  A rule is obeyed by frames once it is obeyed by the clock, by taking out a timer, by
each brain at its place, and by the guests (`Bot.obeys_step`).  A start adds a brain (`Bot.run_start`); nothing takes
one away (`Bot.Grows`).
-/
namespace Bystander.Bot

open Act (Obeys obeys_pure obeys_throw obeys_get obeys_modify run_bind run_get_bind run_ofExcept)

variable {α γ β : Type} [Scalar α]

omit [Scalar α] in
theorem run_onBrain_none {serial : Nat} (play : Play α (Callback γ) (Alarm γ) β) {s : BotStage α γ}
    (h : s.cast.brains[serial]? = none) : (onBrain serial play).run s = (.error .notStarted, s) := by
  rw [onBrain, Act.run_ofFun, h]

omit [Scalar α] in
theorem run_onBrain_some {serial : Nat} (play : Play α (Callback γ) (Alarm γ) β) {s : BotStage α γ} {brain : Brain α}
    (h : s.cast.brains[serial]? = some brain) :
    (onBrain serial play).run s =
      ((play.run (scene s brain)).1, withScene serial s (play.run (scene s brain)).2) := by
  rw [onBrain, Act.run_ofFun, h]

omit [Scalar α] in
/-- **What a brain that is there has done** when it has acted on the stage. -/
theorem run_onBrain_inv {serial : Nat} {play : Play α (Callback γ) (Alarm γ) β} {s t : BotStage α γ} {brain : Brain α}
    {result : Except (Fault α) β} (hb : s.cast.brains[serial]? = some brain)
    (hr : (onBrain serial play).run s = (result, t)) :
    ∃ c, play.run (scene s brain) = (result, c) ∧ t = withScene serial s c := by
  rw [run_onBrain_some play hb] at hr
  obtain ⟨rfl, rfl⟩ := Prod.mk.inj hr
  exact ⟨_, rfl, rfl⟩

omit [Scalar α] in
theorem withScene_scene {serial : Nat} {s : BotStage α γ} {brain : Brain α} (h : s.cast.brains[serial]? = some brain) :
    withScene serial s (scene s brain) = s := by
  have hset : s.cast.brains.set serial brain = s.cast.brains := by
    obtain ⟨hlt, rfl⟩ := List.getElem?_eq_some_iff.1 h
    exact List.set_getElem_self hlt
  change { s with cast := { s.cast with brains := s.cast.brains.set serial brain } } = s
  rw [hset]

omit [Scalar α] in
theorem brains_withScene_self {serial : Nat} {s : BotStage α γ} {brain : Brain α}
    (h : s.cast.brains[serial]? = some brain) (c : Scene α (Callback γ) (Alarm γ)) :
    (withScene serial s c).cast.brains[serial]? = some c.brain := by
  obtain ⟨hlt, -⟩ := List.getElem?_eq_some_iff.1 h
  exact List.getElem?_set_self hlt

omit [Scalar α] in
theorem brains_withScene_ne {serial other : Nat} (h : other ≠ serial) (s : BotStage α γ)
    (c : Scene α (Callback γ) (Alarm γ)) : (withScene serial s c).cast.brains[other]? = s.cast.brains[other]? :=
  List.getElem?_set_ne (Ne.symm h)

section Rules

variable {R : BotStage α γ → BotStage α γ → Prop} [Steady R]

omit [Scalar α] in
theorem obeys_onBrain {serial : Nat} {play : Play α (Callback γ) (Alarm γ) β}
    (h : ∀ s brain, s.cast.brains[serial]? = some brain → R s (withScene serial s (play.run (scene s brain)).2)) :
    Obeys R (onBrain serial play) := by
  intro s
  cases hb : s.cast.brains[serial]? with
  | none =>
    rw [run_onBrain_none play hb]
    exact Steady.refl s
  | some brain =>
    rw [run_onBrain_some play hb]
    exact h s brain hb

section Frames

variable {guests : Guests α γ} {delta : α}
  (hadvance : ∀ s scheduler, s.scheduler.advance delta = .ok scheduler → R s { s with scheduler })
  (hend : ∀ s t scheduler serial (number : Nat), s.scheduler.takeDue = some (t, scheduler) →
    t.purpose = .waveEnd serial number →
    R s ((onBrain serial (Wave.stop (some (number : Int)))).run { s with scheduler }).2)
  (hguest : ∀ s t scheduler g, s.scheduler.takeDue = some (t, scheduler) → t.purpose = .guest g →
    R s { s with scheduler })
  (htimers : ∀ g, Obeys R (guests.onTimer g))

include hend hguest htimers

theorem obeys_fire (s : BotStage α γ) (t : Timer α (Alarm γ)) (scheduler : Scheduler α (Callback γ) (Alarm γ))
    (hdue : s.scheduler.takeDue = some (t, scheduler)) :
    R s (((handlers guests).onTimer t.purpose).run { s with scheduler }).2 := by
  cases hp : t.purpose with
  | waveEnd serial number => exact hend s t scheduler serial number hdue hp
  | guest g => exact Steady.trans (hguest s t scheduler g hdue hp) (htimers g _)

include hadvance

theorem obeys_timerPhase : Obeys R (Stage.timerPhase (handlers guests) 0 delta) :=
  Stage.obeys_timerPhase hadvance (obeys_fire hend hguest htimers)

/-- **A frame of the stage** obeys what the clock, the timers, the brains and the guests obey. -/
theorem obeys_step (hframe : ∀ serial, Obeys R (onBrain serial (Brain.frame (.waveEnd serial) delta)))
    (hframes : ∀ g, Obeys R (guests.onFrame g delta)) : Obeys R (step guests delta) := by
  refine Stage.obeys_step hadvance (obeys_fire hend hguest htimers) fun callback => ?_
  cases callback with
  | brain serial => exact hframe serial
  | guest g => exact hframes g

end Frames

end Rules

/-! ## Starts and stops -/

/-- The avatar of a bot that enters: dressed, and placed at a random point of the box. -/
def placed (config : BotConfig α) (appearance : Appearance) (source : Source α) (avatar : Avatar α) : Avatar α :=
  { avatar with
    position := (config.spawn.randomPoint source).1
    models := appearance.models
    isAgent := true
    isListening := true }

section Sessions

variable [DecidableEq γ]

/-- The stage that a bot has entered: one more brain is there and connected, and it knows where the avatar stands. -/
def entered (config : BotConfig α) (appearance : Appearance) (journal : Journal α) (s : BotStage α γ) : BotStage α γ :=
  let point := (config.spawn.randomPoint s.cast.source).1
  let avatar := placed config appearance s.cast.source s.avatar
  let clips := (Catalog.soundUrls config.assets.root).map loadClip
  { s with
    scheduler := s.scheduler.connect (.brain s.cast.brains.length)
    avatar, journal
    cast := {
      source := (config.spawn.randomPoint s.cast.source).2
      brains := s.cast.brains ++ [.opening config.settings config.spawn clips point avatar]
      appearance := some appearance } }

theorem run_start_running (config : BotConfig α) {s : BotStage α γ} (h : isRunning s = true) :
    (start config).run s = (.ok true, { s with journal := s.journal.note .alreadyRunning }) := by
  rw [start, run_get_bind, if_pos h]
  rfl

omit [DecidableEq γ] in
theorem run_chooseNumber (config : BotConfig α) (s : BotStage α γ) : ∃ source, s.cast.source.Leads source ∧
    ∃ result, (chooseNumber config).run s = (result, { s with cast := { s.cast with source } }) := by
  unfold chooseNumber
  split
  · exact ⟨s.cast.source, .refl _, _, rfl⟩
  · exact ⟨_, .number Catalog.lastNumber.toNat (.refl _), _, rfl⟩

/-- **A bot enters** if its number has looks; lines of the journal carry the number from then on. -/
theorem run_enter (config : BotConfig α) (number : Int) (s : BotStage α γ) :
    (∃ fault, (enter config number).run s = (.error fault, s)) ∨
      ∃ appearance event, Catalog.appearance number config.assets.root =
        (.ok appearance : Except (Fault α) Appearance) ∧
        (enter config number).run s = (.ok (), entered config appearance ((s.journal.bind number).note event) s) := by
  rw [enter, run_bind, run_ofExcept]
  cases Catalog.appearance number config.assets.root with
  | error fault => exact .inl ⟨fault, rfl⟩
  | ok appearance => exact .inr ⟨appearance, _, rfl, rfl⟩

/-- **A start** of a bot that is not running fails after its number at most, or lets the bot enter under that number. -/
theorem start_cases (config : BotConfig α) {s : BotStage α γ} (h : isRunning s = false) :
    ∃ source, s.cast.source.Leads source ∧
      ((∃ fault, (start config).run s = (.error fault, { s with cast := { s.cast with source } })) ∨
        ∃ number appearance event, Catalog.appearance number config.assets.root =
          (.ok appearance : Except (Fault α) Appearance) ∧
          (start config).run s = (.ok false, entered config appearance ((s.journal.bind number).note event)
            { s with cast := { s.cast with source } })) := by
  obtain ⟨source, hleads, result, hnumber⟩ := run_chooseNumber config s
  refine ⟨source, hleads, ?_⟩
  rw [start, run_get_bind, h, if_neg Bool.false_ne_true, run_bind, hnumber]
  cases result with
  | error fault => exact .inl ⟨fault, rfl⟩
  | ok number =>
    dsimp only
    rw [run_bind]
    obtain ⟨fault, hr⟩ | ⟨appearance, event, hlooks, hr⟩ :=
      run_enter config number { s with cast := { s.cast with source } }
    · rw [hr]
      exact .inl ⟨fault, rfl⟩
    · rw [hr]
      exact .inr ⟨number, appearance, event, hlooks, rfl⟩

theorem run_start (config : BotConfig α) {s : BotStage α γ} (h : isRunning s = false) :
    ∃ source, s.cast.source.Leads source ∧
      ((∃ fault, (start config).run s = (.error fault, { s with cast := { s.cast with source } })) ∨
        ∃ appearance journal, (start config).run s =
          (.ok false, entered config appearance journal { s with cast := { s.cast with source } })) := by
  obtain ⟨source, hleads, hfault | ⟨_, appearance, _, -, hr⟩⟩ := start_cases config h
  · exact ⟨source, hleads, .inl hfault⟩
  · exact ⟨source, hleads, .inr ⟨appearance, _, hr⟩⟩

/-- **A start** obeys what writing a journal, drawing from the source and entering obey. -/
theorem obeys_start {R : BotStage α γ → BotStage α γ → Prop} [Steady R] {config : BotConfig α}
    (hjournal : ∀ s journal, R s { s with journal })
    (hsource : ∀ s source, s.cast.source.Leads source → R s { s with cast := { s.cast with source } })
    (henter : ∀ s appearance journal, R s (entered config appearance journal s)) : Obeys R (start config) := by
  intro s
  cases hrunning : isRunning s with
  | true =>
    rw [run_start_running config hrunning]
    exact hjournal s _
  | false =>
    obtain ⟨source, hleads, ⟨fault, hr⟩ | ⟨appearance, journal, hr⟩⟩ := run_start config hrunning
    · rw [hr]
      exact hsource s source hleads
    · rw [hr]
      exact Steady.trans (hsource s source hleads) (henter _ appearance journal)

omit [Scalar α] [DecidableEq γ] in
theorem obeys_current {R : BotStage α γ → BotStage α γ → Prop} [Steady R] : Obeys R current := by
  refine obeys_get.bind fun s => ?_
  split
  · exact obeys_pure _
  · exact obeys_throw _

omit [Scalar α] in
/-- **A stop** obeys what disconnecting, closing a brain, and writing a journal obey. -/
theorem obeys_stop {R : BotStage α γ → BotStage α γ → Prop} [Steady R]
    (hdisconnect : ∀ s k, R s { s with scheduler := s.scheduler.disconnect k })
    (hclose : ∀ serial, Obeys R (onBrain serial Brain.close)) (hjournal : ∀ s journal, R s { s with journal }) :
    Obeys R stop := by
  refine obeys_get.bind fun s => ?_
  split
  · exact obeys_pure ()
  · refine obeys_current.bind fun serial => ?_
    refine Obeys.bind (obeys_modify fun s => hdisconnect s _) fun _ => ?_
    refine (hclose serial).bind fun _ => obeys_get.bind fun after => ?_
    exact Obeys.bind (obeys_modify fun s => hjournal s _) fun _ => obeys_modify fun s => hjournal s _

/-! ## Brains stay -/

def Grows (s t : BotStage α γ) : Prop := s.cast.brains.length ≤ t.cast.brains.length

omit [Scalar α] [DecidableEq γ] in
instance : Steady (Grows (α := α) (γ := γ)) where
  refl s := Nat.le_refl s.cast.brains.length
  trans := Nat.le_trans

omit [Scalar α] [DecidableEq γ] in
theorem Grows.of_eq {s t : BotStage α γ} (h : t.cast.brains = s.cast.brains) : Grows s t :=
  Nat.le_of_eq (congrArg List.length h.symm)

omit [Scalar α] [DecidableEq γ] in
theorem grows_onBrain (serial : Nat) (play : Play α (Callback γ) (Alarm γ) β) : Obeys Grows (onBrain serial play) := by
  refine obeys_onBrain fun s brain _ => ?_
  exact Nat.le_of_eq List.length_set.symm

omit [DecidableEq γ] in
theorem grows_step {guests : Guests α γ} {delta : α} (htimers : ∀ g, Obeys Grows (guests.onTimer g))
    (hframes : ∀ g, Obeys Grows (guests.onFrame g delta)) : Obeys Grows (step guests delta) :=
  obeys_step (fun _ _ _ => .of_eq rfl) (fun s _ scheduler serial _ _ _ => grows_onBrain serial _ { s with scheduler })
    (fun _ _ _ _ _ _ => .of_eq rfl) htimers (fun serial => grows_onBrain serial _) hframes

theorem grows_start (config : BotConfig α) : Obeys Grows (start config : Act (Fault α) (BotStage α γ) Bool) := by
  refine obeys_start (fun _ _ => .of_eq rfl) (fun _ _ _ => .of_eq rfl) fun s appearance journal => ?_
  change s.cast.brains.length ≤ (s.cast.brains ++ [_]).length
  simp

omit [Scalar α] in
theorem grows_stop : Obeys Grows (stop : Act (Fault α) (BotStage α γ) Unit) :=
  obeys_stop (fun _ _ => .of_eq rfl) (fun serial => grows_onBrain serial _) fun _ _ => .of_eq rfl

/-- **After a start that answers there is a brain.** -/
theorem brains_of_start {config : BotConfig α} {s t : BotStage α γ} {answer : Bool}
    (h : (start config).run s = (.ok answer, t)) : t.cast.brains ≠ [] := by
  cases hrunning : isRunning s with
  | true =>
    rw [run_start_running config hrunning] at h
    cases h
    intro hnil
    change s.cast.brains = [] at hnil
    simp [isRunning, brain?, hnil] at hrunning
  | false =>
    obtain ⟨source, -, ⟨fault, hr⟩ | ⟨appearance, journal, hr⟩⟩ := run_start config hrunning
    · rw [hr] at h
      cases h
    · rw [hr] at h
      cases h
      exact List.append_ne_nil_of_right_ne_nil _ (List.cons_ne_nil _ _)

end Sessions

end Bystander.Bot
