import Bystander.Proofs.Doubles
import Bystander.Proofs.Removal
import Bystander.Proofs.Silence
/-! # Sessions do not reach each other

A bot that is started again counts its waves from one again, while timers of earlier sessions are still pending.  Each
of them belongs to a stopped brain and does nothing when it fires.  So all of them may be removed at any moment:
whatever is started, stepped and stopped afterwards goes the same, and leaves behind the same, less the removed timers.
-/
namespace Bystander

open Act (Obeys Follows follows_pure follows_ofExcept follows_modify follows_get_bind run_bind run_get_bind)

/-! ## Frames after a removal -/

namespace Stage

variable {α κ τ ρ : Type} [Scalar α]

def without (p : τ → Bool) (s : Stage α κ τ ρ) : Stage α κ τ ρ := { s with scheduler := s.scheduler.without p }

/-- **Callbacks that do not notice the removal** of some timers: those timers do nothing, and all else goes the same
after the removal.  What a timer does registers no other timer. -/
structure Unaware (h : Handlers α κ τ ρ) (p : τ → Bool) (P : Stage α κ τ ρ → Prop) : Prop where
  sensible {s : Stage α κ τ ρ} : P s → s.scheduler.Sensible
  elsewhen {s : Stage α κ τ ρ} {scheduler : Scheduler α κ τ} : P s → scheduler.Sensible → P { s with scheduler }
  gone {purpose : τ} {s : Stage α κ τ ρ} : P s → p purpose = true → (h.onTimer purpose).run s = (.ok (), s)
  timer {purpose : τ} {s : Stage α κ τ ρ} : P s → p purpose = false → Follows (without p) (h.onTimer purpose) s
  timers (purpose : τ) : Obeys (keeping P) (h.onTimer purpose)
  fewer {purpose : τ} {s : Stage α κ τ ρ} : P s →
    ((h.onTimer purpose).run s).2.scheduler.timers.Sublist s.scheduler.timers
  frame {callback : κ} {delta : α} {s : Stage α κ τ ρ} : P s → Follows (without p) (h.onFrame callback delta) s
  frames (callback : κ) (delta : α) : Obeys (keeping P) (h.onFrame callback delta)

namespace Unaware

variable [Timekeeping α] [Strict α] {h : Handlers α κ τ ρ} {p : τ → Bool} {P : Stage α κ τ ρ → Prop}

omit [Timekeeping α] [Strict α] in
theorem run_fireDue_none {s : Stage α κ τ ρ} (hnone : s.scheduler.takeDue = none) :
    ∀ limit, (fireDue h limit).run s = (.ok (), s)
  | 0 => by rw [run_fireDue_zero, hnone]
  | limit + 1 => by rw [run_fireDue_succ, hnone]

/-- The timers that are left fire alike, in the same order. -/
theorem fireDue (hu : Unaware h p P) : ∀ (limit limit' : Nat) {s : Stage α κ τ ρ}, P s →
    s.scheduler.timers.length ≤ limit → (s.without p).scheduler.timers.length ≤ limit' →
    (Stage.fireDue h limit').run (s.without p) =
      (((Stage.fireDue h limit).run s).1, without p ((Stage.fireDue h limit).run s).2) := by
  intro limit
  induction limit with
  | zero =>
    intro limit' s hs hlimit _
    have hnil : s.scheduler.timers = [] := List.eq_nil_of_length_eq_zero (Nat.le_zero.1 hlimit)
    have hnone : s.scheduler.takeDue = none := by rw [Scheduler.takeDue, hnil]
    rw [run_fireDue_none hnone, run_fireDue_none (Scheduler.takeDue_without_eq_none (hu.sensible hs) hnone)]
  | succ limit ih =>
    intro limit' s hs hlimit hlimit'
    cases hdue : s.scheduler.takeDue with
    | none => rw [run_fireDue_none hdue, run_fireDue_none (Scheduler.takeDue_without_eq_none (hu.sensible hs) hdue)]
    | some due =>
      obtain ⟨t, scheduler⟩ := due
      have htaken : P { s with scheduler } := hu.elsewhen hs ((hu.sensible hs).takeDue hdue)
      have hrest : scheduler.timers.length ≤ limit := by
        obtain ⟨rest, hq, -, rfl⟩ := Scheduler.takeDue_eq_some hdue
        rw [hq, List.length_cons] at hlimit
        exact Nat.le_of_succ_le_succ hlimit
      rw [run_fireDue_succ, hdue]
      dsimp only
      cases hp : p t.purpose with
      | true =>
        -- a timer that has been removed does nothing on the other stage
        have hsame : s.without p = Stage.without p { s with scheduler } :=
          congrArg (fun scheduler => { s with scheduler }) (Scheduler.without_of_takeDue hdue hp).symm
        rw [hu.gone htaken hp, hsame]
        rw [hsame] at hlimit'
        exact ih limit' htaken hrest hlimit'
      | false =>
        have hdue' := Scheduler.takeDue_without_eq_some hdue hp
        obtain ⟨rest', hq', -, hscheduler'⟩ := Scheduler.takeDue_eq_some hdue'
        obtain ⟨m, rfl⟩ : ∃ m, limit' = m + 1 := by
          refine Nat.exists_eq_add_one_of_ne_zero ?_
          rintro rfl
          change (s.scheduler.without p).timers.length ≤ 0 at hlimit'
          rw [hq'] at hlimit'
          cases hlimit'
        have hfired : Follows (without p) (h.onTimer t.purpose) { s with scheduler } := hu.timer htaken hp
        have hkept := hu.timers t.purpose { s with scheduler } htaken
        have hfewer : ((h.onTimer t.purpose).run { s with scheduler }).2.scheduler.timers.Sublist scheduler.timers :=
          hu.fewer htaken
        rw [run_fireDue_succ, show (s.without p).scheduler.takeDue = some (t, scheduler.without p) from hdue']
        dsimp only
        rw [show (h.onTimer t.purpose).run { s.without p with scheduler := scheduler.without p } = _ from hfired]
        rcases hr : (h.onTimer t.purpose).run { s with scheduler } with ⟨fault | u, after⟩
        · rfl
        · rw [hr] at hkept hfewer
          refine ih m hkept (hfewer.length_le.trans hrest) ?_
          have hless : ((s.without p).scheduler.timers).length = (scheduler.without p).timers.length + 1 :=
            (congrArg List.length hq').trans (congrArg (·.timers.length + 1) hscheduler'.symm)
          have hfired' : (after.without p).scheduler.timers.length ≤ (scheduler.without p).timers.length :=
            (hfewer.filter fun t : Timer α τ => !p t.purpose).length_le
          change (after.without p).scheduler.timers.length ≤ m
          omega

omit [Timekeeping α] [Strict α] in
theorem callAll (hu : Unaware h p P) (delta : α) : ∀ (callbacks : List κ) {s : Stage α κ τ ρ}, P s →
    Follows (without p) (Stage.callAll h delta callbacks) s
  | [], _, _ => follows_pure ()
  | k :: rest, s, hs => by
    refine Follows.bind (hu.frame hs) fun u t ht => hu.callAll delta rest ?_
    have hkept := hu.frames k delta s hs
    rw [ht] at hkept
    exact hkept

theorem timerPhase (hu : Unaware h p P) (spare : Nat) (delta : α) {s : Stage α κ τ ρ} (hs : P s) :
    Follows (without p) (Stage.timerPhase h spare delta) s := by
  have hadvance : (s.without p).scheduler.advance delta = (s.scheduler.advance delta).map (Scheduler.without p) := by
    unfold Scheduler.advance
    split <;> rfl
  unfold Act.Follows Stage.timerPhase
  rw [run_bind, run_bind, run_scheduling, run_scheduling, hadvance]
  cases ha : s.scheduler.advance delta with
  | error fault => rfl
  | ok scheduler =>
    have hadvanced : P { s with scheduler } := hu.elsewhen hs ((hu.sensible hs).advance ha)
    dsimp only [Except.map]
    rw [run_get_bind, run_get_bind]
    exact hu.fireDue _ _ hadvanced (Nat.le_add_right _ spare) (Nat.le_add_right _ spare)

omit [Timekeeping α] in
theorem keeping_step (hu : Unaware h p P) (spare : Nat) (delta : α) : Obeys (keeping P) (Stage.step h spare delta) :=
  obeys_step (fun _ _ ha hs => hu.elsewhen hs ((hu.sensible hs).advance ha))
    (fun _ t _ hdue hs => hu.timers t.purpose _ (hu.elsewhen hs ((hu.sensible hs).takeDue hdue)))
    fun callback => hu.frames callback delta

/-- **A frame goes alike** after the removal. -/
theorem step (hu : Unaware h p P) (spare : Nat) (delta : α) {s : Stage α κ τ ρ} (hs : P s) :
    Follows (without p) (Stage.step h spare delta) s := by
  have hafter : keeping P s ((Stage.timerPhase h spare delta).run s).2 :=
    obeys_timerPhase (fun _ _ ha hs => hu.elsewhen hs ((hu.sensible hs).advance ha))
      (fun _ t _ hdue hs => hu.timers t.purpose _ (hu.elsewhen hs ((hu.sensible hs).takeDue hdue))) s
  have hphase := hu.timerPhase spare delta hs
  unfold Act.Follows at hphase ⊢
  rw [step_eq, step_eq, hphase]
  rcases hr : (Stage.timerPhase h spare delta).run s with ⟨fault | u, t⟩
  · rfl
  · rw [hr] at hafter
    exact hu.callAll delta _ (hafter hs)

end Unaware
end Stage

namespace Bot

variable {α γ β : Type} [Scalar α] {stale : Nat → Bool}

/-! ## The bot after a removal -/

/-- Whether a timer ends a wave of one of some brains. -/
def endsOf (stale : Nat → Bool) : Alarm γ → Bool
  | .waveEnd serial _ => stale serial
  | .guest _ => false

/-- The stage without the timers that some brains have left. -/
def cleared (stale : Nat → Bool) (s : BotStage α γ) : BotStage α γ := s.without (endsOf stale)

/-- **A stage that may be cleared** of the timers of some brains: they are stopped. -/
structure Clearable (stale : Nat → Bool) (s : BotStage α γ) : Prop where
  sensible : s.scheduler.Sensible
  stopped : ∀ k, stale k = true → Stopped k s

/-- **Guests that do not look at the timers** that brains have left.  What a guest's timer does registers no timer for
the same frame. -/
structure Indifferent (stale : Nat → Bool) (guests : Guests α γ) : Prop where
  timer {g : γ} {s : BotStage α γ} : Clearable stale s → Follows (cleared stale) (guests.onTimer g) s
  timers (g : γ) : Obeys (keeping (Clearable stale)) (guests.onTimer g)
  fewer {g : γ} {s : BotStage α γ} : Clearable stale s →
    ((guests.onTimer g).run s).2.scheduler.timers.Sublist s.scheduler.timers
  frame {g : γ} {delta : α} {s : BotStage α γ} : Clearable stale s → Follows (cleared stale) (guests.onFrame g delta) s
  frames (g : γ) (delta : α) : Obeys (keeping (Clearable stale)) (guests.onFrame g delta)

theorem indifferent_absent : Indifferent stale (.absent : Guests α Empty) := ⟨nofun, nofun, nofun, nofun, nofun⟩

omit [Scalar α] in
theorem follows_onBrain {p : Alarm γ → Bool} {serial : Nat} {play : Play α (Callback γ) (Alarm γ) β}
    {s : BotStage α γ} (h : ∀ brain, Follows (Scene.without p) play (scene s brain)) :
    Follows (Stage.without p) (onBrain serial play) s := by
  unfold Act.Follows
  cases hb : s.cast.brains[serial]? with
  | none => rw [run_onBrain_none play hb, run_onBrain_none (s := s.without p) play hb]
  | some brain =>
    have hplay : play.run (scene (s.without p) brain) = _ := h brain
    rw [run_onBrain_some play hb, run_onBrain_some (s := s.without p) play hb, hplay]
    rfl

theorem Clearable.spares {s t : BotStage α γ} (h : Clearable stale s) (hsensible : t.scheduler.Sensible)
    (hspares : ∀ k, Spares k s t) : Clearable stale t :=
  ⟨hsensible, fun k hk => (h.stopped k hk).spares (hspares k)⟩

theorem clearable_onBrain {play : Play α (Callback γ) (Alarm γ) β} {b : β}
    (hplay : ∀ c : Scene α (Callback γ) (Alarm γ), c.brain.closed = true → play.run c = (.ok b, c))
    (hsensible : Obeys (keeping fun c : Scene α (Callback γ) (Alarm γ) => c.scheduler.Sensible) play) (serial : Nat) :
    Obeys (keeping (Clearable stale)) (onBrain serial play) := by
  intro s hs
  refine hs.spares ?_ fun k => spares_onBrain hplay serial s
  cases hb : s.cast.brains[serial]? with
  | none =>
    rw [run_onBrain_none play hb]
    exact hs.sensible
  | some brain =>
    rw [run_onBrain_some play hb]
    exact hsensible (scene s brain) hs.sensible

omit [Scalar α] in
theorem scheduler_stop (serial : Nat) (number : Option Int) :
    Obeys (leaving fun s : BotStage α γ => s.scheduler) (onBrain serial (Wave.stop number)) := by
  refine obeys_onBrain fun s brain _ => ?_
  obtain ⟨t, hr, hscheduler, -⟩ := Wave.arm_stop number (scene s brain)
  rw [hr]
  exact hscheduler

theorem sensible_stop (number : Option Int) :
    Obeys (keeping fun c : Scene α (Callback γ) (Alarm γ) => c.scheduler.Sensible) (Wave.stop number) := by
  intro c hc
  obtain ⟨t, hr, hscheduler, -⟩ := Wave.arm_stop number c
  rw [hr]
  exact hscheduler ▸ hc

section Clocks

variable [Timekeeping α] [Strict α]

omit [Strict α] in
theorem sensible_frame (serial : Nat) (delta : α) :
    Obeys (keeping fun c : Scene α (Callback γ) (Alarm γ) => c.scheduler.Sensible)
      (Brain.frame (.waveEnd serial) delta) := by
  intro c hc
  rcases Brain.arm_frame (.waveEnd serial) delta c with ⟨hscheduler, -⟩ | ⟨-, -, -, hscheduler⟩
  · exact hscheduler ▸ hc
  · exact hscheduler ▸ hc.asked _ _

/-- **Brains do not notice** that timers of stopped brains have been removed. -/
theorem unaware_handlers {guests : Guests α γ} (hguests : Indifferent stale guests) :
    Stage.Unaware (handlers guests) (endsOf stale) (Clearable stale) where
  sensible hs := hs.sensible
  elsewhen hs hscheduler := ⟨hscheduler, hs.stopped⟩
  gone {purpose s} hs hp := by
    cases purpose with
    | guest g => cases hp
    | waveEnd serial number => exact run_onBrain_stopped (fun _ hc => Wave.run_stop_closed _ hc) (hs.stopped serial hp)
  timer {purpose s} hs hp := by
    cases purpose with
    | guest g => exact hguests.timer hs
    | waveEnd serial number => exact follows_onBrain fun brain => Wave.follows_stop _
  timers purpose := by
    cases purpose with
    | guest g => exact hguests.timers g
    | waveEnd serial number =>
      exact clearable_onBrain (fun _ hc => Wave.run_stop_closed _ hc) (sensible_stop _) serial
  fewer {purpose s} hs := by
    cases purpose with
    | guest g => exact hguests.fewer hs
    | waveEnd serial number =>
      have hsame : (((handlers guests).onTimer (.waveEnd serial number)).run s).2.scheduler = s.scheduler :=
        scheduler_stop serial (some (number : Int)) s
      exact hsame ▸ List.Sublist.refl _
  frame {callback delta s} hs := by
    cases callback with
    | guest g => exact hguests.frame hs
    | brain serial =>
      change Follows _ (onBrain serial (Brain.frame (.waveEnd serial) delta)) s
      cases hstale : stale serial with
      | true =>
        have hstopped := hs.stopped serial hstale
        unfold Act.Follows
        rw [run_onBrain_stopped (frame_closed serial delta) hstopped,
          run_onBrain_stopped (s := s.without (endsOf stale)) (frame_closed serial delta) hstopped]
      | false =>
        have hending : ∀ n, endsOf stale (.waveEnd serial n : Alarm γ) = false := fun _ => hstale
        exact follows_onBrain fun brain => Brain.follows_frame hending delta (by exact hs.sensible)
  frames callback delta := by
    cases callback with
    | guest g => exact hguests.frames g delta
    | brain serial => exact clearable_onBrain (frame_closed serial delta) (sensible_frame serial delta) serial

end Clocks

/-! ## Starts and stops after a removal -/

section Doings

variable [DecidableEq γ]

theorem follows_start {p : Alarm γ → Bool} (config : BotConfig α) {s : BotStage α γ} :
    Follows (Stage.without p) (start config : Act (Fault α) (BotStage α γ) Bool) s := by
  have hnumber : ∀ t : BotStage α γ, Follows (Stage.without p) (chooseNumber config) t := by
    intro t
    unfold chooseNumber
    split
    · exact follows_pure _
    · rfl
  have henter : ∀ number (t : BotStage α γ), Follows (Stage.without p) (enter config number) t := by
    intro number t
    refine Follows.bind (follows_ofExcept _) fun appearance t _ => Follows.bind (follows_modify rfl) fun _ t _ => ?_
    refine Follows.bind ?_ fun spawn t _ => Follows.bind (follows_modify ?_) fun _ t _ => ?_
    · rfl
    · unfold Stage.without
      dsimp only
      rw [Scheduler.connect_without]
    · rfl
  refine follows_get_bind rfl ?_
  split
  · exact Follows.bind (follows_modify rfl) fun _ _ _ => follows_pure _
  · exact Follows.bind (hnumber _) fun number t _ => Follows.bind (henter number t) fun _ _ _ => follows_pure _

omit [Scalar α] in
theorem follows_stop {p : Alarm γ → Bool} {s : BotStage α γ} :
    Follows (Stage.without p) (stop : Act (Fault α) (BotStage α γ) Unit) s := by
  have hcurrent : ∀ t : BotStage α γ, Follows (Stage.without p) current t := by
    intro t
    refine follows_get_bind rfl ?_
    split <;> rfl
  refine follows_get_bind rfl ?_
  split
  · exact follows_pure _
  · refine Follows.bind (hcurrent _) fun serial t _ => Follows.bind (follows_modify rfl) fun _ t _ => ?_
    refine Follows.bind (follows_onBrain fun brain => Brain.follows_close) fun _ t _ => follows_get_bind rfl ?_
    exact Follows.bind (follows_modify rfl) fun _ _ _ => follows_modify rfl

theorem clearable_start (config : BotConfig α) :
    Obeys (keeping (Clearable stale)) (start config : Act (Fault α) (BotStage α γ) Bool) := by
  have hsensible : Obeys (keeping fun s : BotStage α γ => s.scheduler.Sensible) (start config) :=
    obeys_start (fun _ _ => id) (fun _ _ _ => id) fun _ _ _ hs => hs.connect _
  exact fun s hs => hs.spares (hsensible s hs.sensible) fun k => spares_start config s

theorem clearable_stop : Obeys (keeping (Clearable stale)) (stop : Act (Fault α) (BotStage α γ) Unit) := by
  refine obeys_stop (fun s k hs => ⟨fun hnow => (hs.sensible hnow).disconnect k, hs.stopped⟩) ?_ fun s journal hs =>
    ⟨hs.sensible, hs.stopped⟩
  exact clearable_onBrain close_closed (Brain.obeys_close fun _ _ _ => id)

/-! ## Whatever is done after a removal -/

/-- What can be done with a bot. -/
inductive Doing (α : Type) where
  | start (config : BotConfig α)
  | step (delta : α)
  | stop

def Doing.act (guests : Guests α γ) : Doing α → Act (Fault α) (BotStage α γ) Unit
  | .start config => discard (Bot.start config)
  | .step delta => Bot.step guests delta
  | .stop => Bot.stop

/-- How a row of doings goes: what each answers, and the stage that it leaves behind. -/
def rows (guests : Guests α γ) : List (Doing α) → BotStage α γ → List (Except (Fault α) Unit × BotStage α γ)
  | [], _ => []
  | doing :: rest, s => (doing.act guests).run s :: rows guests rest ((doing.act guests).run s).2

variable [Timekeeping α] [Strict α]

theorem follows_doing {guests : Guests α γ} (hguests : Indifferent stale guests) (doing : Doing α) {s : BotStage α γ}
    (hs : Clearable stale s) : Follows (cleared stale) (doing.act guests) s := by
  cases doing with
  | start config => exact (follows_start config).map _
  | step delta => exact (unaware_handlers hguests).step 0 delta hs
  | stop => exact follows_stop

theorem clearable_doing {guests : Guests α γ} (hguests : Indifferent stale guests) (doing : Doing α) :
    Obeys (keeping (Clearable stale)) (doing.act guests) := by
  cases doing with
  | start config => exact (clearable_start config).map _
  | step delta => exact (unaware_handlers hguests).keeping_step 0 delta
  | stop => exact clearable_stop

/-- **Whatever is done goes alike** after the timers of stopped brains have been removed. -/
theorem rows_cleared {guests : Guests α γ} (hguests : Indifferent stale guests) :
    ∀ (doings : List (Doing α)) {s : BotStage α γ}, Clearable stale s →
      rows guests doings (cleared stale s) = (rows guests doings s).map (Prod.map id (cleared stale))
  | [], _, _ => rfl
  | doing :: rest, s, hs => by
    have hdoing : (doing.act guests).run (cleared stale s) = _ := follows_doing hguests doing hs
    have hafter := clearable_doing hguests doing s hs
    rw [rows, rows, hdoing, List.map_cons, rows_cleared hguests rest hafter]
    rfl

omit [DecidableEq γ] in
theorem clearable_step {guests : Guests α γ} {delta : α}
    (htimers : ∀ g, Obeys (keeping (Clearable stale)) (guests.onTimer g))
    (hframes : ∀ g, Obeys (keeping (Clearable stale)) (guests.onFrame g delta)) :
    Obeys (keeping (Clearable stale)) (step guests delta) := by
  refine obeys_step (fun s scheduler ha hs => ⟨hs.sensible.advance ha, hs.stopped⟩) ?_
    (fun s t scheduler g hdue _ hs => ⟨hs.sensible.takeDue hdue, hs.stopped⟩) htimers
    (fun serial => clearable_onBrain (frame_closed serial delta) (sensible_frame serial delta) serial) hframes
  intro s t scheduler serial number hdue _ hs
  exact clearable_onBrain (fun _ hc => Wave.run_stop_closed _ hc) (sensible_stop _) serial { s with scheduler }
    ⟨hs.sensible.takeDue hdue, hs.stopped⟩

/-- **Timers stay in line**, whatever the bot lives through, if nothing from outside brings them out of it. -/
theorem Course.sensible {s t : BotStage α γ} (h : Course (keeping fun t => t.scheduler.Sensible) s t)
    (hs : s.scheduler.Sensible) : t.scheduler.Sensible := by
  have hclearable : Clearable (fun _ => false) s → Clearable (fun _ => false) t :=
    h.obeys (R := keeping (Clearable fun _ => false)) (fun s t hst hs => ⟨hst hs.sensible, nofun⟩) clearable_start
      (fun serial delta => clearable_onBrain (frame_closed serial delta) (sensible_frame serial delta) serial)
      (fun _ _ htimers hframes => clearable_step htimers hframes) clearable_stop
  exact (hclearable ⟨hs, nofun⟩).sensible

/-- Whether a brain has been stopped. -/
def isStopped (s : BotStage α γ) (k : Nat) : Bool := s.cast.brains[k]?.any Brain.closed

/-- **Sessions do not reach each other**, at any moment that a bot can live to.  A stop answers; the brain of the
session is stopped then, and every stopped brain is silent from then on.  And if the timers that stopped brains have
left are removed, whatever is done afterwards goes the same and leaves behind the same, less those timers. -/
theorem sessions_isolated {source : Source α} {s : BotStage α γ}
    (h : Course (keeping fun t => t.scheduler.Sensible) (waiting source) s) :
    (∃ after, stop.run s = (.ok (), after) ∧ (∀ k, latest after = some k → Stopped k after) ∧
      ∀ k, Stopped k after → Silent k after) ∧
    ∀ guests : Guests α γ, Indifferent (isStopped s) guests → ∀ doings,
      rows guests doings (cleared (isStopped s) s) =
        (rows guests doings s).map (Prod.map id (cleared (isStopped s))) := by
  have hsensible : s.scheduler.Sensible := h.sensible fun _ => Scheduler.ordered_fresh
  constructor
  · obtain ⟨after, hr, hstopped⟩ := run_stop s
    exact ⟨after, hr, hstopped, fun k hk => hk.silent⟩
  · intro guests hguests doings
    refine rows_cleared hguests doings ⟨hsensible, fun k hk => ?_⟩
    unfold isStopped at hk
    cases hb : s.cast.brains[k]? with
    | none =>
      rw [hb] at hk
      cases hk
    | some brain =>
      rw [hb] at hk
      exact ⟨brain, hb, hk⟩

/-- A session that has left the timer of its wave, and a session after it that waves as well, with the same number. -/
theorem sessions_isolated_waving :
    let config : BotConfig Float := { BotConfig.standard with
      assets := ⟨"assets", some 7⟩
      settings := { Settings.standard with wave := { WaveSettings.standard with chance := 1.0 } } }
    let s : BotStage Float Empty :=
      (stop.run ((step .absent 0.5).run ((start config).run (waiting (.scripted [] 0.5))).2).2).2
    let doings : List (Doing Float) := [.start config, .step 0.5, .step 2.0]
    rows .absent doings (cleared (isStopped s) s) =
      (rows .absent doings s).map (Prod.map id (cleared (isStopped s))) := by
  intro config s doings
  have hcourse : Course (keeping fun t => t.scheduler.Sensible) (waiting (.scripted [] 0.5)) s :=
    .trans (.start config _) (.trans (.frame_absent 0.5 _) (.stop _))
  exact (sessions_isolated hcourse).2 .absent indifferent_absent doings

end Doings

end Bot
end Bystander
