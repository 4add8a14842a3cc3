import Bystander.Proofs.Answers
import Bystander.Proofs.Chances
import Bystander.Proofs.Clocks
import Bystander.Proofs.Outcomes
/-! # Two parties count the same

Host and brain each keep account of frames, queries of the view, clips and the pose, and they are told at different
points of a frame.  In a session of one bot the accounts agree after every frame, wherever it fails.  The waves that the
brain has counted are the timers that have fired and those that are pending.
-/
namespace Bystander

open Scalar (Elapses)
open Act (Obeys run_bind run_get_bind)

variable {α κ τ ρ : Type} [Scalar α]

/-! ## Timers that fire -/

namespace Stage

variable {h : Handlers α κ τ ρ}

/-- The timers that a loop fires, in order. -/
def fires (h : Handlers α κ τ ρ) : Nat → Stage α κ τ ρ → List (Timer α τ)
  | 0, _ => []
  | limit + 1, s =>
    match s.scheduler.takeDue with
    | none => []
    | some (t, scheduler) =>
      match (h.onTimer t.purpose).run { s with scheduler } with
      | (.ok _, s) => t :: fires h limit s
      | (.error _, _) => [t]

/-- The timers that a frame fires. -/
def firesIn (h : Handlers α κ τ ρ) (spare : Nat) (delta : α) (s : Stage α κ τ ρ) : List (Timer α τ) :=
  match s.scheduler.advance delta with
  | .ok scheduler => fires h (scheduler.timers.length + spare) { s with scheduler }
  | .error _ => []

/-- **What has fired is gone, and nothing else**, if the timers leave the scheduler alone. -/
theorem fires_append (hleave : ∀ purpose, Obeys (leaving (·.scheduler)) (h.onTimer purpose)) :
    ∀ (limit : Nat) (s : Stage α κ τ ρ),
      fires h limit s ++ ((fireDue h limit).run s).2.scheduler.timers = s.scheduler.timers
  | 0, s => by
    rw [run_fireDue_zero]
    cases s.scheduler.takeDue <;> rfl
  | limit + 1, s => by
    rw [run_fireDue_succ, fires]
    cases hdue : s.scheduler.takeDue with
    | none => rfl
    | some due =>
      obtain ⟨t, scheduler⟩ := due
      obtain ⟨rest, hq, -, hrest⟩ := Scheduler.takeDue_eq_some hdue
      have hkept : ((h.onTimer t.purpose).run { s with scheduler }).2.scheduler = scheduler :=
        hleave t.purpose { s with scheduler }
      have htimers : scheduler.timers = rest := by rw [hrest]
      dsimp only
      rcases hr : (h.onTimer t.purpose).run { s with scheduler } with ⟨fault | u, after⟩
      · rw [hr] at hkept
        dsimp only at hkept ⊢
        rw [hkept, htimers, hq]
        rfl
      · rw [hr] at hkept
        dsimp only at hkept ⊢
        rw [List.cons_append, fires_append hleave limit after, hkept, htimers, hq]

theorem firesIn_append (hleave : ∀ purpose, Obeys (leaving (·.scheduler)) (h.onTimer purpose)) (spare : Nat) (delta : α)
    (s : Stage α κ τ ρ) :
    firesIn h spare delta s ++ ((timerPhase h spare delta).run s).2.scheduler.timers = s.scheduler.timers := by
  rw [timerPhase, run_bind, run_scheduling, firesIn]
  cases ha : s.scheduler.advance delta with
  | error fault => rfl
  | ok scheduler =>
    obtain ⟨-, hscheduler⟩ := Scheduler.advance_eq_ok ha
    have htimers : scheduler.timers = s.scheduler.timers := by rw [hscheduler]
    dsimp only
    rw [run_get_bind, fires_append hleave, htimers]

end Stage

/-! ## Accounts that agree -/

/-- **The accounts of host and brain agree**, but for the frames. -/
structure Scene.Agreed (s : Scene α κ τ) : Prop where
  queries : s.brain.queries = s.viewer.queries
  sounds : s.brain.sounds = s.audio.played.length
  position : s.brain.state.position = s.avatar.position
  orientation : s.brain.state.orientation = s.avatar.orientation

/-- What the behaviours of a frame keep: accounts that agree, and both counts of frames; no walk is taken back. -/
structure Scene.Records (s t : Scene α κ τ) : Prop where
  agreed : s.Agreed → t.Agreed
  frames : t.brain.frames = s.brain.frames
  frameCount : t.scheduler.frameCount = s.scheduler.frameCount
  walks : s.brain.walks ≤ t.brain.walks

omit [Scalar α] in
instance : Steady (Scene.Records (α := α) (κ := κ) (τ := τ)) where
  refl _ := ⟨id, rfl, rfl, Nat.le_refl _⟩
  trans h h' := ⟨h'.agreed ∘ h.agreed, h'.frames.trans h.frames, h'.frameCount.trans h.frameCount,
    Nat.le_trans h.walks h'.walks⟩

/-- What host and brain have put down. -/
def Scene.accounts (s : Scene α κ τ) :
    (Nat × Nat × Nat × Nat × Vec3 α × Quat α) × Nat × Nat × List (Clip α) × Vec3 α × Quat α :=
  ((s.brain.frames, s.brain.queries, s.brain.sounds, s.brain.walks, s.brain.state.position, s.brain.state.orientation),
    s.scheduler.frameCount, s.viewer.queries, s.audio.played, s.avatar.position, s.avatar.orientation)

omit [Scalar α] in
theorem Scene.Records.of_accounts {s t : Scene α κ τ} (h : t.accounts = s.accounts) : Scene.Records s t := by
  simp only [accounts, Prod.mk.injEq] at h
  obtain ⟨⟨hframes, hqueries, hsounds, hwalks, hposition, horientation⟩, hcount, hviewer, haudio, hplace, hfacing⟩ := h
  refine ⟨fun hs => ⟨?_, ?_, ?_, ?_⟩, hframes, hcount, Nat.le_of_eq hwalks.symm⟩
  · rw [hqueries, hviewer, hs.queries]
  · rw [hsounds, haudio, hs.sounds]
  · rw [hposition, hplace, hs.position]
  · rw [horientation, hfacing, hs.orientation]

theorem Brain.records_outcomes : Outcomes (Scene.Records (α := α) (κ := κ) (τ := τ)) where
  drawn _ := .of_accounts rfl
  queried _ := ⟨fun h => ⟨congrArg Nat.succ h.queries, h.sounds, h.position, h.orientation⟩, rfl, rfl, Nat.le_refl _⟩
  begun _ := .of_accounts rfl
  started hset := by
    obtain ⟨-, rfl⟩ := Scheduler.setTimeout_eq_ok hset
    exact .of_accounts rfl
  limbs _ _ := .of_accounts rfl
  heard index clip s := by
    have hplayed : (s.audio.play s.scheduler.now clip).played.length = s.audio.played.length + 1 := by
      simp [Audio.play, Audio.played]
    exact ⟨fun h => ⟨h.queries, (congrArg Nat.succ h.sounds).trans hplayed.symm, h.position, h.orientation⟩, rfl, rfl,
      Nat.le_refl _⟩
  aimed _ := .of_accounts rfl
  eased _ := .of_accounts rfl
  chosen _ _ := ⟨fun h => ⟨h.queries, h.sounds, h.position, h.orientation⟩, rfl, rfl, Nat.le_succ _⟩
  moved _ _ := ⟨fun h => ⟨h.queries, h.sounds, rfl, rfl⟩, rfl, rfl, Nat.le_refl _⟩
  arrived _ := .of_accounts rfl

/-- **A frame** counts itself and keeps all other accounts, wherever it fails. -/
theorem Brain.records_frame (ending : Nat → τ) (delta : α) {s : Scene α κ τ} (hopen : s.brain.closed = false)
    (h : s.Agreed) : let t := ((frame ending delta).run s).2
    t.Agreed ∧ t.brain.frames = s.brain.frames + 1 ∧ t.scheduler.frameCount = s.scheduler.frameCount ∧
      s.brain.walks ≤ t.brain.walks := by
  have hkept := records_outcomes.behave ending (begin delta s)
  rw [run_frame_open ending delta hopen]
  exact ⟨hkept.agreed ⟨h.queries, h.sounds, rfl, rfl⟩, hkept.frames, hkept.frameCount, hkept.walks⟩

/-- **A wave that a frame starts** has its timer, if that is accepted. -/
theorem Brain.waves_frame (ending : Nat → τ) (delta : α) {s : Scene α κ τ}
    (hlasting : ∀ r, s.source.Gives r → Elapses (s.brain.settings.wave.duration r)) :
    let t := ((frame ending delta).run s).2
    t.brain.state.waveCount + s.scheduler.timers.length = s.brain.state.waveCount + t.scheduler.timers.length := by
  obtain ⟨hscheduler, harm⟩ | ⟨-, -, harm, hscheduler⟩ := Brain.arm_frame ending delta s
  · have hcount : ((frame ending delta).run s).2.brain.state.waveCount = s.brain.state.waveCount :=
      congrArg Arm.count harm
    dsimp only
    rw [hscheduler, hcount]
  · have hcount : ((frame ending delta).run s).2.brain.state.waveCount = s.brain.state.waveCount + 1 :=
      congrArg Arm.count harm
    have hleads : s.source.Leads s.source.draw.2.draw.2.draw.2 := .fraction (.fraction (.fraction (.refl _)))
    have haccepted : Scheduler.acceptsDelay (s.brain.arm.nextDuration s.source.draw.2) = true :=
      (Scheduler.acceptsDelay_iff _).2 (hlasting _ hleads.gives)
    have htimers : (s.scheduler.asked (ending (s.brain.arm.count + 1))
        (s.brain.arm.nextDuration s.source.draw.2)).timers.length = s.scheduler.timers.length + 1 := by
      unfold Scheduler.asked Scheduler.setTimeout
      rw [haccepted, if_pos rfl]
      exact Scheduler.length_enqueue _ _
    dsimp only
    rw [hscheduler, hcount, htimers]
    omega

/-! ## Sessions -/

namespace Bot

variable {wave : WaveSettings α} {source : Source α} {n : Nat} {s : BotStage α Empty}
  {c : Scene α (Callback Empty) (Alarm Empty)}

/-- The timers that the frames of a session fire, in order. -/
def fired : List α → BotStage α Empty → List (Timer α (Alarm Empty))
  | [], _ => []
  | delta :: deltas, s =>
    Stage.firesIn (handlers .absent) 0 delta s ++ fired deltas ((step .absent delta).run s).2

/-- **The ledger of a session** in which so many timers have fired. -/
structure Ledger (wave : WaveSettings α) (source : Source α) (n : Nat) (c : Scene α κ τ) : Prop where
  agreed : c.Agreed
  frames : c.brain.frames = c.scheduler.frameCount
  told : c.brain.settings.wave = wave
  leads : source.Leads c.source
  waves : (∀ r, source.Gives r → Elapses (wave.duration r)) →
    c.brain.state.waveCount = n + c.scheduler.timers.length

theorem leaves_onTimer (purpose : Alarm Empty) :
    Obeys (leaving (·.scheduler)) ((handlers (.absent : Guests α Empty)).onTimer purpose) := by
  obtain ⟨serial, number⟩ | ⟨⟨⟩⟩ := purpose
  refine obeys_onBrain fun s brain hb => ?_
  obtain ⟨t, hr, _, _, _, _, -, rfl⟩ := Wave.run_stop (some (number : Int)) (scene s brain)
  rw [hr]
  rfl

/-- **A frame of a session** keeps its ledger. -/
theorem Ledger.step (hl : Ledger wave source n c) (h : Shows s c) (hc : c.Lone) {delta : α} (hd : ¬ delta < 0.0) :
    ∃ d, Shows ((step .absent delta).run s).2 d ∧ d.Lone ∧
      Ledger wave source (n + (Stage.firesIn (handlers .absent) 0 delta s).length) d ∧
      c.brain.walks ≤ d.brain.walks := by
  obtain ⟨u, d, hr, hu, hrings, -⟩ := h.run_timerPhase hc hd
  have hlone : d.Lone := (hc.ticked delta).rings hrings
  obtain ⟨t, ht, hshows⟩ := Shows.run_calls hr hu hlone
  have hfired := congrArg List.length (Stage.firesIn_append leaves_onTimer 0 delta s)
  rw [hr, hu.scheduler, h.scheduler, List.length_append] at hfired
  -- what the timers leave behind differs from the ledger's scene by a frame that is not counted by the brain yet
  have hrung : d.Agreed ∧ d.brain.frames + 1 = d.scheduler.frameCount ∧ d.brain.settings.wave = wave ∧
      d.source = c.source ∧ d.brain.state.waveCount = c.brain.state.waveCount ∧ d.brain.walks = c.brain.walks := by
    obtain ⟨_, _, _, _, _, _, -, -, -, rfl⟩ := hrings
    exact ⟨⟨hl.agreed.queries, hl.agreed.sounds, hl.agreed.position, hl.agreed.orientation⟩,
      congrArg Nat.succ hl.frames, hl.told, rfl, rfl, rfl⟩
  obtain ⟨hagreed, hbehind, htold, hsource, hwaves, hwalked⟩ := hrung
  obtain ⟨hafter, hframes, hcount, hwalks⟩ := Brain.records_frame (.waveEnd 0) delta hlone.opened hagreed
  have hkept : ((Brain.frame (.waveEnd 0) delta).run d).2.brain.settings.wave = d.brain.settings.wave := by
    obtain ⟨-, harm⟩ | ⟨-, -, harm, -⟩ := Brain.arm_frame (.waveEnd 0) delta d
    · exact congrArg Arm.settings harm
    · exact congrArg Arm.settings harm
  have hleads : d.source.Leads ((Brain.frame (.waveEnd 0) delta).run d).2.source := Brain.draws_frame _ delta d
  rw [ht]
  refine ⟨_, hshows, hlone.frame delta, ?_, hwalked ▸ hwalks⟩
  constructor
  · exact hafter
  · rw [hframes, hcount, hbehind]
  · exact hkept.trans htold
  · exact (hsource ▸ hl.leads).trans hleads
  · intro hlasting
    have hstarted := Brain.waves_frame (.waveEnd 0) delta (s := d) fun r hr => by
      rw [htold]
      exact hlasting r (hr.of_leads (hsource ▸ hl.leads))
    have hbefore := hl.waves hlasting
    dsimp only at hstarted hfired
    omega

theorem ends_of_firesIn (h : Shows s c) (hc : c.Lone) (delta : α) :
    ∀ u ∈ Stage.firesIn (handlers .absent) 0 delta s, ∃ n, u.purpose = .waveEnd 0 n := by
  intro u hu
  refine hc.ends u ?_
  rw [← h.scheduler, ← Stage.firesIn_append leaves_onTimer 0 delta s]
  exact List.mem_append_left _ hu

theorem Ledger.steps : ∀ (deltas : List α) {n : Nat} {s : BotStage α Empty}
    {c : Scene α (Callback Empty) (Alarm Empty)}, Ledger wave source n c → Shows s c → c.Lone →
    ∃ d, Shows (steps .absent deltas s) d ∧ d.Lone ∧ Ledger wave source (n + (fired deltas s).length) d ∧
      c.brain.walks ≤ d.brain.walks ∧ ∀ u ∈ fired deltas s, ∃ n, u.purpose = .waveEnd 0 n
  | [], n, s, c, hl, h, hc => ⟨c, h, hc, hl, Nat.le_refl _, List.forall_mem_nil _⟩
  | delta :: deltas, n, s, c, hl, h, hc => by
    unfold Bot.steps fired
    rw [List.foldl_cons]
    by_cases hd : delta < 0.0
    · -- a frame that is refused changes nothing and fires nothing
      have hnone : Stage.firesIn (handlers .absent) 0 delta s = [] := by
        unfold Stage.firesIn
        rw [(Scheduler.advance_eq_error_iff delta s.scheduler).2 hd]
      rw [run_step_refused .absent hd s, hnone]
      exact Ledger.steps deltas hl h hc
    · obtain ⟨d, hd', hlone, hl', hwalks⟩ := hl.step h hc hd
      obtain ⟨e, he, hlone', hl'', hwalks', hends⟩ := Ledger.steps deltas hl' hd' hlone
      rw [List.length_append, ← Nat.add_assoc]
      refine ⟨e, he, hlone', hl'', Nat.le_trans hwalks hwalks', fun u hu => ?_⟩
      rcases List.mem_append.1 hu with hfirst | hlater
      · exact ends_of_firesIn h hc delta u hfirst
      · exact hends u hlater

/-- The ledger of a session is empty when it has started. -/
theorem ledger_of_start {config : BotConfig α} {first : BotStage α Empty} {answer : Bool}
    (h : (start config).run (waiting source) = (.ok answer, first)) :
    ∃ c, Shows first c ∧ c.Lone ∧ Ledger config.settings.wave source 0 c := by
  obtain ⟨source', appearance, journal, -, hfirst⟩ := entered_of_start h
  obtain ⟨c, hc, hlone, -, htimers, hleads, _, _, hbrain⟩ := shows_of_start h
  refine ⟨c, hc, hlone, ?_, ?_, ?_, hleads, fun _ => ?_⟩
  · have hbrains := hc.brains
    have hscene := hc.scene
    rw [hfirst] at hbrains hscene
    rw [← List.head_eq_of_cons_eq hbrains] at hscene
    rw [← hscene]
    exact ⟨rfl, rfl, rfl, rfl⟩
  · have hcount : c.scheduler.frameCount = 0 := by
      rw [← hc.scheduler, hfirst]
      rfl
    rw [hcount, hbrain]
    rfl
  · rw [hbrain]
    rfl
  · rw [hbrain, htimers]
    rfl

/-- **Host and brain count the same.**  In the first session of a bot on a fresh host, after any frames, failed ones
included, both have counted the same frames, queries of the view and clips, and they have the same pose; no walk is
taken back.  If all durations of waves can be waited for, the waves so far are the timers that have fired and those that
are pending. -/
theorem bookkeeping_agrees {config : BotConfig α} {answer : Bool} {first : BotStage α Empty}
    (hstart : (start config).run (waiting source) = (.ok answer, first)) (deltas : List α) :
    let s := steps .absent deltas first
    isRunning s = true ∧ ∃ brain, s.cast.brains = [brain] ∧ brain.frames = s.scheduler.frameCount ∧
      brain.queries = s.viewer.queries ∧ brain.sounds = s.audio.played.length ∧
      brain.state.position = s.avatar.position ∧ brain.state.orientation = s.avatar.orientation ∧
      (∀ more, ∃ later, (steps .absent more s).cast.brains = [later] ∧ brain.walks ≤ later.walks) ∧
      (∀ u ∈ fired deltas first ++ s.scheduler.timers, ∃ n, u.purpose = .waveEnd 0 n) ∧
      ((∀ r, source.Gives r → Elapses (config.settings.wave.duration r)) →
        brain.state.waveCount = (fired deltas first).length + s.scheduler.timers.length) := by
  obtain ⟨c, hc, hlone, hl⟩ := ledger_of_start hstart
  obtain ⟨d, hd, hlone', hl', -, hends⟩ := hl.steps deltas hc hlone
  have havatar : (steps .absent deltas first).avatar = d.avatar := congrArg (·.avatar) hd.scene
  have hviewer : (steps .absent deltas first).viewer = d.viewer := congrArg (·.viewer) hd.scene
  have haudio : (steps .absent deltas first).audio = d.audio := congrArg (·.audio) hd.scene
  dsimp only
  rw [havatar, hviewer, haudio, hd.scheduler]
  refine ⟨?_, d.brain, hd.brains, hl'.frames, hl'.agreed.queries, hl'.agreed.sounds, hl'.agreed.position,
    hl'.agreed.orientation, fun more => ?_, fun u hu => ?_, fun hlasting => ?_⟩
  · unfold isRunning brain?
    rw [hd.brains]
    exact congrArg not hlone'.opened
  · obtain ⟨e, he, -, -, hwalks, -⟩ := hl'.steps more hd hlone'
    exact ⟨e.brain, he.brains, hwalks⟩
  · rcases List.mem_append.1 hu with hgone | hpending
    · exact hends u hgone
    · exact hlone'.ends u hpending
  · rw [hl'.waves hlasting, Nat.zero_add]

/-- A bot that starts a wave in its first frame, and another one when the first has ended. -/
theorem bookkeeping_agrees_waving :
    let settings : Settings Float := { Settings.standard with wave := { WaveSettings.standard with chance := 1.0 } }
    let config : BotConfig Float := { BotConfig.standard with assets := ⟨"assets", some 7⟩, settings }
    let first := ((start config).run (waiting (.scripted [] 0.5) : BotStage Float Empty)).2
    let deltas : List Float := [0.5, 3.0]
    ∃ brain, (steps .absent deltas first).cast.brains = [brain] ∧
      brain.frames = (steps .absent deltas first).scheduler.frameCount ∧
      brain.state.waveCount = (fired deltas first).length + (steps .absent deltas first).scheduler.timers.length := by
  intro settings config first deltas
  have hfirst : (start config).run (waiting (.scripted [] 0.5) : BotStage Float Empty) = (.ok false, first) := rfl
  obtain ⟨-, brain, hbrain, hframes, -, -, -, -, -, -, hwaves⟩ := bookkeeping_agrees hfirst deltas
  have hlasting : ∀ r, (Source.scripted [] 0.5).Gives r → Elapses (settings.wave.duration r) := by
    intro r hr
    rw [Source.gives_scripted_nil hr]
    decide
  exact ⟨brain, hbrain, hframes, hwaves hlasting⟩

end Bot
end Bystander
