import Bystander.Proofs.Arms
/-! # A bot alone on its stage

A session without guests is a scene of one brain: frames call nothing else, and all timers end waves of it.  A frame of
the stage is then a frame of the scene (`Bot.Shows.run_step`): the clock moves on, the ends that are due fire, none of
which fails, and the brain is called.
-/
namespace Bystander

open Act (run_bind)

variable {α κ τ : Type} [Scalar α]

namespace Scene

/-- **What the ends of waves may do**: timers that are due go, from the first on, and the wave may be over. -/
def Rings (s t : Scene α κ τ) : Prop :=
  ∃ fired timers journal joints wave episode, s.scheduler.timers = fired ++ timers ∧
    (∀ u ∈ fired, u.due ≤ s.scheduler.now) ∧
    (wave = s.brain.state.wave ∧ episode = s.brain.state.episode ∨ wave = .idle ∧ episode = none) ∧ t = { s with
      journal
      scheduler := { s.scheduler with timers }
      avatar := { s.avatar with joints }
      brain := { s.brain with state := { s.brain.state with wave, episode } } }

theorem Rings.refl (s : Scene α κ τ) : Rings s s :=
  ⟨[], _, _, _, _, _, rfl, List.forall_mem_nil _, .inl ⟨rfl, rfl⟩, rfl⟩

theorem Rings.trans {s t u : Scene α κ τ} (h : Rings s t) (h' : Rings t u) : Rings s u := by
  obtain ⟨fired, timers, _, _, _, _, hsplit, hdue, hkept, rfl⟩ := h
  obtain ⟨fired', timers', _, _, wave, episode, hsplit', hdue', hkept', rfl⟩ := h'
  refine ⟨fired ++ fired', timers', _, _, wave, episode, ?_, fun u hu => ?_, ?_, rfl⟩
  · rw [hsplit, List.append_assoc]
    exact congrArg (fired ++ ·) hsplit'
  · rcases List.mem_append.1 hu with hold | hnew
    · exact hdue u hold
    · exact hdue' u hnew
  · rcases hkept' with ⟨rfl, rfl⟩ | hover
    · exact hkept
    · exact .inr hover

/-- **A scene of one brain alone**: it is open, and all callbacks and timers are its own. -/
structure Lone (s : Scene α (Callback Empty) (Alarm Empty)) : Prop where
  opened : s.brain.closed = false
  callbacks : s.scheduler.callbacks = [.brain 0]
  ends : ∀ t ∈ s.scheduler.timers, ∃ n, t.purpose = .waveEnd 0 n

/-- The scene when a frame has begun and none of its timers has fired yet. -/
def ticked (delta : α) (s : Scene α κ τ) : Scene α κ τ :=
  { s with scheduler :=
    { s.scheduler with now := s.scheduler.now + delta, frameCount := s.scheduler.frameCount + 1 } }

variable {s t : Scene α (Callback Empty) (Alarm Empty)}

theorem Lone.ticked (h : s.Lone) (delta : α) : (s.ticked delta).Lone := ⟨h.opened, h.callbacks, h.ends⟩

theorem Lone.rings (h : s.Lone) (ht : Rings s t) : t.Lone := by
  obtain ⟨fired, timers, _, _, _, _, hsplit, -, -, rfl⟩ := ht
  exact ⟨h.opened, h.callbacks, fun u hu => h.ends u (hsplit ▸ List.mem_append_right fired hu)⟩

/-- **A frame leaves a brain alone**: what it registers is the end of its own wave. -/
theorem Lone.frame (h : s.Lone) (delta : α) : ((Brain.frame (.waveEnd 0) delta).run s).2.Lone := by
  have hgoes := Brain.arm_frame (.waveEnd 0) delta s
  generalize ((Brain.frame (.waveEnd 0) delta).run s).2 = t at hgoes ⊢
  rcases hgoes with ⟨hscheduler, harm⟩ | ⟨-, -, harm, hscheduler⟩
  · have hclosed : t.brain.closed = s.brain.closed := congrArg Arm.closed harm
    constructor
    · exact hclosed.trans h.opened
    · rw [hscheduler]
      exact h.callbacks
    · rw [hscheduler]
      exact h.ends
  · have hclosed : t.brain.closed = s.brain.closed := congrArg Arm.closed harm
    have hcallbacks := Scheduler.callbacks_asked s.scheduler (.waveEnd 0 (s.brain.arm.count + 1))
      (s.brain.arm.nextDuration s.source.draw.2)
    constructor
    · exact hclosed.trans h.opened
    · rw [hscheduler, hcallbacks]
      exact h.callbacks
    · intro u hu
      rw [hscheduler] at hu
      rcases Scheduler.mem_asked hu with rfl | hold
      · exact ⟨_, rfl⟩
      · exact h.ends u hold

end Scene

namespace Bot

/-- **A stage that shows a scene**: it has one brain, and all it lets that brain act on is the scene. -/
structure Shows (s : BotStage α Empty) (c : Scene α (Callback Empty) (Alarm Empty)) : Prop where
  brains : s.cast.brains = [c.brain]
  scene : scene s c.brain = c

namespace Shows

variable {s : BotStage α Empty} {c d : Scene α (Callback Empty) (Alarm Empty)}

omit [Scalar α] in
theorem scheduler (h : Shows s c) : s.scheduler = c.scheduler := congrArg (·.scheduler) h.scene

omit [Scalar α] in
theorem withScheduler (h : Shows s c) (scheduler : Scheduler α (Callback Empty) (Alarm Empty)) :
    Shows { s with scheduler } { c with scheduler } := by
  refine ⟨h.brains, ?_⟩
  exact congrArg (fun e : Scene α (Callback Empty) (Alarm Empty) => { e with scheduler }) h.scene

omit [Scalar α] in
/-- **What the brain does on the stage** is what it does on the scene. -/
theorem run_onBrain (h : Shows s c) {β : Type} (play : Play α (Callback Empty) (Alarm Empty) β) :
    ∃ t, (onBrain 0 play).run s = ((play.run c).1, t) ∧ Shows t (play.run c).2 := by
  have hbrain : s.cast.brains[0]? = some c.brain := by
    rw [h.brains]
    rfl
  rw [run_onBrain_some play hbrain, h.scene]
  refine ⟨_, rfl, ?_, rfl⟩
  change s.cast.brains.set 0 (play.run c).2.brain = _
  rw [h.brains]
  rfl

/-- The timers of a frame get through, and leave nothing due. -/
theorem run_timerPhase (h : Shows s c) (hc : c.Lone) {delta : α} (hd : ¬ delta < 0.0) :
    ∃ t d, (Stage.timerPhase (handlers .absent) 0 delta).run s = (.ok (), t) ∧ Shows t d ∧
      Scene.Rings (c.ticked delta) d ∧ d.scheduler.takeDue = none := by
  have hadvance : s.scheduler.advance delta = .ok (c.ticked delta).scheduler := by
    rw [h.scheduler]
    exact if_neg hd
  have hfire : ∀ (t : BotStage α Empty) (u : Timer α (Alarm Empty))
      (scheduler : Scheduler α (Callback Empty) (Alarm Empty)),
      (∃ d, Shows t d ∧ Scene.Rings (c.ticked delta) d) → t.scheduler.takeDue = some (u, scheduler) →
      ∃ t', ((handlers .absent).onTimer u.purpose).run { t with scheduler } = (.ok (), t') ∧ t'.scheduler = scheduler ∧
        ∃ d, Shows t' d ∧ Scene.Rings (c.ticked delta) d := by
    -- each timer ends a wave of the one brain, so the stage shows a scene again when it has fired
    rintro t u scheduler ⟨d, ht, hrings⟩ hdue
    obtain ⟨rest, hq, hle, hrest⟩ := Scheduler.takeDue_eq_some hdue
    have htimers : d.scheduler.timers = u :: rest := by rw [← ht.scheduler, hq]
    obtain ⟨n, hp⟩ := ((hc.ticked delta).rings hrings).ends u (htimers ▸ List.mem_cons_self)
    obtain ⟨t', hr, ht'⟩ := (ht.withScheduler scheduler).run_onBrain (Wave.stop (some (n : Int)))
    obtain ⟨e, he, journal, joints, wave, episode, hkept, rfl⟩ := Wave.run_stop (some (n : Int)) { d with scheduler }
    rw [he] at hr ht'
    have hrung : Scene.Rings d { d with
        journal
        scheduler
        avatar := { d.avatar with joints }
        brain := { d.brain with state := { d.brain.state with wave, episode } } } := by
      refine ⟨[u], rest, journal, joints, wave, episode, htimers, fun v hv => ?_, hkept, ?_⟩
      · rw [List.mem_singleton.1 hv, ← ht.scheduler]
        exact hle
      · rw [hrest, ht.scheduler]
    refine ⟨t', ?_, ht'.scheduler, _, ht', hrings.trans hrung⟩
    rw [hp]
    exact hr
  obtain ⟨t, hr, d, ht, hrings⟩ := Stage.run_timerPhase_of_fires hfire hadvance
    ⟨c.ticked delta, h.withScheduler _, .refl _⟩
  have hdue := Stage.takeDue_of_run_timerPhase hr
  rw [ht.scheduler] at hdue
  exact ⟨t, d, hr, ht, hrings, hdue⟩

/-- When the timers of a frame have got through, all is up to the brain. -/
theorem run_calls {delta : α} {u : BotStage α Empty}
    (hr : (Stage.timerPhase (handlers .absent) 0 delta).run s = (.ok (), u)) (hu : Shows u d) (hd : d.Lone) :
    ∃ t, (step .absent delta).run s = (((Brain.frame (.waveEnd 0) delta).run d).1, t) ∧
      Shows t ((Brain.frame (.waveEnd 0) delta).run d).2 := by
  have hcallbacks : u.scheduler.callbacks = [.brain 0] := by
    rw [hu.scheduler]
    exact hd.callbacks
  obtain ⟨t, ht, hshows⟩ := hu.run_onBrain (Brain.frame (.waveEnd 0) delta)
  generalize (Brain.frame (.waveEnd 0) delta).run d = result at ht hshows ⊢
  refine ⟨t, ?_, hshows⟩
  have hcall : (handlers .absent : Handlers α _ _ _).onFrame (.brain 0) delta =
      (onBrain 0 (Brain.frame (.waveEnd 0) delta) : Act (Fault α) (BotStage α Empty) Unit) := rfl
  rw [step, Stage.step_eq, hr]
  dsimp only
  rw [hcallbacks, Stage.callAll, Stage.callAll, hcall, run_bind, ht]
  rcases result with ⟨fault | ⟨⟩, after⟩ <;> rfl

/-- **A frame of the stage**: the clock moves on, the ends that are due fire, and then all is up to the brain. -/
theorem run_step (h : Shows s c) (hc : c.Lone) {delta : α} (hd : ¬ delta < 0.0) :
    ∃ d, Scene.Rings (c.ticked delta) d ∧ d.scheduler.takeDue = none ∧
      ∃ t, (step .absent delta).run s = (((Brain.frame (.waveEnd 0) delta).run d).1, t) ∧
        Shows t ((Brain.frame (.waveEnd 0) delta).run d).2 := by
  obtain ⟨u, d, hr, hu, hrings, hdue⟩ := h.run_timerPhase hc hd
  exact ⟨d, hrings, hdue, run_calls hr hu ((hc.ticked delta).rings hrings)⟩

end Shows

/-- **A first start** that answers lets the bot enter a fresh host. -/
theorem entered_of_start {config : BotConfig α} {source : Source α} {first : BotStage α Empty} {answer : Bool}
    (h : (start config).run (waiting source) = (.ok answer, first)) :
    ∃ source' appearance journal, source.Leads source' ∧
      first = entered config appearance journal { waiting source with cast := ⟨source', [], none⟩ } := by
  have hidle : isRunning (waiting source : BotStage α Empty) = false := rfl
  obtain ⟨source', hleads, ⟨fault, hr⟩ | ⟨appearance, journal, hr⟩⟩ := run_start config hidle
  · rw [hr] at h
    cases h
  · rw [hr] at h
    cases h
    exact ⟨source', appearance, journal, hleads, rfl⟩

/-- **A first start** of a bot on a fresh host that answers leaves its fresh brain alone on the stage, before any
timer, with the scheduler's clock at zero. -/
theorem shows_of_start {config : BotConfig α} {source : Source α} {first : BotStage α Empty} {answer : Bool}
    (h : (start config).run (waiting source) = (.ok answer, first)) :
    ∃ c, Shows first c ∧ c.Lone ∧ c.scheduler.now = 0.0 ∧ c.scheduler.timers = [] ∧ source.Leads c.source ∧
      ∃ spawn avatar, c.brain = .opening config.settings config.spawn
        ((Catalog.soundUrls config.assets.root).map loadClip) spawn avatar := by
  obtain ⟨source', appearance, journal, hleads, rfl⟩ := entered_of_start h
  let brain : Brain α := .opening config.settings config.spawn ((Catalog.soundUrls config.assets.root).map loadClip)
    (config.spawn.randomPoint source').1 (placed config appearance source' .fresh)
  have hlone : (scene (entered config appearance journal { waiting source with
      cast := ⟨source', [], none⟩ }) brain).Lone := ⟨rfl, rfl, fun t ht => by cases ht⟩
  exact ⟨_, ⟨rfl, rfl⟩, hlone, rfl, rfl, hleads.trans (.fraction (.fraction (.refl _))), _, _, rfl⟩

end Bot
end Bystander
