import Bystander.Proofs.Outings
/-! # The bot stays in its box

With exact numbers a bot never leaves the box it was placed in.  A spawn point is drawn between the ends, a target is
moved between them, and a step covers a fraction of the way from one point of the box to another; nothing else moves
the bot.
-/
namespace Bystander

open Act (Obeys run_bind run_get_bind)

variable {γ κ τ : Type}

/-! ## Points of a box -/

namespace Bounds

structure Proper (b : Bounds ℝ) : Prop where
  x : b.xMin < b.xMax
  z : b.zMin < b.zMax

/-- **A point of the closed box**, at pelvis height. -/
structure Holds (b : Bounds ℝ) (p : Vec3 ℝ) : Prop where
  x : b.xMin ≤ p.x ∧ p.x ≤ b.xMax
  y : p.y = b.yPelvis
  z : b.zMin ≤ p.z ∧ p.z ≤ b.zMax

theorem clampTo_real (low high x : ℝ) : clampTo low high x = max low (min high x) := by
  rw [clampTo, Scalar.least_real, Scalar.greatest_real]

theorem clampTo_mem {low high : ℝ} (h : low ≤ high) (x : ℝ) : low ≤ clampTo low high x ∧ clampTo low high x ≤ high := by
  rw [clampTo_real]
  exact ⟨le_max_left _ _, max_le h (min_le_left _ _)⟩

theorem holds_clamp {b : Bounds ℝ} (h : b.Proper) (p : Vec3 ℝ) : b.Holds (b.clamp p) where
  x := clampTo_mem h.x.le p.x
  y := rfl
  z := clampTo_mem h.z.le p.z

theorem uniform_mem {low high : ℝ} (h : low ≤ high) {s : Source ℝ} (hs : s.Fair) :
    low ≤ (s.uniform low high).1 ∧ (s.uniform low high).1 ≤ high := by
  obtain ⟨hzero, hone⟩ := hs.fraction (.refl s)
  exact Scalar.between_mem ⟨le_rfl, h⟩ ⟨h, le_rfl⟩ ⟨hzero, hone.le⟩

theorem holds_randomPoint {b : Bounds ℝ} (h : b.Proper) {s : Source ℝ} (hs : s.Fair) : b.Holds (b.randomPoint s).1 where
  x := uniform_mem h.x.le hs
  y := rfl
  z := uniform_mem h.z.le (hs.leads (.fraction (.refl s)))

theorem holds_step {b : Bounds ℝ} {p target : Vec3 ℝ} (hp : b.Holds p) (ht : b.Holds target) {rate : ℝ}
    (hr : 0 ≤ rate ∧ rate ≤ 1) : b.Holds (p + (target - p) * rate) where
  x := Scalar.between_mem hp.x ht.x hr
  y := by
    change p.y + (target.y - p.y) * rate = b.yPelvis
    rw [hp.y, ht.y]
    ring
  z := Scalar.between_mem hp.z ht.z hr

end Bounds

/-! ## Frames keep the bot in its box -/

/-- **A brain that stays in a box**: it knows the box, and all its points lie there. -/
structure Brain.Stays (b : Bounds ℝ) (brain : Brain ℝ) : Prop where
  bounds : brain.bounds = b
  rate : 0 ≤ brain.settings.walk.moveRate ∧ brain.settings.walk.moveRate ≤ 1
  spawn : b.Holds brain.state.spawn
  position : b.Holds brain.state.position
  target : brain.state.walk = .walking → b.Holds brain.state.targetPosition

structure Scene.Stays (b : Bounds ℝ) (s : Scene ℝ κ τ) : Prop where
  brain : s.brain.Stays b
  body : b.Holds s.avatar.position

namespace Scene.Stays

variable {b : Bounds ℝ} {s t : Scene ℝ κ τ}

theorem begin (delta : ℝ) (h : s.Stays b) : (Brain.begin delta s).Stays b := by
  have hbody : b.Holds (Brain.begin delta s).avatar.position := by
    unfold Brain.begin
    dsimp only
    split
    · exact h.brain.spawn
    · exact h.body
  exact ⟨⟨h.brain.bounds, h.brain.rate, h.brain.spawn, hbody, h.brain.target⟩, hbody⟩

theorem view (ht : View.Touches s t) (h : s.Stays b) : t.Stays b := by
  obtain ⟨_, _, _, -, rfl⟩ := ht
  exact ⟨⟨h.brain.bounds, h.brain.rate, h.brain.spawn, h.brain.position, h.brain.target⟩, h.body⟩

theorem wave (ht : Wave.Touches s t) (h : s.Stays b) : t.Stays b := by
  obtain ⟨_, _, _, _, _, _, _, -, rfl⟩ := ht
  exact ⟨⟨h.brain.bounds, h.brain.rate, h.brain.spawn, h.brain.position, h.brain.target⟩, h.body⟩

theorem chatter (ht : Chatter.Touches s t) (h : s.Stays b) : t.Stays b := by
  obtain ⟨_, _, _, _, -, rfl⟩ := ht
  exact ⟨⟨h.brain.bounds, h.brain.rate, h.brain.spawn, h.brain.position, h.brain.target⟩, h.body⟩

theorem head (ht : Head.Touches s t) (h : s.Stays b) : t.Stays b := by
  obtain ⟨_, _, _, _, _, -, rfl⟩ := ht
  exact ⟨⟨h.brain.bounds, h.brain.rate, h.brain.spawn, h.brain.position, h.brain.target⟩, h.body⟩

theorem pickTarget (hb : b.Proper) (h : s.Stays b) : (Walk.pickTarget.run s).2.Stays b := by
  obtain ⟨fault, hr⟩ | ⟨turn, -, hr⟩ := Walk.pickTarget_cases s
  · rw [hr]
    exact ⟨h.brain, h.body⟩
  · rw [hr]
    refine ⟨⟨h.brain.bounds, h.brain.rate, h.brain.spawn, h.brain.position, fun _ => ?_⟩, h.body⟩
    unfold Walk.chosen
    rw [h.brain.bounds]
    exact Bounds.holds_clamp hb _

theorem stride (hwalk : s.brain.state.walk = .walking) (h : s.Stays b) : (Walk.stride.run s).2.Stays b := by
  -- swinging the legs leaves the position alone, so each step starts from a point of the box
  have hnext : ∀ sine, b.Holds (Walk.nextPosition (Walk.swung sine s)) :=
    fun sine => Bounds.holds_step h.brain.position (h.brain.target hwalk) h.brain.rate
  obtain ⟨fault, hr⟩ | ⟨sine, ⟨fault, hr⟩ | ⟨orientation, -, hr | hr⟩⟩ := Walk.stride_cases s
  · rw [hr]
    exact h
  · rw [hr]
    exact ⟨h.brain, h.body⟩
  · rw [hr]
    exact ⟨⟨h.brain.bounds, h.brain.rate, h.brain.spawn, hnext sine, h.brain.target⟩, hnext sine⟩
  · rw [hr]
    exact ⟨⟨h.brain.bounds, h.brain.rate, h.brain.spawn, hnext sine, fun hidle => by cases hidle⟩, hnext sine⟩

end Scene.Stays

theorem Walk.stays_frame {b : Bounds ℝ} (hb : b.Proper) :
    Obeys (keeping (Scene.Stays b)) (Walk.frame : Play ℝ κ τ Unit) := by
  intro s h
  rw [Walk.frame, run_get_bind]
  split
  · next hwalk => exact h.stride hwalk
  · rw [run_bind, Scene.run_draw]
    dsimp only
    rw [run_get_bind]
    have hdrawn : Scene.Stays b { s with source := s.source.draw.2 } := ⟨h.brain, h.body⟩
    split
    · exact hdrawn.pickTarget hb
    · exact hdrawn

/-- **Every frame keeps the bot in its box.** -/
theorem Brain.stays_frame {b : Bounds ℝ} (hb : b.Proper) (ending : Nat → τ) (delta : ℝ) :
    Obeys (keeping (Scene.Stays b)) (Brain.frame ending delta : Play ℝ κ τ Unit) :=
  Brain.obeys_frame ending delta (fun _ _ h => h.begin delta) (fun _ _ ht h => h.view ht)
    ((Wave.obeys_frame ending).imp fun _ _ ht h => h.wave ht) (fun _ _ ht h => h.chatter ht) (fun _ _ ht h => h.head ht)
    (Walk.stays_frame hb)

theorem Brain.stays_close {b : Bounds ℝ} : Obeys (keeping (Scene.Stays b)) (Brain.close : Play ℝ κ τ Unit) :=
  Brain.obeys_close fun _ _ _ h =>
    ⟨⟨h.brain.bounds, h.brain.rate, h.brain.spawn, h.brain.position, h.brain.target⟩, h.body⟩

theorem Brain.draws_close {α : Type} [Scalar α] : Obeys Scene.Draws (Brain.close : Play α κ τ Unit) :=
  Brain.obeys_close fun _ _ _ => .refl _

/-! ## Starts, stops and frames keep the bot in its box -/

namespace Bot

/-- All brains stay in the configured box, and so does the body once there is a brain; the chances are fair. -/
structure Inside (config : BotConfig ℝ) (s : BotStage ℝ γ) : Prop where
  brains : ∀ brain ∈ s.cast.brains, brain.Stays config.spawn
  body : s.cast.brains ≠ [] → config.spawn.Holds s.avatar.position
  fair : s.cast.source.Fair

variable {config : BotConfig ℝ}

theorem Inside.elsewhere {s t : BotStage ℝ γ} (h : Inside config s) (hbrains : t.cast.brains = s.cast.brains)
    (hbody : t.avatar.position = s.avatar.position) (hfair : t.cast.source.Fair) : Inside config t where
  brains brain hb := h.brains brain (hbrains ▸ hb)
  body hb := by
    rw [hbody]
    exact h.body (hbrains ▸ hb)
  fair := hfair

theorem inside_onBrain {β : Type} {play : Play ℝ (Callback γ) (Alarm γ) β} (serial : Nat)
    (hstays : Obeys (keeping (Scene.Stays config.spawn)) play) (hdraws : Obeys Scene.Draws play) :
    Obeys (keeping (Inside config)) (onBrain serial play) := by
  refine obeys_onBrain fun s brain hb hs => ?_
  have hmem : brain ∈ s.cast.brains := List.mem_of_getElem? hb
  have hafter : Scene.Stays config.spawn (play.run (scene s brain)).2 :=
    hstays (scene s brain) ⟨hs.brains brain hmem, hs.body (List.ne_nil_of_mem hmem)⟩
  refine ⟨fun other hother => ?_, fun _ => hafter.body, hs.fair.leads (hdraws (scene s brain))⟩
  obtain hold | rfl := List.mem_or_eq_of_mem_set hother
  · exact hs.brains other hold
  · exact hafter.brain

theorem inside_step (hspawn : config.spawn.Proper) {guests : Guests ℝ γ} {delta : ℝ}
    (htimers : ∀ g, Obeys (keeping (Inside config)) (guests.onTimer g))
    (hframes : ∀ g, Obeys (keeping (Inside config)) (guests.onFrame g delta)) :
    Obeys (keeping (Inside config)) (step guests delta) := by
  refine obeys_step (fun _ _ _ hs => hs.elsewhere rfl rfl hs.fair) ?_
    (fun _ _ _ _ _ _ hs => hs.elsewhere rfl rfl hs.fair) htimers ?_ hframes
  · intro s t scheduler serial number _ _ hs
    refine inside_onBrain serial ((Wave.obeys_stop _).imp fun _ _ ht h => h.wave ht)
      ((Wave.obeys_stop _).imp fun _ _ ht => ?_) { s with scheduler } (hs.elsewhere rfl rfl hs.fair)
    obtain ⟨_, _, _, _, _, _, _, hleads, rfl⟩ := ht
    exact hleads
  · intro serial
    exact inside_onBrain serial (Brain.stays_frame hspawn _ delta) (Brain.draws_frame _ delta)

/-- **A start places the bot in its box**, with a fresh brain that knows the same point. -/
theorem inside_start [DecidableEq γ] (hspawn : config.spawn.Proper)
    (hrate : 0 ≤ config.settings.walk.moveRate ∧ config.settings.walk.moveRate ≤ 1) :
    Obeys (keeping (Inside config)) (start config : Act (Fault ℝ) (BotStage ℝ γ) Bool) := by
  refine obeys_start (fun _ _ hs => hs.elsewhere rfl rfl hs.fair)
    (fun _ _ hleads hs => hs.elsewhere rfl rfl (hs.fair.leads hleads)) ?_
  intro s appearance journal hs
  have hpoint : config.spawn.Holds (config.spawn.randomPoint s.cast.source).1 :=
    Bounds.holds_randomPoint hspawn hs.fair
  refine ⟨fun brain hb => ?_, fun _ => hpoint, hs.fair.leads (.fraction (.fraction (.refl _)))⟩
  obtain hold | hnew := List.mem_append.1 hb
  · exact hs.brains brain hold
  · obtain rfl := List.mem_singleton.1 hnew
    exact ⟨rfl, hrate, hpoint, hpoint, fun hidle => by cases hidle⟩

theorem inside_stop [DecidableEq γ] :
    Obeys (keeping (Inside config)) (stop : Act (Fault ℝ) (BotStage ℝ γ) Unit) :=
  obeys_stop (fun _ _ hs => hs.elsewhere rfl rfl hs.fair)
    (fun serial => inside_onBrain serial Brain.stays_close Brain.draws_close)
    (fun _ _ hs => hs.elsewhere rfl rfl hs.fair)

/-- **What a bot lives through**: starts and stops, frames with whatever guests, and all that moves neither brains nor
the body and leaves the chances fair.  Guests may do any of this. -/
inductive Lives [DecidableEq γ] (config : BotConfig ℝ) : BotStage ℝ γ → BotStage ℝ γ → Prop
  | refl (s : BotStage ℝ γ) : Lives config s s
  | trans {s t u : BotStage ℝ γ} : Lives config s t → Lives config t u → Lives config s u
  | elsewhere {s t : BotStage ℝ γ} :
    t.cast.brains = s.cast.brains → t.avatar.position = s.avatar.position →
    (s.cast.source.Fair → t.cast.source.Fair) → Lives config s t
  | start (s : BotStage ℝ γ) : Lives config s ((start config).run s).2
  | frame (guests : Guests ℝ γ) (delta : ℝ) :
    (∀ g s, Lives config s ((guests.onTimer g).run s).2) →
    (∀ g s, Lives config s ((guests.onFrame g delta).run s).2) →
    ∀ s, Lives config s ((step guests delta).run s).2
  | stop (s : BotStage ℝ γ) : Lives config s (stop.run s).2

variable [DecidableEq γ] {s t : BotStage ℝ γ}

theorem Lives.inside (hspawn : config.spawn.Proper)
    (hrate : 0 ≤ config.settings.walk.moveRate ∧ config.settings.walk.moveRate ≤ 1) (h : Lives config s t) :
    Inside config s → Inside config t := by
  induction h with
  | refl => exact id
  | trans _ _ ih ih' => exact fun hs => ih' (ih hs)
  | elsewhere hbrains hbody hfair => exact fun hs => hs.elsewhere hbrains hbody (hfair hs.fair)
  | start s => exact inside_start hspawn hrate s
  | frame guests delta _ _ s htimers hframes => exact inside_step hspawn htimers hframes s
  | stop s => exact inside_stop s

theorem Lives.grows (h : Lives config s t) : Grows s t := by
  induction h with
  | refl s => exact Steady.refl s
  | trans _ _ ih ih' => exact Steady.trans ih ih'
  | elsewhere hbrains _ _ => exact .of_eq hbrains
  | start s => exact grows_start config s
  | frame guests delta _ _ s htimers hframes => exact grows_step htimers hframes s
  | stop s => exact grows_stop s

/-- **The bot stays in its box** from the first start on: its body, every point it was spawned at, every point that a
brain of it believes to be at, and the target of every walk. -/
theorem stays_in_box {first : BotStage ℝ γ} {answer : Bool} (hspawn : config.spawn.Proper)
    (hrate : 0 ≤ config.settings.walk.moveRate ∧ config.settings.walk.moveRate ≤ 1) (hbrains : s.cast.brains = [])
    (hfair : s.cast.source.Fair) (hfirst : (start config).run s = (.ok answer, first)) (h : Lives config first t) :
    config.spawn.Holds t.avatar.position ∧ (brain? t).isSome ∧ ∀ brain ∈ t.cast.brains,
      config.spawn.Holds brain.state.position ∧ config.spawn.Holds brain.state.spawn ∧
        (brain.state.walk = .walking → config.spawn.Holds brain.state.targetPosition) := by
  have hs : Inside config s := by
    refine ⟨fun brain hb => ?_, fun hne => absurd hbrains hne, hfair⟩
    rw [hbrains] at hb
    cases hb
  have hinside : Inside config first := by
    have hstart := inside_start hspawn hrate s hs
    rw [hfirst] at hstart
    exact hstart
  have ht : Inside config t := h.inside hspawn hrate hinside
  have hne : t.cast.brains ≠ [] := by
    have hpos : 0 < first.cast.brains.length := List.length_pos_iff.2 (brains_of_start hfirst)
    exact List.length_pos_iff.1 (lt_of_lt_of_le hpos h.grows)
  refine ⟨ht.body hne, ?_, fun brain hb => ?_⟩
  · rw [brain?, List.getLast?_isSome]
    exact hne
  · have hbrain : brain.Stays config.spawn := ht.brains brain hb
    exact ⟨hbrain.position, hbrain.spawn, hbrain.target⟩

theorem Lives.frame_absent {config : BotConfig ℝ} (delta : ℝ) (s : BotStage ℝ Empty) :
    Lives config s ((step .absent delta).run s).2 :=
  .frame .absent delta nofun nofun s

/-- **Two sessions of a bot that walks whenever it can**, of two frames each. -/
theorem stays_in_box_restart :
    let first := ((start walker).run (waiting (.seeded 0) : BotStage ℝ Empty)).2
    let walking := ((step .absent 0.1).run first).2
    let again := ((start walker).run (stop.run ((step .absent 0.1).run walking).2).2).2
    let t := ((step .absent 0.1).run ((step .absent 0.1).run again).2).2
    (∃ brain, walking.cast.brains = [brain] ∧ brain.state.walk = .walking ∧
      walker.spawn.Holds brain.state.targetPosition) ∧ walker.spawn.Holds t.avatar.position := by
  intro first walking again t
  have hproper : walker.spawn.Proper := by
    constructor
    · change (20.0 : ℝ) < 25.0
      norm_num
    · change (20.0 : ℝ) < 25.0
      norm_num
  have hrate : 0 ≤ walker.settings.walk.moveRate ∧ walker.settings.walk.moveRate ≤ 1 := by
    change 0 ≤ (0.05 : ℝ) ∧ (0.05 : ℝ) ≤ 1
    norm_num
  have hfirst : (start walker).run (waiting (.seeded 0) : BotStage ℝ Empty) = (.ok false, first) := rfl
  have hall {t : BotStage ℝ Empty} (h : Lives walker first t) :=
    stays_in_box hproper hrate rfl (Source.fair_seeded 0) hfirst h
  have hwalking : Lives walker first walking := .frame_absent 0.1 first
  have hlives : Lives walker first t :=
    .trans hwalking (.trans (.frame_absent 0.1 _) (.trans (.stop _) (.trans (.start _)
      (.trans (.frame_absent 0.1 _) (.frame_absent 0.1 _)))))
  obtain ⟨brain, hrow, hphase, -⟩ :=
    walker_walks (Source.fair_seeded 0) hfirst (show ¬ (0.1 : ℝ) < 0.0 by norm_num)
  have hmember : brain ∈ walking.cast.brains := by
    change brain ∈ ((step .absent 0.1).run first).2.cast.brains
    rw [hrow]
    exact List.mem_singleton_self brain
  exact ⟨⟨brain, hrow, hphase, ((hall hwalking).2.2 brain hmember).2.2 hphase⟩, (hall hlives).1⟩

end Bot
end Bystander
