import Bystander.Proofs.Cues
import Bystander.Proofs.Outcomes
import Bystander.Proofs.TwoRuns
/-! # Cosmetics do not decide anything

How often the view is refreshed and how arm and legs swing is for show: no draw, no change of phase and no timer depends
on it.  A scene is made `plain` by hiding these settings and what they reach, which are the view, the journal, how far
joints are turned, and the frequency and the amplitude of a wave.  All behaviours do the same in scenes that are the
same when made plain, but for frames that fail where the sine of the arm or of the legs does.
-/
namespace Bystander

open Act (Sees Alike sees_of_shown alike_of_shown alike_of_obeys run_get_bind)

variable {α κ τ γ : Type} [Scalar α]

/-! ## Cosmetics -/

/-- **The settings that are for show**: how often the view is refreshed, and how arm and legs swing. -/
structure Cosmetics (α : Type) where
  view : ViewSettings α
  frequencyRange : α × α
  amplitudeRange : α × α
  shoulderBias : α
  shoulderPhase : α
  elbowBias : α
  elbowFrequencyScale : α
  spineBias : α
  palmOutYaw : α
  swingFrequency : α
  swingAmplitude : α

/-- The settings with other cosmetics. -/
def Settings.wearing (settings : Settings α) (c : Cosmetics α) : Settings α :=
  { settings with
    view := c.view
    wave := { settings.wave with
      frequencyRange := c.frequencyRange
      amplitudeRange := c.amplitudeRange
      shoulderBias := c.shoulderBias
      shoulderPhase := c.shoulderPhase
      elbowBias := c.elbowBias
      elbowFrequencyScale := c.elbowFrequencyScale
      spineBias := c.spineBias
      palmOutYaw := c.palmOutYaw }
    walk := { settings.walk with
      swingFrequency := c.swingFrequency
      swingAmplitude := c.swingAmplitude } }

def Cosmetics.plain : Cosmetics α := ⟨⟨false, 0.0⟩, (0.0, 0.0), (0.0, 0.0), 0.0, 0.0, 0.0, 0.0, 0.0, 0.0, 0.0, 0.0⟩

/-! ## What decisions are made of -/

/-- A wave without its frequency and its amplitude. -/
def Episode.plain (e : Episode α) : Episode α := ⟨e.number, 0.0, 0.0⟩

/-- The state without the moment of the last refresh, and without the frequency and the amplitude of its wave. -/
def BotState.plain (b : BotState α) : BotState α :=
  { b with lastRefresh := 0.0, episode := b.episode.map Episode.plain }

def Brain.plain (b : Brain α) : Brain α :=
  { b with settings := b.settings.wearing .plain, state := b.state.plain, queries := 0 }

/-- The joints that are overridden, without their rotations. -/
def JointTable.plain (t : JointTable α) : JointTable α := t.map fun e => (e.1, .identity)

def Avatar.plain (a : Avatar α) : Avatar α := { a with joints := JointTable.plain a.joints }

def Host.plain (h : Host α κ τ) : Host α κ τ := { h with avatar := h.avatar.plain, viewer := .fresh, journal := .empty }

def Scene.plain (s : Scene α κ τ) : Scene α κ τ := { s.toHost.plain with source := s.source, brain := s.brain.plain }

theorem JointTable.map_fst_plain (t : JointTable α) : (plain t).map Prod.fst = t.map Prod.fst := by
  unfold plain
  rw [List.map_map]
  rfl

theorem JointTable.plain_set (j : Int) (q : Quat α) (t : JointTable α) :
    plain (set j q t) = set j .identity (plain t) := by
  induction t with
  | nil => rfl
  | cons e rest ih =>
    have hcons : plain (e :: rest) = (e.1, .identity) :: plain rest := rfl
    rw [hcons]
    unfold set
    split
    · rfl
    · split
      · rfl
      · exact congrArg ((e.1, Quat.identity) :: ·) ih

theorem JointTable.plain_clear (j : Int) (t : JointTable α) : plain (clear j t) = clear j (plain t) := by
  unfold plain clear
  rw [List.filter_map]
  rfl

theorem Avatar.plain_setJoints (q : Quat α) : ∀ (js : List Joint) (a : Avatar α),
    (a.setJoints js q).plain = a.plain.setJoints js .identity
  | [], _ => rfl
  | j :: js, a => by
    have hfirst : (a.setJoints [j] q).plain = a.plain.setJoints [j] .identity :=
      congrArg (fun joints => { a with joints }) (JointTable.plain_set j.index q a.joints)
    exact (plain_setJoints q js (a.setJoints [j] q)).trans (congrArg (setJoints js .identity) hfirst)

theorem Avatar.plain_clearJoints : ∀ (js : List Joint) (a : Avatar α),
    (a.clearJoints js).plain = a.plain.clearJoints js
  | [], _ => rfl
  | j :: js, a => by
    have hfirst : (a.clearJoints [j]).plain = a.plain.clearJoints [j] :=
      congrArg (fun joints => { a with joints }) (JointTable.plain_clear j.index a.joints)
    exact (plain_clearJoints js (a.clearJoints [j])).trans (congrArg (clearJoints js) hfirst)

/-! ## The behaviours -/

omit [Scalar α] in
@[simp] theorem Settings.wearing_wearing (settings : Settings α) (c d : Cosmetics α) :
    (settings.wearing c).wearing d = settings.wearing d := rfl

@[simp] theorem JointTable.plain_plain (t : JointTable α) : plain (plain t) = plain t := by
  unfold plain
  rw [List.map_map]
  rfl

@[simp] theorem Avatar.plain_plain (a : Avatar α) : a.plain.plain = a.plain := by
  unfold plain
  rw [JointTable.plain_plain]

@[simp] theorem Episode.plain_comp_plain : (plain ∘ plain : Episode α → Episode α) = plain := rfl

@[simp] theorem BotState.plain_plain (b : BotState α) : b.plain.plain = b.plain := by
  simp [plain]

namespace Scene

/-- **What a scene comes to** is for the plain scene to tell. -/
def Tells (g : Scene α κ τ → Scene α κ τ) : Prop := ∀ s, (g s.plain).plain = (g s).plain

theorem plain_drawn (s : Scene α κ τ) : s.plain.drawn = s.drawn.plain := rfl

@[simp] theorem plain_plain (s : Scene α κ τ) : s.plain.plain = s.plain := by
  simp [plain, Host.plain, Brain.plain]

end Scene

theorem View.alike_frame : Alike Scene.plain (View.frame : Play α κ τ Bool) := by
  refine alike_of_obeys (View.obeys_frame.imp ?_)
  rintro s t ⟨viewer, lastRefresh, queries, -, rfl⟩
  rfl

theorem Brain.tells_begin (delta : α) : Scene.Tells (begin delta : Scene α κ τ → Scene α κ τ) := by
  intro s
  have hchance : s.plain.brain.settings.walk.chance = s.brain.settings.walk.chance := rfl
  unfold begin
  rw [hchance]
  split <;> simp [Scene.plain, Host.plain, plain, Avatar.plain, BotState.plain]

theorem Chatter.tells_heard (index : Nat) (clip : Clip α) :
    Scene.Tells (heard index clip : Scene α κ τ → Scene α κ τ) := by
  intro s
  simp [heard, Scene.plain, Host.plain, Brain.plain]

theorem Head.tells_aimed : Scene.Tells (aimed : Scene α κ τ → Scene α κ τ) := by
  intro s
  simp [aimed, Scene.plain, Host.plain, Brain.plain, BotState.plain, Settings.wearing]

theorem Head.tells_ease : Scene.Tells (ease : Scene α κ τ → Scene α κ τ) := by
  intro s
  simp [ease, Scene.plain, Host.plain, Brain.plain, BotState.plain, Settings.wearing, Avatar.plain]
  rfl

theorem Wave.tells_begun : Scene.Tells (begun : Scene α κ τ → Scene α κ τ) := by
  intro s
  simp [begun, Scene.plain, Host.plain, Brain.plain, BotState.plain, Settings.wearing, Avatar.plain]
  rfl

theorem Wave.tells_started (scheduler : Scheduler α κ τ) : Scene.Tells fun s : Scene α κ τ => started s scheduler := by
  intro s
  simp [started, begun, Scene.plain, Host.plain, Brain.plain, BotState.plain, Avatar.plain_setJoints]
  rfl

theorem Wave.tells_ended : Scene.Tells (ended : Scene α κ τ → Scene α κ τ) := by
  intro s
  simp [ended, Scene.plain, Host.plain, Brain.plain, BotState.plain, Avatar.plain_clearJoints]

theorem Walk.tells_chosen (turn : Quat α) : Scene.Tells (chosen turn : Scene α κ τ → Scene α κ τ) := by
  intro s
  simp [chosen, Scene.plain, Host.plain, Brain.plain, BotState.plain]
  rfl

/-! ## What does not see cosmetics -/

theorem Brain.sees_begin (delta : α) : Sees Scene.plain (modify (begin delta) : Play α κ τ Unit) :=
  sees_of_shown fun s => ⟨rfl, tells_begin delta s⟩

theorem Chatter.sees_play : Sees Scene.plain (Chatter.play : Play α κ τ (Option Nat)) := by
  refine sees_of_shown fun s => ?_
  have haudio : s.plain.audio = s.audio := rfl
  have hnow : s.plain.scheduler.now = s.scheduler.now := rfl
  have hclips : s.plain.brain.clips = s.brain.clips := rfl
  have hsource : s.plain.source = s.source := rfl
  rw [run_play, run_play, haudio, hnow, hclips, hsource, Scene.plain_drawn]
  split
  · exact ⟨rfl, Scene.plain_plain s⟩
  · cases place s.source.draw.1 s.brain.clips.length with
    | error fault => exact ⟨rfl, Scene.plain_plain s.drawn⟩
    | ok index =>
      dsimp only
      cases s.brain.clips[index]? with
      | none => exact ⟨rfl, Scene.plain_plain s.drawn⟩
      | some clip => exact ⟨rfl, tells_heard index clip s.drawn⟩

theorem Chatter.sees_frame : Sees Scene.plain (Chatter.frame : Play α κ τ (Option Nat)) := by
  intro s t hst
  have hdrawn : s.drawn.plain = t.drawn.plain := congrArg Scene.drawn hst
  have hfraction : s.source.draw.1 = t.source.draw.1 := congrArg (·.source.draw.1) hst
  have hchance : s.brain.settings.sound = t.brain.settings.sound := congrArg (·.brain.settings.sound) hst
  rw [run_frame, run_frame, hfraction, hchance]
  split
  · exact Chatter.sees_play _ _ hdrawn
  · exact ⟨rfl, hdrawn⟩

theorem Head.sees_frame : Sees Scene.plain (Head.frame : Play α κ τ Unit) := by
  refine sees_of_shown fun s => ?_
  have hphase : s.plain.brain.state.head = s.brain.state.head := rfl
  have hsource : s.plain.source = s.source := rfl
  have hchance : s.plain.brain.settings.head = s.brain.settings.head := rfl
  rw [run_frame, run_frame, hphase, hsource, hchance, Scene.plain_drawn]
  cases s.brain.state.head with
  | turning => exact ⟨rfl, tells_ease s⟩
  | idle =>
    dsimp only
    split
    · exact ⟨rfl, tells_aimed s.drawn⟩
    · exact ⟨rfl, tells_ease s.drawn⟩

/-- A start of a wave, less the wave that it answers. -/
theorem Wave.sees_start (ending : Nat → τ) : Sees Scene.plain (discard (start ending) : Play α κ τ Unit) := by
  refine sees_of_shown fun s => ?_
  have htimeout : s.plain.scheduler.setTimeout (ending (s.plain.brain.arm.count + 1))
      (s.plain.brain.arm.nextDuration s.plain.source) =
        s.scheduler.setTimeout (ending (s.brain.arm.count + 1)) (s.brain.arm.nextDuration s.source) := rfl
  rw [Act.run_discard, Act.run_discard, run_start, run_start, htimeout]
  cases s.scheduler.setTimeout (ending (s.brain.arm.count + 1)) (s.brain.arm.nextDuration s.source) with
  | ok scheduler => exact ⟨rfl, tells_started scheduler s⟩
  | error fault => exact ⟨rfl, tells_begun s⟩

theorem Wave.sees_stop (number : Option Int) : Sees Scene.plain (stop number : Play α κ τ Unit) := by
  refine sees_of_shown fun s => ?_
  cases hclosed : s.brain.closed with
  | true =>
    rw [run_stop_closed number hclosed, run_stop_closed (s := s.plain) number hclosed]
    exact ⟨rfl, Scene.plain_plain s⟩
  | false =>
    have hconcerns : concerns number s.plain.brain.state.episode = concerns number s.brain.state.episode := by
      have hepisode : s.plain.brain.state.episode = s.brain.state.episode.map Episode.plain := rfl
      rw [hepisode]
      cases number <;> cases s.brain.state.episode <;> rfl
    cases hc : concerns number s.brain.state.episode with
    | true =>
      rw [run_stop_concerned hclosed hc, run_stop_concerned (s := s.plain) hclosed (hconcerns.trans hc)]
      exact ⟨rfl, tells_ended s⟩
    | false =>
      obtain ⟨n, -, hr⟩ := run_stop_stale hclosed hc
      obtain ⟨m, -, hr'⟩ := run_stop_stale (s := s.plain) hclosed (hconcerns.trans hc)
      rw [hr, hr']
      exact ⟨rfl, Scene.plain_plain s⟩

theorem Walk.sees_pickTarget : Sees Scene.plain (pickTarget : Play α κ τ Unit) := by
  refine sees_of_shown fun s => ?_
  have hyaw : nextYaw s.plain = nextYaw s := rfl
  rw [run_pickTarget, run_pickTarget, hyaw]
  cases Quat.angleAxis (nextYaw s) (.up : Vec3 α) with
  | ok turn => exact ⟨rfl, tells_chosen turn s⟩
  | error fault => exact ⟨rfl, Scene.plain_plain s.drawn⟩

theorem Walk.sees_release : Sees Scene.plain (release : Play α κ τ Unit) := by
  refine sees_of_shown fun s => ⟨rfl, ?_⟩
  change Scene.plain { s.plain with avatar := s.avatar.plain.clearJoints legs } =
    Scene.plain { s with avatar := s.avatar.clearJoints legs }
  simp [Scene.plain, Host.plain, Brain.plain, Avatar.plain_clearJoints]

theorem Brain.sees_close : Sees Scene.plain (close : Play α κ τ Unit) := by
  refine sees_of_shown fun s => ?_
  have hclosed : s.plain.brain.closed = s.brain.closed := rfl
  rw [close, run_get_bind, run_get_bind, hclosed]
  split
  · exact ⟨rfl, Scene.plain_plain s⟩
  · refine ⟨rfl, ?_⟩
    have hclose := Scene.plain_plain { s with brain := { s.brain with closed := true } }
    exact hclose

/-! ## What moves limbs -/

theorem Wave.plain_rolled (pairs : List (Joint × α)) (s : Scene α κ τ) :
    (rolled pairs s).plain = { s.plain with
      avatar := (pairs.map Prod.fst).foldl (fun a j => a.setJoints [j] .identity) s.avatar.plain } := by
  induction pairs generalizing s with
  | nil => rfl
  | cons p pairs ih =>
    have hcons : rolled (p :: pairs) s =
        rolled pairs { s with avatar := s.avatar.setJoints [p.1] (.ofPitchYawRoll 0.0 0.0 p.2) } := rfl
    rw [hcons, ih, Avatar.plain_setJoints]
    rfl

/-- What a chance decides is told by the plain scene. -/
theorem Scene.plain_attempt {act : Play α κ τ Unit} (h : Sees plain act) (chance : α) (s : Scene α κ τ) :
    (if s.source.draw.1 < chance then act.run s.drawn.plain else (.ok (), s.drawn.plain)).2.plain =
      (if s.source.draw.1 < chance then act.run s.drawn else (.ok (), s.drawn)).2.plain := by
  split
  · exact (h _ _ s.drawn.plain_plain).2
  · exact s.drawn.plain_plain

/-- What can be told of a frame of the arm. -/
def Wave.told (ending : Nat → τ) (p : Scene α κ τ) : Scene α κ τ :=
  match p.brain.state.wave, p.brain.state.episode with
  | .idle, _ => ((frame ending).run p).2.plain
  | .waving, none => p
  | .waving, some _ => { p with avatar := joints.foldl (fun a j => a.setJoints [j] .identity) p.avatar }

theorem Wave.alike_frame (ending : Nat → τ) : Alike Scene.plain (frame ending : Play α κ τ Unit) := by
  refine alike_of_shown (g := told ending) fun s b t h => ?_
  have hphase : s.plain.brain.state.wave = s.brain.state.wave := rfl
  have hepisode : s.plain.brain.state.episode = s.brain.state.episode.map Episode.plain := rfl
  have hchance : s.plain.brain.settings.wave.chance = s.brain.settings.wave.chance := rfl
  unfold told
  rw [hphase, hepisode]
  rw [run_frame] at h
  cases hw : s.brain.state.wave with
  | idle =>
    have hattempt := Scene.plain_attempt (Wave.sees_start ending) s.brain.settings.wave.chance s
    rw [hw] at h
    dsimp only at h ⊢
    rw [h] at hattempt
    rw [run_frame, hphase, hw]
    exact hattempt.symm
  | waving =>
    rw [hw] at h
    cases he : s.brain.state.episode with
    | none =>
      rw [he] at h
      cases h
      rfl
    | some episode =>
      rw [he] at h
      dsimp only [Option.map] at h ⊢
      rw [run_roll] at h
      cases hp : rolls s.brain.settings.wave episode.frequency episode.amplitude s.brain.state.clock with
      | error fault => rw [hp] at h; cases h
      | ok pairs =>
        rw [hp] at h
        cases h
        rw [plain_rolled, map_fst_rolls hp]
        rfl

theorem Walk.plain_swung (sine : α) (s : Scene α κ τ) : (swung sine s).plain = (swung 0.0 s.plain).plain := by
  simp [swung, Scene.plain, Host.plain, Brain.plain, Avatar.plain_setJoints]

theorem Walk.tells_moved (orientation : Quat α) : Scene.Tells (moved orientation : Scene α κ τ → Scene α κ τ) := by
  intro s
  have hposition : nextPosition s.plain = nextPosition s := rfl
  unfold moved
  rw [hposition]
  simp [Scene.plain, Host.plain, Brain.plain, BotState.plain, Avatar.plain]

theorem Walk.tells_arrived : Scene.Tells (arrived : Scene α κ τ → Scene α κ τ) := by
  intro s
  simp [arrived, Scene.plain, Host.plain, Brain.plain, BotState.plain, Avatar.plain_clearJoints]

/-- What can be told of a step, but for its end. -/
def Walk.glided (orientation : Quat α) (p : Scene α κ τ) : Scene α κ τ := (moved orientation (swung 0.0 p)).plain

theorem Walk.plain_moved_swung (orientation : Quat α) (sine : α) (s : Scene α κ τ) :
    (moved orientation (swung sine s)).plain = glided orientation s.plain := by
  rw [← tells_moved orientation (swung sine s), plain_swung, tells_moved]
  rfl

/-- What can be told of a frame of the legs. -/
def Walk.told (p : Scene α κ τ) : Scene α κ τ :=
  match p.brain.state.walk with
  | .idle => (frame.run p).2.plain
  | .walking =>
    match p.brain.state.orientation.mix p.brain.state.targetOrientation p.brain.settings.walk.turnRate with
    | .error _ => p
    | .ok orientation =>
      if (nextPosition p - p.brain.state.targetPosition).length < p.brain.settings.walk.stopTolerance then
        (arrived (glided orientation p)).plain
      else glided orientation p

theorem Walk.alike_frame : Alike Scene.plain (frame : Play α κ τ Unit) := by
  refine alike_of_shown (g := told) fun s b t h => ?_
  have hphase : s.plain.brain.state.walk = s.brain.state.walk := rfl
  unfold told
  rw [hphase]
  rw [run_frame] at h
  cases hw : s.brain.state.walk with
  | idle =>
    have hattempt := Scene.plain_attempt Walk.sees_pickTarget s.brain.settings.walk.chance s
    rw [hw] at h
    dsimp only at h ⊢
    rw [h] at hattempt
    rw [run_frame, hphase, hw]
    exact hattempt.symm
  | walking =>
    have hmix : s.plain.brain.state.orientation.mix s.plain.brain.state.targetOrientation
        s.plain.brain.settings.walk.turnRate =
          s.brain.state.orientation.mix s.brain.state.targetOrientation s.brain.settings.walk.turnRate := rfl
    rw [hw] at h
    dsimp only at h ⊢
    rw [hmix]
    rw [run_stride] at h
    cases hsine : Scalar.sine (s.brain.state.clock * s.brain.settings.walk.swingFrequency) with
    | error fault => rw [hsine] at h; cases h
    | ok sine =>
      rw [hsine] at h
      dsimp only at h
      cases ho : s.brain.state.orientation.mix s.brain.state.targetOrientation s.brain.settings.walk.turnRate with
      | error fault => rw [ho] at h; cases h
      | ok orientation =>
        have hdistance : (nextPosition s.plain - s.plain.brain.state.targetPosition).length =
            (nextPosition s - s.brain.state.targetPosition).length := rfl
        have htolerance : s.plain.brain.settings.walk.stopTolerance = s.brain.settings.walk.stopTolerance := rfl
        rw [ho] at h
        dsimp only at h ⊢
        rw [hdistance, htolerance]
        split at h
        · next hnear =>
          cases h
          rw [if_pos hnear, ← plain_moved_swung orientation sine, tells_arrived]
        · next hfar =>
          cases h
          rw [if_neg hfar, ← plain_moved_swung orientation sine]

/-! ## A frame -/

theorem Brain.alike_frame (ending : Nat → τ) (delta : α) : Alike Scene.plain (frame ending delta : Play α κ τ Unit) := by
  have hbehave : Alike Scene.plain (behave ending : Play α κ τ Unit) :=
    (View.alike_frame.map _).seq ((Wave.alike_frame ending).seq ((Chatter.sees_frame.alike.map _).seq
      (Head.sees_frame.alike.seq Walk.alike_frame)))
  intro s t hst b c u v hs ht
  have hclosed : s.brain.closed = t.brain.closed := congrArg (·.brain.closed) hst
  cases hc : t.brain.closed with
  | true =>
    rw [run_frame_closed ending delta (hclosed.trans hc)] at hs
    rw [run_frame_closed ending delta hc] at ht
    cases hs
    cases ht
    exact hst
  | false =>
    rw [run_frame_open ending delta (hclosed.trans hc)] at hs
    rw [run_frame_open ending delta hc] at ht
    exact hbehave _ _ (sees_begin delta s t hst).2 _ _ _ _ hs ht

/-! ## The stage -/

namespace Bot

variable {β : Type}

def plain (s : BotStage α γ) : BotStage α γ :=
  { s.toHost.plain with cast := { s.cast with brains := s.cast.brains.map Brain.plain } }

theorem plain_scene {s t : BotStage α γ} (h : plain s = plain t) (k : Nat) :
    s.cast.brains[k]? = none ∧ t.cast.brains[k]? = none ∨ ∃ b c, s.cast.brains[k]? = some b ∧
      t.cast.brains[k]? = some c ∧ (scene s b).plain = (scene t c).plain := by
  have hbrains : (s.cast.brains.map Brain.plain)[k]? = (t.cast.brains.map Brain.plain)[k]? :=
    congrArg (fun s : BotStage α γ => s.cast.brains[k]?) h
  rw [List.getElem?_map, List.getElem?_map] at hbrains
  cases hs : s.cast.brains[k]? <;> cases ht : t.cast.brains[k]? <;> rw [hs, ht] at hbrains
  · exact .inl ⟨rfl, rfl⟩
  · cases hbrains
  · cases hbrains
  · next b c =>
    have hbc : b.plain = c.plain := Option.some.inj hbrains
    have hst := congrArg (fun s : BotStage α γ => scene s b.plain) h
    refine .inr ⟨b, c, rfl, rfl, ?_⟩
    have hc : scene (plain t) b.plain = scene (plain t) c.plain := congrArg _ hbc
    exact hst.trans hc

theorem plain_withScene {s t : BotStage α γ} {c d : Scene α (Callback γ) (Alarm γ)} (h : plain s = plain t)
    (hcd : c.plain = d.plain) (k : Nat) : plain (withScene k s c) = plain (withScene k t d) := by
  have hset : ∀ (s : BotStage α γ) (c : Scene α (Callback γ) (Alarm γ)), plain (withScene k s c) =
      { c.plain.toHost with
        cast := ⟨c.plain.source, (plain s).cast.brains.set k c.plain.brain, (plain s).cast.appearance⟩ } := by
    intro s c
    have hmap : (s.cast.brains.set k c.brain).map Brain.plain = (s.cast.brains.map Brain.plain).set k c.brain.plain :=
      List.map_set
    unfold plain withScene
    rw [hmap]
    rfl
  rw [hset, hset, h, hcd]

theorem sees_onBrain {play : Play α (Callback γ) (Alarm γ) β} (h : Sees Scene.plain play) (k : Nat) :
    Sees plain (onBrain k play) := by
  intro s t hst
  obtain ⟨hs, ht⟩ | ⟨b, c, hs, ht, hbc⟩ := plain_scene hst k
  · rw [run_onBrain_none play hs, run_onBrain_none play ht]
    exact ⟨rfl, hst⟩
  · obtain ⟨hanswer, hafter⟩ := h _ _ hbc
    rw [run_onBrain_some play hs, run_onBrain_some play ht]
    exact ⟨hanswer, plain_withScene hst hafter k⟩

theorem alike_onBrain {play : Play α (Callback γ) (Alarm γ) β} (h : Alike Scene.plain play) (k : Nat) :
    Alike plain (onBrain k play) := by
  intro s t hst b c u v hs ht
  obtain ⟨hs', ht'⟩ | ⟨b', c', hs', ht', hbc⟩ := plain_scene hst k
  · rw [run_onBrain_none play hs'] at hs
    cases hs
  · rw [run_onBrain_some play hs'] at hs
    rw [run_onBrain_some play ht'] at ht
    rcases hs'' : play.run (scene s b') with ⟨result, s'⟩
    rcases ht'' : play.run (scene t c') with ⟨result', t'⟩
    rw [hs''] at hs
    rw [ht''] at ht
    cases hs
    cases ht
    exact plain_withScene hst (h _ _ hbc _ _ _ _ hs'' ht'') k

theorem alike_step (delta : α) : Alike plain (step .absent delta) := by
  refine Stage.alike_step (fun s t h => congrArg (·.scheduler) h) ?_ ?_ ?_
  · intro s t scheduler h
    exact congrArg (fun s : BotStage α Empty => { s with scheduler }) h
  · rintro (⟨serial, number⟩ | ⟨⟨⟩⟩)
    exact (sees_onBrain (Wave.sees_stop _) serial).alike
  · rintro (serial | ⟨⟨⟩⟩)
    exact alike_onBrain (Brain.alike_frame _ delta) serial

theorem alike_act (k : Nat) (cue : Cue α) : Alike plain (cue.act .absent k) := by
  cases cue with
  | step delta => exact alike_step delta
  | update delta => exact alike_onBrain (Brain.alike_frame _ delta) k
  | startWave => exact (sees_onBrain (Wave.sees_start _) k).alike
  | stopWave number => exact (sees_onBrain (Wave.sees_stop number) k).alike
  | pickTarget => exact (sees_onBrain Walk.sees_pickTarget k).alike
  | releaseLegs => exact (sees_onBrain Walk.sees_release k).alike
  | playSound => exact (sees_onBrain (Chatter.sees_play.map _) k).alike
  | close => exact (sees_onBrain Brain.sees_close k).alike

theorem sees_act (k : Nat) {cue : Cue α} (h : cue.isFrame = false) : Sees plain (cue.act .absent k) := by
  cases cue with
  | step delta => cases h
  | update delta => cases h
  | startWave => exact sees_onBrain (Wave.sees_start _) k
  | stopWave number => exact sees_onBrain (Wave.sees_stop number) k
  | pickTarget => exact sees_onBrain Walk.sees_pickTarget k
  | releaseLegs => exact sees_onBrain Walk.sees_release k
  | playSound => exact sees_onBrain (Chatter.sees_play.map _) k
  | close => exact sees_onBrain Brain.sees_close k

theorem plain_after (k : Nat) : ∀ (cues : List (Cue α)) {s t : BotStage α Empty}, plain s = plain t →
    Smooth .absent k Cue.isFrame cues s → Smooth .absent k Cue.isFrame cues t →
      plain (after .absent k cues s) = plain (after .absent k cues t)
  | [], s, t, hst, _, _ => hst
  | cue :: cues, s, t, hst, hs, ht => by
    obtain ⟨hs', hs⟩ := List.forall_mem_cons.1 hs
    obtain ⟨ht', ht⟩ := List.forall_mem_cons.1 ht
    refine plain_after k cues ?_ hs ht
    cases hframe : cue.isFrame with
    | false => exact (sees_act k hframe s t hst).2
    | true => exact alike_act k cue s t hst _ _ _ _ (Prod.ext (hs' hframe) rfl) (Prod.ext (ht' hframe) rfl)

/-- The stage with other cosmetics for one brain. -/
def wearing (k : Nat) (c : Cosmetics α) (s : BotStage α γ) : BotStage α γ :=
  { s with cast := { s.cast with
    brains := s.cast.brains.modify k fun b => { b with settings := b.settings.wearing c } } }

theorem plain_wearing (k : Nat) (c : Cosmetics α) (s : BotStage α γ) : plain (wearing k c s) = plain s := by
  have hbrains : (wearing k c s).cast.brains.map Brain.plain = s.cast.brains.map Brain.plain := by
    refine List.ext_getElem? fun i => ?_
    rw [List.getElem?_map, List.getElem?_map]
    unfold wearing
    rw [List.getElem?_modify]
    cases s.cast.brains[i]? with
    | none => rfl
    | some b =>
      by_cases hi : k = i
      · simp [hi]
        rfl
      · simp [hi]
  unfold plain
  rw [hbrains]
  rfl

structure Agrees (k : Nat) (s t : BotStage α γ) : Prop where
  position : t.avatar.position = s.avatar.position
  orientation : t.avatar.orientation = s.avatar.orientation
  headPitch : t.avatar.headPitch = s.avatar.headPitch
  joints : t.avatar.joints.map Prod.fst = s.avatar.joints.map Prod.fst
  scheduler : t.scheduler = s.scheduler
  audio : t.audio = s.audio
  source : t.cast.source = s.cast.source
  state : (t.cast.brains[k]?.map fun b => b.state.plain) = s.cast.brains[k]?.map fun b => b.state.plain

theorem agrees_of_plain (k : Nat) {s t : BotStage α γ} (h : plain s = plain t) : Agrees k s t := by
  have hjoints : (JointTable.plain s.avatar.joints).map Prod.fst = (JointTable.plain t.avatar.joints).map Prod.fst :=
    congrArg (fun s : BotStage α γ => s.avatar.joints.map Prod.fst) h
  have hstates : ((s.cast.brains.map Brain.plain)[k]?.map Brain.state) =
      (t.cast.brains.map Brain.plain)[k]?.map Brain.state :=
    congrArg (fun s : BotStage α γ => s.cast.brains[k]?.map Brain.state) h
  rw [JointTable.map_fst_plain, JointTable.map_fst_plain] at hjoints
  rw [List.getElem?_map, List.getElem?_map, Option.map_map, Option.map_map] at hstates
  exact {
    position := congrArg (·.avatar.position) h.symm
    orientation := congrArg (·.avatar.orientation) h.symm
    headPitch := congrArg (·.avatar.headPitch) h.symm
    joints := hjoints.symm
    scheduler := congrArg (·.scheduler) h.symm
    audio := congrArg (·.audio) h.symm
    source := congrArg (·.cast.source) h.symm
    state := hstates.symm }

/-- **Cosmetics do not decide anything.**  Two runs from one stage, with the same cues and with two choices of cosmetics
for the brain, agree on pose, overridden joints, clock and timers, played clips, draws and all phases, as long as no
frame fails in either of them. -/
theorem cosmetics_do_not_matter (s : BotStage α Empty) (k : Nat) (c d : Cosmetics α) (cues : List (Cue α))
    (hc : Smooth .absent k Cue.isFrame cues (wearing k c s)) (hd : Smooth .absent k Cue.isFrame cues (wearing k d s)) :
    Agrees k (after .absent k cues (wearing k c s)) (after .absent k cues (wearing k d s)) := by
  have hstart : plain (wearing k c s) = plain (wearing k d s) := (plain_wearing k c s).trans (plain_wearing k d s).symm
  have hend := plain_after k cues hstart hc hd
  exact agrees_of_plain k hend

/-- A bot that waves in its first frame, with a view and without. -/
theorem cosmetics_do_not_matter_waving :
    let settings : Settings Float := { Settings.standard with wave := { WaveSettings.standard with chance := 1.0 } }
    let config : BotConfig Float := { BotConfig.standard with assets := ⟨"assets", some 7⟩, settings }
    let first := ((start config).run (waiting (.scripted [] 0.5) : BotStage Float Empty)).2
    let c : Cosmetics Float := ⟨⟨true, 30.0⟩, (3.0, 8.0), (5.0, 65.0), 60.0, 0.25, 25.0, 1.2, 60.0, 45.0, 5.0, 45.0⟩
    let cues : List (Cue Float) := [.step 0.5, .update 0.5, .stopWave none, .step 3.0]
    Agrees 0 (after .absent 0 cues (wearing 0 c first)) (after .absent 0 cues (wearing 0 .plain first)) := by
  intro settings config first c cues
  refine cosmetics_do_not_matter first 0 c .plain cues ?_ ?_
  · decide +kernel
  · decide +kernel

end Bot
end Bystander
