import Bystander.Behavior.Frame
import Bystander.Proofs.Obedience
/-! # What the behaviours do, case by case

A query of the view, and the four actions that carry the two longer behaviours, with the scenes they leave behind:
starting and ending a wave, choosing a target and making a step towards it.  Each is said for every scene, with the
point at which it may fail.
-/
namespace Bystander

open Act (run_bind run_get_bind)

variable {α κ τ : Type} [Scalar α]

/-- **What is left of a source** after some fractions and some numbers have been taken from it. -/
inductive Source.Leads : Source α → Source α → Prop
  | refl (s : Source α) : Leads s s
  | fraction {s t : Source α} : Leads s t → Leads s t.draw.2
  | number {s t : Source α} (n : Nat) : Leads s t → Leads s (t.below n).2

theorem Source.Leads.trans {s t u : Source α} (h : s.Leads t) (h' : t.Leads u) : s.Leads u := by
  induction h' with
  | refl => exact h
  | fraction _ ih => exact ih.fraction
  | number n _ ih => exact ih.number n

namespace Scene

omit [Scalar α] in
theorem run_note (event : Event α) (s : Scene α κ τ) :
    (note event).run s = (.ok (), { s with journal := s.journal.note event }) := rfl

theorem run_draw (s : Scene α κ τ) : draw.run s = (.ok s.source.draw.1, { s with source := s.source.draw.2 }) := rfl

theorem run_uniform (low high : α) (s : Scene α κ τ) :
    (uniform low high).run s =
      (.ok (Scalar.between low high s.source.draw.1), { s with source := s.source.draw.2 }) := rfl

omit [Scalar α] in
theorem run_become (f : BotState α → BotState α) (s : Scene α κ τ) :
    (become f).run s = (.ok (), { s with brain := { s.brain with state := f s.brain.state } }) := rfl

omit [Scalar α] in
theorem run_pose (f : Avatar α → Avatar α) (s : Scene α κ τ) :
    (pose f).run s = (.ok (), { s with avatar := f s.avatar }) := rfl

end Scene

/-! ## The view -/

namespace View

/-- A scene after its view has been queried. -/
def queried (s : Scene α κ τ) : Scene α κ τ :=
  { s with
    viewer := ⟨s.avatar.position, s.avatar.orientation, s.viewer.queries + 1⟩
    brain := { s.brain with
      state := { s.brain.state with lastRefresh := s.brain.state.clock }
      queries := s.brain.queries + 1 } }

/-- **A query of the view** fails only where its rate has no interval. -/
theorem run_frame (s : Scene α κ τ) :
    frame.run s =
      if s.brain.settings.view.enabled = true then
        match interval s.brain.settings.view.rate with
        | .error fault => (.error fault, s)
        | .ok pause =>
          if s.brain.state.clock - s.brain.state.lastRefresh ≤ pause then (.ok false, s) else (.ok true, queried s)
      else (.ok false, s) := by
  rw [frame, run_get_bind]
  dsimp only
  cases s.brain.settings.view.enabled with
  | false => rfl
  | true =>
    rw [Bool.not_true, if_neg Bool.false_ne_true, if_pos rfl, run_bind, Act.run_ofExcept]
    cases interval s.brain.settings.view.rate with
    | error fault => rfl
    | ok pause =>
      dsimp only
      split <;> rfl

end View

/-! ## Waves -/

/-- **The part of a brain that waves.** -/
structure Arm (α : Type) where
  closed : Bool
  settings : WaveSettings α
  phase : WavePhase
  episode : Option (Episode α)
  count : Nat

def Brain.arm (b : Brain α) : Arm α := ⟨b.closed, b.settings.wave, b.state.wave, b.state.episode, b.state.waveCount⟩

namespace Arm

def nextEpisode (arm : Arm α) (source : Source α) : Episode α :=
  ⟨arm.count + 1, Scalar.between arm.settings.frequencyRange.1 arm.settings.frequencyRange.2 source.draw.1,
    Scalar.between arm.settings.amplitudeRange.1 arm.settings.amplitudeRange.2 source.draw.2.draw.1⟩

def nextDuration (arm : Arm α) (source : Source α) : α :=
  arm.settings.minDuration + source.draw.2.draw.2.draw.1 * arm.settings.durationJitter

def begun (arm : Arm α) (source : Source α) : Arm α :=
  { arm with phase := .waving, episode := some (arm.nextEpisode source), count := arm.count + 1 }

end Arm

namespace Wave

def begun (s : Scene α κ τ) : Scene α κ τ :=
  { s with
    source := s.source.draw.2.draw.2.draw.2
    brain := { s.brain with state := { s.brain.state with
      wave := .waving
      episode := some (s.brain.arm.nextEpisode s.source)
      waveCount := s.brain.state.waveCount + 1 } } }

/-- A scene after its wave has started: the timer is accepted and the palm is turned outward. -/
def started (s : Scene α κ τ) (scheduler : Scheduler α κ τ) : Scene α κ τ :=
  let episode := s.brain.arm.nextEpisode s.source
  { begun s with
    scheduler
    avatar := s.avatar.setJoints [.elbow] (.ofPitchYawRoll 0.0 s.brain.settings.wave.palmOutYaw 0.0)
    journal := s.journal.note (.waveStarted episode.number episode.frequency episode.amplitude
      (s.brain.arm.nextDuration s.source)) }

/-- **Starting a wave** fails only where its timer is refused; the scene says by then that it waves. -/
theorem run_start (ending : Nat → τ) (s : Scene α κ τ) :
    (start ending).run s =
      match s.scheduler.setTimeout (ending (s.brain.arm.count + 1)) (s.brain.arm.nextDuration s.source) with
      | .ok scheduler => (.ok (s.brain.arm.nextEpisode s.source), started s scheduler)
      | .error fault => (.error fault, begun s) := by
  simp only [start, run_bind, Act.run_get, Act.run_modify, Act.run_pure, Act.run_ofExcept, Scene.run_become,
    Scene.run_uniform, Scene.run_draw, Scene.run_pose, Scene.run_note, Brain.arm, Arm.nextDuration]
  generalize Scheduler.setTimeout _ _ s.scheduler = result
  cases result <;> rfl

/-- Whether a stop concerns an episode: one with a number only concerns the episode of that number. -/
def concerns : Option Int → Option (Episode α) → Bool
  | some n, some episode => (episode.number : Int) == n
  | _, _ => true

def ended (s : Scene α κ τ) : Scene α κ τ :=
  { s with
    journal :=
      if s.brain.state.wave == .waving then s.journal.note (.waveStopped s.brain.state.waveCount) else s.journal
    avatar := s.avatar.clearJoints joints
    brain := { s.brain with state := { s.brain.state with wave := .idle, episode := none } } }

omit [Scalar α] in
theorem run_stop_closed (number : Option Int) {s : Scene α κ τ} (h : s.brain.closed = true) :
    (stop number).run s = (.ok (), s) := by
  rw [stop, run_get_bind, h]
  rfl

omit [Scalar α] in
theorem run_stop_stale {number : Option Int} {s : Scene α κ τ} (h : s.brain.closed = false)
    (hc : concerns number s.brain.state.episode = false) : ∃ n, number = some n ∧
      (stop number).run s = (.ok (), { s with journal := s.journal.note (.staleTimer n) }) := by
  rw [stop, run_get_bind, h]
  cases number with
  | none => cases hc
  | some n =>
    cases he : s.brain.state.episode with
    | none => rw [he] at hc; cases hc
    | some episode =>
      rw [he] at hc
      have hne : (episode.number : Int) ≠ n := ne_of_beq_false hc
      refine ⟨n, rfl, ?_⟩
      simp [hne, Scene.run_note]

omit [Scalar α] in
/-- A stop that concerns the current episode ends it. -/
theorem run_stop_concerned {number : Option Int} {s : Scene α κ τ} (h : s.brain.closed = false)
    (hc : concerns number s.brain.state.episode = true) : (stop number).run s = (.ok (), ended s) := by
  have hend : (do
      if s.brain.state.wave == .waving then Scene.note (.waveStopped s.brain.state.waveCount)
      Scene.become fun b => { b with wave := .idle, episode := none }
      Scene.pose (Avatar.clearJoints joints) : Play α κ τ Unit).run s = (.ok (), ended s) := by
    unfold ended
    split <;> rfl
  rw [stop, run_get_bind, h]
  cases number with
  | none => exact hend
  | some n =>
    cases he : s.brain.state.episode with
    | none => exact hend
    | some episode =>
      rw [he] at hc
      have heq : (episode.number : Int) = n := eq_of_beq hc
      simp only [heq, ne_eq, not_true_eq_false]
      exact hend

omit [Scalar α] in
theorem stop_cases (number : Option Int) (s : Scene α κ τ) :
    s.brain.closed = true ∧ (stop number).run s = (.ok (), s) ∨ s.brain.closed = false ∧
      (concerns number s.brain.state.episode = false ∧ (∃ n, number = some n ∧
        (stop number).run s = (.ok (), { s with journal := s.journal.note (.staleTimer n) })) ∨
      concerns number s.brain.state.episode = true ∧ (stop number).run s = (.ok (), ended s)) := by
  cases hclosed : s.brain.closed with
  | true => exact .inl ⟨rfl, run_stop_closed number hclosed⟩
  | false =>
    cases hc : concerns number s.brain.state.episode with
    | false => exact .inr ⟨rfl, .inl ⟨rfl, run_stop_stale hclosed hc⟩⟩
    | true => exact .inr ⟨rfl, .inr ⟨rfl, run_stop_concerned hclosed hc⟩⟩

end Wave

/-! ## Walks -/

namespace Walk

/-- The yaw of the next turn. -/
def nextYaw (s : Scene α κ τ) : α :=
  Scalar.between (-s.brain.settings.walk.turnRange) s.brain.settings.walk.turnRange s.source.draw.1

/-- How far the next walk goes. -/
def nextDistance (s : Scene α κ τ) : α :=
  let far := s.source.draw.2.draw.1
  let range := if far < s.brain.settings.walk.bigMoveChance then bigRange s.brain else s.brain.settings.walk.smallRange
  Scalar.between 0.0 range s.source.draw.2.draw.2.draw.1

/-- A scene after a target has been chosen: the bot walks to a point that was moved into the box. -/
def chosen (turn : Quat α) (s : Scene α κ τ) : Scene α κ τ :=
  let heading := s.brain.state.orientation * turn
  let target := s.brain.bounds.clamp (s.brain.state.position + heading.front * nextDistance s)
  { s with
    source := s.source.draw.2.draw.2.draw.2
    journal := s.journal.note (.walkStarted (nextYaw s) (nextDistance s) target)
    brain := { s.brain with
      walks := s.brain.walks + 1
      state := { s.brain.state with targetOrientation := heading, targetPosition := target, walk := .walking } } }

/-- **Choosing a target** fails only where the turn does. -/
theorem run_pickTarget (s : Scene α κ τ) :
    pickTarget.run s =
      match Quat.angleAxis (nextYaw s) (.up : Vec3 α) with
      | .ok turn => (.ok (), chosen turn s)
      | .error fault => (.error fault, { s with source := s.source.draw.2 }) := by
  simp only [pickTarget, run_bind, Act.run_get, Act.run_modify, Act.run_ofExcept, Scene.run_become, Scene.run_uniform,
    Scene.run_draw, Scene.run_note]
  rw [← nextYaw]
  cases Quat.angleAxis (nextYaw s) (.up : Vec3 α) <;> rfl

theorem pickTarget_cases (s : Scene α κ τ) :
    (∃ fault, pickTarget.run s = (.error fault, { s with source := s.source.draw.2 })) ∨
      ∃ turn, Quat.angleAxis (nextYaw s) .up = .ok turn ∧ pickTarget.run s = (.ok (), chosen turn s) := by
  rw [run_pickTarget]
  cases Quat.angleAxis (nextYaw s) .up with
  | error fault => exact Or.inl ⟨fault, rfl⟩
  | ok turn => exact Or.inr ⟨turn, rfl, rfl⟩

def swung (sine : α) (s : Scene α κ τ) : Scene α κ τ :=
  { s with avatar := s.avatar.setJoints legs (.ofPitchYawRoll (s.brain.settings.walk.swingAmplitude * sine) 0.0 0.0) }

def nextPosition (s : Scene α κ τ) : Vec3 α :=
  s.brain.state.position + (s.brain.state.targetPosition - s.brain.state.position) * s.brain.settings.walk.moveRate

def moved (orientation : Quat α) (s : Scene α κ τ) : Scene α κ τ :=
  { s with
    avatar := { s.avatar with position := nextPosition s, orientation := orientation }
    brain := { s.brain with state := { s.brain.state with position := nextPosition s, orientation := orientation } } }

def arrived (s : Scene α κ τ) : Scene α κ τ :=
  { s with
    avatar := s.avatar.clearJoints legs
    journal := s.journal.note (.walkFinished s.brain.state.position)
    brain := { s.brain with state := { s.brain.state with walk := .idle } } }

/-- **A step** may fail before the legs swing and before the body moves. -/
theorem run_stride (s : Scene α κ τ) :
    stride.run s =
      match Scalar.sine (s.brain.state.clock * s.brain.settings.walk.swingFrequency) with
      | .error fault => (.error fault, s)
      | .ok sine =>
        match s.brain.state.orientation.mix s.brain.state.targetOrientation s.brain.settings.walk.turnRate with
        | .error fault => (.error fault, swung sine s)
        | .ok orientation =>
          if (nextPosition s - s.brain.state.targetPosition).length < s.brain.settings.walk.stopTolerance then
            (.ok (), arrived (moved orientation (swung sine s)))
          else (.ok (), moved orientation (swung sine s)) := by
  simp only [stride, swing, run_bind, Act.run_get, Act.run_ofExcept]
  cases Scalar.sine (s.brain.state.clock * s.brain.settings.walk.swingFrequency) with
  | error fault => rfl
  | ok sine =>
    simp only [Scene.run_pose]
    cases s.brain.state.orientation.mix s.brain.state.targetOrientation s.brain.settings.walk.turnRate with
    | error fault => rfl
    | ok orientation =>
      simp only [Scene.run_become]
      unfold nextPosition
      split <;> rfl

theorem stride_cases (s : Scene α κ τ) :
    (∃ fault, stride.run s = (.error fault, s)) ∨ ∃ sine,
      (∃ fault, stride.run s = (.error fault, swung sine s)) ∨ ∃ orientation,
        s.brain.state.orientation.mix s.brain.state.targetOrientation s.brain.settings.walk.turnRate = .ok orientation ∧
          (stride.run s = (.ok (), moved orientation (swung sine s)) ∨
            stride.run s = (.ok (), arrived (moved orientation (swung sine s)))) := by
  rw [run_stride]
  cases Scalar.sine (s.brain.state.clock * s.brain.settings.walk.swingFrequency) with
  | error fault => exact Or.inl ⟨fault, rfl⟩
  | ok sine =>
    refine Or.inr ⟨sine, ?_⟩
    cases s.brain.state.orientation.mix s.brain.state.targetOrientation s.brain.settings.walk.turnRate with
    | error fault => exact Or.inl ⟨fault, rfl⟩
    | ok orientation =>
      refine Or.inr ⟨orientation, rfl, ?_⟩
      dsimp only
      split
      · exact Or.inr rfl
      · exact Or.inl rfl

end Walk
end Bystander
