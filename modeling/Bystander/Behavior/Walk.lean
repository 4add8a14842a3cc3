import Bystander.Behavior.State
/-! # Short walks

A walk turns by a random yaw, picks a point ahead, usually near and sometimes far, moves it into the box, and glides
there: each frame covers fixed fractions of the rest of the way and of the turn.  Hip and knee swing with one waveform
while the bot walks and are released when it arrives.
-/
namespace Bystander.Walk

variable {α κ τ : Type} [Scalar α]

def legs : List Joint := [.hip, .knee]

def bigRange (b : Brain α) : α := b.settings.walk.bigRange.getD b.bounds.bigMoveRange

/-- Chooses a heading and a point ahead, and starts to walk. -/
def pickTarget : Play α κ τ Unit := do
  let walk := (← get).brain.settings.walk
  let yaw ← Scene.uniform (-walk.turnRange) walk.turnRange
  let turn ← .ofExcept (Quat.angleAxis yaw .up)
  let heading := (← get).brain.state.orientation * turn
  Scene.become fun b => { b with targetOrientation := heading }
  let far ← Scene.draw
  let brain := (← get).brain
  let range := if far < walk.bigMoveChance then bigRange brain else walk.smallRange
  let distance ← Scene.uniform 0.0 range
  let s ← get
  let target := s.brain.bounds.clamp (s.brain.state.position + heading.front * distance)
  modify fun s => { s with brain := { s.brain with
    state := { s.brain.state with targetPosition := target, walk := .walking }
    walks := s.brain.walks + 1 } }
  Scene.note (.walkStarted yaw distance target)

def swing (t : α) : Play α κ τ Unit := do
  let walk := (← get).brain.settings.walk
  let sine ← .ofExcept (Scalar.sine (t * walk.swingFrequency))
  let rotation := Quat.ofPitchYawRoll (walk.swingAmplitude * sine) 0.0 0.0
  Scene.pose (Avatar.setJoints legs rotation)

def release : Play α κ τ Unit := Scene.pose (Avatar.clearJoints legs)

/-- Swings the legs and covers a part of the way and of the turn; the walk ends within the tolerance. -/
def stride : Play α κ τ Unit := do
  swing (← get).brain.state.clock
  let s ← get
  let walk := s.brain.settings.walk
  let state := s.brain.state
  let position := state.position + (state.targetPosition - state.position) * walk.moveRate
  let orientation ← .ofExcept (state.orientation.mix state.targetOrientation walk.turnRate)
  Scene.pose fun a => { a with position := position, orientation := orientation }
  Scene.become fun b => { b with position := position, orientation := orientation }
  if (position - state.targetPosition).length < walk.stopTolerance then
    Scene.become fun b => { b with walk := .idle }
    release
    Scene.note (.walkFinished position)

/-- Starts a walk by chance while idle, else goes on with it. -/
def frame : Play α κ τ Unit := do
  match (← get).brain.state.walk with
  | .walking => stride
  | .idle =>
    let r ← Scene.draw
    if r < (← get).brain.settings.walk.chance then pickTarget

end Bystander.Walk
