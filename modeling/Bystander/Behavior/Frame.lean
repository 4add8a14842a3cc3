import Bystander.Behavior.View
import Bystander.Behavior.Wave
import Bystander.Behavior.Chatter
import Bystander.Behavior.Head
import Bystander.Behavior.Walk
/-! # One frame of behaviour

An open brain advances its clock, reads where the avatar is, and runs its five behaviours in a fixed order: view, wave,
sounds, head, walk.  The first that fails ends the frame.  A closed brain does nothing.
-/
namespace Bystander.Brain

variable {α κ τ : Type} [Scalar α]

/-- A delta as the clock counts it: one that is negative or not finite counts as nothing. -/
def effectiveDelta (delta : α) : α := if !Scalar.isFinite delta || delta < 0.0 then 0.0 else delta

/-- Advances the clock and reads the pose.  A bot that never walks is put back to its spawn point first. -/
def begin (delta : α) (s : Scene α κ τ) : Scene α κ τ :=
  let state := s.brain.state
  let avatar := if s.brain.settings.walk.chance == 0.0 then { s.avatar with position := state.spawn } else s.avatar
  { s with
    avatar
    brain := { s.brain with
      frames := s.brain.frames + 1
      state := { state with
        clock := state.clock + effectiveDelta delta
        position := avatar.position
        orientation := avatar.orientation } } }

def frame (ending : Nat → τ) (delta : α) : Play α κ τ Unit := do
  if (← get).brain.closed then return
  modify (begin delta)
  discard View.frame
  Wave.frame ending
  discard Chatter.frame
  Head.frame
  Walk.frame

def close : Play α κ τ Unit := do
  let s ← get
  if s.brain.closed then return
  modify fun s => { s with brain := { s.brain with closed := true } }
  Scene.note (.brainClosed s.brain.frames)

end Bystander.Brain
