import Bystander.Behavior.State
/-! # Glances

Now and then a new pitch is chosen for the head.  The frame that chooses does not move the head; every other frame
covers a fixed fraction of what is left, whether or not a turn is in progress.
-/
namespace Bystander.Head

variable {α κ τ : Type} [Scalar α]

/-- One step that covers a fraction of the rest. -/
def approach (current target rate : α) : α := Scalar.between current target rate

/-- Moves the head; the turn ends within the tolerance. -/
def ease (s : Scene α κ τ) : Scene α κ τ :=
  let head := s.brain.settings.head
  let target := s.brain.state.targetPitch
  let pitch := approach s.avatar.headPitch target head.pitchRate
  let phase := if Scalar.magnitude (pitch - target) < head.stopTolerance then .idle else s.brain.state.head
  { s with
    avatar := { s.avatar with headPitch := pitch }
    brain := { s.brain with state := { s.brain.state with head := phase } } }

def aim : Play α κ τ Unit := do
  let range := (← get).brain.settings.head.pitchRange
  let target ← Scene.uniform (-range) range
  Scene.become fun b => { b with targetPitch := target, head := .turning }
  Scene.note (.headTurnStarted target)

/-- Chooses a pitch by chance while idle, else moves the head. -/
def frame : Play α κ τ Unit := do
  match (← get).brain.state.head with
  | .turning => modify ease
  | .idle =>
    let r ← Scene.draw
    if r < (← get).brain.settings.head.chance then aim else modify ease

end Bystander.Head
