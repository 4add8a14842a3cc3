import Bystander.Behavior.State
/-! # Keeping the view on the bot

The viewer is moved to the avatar's pose and queried at most at the rate of the settings; a query is due when strictly
more than one interval has passed since the last one.
-/
namespace Bystander.View

variable {α κ τ : Type} [Scalar α]

/-- The seconds between two queries; a rate of zero has none. -/
def interval (rate : α) : Except (Fault α) α := Scalar.divide 1.0 rate

/-- Queries the view if it is enabled and due; the answer tells whether it did. -/
def frame : Play α κ τ Bool := do
  let s ← get
  let view := s.brain.settings.view
  if !view.enabled then return false
  let pause ← .ofExcept (interval view.rate)
  if s.brain.state.clock - s.brain.state.lastRefresh ≤ pause then return false
  modify fun s => { s with
    viewer := ⟨s.avatar.position, s.avatar.orientation, s.viewer.queries + 1⟩
    brain := { s.brain with
      state := { s.brain.state with lastRefresh := s.brain.state.clock }
      queries := s.brain.queries + 1 } }
  return true

end Bystander.View
