import Bystander.Behavior.State
/-! # Saying something now and then

A clip of the library is chosen uniformly and played unless a clip is still playing or the library is empty; in that
case nothing is drawn for the choice.
-/
namespace Bystander.Chatter

variable {α κ τ : Type} [Scalar α]

/-- The place that a fraction picks among `count` clips. -/
def place (r : α) (count : Nat) : Except (Fault α) Nat := do
  let n ← Scalar.integral (r * Scalar.ofNat count) Scalar.truncate
  return (n % count).toNat

/-- Plays a clip if the voice is free; the answer is its place in the library. -/
def play : Play α κ τ (Option Nat) := do
  let s ← get
  if s.audio.isPlaying s.scheduler.now || s.brain.clips.isEmpty then return none
  let r ← Scene.draw
  let index ← .ofExcept (place r s.brain.clips.length)
  match s.brain.clips[index]? with
  | none => return none
  | some clip =>
    modify fun s => { s with
      audio := s.audio.play s.scheduler.now clip
      brain := { s.brain with sounds := s.brain.sounds + 1 } }
    Scene.note (.soundPlayed index clip.url)
    return some index

def frame : Play α κ τ (Option Nat) := do
  let r ← Scene.draw
  if r < (← get).brain.settings.sound.chance then play else return none

end Bystander.Chatter
