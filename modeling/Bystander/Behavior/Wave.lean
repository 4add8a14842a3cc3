import Bystander.Behavior.State
/-! # Waving an arm

A wave starts by chance, has a frequency and an amplitude of its own, and is ended by a timer that carries its number.
Timers cannot be taken back: one that fires for an earlier wave than the current one is passed over.  While a wave lasts
the shoulder, the elbow and the spine roll along sines of the bot's clock.
-/
namespace Bystander.Wave

variable {α κ τ : Type} [Scalar α]

/-- The joints of a wave, in the order in which they are moved. -/
def joints : List Joint := [.shoulder, .elbow, .spine]

/-- The rolls of shoulder, elbow and spine at a time. -/
def rolls (w : WaveSettings α) (frequency amplitude t : α) : Except (Fault α) (List (Joint × α)) := do
  let shoulder ← Scalar.sine ((t - w.shoulderPhase) * frequency)
  let elbow ← Scalar.sine (t * w.elbowFrequencyScale * frequency)
  let spine ← Scalar.sine (t * frequency)
  return [
    (.shoulder, w.shoulderBias + amplitude * shoulder),
    (.elbow, w.elbowBias + amplitude / 2.0 * elbow),
    (.spine, w.spineBias + amplitude / 4.0 * spine)]

/-- Starts a wave and sets the timer that ends it.  The state says that it waves before the timer is accepted. -/
def start (ending : Nat → τ) : Play α κ τ (Episode α) := do
  let w := (← get).brain.settings.wave
  Scene.become fun b => { b with waveCount := b.waveCount + 1 }
  let number := (← get).brain.state.waveCount
  let frequency ← Scene.uniform w.frequencyRange.1 w.frequencyRange.2
  let amplitude ← Scene.uniform w.amplitudeRange.1 w.amplitudeRange.2
  let episode : Episode α := ⟨number, frequency, amplitude⟩
  Scene.become fun b => { b with wave := .waving, episode := some episode }
  let r ← Scene.draw
  let duration := w.minDuration + r * w.durationJitter
  let scheduler ← .ofExcept (Scheduler.setTimeout (ending number) duration (← get).scheduler)
  modify fun s => { s with scheduler }
  Scene.pose (Avatar.setJoints [.elbow] (.ofPitchYawRoll 0.0 w.palmOutYaw 0.0))
  Scene.note (.waveStarted number frequency amplitude duration)
  return episode

/-- Ends the wave and releases its joints.  With a number, a wave of another number goes on; a closed brain does
nothing. -/
def stop (number : Option Int) : Play α κ τ Unit := do
  let s ← get
  if s.brain.closed then return
  match number, s.brain.state.episode with
  | some n, some episode =>
    if (episode.number : Int) ≠ n then
      Scene.note (.staleTimer n)
      return
  | _, _ => pure ()
  if s.brain.state.wave == .waving then Scene.note (.waveStopped s.brain.state.waveCount)
  Scene.become fun b => { b with wave := .idle, episode := none }
  Scene.pose (Avatar.clearJoints joints)

def roll (episode : Episode α) : Play α κ τ Unit := do
  let s ← get
  let rolls ← .ofExcept (rolls s.brain.settings.wave episode.frequency episode.amplitude s.brain.state.clock)
  for (joint, roll) in rolls do
    Scene.pose (Avatar.setJoints [joint] (.ofPitchYawRoll 0.0 0.0 roll))

/-- Starts a wave by chance, or moves the arm of the one that lasts. -/
def frame (ending : Nat → τ) : Play α κ τ Unit := do
  let s ← get
  match s.brain.state.wave, s.brain.state.episode with
  | .idle, _ =>
    let r ← Scene.draw
    if r < s.brain.settings.wave.chance then discard (start ending)
  | .waving, none => return
  | .waving, some episode => roll episode

end Bystander.Wave
