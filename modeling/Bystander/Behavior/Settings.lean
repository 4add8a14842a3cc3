import Bystander.Scalar.Basic
/-! # How a bot behaves

Chances are per frame, angles in degrees, durations of waves in milliseconds, rates the fraction of the rest that one
frame covers.
-/
namespace Bystander

/-- The refresh of the view; the rate is in queries per second. -/
structure ViewSettings (α : Type) where
  enabled : Bool
  rate : α

/-- Arm waves.  A wave lasts the least duration and up to the jitter more. -/
structure WaveSettings (α : Type) where
  chance : α
  frequencyRange : α × α
  amplitudeRange : α × α
  minDuration : α
  durationJitter : α
  shoulderBias : α
  /-- The shoulder lags the spine by this many seconds. -/
  shoulderPhase : α
  elbowBias : α
  elbowFrequencyScale : α
  spineBias : α
  /-- The turn of the elbow with which a wave starts. -/
  palmOutYaw : α

structure SoundSettings (α : Type) where
  chance : α

structure HeadSettings (α : Type) where
  chance : α
  pitchRange : α
  pitchRate : α
  stopTolerance : α

structure WalkSettings (α : Type) where
  chance : α
  bigMoveChance : α
  turnRange : α
  smallRange : α
  /-- Without it, half the larger side of the box. -/
  bigRange : Option α
  moveRate : α
  turnRate : α
  stopTolerance : α
  swingFrequency : α
  swingAmplitude : α

structure Settings (α : Type) where
  view : ViewSettings α
  wave : WaveSettings α
  sound : SoundSettings α
  head : HeadSettings α
  walk : WalkSettings α

variable {α : Type} [Scalar α]

def ViewSettings.standard : ViewSettings α := ⟨true, 60.0⟩

def WaveSettings.standard : WaveSettings α where
  chance := 0.009
  frequencyRange := (3.0, 8.0)
  amplitudeRange := (5.0, 65.0)
  minDuration := 1000.0
  durationJitter := 2000.0
  shoulderBias := 60.0
  shoulderPhase := 0.25
  elbowBias := 25.0
  elbowFrequencyScale := 1.2
  spineBias := 60.0
  palmOutYaw := 45.0

def SoundSettings.standard : SoundSettings α := ⟨0.0⟩

def HeadSettings.standard : HeadSettings α := ⟨0.05, 30.0, 0.2, 0.05⟩

def WalkSettings.standard : WalkSettings α where
  chance := 0.005
  bigMoveChance := 0.1
  turnRange := 70.0
  smallRange := 0.5
  bigRange := none
  moveRate := 0.05
  turnRate := 0.15
  stopTolerance := 0.05
  swingFrequency := 5.0
  swingAmplitude := 45.0

def Settings.standard : Settings α := ⟨.standard, .standard, .standard, .standard, .standard⟩

end Bystander
