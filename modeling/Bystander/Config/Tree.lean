import Bystander.Config.Basic
import Bystander.Data.Basic
import Bystander.Scalar.Double
/-! # A configuration as data

An accepted configuration is written back as the tree from which it would be read: every field is there, and the
behaviours are the five sections with all their settings.
-/
namespace Bystander

/-! ## The names of the settings -/

def Bounds.names : List String := ["x_min", "x_max", "z_min", "z_max", "y_pelvis"]
def AssetsConfig.names : List String := ["base_url", "bot_number"]
def SimulationConfig.names : List String := ["fps", "duration_seconds", "realtime", "seed"]
def ViewSettings.names : List String := ["enabled", "voxel_fps"]
def WaveSettings.names : List String :=
  ["chance", "frequency_range", "amplitude_range", "min_duration_ms", "duration_jitter_ms", "shoulder_bias",
    "shoulder_phase", "elbow_bias", "elbow_frequency_scale", "spine_bias", "palm_out_yaw"]
def SoundSettings.names : List String := ["chance"]
def HeadSettings.names : List String := ["chance", "pitch_range", "pitch_rate", "stop_tolerance"]
def WalkSettings.names : List String :=
  ["chance", "big_move_chance", "turn_range", "move_range_small", "move_range_big", "move_rate", "turn_rate",
    "stop_tolerance", "walk_frequency", "walk_amplitude"]

def Settings.sectionNames : List String := ["view", "wave", "sound", "head", "walk"]

/-! ## Writing -/

def Data.ofPair (p : Float × Float) : Data := .list [.float p.1, .float p.2]

/-- What may be absent; null where it is. -/
def Data.ofOption {β : Type} (write : β → Data) : Option β → Data
  | some b => write b
  | none => .null

def ViewSettings.toData (s : ViewSettings Float) : Data :=
  .object [("enabled", .bool s.enabled), ("voxel_fps", .float s.rate)]

def WaveSettings.toData (s : WaveSettings Float) : Data :=
  .object [
    ("chance", .float s.chance), ("frequency_range", .ofPair s.frequencyRange),
    ("amplitude_range", .ofPair s.amplitudeRange), ("min_duration_ms", .float s.minDuration),
    ("duration_jitter_ms", .float s.durationJitter), ("shoulder_bias", .float s.shoulderBias),
    ("shoulder_phase", .float s.shoulderPhase), ("elbow_bias", .float s.elbowBias),
    ("elbow_frequency_scale", .float s.elbowFrequencyScale), ("spine_bias", .float s.spineBias),
    ("palm_out_yaw", .float s.palmOutYaw)]

def SoundSettings.toData (s : SoundSettings Float) : Data := .object [("chance", .float s.chance)]

def HeadSettings.toData (s : HeadSettings Float) : Data :=
  .object [
    ("chance", .float s.chance), ("pitch_range", .float s.pitchRange), ("pitch_rate", .float s.pitchRate),
    ("stop_tolerance", .float s.stopTolerance)]

def WalkSettings.toData (s : WalkSettings Float) : Data :=
  .object [
    ("chance", .float s.chance), ("big_move_chance", .float s.bigMoveChance), ("turn_range", .float s.turnRange),
    ("move_range_small", .float s.smallRange), ("move_range_big", .ofOption .float s.bigRange),
    ("move_rate", .float s.moveRate), ("turn_rate", .float s.turnRate), ("stop_tolerance", .float s.stopTolerance),
    ("walk_frequency", .float s.swingFrequency), ("walk_amplitude", .float s.swingAmplitude)]

def Settings.toData (s : Settings Float) : Data :=
  .object [
    ("view", s.view.toData), ("wave", s.wave.toData), ("sound", s.sound.toData), ("head", s.head.toData),
    ("walk", s.walk.toData)]

def Bounds.toData (b : Bounds Float) : Data :=
  .object [
    ("x_min", .float b.xMin), ("x_max", .float b.xMax), ("z_min", .float b.zMin), ("z_max", .float b.zMax),
    ("y_pelvis", .float b.yPelvis)]

def AssetsConfig.toData (c : AssetsConfig) : Data :=
  .object [("base_url", .text c.root), ("bot_number", .ofOption .int c.number)]

def SimulationConfig.toData (c : SimulationConfig Float) : Data :=
  .object [
    ("fps", .float c.fps), ("duration_seconds", .float c.duration), ("realtime", .bool c.realtime),
    ("seed", .ofOption .int c.seed)]

def BotConfig.toData (c : BotConfig Float) : Data :=
  .object [
    ("version", .text c.version), ("spawn", c.spawn.toData), ("assets", c.assets.toData),
    ("simulation", c.simulation.toData), ("behaviors", c.settings.toData)]

end Bystander
