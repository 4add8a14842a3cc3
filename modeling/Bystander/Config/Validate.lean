import Bystander.Config.Basic
import Bystander.Scalar.Double
import Bystander.Config.Scalar
/-! # A configuration read from data

Keys that are not declared are ignored at every level and missing ones take their default.  The checks that compare two
fields are made only when every field of the record is accepted.
-/
namespace Bystander

namespace Data

/-- A field of a record: the default if it is missing, else what is read from it. -/
def fieldOr {β : Type} (entries : List (Data × Data)) (name : String) (default : β) (read : Data → Checked β) :
    Checked β :=
  match lookup name entries with
  | none => .accepted default
  | some d => (read d).under (.key name)

def toModel {β : Type} (read : List (Data × Data) → Checked β) : Data → Checked β
  | .map entries => read entries
  | _ => .refuse .modelType

def toRecord {β : Type} (read : List (Data × Data) → Checked β) : Data → Checked β
  | .map entries => read entries
  | _ => .refuse .recordType

/-- A number within bounds; the upper one is looked at first. -/
def toFloatAtMost (high : Float) (d : Data) : Checked Float :=
  d.toFloat.andThen fun x => if x ≤ high then .accepted x else .refuse .above

def toFloatFrom (low : Float) (d : Data) : Checked Float :=
  d.toFloat.andThen fun x => if low ≤ x then .accepted x else .refuse .below

def toRate (high : Float) (d : Data) : Checked Float :=
  (d.toFloatAtMost high).andThen fun x => if 0.0 < x then .accepted x else .refuse .notAbove

/-- An integer within bounds; the upper one is looked at first. -/
def toIntBetween (low high : Int) (d : Data) : Checked Int :=
  d.toInt.andThen fun n =>
    if high < n then .refuse .above else if n < low then .refuse .below else .accepted n

def toPair : Data → Checked (Float × Float)
  | .list items =>
    match items with
    | [] => .rejected [.plain .missing [.index 0], .plain .missing [.index 1]]
    | [a] => .field (.field (.accepted Prod.mk) (a.toFloat.under (.index 0))) (.rejected [.plain .missing [.index 1]])
    | [a, b] => .field (.field (.accepted Prod.mk) (a.toFloat.under (.index 0))) (b.toFloat.under (.index 1))
    | _ => .refuse .tooLong
  | _ => .refuse .pairType

end Data

open Data

/-! ## Behaviour settings -/

def ViewSettings.ofEntries (e : List (Data × Data)) : Checked (ViewSettings Float) :=
  let d : ViewSettings Float := .standard
  .field (.field (.accepted ViewSettings.mk) (fieldOr e "enabled" d.enabled toBool)) (fieldOr e "voxel_fps" d.rate toFloat)

def WaveSettings.ofEntries (e : List (Data × Data)) : Checked (WaveSettings Float) :=
  let d : WaveSettings Float := .standard
  Checked.accepted WaveSettings.mk
    |>.field (fieldOr e "chance" d.chance toFloat)
    |>.field (fieldOr e "frequency_range" d.frequencyRange toPair)
    |>.field (fieldOr e "amplitude_range" d.amplitudeRange toPair)
    |>.field (fieldOr e "min_duration_ms" d.minDuration toFloat)
    |>.field (fieldOr e "duration_jitter_ms" d.durationJitter toFloat)
    |>.field (fieldOr e "shoulder_bias" d.shoulderBias toFloat)
    |>.field (fieldOr e "shoulder_phase" d.shoulderPhase toFloat)
    |>.field (fieldOr e "elbow_bias" d.elbowBias toFloat)
    |>.field (fieldOr e "elbow_frequency_scale" d.elbowFrequencyScale toFloat)
    |>.field (fieldOr e "spine_bias" d.spineBias toFloat)
    |>.field (fieldOr e "palm_out_yaw" d.palmOutYaw toFloat)

def SoundSettings.ofEntries (e : List (Data × Data)) : Checked (SoundSettings Float) :=
  let d : SoundSettings Float := .standard
  Checked.accepted SoundSettings.mk |>.field (fieldOr e "chance" d.chance toFloat)

def HeadSettings.ofEntries (e : List (Data × Data)) : Checked (HeadSettings Float) :=
  let d : HeadSettings Float := .standard
  Checked.accepted HeadSettings.mk
    |>.field (fieldOr e "chance" d.chance toFloat)
    |>.field (fieldOr e "pitch_range" d.pitchRange toFloat)
    |>.field (fieldOr e "pitch_rate" d.pitchRate toFloat)
    |>.field (fieldOr e "stop_tolerance" d.stopTolerance toFloat)

def WalkSettings.ofEntries (e : List (Data × Data)) : Checked (WalkSettings Float) :=
  let d : WalkSettings Float := .standard
  Checked.accepted WalkSettings.mk
    |>.field (fieldOr e "chance" d.chance toFloat)
    |>.field (fieldOr e "big_move_chance" d.bigMoveChance toFloat)
    |>.field (fieldOr e "turn_range" d.turnRange toFloat)
    |>.field (fieldOr e "move_range_small" d.smallRange toFloat)
    |>.field (fieldOr e "move_range_big" d.bigRange (toOption toFloat))
    |>.field (fieldOr e "move_rate" d.moveRate toFloat)
    |>.field (fieldOr e "turn_rate" d.turnRate toFloat)
    |>.field (fieldOr e "stop_tolerance" d.stopTolerance toFloat)
    |>.field (fieldOr e "walk_frequency" d.swingFrequency toFloat)
    |>.field (fieldOr e "walk_amplitude" d.swingAmplitude toFloat)

def Settings.ofEntries (e : List (Data × Data)) : Checked (Settings Float) :=
  let d : Settings Float := .standard
  Checked.accepted Settings.mk
    |>.field (fieldOr e "view" d.view (toRecord ViewSettings.ofEntries))
    |>.field (fieldOr e "wave" d.wave (toRecord WaveSettings.ofEntries))
    |>.field (fieldOr e "sound" d.sound (toRecord SoundSettings.ofEntries))
    |>.field (fieldOr e "head" d.head (toRecord HeadSettings.ofEntries))
    |>.field (fieldOr e "walk" d.walk (toRecord WalkSettings.ofEntries))

def Settings.ofData : Data → Checked (Settings Float) := toRecord Settings.ofEntries

/-! ## The sections as they were given -/

/-- A key that is not a text, as a place in the tree. -/
def Place.ofKey : Data → Place
  | .text s => .key s
  | .bool b => .index (if b then 1 else 0)
  | .int n => if Data.fitsWord n then .index n else .key (toString n)
  | .null => .key "None"
  | .float x => .key (Decimal.shortest x)
  | .other label => .key label
  | .bytes _ | .list _ | .map _ => .key "?"

/-- The entries of a map all of whose keys are texts and whose values can all be read. -/
def Checked.textEntries {β : Type} (read : Data → Checked β) : List (Data × Data) → Checked (List (String × β))
  | [] => .accepted []
  | (k, v) :: rest =>
    let place := Place.ofKey k
    let key : Checked String := (k.toText.under (.key "[key]")).under place
    .field (.field (.field (.accepted fun k v r => (k, v) :: r) key) ((read v).under place)) (textEntries read rest)

/-- A map under texts.  Two keys may spell one text; the value of the later one then counts. -/
def Data.toTextMap {β : Type} (read : Data → Checked β) : Data → Checked (List (String × β))
  | .map entries => (Checked.textEntries read entries).map fun named => named.foldl (fun known (k, v) => setEntry k v known) []
  | _ => .refuse .mapType

/-- The behaviour sections: maps by name, of which the known ones must hold settings. -/
def sectionsOfData (d : Data) : Checked (List String × Settings Float) :=
  (d.toTextMap (toTextMap .accepted)).andThen fun sections =>
    match Settings.ofEntries (sections.map fun (k, s) => (.text k, .object s)) with
    | .accepted settings => .accepted (sections.map Prod.fst, settings)
    | .rejected issues => .rejected [.nested [] issues]

/-! ## The configuration -/

def Bounds.ofEntries (e : List (Data × Data)) : Checked (Bounds Float) :=
  let d : Bounds Float := .standard
  let fields := Checked.accepted Bounds.mk
    |>.field (fieldOr e "x_min" d.xMin toFloat)
    |>.field (fieldOr e "x_max" d.xMax toFloat)
    |>.field (fieldOr e "z_min" d.zMin toFloat)
    |>.field (fieldOr e "z_max" d.zMax toFloat)
    |>.field (fieldOr e "y_pelvis" d.yPelvis toFloat)
  fields.andThen fun b =>
    if b.xMax ≤ b.xMin then .rejected [.failed [] "x_min must be less than x_max"]
    else if b.zMax ≤ b.zMin then .rejected [.failed [] "z_min must be less than z_max"]
    else .accepted b

def AssetsConfig.ofEntries (e : List (Data × Data)) : Checked AssetsConfig :=
  let d := AssetsConfig.standard
  Checked.accepted AssetsConfig.mk
    |>.field (fieldOr e "base_url" d.root toText)
    |>.field (fieldOr e "bot_number" d.number (toOption (toIntBetween 1 100)))

def SimulationConfig.ofEntries (e : List (Data × Data)) : Checked (SimulationConfig Float) :=
  let d : SimulationConfig Float := .standard
  Checked.accepted SimulationConfig.mk
    |>.field (fieldOr e "fps" d.fps (toRate 1000.0))
    |>.field (fieldOr e "duration_seconds" d.duration (toFloatFrom 0.0))
    |>.field (fieldOr e "realtime" d.realtime toBool)
    |>.field (fieldOr e "seed" d.seed (toOption toInt))

/-- A version is digits, a point and digits, of any script. -/
def isVersion (s : String) : Bool :=
  match s.toList.dropWhile Text.isDigit with
  | '.' :: minor => !(s.toList.takeWhile Text.isDigit).isEmpty && !minor.isEmpty && minor.all Text.isDigit
  | _ => false

def versionOfData (d : Data) : Checked String :=
  d.toText.andThen fun s => if isVersion s then .accepted s else .refuse .textPattern

def BotConfig.ofData : Data → Checked (BotConfig Float) := toModel fun e =>
  let d : BotConfig Float := .standard
  Checked.accepted (fun version spawn assets simulation (sections, settings) =>
      BotConfig.mk version spawn assets simulation sections settings)
    |>.field (fieldOr e "version" d.version versionOfData)
    |>.field (fieldOr e "spawn" d.spawn (toModel Bounds.ofEntries))
    |>.field (fieldOr e "assets" d.assets (toModel AssetsConfig.ofEntries))
    |>.field (fieldOr e "simulation" d.simulation (toModel SimulationConfig.ofEntries))
    |>.field (fieldOr e "behaviors" (d.sections, d.settings) sectionsOfData)

end Bystander
