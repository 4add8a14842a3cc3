import Bystander.Fault
import Bystander.Scalar.Double
import Bystander.Space.Vec3
/-! # What a run writes down

Every line tells an event with the numbers as they were; the digits to which they are rounded are a matter of the
written line.  While a bot is on stage its number is bound, and each line written then carries it.
-/
namespace Bystander

inductive Level where
  | debug
  | info
  | error
deriving DecidableEq, Repr

namespace Level

def name : Level → String
  | .debug => "debug"
  | .info => "info"
  | .error => "error"

def rank : Level → Nat
  | .debug => 10
  | .info => 20
  | .error => 40

/-- The names a threshold may have, with their ranks. -/
def thresholds : List (String × Nat) :=
  [("CRITICAL", 50), ("FATAL", 50), ("ERROR", 40), ("WARN", 30), ("WARNING", 30), ("INFO", 20), ("DEBUG", 10),
   ("NOTSET", 0)]

/-- The capital of a letter; beside `a` to `z` two more letters have a capital among `A` to `Z`. -/
def capital (c : Char) : Char := if c == 'ı' then 'I' else if c == 'ſ' then 'S' else c.toUpper

/-- The rank of a threshold, named in letters of any case. -/
def threshold (name : String) : Except Report Nat :=
  match thresholds.lookup (String.ofList (name.toList.map capital)) with
  | some rank => .ok rank
  | none => .error (.general "ValueError" ("Unknown log level: " ++ name))

end Level

inductive Event (α : Type) where
  | launching (seconds fps : α) (seed : Option Int)
  | loopStarted (fps : α) (frames : Int) (realtime : Bool)
  | frameFailed (fault : Fault α)
  | loopFinished (frames : Int) (clock : α)
  | spawned (face : String) (position : Vec3 α) (sounds : Nat)
  | alreadyRunning
  | brainClosed (frames : Nat)
  | stopped (frames : Nat)
  | waveStarted (episode : Nat) (frequency amplitude duration : α)
  | waveStopped (count : Nat)
  | staleTimer (episode : Int)
  | soundPlayed (index : Nat) (url : String)
  | headTurnStarted (target : α)
  | walkStarted (yaw distance : α) (target : Vec3 α)
  | walkFinished (position : Vec3 α)

namespace Event

variable {α : Type}

def level : Event α → Level
  | .launching .. | .loopStarted .. | .loopFinished .. | .spawned .. | .stopped .. => .info
  | .frameFailed .. => .error
  | _ => .debug

def title : Event α → String
  | .launching .. => "Starting avatar bot"
  | .loopStarted .. => "Frame loop started"
  | .frameFailed .. => "Error in frame update"
  | .loopFinished .. => "Frame loop finished"
  | .spawned .. => "New bot spawned"
  | .alreadyRunning => "Bot already running"
  | .brainClosed .. => "Behavior updater closed"
  | .stopped .. => "Bot stopped"
  | .waveStarted .. => "Wave started"
  | .waveStopped .. => "Wave stopped"
  | .staleTimer .. => "Ignoring stale wave timer"
  | .soundPlayed .. => "Playing sound"
  | .headTurnStarted .. => "Head turn started"
  | .walkStarted .. => "Walk started"
  | .walkFinished .. => "Walk finished"

def pointData (p : Vec3 Float) : Data := .object [("x", .float p.x), ("y", .float p.y), ("z", .float p.z)]

def fields : Event Float → List (String × Data)
  | .launching seconds fps seed =>
    [("seconds", .float seconds), ("fps", .float fps), ("seed", (seed.map Data.int).getD .null)]
  | .loopStarted fps frames realtime => [("fps", .float fps), ("frames", .int frames), ("realtime", .bool realtime)]
  | .frameFailed fault => [("error", fault.report.response.toData)]
  | .loopFinished frames clock => [("frames", .int frames), ("virtual_time", .float (Decimal.rounded 3 clock))]
  | .spawned face position sounds =>
    [("face", .text face), ("position", pointData position), ("sounds", .int sounds)]
  | .alreadyRunning => []
  | .brainClosed frames => [("frames", .int frames)]
  | .stopped frames => [("frames", .int frames)]
  | .waveStarted episode frequency amplitude duration =>
    [("episode", .int episode), ("frequency", .float (Decimal.rounded 2 frequency)),
      ("amplitude", .float (Decimal.rounded 1 amplitude)), ("duration_ms", .int (Scalar.nearest duration))]
  | .waveStopped count => [("episode", .int count)]
  | .staleTimer episode => [("episode", .int episode)]
  | .soundPlayed index url => [("index", .int index), ("url", .text url)]
  | .headTurnStarted target => [("target_pitch", .float (Decimal.rounded 2 target))]
  | .walkStarted yaw distance target =>
    [("yaw", .float (Decimal.rounded 1 yaw)), ("distance", .float (Decimal.rounded 3 distance)),
      ("target", pointData target)]
  | .walkFinished position => [("position", pointData position)]

end Event

structure Line (α : Type) where
  event : Event α
  bot : Option Int

/-- A line as a tree: its title, its level, its fields, and the bot number if one was bound. -/
def Line.toData (l : Line Float) : Data :=
  .object <|
    [("event", .text l.event.title), ("level", .text l.event.level.name)]
    ++ l.event.fields ++ (l.bot.map fun n => ("bot_number", Data.int n)).toList

/-- The lines so far, the latest first, and the bot number bound now. -/
structure Journal (α : Type) where
  latestFirst : List (Line α)
  bound : Option Int

namespace Journal

variable {α : Type}

def empty : Journal α := ⟨[], none⟩

def note (event : Event α) (j : Journal α) : Journal α := { j with latestFirst := ⟨event, j.bound⟩ :: j.latestFirst }

def bind (number : Int) (j : Journal α) : Journal α := { j with bound := some number }

def unbind (j : Journal α) : Journal α := { j with bound := none }

/-- The lines at or above a rank, in the order in which they were written. -/
def above (rank : Nat) (j : Journal α) : List (Line α) :=
  (j.latestFirst.filter fun l => rank ≤ l.event.level.rank).reverse

end Journal
end Bystander
