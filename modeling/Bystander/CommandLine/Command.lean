import Bystander.CommandLine.Arguments
import Bystander.Decimal.Binary
import Bystander.Decimal.Spelled
/-! # Commands

A command line names one command and says how it is to be done.  One that says anything else, or says it with a value
that cannot be read, is misused and names no command.
-/
namespace Bystander.CommandLine

/-- How a bot is to be run; what is not said is taken from the configuration. -/
structure RunOptions where
  config : Option String
  seconds : Option Float
  fps : Option Float
  seed : Option Int
  number : Option Int
  realtime : Bool
  json : Bool
  log : Option String

inductive Command where
  | run (options : RunOptions)
  | appearance (number : Int) (config : Option String)
  | sounds (config : Option String)
  | version

/-! ## Values -/

def integerOfFloat? (x : Float) : Option Int :=
  match Decimal.Kind.ofFloat x with
  | .finite b => if b.numerator % b.denominator = 0 then some b.floor else none
  | _ => none

/-- The integer of an argument; a number whose fraction is zero is one. -/
def integer? (s : String) : Option Int :=
  match Decimal.spelledInteger 10 s.toList with
  | .value n => some n
  | .tooLong _ => none
  | .malformed => (Decimal.spelledFloat? s.toList).bind integerOfFloat?

def number? (s : String) : Option Float := Decimal.spelledFloat? s.toList

def botNumber? (s : String) : Option Int := (integer? s).filter fun n => 1 ≤ n && n ≤ 100

/-- A value that may be absent but not unreadable. -/
def optional? {β : Type} (read : String → Option β) : Option String → Option (Option β)
  | none => some none
  | some s => (read s).map some

/-! ## Commands -/

def configSwitch : Switch := ⟨["--config", "-c"], true⟩

def runSwitches : List Switch :=
  [configSwitch, ⟨["--seconds", "-s"], true⟩, ⟨["--fps"], true⟩, ⟨["--seed"], true⟩, ⟨["--bot-number", "-b"], true⟩,
   ⟨["--realtime"], false⟩, ⟨["--json-logs"], false⟩, ⟨["--log-file"], true⟩]

def run? (arguments : List String) : Option Command := do
  let a ← Arguments.read? runSwitches arguments
  if !a.others.isEmpty then none
  return .run {
    config := a.value? "--config"
    seconds := ← optional? number? (a.value? "--seconds")
    fps := ← optional? number? (a.value? "--fps")
    seed := ← optional? integer? (a.value? "--seed")
    number := ← optional? botNumber? (a.value? "--bot-number")
    realtime := a.has "--realtime"
    json := a.has "--json-logs"
    log := a.value? "--log-file" }

def appearance? (arguments : List String) : Option Command := do
  let a ← Arguments.read? [configSwitch] arguments
  match a.others with
  | [number] => return .appearance (← integer? number) (a.value? "--config")
  | _ => none

def sounds? (arguments : List String) : Option Command := do
  let a ← Arguments.read? [configSwitch] arguments
  if a.others.isEmpty then return .sounds (a.value? "--config") else none

def version? (arguments : List String) : Option Command := do
  let a ← Arguments.read? [] arguments
  if a.others.isEmpty then return .version else none

def Command.ofArguments : List String → Option Command
  | [] => none
  | name :: arguments =>
    if name == "run" then run? arguments
    else if name == "appearance" then appearance? arguments
    else if name == "sounds" then sounds? arguments
    else if name == "version" then version? arguments
    else if name == "--" && arguments.head? != some "--" then Command.ofArguments arguments
    else none

end Bystander.CommandLine
