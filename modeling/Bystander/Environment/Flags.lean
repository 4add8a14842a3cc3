import Bystander.Config.Scalar
import Bystander.Environment.Assignments
import Bystander.Fault
import Bystander.Files.Store
import Bystander.Text.Utf8
/-! # Settings from the environment

Two switches come from variables, or from a file of assignments in the working folder.  Names are read in letters of
any case; a variable counts more than the file.
-/
namespace Bystander.Environment

structure Flags where
  debug : Bool
  json : Bool
deriving DecidableEq, Repr

inductive FlagsError where
  | undecodable (flaw : Text.Flaw)
  | invalid (issues : List Issue)

def FlagsError.report : FlagsError → Report
  | .undecodable flaw => .general "UnicodeDecodeError" flaw.message
  | .invalid issues =>
    .general "ValidationError"
      (toString issues.length ++ " validation error" ++ (if issues.length = 1 then "" else "s") ++ " for EnvSettings")

def fileName : String := ".env"

/-- What the names of all variables begin with. -/
def stem : String := "avatar_bot_"

/-- The last value of a name in small letters. -/
def valueOf {β : Type} (entries : List (String × β)) (name : String) : Option β :=
  (entries.reverse.find? fun (key, _) => String.ofList (key.toList.map Char.toLower) == name).map Prod.snd

/-- The variables of the file, if it is there. -/
def fileVariables (files : Files) (outside : List (String × String)) :
    Except FlagsError (List (String × Option String)) :=
  match files.read fileName with
  | .error _ => .ok []
  | .ok bytes => do
    let chars ← (Text.decode bytes).mapError .undecodable
    return bindings outside (Text.plainBreaks chars)

/-- One switch; it is off if nothing is said. -/
def flag (outside : List (String × String)) (inFile : List (String × Option String)) (name : String) : Checked Bool :=
  let given := (valueOf outside (stem ++ name)).or ((valueOf inFile (stem ++ name)).bind id)
  match given with
  | some text => ((Data.text text).toBool).under (.key name)
  | none => .accepted false

def flags (outside : List (String × String)) (files : Files) : Except FlagsError Flags := do
  let inFile ← fileVariables files outside
  let checked := Checked.accepted Flags.mk
    |>.field (flag outside inFile "debug")
    |>.field (flag outside inFile "log_json")
  match checked with
  | .accepted flags => return flags
  | .rejected issues => throw (.invalid issues)

end Bystander.Environment
