import Bystander.Config.Validate
import Bystander.Files.Store
import Bystander.Text.Utf8
import Bystander.Yaml.Document
/-! # Loading a configuration

A path that is given decides alone.  Otherwise the first of the default paths where anything lies decides, even if that
cannot be used, and only where none lies the standard configuration is taken.
-/
namespace Bystander

inductive LoadError where
  /-- A default path cannot even be asked for. -/
  | unsearchable (path : String) (obstacle : Obstacle)
  | unreadable (path : String) (obstacle : Obstacle)
  | undecodable (path : String) (flaw : Text.Flaw)
  | unparsable (path : String) (trouble : Yaml.Trouble)
  | invalid (path : String) (issues : List Issue)

namespace LoadError

def countOf (issues : List Issue) : String :=
  toString issues.length ++ " validation error" ++ (if issues.length = 1 then "" else "s") ++ " for BotConfig"

def report : LoadError → Report
  | .unsearchable path obstacle => .general obstacle.kind (obstacle.message path)
  | .unreadable path obstacle =>
    if obstacle = .nullCharacter then .general obstacle.kind (obstacle.message path)
    else .configuration path ("Cannot read config file: " ++ obstacle.message path)
  | .undecodable _ flaw => .general "UnicodeDecodeError" flaw.message
  | .unparsable path trouble => trouble.report path
  | .invalid path issues => .configuration path ("Invalid configuration: " ++ countOf issues)

def issues : LoadError → List Issue
  | .invalid _ issues => issues
  | _ => []

end LoadError

/-- Whether data counts as nothing: null, false, zero, or an empty text, list or map. -/
def Data.isVoid : Data → Bool
  | .null => true
  | .bool b => !b
  | .int n => n == 0
  | .float x => x == 0.0
  | .text s => s.isEmpty
  | .bytes bs => bs.isEmpty
  | .list items => items.isEmpty
  | .map entries => entries.isEmpty
  | .other _ => false

namespace BotConfig

/-- The configuration that the bytes of a file hold, by a reader of documents. -/
def ofBytes (document : List Char → Except Yaml.Trouble Data) (path : String) (bytes : List UInt8) :
    Except LoadError (BotConfig Float) := do
  let chars ← (Text.decode bytes).mapError fun flaw => .undecodable path flaw.inPieces
  let data ← (document (Text.plainBreaks chars)).mapError (.unparsable path)
  match ofData (if data.isVoid then .map [] else data) with
  | .accepted config => return config
  | .rejected issues => throw (.invalid path issues)

def ofFile (document : List Char → Except Yaml.Trouble Data) (files : Files) (path : String) :
    Except LoadError (BotConfig Float) := do
  let path := Path.normalize path
  let bytes ← (files.read path).mapError (.unreadable path)
  ofBytes document path bytes

/-- The configuration in a file that is given, or else in the first default file that is there. -/
def loadBy (document : List Char → Except Yaml.Trouble Data) (files : Files) (given : Option String)
    (defaults : List String) : Except LoadError (BotConfig Float) :=
  match given with
  | some path => ofFile document files path
  | none =>
    match files.first? defaults with
    | .error (path, obstacle) => .error (.unsearchable (Path.normalize path) obstacle)
    | .ok (some path) => ofFile document files path
    | .ok none => .ok .standard

def load (files : Files) (given : Option String) (defaults : List String) : Except LoadError (BotConfig Float) :=
  loadBy Yaml.document files given defaults

/-- The files that are looked for when none is given: one of the working folder, one of the user. -/
def defaultPaths (home : String) : List String :=
  ["config/default.yaml", Path.join home ".avatar_bot/config.yaml"]

end BotConfig
end Bystander
