import Bystander.CommandLine.Program
import Bystander.Data.Json
/-! # The program on the command line

What the program needs of the files and variables outside is read, the command is done on that, and what it prints and
writes down is carried out.
-/
namespace Bystander.CommandLine

def contentAt (path : String) : IO (Option Content) := do
  try
    return some (.file (← IO.FS.readBinFile path).toList)
  catch _ =>
    let isFolder ← (try (← IO.FS.realPath path).isDir catch _ => pure false)
    return if isFolder then some .folder else none

/-- The beginnings of a path, from its first step to all of it. -/
def stretches (path : String) : List String :=
  let steps := Path.steps path
  (List.range steps.length).map fun i => Path.root path ++ String.intercalate "/" (steps.take (i + 1))

def look (files : Files) (path : String) : IO Files := do
  let mut files := files
  for stretch in stretches path do
    if let some content ← contentAt stretch then
      if let .ok steps := files.locate stretch then
        files := files.put steps content
  return files

/-- The paths that a command may read. -/
def pathsOf (home : String) : Option Command → List String
  | some (.run o) => o.config.toList ++ o.log.toList ++ Environment.fileName :: BotConfig.defaultPaths home
  | some (.appearance _ config) => config.toList ++ BotConfig.defaultPaths home
  | some (.sounds config) => config.toList ++ BotConfig.defaultPaths home
  | _ => []

/-- The variables outside that may matter. -/
def variablesOutside : IO (List (String × String)) := do
  let names := ["debug", "log_json"].flatMap fun name =>
    let name := Environment.stem ++ name
    [name, String.ofList (name.toList.map Char.toUpper)]
  let found ← names.mapM fun name => do return (← IO.getEnv name).map fun value => (name, value)
  return found.filterMap id

def Row.render : Row → String
  | .text line => line
  | .cells texts => String.intercalate "  " texts
  | .tree data => data.json

def append (path : String) (lines : List String) : IO Unit := do
  IO.FS.createDirAll (Path.parent path)
  IO.FS.withFile path .append fun h => lines.forM h.putStrLn

/-- Does what a command line says, and answers the exit code. -/
def execute (arguments : List String) : IO UInt32 := do
  let home := (← IO.getEnv "HOME").getD "."
  let paths := pathsOf home (Command.ofArguments arguments)
  let files ← paths.foldlM look Files.empty
  let outcome := perform arguments ⟨files, ← variablesOutside, home, ← IO.monoNanosNow⟩
  let lines := outcome.lines.map fun l => l.toData.json
  lines.forM IO.println
  outcome.rows.forM fun row => IO.println row.render
  if let some path := outcome.log then append path lines
  match outcome.ending with
  | .escaped r => IO.eprintln (r.kind ++ ": " ++ r.message)
  | .misused => IO.eprintln "Usage: avatar-bot (run | appearance | sounds | version) [OPTIONS] [ARGUMENTS]"
  | _ => pure ()
  return UInt32.ofNat outcome.ending.exitCode

end Bystander.CommandLine

def main (arguments : List String) : IO UInt32 := Bystander.CommandLine.execute arguments
