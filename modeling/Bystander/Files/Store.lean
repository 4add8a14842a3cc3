import Bystander.Files.Path
import Bystander.Text.Quoted
/-! # Files

The files that a program can see are a value: folders and files by the steps that lead to them from the working folder.
A folder exists when it was made or when something lies in it.
-/
namespace Bystander

inductive Content where
  | folder
  | file (bytes : List UInt8)
deriving DecidableEq, Repr

inductive Obstacle where
  | missing
  /-- A step before the last is no folder. -/
  | notFolder
  | isFolder
  /-- A folder is to be made where something else lies. -/
  | occupied
  | nameTooLong
  /-- A character that no path can hold. -/
  | nullCharacter
deriving DecidableEq, Repr

namespace Obstacle

def kind : Obstacle → String
  | .missing => "FileNotFoundError"
  | .notFolder => "NotADirectoryError"
  | .isFolder => "IsADirectoryError"
  | .occupied => "FileExistsError"
  | .nameTooLong => "OSError"
  | .nullCharacter => "ValueError"

def message (path : String) (o : Obstacle) : String :=
  let known := fun (number : Nat) (text : String) =>
    "[Errno " ++ toString number ++ "] " ++ text ++ ": " ++ Text.quoted path
  match o with
  | .missing => known 2 "No such file or directory"
  | .occupied => known 17 "File exists"
  | .notFolder => known 20 "Not a directory"
  | .isFolder => known 21 "Is a directory"
  | .nameTooLong => known 36 "File name too long"
  | .nullCharacter => "embedded null byte"

end Obstacle

/-- The files and the folders that were made, by their steps. -/
structure Files where
  entries : List (List String × Content)
deriving Inhabited

namespace Files

def empty : Files := ⟨[]⟩

/-- The longest name of a file, in bytes. -/
def nameLimit : Nat := 255

/-- What lies at the end of steps that go only down, or out of the working folder. -/
def content? (files : Files) (steps : List String) : Option Content :=
  match files.entries.lookup steps with
  | some content => some content
  | none =>
    if steps.all fun s => s == ".." || s == "/" then some .folder
    else if files.entries.any fun (inner, _) => steps.isPrefixOf inner then some .folder
    else none

/-- The steps that lead to a path's end without going up, each through a folder. -/
def walk (files : Files) (done : List String) : List String → Except Obstacle (List String)
  | [] => .ok done
  | step :: rest =>
    let next :=
      if step != ".." then done ++ [step]
      else if done.getLast?.all (· == "..") then done ++ [".."]
      else if done == ["/"] then done
      else done.dropLast
    if nameLimit < step.utf8ByteSize then .error .nameTooLong
    else if rest.isEmpty then .ok next
    else
      match files.content? next with
      | some .folder => files.walk next rest
      | some (.file _) => .error .notFolder
      | none => .error .missing

/-- A path must be shorter than this, in bytes. -/
def pathLimit : Nat := 4096

def locate (files : Files) (path : String) : Except Obstacle (List String) :=
  if path.toList.contains '\x00' then .error .nullCharacter
  else if pathLimit ≤ (Path.normalize path).utf8ByteSize then .error .nameTooLong
  else files.walk (if (Path.root path).isEmpty then [] else ["/"]) (Path.steps path)

def find (files : Files) (path : String) : Except Obstacle Content := do
  match files.content? (← files.locate path) with
  | some content => return content
  | none => throw .missing

/-- Whether anything lies at a path; a name that is too long cannot be asked for. -/
def has (files : Files) (path : String) : Except Obstacle Bool :=
  match files.find path with
  | .ok _ => .ok true
  | .error .nameTooLong => .error .nameTooLong
  | .error _ => .ok false

/-- The first of several paths at which anything lies, or the first that cannot be asked for. -/
def first? (files : Files) : List String → Except (String × Obstacle) (Option String)
  | [] => .ok none
  | path :: rest =>
    match files.has path with
    | .error obstacle => .error (path, obstacle)
    | .ok true => .ok (some path)
    | .ok false => files.first? rest

def read (files : Files) (path : String) : Except Obstacle (List UInt8) := do
  match ← files.find path with
  | .file bytes => return bytes
  | .folder => throw .isFolder

def put (steps : List String) (content : Content) (files : Files) : Files := ⟨(steps, content) :: files.entries⟩

/-- Makes a folder and those it lies in, unless they are there. -/
def makeFolder (path : String) (files : Files) : Except Obstacle Files := do
  if path.toList.contains '\x00' then throw .nullCharacter
  go files (if (Path.root path).isEmpty then [] else ["/"]) (Path.steps path)
where
  go (files : Files) (done : List String) : List String → Except Obstacle Files
    | [] => .ok files
    | step :: rest => do
      let next ← files.walk done [step]
      match files.content? next with
      | some .folder => go files next rest
      | some (.file _) => throw (if rest.isEmpty then .occupied else .notFolder)
      | none => go (files.put next .folder) next rest

/-- Opens a file for writing at its end: it is made if it is missing. -/
def openLog (path : String) (files : Files) : Except Obstacle Files := do
  let files ← files.makeFolder (Path.parent path)
  let steps ← files.locate path
  match files.content? steps with
  | some (.file _) => return files
  | some .folder => throw .isFolder
  | none => return files.put steps (.file [])

end Files
end Bystander
