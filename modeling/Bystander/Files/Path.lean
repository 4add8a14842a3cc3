import Bystander.Text.Character
/-! # Paths in their plain form

A path is written without empty steps and without steps that stay where they are; steps up are kept.  Exactly two
slashes in front are kept as two, any other number as one.
-/
namespace Bystander.Path

/-- The steps of a path that lead somewhere. -/
def steps (path : String) : List String :=
  ((Text.pieces '/' path.toList).filter fun p => !p.isEmpty && p ≠ ['.']).map String.ofList

def root (path : String) : String :=
  match (path.toList.takeWhile (· == '/')).length with
  | 0 => ""
  | 2 => "//"
  | _ => "/"

/-- The plain form; a path without steps is the place itself. -/
def normalize (path : String) : String :=
  let text := root path ++ String.intercalate "/" (steps path)
  if text.isEmpty then "." else text

def parent (path : String) : String :=
  normalize (root path ++ String.intercalate "/" (steps path).dropLast)

/-- A path under a folder; an absolute path stays what it is. -/
def join (folder path : String) : String :=
  if path.startsWith "/" then normalize path else normalize (folder ++ "/" ++ path)

end Bystander.Path
