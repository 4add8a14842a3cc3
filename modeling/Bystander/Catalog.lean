import Bystander.Fault
import Bystander.Host.Devices
/-! # The asset catalog: looks and voices

A bot's number, from 1 to 100, picks its looks.  The first twenty bots have a face of their own on one common body; the
others have a body of their own and share one of four faces.  Every bot has a picture of its own.  All bots speak from
one library of clips.
-/
namespace Bystander

structure Appearance where
  number : Int
  models : Models
deriving Repr, DecidableEq

variable {α : Type}

namespace Catalog

def firstNumber : Int := 1
def lastNumber : Int := 100

/-- Up to this number a bot has a face of its own. -/
def lastOwnFace : Int := 20

def commonBody : String := "defaultAvatar_body"

/-- The shared faces, each with the last number that has it. -/
def sharedFaces : List (Int × String) := [(40, "superhero"), (60, "amber"), (80, "ron"), (100, "angie")]

def ownModel (number : Int) : String := "bot" ++ toString number

/-- The names of the face and the body for a number. -/
def faceAndBody (number : Int) : Except (Fault α) (String × String) :=
  if number < firstNumber || lastNumber < number then .error (.botNumber number)
  else if number ≤ lastOwnFace then .ok (ownModel number, commonBody)
  else
    match sharedFaces.find? fun f => number ≤ f.1 with
    | some (_, face) => .ok (face, ownModel number)
    | none => .error (.botNumber number)

def trimRoot (root : String) : String :=
  String.ofList (root.toList.reverse.dropWhile (· == '/')).reverse

def appearance (number : Int) (root : String) : Except (Fault α) Appearance := do
  let (face, body) ← faceAndBody number
  let meshes := trimRoot root ++ "/meshes/"
  return ⟨number, {
    face := meshes ++ face ++ ".fst"
    skeleton := meshes ++ body ++ ".fst"
    billboard := meshes ++ "billboards/" ++ ownModel number ++ ".png" }⟩

def soundFolder : String := "sounds/Cocktail+Party+Snippets/Raws"

def soundNames : List String :=
  ["AB1", "Anchorman2", "B1", "B1", "Bale1", "Bandcamp", "Big1", "Big2", "Brian1", "Buster1", "CES1", "CES2", "CES3",
   "CES4", "Carrie1", "Carrie3", "Charlotte1", "EN1", "EN2", "EN3", "Eugene1", "Francesco1", "Italian1", "Japanese1",
   "Leigh1", "Lucille1", "Lucille2", "MeanGirls", "Murray2", "Nigel1", "PennyLane", "Pitt1", "Ricardo", "SN", "Sake1",
   "Samantha1", "Samantha2", "Spicoli1", "Supernatural", "Swearengen1", "TheDude", "Tony", "Triumph1", "Uma1",
   "Walken1", "Walken2", "Z1", "Z2"]

def soundUrls (root : String) : List String :=
  soundNames.map fun name => trimRoot root ++ "/" ++ soundFolder ++ "/" ++ name ++ ".raw"

end Catalog
end Bystander
