import Bystander.Bot.Simulation
import Bystander.Catalog
import Bystander.Text.Character
/-! # What is printed

The output of a command is made of rows: lines of text, lines of a table, and trees.
-/
namespace Bystander.CommandLine

inductive Row where
  | text (line : String)
  | cells (texts : List String)
  | tree (data : Data)

namespace Row

def linesOf (s : String) : List String :=
  (s.splitOn "\n").map fun line => String.ofList (Text.trimmed Text.isBlank line.toList)

def ofText (s : String) : List Row := ((linesOf s).filter fun line => !line.isEmpty).map .text

/-- The rows of a line of a table; a cell of several lines takes as many rows. -/
def ofCells (cells : List String) : List Row :=
  let columns := cells.map linesOf
  let height := columns.foldl (fun n lines => max n lines.length) 1
  (List.range height).map fun i => .cells (columns.map fun lines => lines[i]?.getD "")

def table (title : String) (lines : List (List String)) : List Row := ofText title ++ lines.flatMap ofCells

def sounds (root : String) : List Row :=
  table "Sound library"
    (["#", "URL"] :: (Catalog.soundUrls root).mapIdx fun i url => [toString i, url])

def appearance (a : Appearance) : List Row :=
  ofText ("face:      " ++ a.models.face) ++ ofText ("skeleton:  " ++ a.models.skeleton)
    ++ ofText ("billboard: " ++ a.models.billboard)

def summary (s : Summary Float) : List Row :=
  let state := s.brain.state
  let p := state.position
  let coordinates := [p.x, p.y, p.z].map (Decimal.fixed 3)
  table ("Bot #" ++ (s.number.map toString).getD "")
    [["Field", "Value"],
     ["virtual time", Decimal.fixed 2 s.stage.scheduler.now ++ "s"],
     ["frames", toString s.brain.frames],
     ["position", "(" ++ String.intercalate ", " coordinates ++ ")"],
     ["head pitch", Decimal.fixed 2 s.headPitch],
     ["walk / head / wave", state.walk.name ++ " / " ++ state.head.name ++ " / " ++ state.wave.name],
     ["walks", toString s.brain.walks],
     ["waves", toString state.waveCount],
     ["sounds", toString s.brain.sounds],
     ["voxel queries", toString s.brain.queries]]

def failure (json : Bool) (r : Report) : List Row :=
  if json then [.tree r.response.toData] else ofText ("Error: " ++ r.message)

end Row
end Bystander.CommandLine
