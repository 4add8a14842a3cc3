import Bystander.Data.Basic
import Bystander.Decimal.Shortest
import Bystander.Text.Quoted
/-! # Data as JSON text

One line, entries in their order.  A number that is no number is written by its name, as is usual though not standard.
-/
namespace Bystander.Data

def jsonChar (c : Char) : String :=
  if c == '"' then "\\\"" else if c == '\\' then "\\\\"
  else if c == '\n' then "\\n" else if c == '\r' then "\\r" else if c == '\t' then "\\t"
  else if c.toNat < 0x20 then "\\u" ++ Text.hex 4 c.toNat else c.toString

def jsonText (s : String) : String := "\"" ++ String.join (s.toList.map jsonChar) ++ "\""

def jsonFloat (x : Float) : String :=
  if x.isNaN then "NaN" else if x.isInf then (if x < 0.0 then "-Infinity" else "Infinity") else Decimal.shortest x

mutual

/-- The JSON text of data; a key that is no text is written as one. -/
def json : Data → String
  | .null => "null"
  | .bool b => if b then "true" else "false"
  | .int n => toString n
  | .float x => jsonFloat x
  | .text s => jsonText s
  | .bytes bs => jsonText (String.join (bs.map fun b => Text.hex 2 b.toNat))
  | .other label => jsonText label
  | .list items => "[" ++ String.intercalate ", " (jsonItems items) ++ "]"
  | .map entries => "\x7b" ++ String.intercalate ", " (jsonEntries entries) ++ "\x7d"

def jsonItems : List Data → List String
  | [] => []
  | d :: rest => d.json :: jsonItems rest

def jsonEntries : List (Data × Data) → List String
  | [] => []
  | (k, v) :: rest =>
    let key :=
      match k with
      | .text s => jsonText s
      | k => jsonText k.json
    (key ++ ": " ++ v.json) :: jsonEntries rest

end

end Bystander.Data
