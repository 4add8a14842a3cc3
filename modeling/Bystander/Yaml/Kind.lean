import Bystander.Yaml.Moment
/-! # Kinds of nodes

The kind of a node is told by its tag.  A plain scalar without a tag is of the kind that its text looks like: the first
version of the rules is followed, by which yes and no are truth values, numbers may have a leading zero for octal, a
letter for binary and hexadecimal, or sixtieths behind colons, and a date is no text.
-/
namespace Bystander.Yaml

inductive Kind where
  | null
  | truth
  | integer
  | real
  | binary
  | moment
  /-- A list of single entries whose keys are meant to differ. -/
  | ordered
  | pairs
  | set
  | text
  | sequence
  | mapping
  /-- The key whose value is a mapping to take entries from. -/
  | merge
  /-- The key whose value stands for its whole mapping. -/
  | standIn
  | unknown (tag : String)
deriving DecidableEq, Repr, Inhabited

namespace Kind

/-- The namespace of the tags that have a meaning of their own. -/
def common : String := "tag:yaml.org,2002:"

/-- The kinds and the names of their tags. -/
def names : List (String × Kind) :=
  [("null", .null), ("bool", .truth), ("int", .integer), ("float", .real), ("binary", .binary),
   ("timestamp", .moment), ("omap", .ordered), ("pairs", .pairs), ("set", .set), ("str", .text), ("seq", .sequence),
   ("map", .mapping), ("merge", .merge), ("value", .standIn)]

def ofTag (tag : String) : Kind :=
  match names.find? fun (name, _) => common ++ name == tag with
  | some (_, kind) => kind
  | none => .unknown tag

/-! ## What a plain scalar looks like -/

def truthWords : List String :=
  ["yes", "Yes", "YES", "no", "No", "NO", "true", "True", "TRUE", "false", "False", "FALSE", "on", "On", "ON",
   "off", "Off", "OFF"]

def nullWords : List String := ["", "~", "null", "Null", "NULL"]

def infinityWords : List String := [".inf", ".Inf", ".INF"]

def undefinedWords : List String := [".nan", ".NaN", ".NAN"]

/-- Digits and underscores of a system. -/
def isFiller (digit : Char → Bool) (c : Char) : Bool := c == '_' || digit c

/-- Nothing, or an exponent with its sign. -/
def isExponent : List Char → Bool
  | [] => true
  | e :: sign :: digits =>
    (e == 'e' || e == 'E') && (sign == '+' || sign == '-') && !digits.isEmpty && digits.all Char.isDigit
  | _ => false

/-- The end of a number behind its point. -/
def isFraction (exponent : Bool) (cs : List Char) : Bool :=
  let rest := cs.dropWhile (isFiller Char.isDigit)
  if exponent then isExponent rest else rest.isEmpty

/-- What is left behind sixtieths, each behind a colon and of one or two digits; none if there are none. -/
def afterSixtieths? : Nat → List Char → Option (List Char)
  | 0, _ => none
  | fuel + 1, ':' :: cs =>
    let run := (cs.take 2).takeWhile Char.isDigit
    let rest := cs.drop run.length
    if run.isEmpty || (run.length == 2 && run.head?.any ('5' < ·)) then none
    else if rest.head? == some ':' then afterSixtieths? fuel rest
    else some rest
  | _, _ => none

def isReal (cs : List Char) : Bool :=
  match cs.dropWhile (isFiller Char.isDigit) with
  | '.' :: rest => cs.head?.any Char.isDigit && isFraction true rest
  | rest =>
    match afterSixtieths? cs.length rest with
    | some ('.' :: rest) => cs.head?.any Char.isDigit && isFraction false rest
    | _ => false

def isInteger (cs : List Char) : Bool :=
  match cs with
  | ['0'] => true
  | '0' :: 'b' :: digits => !digits.isEmpty && digits.all (isFiller fun c => c == '0' || c == '1')
  | '0' :: 'x' :: digits =>
    !digits.isEmpty && digits.all (isFiller fun c => c.isDigit || ('a' ≤ c && c ≤ 'f') || ('A' ≤ c && c ≤ 'F'))
  | '0' :: digits => digits.all (isFiller fun c => '0' ≤ c && c ≤ '7')
  | c :: _ =>
    c.isDigit &&
      match cs.dropWhile (isFiller Char.isDigit) with
      | [] => true
      | rest => afterSixtieths? cs.length rest == some []
  | [] => false

def ofPlain (cs : List Char) : Kind :=
  let s := String.ofList cs
  let unsigned := (Decimal.splitSign cs).2
  if truthWords.contains s then .truth
  else if isReal unsigned || infinityWords.contains (String.ofList unsigned) || undefinedWords.contains s
    || (cs.head? == some '.' && (cs.drop 1).head?.any Char.isDigit && isFraction true (cs.drop 1)) then .real
  else if isInteger unsigned then .integer
  else if s == "<<" then .merge
  else if nullWords.contains s then .null
  else if Moment.isEvident cs then .moment
  else if s == "=" then .standIn
  else .text

/-- The kind of a text without a tag; a line break at its end does not count. -/
def ofText (cs : List Char) : Kind :=
  if cs.getLast? == some '\n' then (if cs.length == 1 then .text else ofPlain cs.dropLast) else ofPlain cs

end Kind
end Bystander.Yaml
