import Bystander.Decimal.Spelled
import Bystander.Text.Base64
import Bystander.Yaml.Kind
/-! # Values of scalars -/
namespace Bystander.Yaml

/-- What a text is read as, or why it cannot be read so. -/
abbrev Valued := Except Trouble Data

def bad {β : Type} (b : BadValue) : Except Trouble β := .error (.value b)

def integer (radix : Nat) (cs : List Char) : Except Trouble Int :=
  match Decimal.spelledInteger radix cs with
  | .value n => .ok n
  | .tooLong digits => bad (.length digits)
  | .malformed => bad (.integer (String.ofList cs) radix)

def real (cs : List Char) : Except Trouble Float :=
  match Decimal.spelledFloat? cs with
  | some x => .ok x
  | none => bad (.float (String.ofList cs))

/-- A text without underscores, split into its sign and the rest. -/
def signed (cs : List Char) : Except Trouble (Bool × List Char) := do
  let cs := cs.filter (· != '_')
  if cs.isEmpty then bad .empty
  return Decimal.splitSign cs

def truthValue (text : String) : Valued :=
  let word := String.ofList (text.toList.map Char.toLower)
  if word == "yes" || word == "true" || word == "on" then .ok (.bool true)
  else if word == "no" || word == "false" || word == "off" then .ok (.bool false)
  else bad (.truth word)

/-- An integer: binary, hexadecimal, octal behind a zero, in sixtieths, or decimal. -/
def integerValue (text : String) : Valued := do
  let (negative, cs) ← signed text.toList
  let n ←
    match cs with
    | ['0'] => .ok 0
    | '0' :: 'b' :: digits => integer 2 digits
    | '0' :: 'x' :: digits => integer 16 digits
    | '0' :: _ => integer 8 cs
    | [] => bad .empty
    | _ =>
      if cs.contains ':' then do
        let parts ← (Text.pieces ':' cs).mapM (integer 10)
        pure (parts.foldl (fun n part => 60 * n + part) 0)
      else integer 10 cs
  return .int (if negative then -n else n)

/-- The sum of parts that count sixty times as much from each to the next, beginning with the last. -/
def sixtieths (parts : List Float) : Float :=
  (parts.reverse.foldl (fun (sum, base) x => (sum + x * base, base * 60.0)) ((0.0 : Float), (1.0 : Float))).1

/-- A number: infinite, undefined, in sixtieths, or decimal. -/
def realValue (text : String) : Valued := do
  let (negative, cs) ← signed (text.toList.map Char.toLower)
  let s := String.ofList cs
  let x ←
    if s == ".inf" then pure (1.0 / 0.0 : Float)
    else if s == ".nan" then pure (0.0 / 0.0 : Float)
    else if cs.contains ':' then do pure (sixtieths (← (Text.pieces ':' cs).mapM real))
    else real cs
  return .float (if negative then -x else x)

def binaryValue (text : String) : Valued :=
  if text.toList.any fun c => 0x80 ≤ c.toNat then .error (.kind "letters for bytes")
  else
    match Text.base64? text.toList with
    | some bytes => .ok (.bytes bytes)
    | none => .error (.kind "whole bytes")

def momentValue (text : String) : Valued :=
  let cs := text.toList
  match Moment.read? (if cs.getLast? == some '\n' then cs.dropLast else cs) with
  | none => bad .date
  | some m =>
    match m.flaw? with
    | some flaw => bad flaw
    | none => .ok (.other m.label)

/-- The value of a text of a kind that has texts. -/
def textValue (kind : Kind) (text : String) : Valued :=
  match kind with
  | .null => .ok .null
  | .truth => truthValue text
  | .integer => integerValue text
  | .real => realValue text
  | .binary => binaryValue text
  | .moment => momentValue text
  | .text => .ok (.text text)
  | _ => .error (.kind "a known kind")

def Kind.hasText : Kind → Bool
  | .null | .truth | .integer | .real | .binary | .moment | .text => true
  | _ => false

def Kind.hasParts : Kind → Bool
  | .sequence | .mapping | .set | .ordered | .pairs => true
  | _ => false

end Bystander.Yaml
