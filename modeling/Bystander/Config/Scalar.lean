import Bystander.Config.Issue
import Bystander.Decimal.Spelled
import Bystander.Decimal.Shortest
import Bystander.Text.Character
/-! # Single settings read from data

Settings are read leniently: a truth value counts as a number, a text as the number that it spells, a number without a
fraction as an integer.  What cannot be read tells why: it is of the wrong type, or its text does not spell a value.
-/
namespace Bystander.Data

/-- The text of bytes, where bytes are given for a text. -/
def bytesText? (bytes : List UInt8) : Option String := String.fromUTF8? ⟨bytes.toArray⟩

/-- The text in a text or in bytes. -/
def spelled? : Data → Option (Option String)
  | .text s => some (some s)
  | .bytes bs => some (bytesText? bs)
  | _ => none

/-! ## Underscores in numerals -/

/-- Whether two underscores stand side by side. -/
def hasDoubleUnderscore : List Char → Bool
  | '_' :: '_' :: _ => true
  | _ :: rest => hasDoubleUnderscore rest
  | [] => false

/-- The characters without their underscores, if these stand singly and inside. -/
def withoutUnderscores? (cs : List Char) : Option (List Char) :=
  if cs.head? == some '_' || cs.getLast? == some '_' || !cs.contains '_' || hasDoubleUnderscore cs then none
  else some (cs.filter (· != '_'))

/-! ## Numbers -/

/-- The double that a text spells, with blanks around it or underscores inside. -/
def floatOfText? (s : String) : Option Float :=
  match Decimal.readFloat? (Text.trimmed Text.isBlank s.toList) with
  | some x => some x
  | none => (withoutUnderscores? s.toList).bind Decimal.readFloat?

def floatOfInt (n : Int) : Float :=
  let x := Decimal.Numeral.toFloat ⟨false, n.natAbs, 0⟩
  if n < 0 then -x else x

def toFloat : Data → Checked Float
  | .float x => .accepted x
  | .int n => if (floatOfInt n).isFinite then .accepted (floatOfInt n) else .refuse .floatType
  | .bool b => .accepted (if b then 1.0 else 0.0)
  | d =>
    match d.spelled? with
    | some s =>
      match s.bind floatOfText? with
      | some x => .accepted x
      | none => .refuse .floatParsing
    | none => .refuse .floatType

/-- The outcome of reading an integer from a text. -/
inductive IntReading where
  | value (n : Int)
  | tooLong
  | malformed

/-- An integer without a plus sign and without zeros in front. -/
def plainInt (cs : List Char) : IntReading :=
  let (negative, digits) :=
    match cs with
    | '-' :: rest => (true, rest)
    | _ => (false, cs)
  if digits.isEmpty || !digits.all Char.isDigit || (1 < digits.length && digits.head? == some '0') then .malformed
  else if Decimal.integerDigits < digits.length then .tooLong
  else .value (if negative then -Decimal.natOfDigits digits else Decimal.natOfDigits digits)

/-- The zeros in front taken away, with underscores among them; a zero before a point or at the end stays. -/
def dropZeros : Char → List Char → Option (List Char)
  | last, [] => some [last]
  | last, c :: rest =>
    if c == '0' || c == '_' then dropZeros c rest
    else if c.isDigit then some (c :: rest)
    else if c == '.' then some (last :: c :: rest)
    else none

def stripLeadingZeros : List Char → Option (List Char)
  | [] => none
  | '0' :: rest => dropZeros '0' rest
  | c :: rest => if c.isDigit || c == '-' then some (c :: rest) else none

/-- What stands before a point that only zeros follow. -/
def stripZeroFraction (cs : List Char) : List Char :=
  match cs.dropWhile (· != '.') with
  | '.' :: zeros => if zeros.all (· == '0') then cs.takeWhile (· != '.') else cs
  | _ => cs

/-- The integer of a text with the liberties taken out; none if it has no such liberties. -/
def cleanedInt? (cs : List Char) : Option (List Char) := do
  let inner := Text.trimmed Text.isBlank cs
  let unsigned ←
    match inner with
    | '+' :: rest => if rest.head? == some '-' then none else some rest
    | _ => some inner
  let stripped := stripZeroFraction (← stripLeadingZeros unsigned)
  match withoutUnderscores? stripped with
  | some plain => return plain
  | none => if stripped.length == cs.length then none else return stripped

/-- The integer that a text spells: with blanks around it, a plus sign, zeros in front, underscores inside, or a
fraction of zeros. -/
def intOfText (s : String) : IntReading :=
  match plainInt s.toList with
  | .malformed =>
    match cleanedInt? s.toList with
    | some cs => plainInt cs
    | none => .malformed
  | reading => reading

/-- The least integer above all that fit in 64 bits with their sign. -/
def wordLimit : Int := 9223372036854775808

def fitsWord (n : Int) : Bool := -wordLimit ≤ n && n < wordLimit

def intOfFloat (x : Float) : Checked Int :=
  match Decimal.Kind.ofFloat x with
  | .finite b =>
    let n := b.floor
    if b.numerator % b.denominator ≠ 0 || n ≤ -wordLimit || wordLimit ≤ n then .refuse .intFraction else .accepted n
  | _ => .refuse .notFinite

def toInt : Data → Checked Int
  | .int n => .accepted n
  | .bool b => .accepted (if b then 1 else 0)
  | .float x => intOfFloat x
  | d =>
    match d.spelled? with
    | some s =>
      match (s.map intOfText).getD .malformed with
      | .value n => .accepted n
      | .tooLong => .refuse .intParsingSize
      | .malformed => .refuse .intParsing
    | none => .refuse .intType

/-! ## Truth values -/

def trueWords : List String := ["1", "true", "t", "yes", "y", "on"]
def falseWords : List String := ["0", "false", "f", "no", "n", "off"]

/-- The truth value of a word in letters of any case. -/
def boolOfText? (s : String) : Option Bool :=
  let word := String.ofList (s.toList.map Char.toLower)
  if trueWords.contains word then some true else if falseWords.contains word then some false else none

def boolOfInt (n : Int) : Checked Bool :=
  if n = 0 then .accepted false else if n = 1 then .accepted true else .refuse .boolParsing

def toBool : Data → Checked Bool
  | .bool b => .accepted b
  | .int n => if fitsWord n then boolOfInt n else .refuse .boolType
  | .float x =>
    match intOfFloat x with
    | .accepted n => boolOfInt n
    | .rejected _ => .refuse .boolType
  | d =>
    match d.spelled? with
    | some s =>
      match s.bind boolOfText? with
      | some b => .accepted b
      | none => .refuse .boolParsing
    | none => .refuse .boolType

/-! ## Texts and what may be absent -/

def toText : Data → Checked String
  | .text s => .accepted s
  | .bytes bs =>
    match bytesText? bs with
    | some s => .accepted s
    | none => .refuse .textEncoding
  | _ => .refuse .textType

def toOption {β : Type} (read : Data → Checked β) : Data → Checked (Option β)
  | .null => .accepted none
  | d => (read d).map some

end Bystander.Data
