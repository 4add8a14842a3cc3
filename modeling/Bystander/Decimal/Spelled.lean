import Bystander.Decimal.Numeral
import Bystander.Text.Character
/-! # Numbers as people spell them

Blanks around a number do not count, digits may come from any script, and single underscores may stand between two
digits.
-/
namespace Bystander.Decimal

/-- Digits of any script as the ten common ones. -/
def commonDigits (cs : List Char) : List Char :=
  cs.map fun c => ((Text.digit? c).map fun d => Char.ofNat ('0'.toNat + d)).getD c

/-- The characters without underscores; none if one of these does not stand between two digits. -/
def joined? : Bool → List Char → Option (List Char)
  | _, [] => some []
  | afterDigit, '_' :: rest => if afterDigit && rest.head?.any Char.isDigit then joined? false rest else none
  | _, c :: rest => (joined? c.isDigit rest).map (c :: ·)

/-- The characters of a number without the liberties. -/
def spelled? (cs : List Char) : Option (List Char) :=
  joined? false (commonDigits (Text.trimmed Text.isBlankOrSeparator cs))

def spelledFloat? (cs : List Char) : Option Float := (spelled? cs).bind readFloat?

/-- The value of a digit in systems up to sixteen. -/
def digitValue? (c : Char) : Option Nat :=
  if c.isDigit then some (c.toNat - 48)
  else if 'a' ≤ c && c ≤ 'f' then some (c.toNat - 87)
  else if 'A' ≤ c && c ≤ 'F' then some (c.toNat - 55)
  else none

/-- The most digits of a decimal integer in a text. -/
def integerDigits : Nat := 4300

inductive Integer where
  | value (n : Int)
  | tooLong (digits : Nat)
  | malformed

/-- The digits behind the mark of a system: binary, octal or hexadecimal. -/
def withoutRadixMark (radix : Nat) : List Char → List Char
  | '0' :: x :: rest =>
    if (radix == 2 && (x == 'b' || x == 'B')) || (radix == 8 && (x == 'o' || x == 'O'))
      || (radix == 16 && (x == 'x' || x == 'X')) then rest else '0' :: x :: rest
  | cs => cs

/-- The integer that a text spells in a system; decimal ones may not be too long. -/
def spelledInteger (radix : Nat) (cs : List Char) : Integer :=
  match spelled? cs with
  | none => .malformed
  | some cs =>
    let (negative, unsigned) := splitSign cs
    let digits := withoutRadixMark radix unsigned
    let read := digits.foldl (fun acc c => do
      let n ← acc
      let d ← digitValue? c
      if d < radix then some (radix * n + d) else none) (some 0)
    match read with
    | none => .malformed
    | some n =>
      if digits.isEmpty then .malformed
      else if radix == 10 && integerDigits < digits.length then .tooLong digits.length
      else .value (if negative then -n else n)

end Bystander.Decimal
