import Bystander.Decimal.Binary
/-! # Reading decimal numerals

A numeral is an optional sign, digits with at most one point among or around them, and an optional exponent.  It is
kept exact until it is turned into the nearest double.
-/
namespace Bystander.Decimal

/-- The exact number `± digits · 10 ^ exponent`. -/
structure Numeral where
  negative : Bool
  digits : Nat
  exponent : Int
deriving Repr, DecidableEq

def natOfDigits (cs : List Char) : Nat := cs.foldl (fun n c => 10 * n + (c.toNat - '0'.toNat)) 0

def splitSign : List Char → Bool × List Char
  | '-' :: rest => (true, rest)
  | '+' :: rest => (false, rest)
  | cs => (false, cs)

/-- An exponent behind its mark, with nothing behind it; no mark means zero. -/
def readExponent : List Char → Option Int
  | [] => some 0
  | c :: rest =>
    if c == 'e' || c == 'E' then
      let (negative, digits) := splitSign rest
      if digits.isEmpty || !digits.all Char.isDigit then none
      else some (if negative then -natOfDigits digits else natOfDigits digits)
    else none

/-- An unsigned numeral that takes up all characters. -/
def readUnsigned (negative : Bool) (cs : List Char) : Option Numeral :=
  let whole := cs.takeWhile Char.isDigit
  let rest := cs.dropWhile Char.isDigit
  let (part, rest) :=
    match rest with
    | '.' :: more => (more.takeWhile Char.isDigit, more.dropWhile Char.isDigit)
    | _ => ([], rest)
  if whole.isEmpty && part.isEmpty then none
  else (readExponent rest).map fun e => ⟨negative, natOfDigits (whole ++ part), e - part.length⟩

def Numeral.read? (cs : List Char) : Option Numeral :=
  let (negative, rest) := splitSign cs
  readUnsigned negative rest

/-- The nearest double; beyond the range of doubles it is infinite, far below it is zero. -/
def Numeral.toFloat (n : Numeral) : Float :=
  let size := (digitCount n.digits : Int) + n.exponent
  let x : Float :=
    if n.digits = 0 || size < -400 then 0.0
    else if 400 < size then 1.0 / 0.0
    else if n.exponent < 0 then Float.ofScientific n.digits true (-n.exponent).toNat
    else Float.ofScientific n.digits false n.exponent.toNat
  if n.negative then -x else x

/-- The words for numbers without digits, in letters of any case, after an optional sign. -/
def special? (cs : List Char) : Option Float :=
  let (negative, rest) := splitSign cs
  let word := String.ofList (rest.map Char.toLower)
  let x? : Option Float :=
    if word == "inf" || word == "infinity" then some (1.0 / 0.0) else if word == "nan" then some (0.0 / 0.0) else none
  x?.map fun x => if negative then -x else x

/-- The double that all characters stand for. -/
def readFloat? (cs : List Char) : Option Float :=
  match special? cs with
  | some x => some x
  | none => (Numeral.read? cs).map Numeral.toFloat

end Bystander.Decimal
