import Bystander.Yaml.Trouble
import Bystander.Decimal.Numeral
/-! # Dates

A date is a day, or a moment of a day to the second or finer, with or without an offset from the standard time.
-/
namespace Bystander.Yaml

/-- The time of a day.  The offset is in seconds. -/
structure TimeOfDay where
  hour : Nat
  minute : Nat
  second : Nat
  micros : Nat
  offset : Option Int
deriving Repr, DecidableEq

/-- A day, or a moment of it. -/
structure Moment where
  year : Nat
  month : Nat
  day : Nat
  time : Option TimeOfDay
deriving Repr, DecidableEq

namespace Moment

/-- A number of at least and at most so many digits, and what follows. -/
def digits? (least most : Nat) (cs : List Char) : Option (Nat × List Char) :=
  let run := (cs.take most).takeWhile Char.isDigit
  if run.length < least then none else some (Decimal.natOfDigits run, cs.drop run.length)

def expect? (c : Char) : List Char → Option (List Char)
  | x :: rest => if x == c then some rest else none
  | [] => none

/-- A fraction of a second, cut to millionths, and what follows. -/
def micros (cs : List Char) : Nat × List Char :=
  match cs with
  | '.' :: rest =>
    let run := rest.takeWhile Char.isDigit
    let kept := run.take 6
    (Decimal.natOfDigits kept * Decimal.tenTo (6 - kept.length), rest.drop run.length)
  | _ => (0, cs)

def isPad (c : Char) : Bool := c == ' ' || c == '\t'

/-- An offset that takes up all that is left; none if nothing is left. -/
def offset? (cs : List Char) : Option (Option Int) := do
  if cs.isEmpty then return none
  match cs.dropWhile isPad with
  | ['Z'] => return some 0
  | sign :: rest =>
    if sign != '+' && sign != '-' then none
    let (hours, rest) ← digits? 1 2 rest
    let minutes ←
      match rest with
      | [] => some 0
      | ':' :: rest => (digits? 2 2 rest).bind fun (n, rest) => if rest.isEmpty then some n else none
      | _ => none
    let seconds : Int := 3600 * hours + 60 * minutes
    return some (if sign == '-' then -seconds else seconds)
  | [] => none

def time? (cs : List Char) : Option TimeOfDay := do
  let (hour, cs) ← digits? 1 2 cs
  let (minute, cs) ← digits? 2 2 (← expect? ':' cs)
  let (second, cs) ← digits? 2 2 (← expect? ':' cs)
  let (micros, cs) := micros cs
  return ⟨hour, minute, second, micros, ← offset? cs⟩

def read? (cs : List Char) : Option Moment := do
  let (year, cs) ← digits? 4 4 cs
  let (month, cs) ← digits? 1 2 (← expect? '-' cs)
  let (day, cs) ← digits? 1 2 (← expect? '-' cs)
  match cs with
  | [] => return ⟨year, month, day, none⟩
  | c :: rest =>
    if c == 'T' || c == 't' then return ⟨year, month, day, ← time? rest⟩
    else if isPad c then return ⟨year, month, day, ← time? (rest.dropWhile isPad)⟩
    else none

/-- Whether a text is a date without being told so: a day alone must have all its digits. -/
def isEvident (cs : List Char) : Bool :=
  match read? cs with
  | some m => m.time.isSome || cs.length == 10
  | none => false

def isLeap (year : Nat) : Bool := year % 4 == 0 && (year % 100 != 0 || year % 400 == 0)

def daysOf (year month : Nat) : Nat :=
  if month == 2 then (if isLeap year then 29 else 28)
  else if month == 4 || month == 6 || month == 9 || month == 11 then 30
  else 31

def flaw? (m : Moment) : Option BadValue :=
  let offset := (m.time.bind TimeOfDay.offset).getD 0
  if 86400 ≤ offset.natAbs then some (.offset offset)
  else if m.year == 0 then some (.year 0)
  else if m.month == 0 || 12 < m.month then some .month
  else if m.day == 0 || daysOf m.year m.month < m.day then some .day
  else
    match m.time with
    | none => none
    | some t =>
      if 24 ≤ t.hour then some .hour
      else if 60 ≤ t.minute then some .minute
      else if 60 ≤ t.second then some .second
      else none

def label (m : Moment) : String :=
  let day := [m.year, m.month, m.day].map toString
  match m.time with
  | none => "datetime.date(" ++ String.intercalate ", " day ++ ")"
  | some t =>
    let fine :=
      if t.micros != 0 then [t.second, t.micros] else if t.second != 0 then [t.second] else []
    let zone :=
      match t.offset with
      | none => []
      | some 0 => ["tzinfo=datetime.timezone.utc"]
      | some seconds => ["tzinfo=datetime.timezone(" ++ stretch seconds ++ ")"]
    "datetime.datetime("
      ++ String.intercalate ", " (day ++ ([t.hour, t.minute] ++ fine).map toString ++ zone) ++ ")"

end Moment
end Bystander.Yaml
