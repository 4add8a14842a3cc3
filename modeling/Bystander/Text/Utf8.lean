import Bystander.Decimal.Power
import Bystander.Text.Quoted
/-! # Text from bytes

A character takes one to four bytes; the first tells how many.  The first bytes that form no character are told with
their place.
-/
namespace Bystander.Text

inductive FlawKind where
  /-- No character begins so. -/
  | start
  /-- The character does not go on so. -/
  | continuation
  | truncated
deriving DecidableEq, Repr

/-- The first bytes that form no character: their place, and how many they are. -/
structure Flaw where
  kind : FlawKind
  position : Nat
  first : UInt8
  width : Nat
deriving DecidableEq, Repr

def FlawKind.message : FlawKind → String
  | .start => "invalid start byte"
  | .continuation => "invalid continuation byte"
  | .truncated => "unexpected end of data"

def Flaw.message (f : Flaw) : String :=
  let place :=
    if f.width ≤ 1 then "byte 0x" ++ hex 2 f.first.toNat ++ " in position " ++ toString f.position
    else "bytes in position " ++ toString f.position ++ "-" ++ toString (f.position + f.width - 1)
  "'utf-8' codec can't decode " ++ place ++ ": " ++ f.kind.message

/-- How many bytes a character takes, by its first. -/
def byteCount? (first : Nat) : Option Nat :=
  if first < 0x80 then some 1
  else if 0xC2 ≤ first && first < 0xE0 then some 2
  else if 0xE0 ≤ first && first < 0xF0 then some 3
  else if 0xF0 ≤ first && first < 0xF5 then some 4
  else none

def isContinuation (b : Nat) : Bool := 0x80 ≤ b && b < 0xC0

/-- Whether a second byte fits to the first: no character is written longer than it must be, and none is beyond the
last or in the gap. -/
def fitsSecond (first second : Nat) : Bool :=
  isContinuation second && (first != 0xE0 || 0xA0 ≤ second) && (first != 0xED || second < 0xA0)
    && (first != 0xF0 || 0x90 ≤ second) && (first != 0xF4 || second < 0x90)

/-- The bytes behind the first that fit, of those that belong to the character. -/
def fittingTail (first : Nat) : List Nat → List Nat
  | [] => []
  | second :: rest => if fitsSecond first second then second :: rest.takeWhile isContinuation else []

def codePoint (first : Nat) (tail : List Nat) : Nat :=
  let lead := if tail.isEmpty then first else first % Decimal.twoTo (6 - tail.length)
  tail.foldl (fun n b => 64 * n + b % 64) lead

/-- The characters of bytes that begin at a place. -/
def decodeFrom : Nat → Nat → List UInt8 → Except Flaw (List Char)
  | _, _, [] => .ok []
  | 0, position, first :: _ => .error ⟨.truncated, position, first, 1⟩
  | fuel + 1, position, first :: rest =>
    match byteCount? first.toNat with
    | none => .error ⟨.start, position, first, 1⟩
    | some count =>
      let given := (rest.take (count - 1)).map UInt8.toNat
      let tail := fittingTail first.toNat given
      if tail.length + 1 = count then
        (decodeFrom fuel (position + count) (rest.drop (count - 1))).map (Char.ofNat (codePoint first.toNat tail) :: ·)
      else
        .error ⟨if given.length = tail.length then .truncated else .continuation, position, first, tail.length + 1⟩

def decode (bytes : List UInt8) : Except Flaw (List Char) := decodeFrom bytes.length 0 bytes

/-- A flaw as a reader in pieces tells it: what the end cuts off is a piece of its own. -/
def Flaw.inPieces (f : Flaw) : Flaw := if f.kind = .truncated then { f with position := 0 } else f

/-- A text with its line breaks in the plain form. -/
def plainBreaks : List Char → List Char
  | '\r' :: '\n' :: rest => '\n' :: plainBreaks rest
  | '\r' :: rest => '\n' :: plainBreaks rest
  | c :: rest => c :: plainBreaks rest
  | [] => []

end Bystander.Text
