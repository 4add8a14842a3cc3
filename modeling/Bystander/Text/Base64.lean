/-! # Bytes in sixty-four letters

Characters that are none of the letters are skipped.  The text ends at the padding that fills up four letters; without
padding its letters must come in fours.
-/
namespace Bystander.Text

/-- The six bits of a letter. -/
def sixBits? (c : Char) : Option Nat :=
  if 'A' ≤ c && c ≤ 'Z' then some (c.toNat - 65)
  else if 'a' ≤ c && c ≤ 'z' then some (c.toNat - 71)
  else if c.isDigit then some (c.toNat + 4)
  else if c == '+' then some 62
  else if c == '/' then some 63
  else none

/-- The bytes from here on.  `filled` letters of a group of four were read, `left` holds their last bits, and `pads`
marks of padding came behind them. -/
def base64From (filled left pads : Nat) : List Char → Option (List UInt8)
  | [] => if filled == 0 then some [] else none
  | c :: rest =>
    if c == '=' then
      if 2 ≤ filled then (if 4 ≤ filled + pads + 1 then some [] else base64From filled left (pads + 1) rest)
      else base64From filled left pads rest
    else
      match sixBits? c with
      | none => base64From filled left pads rest
      | some v =>
        match filled with
        | 0 => base64From 1 v 0 rest
        | 1 => (base64From 2 (v % 16) 0 rest).map (UInt8.ofNat (left * 4 + v / 16) :: ·)
        | 2 => (base64From 3 (v % 4) 0 rest).map (UInt8.ofNat (left * 16 + v / 4) :: ·)
        | _ => (base64From 0 0 0 rest).map (UInt8.ofNat (left * 64 + v) :: ·)

def base64? (cs : List Char) : Option (List UInt8) := base64From 0 0 0 cs

end Bystander.Text
