import Bystander.Decimal.Fixed
/-! # The shortest text of a double

A double is written with the fewest significant digits that read back as the same double; of several such decimals the
nearest is taken, and of two equally near the one with an even last digit.  The search tries one digit, two digits and
so on: on each decimal grid only the two neighbours of the exact value can qualify.
-/
namespace Bystander.Decimal

/-- The interval of numbers that round to a double, in halves and quarters of its last place:
`low / scale ≤ value ≤ high / scale`, the ends included exactly for an even mantissa. -/
structure Basin where
  low : Nat
  value : Nat
  high : Nat
  scale : Nat
  closed : Bool

/-- Below a power of two the doubles lie twice as dense, so the lower half-gap is a quarter there. -/
def Binary.basin (b : Binary) : Basin :=
  let unit := twoTo b.exponent.toNat
  let narrow := b.mantissa = twoTo 52 && -1074 < b.exponent
  { low := (4 * b.mantissa - if narrow then 1 else 2) * unit
    value := 4 * b.mantissa * unit
    high := (4 * b.mantissa + 2) * unit
    scale := 4 * b.denominator
    closed := b.mantissa % 2 == 0 }

/-- Whether `digits · 10 ^ k` reads back as the double. -/
def Basin.holds (s : Basin) (digits : Nat) (k : Int) : Bool :=
  let x := digits * tenTo k.toNat * s.scale
  let down := tenTo (-k).toNat
  if s.closed then s.low * down ≤ x && x ≤ s.high * down else s.low * down < x && x < s.high * down

/-- The two neighbours of the value among the multiples of `10 ^ k`, the nearer one first. -/
def Basin.neighbours (s : Basin) (k : Int) : Nat × Nat :=
  let (num, den) := scaled s.value s.scale k
  let below := num / den
  let near := roundDiv num den
  (near, if near = below then below + 1 else below)

/-- The digits and the exponent of their last place, searched from `count` digits on. -/
def Basin.search (s : Basin) (e : Int) : Nat → Nat → Nat × Int
  | 0, count => ((s.neighbours (e + 1 - count)).1, e + 1 - count)
  | fuel + 1, count =>
    let k := e + 1 - count
    let (first, second) := s.neighbours k
    if s.holds first k then (first, k)
    else if s.holds second k then (second, k)
    else s.search e fuel (count + 1)

/-- Shortest digits of a positive double with the exponent of the last one; seventeen digits always suffice. -/
def Binary.shortest (b : Binary) : Nat × Int :=
  b.basin.search (decimalExponent b.numerator b.denominator) 16 1

structure Layout where
  /-- Positional from this exponent of the first digit on. -/
  least : Int
  /-- Positional below this exponent of the first digit. -/
  bound : Int

/-- Positional from `0.0001` to below `10 ^ 16`, always with a digit after the point; else with an exponent. -/
def plainLayout : Layout := ⟨-4, 16⟩

/-- `digits · 10 ^ k` in a layout; trailing zeros of `digits` count. -/
def Layout.render (l : Layout) (digits : Nat) (k : Int) : String :=
  let text := toString digits
  let lead := k + text.length - 1
  if l.least ≤ lead && lead < l.bound then
    if 0 ≤ k then text ++ String.ofList (List.replicate k.toNat '0') ++ ".0"
    else pointed (-k).toNat digits
  else
    let chars := text.toList
    String.ofList (chars.take 1) ++ (if chars.length ≤ 1 then "" else "." ++ String.ofList (chars.drop 1))
      ++ exponentText lead

def stripZeros : Nat → Nat → Int → Nat × Int
  | 0, digits, k => (digits, k)
  | fuel + 1, digits, k =>
    if digits % 10 = 0 && digits ≠ 0 then stripZeros fuel (digits / 10) (k + 1) else (digits, k)

def shortest (x : Float) : String :=
  match Kind.ofFloat x with
  | .undefined => textOfUndefined
  | .infinite negative => textOfInfinite negative
  | .finite b =>
    let (digits, k) := if b.mantissa = 0 then (0, 0) else b.shortest
    let (digits, k) := stripZeros 20 digits k
    (if b.negative then "-" else "") ++ plainLayout.render digits k

end Bystander.Decimal
