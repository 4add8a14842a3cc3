import Bystander.Decimal.Power
/-! # The Mersenne twister

A generator of 32-bit words with a state of 624 words.  A seed is cut into 32-bit words, lowest first, which are stirred
into a fixed starting state; a fraction takes its 53 bits from two words.
-/
namespace Bystander.Random

/-- The words of the state and how many of them are used up. -/
structure Twister where
  words : Array UInt32
  used : Nat

namespace Twister

def size : Nat := 624
def shift : Nat := 397

def filled (seed : UInt32) : Array UInt32 :=
  (List.range (size - 1)).foldl (fun (words : Array UInt32) i =>
    let last := words.getD i 0
    words.push ((1812433253 : UInt32) * (last ^^^ (last >>> 30)) + UInt32.ofNat (i + 1))) #[seed]

def wordCount : Nat := 4294967296

/-- The 32-bit words of a natural, lowest first; zero has one word. -/
def seedWords (n : Nat) : List UInt32 :=
  if n < wordCount then [UInt32.ofNat n]
  else UInt32.ofNat (n % wordCount) :: seedWords (n / wordCount)
termination_by n
decreasing_by simp_all only [wordCount]; omega

/-- The position after `i`; past the end the last word is copied to the front and the walk goes on at one. -/
def wrap (words : Array UInt32) (i : Nat) : Array UInt32 × Nat :=
  if size ≤ i + 1 then (words.setIfInBounds 0 (words.getD (size - 1) 0), 1) else (words, i + 1)

/-- Stirs the seed's words into the state. -/
def stirSeed (key : Array UInt32) : Nat → Nat → Nat → Array UInt32 → Array UInt32 × Nat
  | 0, i, _, words => (words, i)
  | rounds + 1, i, j, words =>
    let last := words.getD (i - 1) 0
    let word := (words.getD i 0 ^^^ ((last ^^^ (last >>> 30)) * 1664525)) + key.getD j 0 + UInt32.ofNat j
    let (words, i) := wrap (words.setIfInBounds i word) i
    stirSeed key rounds i (if key.size ≤ j + 1 then 0 else j + 1) words

/-- Stirs the state once more, without the seed. -/
def stirState : Nat → Nat → Array UInt32 → Array UInt32
  | 0, _, words => words
  | rounds + 1, i, words =>
    let last := words.getD (i - 1) 0
    let word := (words.getD i 0 ^^^ ((last ^^^ (last >>> 30)) * 1566083941)) - UInt32.ofNat i
    let (words, i) := wrap (words.setIfInBounds i word) i
    stirState rounds i words

def ofSeed (seed : Int) : Twister :=
  let key := (seedWords seed.natAbs).toArray
  let (words, i) := stirSeed key (max size key.size) 1 0 (filled 19650218)
  { words := (stirState (size - 1) i words).setIfInBounds 0 0x80000000, used := size }

/-- One word of the next state, from two neighbours and the word a shift ahead. -/
def twist (high low ahead : UInt32) : UInt32 :=
  let y := (high &&& 0x80000000) ||| (low &&& 0x7fffffff)
  ahead ^^^ (y >>> 1) ^^^ (if y &&& 1 = 0 then 0 else 0x9908b0df)

def refill (words : Array UInt32) : Array UInt32 :=
  (List.range size).foldl (fun words i =>
    words.setIfInBounds i
      (twist (words.getD i 0) (words.getD ((i + 1) % size) 0) (words.getD ((i + shift) % size) 0))) words

def temper (y : UInt32) : UInt32 :=
  let y := y ^^^ (y >>> 11)
  let y := y ^^^ ((y <<< 7) &&& 0x9d2c5680)
  let y := y ^^^ ((y <<< 15) &&& 0xefc60000)
  y ^^^ (y >>> 18)

def next (g : Twister) : UInt32 × Twister :=
  let g := if size ≤ g.used then { words := refill g.words, used := 0 } else g
  (temper (g.words.getD g.used 0), { g with used := g.used + 1 })

/-- The next fraction, as a count of `2 ^ -53`. -/
def nextFraction (g : Twister) : Nat × Twister :=
  let (a, g) := g.next
  let (b, g) := g.next
  ((a >>> 5).toNat * Decimal.twoTo 26 + (b >>> 6).toNat, g)

def nextBits (count : Nat) (g : Twister) : Nat × Twister :=
  let (a, g) := g.next
  (a.toNat / Decimal.twoTo (32 - count), g)

end Twister
end Bystander.Random
