import Bystander.Random.Twister
import Bystander.Scalar.Partial
/-! # Where a bot's chances come from

A source gives fractions.  A scripted one gives the draws that it was told and then one fallback for ever; a seeded one
takes them from a generator.  The count of fractions taken is part of the source, so that it can be accounted for.
-/
namespace Bystander

/-- What the next fractions are taken from. -/
inductive Supply (α : Type) where
  | scripted (pending : List α) (fallback : α)
  | seeded (generator : Random.Twister)

structure Source (α : Type) where
  supply : Supply α
  taken : Nat

namespace Source

variable {α : Type} [Scalar α]

def scripted (draws : List α) (fallback : α) : Source α := ⟨.scripted draws fallback, 0⟩
def seeded (seed : Int) : Source α := ⟨.seeded (.ofSeed seed), 0⟩

/-- Two to the power 53: fractions are multiples of its inverse. -/
def grain : Nat := Decimal.twoTo 53

def draw (s : Source α) : α × Source α :=
  match s.supply with
  | .scripted [] fallback => (fallback, ⟨.scripted [] fallback, s.taken + 1⟩)
  | .scripted (r :: pending) fallback => (r, ⟨.scripted pending fallback, s.taken + 1⟩)
  | .seeded g =>
    let (n, g) := g.nextFraction
    (Scalar.ofNat n / Scalar.ofNat grain, ⟨.seeded g, s.taken + 1⟩)

def uniform (low high : α) (s : Source α) : α × Source α :=
  let (r, s) := s.draw
  (Scalar.between low high r, s)

def push (draws : List α) (s : Source α) : Source α :=
  match s.supply with
  | .scripted pending fallback => { s with supply := .scripted (pending ++ draws) fallback }
  | .seeded _ => s

/-- The bound below which a fraction picks each of `n` numbers equally often. -/
def fairBound (n : Nat) : α := Scalar.ofNat (grain - grain % n) / Scalar.ofNat grain

/-- The number below `n` that a fraction under the fair bound picks. -/
def pick (n : Nat) (r : α) : Except (Fault α) Nat := do
  let cell ← Scalar.integral (r * Scalar.ofNat grain) Scalar.floor
  return (cell % n).toNat

/-- A number below `n` from scripted draws: those at or above the fair bound are passed over. -/
def belowScripted (n : Nat) (fallback : α) : List α → Nat → Except (Fault α) Nat × Source α
  | [], taken =>
    let s := ⟨.scripted [] fallback, taken + 1⟩
    if fairBound n ≤ fallback then (.error .endlessDraws, s) else (pick n fallback, s)
  | r :: pending, taken =>
    if fairBound n ≤ r then belowScripted n fallback pending (taken + 1)
    else (pick n r, ⟨.scripted pending fallback, taken + 1⟩)

/-- A number below `n` from the top bits of words: words that give `n` or more are passed over.  More than
half of all words are taken, so a thousand words that are all passed over, after which it gives zero, do not occur. -/
def belowSeeded (n : Nat) : Nat → Random.Twister → Nat × Random.Twister
  | 0, g => (0, g)
  | tries + 1, g =>
    let (k, g) := g.nextBits (n.log2 + 1)
    if k < n then (k, g) else belowSeeded n tries g

def below (n : Nat) (s : Source α) : Except (Fault α) Nat × Source α :=
  match s.supply with
  | .scripted pending fallback => belowScripted n fallback pending s.taken
  | .seeded g =>
    let (k, g) := belowSeeded n 1000 g
    (.ok k, { s with supply := .seeded g })

end Source
end Bystander
