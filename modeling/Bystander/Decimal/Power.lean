/-! # Powers of two and ten

Doubles are made of powers of two, their text of powers of ten.
-/
namespace Bystander.Decimal

def twoTo (k : Nat) : Nat := Nat.pow 2 k

def tenTo (k : Nat) : Nat := Nat.pow 10 k

theorem twoTo_pos (k : Nat) : 0 < twoTo k := Nat.pow_pos (by decide)

end Bystander.Decimal
