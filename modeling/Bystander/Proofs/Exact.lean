import Bystander.Proofs.Reals
/-! # Exact numbers

Numbers are exact if those among them that are finite are reals and are computed with as reals; of the others nothing is
said.  The reals are such numbers, and so are the extended reals, which have two infinite ones.
-/
namespace Bystander

/-- **Exact numbers**, by what their operations do to the finite ones. -/
class Exact (α : Type) [Scalar α] where
  real : ℝ → α
  isFinite_iff (x : α) : Scalar.isFinite x = true ↔ ∃ r, x = real r
  zero : (0.0 : α) = real 0
  one : (1.0 : α) = real 1
  ofNat (n : ℕ) : (Scalar.ofNat n : α) = real n
  add (x y : ℝ) : real x + real y = real (x + y)
  sub (x y : ℝ) : real x - real y = real (x - y)
  mul (x y : ℝ) : real x * real y = real (x * y)
  div (x : ℝ) {y : ℝ} (hy : y ≠ 0) : real x / real y = real (x / y)
  lt_iff (x y : ℝ) : real x < real y ↔ x < y
  le_iff (x y : ℝ) : real x ≤ real y ↔ x ≤ y
  beq_iff (x y : ℝ) : (real x == real y) = true ↔ x = y

noncomputable instance : Exact ℝ where
  real := id
  isFinite_iff x := ⟨fun _ => ⟨x, rfl⟩, fun _ => rfl⟩
  zero := Scalar.zero_literal
  one := Scalar.one_literal
  ofNat := Scalar.ofNat_real
  add _ _ := rfl
  sub _ _ := rfl
  mul _ _ := rfl
  div _ _ _ := rfl
  lt_iff _ _ := Iff.rfl
  le_iff _ _ := Iff.rfl
  beq_iff _ _ := decide_eq_true_iff

/-! ## The extended reals -/

open Classical in
noncomputable instance : Scalar EReal where
  beq a b := decide (a = b)
  ofScientific m s e := ((OfScientific.ofScientific m s e : ℝ) : EReal)
  decLt := inferInstance
  decLe := inferInstance
  isFinite x := decide (x ≠ ⊤ ∧ x ≠ ⊥)
  degree := ((Scalar.degree : ℝ) : EReal)
  sqrt x := (x.toReal.sqrt : ℝ)
  sin x := (Real.sin x.toReal : ℝ)
  cos x := (Real.cos x.toReal : ℝ)
  acos x := (Real.arccos x.toReal : ℝ)
  floor x := ⌊x.toReal⌋

noncomputable instance : Exact EReal where
  real := Real.toEReal
  isFinite_iff x := by
    refine Iff.trans decide_eq_true_iff ?_
    constructor
    · rintro ⟨htop, hbot⟩
      exact ⟨x.toReal, (EReal.coe_toReal htop hbot).symm⟩
    · rintro ⟨r, rfl⟩
      exact ⟨EReal.coe_ne_top r, EReal.coe_ne_bot r⟩
  zero := congrArg Real.toEReal Scalar.zero_literal
  one := congrArg Real.toEReal Scalar.one_literal
  ofNat n := congrArg Real.toEReal (Scalar.ofNat_real n)
  add x y := (EReal.coe_add x y).symm
  sub x y := (EReal.coe_sub x y).symm
  mul x y := (EReal.coe_mul x y).symm
  div x {y} _ := (EReal.coe_div x y).symm
  lt_iff _ _ := EReal.coe_lt_coe_iff
  le_iff _ _ := EReal.coe_le_coe_iff
  beq_iff _ _ := decide_eq_true_iff.trans EReal.coe_eq_coe_iff

end Bystander
