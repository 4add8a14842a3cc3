import Bystander.Host.Scheduler
/-! # Numbers that a clock can count with

A clock is read, moved on by what has elapsed, and compared with the moments at which timers fall due.  Of the numbers
nothing more is needed for that than an order of those that equal themselves, and that moving a clock on does not bring
it back.  Doubles have these laws, with undefined and infinite values and with overflow, and so have the reals.
-/
namespace Bystander

namespace Scalar

variable {α : Type} [Scalar α]

/-- A number that equals itself; only such numbers are ordered. -/
def Defined (x : α) : Prop := isUndefined x = false

instance (x : α) : Decidable (Defined x) := inferInstanceAs (Decidable (isUndefined x = false))

/-- An amount of time that can pass: finite and not negative. -/
def Elapses (d : α) : Prop := isFinite d = true ∧ ¬ d < 0.0

instance (d : α) : Decidable (Elapses d) := inferInstanceAs (Decidable (_ ∧ _))

end Scalar

open Scalar (Defined Elapses)

/-- **The laws of a clock**: defined numbers are in line, and time moves a clock on. -/
class Timekeeping (α : Type) [Scalar α] : Prop where
  le_trans {a b c : α} : a ≤ b → b ≤ c → a ≤ c
  le_of_lt {a b : α} : a < b → a ≤ b
  lt_iff_not_le {a b : α} : Defined a → Defined b → (a < b ↔ ¬ b ≤ a)
  defined_zero : Defined (0.0 : α)
  defined_add {now d : α} : Defined now → Elapses d → Defined (now + d)
  le_add {now d : α} : Defined now → Elapses d → now ≤ now + d
  defined_wait {now d : α} : Defined now → Elapses d → Defined (now + d / 1000.0)
  le_wait {now d : α} : Defined now → Elapses d → now ≤ now + d / 1000.0

namespace Timekeeping

variable {α : Type} [Scalar α] [Timekeeping α] {a b c : α}

theorem le_of_not_lt (ha : Defined a) (hb : Defined b) (h : ¬ a < b) : b ≤ a := by
  rw [lt_iff_not_le ha hb] at h
  exact Classical.not_not.1 h

theorem not_le_of_lt (ha : Defined a) (hb : Defined b) (h : a < b) : ¬ b ≤ a := (lt_iff_not_le ha hb).1 h

theorem lt_of_lt_of_le (ha : Defined a) (hb : Defined b) (hc : Defined c) (hab : a < b) (hbc : b ≤ c) : a < c := by
  rw [lt_iff_not_le ha hc]
  intro hca
  exact not_le_of_lt ha hb hab (le_trans hbc hca)

/-- What is no earlier than a clock that was started is not negative either. -/
theorem not_negative_of_le (ha : Defined a) (h : ¬ a < 0.0) (hb : Defined b) (hab : a ≤ b) : ¬ b < 0.0 := fun hneg =>
  not_le_of_lt hb defined_zero hneg (le_trans (le_of_not_lt ha defined_zero h) hab)

end Timekeeping

/-- **Nothing comes of an undefined number**: no sum of it is defined, and it is neither before nor after anything. -/
class Strict (α : Type) [Scalar α] : Prop where
  defined_of_add {a b : α} : Defined (a + b) → Defined a ∧ Defined b
  defined_of_lt {a b : α} : a < b → Defined a
  defined_of_le {a b : α} : a ≤ b → Defined b

namespace Scheduler

variable {α : Type} [Scalar α]

/-- A timer is accepted exactly for an amount of time that can pass. -/
theorem acceptsDelay_iff (delay : α) : acceptsDelay delay = true ↔ Elapses delay := by
  simp [acceptsDelay, Elapses]

end Scheduler
end Bystander
