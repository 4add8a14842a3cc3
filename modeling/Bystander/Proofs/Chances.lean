import Bystander.Proofs.Reals
import Bystander.Proofs.Touch
/-! # Fair chances

A source is fair if its fractions lie between zero, included, and one, excluded, in whatever way fractions and numbers
are taken from it.  Over the reals scripted draws of that kind are fair (`fair_scripted`), and so is every generator
(`fair_seeded`).
-/
namespace Bystander

open Act (Obeys)

variable {α κ τ : Type} [Scalar α]

/-- **A fair source** only gives fractions. -/
def Source.Fair (s : Source α) : Prop := ∀ t, s.Leads t → 0.0 ≤ t.draw.1 ∧ t.draw.1 < 1.0

theorem Source.Fair.leads {s t : Source α} (h : s.Fair) (ht : s.Leads t) : t.Fair := fun u hu => h u (ht.trans hu)

def Scene.Draws (s t : Scene α κ τ) : Prop := s.source.Leads t.source

instance : Steady (Scene.Draws (α := α) (κ := κ) (τ := τ)) where
  refl s := .refl s.source
  trans := Source.Leads.trans

theorem Brain.draws_frame (ending : Nat → τ) (delta : α) :
    Obeys Scene.Draws (Brain.frame ending delta : Play α κ τ Unit) := by
  refine Brain.obeys_frame ending delta (fun s _ => .refl s.source) (fun s t h => ?_)
    ((Wave.obeys_frame ending).imp fun s t h => ?_) (fun s t h => ?_) (fun s t h => ?_)
    (Walk.obeys_frame.imp fun s t h => ?_)
  · obtain ⟨_, _, _, -, rfl⟩ := h
    exact .refl s.source
  · obtain ⟨_, _, _, _, _, _, _, h, rfl⟩ := h
    exact h
  · obtain ⟨_, _, _, _, h, rfl⟩ := h
    exact h
  · obtain ⟨_, _, _, _, _, h, rfl⟩ := h
    exact h
  · obtain ⟨_, _, _, _, _, _, _, _, _, _, _, h, rfl⟩ := h
    exact h

/-! ## Over the reals -/

/-- A supply of fractions: the draws and the fallback of a script, or any generator. -/
def Supply.Sound : Supply ℝ → Prop
  | .scripted pending fallback => ∀ r ∈ fallback :: pending, 0 ≤ r ∧ r < 1
  | .seeded _ => True

theorem Random.Twister.nextFraction_lt (g : Random.Twister) : g.nextFraction.1 < Decimal.twoTo 53 := by
  have hfirst : (g.next.1 >>> 5).toNat < 2 ^ 27 := by
    have h := UInt32.toNat_lt g.next.1
    rw [UInt32.toNat_shiftRight]
    simp [Nat.shiftRight_eq_div_pow]
    omega
  have hsecond : (g.next.2.next.1 >>> 6).toNat < 2 ^ 26 := by
    have h := UInt32.toNat_lt g.next.2.next.1
    rw [UInt32.toNat_shiftRight]
    simp [Nat.shiftRight_eq_div_pow]
    omega
  change (g.next.1 >>> 5).toNat * Decimal.twoTo 26 + (g.next.2.next.1 >>> 6).toNat < Decimal.twoTo 53
  have h26 : Decimal.twoTo 26 = 2 ^ 26 := rfl
  have h53 : Decimal.twoTo 53 = 2 ^ 53 := rfl
  rw [h26, h53]
  omega

namespace Source

theorem Fair.fraction {s t : Source ℝ} (h : s.Fair) (ht : s.Leads t) : 0 ≤ t.draw.1 ∧ t.draw.1 < 1 := by
  rw [← Scalar.zero_literal, ← Scalar.one_literal]
  exact h t ht

theorem sound_belowScripted (n : Nat) (fallback : ℝ) : ∀ (pending : List ℝ) (taken : Nat),
    (Supply.scripted pending fallback).Sound → (belowScripted n fallback pending taken).2.supply.Sound
  | [], taken, h => by
    unfold belowScripted
    dsimp only
    split <;> exact h
  | r :: pending, taken, h => by
    have hrest : (Supply.scripted pending fallback).Sound := fun q hq => h q (by simp_all; tauto)
    unfold belowScripted
    split
    · exact sound_belowScripted n fallback pending (taken + 1) hrest
    · exact hrest

theorem sound_leads {s t : Source ℝ} (h : s.Leads t) (hs : s.supply.Sound) : t.supply.Sound := by
  induction h with
  | refl => exact hs
  | @fraction t _ ih =>
    rcases t with ⟨⟨pending, fallback⟩ | g, taken⟩
    · cases pending with
      | nil => exact ih
      | cons r pending => exact fun q hq => ih q (by simp_all; tauto)
    · trivial
  | @number t n _ ih =>
    rcases t with ⟨⟨pending, fallback⟩ | g, taken⟩
    · exact sound_belowScripted n fallback pending taken ih
    · trivial

theorem draw_sound {s : Source ℝ} (h : s.supply.Sound) : 0.0 ≤ s.draw.1 ∧ s.draw.1 < 1.0 := by
  rw [Scalar.zero_literal, Scalar.one_literal]
  rcases s with ⟨⟨pending, fallback⟩ | g, taken⟩
  · cases pending with
    | nil => exact h fallback (by simp)
    | cons r pending => exact h r (by simp)
  · have hlt : ((g.nextFraction.1 : ℕ) : ℝ) < (grain : ℕ) := by
      exact_mod_cast g.nextFraction_lt
    have hgrain : (0 : ℝ) < (grain : ℕ) := lt_of_le_of_lt (Nat.cast_nonneg _) hlt
    change 0 ≤ (Scalar.ofNat g.nextFraction.1 : ℝ) / Scalar.ofNat grain ∧
      (Scalar.ofNat g.nextFraction.1 : ℝ) / Scalar.ofNat grain < 1
    rw [Scalar.ofNat_real, Scalar.ofNat_real]
    exact ⟨div_nonneg (Nat.cast_nonneg _) hgrain.le, (div_lt_one hgrain).2 hlt⟩

theorem fair_of_sound {s : Source ℝ} (h : s.supply.Sound) : s.Fair := fun _ ht => draw_sound (sound_leads ht h)

/-- **Scripted draws are fair** if they and their fallback are fractions. -/
theorem fair_scripted {draws : List ℝ} {fallback : ℝ} (h : ∀ r ∈ fallback :: draws, 0 ≤ r ∧ r < 1) :
    (scripted draws fallback).Fair := fair_of_sound h

theorem fair_seeded (seed : ℤ) : (seeded seed : Source ℝ).Fair := fair_of_sound trivial

end Source
end Bystander
