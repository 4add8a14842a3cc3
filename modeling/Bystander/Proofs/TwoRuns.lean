import Bystander.Proofs.FrameLoop
/-! # Two runs of one action

Something of a state is shown, and the rest is hidden.  An action that sees only what is shown does the same from two
states that show the same (`Act.Sees`).  One that also reads what is hidden, but lets it reach only what is hidden again
and its own failures, goes alike as long as it answers from both (`Act.Alike`).  Frames go alike if their parts do.
-/
namespace Bystander

open Act (Obeys run_bind run_get_bind)

namespace Act

variable {ε σ ρ β γ : Type} {f : σ → ρ}

/-- **An action sees no more than is shown**: from two states that show the same it answers the same, and it leaves
behind states that show the same. -/
def Sees (f : σ → ρ) (act : Act ε σ β) : Prop :=
  ∀ s t, f s = f t → (act.run s).1 = (act.run t).1 ∧ f (act.run s).2 = f (act.run t).2

/-- **An action goes alike** from two states that show the same, provided that it answers from both. -/
def Alike (f : σ → ρ) (act : Act ε σ β) : Prop :=
  ∀ s t, f s = f t → ∀ b c s' t', act.run s = (.ok b, s') → act.run t = (.ok c, t') → f s' = f t'

theorem sees_pure (b : β) : Sees f (pure b : Act ε σ β) := fun _ _ h => ⟨rfl, h⟩

theorem Sees.map {act : Act ε σ β} (h : Sees f act) (g : β → γ) : Sees f (g <$> act) := by
  intro s t hst
  obtain ⟨hanswer, hafter⟩ := h s t hst
  rw [run_map, run_map, hanswer]
  exact ⟨rfl, hafter⟩

theorem Sees.alike {act : Act ε σ β} (h : Sees f act) : Alike f act := by
  intro s t hst b c s' t' hs ht
  have hafter := (h s t hst).2
  rw [hs, ht] at hafter
  exact hafter

theorem alike_of_obeys {act : Act ε σ β} (h : Obeys (leaving f) act) : Alike f act := by
  intro s t hst b c s' t' hs ht
  have hs' : f (act.run s).2 = f s := h s
  have ht' : f (act.run t).2 = f t := h t
  rw [hs] at hs'
  rw [ht] at ht'
  exact hs'.trans (hst.trans ht'.symm)

theorem Alike.seq {act : Act ε σ β} {next : Act ε σ γ} (h : Alike f act) (hnext : Alike f next) :
    Alike f (act >>= fun _ => next) := by
  intro s t hst b c s' t' hs ht
  obtain ⟨_, s'', hs₁, hs₂⟩ := run_bind_eq_ok hs
  obtain ⟨_, t'', ht₁, ht₂⟩ := run_bind_eq_ok ht
  exact hnext _ _ (h s t hst _ _ _ _ hs₁ ht₁) _ _ _ _ hs₂ ht₂

theorem Alike.map {act : Act ε σ β} (h : Alike f act) (g : β → γ) : Alike f (g <$> act) := by
  intro s t hst b c s' t' hs ht
  rw [map_eq_pure_bind] at hs ht
  obtain ⟨_, s'', hs₁, hs₂⟩ := run_bind_eq_ok hs
  obtain ⟨_, t'', ht₁, ht₂⟩ := run_bind_eq_ok ht
  cases hs₂
  cases ht₂
  exact h s t hst _ _ _ _ hs₁ ht₁

/-- What an answer leaves behind shows what can be told from what was shown. -/
theorem alike_of_shown {act : Act ε σ β} {g : ρ → ρ} (h : ∀ s b t, run act s = (.ok b, t) → f t = g (f s)) :
    Alike f act := by
  intro s t hst b c s' t' hs ht
  rw [h s b s' hs, h t c t' ht, hst]

/-- What an action does in a state and in what is shown of that state. -/
theorem sees_of_shown {f : σ → σ} {act : Act ε σ β}
    (h : ∀ s, (run act (f s)).1 = (run act s).1 ∧ f (run act (f s)).2 = f (run act s).2) : Sees f act := by
  intro s t hst
  obtain ⟨hs, hs'⟩ := h s
  obtain ⟨ht, ht'⟩ := h t
  rw [← hs, ← ht, ← hs', ← ht', hst]
  exact ⟨rfl, rfl⟩

end Act

open Act (Alike)

namespace Stage

variable {α κ τ ρ ϕ : Type} [Scalar α] {f : Stage α κ τ ρ → ϕ} {h : Handlers α κ τ ρ}
  (hscheduler : ∀ s t, f s = f t → s.scheduler = t.scheduler)
  (helsewhen : ∀ s t scheduler, f s = f t → f { s with scheduler } = f { t with scheduler })
  (htimers : ∀ purpose, Alike f (h.onTimer purpose))

include hscheduler helsewhen htimers

theorem alike_fireDue : ∀ limit, Alike f (fireDue h limit)
  | 0 => by
    intro s t hst b c u v hs ht
    rw [run_fireDue_zero] at hs ht
    rw [hscheduler s t hst] at hs
    cases hdue : t.scheduler.takeDue with
    | none =>
      rw [hdue] at hs ht
      cases hs
      cases ht
      exact hst
    | some due => rw [hdue] at hs; cases hs
  | limit + 1 => by
    intro s t hst b c u v hs ht
    rw [run_fireDue_succ] at hs ht
    rw [hscheduler s t hst] at hs
    cases hdue : t.scheduler.takeDue with
    | none =>
      rw [hdue] at hs ht
      cases hs
      cases ht
      exact hst
    | some due =>
      obtain ⟨timer, scheduler⟩ := due
      rw [hdue] at hs ht
      dsimp only at hs ht
      rcases hs' : (h.onTimer timer.purpose).run { s with scheduler } with ⟨fault | _, s'⟩
      · rw [hs'] at hs
        cases hs
      rcases ht' : (h.onTimer timer.purpose).run { t with scheduler } with ⟨fault | _, t'⟩
      · rw [ht'] at ht
        cases ht
      rw [hs'] at hs
      rw [ht'] at ht
      have hst' := htimers timer.purpose _ _ (helsewhen s t scheduler hst) _ _ _ _ hs' ht'
      exact alike_fireDue limit s' t' hst' _ _ _ _ hs ht

omit hscheduler helsewhen htimers in
omit [Scalar α] in
theorem alike_callAll {delta : α} (hframes : ∀ k, Alike f (h.onFrame k delta)) :
    ∀ callbacks, Alike f (callAll h delta callbacks)
  | [] => (Act.sees_pure ()).alike
  | k :: rest => (hframes k).seq (alike_callAll hframes rest)

theorem alike_step {spare : Nat} {delta : α} (hframes : ∀ k, Alike f (h.onFrame k delta)) :
    Alike f (step h spare delta) := by
  have htimerPhase : Alike f (timerPhase h spare delta) := by
    intro s t hst b c u v hs ht
    rw [timerPhase, run_bind, run_scheduling] at hs ht
    rw [hscheduler s t hst] at hs
    cases hadvance : t.scheduler.advance delta with
    | error fault => rw [hadvance] at hs; cases hs
    | ok scheduler =>
      rw [hadvance] at hs ht
      dsimp only at hs ht
      rw [run_get_bind] at hs ht
      exact alike_fireDue hscheduler helsewhen htimers _ _ _ (helsewhen s t scheduler hst) _ _ _ _ hs ht
  intro s t hst b c u v hs ht
  rw [step_eq] at hs ht
  rcases hs' : (timerPhase h spare delta).run s with ⟨fault | _, s'⟩
  · rw [hs'] at hs
    cases hs
  rcases ht' : (timerPhase h spare delta).run t with ⟨fault | _, t'⟩
  · rw [ht'] at ht
    cases ht
  rw [hs'] at hs
  rw [ht'] at ht
  have hst' := htimerPhase s t hst _ _ _ _ hs' ht'
  dsimp only at hs ht
  rw [hscheduler s' t' hst'] at hs
  exact alike_callAll hframes _ s' t' hst' _ _ _ _ hs ht

end Stage

end Bystander
