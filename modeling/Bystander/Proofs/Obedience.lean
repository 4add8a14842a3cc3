import Bystander.Act
/-! # What an action may do to its state

A rule relates the state before an action to the state after it, whether the action answers or fails.  A rule that holds
of doing nothing and of doing one thing after another (`Steady`) passes from the parts of an action to the whole.  Two
kinds of rules are met most: a property is kept (`keeping`), and a part of the state is left alone (`leaving`).
-/
namespace Bystander

/-- A rule that doing nothing obeys, and two things in a row if each does. -/
class Steady {σ : Type} (R : σ → σ → Prop) : Prop where
  refl (s : σ) : R s s
  trans {s t u : σ} : R s t → R t u → R s u

def keeping {σ : Type} (P : σ → Prop) (s t : σ) : Prop := P s → P t

def leaving {σ γ : Type} (f : σ → γ) (s t : σ) : Prop := f t = f s

instance {σ : Type} (P : σ → Prop) : Steady (keeping P) where
  refl _ := id
  trans h h' := fun hs => h' (h hs)

instance {σ γ : Type} (f : σ → γ) : Steady (leaving f) where
  refl _ := rfl
  trans h h' := Eq.trans h' h

namespace Act

variable {ε σ ρ β γ : Type}

/-- **An action obeys a rule**: the rule relates each state to the one that the action leaves behind. -/
def Obeys (R : σ → σ → Prop) (act : Act ε σ β) : Prop := ∀ s, R s (act.run s).2

theorem Obeys.imp {R S : σ → σ → Prop} {act : Act ε σ β} (h : Obeys R act) (hRS : ∀ s t, R s t → S s t) :
    Obeys S act := fun s => hRS _ _ (h s)

theorem Obeys.of_run {R : σ → σ → Prop} {act : Act ε σ β} (h : Obeys R act) {s t : σ} {result : Except ε β}
    (hr : act.run s = (result, t)) : R s t := by
  have hs := h s
  rw [hr] at hs
  exact hs

theorem run_get_bind (next : σ → Act ε σ β) (s : σ) : run (get >>= next) s = run (next s) s := by
  rw [run_bind, run_get]

theorem run_modify_bind (f : σ → σ) (next : Unit → Act ε σ β) (s : σ) :
    run (modify f >>= next) s = run (next ()) (f s) := by
  rw [run_bind, run_modify]

theorem run_map (f : β → γ) (act : Act ε σ β) (s : σ) : run (f <$> act) s = ((run act s).1.map f, (run act s).2) := by
  rw [map_eq_pure_bind, run_bind]
  rcases run act s with ⟨result | b, after⟩ <;> rfl

theorem run_discard (act : Act ε σ β) (s : σ) :
    run (discard act) s = ((run act s).1.map fun _ => ⟨⟩, (run act s).2) := run_map _ act s

/-- **What an action that answers has done first**, and what after that. -/
theorem run_bind_eq_ok {act : Act ε σ β} {next : β → Act ε σ γ} {s u : σ} {c : γ}
    (h : run (act >>= next) s = (.ok c, u)) : ∃ b t, run act s = (.ok b, t) ∧ run (next b) t = (.ok c, u) := by
  rw [run_bind] at h
  rcases hr : run act s with ⟨fault | b, t⟩
  · rw [hr] at h
    cases h
  · rw [hr] at h
    exact ⟨b, t, rfl, h⟩

theorem run_map_eq_ok {f : β → γ} {act : Act ε σ β} {s t : σ} {c : γ} (h : run (f <$> act) s = (.ok c, t)) :
    ∃ b, run act s = (.ok b, t) ∧ f b = c := by
  rw [map_eq_pure_bind] at h
  obtain ⟨b, u, hb, hc⟩ := run_bind_eq_ok h
  cases hc
  exact ⟨b, hb, rfl⟩

theorem run_orElse (act : Act ε σ β) (handle : ε → Act ε σ β) (s : σ) :
    run (act.orElse handle) s =
      match run act s with
      | (.ok b, s) => (.ok b, s)
      | (.error e, s) => run (handle e) s := by
  unfold run orElse
  rw [ExceptT.run_tryCatch, StateT.run_bind]
  cases StateT.run (ExceptT.run act) s with
  | mk result after => cases result <;> rfl

section Rules

variable {R : σ → σ → Prop} [Steady R]

theorem obeys_pure (b : β) : Obeys R (pure b : Act ε σ β) := fun s => Steady.refl s

theorem obeys_throw (e : ε) : Obeys R (throw e : Act ε σ β) := fun s => Steady.refl s

theorem obeys_get : Obeys R (get : Act ε σ σ) := fun s => Steady.refl s

theorem obeys_ofExcept (result : Except ε β) : Obeys R (ofExcept result : Act ε σ β) := by
  intro s
  rw [run_ofExcept]
  exact Steady.refl s

omit [Steady R] in
theorem obeys_modify {f : σ → σ} (h : ∀ s, R s (f s)) : Obeys R (modify f : Act ε σ Unit) := h

/-- What is done next goes on from what has been reached. -/
theorem rel_run_bind {act : Act ε σ β} {next : β → Act ε σ γ} {s t : σ} (h : R s (act.run t).2)
    (hnext : ∀ b, Obeys R (next b)) : R s ((act >>= next).run t).2 := by
  rw [run_bind]
  rcases hr : run act t with ⟨result | b, after⟩
  · rw [hr] at h
    exact h
  · rw [hr] at h
    exact Steady.trans h (hnext b after)

theorem Obeys.bind {act : Act ε σ β} {next : β → Act ε σ γ} (h : Obeys R act) (hnext : ∀ b, Obeys R (next b)) :
    Obeys R (act >>= next) := fun s => rel_run_bind (h s) hnext

omit [Steady R] in
theorem Obeys.map {act : Act ε σ β} (h : Obeys R act) (f : β → γ) : Obeys R (f <$> act) := by
  intro s
  rw [run_map]
  exact h s

omit [Steady R] in
theorem Obeys.observe {act : Act ε σ β} (h : Obeys R act) : Obeys R act.observe := h

/-- What follows a finished computation may count on its answer. -/
theorem obeys_ofExcept_bind {result : Except ε β} {next : β → Act ε σ γ} (h : ∀ b, result = .ok b → Obeys R (next b)) :
    Obeys R (ofExcept result >>= next) := by
  intro s
  rw [run_bind, run_ofExcept]
  cases hr : result with
  | error e => exact Steady.refl s
  | ok b => exact h b hr s

/-- **A loop obeys what each round obeys.** -/
theorem obeys_forIn {δ : Type} (body : δ → β → Act ε σ (ForInStep β)) :
    ∀ (l : List δ) (b : β), (∀ d ∈ l, ∀ b, Obeys R (body d b)) → Obeys R (forIn l b body)
  | [], b, _ => by
    rw [List.forIn_nil]
    exact obeys_pure b
  | d :: l, b, h => by
    rw [List.forIn_cons]
    refine (h d List.mem_cons_self b).bind fun result => ?_
    cases result with
    | done b => exact obeys_pure b
    | yield b => exact obeys_forIn body l b fun d hd => h d (List.mem_cons_of_mem _ hd)

end Rules

end Act
end Bystander
