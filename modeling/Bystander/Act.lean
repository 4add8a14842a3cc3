/-! # Actions that may fail and keep what they did

An action works on a state and either answers or fails.  A failed action does not undo what it did before it failed.
-/
namespace Bystander

/-- An action on a state `σ` that answers `β` or fails with `ε`; the state it reached is kept in both cases. -/
abbrev Act (ε σ β : Type) := ExceptT ε (StateM σ) β

namespace Act

variable {ε σ ρ β : Type}

def run (act : Act ε σ β) (s : σ) : Except ε β × σ := (ExceptT.run act).run s

def ofFun (f : σ → Except ε β × σ) : Act ε σ β := ExceptT.mk (fun s => pure (f s))

theorem run_ofFun (f : σ → Except ε β × σ) (s : σ) : (ofFun f).run s = f s := rfl

/-- A finished computation as an action that leaves the state alone. -/
def ofExcept : Except ε β → Act ε σ β
  | .ok b => pure b
  | .error e => throw e

def zoom (get : ρ → σ) (put : σ → ρ → ρ) (act : Act ε σ β) : Act ε ρ β :=
  ofFun fun s =>
    let (result, part) := act.run (get s)
    (result, put part s)

/-- The answers of an action done `n` times over; the first failure ends it. -/
def times (act : Act ε σ β) : Nat → Act ε σ (List β)
  | 0 => pure []
  | n + 1 => do
    let b ← act
    let rest ← times act n
    return b :: rest

/-- An action done `n` times over; the first failure ends it. -/
def repeated (act : Act ε σ Unit) : Nat → Act ε σ Unit
  | 0 => pure ()
  | n + 1 => do act; repeated act n

def orElse (act : Act ε σ β) (handle : ε → Act ε σ β) : Act ε σ β := tryCatch act handle

/-- The action, and a second one after it whether or not the first failed. -/
def andFinally (act : Act ε σ β) (after : Act ε σ Unit) : Act ε σ β :=
  ofFun fun s =>
    let (result, s) := act.run s
    match after.run s with
    | (.ok (), s) => (result, s)
    | (.error e, s) => (.error e, s)

/-- The outcome of the action as an answer; the action itself never fails. -/
def observe (act : Act ε σ β) : Act ε σ (Except ε β) :=
  ofFun fun s =>
    let (result, s) := act.run s
    (.ok result, s)

/-! ## What actions answer and leave behind -/

variable {γ : Type}

@[simp] theorem run_pure (b : β) (s : σ) : run (pure b : Act ε σ β) s = (.ok b, s) := rfl

@[simp] theorem run_throw (e : ε) (s : σ) : run (throw e : Act ε σ β) s = (.error e, s) := rfl

@[simp] theorem run_get (s : σ) : run (get : Act ε σ σ) s = (.ok s, s) := rfl

@[simp] theorem run_modify (f : σ → σ) (s : σ) : run (modify f : Act ε σ Unit) s = (.ok (), f s) := rfl

/-- A second action starts where the first one stopped, unless that failed. -/
theorem run_bind (act : Act ε σ β) (next : β → Act ε σ γ) (s : σ) :
    run (act >>= next) s =
      match run act s with
      | (.ok b, s) => run (next b) s
      | (.error e, s) => (.error e, s) := by
  change (ExceptT.bindCont next (ExceptT.run act s).1) (ExceptT.run act s).2 = _
  unfold run
  rcases h : ExceptT.run act s with ⟨result, after⟩
  have h' : StateT.run (ExceptT.run act) s = (result, after) := h
  rw [h']
  cases result <;> rfl

@[simp] theorem run_ofExcept (result : Except ε β) (s : σ) : run (ofExcept result : Act ε σ β) s = (result, s) := by
  cases result <;> rfl

@[simp] theorem run_observe (act : Act ε σ β) (s : σ) : run act.observe s = (.ok (run act s).1, (run act s).2) := rfl

@[simp] theorem run_zoom (get : ρ → σ) (put : σ → ρ → ρ) (act : Act ε σ β) (r : ρ) :
    run (zoom get put act) r = ((run act (get r)).1, put (run act (get r)).2 r) := rfl

@[simp] theorem repeated_zero (act : Act ε σ Unit) : repeated act 0 = pure () := rfl

theorem repeated_succ (act : Act ε σ Unit) (n : Nat) : repeated act (n + 1) = (do act; repeated act n) := rfl

end Act
end Bystander
