import Bystander.Scalar.Partial
/-! # The clock, the frame callbacks and the one-shot timers

A scheduler keeps virtual time, the callbacks that every frame calls, and timers that fire once.  Timers are kept in
the order in which they fall due; timers due at the same time fall due in the order in which they were registered.
Two callbacks are the same when their keys are equal, and a key is connected at most once.
-/
namespace Bystander

/-- A one-shot timer: when it falls due, its registration number, and what it is for. -/
structure Timer (α τ : Type) where
  due : α
  serial : Nat
  purpose : τ

/-- Virtual time in seconds with what is to be called. -/
structure Scheduler (α κ τ : Type) where
  now : α
  frameCount : Nat
  callbacks : List κ
  timers : List (Timer α τ)
  nextSerial : Nat

namespace Scheduler

variable {α κ τ : Type} [Scalar α]

def fresh : Scheduler α κ τ := ⟨0.0, 0, [], [], 0⟩

/-- Connects a callback that is not connected yet. -/
def connect [BEq κ] (k : κ) (s : Scheduler α κ τ) : Scheduler α κ τ :=
  if s.callbacks.contains k then s else { s with callbacks := s.callbacks ++ [k] }

def disconnect [BEq κ] (k : κ) (s : Scheduler α κ τ) : Scheduler α κ τ :=
  { s with callbacks := s.callbacks.erase k }

/-- A timer list with one more timer, which was registered last: it stands behind all that are due no later. -/
def enqueue (t : Timer α τ) : List (Timer α τ) → List (Timer α τ)
  | [] => [t]
  | head :: rest => if t.due < head.due then t :: head :: rest else head :: enqueue t rest

/-- Whether a delay in milliseconds can be waited for. -/
def acceptsDelay (delay : α) : Bool := Scalar.isFinite delay && !decide (delay < 0.0)

/-- Registers a timer that falls due after a delay in milliseconds. -/
def setTimeout (purpose : τ) (delay : α) (s : Scheduler α κ τ) : Except (Fault α) (Scheduler α κ τ) :=
  if acceptsDelay delay then
    .ok { s with
      timers := enqueue ⟨s.now + delay / 1000.0, s.nextSerial, purpose⟩ s.timers
      nextSerial := s.nextSerial + 1 }
  else .error (.timerDelay delay)

/-- Moves the clock to the next frame; time does not go back. -/
def advance (delta : α) (s : Scheduler α κ τ) : Except (Fault α) (Scheduler α κ τ) :=
  if delta < 0.0 then .error (.frameDelta delta)
  else .ok { s with now := s.now + delta, frameCount := s.frameCount + 1 }

def takeDue (s : Scheduler α κ τ) : Option (Timer α τ × Scheduler α κ τ) :=
  match s.timers with
  | [] => none
  | t :: rest => if t.due ≤ s.now then some (t, { s with timers := rest }) else none

/-! ## What the operations keep -/

theorem mem_enqueue (t u : Timer α τ) (timers : List (Timer α τ)) : u ∈ enqueue t timers ↔ u = t ∨ u ∈ timers := by
  induction timers with
  | nil => simp [enqueue]
  | cons head rest ih =>
    unfold enqueue
    split
    · simp
    · simp only [List.mem_cons, ih]
      exact or_left_comm

theorem length_enqueue (t : Timer α τ) (timers : List (Timer α τ)) :
    (enqueue t timers).length = timers.length + 1 := by
  induction timers with
  | nil => rfl
  | cons head rest ih =>
    unfold enqueue
    split
    · rfl
    · simp [ih]

/-- A refused delay is negative or not finite. -/
theorem setTimeout_eq_error_iff (purpose : τ) (delay : α) (s : Scheduler α κ τ) :
    s.setTimeout purpose delay = .error (.timerDelay delay) ↔ acceptsDelay delay = false := by
  unfold setTimeout
  split <;> simp_all

/-- A frame is refused only for going back. -/
theorem advance_eq_error_iff (delta : α) (s : Scheduler α κ τ) :
    s.advance delta = .error (.frameDelta delta) ↔ delta < 0.0 := by
  unfold advance
  split <;> simp_all

end Scheduler
end Bystander
