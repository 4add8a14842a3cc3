import Bystander.Act
import Bystander.Journal
import Bystander.Host.Devices
import Bystander.Host.Scheduler
/-! # A host and its frame loop

A frame advances the clock, fires the timers that are due, in due order, and then calls every callback that is connected
at that moment.  So timers and callbacks never overlap, and what a callback connects or disconnects counts from the next
frame on.  In a loop of frames a frame that fails is written down and the next one goes on.
-/
namespace Bystander

structure Host (α κ τ : Type) where
  scheduler : Scheduler α κ τ
  avatar : Avatar α
  viewer : Viewer α
  audio : Audio α
  journal : Journal α

structure Stage (α κ τ ρ : Type) extends Host α κ τ where
  cast : ρ

variable {α κ τ ρ : Type} [Scalar α]

def Host.fresh : Host α κ τ := ⟨.fresh, .fresh, .fresh, .fresh, .empty⟩

/-- What is done when a timer fires and when a frame calls a callback. -/
structure Handlers (α κ τ ρ : Type) where
  onTimer : τ → Act (Fault α) (Stage α κ τ ρ) Unit
  onFrame : κ → α → Act (Fault α) (Stage α κ τ ρ) Unit

namespace Stage

def note (event : Event α) : Act (Fault α) (Stage α κ τ ρ) Unit :=
  modify fun s => { s with journal := s.journal.note event }

/-- An operation of the scheduler that may be refused; a refusal changes nothing. -/
def scheduling (f : Scheduler α κ τ → Except (Fault α) (Scheduler α κ τ)) : Act (Fault α) (Stage α κ τ ρ) Unit :=
  .ofFun fun s =>
    match f s.scheduler with
    | .ok scheduler => (.ok (), { s with scheduler })
    | .error fault => (.error fault, s)

/-- Fires due timers until none is due; a timer is taken out before it is fired. -/
def fireDue (h : Handlers α κ τ ρ) : Nat → Act (Fault α) (Stage α κ τ ρ) Unit
  | 0 => do
    match (← get).scheduler.takeDue with
    | none => return
    | some _ => throw .endlessTimers
  | limit + 1 => do
    match (← get).scheduler.takeDue with
    | none => return
    | some (t, scheduler) =>
      modify fun s => { s with scheduler }
      h.onTimer t.purpose
      fireDue h limit

def callAll (h : Handlers α κ τ ρ) (delta : α) : List κ → Act (Fault α) (Stage α κ τ ρ) Unit
  | [] => return
  | k :: rest => do h.onFrame k delta; callAll h delta rest

/-- One frame.  Beside the timers that are pending when it starts, it fires at most `spare` that are registered in it. -/
def step (h : Handlers α κ τ ρ) (spare : Nat) (delta : α) : Act (Fault α) (Stage α κ τ ρ) Unit := do
  scheduling (Scheduler.advance delta)
  fireDue h ((← get).scheduler.timers.length + spare)
  callAll h delta (← get).scheduler.callbacks

/-- Frames of equal length; the fault of a frame that fails is written down. -/
def frames (h : Handlers α κ τ ρ) (spare : Nat) (delta : α) : Nat → Act (Fault α) (Stage α κ τ ρ) Unit :=
  Act.repeated ((step h spare delta).orElse fun fault => note (.frameFailed fault))

/-- Frames at a rate for a time, at least none; the number of frames is the nearest to time times rate. -/
def run (h : Handlers α κ τ ρ) (spare : Nat) (seconds fps : α) (realtime : Bool) :
    Act (Fault α) (Stage α κ τ ρ) Int := do
  let interval ← .ofExcept (Scalar.divide 1.0 fps)
  let count ← .ofExcept (Scalar.integral (seconds * fps) Scalar.nearest)
  note (.loopStarted fps count realtime)
  frames h spare interval count.toNat
  note (.loopFinished count (← get).scheduler.now)
  return count

end Stage
end Bystander
