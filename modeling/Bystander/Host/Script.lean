import Bystander.Host.Stage
/-! # Scripted callbacks on a host

A script drives a host by orders and defines callbacks whose bodies are orders again.  A name stands for the routine
that it was last defined as; a routine that is connected, or waits for a timer, stays what it was when its name is
defined anew.  Routines may order frames, so orders run inside frames inside orders, down to a fixed depth.
-/
namespace Bystander

inductive Order (α : Type) where
  | define (name : String) (body : List (Order α))
  | connect (name : String)
  | disconnect (name : String)
  | timeout (name : String) (delay : α)
  | step (delta : α) (times : Nat)
  | run (seconds fps : α) (realtime : Bool)
  | play (url : String) (duration : Option α)
  | raise (report : Report)

/-- A defined callback; its serial number tells it from others of the same name. -/
structure Routine (α : Type) where
  serial : Nat
  name : String
  body : List (Order α)

instance {α : Type} : BEq (Routine α) := ⟨fun a b => a.serial == b.serial⟩

/-- A call of a routine: when, and with which delta if a frame made it. -/
structure Call (α : Type) where
  name : String
  now : α
  delta : Option α

/-- What the names mean, and the calls so far, the latest first. -/
structure Script (α : Type) where
  meanings : List (Routine α)
  nextSerial : Nat
  latestFirst : List (Call α)

abbrev ScriptedStage (α : Type) := Stage α (Routine α) (Routine α) (Script α)

namespace Script

variable {α : Type} [Scalar α]

def opening : ScriptedStage α := { Host.fresh with cast := ⟨[], 0, []⟩ }

def define (name : String) (body : List (Order α)) (s : Script α) : Script α :=
  { s with meanings := ⟨s.nextSerial, name, body⟩ :: s.meanings, nextSerial := s.nextSerial + 1 }

def lookup (name : String) : Act (Fault α) (ScriptedStage α) (Routine α) := do
  match (← get).cast.meanings.find? fun r => r.name == name with
  | some r => return r
  | none => throw (.raised (.general "KeyError" (Text.quoted name)))

/-- How many timers that are registered in a frame may fire in the same frame. -/
def spareTimers : Nat := 100000

/-- Notes a call and carries out the routine's orders. -/
def call (perform : Order α → Act (Fault α) (ScriptedStage α) (Option Int)) (r : Routine α) (delta : Option α) :
    Act (Fault α) (ScriptedStage α) Unit := do
  modify fun s => { s with cast := { s.cast with latestFirst := ⟨r.name, s.scheduler.now, delta⟩ :: s.cast.latestFirst } }
  for order in r.body do
    discard (perform order)

def handlers (perform : Order α → Act (Fault α) (ScriptedStage α) (Option Int)) :
    Handlers α (Routine α) (Routine α) (Script α) where
  onTimer r := call perform r none
  onFrame r delta := call perform r (some delta)

/-- Carries out an order; the answer is the number of frames of a loop.  The depth bounds frames within frames. -/
def perform : Nat → Order α → Act (Fault α) (ScriptedStage α) (Option Int)
  | _, .define name body => do
    modify fun s => { s with cast := s.cast.define name body }
    return none
  | _, .connect name => do
    let r ← lookup name
    modify fun s => { s with scheduler := s.scheduler.connect r }
    return none
  | _, .disconnect name => do
    let r ← lookup name
    modify fun s => { s with scheduler := s.scheduler.disconnect r }
    return none
  | _, .timeout name delay => do
    let r ← lookup name
    Stage.scheduling (Scheduler.setTimeout r delay)
    return none
  | _, .play url duration => do
    modify fun s => { s with audio := s.audio.play s.scheduler.now ⟨url, duration.getD Clip.usualDuration⟩ }
    return none
  | _, .raise report => throw (.raised report)
  | 0, .step .. => throw .endlessTimers
  | 0, .run .. => throw .endlessTimers
  | depth + 1, .step delta times => do
    Act.repeated (Stage.step (handlers (perform depth)) spareTimers delta) times
    return none
  | depth + 1, .run seconds fps realtime => do
    return some (← Stage.run (handlers (perform depth)) spareTimers seconds fps realtime)

/-- How deep frames may be ordered within frames. -/
def depthLimit : Nat := 200

end Script
end Bystander
