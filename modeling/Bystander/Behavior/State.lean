import Bystander.Behavior.Settings
import Bystander.Host.Stage
import Bystander.Space.Bounds
/-! # What a bot knows of itself

The position and the orientation are those of the avatar: they are read at the start of each frame and written back by
a walk.  Waving, turning the head and walking are three machines with two phases each; the parameters of a wave exist
while it lasts.
-/
namespace Bystander

inductive WavePhase where
  | idle
  | waving
deriving DecidableEq, Repr

inductive HeadPhase where
  | idle
  | turning
deriving DecidableEq, Repr

inductive WalkPhase where
  | idle
  | walking
deriving DecidableEq, Repr

def WavePhase.name : WavePhase → String
  | .idle => "idle"
  | .waving => "waving"

def HeadPhase.name : HeadPhase → String
  | .idle => "idle"
  | .turning => "turning"

def WalkPhase.name : WalkPhase → String
  | .idle => "idle"
  | .walking => "walking"

def WavePhase.ofName (name : String) : Except Report WavePhase :=
  if name == "idle" then .ok .idle else if name == "waving" then .ok .waving else .error (.notMember "WaveState" name)

def HeadPhase.ofName (name : String) : Except Report HeadPhase :=
  if name == "idle" then .ok .idle else if name == "turning" then .ok .turning
  else .error (.notMember "HeadTurnState" name)

def WalkPhase.ofName (name : String) : Except Report WalkPhase :=
  if name == "idle" then .ok .idle else if name == "walking" then .ok .walking else .error (.notMember "WalkState" name)

/-- One wave: its number, its angular frequency and the swing of the shoulder, all chosen when it starts. -/
structure Episode (α : Type) where
  number : Nat
  frequency : α
  amplitude : α

structure BotState (α : Type) where
  spawn : Vec3 α
  position : Vec3 α
  orientation : Quat α
  targetPosition : Vec3 α
  targetOrientation : Quat α
  targetPitch : α
  /-- The seconds of all frames so far; it drives the waveforms. -/
  clock : α
  lastRefresh : α
  walk : WalkPhase
  head : HeadPhase
  wave : WavePhase
  episode : Option (Episode α)
  waveCount : Nat

/-- A bot's behaviour: what it was told, where it stands, and what it has done so far. -/
structure Brain (α : Type) where
  settings : Settings α
  bounds : Bounds α
  clips : List (Clip α)
  state : BotState α
  frames : Nat
  queries : Nat
  walks : Nat
  sounds : Nat
  closed : Bool

/-- What a behaviour acts on: a host, the chances, and its brain. -/
structure Scene (α κ τ : Type) extends Host α κ τ where
  source : Source α
  brain : Brain α

variable {α κ τ : Type} [Scalar α]

/-- A state at a spawn point, before the first frame. -/
def BotState.opening (spawn position : Vec3 α) (orientation : Quat α) : BotState α where
  spawn := spawn
  position := position
  orientation := orientation
  targetPosition := .zero
  targetOrientation := .identity
  targetPitch := 0.0
  clock := 0.0
  lastRefresh := 0.0
  walk := .idle
  head := .idle
  wave := .idle
  episode := none
  waveCount := 0

def Brain.opening (settings : Settings α) (bounds : Bounds α) (clips : List (Clip α)) (spawn : Vec3 α)
    (avatar : Avatar α) : Brain α where
  settings := settings
  bounds := bounds
  clips := clips
  state := .opening spawn avatar.position avatar.orientation
  frames := 0
  queries := 0
  walks := 0
  sounds := 0
  closed := false

abbrev Play (α κ τ β : Type) := Act (Fault α) (Scene α κ τ) β

namespace Scene

def note (event : Event α) : Play α κ τ Unit := modify fun s => { s with journal := s.journal.note event }

def become (f : BotState α → BotState α) : Play α κ τ Unit :=
  modify fun s => { s with brain := { s.brain with state := f s.brain.state } }

def pose (f : Avatar α → Avatar α) : Play α κ τ Unit := modify fun s => { s with avatar := f s.avatar }

def draw : Play α κ τ α :=
  modifyGet fun s =>
    let (r, source) := s.source.draw
    (r, { s with source })

def uniform (low high : α) : Play α κ τ α := do
  let r ← draw
  return Scalar.between low high r

end Scene
end Bystander
