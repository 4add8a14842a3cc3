import Bystander.Behavior.Frame
import Bystander.Catalog
import Bystander.Config.Basic
/-! # A bot on a host, from start to stop

To start, a bot picks its looks, is placed in its box, gets a fresh brain, and has it connected to the frame loop.  To
stop, the brain is disconnected and closed.  Timers of a stopped brain stay in the queue; they reach the brain that set
them, which is closed, and so do nothing, even when a later brain counts its waves from one again.  Other parties may use
the same frame loop; they are the guests.
-/
namespace Bystander

/-- What a frame calls: a brain, by its place among all that the bot has had, or a guest. -/
inductive Callback (γ : Type) where
  | brain (serial : Nat)
  | guest (g : γ)
deriving DecidableEq

/-- What a timer is for: the end of a wave of some brain, or a guest. -/
inductive Alarm (γ : Type) where
  | waveEnd (serial number : Nat)
  | guest (g : γ)
deriving DecidableEq

/-- The chances, all brains so far with the latest last, and the looks once they are picked. -/
structure Troupe (α : Type) where
  source : Source α
  brains : List (Brain α)
  appearance : Option Appearance

abbrev BotStage (α γ : Type) := Stage α (Callback γ) (Alarm γ) (Troupe α)

structure Guests (α γ : Type) where
  onTimer : γ → Act (Fault α) (BotStage α γ) Unit
  onFrame : γ → α → Act (Fault α) (BotStage α γ) Unit

def Guests.absent {α : Type} : Guests α Empty := ⟨nofun, nofun⟩

namespace Bot

variable {α γ β : Type} [Scalar α]

def waiting (source : Source α) : BotStage α γ := { Host.fresh with cast := ⟨source, [], none⟩ }

def latest (s : BotStage α γ) : Option Nat := if s.cast.brains.isEmpty then none else some (s.cast.brains.length - 1)

def brain? (s : BotStage α γ) : Option (Brain α) := s.cast.brains.getLast?

def isRunning (s : BotStage α γ) : Bool :=
  match brain? s with
  | some brain => !brain.closed
  | none => false

/-- The part of a stage that one brain acts on. -/
def scene (s : BotStage α γ) (brain : Brain α) : Scene α (Callback γ) (Alarm γ) :=
  { s.toHost with source := s.cast.source, brain }

/-- A stage after one of its brains has acted. -/
def withScene (serial : Nat) (s : BotStage α γ) (c : Scene α (Callback γ) (Alarm γ)) : BotStage α γ :=
  { c.toHost with cast := { s.cast with source := c.source, brains := s.cast.brains.set serial c.brain } }

/-- Lets one brain act; without that brain the bot has not been started. -/
def onBrain (serial : Nat) (play : Play α (Callback γ) (Alarm γ) β) : Act (Fault α) (BotStage α γ) β :=
  .ofFun fun s =>
    match s.cast.brains[serial]? with
    | none => (.error .notStarted, s)
    | some brain =>
      let (result, c) := play.run (scene s brain)
      (result, withScene serial s c)

/-- The place of the latest brain; without one the bot has not been started. -/
def current : Act (Fault α) (BotStage α γ) Nat := do
  match latest (← get) with
  | some serial => return serial
  | none => throw .notStarted

def onLatest (play : Nat → Play α (Callback γ) (Alarm γ) β) : Act (Fault α) (BotStage α γ) β := do
  let serial ← current
  onBrain serial (play serial)

/-- What timers and frames do to brains and guests. -/
def handlers (guests : Guests α γ) : Handlers α (Callback γ) (Alarm γ) (Troupe α) where
  onTimer
    | .waveEnd serial number => onBrain serial (Wave.stop (some (number : Int)))
    | .guest g => guests.onTimer g
  onFrame
    | .brain serial, delta => onBrain serial (Brain.frame (.waveEnd serial) delta)
    | .guest g, delta => guests.onFrame g delta

/-- One frame; no timer is expected to register another one for the same frame. -/
def step (guests : Guests α γ) (delta : α) : Act (Fault α) (BotStage α γ) Unit := Stage.step (handlers guests) 0 delta

def run (guests : Guests α γ) (seconds fps : α) (realtime : Bool) : Act (Fault α) (BotStage α γ) Int :=
  Stage.run (handlers guests) 0 seconds fps realtime

def drawNumber : Act (Fault α) (BotStage α γ) Int :=
  .ofFun fun s =>
    let (k, source) := s.cast.source.below Catalog.lastNumber.toNat
    (k.map fun k => (k : Int) + Catalog.firstNumber, { s with cast := { s.cast with source } })

def loadClip (url : String) : Clip α := ⟨url, Clip.usualDuration⟩

/-- The number that is configured, or else a drawn one. -/
def chooseNumber (config : BotConfig α) : Act (Fault α) (BotStage α γ) Int :=
  match config.assets.number with
  | some n => pure n
  | none => drawNumber

/-- Dresses and places the avatar and connects a fresh brain. -/
def enter [DecidableEq γ] (config : BotConfig α) (number : Int) : Act (Fault α) (BotStage α γ) Unit := do
  let appearance ← .ofExcept (Catalog.appearance number config.assets.root)
  modify fun s => { s with
    cast := { s.cast with appearance := some appearance }
    journal := s.journal.bind number
    avatar := { s.avatar with models := appearance.models, isAgent := true, isListening := true } }
  let spawn ← modifyGet fun s =>
    let (p, source) := config.spawn.randomPoint s.cast.source
    (p, { s with cast := { s.cast with source }, avatar := { s.avatar with position := p } })
  let clips := (Catalog.soundUrls config.assets.root).map loadClip
  modify fun s => { s with
    cast := { s.cast with brains := s.cast.brains ++ [.opening config.settings config.spawn clips spawn s.avatar] }
    scheduler := s.scheduler.connect (.brain s.cast.brains.length) }
  Stage.note (.spawned appearance.models.face spawn clips.length)

/-- The bot enters unless it is running already; the answer is whether it was. -/
def start [DecidableEq γ] (config : BotConfig α) : Act (Fault α) (BotStage α γ) Bool := do
  if isRunning (← get) then
    Stage.note .alreadyRunning
    return true
  enter config (← chooseNumber config)
  return false

/-- Disconnects and closes the brain of a running bot. -/
def stop [DecidableEq γ] : Act (Fault α) (BotStage α γ) Unit := do
  if !isRunning (← get) then return
  let serial ← current
  modify fun s => { s with scheduler := s.scheduler.disconnect (.brain serial) }
  onBrain serial Brain.close
  let frames := ((brain? (← get)).map Brain.frames).getD 0
  Stage.note (.stopped frames)
  modify fun s => { s with journal := s.journal.unbind }

/-- Starts the bot, does something, and stops the bot whatever happened. -/
def session [DecidableEq γ] (config : BotConfig α) (body : Act (Fault α) (BotStage α γ) β) : Act (Fault α) (BotStage α γ) β :=
  Act.andFinally (do discard (start config); body) stop

end Bot
end Bystander
