import Bystander.Bot.Session
/-! # What can be asked of a bot by hand

Beside starting and stopping a bot and running frames, a director may set parts of the state, call a behaviour on its
own, or start and stop a wave at any moment.  A command that needs a brain fails before the first start.  A failed
command leaves the state as it was when it failed, and the next command goes on from there.
-/
namespace Bystander

/-- A part of the state and the value that it is set to. -/
inductive Assignment (α : Type) where
  | avatarPosition (v : Vec3 α)
  | avatarOrientation (q : Quat α)
  | avatarPitch (x : α)
  | position (v : Vec3 α)
  | spawn (v : Vec3 α)
  | targetPosition (v : Vec3 α)
  | orientation (q : Quat α)
  | targetOrientation (q : Quat α)
  | targetPitch (x : α)
  | clock (x : α)
  | lastRefresh (x : α)
  | walk (name : String)
  | head (name : String)
  | wave (name : String)

/-- A behaviour that is run on its own. -/
inductive Part where
  | view
  | wave
  | sound
  | head
  | walk
deriving DecidableEq, Repr

inductive Command (α : Type) where
  | step (delta : α) (times : Nat)
  | run (seconds fps : α)
  | set (assignment : Assignment α)
  | push (draws : List α)
  | setJoint (joint : Int) (q : Quat α)
  | clearJoint (joint : Int)
  | playClip (url : String) (duration : Option α)
  | connect
  | disconnect
  | update (delta : α) (times : Nat)
  | part (part : Part) (times : Nat)
  | startWave
  | stopWave (number : Option Int)
  | pickTarget
  | stride
  | swing (t : α)
  | releaseLegs
  | playSound
  | close
  | start
  | stop
  | session (inner : List (Command α)) (failure : Option (Fault α))

/-- What a command answers; the answer of a session has the outcome of each inner command and the stage after it. -/
inductive Reply (α γ : Type) where
  | done
  | count (n : Int)
  | yes (b : Bool)
  | refreshed (each : List Bool)
  | played (each : List (Option Nat))
  | sound (index : Option Nat)
  | episode (e : Episode α)
  | session (running : Bool) (rows : List (Except (Fault α) (Reply α γ) × BotStage α γ))

namespace Bot

variable {α γ : Type} [Scalar α] [DecidableEq γ]

def becoming (f : BotState α → BotState α) : Act (Fault α) (BotStage α γ) Unit := onLatest fun _ => Scene.become f

def becomingNamed {β : Type} (phase : Except Report β) (f : β → BotState α → BotState α) :
    Act (Fault α) (BotStage α γ) Unit := do
  discard current
  match phase with
  | .ok b => becoming (f b)
  | .error report => throw (.raised report)

def posing (f : Avatar α → Avatar α) : Act (Fault α) (BotStage α γ) Unit :=
  modify fun s => { s with avatar := f s.avatar }

def assign : Assignment α → Act (Fault α) (BotStage α γ) Unit
  | .avatarPosition v => posing fun a => { a with position := v }
  | .avatarOrientation q => posing fun a => { a with orientation := q }
  | .avatarPitch x => posing fun a => { a with headPitch := x }
  | .position v => becoming fun b => { b with position := v }
  | .spawn v => becoming fun b => { b with spawn := v }
  | .targetPosition v => becoming fun b => { b with targetPosition := v }
  | .orientation q => becoming fun b => { b with orientation := q }
  | .targetOrientation q => becoming fun b => { b with targetOrientation := q }
  | .targetPitch x => becoming fun b => { b with targetPitch := x }
  | .clock x => becoming fun b => { b with clock := x }
  | .lastRefresh x => becoming fun b => { b with lastRefresh := x }
  | .walk name => becomingNamed (WalkPhase.ofName name) fun phase b => { b with walk := phase }
  | .head name => becomingNamed (HeadPhase.ofName name) fun phase b => { b with head := phase }
  | .wave name => becomingNamed (WavePhase.ofName name) fun phase b => { b with wave := phase }

def playPart (part : Part) (times : Nat) : Act (Fault α) (BotStage α γ) (Reply α γ) :=
  onLatest fun serial =>
    match part with
    | .view => return .refreshed (← Act.times View.frame times)
    | .sound => return .played (← Act.times Chatter.frame times)
    | .wave => do Act.repeated (Wave.frame (.waveEnd serial)) times; return .done
    | .head => do Act.repeated Head.frame times; return .done
    | .walk => do Act.repeated Walk.frame times; return .done

mutual

def perform (guests : Guests α γ) (config : BotConfig α) : Command α → Act (Fault α) (BotStage α γ) (Reply α γ)
  | .step delta times => do Act.repeated (step guests delta) times; return .done
  | .run seconds fps => return .count (← run guests seconds fps false)
  | .set assignment => do assign assignment; return .done
  | .push draws => do
    modify fun s => { s with cast := { s.cast with source := s.cast.source.push draws } }
    return .done
  | .setJoint joint q => do posing fun a => { a with joints := JointTable.set joint q a.joints }; return .done
  | .clearJoint joint => do posing fun a => { a with joints := JointTable.clear joint a.joints }; return .done
  | .playClip url duration => do
    modify fun s => { s with audio := s.audio.play s.scheduler.now ⟨url, duration.getD Clip.usualDuration⟩ }
    return .done
  | .connect => do
    let serial ← current
    modify fun s => { s with scheduler := s.scheduler.connect (.brain serial) }
    return .done
  | .disconnect => do
    let serial ← current
    modify fun s => { s with scheduler := s.scheduler.disconnect (.brain serial) }
    return .done
  | .update delta times => do
    onLatest fun serial => Act.repeated (Brain.frame (.waveEnd serial) delta) times
    return .done
  | .part part times => playPart part times
  | .startWave => return .episode (← onLatest fun serial => Wave.start (.waveEnd serial))
  | .stopWave number => do onLatest fun _ => Wave.stop number; return .done
  | .pickTarget => do onLatest fun _ => Walk.pickTarget; return .done
  | .stride => do onLatest fun _ => Walk.stride; return .done
  | .swing t => do onLatest fun _ => Walk.swing t; return .done
  | .releaseLegs => do onLatest fun _ => Walk.release; return .done
  | .playSound => return .sound (← onLatest fun _ => Chatter.play)
  | .close => do onLatest fun _ => Brain.close; return .done
  | .start => return .yes (← start config)
  | .stop => do stop; return .done
  | .session inner failure =>
    session config do
      let rows ← performAll guests config inner
      match failure with
      | some fault => throw fault
      | none => return .session (isRunning (← get)) rows

def performAll (guests : Guests α γ) (config : BotConfig α) :
    List (Command α) → Act (Fault α) (BotStage α γ) (List (Except (Fault α) (Reply α γ) × BotStage α γ))
  | [] => return []
  | command :: rest => do
    let result ← (perform guests config command).observe
    let stage ← get
    return (result, stage) :: (← performAll guests config rest)

end

end Bot
end Bystander
