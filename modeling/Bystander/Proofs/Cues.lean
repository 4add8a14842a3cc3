import Bystander.Proofs.Company
/-! # Runs of one brain

A brain is called by the frames of its stage, and everything it does may also be asked of it by hand.  A run is a row of
such cues; a cue that fails is passed over, with what it did before it failed.
-/
namespace Bystander

/-- What one brain is told: a frame of its stage, a frame by hand, or a single thing by hand. -/
inductive Cue (α : Type) where
  | step (delta : α)
  | update (delta : α)
  | startWave
  | stopWave (number : Option Int)
  | pickTarget
  | releaseLegs
  | playSound
  | close

namespace Cue

variable {α γ : Type} [Scalar α]

def isFrame : Cue α → Bool
  | step _ | update _ => true
  | _ => false

def act (guests : Guests α γ) (k : Nat) : Cue α → Act (Fault α) (BotStage α γ) Unit
  | step delta => Bot.step guests delta
  | update delta => Bot.onBrain k (Brain.frame (.waveEnd k) delta)
  | startWave => Bot.onBrain k (discard (Wave.start (.waveEnd k)))
  | stopWave number => Bot.onBrain k (Wave.stop number)
  | pickTarget => Bot.onBrain k Walk.pickTarget
  | releaseLegs => Bot.onBrain k Walk.release
  | playSound => Bot.onBrain k (discard Chatter.play)
  | close => Bot.onBrain k Brain.close

end Cue

namespace Bot

variable {α γ : Type} [Scalar α] (guests : Guests α γ) (k : Nat)

def after (cues : List (Cue α)) (s : BotStage α γ) : BotStage α γ :=
  cues.foldl (fun s cue => ((cue.act guests k).run s).2) s

/-- The cues of a run, each with its answer. -/
def outcomes : List (Cue α) → BotStage α γ → List (Cue α × Except (Fault α) Unit)
  | [], _ => []
  | cue :: cues, s => (cue, ((cue.act guests k).run s).1) :: outcomes cues ((cue.act guests k).run s).2

/-- A run in which all cues of a kind answer. -/
def Smooth (kind : Cue α → Bool) (cues : List (Cue α)) (s : BotStage α γ) : Prop :=
  ∀ o ∈ outcomes guests k cues s, kind o.1 = true → o.2 = .ok ()

instance (result : Except (Fault α) Unit) : Decidable (result = .ok ()) :=
  match result with
  | .ok () => isTrue rfl
  | .error _ => isFalse nofun

instance (kind : Cue α → Bool) (cues : List (Cue α)) (s : BotStage α γ) : Decidable (Smooth guests k kind cues s) :=
  inferInstanceAs (Decidable (∀ o ∈ outcomes guests k cues s, kind o.1 = true → o.2 = .ok ()))

end Bot
end Bystander
