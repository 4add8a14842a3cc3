import Bystander.Bot.Session
/-! # A whole run of one bot

A fresh host, one session, and frames for a time.  What is left open is taken from the configuration.  The summary shows
the bot as it was before it stopped and the host as it is afterwards.
-/
namespace Bystander

structure Summary (α : Type) where
  number : Option Int
  brain : Brain α
  headPitch : α
  stage : BotStage α Empty

/-- What the caller of a run may fix instead of the configuration. -/
structure Pace (α : Type) where
  duration : Option α
  fps : Option α
  realtime : Option Bool

namespace Bot

variable {α : Type} [Scalar α]

/-- One session of a run, which answers the bot's brain and the avatar's pitch before the stop. -/
def performance (config : BotConfig α) (pace : Pace α) : Act (Fault α) (BotStage α Empty) (Brain α × α) :=
  session config do
    discard (run .absent (pace.duration.getD config.simulation.duration) (pace.fps.getD config.simulation.fps)
      (pace.realtime.getD config.simulation.realtime))
    let s ← get
    match brain? s with
    | some brain => return (brain, s.avatar.headPitch)
    | none => throw .notStarted

/-- Runs one bot from the start on a host that has written down some lines already. -/
def simulate (config : BotConfig α) (pace : Pace α) (source : Source α) (journal : Journal α) :
    Except (Fault α) (Summary α) × Journal α :=
  let opening : BotStage α Empty := waiting source
  let (result, stage) := (performance config pace).run { opening with journal }
  (result.map fun (brain, headPitch) => ⟨stage.cast.appearance.map (·.number), brain, headPitch, stage⟩, stage.journal)

end Bot
end Bystander
