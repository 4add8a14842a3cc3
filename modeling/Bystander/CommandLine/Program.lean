import Bystander.CommandLine.Command
import Bystander.CommandLine.Row
import Bystander.Config.Load
import Bystander.Environment.Flags
/-! # The program

A command is done on the files and variables that it finds.  Errors of the bot's own that come up while settings are
loaded are reported; all others end the program.
-/
namespace Bystander.CommandLine

structure World where
  files : Files
  environment : List (String × String)
  home : String
  /-- The seed of a run for which none is fixed. -/
  chance : Int

inductive Ending where
  | done
  | reported
  /-- An error came up that nobody handles. -/
  | escaped (error : Report)
  /-- The command line names no command. -/
  | misused

def Ending.exitCode : Ending → Nat
  | .done => 0
  | .reported => 1
  | .escaped _ => 1
  | .misused => 2

structure Outcome where
  ending : Ending
  rows : List Row
  files : Files
  /-- The path of the log file that was opened. -/
  log : Option String
  lines : List (Line Float)

namespace Outcome

def quiet (w : World) (ending : Ending) : Outcome := ⟨ending, [], w.files, none, []⟩

def printing (w : World) (rows : List Row) : Outcome := { quiet w .done with rows }

def failing (w : World) (json : Bool) (r : Report) : Outcome :=
  if r.isOwn then { quiet w .reported with rows := Row.failure json r } else quiet w (.escaped r)

end Outcome

def programVersion : String := "0.1.0"

def World.config (w : World) (path : Option String) : Except Report (BotConfig Float) :=
  (BotConfig.load w.files path (BotConfig.defaultPaths w.home)).mapError LoadError.report

def RunOptions.override (o : RunOptions) (c : BotConfig Float) : BotConfig Float :=
  { c with
    assets := { c.assets with number := o.number.or c.assets.number }
    simulation := { c.simulation with seed := o.seed.or c.simulation.seed } }

def RunOptions.pace (o : RunOptions) : Pace Float := ⟨o.seconds, o.fps, if o.realtime then some true else none⟩

/-- Runs a bot as a configuration and options say; the first line tells how. -/
def launch (o : RunOptions) (config : BotConfig Float) (chance : Int) :
    Except (Fault Float) (Summary Float) × Journal Float :=
  let c := o.override config
  let launching := Event.launching (o.seconds.getD c.simulation.duration) (o.fps.getD c.simulation.fps) c.simulation.seed
  Bot.simulate c o.pace (.seeded (c.simulation.seed.getD chance)) (Journal.empty.note launching)

/-- The log file, opened before anything else is read. -/
def World.openLog (w : World) : Option String → Except Report World
  | none => .ok w
  | some path =>
    match w.files.openLog path with
    | .ok files => .ok { w with files }
    | .error obstacle => .error (.general obstacle.kind (obstacle.message (Path.normalize path)))

def run (o : RunOptions) (w : World) : Outcome :=
  match Environment.flags w.environment w.files with
  | .error e => .quiet w (.escaped e.report)
  | .ok flags =>
    match w.openLog o.log with
    | .error r => .quiet w (.escaped r)
    | .ok w =>
      let json := o.json || flags.json
      match w.config o.config with
      | .error r => { Outcome.failing w json r with log := o.log }
      | .ok config =>
        let (result, journal) := launch o config w.chance
        let threshold := if flags.debug then Level.debug else Level.info
        let outcome :=
          match result with
          | .ok summary => Outcome.printing w (Row.summary summary)
          | .error fault => .quiet w (.escaped fault.report)
        { outcome with log := o.log, lines := journal.above threshold.rank }

def showAppearance (number : Int) (config : Option String) (w : World) : Outcome :=
  match w.config config with
  | .error r => .failing w false r
  | .ok config =>
    match (Catalog.appearance number config.assets.root : Except (Fault Float) Appearance) with
    | .error fault => .failing w false fault.report
    | .ok looks => .printing w (Row.appearance looks)

def listSounds (config : Option String) (w : World) : Outcome :=
  match w.config config with
  | .error r => .failing w false r
  | .ok config => .printing w (Row.sounds config.assets.root)

def perform (arguments : List String) (w : World) : Outcome :=
  match Command.ofArguments arguments with
  | none => .quiet w .misused
  | some (.run options) => run options w
  | some (.appearance number config) => showAppearance number config w
  | some (.sounds config) => listSounds config w
  | some .version => .printing w [.text ("Avatar Bot v" ++ programVersion)]

end Bystander.CommandLine
