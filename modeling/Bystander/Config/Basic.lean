import Bystander.Behavior.Settings
import Bystander.Space.Bounds
/-! # What a bot is told before it starts -/
namespace Bystander

/-- Where models and sounds are loaded from, and which looks a bot has; without a number they are drawn. -/
structure AssetsConfig where
  root : String
  number : Option Int
deriving Repr, DecidableEq

structure SimulationConfig (α : Type) where
  fps : α
  duration : α
  realtime : Bool
  seed : Option Int

/-- The whole configuration of a bot: the box it lives in, its looks, the run, and its behaviour. -/
structure BotConfig (α : Type) where
  version : String
  spawn : Bounds α
  assets : AssetsConfig
  simulation : SimulationConfig α
  /-- The names of the behaviour sections that were given, in order; those that are not known have no effect. -/
  sections : List String
  settings : Settings α

variable {α : Type} [Scalar α]

def AssetsConfig.standard : AssetsConfig := ⟨"https://s3-us-west-1.amazonaws.com/highfidelity-public", none⟩

def SimulationConfig.standard : SimulationConfig α := ⟨60.0, 10.0, false, none⟩

def BotConfig.standard : BotConfig α := ⟨"1.0", .standard, .standard, .standard, [], .standard⟩

end Bystander
