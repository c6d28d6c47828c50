import CrossBuild.Constraint
import CrossBuild.Eval
import CrossBuild.Event
import CrossBuild.Resolution.Key

/-!
The evaluation engine as resolution sees it: a state, and answers to a few kinds of reads.  A read
never blocks; a value that does not exist yet is not ready, and the engine takes note of it.
-/

namespace CrossBuild

/-- A read asks for all its values at once, so that one restart covers them all. -/
inductive Read where
  | configuration (key : ConfigurationKey)
  | platforms (labels : List Label)
  | constraintValues (labels : List Label)
  | toolchainTypes (configuration : ConfigurationKey) (labels : List Label)
  | registeredPlatforms (configuration : ConfigurationKey)
  | toolchains (queries : List ToolchainQuery)
deriving DecidableEq

namespace Read

abbrev Answer : Read → Type
  | configuration _ => Eval PlatformConfiguration
  | platforms _ => Eval (OrderedMap Label Platform)
  | constraintValues _ => Eval (List ConstraintValue)
  | toolchainTypes _ _ => Eval (OrderedMap Label ToolchainType)
  | registeredPlatforms _ => Eval (List Label)
  | toolchains _ => List (Eval ToolchainAvailability)

end Read

structure Engine (σ : Type) where
  answer : (read : Read) → σ → read.Answer × σ

/-- The state of the engine, the reads of this attempt in order, and the events that wait for its
end. -/
structure Session (σ : Type) where
  state : σ
  reads : List Read := []
  events : EventBuffer := {}

abbrev Attempt (σ α : Type) := ExceptT Suspension (StateM (Session σ)) α

namespace Attempt

variable {σ α : Type}

def ask (engine : Engine σ) (read : Read) : Attempt σ read.Answer := fun session =>
  let reply := engine.answer read session.state
  (.ok reply.1, { session with state := reply.2, reads := session.reads ++ [read] })

def ofEval (result : Eval α) : Attempt σ α := fun session => (result, session)

def explain (wanted : Bool) (messages : List String) : Attempt σ Unit := fun session =>
  if wanted then (.ok (), { session with events := messages.foldl EventBuffer.info session.events })
  else (.ok (), session)

end Attempt

end CrossBuild
