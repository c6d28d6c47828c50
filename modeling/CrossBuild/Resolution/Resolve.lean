import CrossBuild.Resolution.Engine
import CrossBuild.Resolution.Selection

/-!
Toolchain resolution: the execution platform of a target and, for every toolchain type that the
target requires, the toolchain to use on it.  Nothing is kept between attempts; when a value is
not ready, the next attempt starts over.
-/

namespace CrossBuild

/-- The outcome of a resolution.  Loading the toolchains is left to others. -/
structure Resolution where
  executionPlatform : Platform
  targetPlatform : Platform
  requirements : List ToolchainRequirement
  requestedTypes : OrderedMap Label ToolchainType
  toolchains : OrderedMap ToolchainType Label
  skipped : List (Label × SkipReason)

namespace Resolution

def toolchainFor? (resolution : Resolution) (requested : Label) : Option Label :=
  resolution.toolchains.get? ((resolution.requestedTypes.get? requested).getD ⟨requested⟩)

end Resolution

namespace ToolchainRequirement

def canonical (types : OrderedMap Label ToolchainType) (requirement : ToolchainRequirement) :
    ToolchainRequirement :=
  match types.get? requirement.toolchainType with
  | some toolchainType => requirement.retarget toolchainType.label
  | none => requirement

def canonicalAll (types : OrderedMap Label ToolchainType)
    (requirements : List ToolchainRequirement) : List ToolchainRequirement :=
  addAll [] (requirements.map (canonical types))

end ToolchainRequirement

structure ResolutionInputs where
  configuration : PlatformConfiguration
  explained : Bool
  types : OrderedMap Label ToolchainType
  requirements : List ToolchainRequirement
  candidates : List Label

namespace ResolutionKey

variable {σ : Type}

/-- A resolution is explained if its key says so or if the filter selects a requested label. -/
def isExplained (key : ResolutionKey) (configuration : PlatformConfiguration) : Bool :=
  key.debug || configuration.debugFilter.matchesAny key.requestedTypes

def readInputs (engine : Engine σ) (key : ResolutionKey) : Attempt σ ResolutionInputs := do
  let configuration ← Attempt.ofEval (← Attempt.ask engine (.configuration key.configuration))
  let types ← Attempt.ask engine (.toolchainTypes key.configuration key.requestedTypes)
  let platforms ← Attempt.ask engine (.platforms [configuration.host, configuration.target])
  let registered ← Attempt.ask engine (.registeredPlatforms key.configuration)
  let (types, _, registered) ←
    Attempt.ofEval (Eval.joinPair types (Eval.joinPair platforms registered))
  return {
    configuration := configuration
    explained := key.isExplained configuration
    types := types
    requirements := ToolchainRequirement.canonicalAll types key.requirements
    candidates := candidatePlatforms registered configuration.host }

/-- Drops the candidates that lack a required constraint value.  Without requirements nothing is
read, so that no restart can follow. -/
def screen (engine : Engine σ) (key : ResolutionKey) (inputs : ResolutionInputs) :
    Attempt σ Screening :=
  if key.executionConstraints.isEmpty then return .keepAll inputs.candidates
  else do
    let platforms ← Attempt.ask engine (.platforms inputs.candidates)
    let required ← Attempt.ask engine (.constraintValues key.executionConstraints)
    let (platforms, required) ← Attempt.ofEval (Eval.joinPair platforms required)
    let screening := Screening.run platforms required inputs.candidates
    Attempt.explain inputs.explained screening.messages
    match screening.unknown with
    | some candidate => Attempt.ofEval (Eval.fail (.lookup (.invalidPlatform candidate)))
    | none => return screening

def queries (key : ResolutionKey) (inputs : ResolutionInputs) (candidates : List Label) :
    List ToolchainQuery :=
  inputs.requirements.map fun requirement =>
    { configuration := key.configuration
      requirement := requirement
      targetPlatform := inputs.configuration.target
      candidates := candidates
      debug := key.debug }

def choose (engine : Engine σ) (key : ResolutionKey) (inputs : ResolutionInputs)
    (candidates : List Label) : Attempt σ Selection := do
  let results ← Attempt.ask engine (.toolchains (key.queries inputs candidates))
  let choice : PlatformChoice := {
    host := inputs.configuration.host
    target := inputs.configuration.target
    candidates := candidates }
  Attempt.ofEval
    (choice.select key.forcedPlatform inputs.requirements (inputs.requirements.zip results))

def platformOf (platforms : OrderedMap Label Platform) (label : Label) : Eval Platform :=
  match platforms.get? label with
  | some platform => .ok platform
  | none => Eval.fail (.lookup (.invalidPlatform label))

def selectionMessage (target execution : Platform) (toolchains : OrderedMap ToolchainType Label) :
    String :=
  let parts := toolchains.entries.map fun entry =>
    "type " ++ toString entry.1 ++ " -> toolchain " ++ toString entry.2
  ", ".intercalate
    (("ToolchainResolution: Target platform " ++ toString target.label ++
      ": Selected execution platform " ++ toString execution.label) :: parts)

def resolve (engine : Engine σ) (key : ResolutionKey) : Attempt σ Resolution := do
  let inputs ← key.readInputs engine
  let screening ← key.screen engine inputs
  let selection ← key.choose engine inputs screening.kept
  let target := inputs.configuration.target
  let platforms ← Attempt.ofEval
    (← Attempt.ask engine (.platforms [selection.platform, target]))
  let executionPlatform ← Attempt.ofEval (platformOf platforms selection.platform)
  let targetPlatform ← Attempt.ofEval (platformOf platforms target)
  Attempt.explain inputs.explained
    [selectionMessage targetPlatform executionPlatform selection.toolchains]
  return {
    executionPlatform := executionPlatform
    targetPlatform := targetPlatform
    requirements := inputs.requirements
    requestedTypes := inputs.types
    toolchains := selection.toolchains
    skipped := screening.skipped ++ selection.skipped }

end ResolutionKey

structure AttemptReport where
  outcome : Eval Resolution
  reads : List Read
  events : EventBuffer

namespace AttemptReport

/-- A failed or successful attempt hands its events to the listener.  An attempt that is not ready
runs again, and one that was interrupted says nothing. -/
def delivered (report : AttemptReport) : EventBuffer :=
  match report.outcome with
  | .ok _ => report.events
  | .error .notReady => {}
  | .error (.failed failure) => if failure.isInterrupted then {} else report.events

def notices (key : ResolutionKey) (listener : Listener) (report : AttemptReport) : List Notice :=
  (if report.outcome.isPending then
    [.debug (toString key ++ ": inputs not ready, discarding " ++ toString report.events.size ++
      " events")]
  else []) ++ report.delivered.flush listener

end AttemptReport

namespace Engine

variable {σ : Type}

def attempt (engine : Engine σ) (key : ResolutionKey) (state : σ) : AttemptReport × σ :=
  let (outcome, session) := (key.resolve engine).run { state := state }
  ({ outcome := outcome, reads := session.reads, events := session.events }, session.state)

/-- Runs attempts until one is ready or fails, up to a number of attempts. -/
def attempts (engine : Engine σ) (key : ResolutionKey) : Nat → σ → List AttemptReport × σ
  | 0, state => ([], state)
  | limit + 1, state =>
      let (report, state) := engine.attempt key state
      if report.outcome.isPending then
        let (later, state) := engine.attempts key limit state
        (report :: later, state)
      else ([report], state)

def attemptsAll (engine : Engine σ) (limit : Nat) :
    List ResolutionKey → σ → List (ResolutionKey × List AttemptReport)
  | [], _ => []
  | key :: rest, state =>
      let (reports, state) := engine.attempts key limit state
      (key, reports) :: engine.attemptsAll limit rest state

end Engine

end CrossBuild
