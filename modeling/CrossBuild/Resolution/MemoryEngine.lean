import CrossBuild.Resolution.Engine

/-!
An engine whose values are given from the start.  Values can be cold, that is, not ready when they
are asked for the first time, and reads can be made to fail.
-/

namespace CrossBuild

structure RegisteredToolchains where
  toolchainType : Label
  pairs : List (Label × Label)
  raw : Bool := false
  answerType : Option Label := none

/-- The requests that are not ready when they are made for the first time. -/
inductive ColdRequests where
  | all
  | only (requests : List String)

def ColdRequests.contains : ColdRequests → String → Bool
  | all, _ => true
  | only requests, request => requests.contains request

namespace ToolchainQuery

def request (query : ToolchainQuery) : String :=
  "single_toolchain " ++ toString query.requirement.toolchainType

def fullRequest (query : ToolchainQuery) : String :=
  query.request ++ " mandatory=" ++ toString query.requirement.mandatory ++
    " config=" ++ toString query.configuration ++ " target=" ++ toString query.targetPlatform ++
    " debug=" ++ toString query.debug ++ " exec=" ++ Text.bracketList query.candidates

end ToolchainQuery

def Read.requests : Read → List String
  | configuration key => ["configuration " ++ toString key]
  | platforms labels => labels.map fun label => "platform " ++ toString label
  | constraintValues labels => labels.map fun label => "constraint " ++ toString label
  | toolchainTypes key labels =>
      labels.map fun label => "toolchain_type " ++ toString key ++ " " ++ toString label
  | registeredPlatforms key => ["registered_execution_platforms " ++ toString key]
  | toolchains queries => queries.map ToolchainQuery.fullRequest

structure MemoryEngine where
  configuration : PlatformConfiguration
  platforms : List Platform := []
  omitted : List Label := []
  constraintValues : List ConstraintValue := []
  toolchainTypes : List (Label × Label) := []
  registered : List Label := []
  toolchains : List RegisteredToolchains := []
  cold : ColdRequests := .only []
  neverReady : List String := []
  failures : List (String × Failure) := []

namespace MemoryEngine

abbrev Seen := List String

def isPending (engine : MemoryEngine) (seen : Seen) (request : String) : Bool :=
  engine.neverReady.contains request || (engine.cold.contains request && !seen.contains request)

/-- Takes note of all requests of a read, and says whether the read is not ready, fails with the
failure of its first request that has one, or can be answered. -/
def note (engine : MemoryEngine) (requests : List String) (seen : Seen) : Eval Unit × Seen :=
  let result : Eval Unit :=
    if requests.any (engine.isPending seen) then .error .notReady
    else
      match requests.findSome? fun request => engine.failures.lookup request with
      | some failure => .error (.failed failure)
      | none => .ok ()
  (result, requests ++ seen)

def findPlatforms (engine : MemoryEngine) (labels : List Label) :
    Eval (OrderedMap Label Platform) :=
  labels.foldlM
    (fun found label =>
      if engine.omitted.contains label then .ok found
      else
        match engine.platforms.find? fun platform => platform.label = label with
        | some platform => .ok (found.insert label platform)
        | none => Eval.fail (.lookup (.invalidPlatform label)))
    OrderedMap.empty

def findConstraintValues (engine : MemoryEngine) (labels : List Label) :
    Eval (List ConstraintValue) :=
  labels.mapM fun label =>
    match engine.constraintValues.find? fun value => value.label = label with
    | some value => .ok value
    | none => Eval.fail (.lookup (.invalidConstraintValue label))

def findToolchainTypes (engine : MemoryEngine) (labels : List Label) :
    Eval (OrderedMap Label ToolchainType) :=
  labels.foldlM
    (fun found label =>
      match engine.toolchainTypes.lookup label with
      | some actual => .ok (found.insert label ⟨actual⟩)
      | none => Eval.fail (.lookup (.invalidToolchainType label)))
    OrderedMap.empty

def pairsFor (toolchains : RegisteredToolchains) (candidates : List Label) :
    List (Label × Label) :=
  if toolchains.raw then toolchains.pairs
  else candidates.filterMap fun candidate => toolchains.pairs.find? fun pair => pair.1 = candidate

def findToolchains (engine : MemoryEngine) (query : ToolchainQuery) :
    Eval ToolchainAvailability :=
  let wanted := query.requirement.toolchainType
  match engine.toolchains.find? fun toolchains => toolchains.toolchainType = wanted with
  | none => Eval.fail (.lookup (.noToolchainFound wanted))
  | some toolchains =>
      .ok {
        toolchainType := ⟨toolchains.answerType.getD wanted⟩
        available := OrderedMap.ofList (pairsFor toolchains query.candidates) }

def answerQueries (engine : MemoryEngine) :
    List ToolchainQuery → Seen → List (Eval ToolchainAvailability) × Seen
  | [], seen => ([], seen)
  | query :: rest, seen =>
      let (noted, seen) := engine.note [query.request] seen
      let (later, seen) := engine.answerQueries rest seen
      ((noted.bind fun _ => engine.findToolchains query) :: later, seen)

def answer (engine : MemoryEngine) (read : Read) (seen : Seen) : read.Answer × Seen :=
  match read with
  | .toolchains queries => engine.answerQueries queries seen
  | .configuration key =>
      let (noted, seen) := engine.note (Read.configuration key).requests seen
      (noted.map fun _ => engine.configuration, seen)
  | .platforms labels =>
      let (noted, seen) := engine.note (Read.platforms labels).requests seen
      (noted.bind fun _ => engine.findPlatforms labels, seen)
  | .constraintValues labels =>
      let (noted, seen) := engine.note (Read.constraintValues labels).requests seen
      (noted.bind fun _ => engine.findConstraintValues labels, seen)
  | .toolchainTypes key labels =>
      let (noted, seen) := engine.note (Read.toolchainTypes key labels).requests seen
      (noted.bind fun _ => engine.findToolchainTypes labels, seen)
  | .registeredPlatforms key =>
      let (noted, seen) := engine.note (Read.registeredPlatforms key).requests seen
      (noted.map fun _ => engine.registered, seen)

def toEngine (engine : MemoryEngine) : Engine Seen := ⟨engine.answer⟩

end MemoryEngine

end CrossBuild
