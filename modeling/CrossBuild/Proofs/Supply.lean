import CrossBuild.Proofs.Course
import CrossBuild.Proofs.FirstOccurrence
import CrossBuild.Proofs.Screening
import Mathlib.Data.List.Forall2
import Mathlib.Data.List.Nodup

/-!
A build as the user describes it, and the resolution that this description calls for.  Nothing here
reads from an engine; an engine serves a supply if it answers reads with what the supply holds.
-/

namespace CrossBuild

structure Supply where
  configuration : PlatformConfiguration
  describe : Label → Platform
  label_describe : ∀ label, (describe label).label = label
  aliases : OrderedMap Label ToolchainType
  registered : List Label
  constraints : List ConstraintValue
  toolchain? : Label → Label → Option Label

namespace Supply

variable (supply : Supply) (key : ResolutionKey)

def canonical (requested : Label) : Label :=
  (supply.aliases.get? requested).elim requested ToolchainType.label

def types : List Label := distinct (key.requestedTypes.map supply.canonical)

def required : List ConstraintValue :=
  if key.executionConstraints = [] then [] else supply.constraints

def candidates : List Label :=
  supply.registered ++
    if supply.configuration.host ∈ supply.registered then [] else [supply.configuration.host]

def lacks (platform : Label) : List ConstraintValue :=
  (supply.required key).filter fun value => value ∉ (supply.describe platform).constraints.values

def kept : List Label :=
  supply.candidates.filter fun platform => (supply.lacks key platform).isEmpty

def dropped : List (Label × SkipReason) :=
  (supply.candidates.filter fun platform => !(supply.lacks key platform).isEmpty).map
    fun platform => (platform, .missingConstraints (supply.lacks key platform))

def isMissing (platforms : List Label) (type : Label) : Bool :=
  platforms.all fun platform => (supply.toolchain? type platform).isNone

def unresolved : List Label := (supply.types key).filter (supply.isMissing (supply.kept key))

def absent (platform : Label) : List Label :=
  (supply.types key).filter fun type => (supply.toolchain? type platform).isNone

def suits (platform : Label) : Bool := (supply.absent key platform).isEmpty

variable {supply key} in
theorem suits_iff {platform : Label} : supply.suits key platform = true ↔
    ∀ type ∈ supply.types key, (supply.toolchain? type platform).isSome = true := by
  simp [suits, absent, List.filter_eq_nil_iff, Option.isSome_iff_ne_none]

def pairs (platform : Label) : List (ToolchainType × Label) :=
  (supply.types key).filterMap fun type =>
    (supply.toolchain? type platform).map fun toolchain => (⟨type⟩, toolchain)

theorem map_fst_pairs_nodup (platform : Label) :
    ((supply.pairs key platform).map Prod.fst).Nodup := by
  rw [pairs, List.map_filterMap]
  refine List.Nodup.filterMap ?_ (nodup_distinct _)
  intro first second type firstFound secondFound
  simp only [Option.map_map, Option.mem_def, Option.map_eq_some_iff] at firstFound secondFound
  obtain ⟨_, _, rfl⟩ := firstFound
  obtain ⟨_, _, same⟩ := secondFound
  exact (ToolchainType.mk.inj same).symm

def toolchainsOn (platform : Label) : OrderedMap ToolchainType Label :=
  ⟨supply.pairs key platform, supply.map_fst_pairs_nodup key platform⟩

def selection : Eval Selection :=
  if supply.unresolved key ≠ [] then
    Eval.fail (.resolution (.unresolvedToolchains (supply.unresolved key)))
  else
    match (supply.kept key).find? (supply.suits key) with
    | none =>
        Eval.fail (.resolution (.noMatchingPlatform (supply.types key) (supply.kept key)
          supply.configuration.target))
    | some platform => .ok {
        platform := platform
        toolchains := supply.toolchainsOn key platform
        skipped := ((supply.kept key).takeWhile fun other => !supply.suits key other).map
          fun other => (other, .missingToolchains ((supply.absent key other).map .mk)) }

def resolution (selection : Selection) : Resolution where
  executionPlatform := supply.describe selection.platform
  targetPlatform := supply.describe supply.configuration.target
  requirements := ToolchainRequirement.canonicalAll supply.aliases key.requirements
  requestedTypes := supply.aliases
  toolchains := selection.toolchains
  skipped := supply.dropped key ++ selection.skipped

def verdict : Eval Resolution := (supply.selection key).map (supply.resolution key)

/-- The answer for one query is exact on the candidates of the query. -/
inductive Resolves (query : ToolchainQuery) : Eval ToolchainAvailability → Prop
  | found (value : ToolchainAvailability)
      (type : value.toolchainType = ⟨query.requirement.toolchainType⟩)
      (exact : ∀ platform, value.available.get? platform =
        if platform ∈ query.candidates then
          supply.toolchain? query.requirement.toolchainType platform
        else none) :
      Resolves query (.ok value)
  | absent (none : ∀ platform ∈ query.candidates,
        supply.toolchain? query.requirement.toolchainType platform = none)
      (failure : Failure)
      (root : failure.root = .lookup (.noToolchainFound query.requirement.toolchainType)) :
      Resolves query (.error (.failed failure))

def Answers : Exchange → Prop
  | ⟨.configuration _, answer⟩ => answer = Except.ok supply.configuration
  | ⟨.platforms labels, answer⟩ => ∃ known, answer = Except.ok known ∧
      ∀ label ∈ labels, known.get? label = some (supply.describe label)
  | ⟨.constraintValues _, answer⟩ => answer = Except.ok supply.constraints
  | ⟨.toolchainTypes _ _, answer⟩ => answer = Except.ok supply.aliases
  | ⟨.registeredPlatforms _, answer⟩ => answer = Except.ok supply.registered
  | ⟨.toolchains queries, answers⟩ => List.Forall₂ supply.Resolves queries answers

def lookUp (query : ToolchainQuery) : Eval ToolchainAvailability :=
  if supply.isMissing query.candidates query.requirement.toolchainType then
    Eval.fail (.lookup (.noToolchainFound query.requirement.toolchainType))
  else .ok {
    toolchainType := ⟨query.requirement.toolchainType⟩
    available := OrderedMap.ofList (query.candidates.filterMap fun platform =>
      (supply.toolchain? query.requirement.toolchainType platform).map fun toolchain =>
        (platform, toolchain)) }

def engine : Engine Unit where
  answer
    | .configuration _, _ => (.ok supply.configuration, ())
    | .platforms labels, _ =>
        (.ok (.ofList (labels.filterMap fun label =>
          (some (supply.describe label)).map fun platform => (label, platform))), ())
    | .constraintValues _, _ => (.ok supply.constraints, ())
    | .toolchainTypes _ _, _ => (.ok supply.aliases, ())
    | .registeredPlatforms _, _ => (.ok supply.registered, ())
    | .toolchains queries, _ => (queries.map supply.lookUp, ())

theorem resolves_lookUp (query : ToolchainQuery) : supply.Resolves query (supply.lookUp query) := by
  unfold lookUp
  split
  next missing =>
    refine .absent ?_ _ rfl
    intro platform member
    exact Option.isNone_iff_eq_none.mp (List.all_eq_true.mp missing platform member)
  next =>
    refine .found _ rfl ?_
    intro platform
    exact OrderedMap.get?_ofList_filterMap _ query.candidates platform

theorem answers_engine (read : Read) : supply.Answers ⟨read, (supply.engine.answer read ()).1⟩ := by
  cases read with
  | configuration key => rfl
  | platforms labels =>
      refine ⟨_, rfl, ?_⟩
      intro label member
      rw [OrderedMap.get?_ofList_filterMap (fun label => some (supply.describe label)),
        if_pos member]
  | constraintValues labels => rfl
  | toolchainTypes key labels => rfl
  | registeredPlatforms key => rfl
  | toolchains queries =>
      change List.Forall₂ supply.Resolves queries (queries.map supply.lookUp)
      rw [List.forall₂_map_right_iff]
      exact List.forall₂_same.mpr fun query _ => supply.resolves_lookUp query

theorem served_engine (reads : List Read) :
    ∀ exchange ∈ supply.engine.transcript reads (), supply.Answers exchange :=
  Engine.forall_mem_transcript (fun read _ => supply.answers_engine read) reads ()

end Supply

end CrossBuild
