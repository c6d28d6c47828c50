import CrossBuild.Proofs.Agreement
import CrossBuild.Proofs.SelectionLaw

/-!
Requests in different words.  Aliases, repetitions, flags and the calls by which requirements were
added leave no trace in a resolution but the requested labels themselves.
-/

namespace CrossBuild

def ToolchainQuery.unmarked (query : ToolchainQuery) : ToolchainQuery :=
  { query with requirement := { query.requirement with mandatory := true } }

def Read.unspelled : Read → Read
  | .toolchainTypes key _ => .toolchainTypes key []
  | .toolchains queries => .toolchains (queries.map ToolchainQuery.unmarked)
  | read => read

/-- Resolutions that differ at most in the requested labels and in the flags of requirements. -/
structure Resolution.SameChoice (one two : Resolution) : Prop where
  executionPlatform : one.executionPlatform = two.executionPlatform
  targetPlatform : one.targetPlatform = two.targetPlatform
  toolchains : one.toolchains = two.toolchains
  skipped : one.skipped = two.skipped
  types : one.requirements.map ToolchainRequirement.toolchainType =
    two.requirements.map ToolchainRequirement.toolchainType

namespace ToolchainRequirement

theorem distinct_map_addAll (type : Label → Label)
    (requirements added : List ToolchainRequirement) :
    distinct (((addAll requirements added).map toolchainType).map type) =
      distinct (((requirements ++ added).map toolchainType).map type) := by
  induction added using List.reverseRecOn with
  | nil => rw [List.append_nil]; rfl
  | append_singleton added last ih =>
      have step : addAll requirements (added ++ [last]) = add (addAll requirements added) last := by
        rw [addAll, List.foldl_append]
        rfl
      have flat : distinct (((requirements ++ (added ++ [last])).map toolchainType).map type) =
          distinct (((addAll requirements added).map toolchainType).map type ++
            [type last.toolchainType]) := by
        rw [distinct_append_congr ih, ← List.append_assoc, List.map_append, List.map_append]
        rfl
      rw [step, map_toolchainType_add, flat]
      split
      -- Only a repeated label is dropped.  An alias stays and is merged by its type.
      next repeated => rw [distinct_concat, if_pos (List.mem_map_of_mem repeated)]
      next => rw [List.map_append]; rfl

end ToolchainRequirement

namespace ResolutionKey

/-- The types that the key asks for, each where it is first asked for. -/
def canonicalTypes (key : ResolutionKey) (aliases : OrderedMap Label ToolchainType) : List Label :=
  distinct (key.requestedTypes.map fun requested =>
    (ToolchainType.denotedBy aliases requested).label)

theorem canonicalTypes_addRequirements (key : ResolutionKey) (added : List ToolchainRequirement)
    (aliases : OrderedMap Label ToolchainType) :
    (key.addRequirements added).canonicalTypes aliases =
      distinct ((key.requestedTypes ++ added.map ToolchainRequirement.toolchainType).map
        fun requested => (ToolchainType.denotedBy aliases requested).label) := by
  rw [requestedTypes, ← List.map_append]
  exact ToolchainRequirement.distinct_map_addAll _ key.requirements added

theorem canonicalTypes_foldl_addRequirements (key : ResolutionKey)
    (calls : List (List ToolchainRequirement)) (aliases : OrderedMap Label ToolchainType) :
    (calls.foldl addRequirements key).canonicalTypes aliases =
      (key.addRequirements calls.flatten).canonicalTypes aliases := by
  induction calls using List.reverseRecOn with
  | nil => rfl
  | append_singleton calls last ih =>
      have flat : key.requestedTypes ++
            (calls ++ [last]).flatten.map ToolchainRequirement.toolchainType =
          (key.requestedTypes ++ calls.flatten.map ToolchainRequirement.toolchainType) ++
            last.map ToolchainRequirement.toolchainType := by simp
      rw [canonicalTypes_addRequirements] at ih ⊢
      rw [List.foldl_append, List.foldl_cons, List.foldl_nil, canonicalTypes_addRequirements, flat,
        List.map_append, List.map_append]
      exact distinct_append_congr ih _

theorem map_toolchainType_canonicalAll (key : ResolutionKey)
    (aliases : OrderedMap Label ToolchainType) :
    (ToolchainRequirement.canonicalAll aliases key.requirements).map
        ToolchainRequirement.toolchainType = key.canonicalTypes aliases :=
  ToolchainRequirement.map_toolchainType_canonicalAll aliases key.requirements

theorem map_unmarked_queries (key : ResolutionKey) (inputs : ResolutionInputs)
    (candidates : List Label) :
    (key.queries inputs candidates).map ToolchainQuery.unmarked =
      (inputs.requirements.map ToolchainRequirement.toolchainType).map fun type =>
        { configuration := key.configuration
          requirement := { toolchainType := type }
          targetPlatform := inputs.configuration.target
          candidates := candidates
          debug := key.debug } := by
  rw [queries, List.map_map, List.map_map]
  rfl

end ResolutionKey

def SameTypes (key other : ResolutionKey) (aliases otherAliases : OrderedMap Label ToolchainType) :
    Prop :=
  key.canonicalTypes aliases = other.canonicalTypes otherAliases

theorem parallel_of_sameTypes {σ : Type} {engine : Engine σ} {related : σ → σ → Prop}
    (agrees : engine.Agrees Read.unspelled related engine) {key other : ResolutionKey}
    (rest : other = { key with requirements := other.requirements })
    (types : engine.Concurs engine related (.toolchainTypes key.configuration key.requestedTypes)
      (.toolchainTypes other.configuration other.requestedTypes)
      (Eval.Alike (SameTypes key other))) :
    Parallel Read.unspelled (SameTypes key other) related engine engine key other where
  agrees := agrees
  configuration := by rw [rest]
  executionConstraints := by rw [rest]
  forcedPlatform := by rw [rest]
  typesRead := by rw [rest]; rfl
  types := types
  required aliases otherAliases same := by
    rw [key.map_toolchainType_canonicalAll, other.map_toolchainType_canonicalAll]
    exact same
  queries _ _ aliases otherAliases registered candidates same alike := by
    have debug : key.debug = other.debug := by rw [rest]
    have keys : key.configuration = other.configuration := by rw [rest]
    simp only [Read.unspelled, ResolutionKey.map_unmarked_queries, ResolutionKey.inputs,
      key.map_toolchainType_canonicalAll, other.map_toolchainType_canonicalAll, debug, keys,
      same.target]
    rw [show key.canonicalTypes aliases = other.canonicalTypes otherAliases from alike]

/-- Only the canonical types of a request matter, and whether it is explained. -/
theorem outcome_of_sameTypes {σ : Type} (engine : Engine σ) (related : σ → σ → Prop)
    (agrees : engine.Agrees Read.unspelled related engine) (key other : ResolutionKey)
    (rest : other = { key with requirements := other.requirements })
    (types : engine.Concurs engine related (.toolchainTypes key.configuration key.requestedTypes)
      (.toolchainTypes other.configuration other.requestedTypes)
      fun answer otherAnswer => ∃ aliases otherAliases,
        answer = .ok aliases ∧ otherAnswer = .ok otherAliases ∧
          key.canonicalTypes aliases = other.canonicalTypes otherAliases)
    (state otherState : σ) (start : related state otherState) :
    Eval.Alike Resolution.SameChoice (engine.attempt key state).1.outcome
        (engine.attempt other otherState).1.outcome ∧
      ∃ messages : List Event,
        (engine.attempt key state).1.delivered.events =
          (if engine.explains key state then messages else []) ∧
        (engine.attempt other otherState).1.delivered.events =
          if engine.explains other otherState then messages else [] := by
  have parallel := parallel_of_sameTypes agrees rest
    fun state otherState states => by
      obtain ⟨⟨aliases, otherAliases, answered, otherAnswered, same⟩, later⟩ :=
        types state otherState states
      exact ⟨by rw [answered, otherAnswered]; exact .ok same, later⟩
  have common := parallel.attempt start
  refine ⟨common.outcome.imp ?_, common.delivered⟩
  intro one two same
  refine ⟨same.executionPlatform, same.targetPlatform, same.toolchains, same.skipped, ?_⟩
  rw [same.requirements, same.otherRequirements]
  exact parallel.required _ _ same.requestedTypes

def respelledKey : ResolutionKey :=
  [[{ toolchainType := ⟨"", "toolchains", "cc"⟩, mandatory := false }],
    [{ toolchainType := ⟨"", "toolchains", "py"⟩ },
      { toolchainType := ⟨"", "toolchains", "c++"⟩ }]].foldl
    ResolutionKey.addRequirements { mixedKey with requirements := [] }

theorem outcome_of_sameTypes_respelled :
    mixedSupply.engine.Agrees Read.unspelled (fun _ _ => True) mixedSupply.engine ∧
      respelledKey = { mixedKey with requirements := respelledKey.requirements } ∧
      mixedKey.requestedTypes ≠ respelledKey.requestedTypes ∧
      mixedKey.canonicalTypes mixedSupply.aliases =
        respelledKey.canonicalTypes mixedSupply.aliases ∧
      ∃ one two, (mixedSupply.engine.attempt mixedKey ()).1.outcome = .ok one ∧
        (mixedSupply.engine.attempt respelledKey ()).1.outcome = .ok two ∧
        one.SameChoice two ∧ one.requirements ≠ two.requirements := by
  have agrees : mixedSupply.engine.Agrees Read.unspelled (fun _ _ => True) mixedSupply.engine :=
    mixedSupply.agrees_engine mixedSupply.configuration.debugFilter (fun _ => rfl) fun _ => rfl
  have types : mixedKey.canonicalTypes mixedSupply.aliases =
      respelledKey.canonicalTypes mixedSupply.aliases := by decide
  have alike := (outcome_of_sameTypes mixedSupply.engine (fun _ _ => True) agrees mixedKey
    respelledKey rfl (fun _ _ _ => ⟨⟨_, _, rfl, rfl, types⟩, trivial⟩) () () trivial).1
  refine ⟨agrees, rfl, by decide, types, _, _, rfl, rfl, ?_, by decide⟩
  cases alike with
  | ok same => exact same

end CrossBuild
