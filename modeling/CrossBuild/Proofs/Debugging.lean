import CrossBuild.Proofs.Agreement
import CrossBuild.Proofs.SelectionLaw

/-!
The debug switch.  It decides whether an attempt is explained, together with the filter of the
configuration; what the attempt reads and where it ends depends on neither.
-/

namespace CrossBuild

def ToolchainQuery.silenced (query : ToolchainQuery) : ToolchainQuery :=
  { query with debug := false }

def Read.silenced : Read → Read
  | .toolchains queries => .toolchains (queries.map ToolchainQuery.silenced)
  | read => read

theorem parallel_setDebug {σ τ : Type} {first : Engine σ} {second : Engine τ}
    {related : σ → τ → Prop} (agrees : first.Agrees Read.silenced related second)
    (key : ResolutionKey) (debug : Bool)
    (types : first.Concurs second related (.toolchainTypes key.configuration key.requestedTypes)
      (.toolchainTypes key.configuration key.requestedTypes) Eq) :
    Parallel Read.silenced Eq related first second key (key.setDebug debug) where
  agrees := agrees
  configuration := rfl
  executionConstraints := rfl
  forcedPlatform := rfl
  typesRead := rfl
  types state otherState states :=
    ⟨.of_eq (types state otherState states).1, (types state otherState states).2⟩
  required aliases otherAliases same := by rw [same]; rfl
  queries configuration otherConfiguration aliases _ registered candidates same alike := by
    subst alike
    have targets : (key.inputs configuration aliases registered).configuration.target =
        ((key.setDebug debug).inputs otherConfiguration aliases registered).configuration.target :=
      same.target
    simp only [Read.silenced, ResolutionKey.queries, List.map_map, targets]
    rfl

theorem Resolution.Matches.eq {key : ResolutionKey} {debug : Bool} {one two : Resolution}
    (same : Resolution.Matches key (key.setDebug debug) Eq one two) : one = two := by
  have requirements : one.requirements = two.requirements := by
    rw [same.requirements, same.otherRequirements, same.requestedTypes]
    rfl
  cases one
  cases two
  rw [Resolution.mk.injEq]
  exact ⟨same.executionPlatform, same.targetPlatform, requirements, same.requestedTypes,
    same.toolchains, same.skipped⟩

/-- With the switch or the filter in another position, an attempt issues the same reads and has the
same outcome.  There is one list of messages, and the listener is told all of it or nothing. -/
theorem attempt_setDebug {σ τ : Type} (first : Engine σ) (second : Engine τ)
    (related : σ → τ → Prop) (agrees : first.Agrees Read.silenced related second)
    (key : ResolutionKey) (debug : Bool)
    (types : first.Concurs second related (.toolchainTypes key.configuration key.requestedTypes)
      (.toolchainTypes key.configuration key.requestedTypes) Eq)
    (state : σ) (otherState : τ) (start : related state otherState) :
    (second.attempt (key.setDebug debug) otherState).1.outcome =
        (first.attempt key state).1.outcome ∧
      (second.attempt (key.setDebug debug) otherState).1.reads.map Read.silenced =
        (first.attempt key state).1.reads.map Read.silenced ∧
      ∃ messages : List Event,
        (first.attempt key state).1.delivered.events =
          (if first.explains key state then messages else []) ∧
        (second.attempt (key.setDebug debug) otherState).1.delivered.events =
          if second.explains (key.setDebug debug) otherState then messages else [] := by
  have common := (parallel_setDebug agrees key debug types).attempt start
  refine ⟨?_, common.reads.symm, common.delivered⟩
  have outcome := common.outcome
  generalize (first.attempt key state).1.outcome = result at outcome ⊢
  generalize (second.attempt (key.setDebug debug) otherState).1.outcome = other at outcome ⊢
  cases outcome with
  | ok same => rw [same.eq]
  | error cause => rfl

def includeAll : DebugFilter := { inclusion := some ⟨[], fun _ => true⟩ }

theorem attempt_setDebug_mixedSupply :
    mixedSupply.engine.Agrees Read.silenced (fun _ _ => True)
        (mixedSupply.filteredBy includeAll).engine ∧
      ∃ resolution, (mixedSupply.engine.attempt mixedKey ()).1.outcome = .ok resolution ∧
        ((mixedSupply.filteredBy includeAll).engine.attempt
          (mixedKey.setDebug true) ()).1.outcome = .ok resolution ∧
        ((mixedSupply.filteredBy includeAll).engine.attempt
            (mixedKey.setDebug true) ()).1.reads.map Read.silenced =
          (mixedSupply.engine.attempt mixedKey ()).1.reads.map Read.silenced ∧
        (mixedSupply.engine.attempt mixedKey ()).1.delivered.events = [] ∧
        ((mixedSupply.filteredBy includeAll).engine.attempt
          (mixedKey.setDebug true) ()).1.delivered.events ≠ [] := by
  have agrees : mixedSupply.engine.Agrees Read.silenced (fun _ _ => True)
      (mixedSupply.filteredBy includeAll).engine :=
    mixedSupply.agrees_engine _ (fun _ => rfl) fun _ => rfl
  obtain ⟨outcome, reads, -⟩ := attempt_setDebug mixedSupply.engine _ _ agrees mixedKey true
    (fun _ _ _ => ⟨rfl, trivial⟩) () () trivial
  exact ⟨agrees, _, rfl, outcome, reads, rfl, by decide +kernel⟩

end CrossBuild
