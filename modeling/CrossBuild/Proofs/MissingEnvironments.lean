import CrossBuild.Proofs.EnvironmentCollections
import CrossBuild.Proofs.EnvironmentLookups

/-!
Which expected environments are reported as missing, and with what explanation, once the groups of
all of them have been found.
-/

namespace CrossBuild

variable {lookup : EnvironmentLookup} {groupOf : Label → EnvironmentGroup}
  {environments : List Label}

theorem EnvironmentLookup.expected_eq
    (found : ∀ environment ∈ environments, lookup.groupOf environment = .ok (groupOf environment)) :
    ∃ collection, lookup.expected environments = .ok collection ∧
      OrderedMap.entries collection =
        (distinct environments).map fun environment => (environment, groupOf environment) := by
  have pairs : (environments.mapM fun environment => do
      return (← expecting environment (lookup.groupOf environment), environment)) =
        Except.ok (environments.map fun environment => (groupOf environment, environment)) := by
    apply mapM_eq_ok_map
    intro environment member
    rw [found environment member]
    rfl
  refine ⟨_, by rw [expected, pairs]; rfl, ?_⟩
  rw [EnvironmentCollection.ofPairs_eq_ofList, List.map_map]
  exact OrderedMap.entries_ofList_map groupOf environments

namespace EnvironmentSupport

variable (support : EnvironmentSupport)

def record (environment : Label) : MissingEnvironment where
  environment := environment
  removal := support.removalOf? environment

theorem missing_eq
    (found : ∀ environment ∈ environments, lookup.groupOf environment = .ok (groupOf environment)) :
    support.missing lookup environments =
      .ok (((distinct environments).filter fun environment =>
        !support.supports (groupOf environment) environment).map support.record) := by
  obtain ⟨collection, expected, entries⟩ := EnvironmentLookup.expected_eq found
  rw [missing, expected]
  change Except.ok _ = _
  rw [entries, List.filter_map, List.map_map]
  rfl

/-- Exactly the expected environments without support are reported. -/
theorem exists_missing
    (found : ∀ environment ∈ environments, lookup.groupOf environment = .ok (groupOf environment)) :
    ∃ missing, support.missing lookup environments = .ok missing ∧
      ∀ environment ∈ environments,
        (∃ report ∈ missing, report.environment = environment) ↔
          support.supports (groupOf environment) environment = false := by
  refine ⟨_, support.missing_eq found, ?_⟩
  intro environment member
  constructor
  · rintro ⟨report, listed, rfl⟩
    obtain ⟨other, kept, rfl⟩ := List.mem_map.mp listed
    simpa [record] using (List.mem_filter.mp kept).2
  · intro unsupported
    refine ⟨support.record environment, List.mem_map_of_mem ?_, rfl⟩
    rw [List.mem_filter, mem_distinct]
    exact ⟨member, by simpa using unsupported⟩

variable {support} {environment : Label} {group : EnvironmentGroup}

theorem supports_eq_true_iff_of_absent (absent : environment ∉ support.refined.environments) :
    support.supports group environment = true ↔
      support.refined.referencesGroup group.label = false ∧
        group.isDefault environment = true := by
  have gone : OrderedMap.contains support.refined environment = false := by
    rw [Bool.eq_false_iff, ne_eq, OrderedMap.contains_iff]
    exact absent
  simp [supports, gone]

theorem removalOf?_of_recorded {removal : EnvironmentRemoval}
    (recorded : support.removals.get? environment = some removal) :
    support.removalOf? environment = some removal := by
  rw [removalOf?, List.findSome?_cons, recorded]

end EnvironmentSupport

/-- An environment that is not among the refined ones is reported, and with its own removal, unless
it is a default of a group that the refined ones do not mention. -/
theorem missing_of_refinedAway (support : EnvironmentSupport) (lookup : EnvironmentLookup)
    (groupOf : Label → EnvironmentGroup) (expected : List Label)
    (found : ∀ environment ∈ expected, lookup.groupOf environment = .ok (groupOf environment)) :
    ∃ missing, support.missing lookup expected = .ok missing ∧
      ∀ environment ∈ expected, environment ∉ support.refined.environments →
        ((∃ report ∈ missing, report.environment = environment) ↔
          ¬(support.refined.referencesGroup (groupOf environment).label = false ∧
            (groupOf environment).isDefault environment = true)) ∧
        ∀ report ∈ missing, report.environment = environment →
          ∀ removal, support.removals.get? environment = some removal →
            report.removal = some removal := by
  obtain ⟨missing, outcome, reported⟩ := support.exists_missing found
  refine ⟨missing, outcome, ?_⟩
  intro environment member absent
  constructor
  · rw [reported environment member, ← Bool.not_eq_true,
      EnvironmentSupport.supports_eq_true_iff_of_absent absent]
  · rintro report listed rfl removal recorded
    rw [support.missing_eq found] at outcome
    cases outcome
    obtain ⟨other, _, rfl⟩ := List.mem_map.mp listed
    exact EnvironmentSupport.removalOf?_of_recorded recorded

def cpuLookup : EnvironmentLookup := { groups := [cpuGroup] : EnvironmentRegistry }.lookup

def armOnly : EnvironmentRemoval where
  culprit := ⟨"", "lib", "select"⟩
  selectedDependency := ⟨"", "lib", "arm_only"⟩

def narrowed : EnvironmentSupport where
  declared := .ofPairs [(cpuGroup, ⟨"", "envs", "k8"⟩), (cpuGroup, ⟨"", "envs", "arm"⟩)]
  refined := .ofPairs [(cpuGroup, ⟨"", "envs", "arm"⟩)]
  removals := .ofList [(⟨"", "envs", "k8"⟩, armOnly)]

def emptied : EnvironmentSupport where
  declared := .ofPairs [(cpuGroup, ⟨"", "envs", "k8"⟩)]
  removals := .ofList [(⟨"", "envs", "k8"⟩, armOnly)]

theorem missing_of_refinedAway_narrowed :
    (∀ environment ∈ [(⟨"", "envs", "arm"⟩ : Label), ⟨"", "envs", "k8"⟩],
        cpuLookup.groupOf environment = .ok cpuGroup) ∧
      ∃ missing, narrowed.missing cpuLookup [⟨"", "envs", "arm"⟩, ⟨"", "envs", "k8"⟩] =
          .ok missing ∧
        ∃ report ∈ missing, report.environment = ⟨"", "envs", "k8"⟩ ∧
          report.removal = some armOnly := by
  have found : ∀ environment ∈ [(⟨"", "envs", "arm"⟩ : Label), ⟨"", "envs", "k8"⟩],
      cpuLookup.groupOf environment = .ok cpuGroup :=
    List.forall_mem_cons.mpr ⟨rfl, List.forall_mem_singleton.mpr rfl⟩
  obtain ⟨missing, outcome, reported⟩ := missing_of_refinedAway narrowed cpuLookup
    (fun _ => cpuGroup) [⟨"", "envs", "arm"⟩, ⟨"", "envs", "k8"⟩] found
  obtain ⟨listed, explained⟩ := reported ⟨"", "envs", "k8"⟩ (by decide) (by decide)
  obtain ⟨report, member, same⟩ := listed.mpr (by decide)
  exact ⟨found, missing, outcome, report, member, same,
    explained report member same armOnly (by decide)⟩

/-- A declared default is not missed once refinement has emptied its group. -/
theorem missing_emptied :
    cpuLookup.groupOf ⟨"", "envs", "k8"⟩ = .ok cpuGroup ∧
      emptied.declared.groupOf? ⟨"", "envs", "k8"⟩ = some cpuGroup ∧
      ⟨"", "envs", "k8"⟩ ∈ emptied.declared.environments ∧
      ⟨"", "envs", "k8"⟩ ∉ emptied.refined.environments ∧
      emptied.removals.get? ⟨"", "envs", "k8"⟩ = some armOnly ∧
      emptied.missing cpuLookup [⟨"", "envs", "k8"⟩] = .ok [] :=
  ⟨rfl, rfl, by decide, by decide, by decide, rfl⟩

end CrossBuild
