import CrossBuild.Proofs.FulfilledEnvironments

/-!
Expected environments are judged apart.  What is reported about one of them depends neither on the
other ones nor on the defaults of groups that it does not belong to.
-/

namespace CrossBuild

structure EnvironmentGroup.SameButDefaults (first second : EnvironmentGroup) : Prop where
  label : first.label = second.label
  environments : first.environments = second.environments
  fulfills : first.fulfills = second.fulfills

def EnvironmentCollection.SameButDefaults (first second : EnvironmentCollection) : Prop :=
  List.Forall₂ (fun entry other => entry.1 = other.1 ∧ entry.2.SameButDefaults other.2)
    (OrderedMap.entries first) (OrderedMap.entries second)

structure EnvironmentSupport.SameButDefaults (first second : EnvironmentSupport) : Prop where
  declared : first.declared.SameButDefaults second.declared
  refined : first.refined.SameButDefaults second.refined
  removals : first.removals = second.removals

theorem EnvironmentGroup.SameButDefaults.fulfillers_eq {first second : EnvironmentGroup}
    (same : first.SameButDefaults second) (environment : Label) :
    first.fulfillers environment = second.fulfillers environment := by
  have direct : first.directFulfillers = second.directFulfillers := by
    funext fulfilled
    rw [EnvironmentGroup.directFulfillers, EnvironmentGroup.directFulfillers, same.fulfills]
  have previous : first.previous environment = second.previous environment := by
    funext environments
    rw [EnvironmentGroup.previous, EnvironmentGroup.previous, direct]
  rw [EnvironmentGroup.fulfillers, EnvironmentGroup.fulfillers, previous, same.environments]

namespace EnvironmentCollection

theorem forall₂_distinctGroups {groups others : List EnvironmentGroup}
    (same : List.Forall₂ EnvironmentGroup.SameButDefaults groups others) :
    List.Forall₂ EnvironmentGroup.SameButDefaults (distinctGroups groups)
      (distinctGroups others) := by
  induction same with
  | nil => exact .nil
  | cons first _ ih =>
      refine .cons first (List.rel_filter ?_ ih)
      intro group other alike
      dsimp only
      rw [alike.label, first.label]

namespace SameButDefaults

variable {first second : EnvironmentCollection} (same : first.SameButDefaults second)

include same

theorem environments_eq : first.environments = second.environments := by
  rw [environments, OrderedMap.keys, environments, OrderedMap.keys, ← List.forall₂_eq_eq_eq,
    List.forall₂_map_left_iff, List.forall₂_map_right_iff]
  exact List.Forall₂.imp (fun _ _ alike => alike.1) same

theorem forall₂_values :
    List.Forall₂ EnvironmentGroup.SameButDefaults (OrderedMap.values first)
      (OrderedMap.values second) := by
  rw [OrderedMap.values, OrderedMap.values, List.forall₂_map_left_iff, List.forall₂_map_right_iff]
  exact List.Forall₂.imp (fun _ _ alike => alike.2) same

theorem referencesGroup_eq (label : Label) :
    first.referencesGroup label = second.referencesGroup label := by
  have values := same.forall₂_values
  unfold referencesGroup
  generalize OrderedMap.values first = groups at values ⊢
  generalize OrderedMap.values second = others at values ⊢
  induction values with
  | nil => rfl
  | cons alike _ ih => rw [List.any_cons, List.any_cons, alike.label, ih]

theorem flatMap_fulfillers_eq (environment : Label) :
    (first.groups.flatMap fun group => group.fulfillers environment) =
      second.groups.flatMap fun group => group.fulfillers environment := by
  have same := forall₂_distinctGroups same.forall₂_values
  unfold groups
  generalize distinctGroups (OrderedMap.values first) = groups at same ⊢
  generalize distinctGroups (OrderedMap.values second) = others at same ⊢
  induction same with
  | nil => rfl
  | cons alike _ ih => rw [List.flatMap_cons, List.flatMap_cons, alike.fulfillers_eq, ih]

end SameButDefaults

end EnvironmentCollection

namespace EnvironmentSupport

variable {support other : EnvironmentSupport}

theorem SameButDefaults.supports_eq (same : support.SameButDefaults other)
    (group : EnvironmentGroup) (environment : Label) :
    support.supports group environment = other.supports group environment := by
  have contained : OrderedMap.contains support.refined environment =
      OrderedMap.contains other.refined environment := by
    rw [Bool.eq_iff_iff, contains_refined_iff, contains_refined_iff, same.refined.environments_eq]
  rw [supports, supports, contained, same.refined.referencesGroup_eq]

theorem SameButDefaults.record_eq (same : support.SameButDefaults other) (environment : Label) :
    support.record environment = other.record environment := by
  rw [record, record, removalOf?, removalOf?, same.declared.flatMap_fulfillers_eq, same.removals]

end EnvironmentSupport

namespace EnvironmentLookup

variable (lookup : EnvironmentLookup)

/-- There is no group for the environment, and there is one for each environment before it. -/
def FirstUngrouped (environments : List Label) (environment : Label) (failure : Failure) : Prop :=
  ∃ before after, environments = before ++ environment :: after ∧
    lookup.groupOf environment = .error failure ∧
    ∀ earlier ∈ before, ∃ group, lookup.groupOf earlier = .ok group

end EnvironmentLookup

namespace EnvironmentSupport

variable {support : EnvironmentSupport} {lookup : EnvironmentLookup} {environments : List Label}
  {missing : List MissingEnvironment}

theorem missing_eq_error_iff {reported : Failure} :
    support.missing lookup environments = .error reported ↔
      ∃ environment failure, lookup.FirstUngrouped environments environment failure ∧
        reported =
          FailureCause.restriction (.invalidTargetEnvironment environment failure.message) := by
  rw [← failureOf?_eq_some_iff, EnvironmentLookup.failureOf?_missing, List.findSome?_eq_some_iff]
  simp only [Option.map_eq_some_iff, Option.map_eq_none_iff, failureOf?_eq_some_iff,
    failureOf?_eq_none_iff]
  constructor
  · rintro ⟨before, environment, after, split, ⟨failure, failed, rfl⟩, grouped⟩
    exact ⟨environment, failure, ⟨before, after, split, failed, grouped⟩, rfl⟩
  · rintro ⟨environment, failure, ⟨before, after, split, failed, grouped⟩, rfl⟩
    exact ⟨before, environment, after, split, ⟨failure, failed, rfl⟩, grouped⟩

theorem exists_missing_eq_error_iff :
    (∃ failure, support.missing lookup environments = .error failure) ↔
      ∃ environment ∈ environments, ∃ failure, lookup.groupOf environment = .error failure := by
  simp only [← failureOf?_eq_some_iff, ← Option.isSome_iff_exists]
  rw [EnvironmentLookup.failureOf?_missing, List.findSome?_isSome_iff]
  simp only [Option.isSome_map]

def judged (support : EnvironmentSupport) (group : EnvironmentGroup) (environment : Label) :
    List MissingEnvironment :=
  if support.supports group environment then [] else [support.record environment]

theorem missing_singleton {environment : Label} {group : EnvironmentGroup}
    (found : lookup.groupOf environment = .ok group) :
    support.missing lookup [environment] = .ok (support.judged group environment) := by
  have each : ∀ other ∈ [environment], lookup.groupOf other = .ok group :=
    List.forall_mem_singleton.mpr found
  rw [support.missing_eq each, distinct_of_nodup (by simp), judged]
  cases supported : support.supports group environment <;> simp [supported]

theorem map_record_filter (groupOf : Label → EnvironmentGroup) (environments : List Label) :
    (environments.filter fun environment =>
        !support.supports (groupOf environment) environment).map support.record =
      (environments.map fun environment =>
        support.judged (groupOf environment) environment).flatten := by
  induction environments with
  | nil => rfl
  | cons environment rest ih =>
      rw [List.map_cons, List.flatten_cons, ← ih, judged]
      cases supported : support.supports (groupOf environment) environment <;> simp [supported]

theorem exists_parts
    (grouped : ∀ environment ∈ environments, ∃ group, lookup.groupOf environment = .ok group) :
    ∃ parts, List.Forall₂
        (fun environment part => support.missing lookup [environment] = .ok part)
        (distinct environments) parts ∧
      support.missing lookup environments = .ok parts.flatten := by
  obtain ⟨groupOf, found, outcome⟩ := EnvironmentLookup.exists_missing_eq support grouped
  refine ⟨(distinct environments).map fun environment =>
    support.judged (groupOf environment) environment, ?_, ?_⟩
  · rw [List.forall₂_map_right_iff, List.forall₂_same]
    intro environment member
    exact missing_singleton (found environment (mem_distinct.mp member))
  · rw [outcome, map_record_filter]

section Outcome

variable (outcome : support.missing lookup environments = .ok missing)

include outcome

theorem mem_missing_iff (report : MissingEnvironment) :
    report ∈ missing ↔ report.environment ∈ environments ∧
      lookup.Lacks support report.environment ∧ report = support.record report.environment := by
  obtain ⟨groupOf, found, rfl⟩ := EnvironmentLookup.exists_eq_map_record outcome
  simp only [List.mem_map, List.mem_filter, mem_distinct, Bool.not_eq_true']
  constructor
  · rintro ⟨environment, ⟨member, unsupported⟩, rfl⟩
    exact ⟨member, ⟨_, found _ member, unsupported⟩, rfl⟩
  · rintro ⟨member, ⟨group, grouped, unsupported⟩, same⟩
    cases (found _ member).symm.trans grouped
    exact ⟨report.environment, ⟨member, unsupported⟩, same.symm⟩

theorem nodup_missing : (missing.map MissingEnvironment.environment).Nodup := by
  obtain ⟨groupOf, _, rfl⟩ := EnvironmentLookup.exists_eq_map_record outcome
  have same : MissingEnvironment.environment ∘ support.record = id := rfl
  rw [List.map_map, same, List.map_id]
  exact (nodup_distinct environments).filter _

end Outcome

/-- What is reported about each expected environment is its own affair. -/
structure Apart (support : EnvironmentSupport) (lookup : EnvironmentLookup)
    (environments : List Label) (missing : List MissingEnvironment) : Prop where
  expected : ∀ report ∈ missing, report.environment ∈ environments
  absent : ∀ report ∈ missing, report.environment ∉ support.refined.environments
  once : (missing.map MissingEnvironment.environment).Nodup
  reordered : ∀ others, (∀ environment, environment ∈ others ↔ environment ∈ environments) →
    ∃ reports, support.missing lookup others = .ok reports ∧ reports.Perm missing
  unaffected : ∀ (other : EnvironmentSupport) (otherLookup : EnvironmentLookup) others reports,
    support.SameButDefaults other → other.missing otherLookup others = .ok reports →
    ∀ environment ∈ environments, environment ∈ others →
      otherLookup.groupOf environment = lookup.groupOf environment →
      ∀ report, report.environment = environment → (report ∈ missing ↔ report ∈ reports)

theorem perm_missing (outcome : support.missing lookup environments = .ok missing)
    {others : List Label}
    (same : ∀ environment, environment ∈ others ↔ environment ∈ environments) :
    ∃ reports, support.missing lookup others = .ok reports ∧ reports.Perm missing := by
  obtain ⟨groupOf, found, rfl⟩ := EnvironmentLookup.exists_eq_map_record outcome
  refine ⟨_, support.missing_eq fun environment member =>
    found environment ((same environment).mp member), ?_⟩
  have perm : (distinct others).Perm (distinct environments) := by
    rw [List.perm_ext_iff_of_nodup (nodup_distinct _) (nodup_distinct _)]
    simpa using same
  exact (perm.filter _).map _

theorem apart_of_missing (outcome : support.missing lookup environments = .ok missing) :
    support.Apart lookup environments missing where
  expected report listed := ((mem_missing_iff outcome report).mp listed).1
  absent report listed := by
    obtain ⟨_, ⟨group, _, unsupported⟩, _⟩ := (mem_missing_iff outcome report).mp listed
    intro refined
    rw [supports_of_mem refined] at unsupported
    cases unsupported
  once := nodup_missing outcome
  reordered _ := perm_missing outcome
  unaffected := by
    rintro other otherLookup others reports same otherOutcome environment member otherMember agree
      report rfl
    rw [mem_missing_iff outcome, mem_missing_iff otherOutcome, ← same.record_eq,
      iff_true_intro member, iff_true_intro otherMember, EnvironmentLookup.Lacks,
      EnvironmentLookup.Lacks, agree]
    simp only [same.supports_eq]

end EnvironmentSupport

/-- The first expected environment without a group is complained about.  If all of them have one,
the report consists of what would be reported about each of them alone. -/
theorem missing_apart (support : EnvironmentSupport) (lookup : EnvironmentLookup)
    (expected : List Label) :
    ((∃ failure, support.missing lookup expected = .error failure) ↔
      ∃ environment ∈ expected, ∃ failure, lookup.groupOf environment = .error failure) ∧
    (∀ reported, support.missing lookup expected = .error reported ↔
      ∃ environment failure, lookup.FirstUngrouped expected environment failure ∧
        reported =
          FailureCause.restriction (.invalidTargetEnvironment environment failure.message)) ∧
    ((∀ environment ∈ expected, ∃ group, lookup.groupOf environment = .ok group) →
      ∃ parts, List.Forall₂
          (fun environment part => support.missing lookup [environment] = .ok part)
          (distinct expected) parts ∧
        support.missing lookup expected = .ok parts.flatten) ∧
    ∀ missing, support.missing lookup expected = .ok missing →
      support.Apart lookup expected missing :=
  ⟨EnvironmentSupport.exists_missing_eq_error_iff,
    fun _ => EnvironmentSupport.missing_eq_error_iff,
    EnvironmentSupport.exists_parts, fun _ => EnvironmentSupport.apart_of_missing⟩

def systemGroup : EnvironmentGroup where
  label := ⟨"", "envs", "systems"⟩
  environments := [⟨"", "envs", "linux"⟩, ⟨"", "envs", "mac"⟩]
  defaults := [⟨"", "envs", "linux"⟩]
  fulfills := []
  nodup_environments := by decide
  nodup_defaults := by decide
  mem_of_default := by decide
  mem_of_fulfills := by decide

def mixedLookup : EnvironmentLookup :=
  { groups := [cpuGroup, systemGroup] : EnvironmentRegistry }.lookup

def mixedExpectations : List Label :=
  [⟨"", "envs", "k8"⟩, ⟨"", "envs", "arm"⟩, ⟨"", "envs", "mac"⟩, ⟨"", "envs", "k8"⟩]

theorem missing_apart_mixedExpectations :
    (∃ missing parts, narrowed.missing mixedLookup mixedExpectations = .ok missing ∧
      narrowed.Apart mixedLookup mixedExpectations missing ∧ missing = parts.flatten ∧
      List.Forall₂ (fun environment part => narrowed.missing mixedLookup [environment] = .ok part)
        [⟨"", "envs", "k8"⟩, ⟨"", "envs", "arm"⟩, ⟨"", "envs", "mac"⟩] parts) ∧
    narrowed.missing mixedLookup (⟨"", "envs", "bsd"⟩ :: mixedExpectations) =
      .error (FailureCause.restriction (.invalidTargetEnvironment ⟨"", "envs", "bsd"⟩
        "//envs:bsd is not an environment")) := by
  obtain ⟨_, _, concatenates, apart⟩ := missing_apart narrowed mixedLookup mixedExpectations
  obtain ⟨_, fails, _, _⟩ :=
    missing_apart narrowed mixedLookup (⟨"", "envs", "bsd"⟩ :: mixedExpectations)
  obtain ⟨parts, each, outcome⟩ := concatenates (by
    simp only [mixedExpectations, List.forall_mem_cons]
    exact ⟨⟨cpuGroup, rfl⟩, ⟨cpuGroup, rfl⟩, ⟨systemGroup, rfl⟩, ⟨cpuGroup, rfl⟩, by simp⟩)
  refine ⟨⟨_, parts, outcome, apart _ outcome, rfl, each⟩, (fails _).mpr ?_⟩
  exact ⟨_, _, ⟨[], mixedExpectations, rfl, rfl, by simp⟩, by rfl⟩

end CrossBuild
