import CrossBuild.Proofs.EnvironmentConclusions

/-!
Expected environments of which the target supports a fulfiller.  The check takes no fulfiller for
the environment that it fulfills.
-/

namespace CrossBuild

namespace EnvironmentSupport

def SupportsFulfiller (support : EnvironmentSupport) (group : EnvironmentGroup)
    (environment : Label) : Prop :=
  ∃ fulfiller ∈ group.fulfillers environment, support.refined.groupOf? fulfiller = some group

variable {support : EnvironmentSupport} {group : EnvironmentGroup} {environment : Label}

theorem contains_refined_iff :
    OrderedMap.contains support.refined environment = true ↔
      environment ∈ support.refined.environments :=
  OrderedMap.contains_iff _ _

theorem supports_of_mem (member : environment ∈ support.refined.environments) :
    support.supports group environment = true := by
  rw [supports, contains_refined_iff.mpr member, Bool.true_or]

theorem supports_iff_of_supportsFulfiller
    (fulfilled : support.SupportsFulfiller group environment) :
    support.supports group environment = true ↔
      environment ∈ support.refined.environments := by
  obtain ⟨fulfiller, _, held⟩ := fulfilled
  -- The fulfiller makes the target speak of the group, so that its defaults do not count.
  have referenced : support.refined.referencesGroup group.label = true := by
    rw [EnvironmentCollection.referencesGroup, List.any_eq_true]
    exact ⟨group, OrderedMap.mem_values_of_get? held, by simp⟩
  rw [supports, referenced, Bool.not_true, Bool.false_and, Bool.or_false, contains_refined_iff]

end EnvironmentSupport

namespace EnvironmentLookup

variable (lookup : EnvironmentLookup)

def Expects (configuration : BuildConfiguration) (environment : Label) : Prop :=
  environment ∈ configuration.targetEnvironments ∨
    ∃ label group, configuration.autoCpuGroup = some label ∧ lookup.group label = .ok group ∧
      environment ∈ group.environments ∧ environment.name = configuration.cpu

/-- The check compares an environment with the support of a target that takes part. -/
def Demands (target : TopLevelTarget) (support : EnvironmentSupport) (environment : Label) : Prop :=
  ∃ configuration, lookup.Participates target configuration ∧ target.support = some support ∧
    lookup.Expects configuration environment

variable {lookup} {target : TopLevelTarget}

theorem missesNamed_iff (clear : lookup.stopFor? (lookup.requests target) = none) :
    lookup.MissesNamed target ↔
      ∃ configuration support, lookup.Participates target configuration ∧
        target.support = some support ∧
        ∃ environment ∈ configuration.targetEnvironments, lookup.Lacks support environment := by
  constructor
  · rintro ⟨report, configuration, support, participates, supported, _, _, named, incomplete⟩
    exact ⟨configuration, support, participates, supported,
      (missing_ne_nil_iff named).mp incomplete⟩
  · rintro ⟨configuration, support, participates, supported, lacking⟩
    obtain ⟨verdict, judged⟩ := exists_judge clear
    cases judges_of_judge judged with
    | outside absent | exempt absent => exact absurd participates (absent configuration)
    | unknownSupport _ unsupported => cases unsupported.symm.trans supported
    | checked same otherSupported named _ _ =>
        cases same.unique participates
        cases otherSupported.symm.trans supported
        exact ⟨⟨target.label, support.declared.environments, _⟩, configuration, support,
          participates, supported, rfl, rfl, named, (missing_ne_nil_iff named).mpr lacking⟩

theorem misses_iff (clear : lookup.stopFor? (lookup.requests target) = none) :
    lookup.MissesNamed target ∨ lookup.MissesCpu target ↔
      ∃ support environment, lookup.Demands target support environment ∧
        lookup.Lacks support environment := by
  rw [missesNamed_iff clear]
  constructor
  · rintro (⟨configuration, support, participates, supported, environment, named, lacks⟩ |
      ⟨configuration, support, label, group, participates, supported, chosen, found, environment,
        listed, called, lacks⟩)
    · exact ⟨support, environment, ⟨configuration, participates, supported, .inl named⟩, lacks⟩
    · exact ⟨support, environment, ⟨configuration, participates, supported,
        .inr ⟨label, group, chosen, found, listed, called⟩⟩, lacks⟩
  · rintro ⟨support, environment, ⟨configuration, participates, supported,
      named | ⟨label, group, chosen, found, listed, called⟩⟩, lacks⟩
    · exact .inl ⟨configuration, support, participates, supported, environment, named, lacks⟩
    · exact .inr ⟨configuration, support, label, group, participates, supported, chosen, found,
        environment, listed, called, lacks⟩

open scoped Classical in
theorem checkAll_passes_iff {targets : List TopLevelTarget} (clear : lookup.stop? targets = none) :
    (lookup.checkAll targets).1 = .ok [] ↔
      ∀ target ∈ targets, ¬(lookup.MissesNamed target ∨ lookup.MissesCpu target) := by
  obtain ⟨reports, listed, outcome, _⟩ := checkAll_of_clear clear
  have complete : reports = [] ↔ targets.filter (lookup.MissesNamed ·) = [] := by
    rw [← List.length_eq_zero_iff, ← listed.length_eq, List.length_eq_zero_iff]
  rw [List.filter_eq_nil_iff] at complete
  rw [outcome]
  constructor
  · intro passed target member misses
    by_cases empty : reports = []
    · rw [if_pos empty, Except.ok.injEq, List.filter_eq_nil_iff] at passed
      obtain named | processor := misses
      · exact complete.mp empty target member (decide_eq_true named)
      · exact passed target member (decide_eq_true processor)
    · rw [if_neg empty] at passed
      cases passed
  · intro clean
    have empty : reports = [] := by
      rw [complete]
      intro target member named
      exact clean target member (.inl (of_decide_eq_true named))
    rw [if_pos empty, Except.ok.injEq, List.filter_eq_nil_iff]
    intro target member processor
    exact clean target member (.inr (of_decide_eq_true processor))

theorem checkAll_passes_iff_demands {targets : List TopLevelTarget}
    (clear : lookup.stop? targets = none) :
    (lookup.checkAll targets).1 = .ok [] ↔
      ∀ target ∈ targets, ∀ support environment, lookup.Demands target support environment →
        ¬ lookup.Lacks support environment := by
  rw [checkAll_passes_iff clear]
  apply forall₂_congr
  intro target member
  rw [misses_iff ((stop?_eq_none_iff targets).mp clear target member)]
  simp only [not_exists, not_and]

theorem lacks_iff_of_fulfilled {support : EnvironmentSupport} {group : EnvironmentGroup}
    {environment : Label} (found : lookup.groupOf environment = .ok group)
    (supplied : environment ∈ support.refined.environments ∨
      support.SupportsFulfiller group environment) :
    lookup.Lacks support environment ↔ environment ∉ support.refined.environments := by
  have supports : support.supports group environment = true ↔
      environment ∈ support.refined.environments := by
    obtain member | fulfilled := supplied
    · exact iff_of_true (EnvironmentSupport.supports_of_mem member) member
    · exact EnvironmentSupport.supports_iff_of_supportsFulfiller fulfilled
  rw [← supports, Bool.not_eq_true, Lacks]
  constructor
  · rintro ⟨other, otherFound, unsupported⟩
    cases found.symm.trans otherFound
    exact unsupported
  · intro unsupported
    exact ⟨group, found, unsupported⟩

end EnvironmentLookup

/-- An expected environment of which a fulfiller is supported is reported all the same, unless it is
itself among the refined ones.  Targets that support each demanded environment or a fulfiller of it
pass the check only if they support the demanded environments themselves. -/
theorem missing_of_fulfilled (lookup : EnvironmentLookup) :
    (∀ (support : EnvironmentSupport) (groupOf : Label → EnvironmentGroup) (expected : List Label),
      (∀ environment ∈ expected, lookup.groupOf environment = .ok (groupOf environment)) →
      ∃ missing, support.missing lookup expected = .ok missing ∧
        ∀ environment ∈ expected, support.SupportsFulfiller (groupOf environment) environment →
          ((∃ report ∈ missing, report.environment = environment) ↔
            environment ∉ support.refined.environments)) ∧
    ∀ targets, lookup.stop? targets = none →
      (∀ target ∈ targets, ∀ support environment, lookup.Demands target support environment →
        ∃ group, lookup.groupOf environment = .ok group ∧
          (environment ∈ support.refined.environments ∨
            support.SupportsFulfiller group environment)) →
      ((lookup.checkAll targets).1 = .ok [] ↔
        ∀ target ∈ targets, ∀ support environment, lookup.Demands target support environment →
          environment ∈ support.refined.environments) := by
  constructor
  · intro support groupOf expected found
    obtain ⟨missing, outcome, reported⟩ := support.exists_missing found
    refine ⟨missing, outcome, ?_⟩
    intro environment member fulfilled
    rw [reported environment member, ← Bool.not_eq_true,
      EnvironmentSupport.supports_iff_of_supportsFulfiller fulfilled]
  · intro targets clear supplied
    rw [EnvironmentLookup.checkAll_passes_iff_demands clear]
    apply forall₂_congr
    intro target member
    apply forall₃_congr
    intro support environment demands
    obtain ⟨group, found, alternatives⟩ := supplied target member support environment demands
    rw [EnvironmentLookup.lacks_iff_of_fulfilled found alternatives, not_not]

def levelGroup : EnvironmentGroup where
  label := ⟨"", "levels", "cpus"⟩
  environments := [⟨"", "levels", "k8"⟩, ⟨"", "levels", "k8_v3"⟩]
  defaults := [⟨"", "levels", "k8"⟩]
  fulfills := [(⟨"", "levels", "k8_v3"⟩, ⟨"", "levels", "k8"⟩)]
  nodup_environments := by decide
  nodup_defaults := by decide
  mem_of_default := by decide
  mem_of_fulfills := by decide

def levelRegistry : EnvironmentRegistry where
  configurations := [(⟨"named"⟩, .ok { cpu := "k8", targetEnvironments := [⟨"", "levels", "k8"⟩] })]
  groups := [levelGroup]

def newLevel : EnvironmentSupport where
  declared := .ofPairs [(levelGroup, ⟨"", "levels", "k8_v3"⟩)]
  refined := .ofPairs [(levelGroup, ⟨"", "levels", "k8_v3"⟩)]

theorem supportsFulfiller_newLevel :
    newLevel.SupportsFulfiller levelGroup ⟨"", "levels", "k8"⟩ :=
  ⟨⟨"", "levels", "k8_v3"⟩, by decide, rfl⟩

def newLevelTarget : TopLevelTarget := { binaryIn "named" with support := some newLevel }

theorem missing_of_fulfilled_newLevel :
    (∃ missing, newLevel.missing levelRegistry.lookup [⟨"", "levels", "k8"⟩] = .ok missing ∧
      ∃ report ∈ missing, report.environment = ⟨"", "levels", "k8"⟩) ∧
    (levelRegistry.lookup.checkAll [newLevelTarget]).1 ≠ .ok [] := by
  have found : ∀ environment ∈ [(⟨"", "levels", "k8"⟩ : Label)],
      levelRegistry.lookup.groupOf environment = .ok levelGroup :=
    List.forall_mem_singleton.mpr rfl
  have clear : levelRegistry.lookup.stop? [newLevelTarget] = none := by rfl
  have supplied : ∀ target ∈ [newLevelTarget], ∀ support environment,
      levelRegistry.lookup.Demands target support environment →
      ∃ group, levelRegistry.lookup.groupOf environment = .ok group ∧
        (environment ∈ support.refined.environments ∨
          support.SupportsFulfiller group environment) := by
    rw [List.forall_mem_singleton]
    rintro support environment ⟨configuration, participates, supported, expects⟩
    obtain ⟨key, chosen, configured⟩ := participates.configured
    cases chosen
    cases configured
    cases supported
    obtain named | ⟨label, group, automatic, _⟩ := expects
    · cases List.mem_singleton.mp named
      exact ⟨levelGroup, rfl, .inr supportsFulfiller_newLevel⟩
    · cases automatic
  have demanded : levelRegistry.lookup.Demands newLevelTarget newLevel ⟨"", "levels", "k8"⟩ :=
    ⟨_, ⟨⟨⟨"named"⟩, rfl, rfl⟩, rfl, _, rfl, rfl⟩, rfl, .inl List.mem_cons_self⟩
  obtain ⟨reported, passes⟩ := missing_of_fulfilled levelRegistry.lookup
  constructor
  · obtain ⟨missing, outcome, reports⟩ := reported newLevel (fun _ => levelGroup) _ found
    exact ⟨missing, outcome,
      (reports _ List.mem_cons_self supportsFulfiller_newLevel).mpr (by decide)⟩
  · intro passed
    have supports := (passes [newLevelTarget] clear supplied).mp passed newLevelTarget
      List.mem_cons_self newLevel _ demanded
    exact absurd supports (by decide)

/-- The newer level is supported and supplies nothing to the older one. -/
theorem missing_newLevel :
    levelRegistry.lookup.groupOf ⟨"", "levels", "k8"⟩ = .ok levelGroup ∧
      newLevel.SupportsFulfiller levelGroup ⟨"", "levels", "k8"⟩ ∧
      newLevel.missing levelRegistry.lookup [⟨"", "levels", "k8"⟩] =
        .ok [{ environment := ⟨"", "levels", "k8"⟩, removal := none }] :=
  ⟨rfl, supportsFulfiller_newLevel, rfl⟩

end CrossBuild
