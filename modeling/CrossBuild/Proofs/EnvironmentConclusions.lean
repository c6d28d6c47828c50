import CrossBuild.Proofs.MissingEnvironments

/-!
What the environment check concludes from the verdicts on its targets: misses of named environments
are collected over all targets, a failing lookup ends the check at once, and targets of unknown
support are mentioned on the way.
-/

namespace CrossBuild

open scoped Classical

namespace EnvironmentLookup

variable (lookup : EnvironmentLookup) (target : TopLevelTarget)

/-- A target takes part if its configuration enforces constraints and its rule checks them. -/
structure Participates (configuration : BuildConfiguration) : Prop where
  configured : ∃ key, target.configuration = some key ∧
    lookup.configuration key = .ok configuration
  enforced : configuration.enforceConstraints = true
  checked : ∃ rule, target.rule = some rule ∧ rule.checksConstraints = true

def Reports (report : EnvironmentReport) : Prop :=
  ∃ configuration support, lookup.Participates target configuration ∧
    target.support = some support ∧ report.target = target.label ∧
    report.declared = support.declared.environments ∧
    support.missing lookup configuration.targetEnvironments = .ok report.missing ∧
    report.missing ≠ []

def MissesNamed : Prop := ∃ report, lookup.Reports target report

/-- The group of the environment is known, and the target supports neither the environment nor, by
saying nothing, the defaults of the group. -/
def Lacks (support : EnvironmentSupport) (environment : Label) : Prop :=
  ∃ group, lookup.groupOf environment = .ok group ∧ support.supports group environment = false

def MissesCpu : Prop :=
  ∃ configuration support label group, lookup.Participates target configuration ∧
    target.support = some support ∧ configuration.autoCpuGroup = some label ∧
    lookup.group label = .ok group ∧
    ∃ environment ∈ group.environments, environment.name = configuration.cpu ∧
      lookup.Lacks support environment

/-- The check compares nothing for a target that takes part and tells nothing of its support. -/
def SupportUnknown : Prop :=
  (∃ configuration, lookup.Participates target configuration) ∧ target.support = none

def supportError : Event :=
  .error ("Unable to get supported environments for " ++ toString target.label ++
    " when checking environment restrictions")

/-- What a verdict says about the target for which it was reached. -/
inductive Judges : EnvironmentVerdict → Prop
  | outside (absent : ∀ configuration, ¬ lookup.Participates target configuration) :
      Judges .outside
  | exempt {kind : String}
      (absent : ∀ configuration, ¬ lookup.Participates target configuration) :
      Judges (.exempt kind)
  | unknownSupport {configuration : BuildConfiguration}
      (participates : lookup.Participates target configuration)
      (unsupported : target.support = none) : Judges .unknownSupport
  | checked {configuration : BuildConfiguration} {support : EnvironmentSupport}
      {auto : List Label} {missing missingAuto : List MissingEnvironment}
      (participates : lookup.Participates target configuration)
      (supported : target.support = some support)
      (named : support.missing lookup configuration.targetEnvironments = .ok missing)
      (expected : lookup.autoEnvironments configuration = .ok auto)
      (processor : support.missing lookup auto = .ok missingAuto) :
      Judges (.checked
        { target := target.label, declared := support.declared.environments, missing := missing }
        (if missingAuto.isEmpty then none else some configuration.cpu))

variable {lookup target}

theorem Participates.unique {configuration other : BuildConfiguration}
    (one : lookup.Participates target configuration) (two : lookup.Participates target other) :
    configuration = other := by
  obtain ⟨key, chosen, found⟩ := one.configured
  obtain ⟨otherKey, otherChosen, otherFound⟩ := two.configured
  cases chosen.symm.trans otherChosen
  cases found.symm.trans otherFound
  rfl

theorem judges_of_examine {configuration : BuildConfiguration} {support : EnvironmentSupport}
    {verdict : EnvironmentVerdict} (participates : lookup.Participates target configuration)
    (supported : target.support = some support)
    (examined : lookup.examine target configuration support = .ok verdict) :
    lookup.Judges target verdict := by
  obtain ⟨missing, named, examined⟩ := exists_of_bind examined
  obtain ⟨auto, expected, examined⟩ := exists_of_bind examined
  obtain ⟨missingAuto, processor, examined⟩ := exists_of_bind examined
  cases examined
  exact .checked participates supported named expected processor

theorem judges_of_judge {verdict : EnvironmentVerdict}
    (judged : lookup.judge target = .ok verdict) : lookup.Judges target verdict := by
  unfold judge at judged
  cases chosen : target.configuration with
  | none =>
      rw [chosen] at judged
      cases judged
      exact .outside fun _ participates => by simpa [chosen] using participates.configured
  | some key =>
      rw [chosen] at judged
      obtain ⟨configuration, found, judged⟩ := exists_of_bind judged
      rw [mapError_eq_ok_iff] at found
      -- Whatever keeps this configuration from being checked keeps the target from taking part.
      have same : ∀ other, lookup.Participates target other → other = configuration := by
        intro other participates
        simpa [chosen, found, eq_comm] using participates.configured
      by_cases enforced : configuration.enforceConstraints = true
      · cases ruled : target.rule with
        | none =>
            simp only [enforced, ruled] at judged
            cases judged
            exact .outside fun _ participates => by simpa [ruled] using participates.checked
        | some rule =>
            by_cases checks : rule.checksConstraints = true
            · have participates : lookup.Participates target configuration :=
                ⟨⟨key, chosen, found⟩, enforced, rule, ruled, checks⟩
              cases supported : target.support with
              | none =>
                  simp only [enforced, ruled, checks, supported] at judged
                  cases judged
                  exact .unknownSupport participates supported
              | some support =>
                  simp only [enforced, ruled, checks, supported] at judged
                  exact judges_of_examine participates supported judged
            · simp only [enforced, ruled, checks] at judged
              cases judged
              exact .exempt fun _ participates => by
                simpa [ruled, checks] using participates.checked
      · simp only [enforced] at judged
        cases judged
        refine .outside fun other participates => enforced ?_
        rw [← same other participates]
        exact participates.enforced

theorem failureOf?_missing {support : EnvironmentSupport} {environments : List Label} :
    failureOf? (support.missing lookup environments) =
      environments.findSome? fun environment =>
        (failureOf? (lookup.groupOf environment)).map fun failure =>
          (FailureCause.restriction (.invalidTargetEnvironment environment failure.message) :
            Failure) := by
  have made : lookup.Makes { label := default } (environments.map .groupOf)
      (support.missing lookup environments) := makes_missing support environments
  rw [Makes, stopFor?, List.findSome?_map, List.map_findSome?] at made
  rw [made]
  congr 1
  funext environment
  exact Option.map_map _ _ _

theorem groupOf_of_missing {support : EnvironmentSupport} {environments : List Label}
    {missing : List MissingEnvironment}
    (outcome : support.missing lookup environments = .ok missing) :
    ∀ environment ∈ environments, ∃ group, lookup.groupOf environment = .ok group := by
  have clear := failureOf?_eq_none_iff.mpr ⟨missing, outcome⟩
  rw [failureOf?_missing, List.findSome?_eq_none_iff] at clear
  intro environment member
  exact failureOf?_eq_none_iff.mp (Option.map_eq_none_iff.mp (clear environment member))

theorem exists_missing_eq (support : EnvironmentSupport) {environments : List Label}
    (grouped : ∀ environment ∈ environments, ∃ group, lookup.groupOf environment = .ok group) :
    ∃ groupOf : Label → EnvironmentGroup,
      (∀ environment ∈ environments, lookup.groupOf environment = .ok (groupOf environment)) ∧
      support.missing lookup environments =
        .ok (((distinct environments).filter fun environment =>
          !support.supports (groupOf environment) environment).map support.record) := by
  have : Nonempty EnvironmentGroup := ⟨cpuGroup⟩
  choose! groupOf found using grouped
  exact ⟨groupOf, found, support.missing_eq found⟩

theorem exists_eq_map_record {support : EnvironmentSupport} {environments : List Label}
    {missing : List MissingEnvironment}
    (outcome : support.missing lookup environments = .ok missing) :
    ∃ groupOf : Label → EnvironmentGroup,
      (∀ environment ∈ environments, lookup.groupOf environment = .ok (groupOf environment)) ∧
      missing = ((distinct environments).filter fun environment =>
        !support.supports (groupOf environment) environment).map support.record := by
  obtain ⟨groupOf, found, same⟩ := exists_missing_eq support (groupOf_of_missing outcome)
  exact ⟨groupOf, found, Except.ok.inj (outcome.symm.trans same)⟩

theorem missing_ne_nil_iff {support : EnvironmentSupport} {environments : List Label}
    {missing : List MissingEnvironment}
    (outcome : support.missing lookup environments = .ok missing) :
    missing ≠ [] ↔ ∃ environment ∈ environments, lookup.Lacks support environment := by
  obtain ⟨groupOf, found, rfl⟩ := exists_eq_map_record outcome
  simp only [ne_eq, List.map_eq_nil_iff, List.filter_eq_nil_iff, mem_distinct, not_forall,
    not_not, Bool.not_eq_true', exists_prop]
  constructor
  · rintro ⟨environment, member, unsupported⟩
    exact ⟨environment, member, _, found environment member, unsupported⟩
  · rintro ⟨environment, member, group, grouped, unsupported⟩
    cases (found environment member).symm.trans grouped
    exact ⟨environment, member, unsupported⟩

theorem mem_autoEnvironments_iff {configuration : BuildConfiguration} {auto : List Label}
    (expected : lookup.autoEnvironments configuration = .ok auto) (environment : Label) :
    environment ∈ auto ↔ ∃ label group, configuration.autoCpuGroup = some label ∧
      lookup.group label = .ok group ∧ environment ∈ group.environments ∧
      environment.name = configuration.cpu := by
  unfold autoEnvironments at expected
  cases chosen : configuration.autoCpuGroup with
  | none =>
      rw [chosen] at expected
      cases expected
      simp
  | some label =>
      rw [chosen] at expected
      obtain ⟨group, found, expected⟩ := exists_of_bind expected
      rw [expecting, mapError_eq_ok_iff] at found
      cases expected
      simp [found]

namespace Judges

variable {verdict : EnvironmentVerdict}

theorem report?_eq_some_iff (judges : lookup.Judges target verdict) (report : EnvironmentReport) :
    verdict.report? = some report ↔ lookup.Reports target report := by
  cases judges with
  | outside absent | exempt absent =>
      refine iff_of_false nofun ?_
      rintro ⟨configuration, _, participates, _⟩
      exact absent configuration participates
  | unknownSupport participates unsupported =>
      refine iff_of_false nofun ?_
      rintro ⟨_, _, _, supported, _⟩
      cases unsupported.symm.trans supported
  | @checked configuration support auto missing missingAuto participates supported named _ _ =>
      change (if missing.isEmpty then none else some _) = some report ↔ _
      constructor
      · intro reported
        by_cases complete : missing = []
        · rw [complete] at reported
          cases reported
        · rw [if_neg (by simpa using complete)] at reported
          cases reported
          exact ⟨configuration, support, participates, supported, rfl, rfl, named, complete⟩
      · rintro ⟨other, otherSupport, otherParticipates, otherSupported, same, declared, outcome,
          incomplete⟩
        cases participates.unique otherParticipates
        cases supported.symm.trans otherSupported
        cases named.symm.trans outcome
        rw [if_neg (by simpa using incomplete), ← same, ← declared]

theorem missesCpu_iff (judges : lookup.Judges target verdict) :
    verdict.missesCpu = true ↔ lookup.MissesCpu target := by
  cases judges with
  | outside absent | exempt absent =>
      refine iff_of_false nofun ?_
      rintro ⟨configuration, _, _, _, participates, _⟩
      exact absent configuration participates
  | unknownSupport participates unsupported =>
      refine iff_of_false nofun ?_
      rintro ⟨_, _, _, _, _, supported, _⟩
      cases unsupported.symm.trans supported
  | @checked configuration support auto _ missingAuto participates supported _ expected processor =>
      have misses : (if missingAuto.isEmpty then none else some configuration.cpu).isSome = true ↔
          missingAuto ≠ [] := by
        cases missingAuto <;> simp
      change (if missingAuto.isEmpty then none else some configuration.cpu).isSome = true ↔ _
      rw [misses, missing_ne_nil_iff processor]
      constructor
      · rintro ⟨environment, member, lacks⟩
        obtain ⟨label, group, chosen, found, listed, named⟩ :=
          (mem_autoEnvironments_iff expected environment).mp member
        exact ⟨configuration, support, label, group, participates, supported, chosen, found,
          environment, listed, named, lacks⟩
      · rintro ⟨other, otherSupport, label, group, otherParticipates, otherSupported, chosen, found,
          environment, listed, named, lacks⟩
        cases participates.unique otherParticipates
        cases supported.symm.trans otherSupported
        have member := (mem_autoEnvironments_iff expected environment).mpr
          ⟨label, group, chosen, found, listed, named⟩
        exact ⟨environment, member, lacks⟩

theorem events_eq (judges : lookup.Judges target verdict) :
    (verdict.notices target).filterMap Notice.event? =
      if lookup.SupportUnknown target then [supportError target] else [] := by
  cases judges with
  | outside absent | exempt absent =>
      have known : ¬ lookup.SupportUnknown target := fun unknown => unknown.1.elim absent
      rw [if_neg known]
      rfl
  | unknownSupport participates unsupported =>
      rw [if_pos ⟨⟨_, participates⟩, unsupported⟩]
      rfl
  | @checked _ _ _ _ missingAuto _ supported =>
      have known : ¬ lookup.SupportUnknown target := fun unknown => by
        simpa [supported] using unknown.2
      rw [if_neg known]
      cases missingAuto <;> rfl

end Judges

theorem stop?_eq_none_iff (targets : List TopLevelTarget) :
    lookup.stop? targets = none ↔
      ∀ target ∈ targets, lookup.stopFor? (lookup.requests target) = none := by
  rw [stop?, List.findSome?_eq_none_iff]
  simp

theorem exists_judge (clear : lookup.stopFor? (lookup.requests target) = none) :
    ∃ verdict, lookup.judge target = .ok verdict := by
  have made : lookup.Makes target (lookup.requests target) (lookup.judge target) :=
    makes_judge target
  rw [Makes, clear] at made
  exact failureOf?_eq_none_iff.mp made

theorem judge_of_stopped {request : EnvironmentRequest} {failure : Failure}
    (stopped : lookup.stopFor? (lookup.requests target) = some (request, failure)) :
    lookup.judge target = .error (request.reported target failure) := by
  have made : lookup.Makes target (lookup.requests target) (lookup.judge target) :=
    makes_judge target
  rw [Makes, stopped] at made
  exact failureOf?_eq_some_iff.mp made

theorem judgeAll_append {before : List TopLevelTarget} (clear : lookup.stop? before = none)
    (rest : List TopLevelTarget) :
    ∃ entries, entries.map Prod.fst = before ∧
      (∀ entry ∈ entries, lookup.Judges entry.1 entry.2) ∧
      lookup.judgeAll (before ++ rest) =
        (entries ++ (lookup.judgeAll rest).1, (lookup.judgeAll rest).2) := by
  rw [stop?_eq_none_iff] at clear
  induction before with
  | nil => exact ⟨[], rfl, by simp, rfl⟩
  | cons target before ih =>
      rw [List.forall_mem_cons] at clear
      obtain ⟨verdict, judged⟩ := exists_judge clear.1
      obtain ⟨entries, same, judges, later⟩ := ih clear.2
      refine ⟨(target, verdict) :: entries, by rw [List.map_cons, same],
        List.forall_mem_cons.mpr ⟨judges_of_judge judged, judges⟩, ?_⟩
      rw [List.cons_append, judgeAll, judged, later, List.cons_append]

section Entries

variable {entries : List (TopLevelTarget × EnvironmentVerdict)}
  (judges : ∀ entry ∈ entries, lookup.Judges entry.1 entry.2)

include judges

theorem forall₂_reports :
    List.Forall₂ lookup.Reports
      ((entries.map Prod.fst).filter (lookup.MissesNamed ·))
      (entries.filterMap fun entry => entry.2.report?) := by
  rw [List.filter_map, List.forall₂_map_left_iff]
  exact forall₂_filterMap fun entry member => (judges entry member).report?_eq_some_iff

theorem map_fst_filter_missesCpu :
    (entries.filter fun entry => entry.2.missesCpu).map Prod.fst =
      (entries.map Prod.fst).filter (lookup.MissesCpu ·) := by
  rw [List.filter_map]
  congr 1
  apply List.filter_congr
  intro entry member
  rw [Bool.eq_iff_iff, (judges entry member).missesCpu_iff]
  simp

theorem events_flatMap :
    (entries.flatMap fun entry => entry.2.notices entry.1).filterMap Notice.event? =
      ((entries.map Prod.fst).filter (lookup.SupportUnknown ·)).map supportError := by
  induction entries with
  | nil => rfl
  | cons entry entries ih =>
      rw [List.forall_mem_cons] at judges
      rw [List.flatMap_cons, List.filterMap_append, ih judges.2, judges.1.events_eq, List.map_cons,
        List.filter_cons]
      by_cases unknown : lookup.SupportUnknown entry.1 <;> simp [unknown]

end Entries

theorem checkAll_of_clear {targets : List TopLevelTarget} (clear : lookup.stop? targets = none) :
    ∃ reports,
      List.Forall₂ lookup.Reports (targets.filter (lookup.MissesNamed ·)) reports ∧
      (lookup.checkAll targets).1 =
        (if reports = [] then .ok (targets.filter (lookup.MissesCpu ·))
        else .error (FailureCause.restriction (.targetsMissingEnvironments reports))) ∧
      (lookup.checkAll targets).2.filterMap Notice.event? =
        (targets.filter (lookup.SupportUnknown ·)).map supportError := by
  obtain ⟨entries, rfl, judges, judged⟩ := judgeAll_append clear []
  rw [List.append_nil] at judged
  change lookup.judgeAll (entries.map Prod.fst) = (entries ++ [], none) at judged
  rw [List.append_nil] at judged
  refine ⟨_, forall₂_reports judges, ?_, ?_⟩
  · rw [← map_fst_filter_missesCpu judges, checkAll, judged]
    simp only [List.isEmpty_iff]
  · rw [← events_flatMap judges, checkAll, judged]

theorem exists_append_of_stop? {targets : List TopLevelTarget} {target : TopLevelTarget}
    {request : EnvironmentRequest} {failure : Failure}
    (stopped : lookup.stop? targets = some (target, request, failure)) :
    ∃ before after, targets = before ++ target :: after ∧ lookup.stop? before = none ∧
      lookup.stopFor? (lookup.requests target) = some (request, failure) := by
  obtain ⟨before, first, after, split, found, clear⟩ := List.findSome?_eq_some_iff.mp stopped
  obtain ⟨stop, stoppedHere, same⟩ := Option.map_eq_some_iff.mp found
  cases same
  exact ⟨before, after, split, List.findSome?_eq_none_iff.mpr clear, stoppedHere⟩

theorem checkAll_of_stopped {before after : List TopLevelTarget} {target : TopLevelTarget}
    {request : EnvironmentRequest} {failure : Failure} (clear : lookup.stop? before = none)
    (stopped : lookup.stopFor? (lookup.requests target) = some (request, failure)) :
    (lookup.checkAll (before ++ target :: after)).1 = .error (request.reported target failure) ∧
      (lookup.checkAll (before ++ target :: after)).2.filterMap Notice.event? =
        (before.filter (lookup.SupportUnknown ·)).map supportError := by
  obtain ⟨entries, rfl, judges, judged⟩ := judgeAll_append clear (target :: after)
  rw [judgeAll, judge_of_stopped stopped, List.append_nil] at judged
  constructor
  · rw [checkAll, judged]
  · rw [← events_flatMap judges, checkAll, judged]

/-- If no lookup fails, the targets that miss named environments decide whether the check fails, and
otherwise those that miss an environment of their processor are returned.  The first failing lookup
ends the check, whatever is missing by then. -/
theorem checkAll_concludes (lookup : EnvironmentLookup) (targets : List TopLevelTarget) :
    (lookup.stop? targets = none →
      ((∃ reports, (lookup.checkAll targets).1 =
          .error (FailureCause.restriction (.targetsMissingEnvironments reports))) ↔
        ∃ target ∈ targets, lookup.MissesNamed target) ∧
      (∀ reports, (lookup.checkAll targets).1 =
          .error (FailureCause.restriction (.targetsMissingEnvironments reports)) →
        List.Forall₂ lookup.Reports (targets.filter (lookup.MissesNamed ·)) reports) ∧
      ((¬ ∃ target ∈ targets, lookup.MissesNamed target) →
        (lookup.checkAll targets).1 = .ok (targets.filter (lookup.MissesCpu ·))) ∧
      (lookup.checkAll targets).2.filterMap Notice.event? =
        (targets.filter (lookup.SupportUnknown ·)).map supportError) ∧
    ∀ target request failure, lookup.stop? targets = some (target, request, failure) →
      (lookup.checkAll targets).1 = .error (request.reported target failure) ∧
      ∃ before after, targets = before ++ target :: after ∧ lookup.stop? before = none ∧
        (lookup.checkAll targets).2.filterMap Notice.event? =
          (before.filter (lookup.SupportUnknown ·)).map supportError := by
  constructor
  · intro clear
    obtain ⟨reports, listed, outcome, events⟩ := checkAll_of_clear clear
    have complete : reports = [] ↔ ¬ ∃ target ∈ targets, lookup.MissesNamed target := by
      rw [← List.length_eq_zero_iff, ← listed.length_eq, List.length_eq_zero_iff,
        List.filter_eq_nil_iff]
      simp
    by_cases missed : ∃ target ∈ targets, lookup.MissesNamed target
    · rw [if_neg fun empty => complete.mp empty missed] at outcome
      refine ⟨iff_of_true ⟨_, outcome⟩ missed, ?_, fun none => absurd missed none, events⟩
      intro others same
      cases outcome.symm.trans same
      exact listed
    · rw [if_pos (complete.mpr missed)] at outcome
      refine ⟨iff_of_false ?_ missed, ?_, fun _ => outcome, events⟩
      · rintro ⟨_, same⟩
        cases outcome.symm.trans same
      · intro _ same
        cases outcome.symm.trans same
  · intro target request failure stopped
    obtain ⟨before, after, rfl, clear, stopped⟩ := exists_append_of_stop? stopped
    obtain ⟨outcome, events⟩ := checkAll_of_stopped clear stopped
    exact ⟨outcome, before, after, rfl, clear, events⟩

end EnvironmentLookup

def armRegistry : EnvironmentRegistry where
  configurations :=
    [(⟨"named"⟩, .ok { cpu := "arm", targetEnvironments := [⟨"", "envs", "k8"⟩] }),
      (⟨"auto"⟩, .ok { cpu := "arm", autoCpuGroup := some ⟨"", "envs", "cpus"⟩ }),
      (⟨"lost"⟩, .error (FailureCause.lookup .interrupted))]
  groups := [cpuGroup]

def narrowedTarget : TopLevelTarget := { binaryIn "named" with support := some narrowed }

def mixedTargets : List TopLevelTarget :=
  [{ binaryIn "named" with support := none }, narrowedTarget,
    { binaryIn "auto" with support := some emptied }]

theorem checkAll_concludes_mixedTargets :
    (armRegistry.lookup.stop? mixedTargets = none ∧
      ∃ reports, (armRegistry.lookup.checkAll mixedTargets).1 =
        .error (FailureCause.restriction (.targetsMissingEnvironments reports))) ∧
    armRegistry.lookup.stop? (mixedTargets ++ [binaryIn "lost"]) =
        some (binaryIn "lost", EnvironmentRequest.configuration ⟨"lost"⟩,
          (FailureCause.lookup .interrupted : Failure)) ∧
      (armRegistry.lookup.checkAll (mixedTargets ++ [binaryIn "lost"])).1 =
        .error ((FailureCause.lookup .interrupted : Failure).inContext
          "checking environments of //app:server") := by
  have clear : armRegistry.lookup.stop? mixedTargets = none := by rfl
  have stopped : armRegistry.lookup.stop? (mixedTargets ++ [binaryIn "lost"]) =
      some (binaryIn "lost", EnvironmentRequest.configuration ⟨"lost"⟩,
        (FailureCause.lookup .interrupted : Failure)) := by rfl
  have participates : armRegistry.lookup.Participates narrowedTarget
      { cpu := "arm", targetEnvironments := [⟨"", "envs", "k8"⟩] } :=
    ⟨⟨⟨"named"⟩, rfl, rfl⟩, rfl, _, rfl, rfl⟩
  have misses : armRegistry.lookup.MissesNamed narrowedTarget :=
    ⟨{ target := ⟨"", "app", "server"⟩
       declared := narrowed.declared.environments
       missing := [narrowed.record ⟨"", "envs", "k8"⟩] },
      _, narrowed, participates, rfl, rfl, rfl, rfl, by simp⟩
  have concludes := armRegistry.lookup.checkAll_concludes mixedTargets
  have stops := armRegistry.lookup.checkAll_concludes (mixedTargets ++ [binaryIn "lost"])
  exact ⟨⟨clear, (concludes.1 clear).1.mpr ⟨narrowedTarget, by simp [mixedTargets], misses⟩⟩,
    stopped, (stops.2 _ _ _ stopped).1⟩

end CrossBuild
