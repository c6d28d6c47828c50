import CrossBuild.Proofs.PartialResults
import CrossBuild.Restriction.EnvironmentCheck

/-!
The lookups that the environment check makes, in their order.  The first one that fails ends the
check and decides what it reports.
-/

namespace CrossBuild

def failureOf? {α : Type} : Except Failure α → Option Failure
  | .ok _ => none
  | .error failure => some failure

theorem failureOf?_eq_some_iff {α : Type} {result : Except Failure α} {failure : Failure} :
    failureOf? result = some failure ↔ result = .error failure := by
  cases result <;> simp [failureOf?]

theorem failureOf?_eq_none_iff {α : Type} {result : Except Failure α} :
    failureOf? result = none ↔ ∃ value, result = .ok value := by
  cases result <;> simp [failureOf?]

inductive EnvironmentRequest where
  | configuration (key : ConfigurationKey)
  | group (label : Label)
  | groupOf (environment : Label)
deriving DecidableEq

namespace EnvironmentRequest

def failure? (lookup : EnvironmentLookup) : EnvironmentRequest → Option Failure
  | configuration key => failureOf? (lookup.configuration key)
  | group label => failureOf? (lookup.group label)
  | groupOf environment => failureOf? (lookup.groupOf environment)

def reported (target : TopLevelTarget) : EnvironmentRequest → Failure → Failure
  | configuration _, failure =>
      failure.inContext ("checking environments of " ++ toString target.label)
  | group label, failure | groupOf label, failure =>
      FailureCause.restriction (.invalidTargetEnvironment label failure.message)

end EnvironmentRequest

namespace EnvironmentLookup

variable (lookup : EnvironmentLookup)

def autoRequests (configuration : BuildConfiguration) : List EnvironmentRequest :=
  match configuration.autoCpuGroup with
  | none => []
  | some label => .group label ::
      match lookup.group label with
      | .error _ => []
      | .ok group =>
          (group.environments.filter fun environment =>
            environment.name = configuration.cpu).map .groupOf

def requests (target : TopLevelTarget) : List EnvironmentRequest :=
  match target.configuration with
  | none => []
  | some key => .configuration key ::
      match lookup.configuration key with
      | .error _ => []
      | .ok configuration =>
          if configuration.enforceConstraints && target.rule.any Rule.checksConstraints &&
              target.support.isSome then
            configuration.targetEnvironments.map .groupOf ++ lookup.autoRequests configuration
          else []

def stopFor? (requests : List EnvironmentRequest) : Option (EnvironmentRequest × Failure) :=
  requests.findSome? fun request => (request.failure? lookup).map fun failure => (request, failure)

/-- The first failing request of a check, the target that it is made for, and its failure. -/
def stop? (targets : List TopLevelTarget) :
    Option (TopLevelTarget × EnvironmentRequest × Failure) :=
  targets.findSome? fun target =>
    (lookup.stopFor? (lookup.requests target)).map fun stop => (target, stop)

def Makes {α : Type} (target : TopLevelTarget) (requests : List EnvironmentRequest)
    (result : Except Failure α) : Prop :=
  failureOf? result = (lookup.stopFor? requests).map fun stop => stop.1.reported target stop.2

namespace Makes

variable {lookup} {target : TopLevelTarget} {α β : Type}

theorem pure (value : α) : lookup.Makes target [] (Pure.pure value : Except Failure α) := rfl

theorem single {request : EnvironmentRequest} {found : Except Failure α}
    (answered : request.failure? lookup = failureOf? found) :
    lookup.Makes target [request] (found.mapError (request.reported target)) := by
  unfold Makes stopFor?
  rw [List.findSome?_singleton, answered]
  cases found <;> rfl

theorem bind {earlier later : List EnvironmentRequest} {result : Except Failure α}
    {next : α → Except Failure β} (first : lookup.Makes target earlier result)
    (rest : ∀ value, result = .ok value → lookup.Makes target later (next value)) :
    lookup.Makes target (earlier ++ later) (result >>= next) := by
  unfold Makes stopFor? at *
  rw [List.findSome?_append]
  cases result with
  | error failure =>
      obtain ⟨stop, stopped, reported⟩ := Option.map_eq_some_iff.mp first.symm
      rw [stopped, Option.some_or, Option.map_some, reported]
      rfl
  | ok value =>
      have clear := Option.map_eq_none_iff.mp first.symm
      rw [clear, Option.none_or]
      exact rest value rfl

theorem bind_pure {requests : List EnvironmentRequest} {result : Except Failure α}
    (made : lookup.Makes target requests result) (change : α → β) :
    lookup.Makes target requests (result >>= fun value => Pure.pure (change value)) := by
  have extended := made.bind fun value _ => pure (change value)
  rwa [List.append_nil] at extended

theorem mapM {step : α → Except Failure β} {request : α → EnvironmentRequest}
    (each : ∀ item, lookup.Makes target [request item] (step item)) (items : List α) :
    lookup.Makes target (items.map request) (items.mapM step) := by
  induction items with
  | nil => exact pure []
  | cons item rest ih =>
      rw [List.mapM_cons, List.map_cons, ← List.singleton_append]
      exact (each item).bind fun value _ => ih.bind_pure fun values => value :: values

end Makes

variable {lookup} {target : TopLevelTarget}

theorem makes_expected (environments : List Label) :
    lookup.Makes target (environments.map .groupOf) (lookup.expected environments) := by
  apply Makes.bind_pure
  apply Makes.mapM
  intro environment
  exact (Makes.single rfl).bind_pure fun group => (group, environment)

theorem makes_missing (support : EnvironmentSupport) (environments : List Label) :
    lookup.Makes target (environments.map .groupOf) (support.missing lookup environments) :=
  (makes_expected environments).bind_pure _

theorem makes_examine (configuration : BuildConfiguration) (support : EnvironmentSupport) :
    lookup.Makes target
      (configuration.targetEnvironments.map .groupOf ++ lookup.autoRequests configuration)
      (lookup.examine target configuration support) := by
  apply (makes_missing support _).bind
  intro missing _
  unfold autoRequests autoEnvironments
  cases configuration.autoCpuGroup with
  | none => exact (makes_missing support []).bind_pure fun _ => _
  | some label =>
      dsimp only
      rw [← List.singleton_append, bind_assoc]
      apply (Makes.single rfl).bind
      intro group found
      rw [mapError_eq_ok_iff.mp found]
      exact (makes_missing support _).bind_pure fun _ => _

theorem makes_judge (target : TopLevelTarget) :
    lookup.Makes target (lookup.requests target) (lookup.judge target) := by
  unfold judge requests
  cases target.configuration with
  | none => exact Makes.pure _
  | some key =>
      dsimp only
      rw [← List.singleton_append]
      apply (Makes.single rfl).bind
      intro configuration found
      rw [mapError_eq_ok_iff.mp found]
      dsimp only
      by_cases enforced : configuration.enforceConstraints
      · cases target.rule with
        | none => simpa [enforced] using Makes.pure _
        | some rule =>
            by_cases checks : rule.checksConstraints
            · cases target.support with
              | none => simpa [enforced, checks] using Makes.pure _
              | some support => simpa [enforced, checks] using makes_examine configuration support
            · simpa [enforced, checks] using Makes.pure _
      · simpa [enforced] using Makes.pure _

theorem failure_judgeAll (targets : List TopLevelTarget) :
    (lookup.judgeAll targets).2 =
      (lookup.stop? targets).map fun stop => stop.2.1.reported stop.1 stop.2.2 := by
  induction targets with
  | nil => rfl
  | cons target rest ih =>
      have made : lookup.Makes target (lookup.requests target) (lookup.judge target) :=
        makes_judge target
      unfold Makes at made
      rw [judgeAll, stop?, List.findSome?_cons]
      cases judged : lookup.judge target with
      | error failure =>
          rw [judged] at made
          obtain ⟨stop, stopped, reported⟩ := Option.map_eq_some_iff.mp made.symm
          rw [stopped, ← reported]
          rfl
      | ok verdict =>
          rw [judged] at made
          rw [Option.map_eq_none_iff.mp made.symm]
          exact ih

theorem outcome_checkAll {targets : List TopLevelTarget} {stop}
    (stopped : lookup.stop? targets = some stop) :
    (lookup.checkAll targets).1 = .error (stop.2.1.reported stop.1 stop.2.2) := by
  have failed := lookup.failure_judgeAll targets
  rw [stopped, Option.map_some] at failed
  simp only [checkAll, failed]

end EnvironmentLookup

/-- Lookups of configurations hand an interruption on.  Behind the other lookups it turns into a
complaint about the environment that was looked up. -/
theorem EnvironmentRequest.root_reported_iff (target : TopLevelTarget)
    (request : EnvironmentRequest) {failure : Failure}
    (interrupted : failure.root = .lookup .interrupted) :
    (request.reported target failure).root = .lookup .interrupted ↔
      ∃ key, request = .configuration key := by
  cases request with
  | configuration key => exact iff_of_true interrupted ⟨key, rfl⟩
  | group label => simp [reported]
  | groupOf environment => simp [reported]

/-- Whether an interruption is still one when it leaves the check depends on the lookup that was
interrupted. -/
theorem interrupted_checkAll_iff (lookup : EnvironmentLookup) (targets : List TopLevelTarget)
    {target : TopLevelTarget} {request : EnvironmentRequest} {failure : Failure}
    (stopped : lookup.stop? targets = some (target, request, failure))
    (interrupted : failure.root = .lookup .interrupted) :
    ∃ reported, (lookup.checkAll targets).1 = .error reported ∧
      (reported.isInterrupted = true ↔ ∃ key, request = .configuration key) ∧
      (reported.category = .infrastructure ↔ ∃ key, request = .configuration key) ∧
      (reported.lookup? = some .interrupted ↔ ∃ key, request = .configuration key) := by
  refine ⟨_, lookup.outcome_checkAll stopped, ?_, ?_, ?_⟩
  · rw [Failure.isInterrupted_iff]
    exact request.root_reported_iff target interrupted
  · rw [Failure.category_eq_infrastructure_iff]
    exact request.root_reported_iff target interrupted
  · rw [Failure.lookup?_eq_some_iff]
    exact request.root_reported_iff target interrupted

def cpuGroup : EnvironmentGroup where
  label := ⟨"", "envs", "cpus"⟩
  environments := [⟨"", "envs", "k8"⟩, ⟨"", "envs", "arm"⟩]
  defaults := [⟨"", "envs", "k8"⟩]
  fulfills := []
  nodup_environments := by decide
  nodup_defaults := by decide
  mem_of_default := by decide
  mem_of_fulfills := by decide

def cancelledRegistry : EnvironmentRegistry where
  configurations :=
    [(⟨"opt"⟩, .ok { cpu := "k8", targetEnvironments := [⟨"", "envs", "k8"⟩] }),
      (⟨"arm"⟩, .ok { cpu := "arm", targetEnvironments := [⟨"", "envs", "arm"⟩] }),
      (⟨"fast"⟩, .error ((FailureCause.lookup .interrupted : Failure).inContext "reading flags"))]
  groups := [cpuGroup]
  failures := [(⟨"", "envs", "arm"⟩, FailureCause.lookup .interrupted)]

def binaryIn (configuration : String) : TopLevelTarget where
  label := ⟨"", "app", "server"⟩
  configuration := some ⟨configuration⟩
  rule := some { kind := "cc_binary", checksConstraints := true }
  support := some {}

theorem interrupted_checkAll_iff_configuration :
    cancelledRegistry.lookup.stop? [binaryIn "opt", binaryIn "fast"] =
        some (binaryIn "fast", .configuration ⟨"fast"⟩,
          (FailureCause.lookup .interrupted : Failure).inContext "reading flags") ∧
      ∃ reported,
        (cancelledRegistry.lookup.checkAll [binaryIn "opt", binaryIn "fast"]).1 =
          .error reported ∧
        reported.isInterrupted = true ∧ reported.category = .infrastructure ∧
        reported.lookup? = some .interrupted := by
  have stopped : cancelledRegistry.lookup.stop? [binaryIn "opt", binaryIn "fast"] =
      some (binaryIn "fast", .configuration ⟨"fast"⟩,
        (FailureCause.lookup .interrupted : Failure).inContext "reading flags") := by rfl
  obtain ⟨reported, outcome, interrupted, category, cause⟩ :=
    interrupted_checkAll_iff cancelledRegistry.lookup [binaryIn "opt", binaryIn "fast"] stopped rfl
  exact ⟨stopped, reported, outcome, interrupted.mpr ⟨_, rfl⟩, category.mpr ⟨_, rfl⟩,
    cause.mpr ⟨_, rfl⟩⟩

/-- An interruption that is reported as the user's doing. -/
theorem interruption_lost :
    cancelledRegistry.lookup.stop? [binaryIn "arm"] =
        some (binaryIn "arm", EnvironmentRequest.groupOf ⟨"", "envs", "arm"⟩,
          (FailureCause.lookup .interrupted : Failure)) ∧
      ∃ reported, (cancelledRegistry.lookup.checkAll [binaryIn "arm"]).1 = .error reported ∧
        reported.isInterrupted = false ∧ reported.category = .input ∧ reported.lookup? = none :=
  ⟨rfl, _, rfl, by decide, by decide, by decide⟩

end CrossBuild
