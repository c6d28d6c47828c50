import CrossBuild.Event
import CrossBuild.Failure
import CrossBuild.Restriction.Target

/-!
Builds can expect their top-level targets to support certain environments.  Missing an environment
that the configuration names fails the build; missing one that was only picked by the name of the
processor keeps the target from being built.
-/

namespace CrossBuild

structure EnvironmentLookup where
  configuration : ConfigurationKey → Except Failure BuildConfiguration
  group : Label → Except Failure EnvironmentGroup
  groupOf : Label → Except Failure EnvironmentGroup

namespace EnvironmentLookup

def expecting {α : Type} (label : Label) (found : Except Failure α) : Except Failure α :=
  found.mapError fun failure =>
    FailureCause.restriction (.invalidTargetEnvironment label failure.message)

def expected (lookup : EnvironmentLookup) (environments : List Label) :
    Except Failure EnvironmentCollection := do
  let pairs ← environments.mapM fun environment => do
    return (← expecting environment (lookup.groupOf environment), environment)
  return EnvironmentCollection.ofPairs pairs

def autoEnvironments (lookup : EnvironmentLookup) (configuration : BuildConfiguration) :
    Except Failure (List Label) :=
  match configuration.autoCpuGroup with
  | none => .ok []
  | some label => do
      let group ← expecting label (lookup.group label)
      return group.environments.filter fun environment => environment.name = configuration.cpu

end EnvironmentLookup

namespace EnvironmentSupport

/-- An environment is supported if it is among the refined ones, or if the refined ones do not
mention its group and it is a default there. -/
def supports (support : EnvironmentSupport) (group : EnvironmentGroup) (environment : Label) :
    Bool :=
  OrderedMap.contains support.refined environment ||
    (!support.refined.referencesGroup group.label && group.isDefault environment)

def missing (support : EnvironmentSupport) (lookup : EnvironmentLookup)
    (environments : List Label) : Except Failure (List MissingEnvironment) := do
  let expected ← lookup.expected environments
  let unsupported := (OrderedMap.entries expected).filter fun entry =>
    !support.supports entry.2 entry.1
  return unsupported.map fun entry =>
    { environment := entry.1, removal := support.removalOf? entry.1 }

end EnvironmentSupport

inductive EnvironmentVerdict where
  | outside
  | exempt (kind : String)
  | unknownSupport
  | checked (report : EnvironmentReport) (missingCpu : Option String)

namespace EnvironmentVerdict

def notices (target : TopLevelTarget) : EnvironmentVerdict → List Notice
  | outside => []
  | exempt kind =>
      [.debug (toString target.label ++ ": " ++ kind ++
        " rules are not checked for environments")]
  | unknownSupport =>
      [.event (.error ("Unable to get supported environments for " ++ toString target.label ++
        " when checking environment restrictions"))]
  | checked _ none => []
  | checked _ (some cpu) =>
      [.debug (toString target.label ++ " does not support the environment of cpu " ++ cpu)]

def report? : EnvironmentVerdict → Option EnvironmentReport
  | checked report _ => if report.missing.isEmpty then none else some report
  | _ => none

def missesCpu : EnvironmentVerdict → Bool
  | checked _ missingCpu => missingCpu.isSome
  | _ => false

end EnvironmentVerdict

namespace EnvironmentLookup

def examine (lookup : EnvironmentLookup) (target : TopLevelTarget)
    (configuration : BuildConfiguration) (support : EnvironmentSupport) :
    Except Failure EnvironmentVerdict := do
  let missing ← support.missing lookup configuration.targetEnvironments
  let auto ← lookup.autoEnvironments configuration
  let missingAuto ← support.missing lookup auto
  let report := {
    target := target.label
    declared := support.declared.environments
    missing := missing : EnvironmentReport }
  return .checked report (if missingAuto.isEmpty then none else some configuration.cpu)

/-- A target takes part if its configuration enforces constraints and its rule checks them. -/
def judge (lookup : EnvironmentLookup) (target : TopLevelTarget) :
    Except Failure EnvironmentVerdict :=
  match target.configuration with
  | none => .ok .outside
  | some key => do
      let configuration ← (lookup.configuration key).mapError fun failure =>
        failure.inContext ("checking environments of " ++ toString target.label)
      if !configuration.enforceConstraints then return .outside
      match target.rule with
      | none => return .outside
      | some rule =>
          if !rule.checksConstraints then return .exempt rule.kind
          match target.support with
          | none => return .unknownSupport
          | some support => lookup.examine target configuration support

def judgeAll (lookup : EnvironmentLookup) :
    List TopLevelTarget → List (TopLevelTarget × EnvironmentVerdict) × Option Failure
  | [] => ([], none)
  | target :: rest =>
      match lookup.judge target with
      | .error failure => ([], some failure)
      | .ok verdict =>
          let later := lookup.judgeAll rest
          ((target, verdict) :: later.1, later.2)

/-- Reports all targets that miss named environments together; if there are none, returns the
targets that must not be built. -/
def checkAll (lookup : EnvironmentLookup) (targets : List TopLevelTarget) :
    Except Failure (List TopLevelTarget) × List Notice :=
  let (verdicts, failure) := lookup.judgeAll targets
  let reports := verdicts.filterMap fun entry => entry.2.report?
  let outcome := match failure with
    | some failure => .error failure
    | none =>
        if reports.isEmpty then
          .ok ((verdicts.filter fun entry => entry.2.missesCpu).map Prod.fst)
        else .error (FailureCause.restriction (.targetsMissingEnvironments reports) : Failure)
  (outcome, verdicts.flatMap fun entry => entry.2.notices entry.1)

end EnvironmentLookup

structure EnvironmentRegistry where
  configurations : List (ConfigurationKey × Except Failure BuildConfiguration) := []
  groups : List EnvironmentGroup := []
  failures : List (Label × Failure) := []

namespace EnvironmentRegistry

def guarded (registry : EnvironmentRegistry) (label : Label)
    (found : Except Failure EnvironmentGroup) : Except Failure EnvironmentGroup :=
  match registry.failures.lookup label with
  | some failure => .error failure
  | none => found

def lookup (registry : EnvironmentRegistry) : EnvironmentLookup where
  configuration key :=
    (registry.configurations.lookup key).getD (.error (FailureCause.lookup .interrupted))
  group label := registry.guarded label <|
    match registry.groups.find? fun group => group.label = label with
    | some group => .ok group
    | none => .error (FailureCause.environment (.notAnEnvironmentGroup label))
  groupOf label := registry.guarded label <|
    match registry.groups.find? fun group => group.contains label with
    | some group => .ok group
    | none => .error (FailureCause.environment (.notAnEnvironment label))

end EnvironmentRegistry

end CrossBuild
