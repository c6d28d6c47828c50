import CrossBuild.Constraint
import CrossBuild.DebugFilter
import CrossBuild.Environment.Group
import CrossBuild.Label.Parser
import CrossBuild.Resolution.Failure
import CrossBuild.Restriction.Report

/-!
Failures: a cause from one of the domains, and the contexts that were put around it on its way up.
Contexts change the message and nothing else.
-/

namespace CrossBuild

inductive LookupFailure where
  | invalidPlatform (label : Label)
  | invalidConstraintValue (label : Label)
  | invalidToolchainType (label : Label)
  | invalidExecutionPlatformLabel (label : Label) (reason : String)
  | invalidToolchainLabel (label : Label) (reason : String)
  | noToolchainFound (toolchainType : Label)
  | interrupted
deriving DecidableEq, Inhabited

def LookupFailure.message : LookupFailure → String
  | invalidPlatform label =>
      "Target " ++ toString label ++
        " was referenced as a platform, but does not provide PlatformInfo"
  | invalidConstraintValue label =>
      "Target " ++ toString label ++
        " was referenced as a constraint_value, but does not provide ConstraintValueInfo"
  | invalidToolchainType label =>
      "Target " ++ toString label ++
        " was referenced as a toolchain type, but does not provide ToolchainTypeInfo"
  | invalidExecutionPlatformLabel label reason =>
      "invalid registered execution platform '" ++ toString label ++ "': " ++ reason
  | invalidToolchainLabel label reason =>
      "invalid registered toolchain '" ++ toString label ++ "': " ++ reason
  | noToolchainFound toolchainType =>
      "no matching toolchains found for types " ++ toString toolchainType
  | interrupted => "evaluation was interrupted"

inductive FailureTag where
  | invalidLabel
  | invalidPlatform
  | invalidConstraintValue
  | invalidToolchainType
  | invalidExecutionPlatformLabel
  | invalidToolchainLabel
  | noToolchainFound
  | duplicateConstraintSetting
  | invalidEnvironmentGroup
  | invalidDebugFilter
  | noMatchingToolchain
  | noMatchingExecutionPlatform
  | incompatibleTargetRequested
  | targetsMissingEnvironments
  | invalidTargetEnvironment
  | interrupted
deriving DecidableEq

instance : ToString FailureTag where
  toString
    | .invalidLabel => "INVALID_LABEL"
    | .invalidPlatform => "INVALID_PLATFORM"
    | .invalidConstraintValue => "INVALID_CONSTRAINT_VALUE"
    | .invalidToolchainType => "INVALID_TOOLCHAIN_TYPE"
    | .invalidExecutionPlatformLabel => "INVALID_EXECUTION_PLATFORM_LABEL"
    | .invalidToolchainLabel => "INVALID_TOOLCHAIN_LABEL"
    | .noToolchainFound => "NO_TOOLCHAIN_FOUND"
    | .duplicateConstraintSetting => "DUPLICATE_CONSTRAINT_SETTING"
    | .invalidEnvironmentGroup => "INVALID_ENVIRONMENT_GROUP"
    | .invalidDebugFilter => "INVALID_DEBUG_FILTER"
    | .noMatchingToolchain => "NO_MATCHING_TOOLCHAIN"
    | .noMatchingExecutionPlatform => "NO_MATCHING_EXECUTION_PLATFORM"
    | .incompatibleTargetRequested => "INCOMPATIBLE_TARGET_REQUESTED"
    | .targetsMissingEnvironments => "TARGETS_MISSING_ENVIRONMENTS"
    | .invalidTargetEnvironment => "INVALID_TARGET_ENVIRONMENT"
    | .interrupted => "INTERRUPTED"

inductive FailureCategory where
  | input
  | infrastructure
deriving DecidableEq

instance : ToString FailureCategory where
  toString
    | .input => "Input"
    | .infrastructure => "Infra"

inductive FailureCause where
  | label (error : LabelError)
  | constraint (conflict : ConstraintConflict)
  | environment (error : EnvironmentError)
  | lookup (failure : LookupFailure)
  | debugFilter (error : DebugFilterError)
  | resolution (failure : ResolutionFailure)
  | restriction (failure : RestrictionFailure)
deriving DecidableEq

inductive CauseKind where
  | label
  | constraint
  | environment
  | lookup
  | debugFilter
  | resolution
  | restriction
deriving DecidableEq

abbrev CauseKind.Cause : CauseKind → Type
  | label => LabelError
  | constraint => ConstraintConflict
  | environment => EnvironmentError
  | lookup => LookupFailure
  | debugFilter => DebugFilterError
  | resolution => ResolutionFailure
  | restriction => RestrictionFailure

namespace FailureCause

def ofKind? : (kind : CauseKind) → FailureCause → Option kind.Cause
  | .label, .label error => some error
  | .constraint, .constraint conflict => some conflict
  | .environment, .environment error => some error
  | .lookup, .lookup failure => some failure
  | .debugFilter, .debugFilter error => some error
  | .resolution, .resolution failure => some failure
  | .restriction, .restriction failure => some failure
  | _, _ => none

def tag : FailureCause → FailureTag
  | label _ => .invalidLabel
  | constraint _ => .duplicateConstraintSetting
  | environment _ => .invalidEnvironmentGroup
  | lookup (.invalidPlatform _) => .invalidPlatform
  | lookup (.invalidConstraintValue _) => .invalidConstraintValue
  | lookup (.invalidToolchainType _) => .invalidToolchainType
  | lookup (.invalidExecutionPlatformLabel _ _) => .invalidExecutionPlatformLabel
  | lookup (.invalidToolchainLabel _ _) => .invalidToolchainLabel
  | lookup (.noToolchainFound _) => .noToolchainFound
  | lookup .interrupted => .interrupted
  | debugFilter _ => .invalidDebugFilter
  | resolution (.unresolvedToolchains _) => .noMatchingToolchain
  | resolution (.noMatchingPlatform _ _ _) => .noMatchingExecutionPlatform
  | restriction (.incompatibleTargetRequested _) => .incompatibleTargetRequested
  | restriction (.targetsMissingEnvironments _) => .targetsMissingEnvironments
  | restriction (.invalidTargetEnvironment _ _) => .invalidTargetEnvironment

/-- Only an interruption is not the user's doing. -/
def category : FailureCause → FailureCategory
  | lookup .interrupted => .infrastructure
  | _ => .input

def message : FailureCause → String
  | label error => error.message
  | constraint conflict => conflict.message
  | environment error => error.message
  | lookup failure => failure.message
  | debugFilter error => error.message
  | resolution failure => failure.message
  | restriction failure => failure.message

theorem tag_eq_interrupted_iff (cause : FailureCause) :
    cause.tag = .interrupted ↔ cause = lookup .interrupted := by
  cases cause with
  | lookup failure => cases failure <;> simp [tag]
  | resolution failure => cases failure <;> simp [tag]
  | restriction failure => cases failure <;> simp [tag]
  | _ => simp [tag]

theorem category_eq_infrastructure_iff (cause : FailureCause) :
    cause.category = .infrastructure ↔ cause = lookup .interrupted := by
  cases cause with
  | lookup failure => cases failure <;> simp [category]
  | _ => simp [category]

end FailureCause

/-- The contexts stand from the outermost to the innermost. -/
structure Failure where
  root : FailureCause
  contexts : List String := []
deriving DecidableEq

namespace Failure

def inContext (failure : Failure) (context : String) : Failure :=
  { failure with contexts := context :: failure.contexts }

def tag (failure : Failure) : FailureTag := failure.root.tag

def category (failure : Failure) : FailureCategory := failure.root.category

def rootMessage (failure : Failure) : String := failure.root.message

def message (failure : Failure) : String :=
  failure.contexts.foldr (fun context inner => context ++ "\n\nCaused by:\n    " ++ inner)
    failure.rootMessage

def taggedMessage (failure : Failure) : String :=
  failure.message ++ " (" ++ toString failure.tag ++ ")"

/-- The cause itself, for a caller that knows what to do with causes of this kind. -/
def cause? (failure : Failure) (kind : CauseKind) : Option kind.Cause := failure.root.ofKind? kind

def lookup? (failure : Failure) : Option LookupFailure :=
  match failure.root with
  | .lookup cause => some cause
  | _ => none

def isInterrupted (failure : Failure) : Bool := failure.tag = .interrupted

@[simp] theorem root_inContext (failure : Failure) (context : String) :
    (failure.inContext context).root = failure.root := rfl

theorem lookup?_eq_cause? (failure : Failure) : failure.lookup? = failure.cause? .lookup := by
  unfold lookup? cause?
  cases failure.root <;> rfl

theorem isInterrupted_iff (failure : Failure) :
    failure.isInterrupted = true ↔ failure.root = .lookup .interrupted := by
  rw [isInterrupted, decide_eq_true_iff]
  exact failure.root.tag_eq_interrupted_iff

theorem category_eq_infrastructure_iff (failure : Failure) :
    failure.category = .infrastructure ↔ failure.root = .lookup .interrupted :=
  failure.root.category_eq_infrastructure_iff

theorem lookup?_eq_some_iff (failure : Failure) (cause : LookupFailure) :
    failure.lookup? = some cause ↔ failure.root = .lookup cause := by
  unfold lookup?
  cases failure.root <;> simp

end Failure

instance : Coe FailureCause Failure := ⟨fun cause => { root := cause }⟩

end CrossBuild
