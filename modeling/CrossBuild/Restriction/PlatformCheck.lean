import CrossBuild.Event
import CrossBuild.Failure
import CrossBuild.Restriction.Target

/-!
Incompatible top-level targets are left out of the build without a word, unless the user asked for
them by name: then they fail the check, or, if the build is to keep going, are reported and left
out.
-/

namespace CrossBuild

structure PlatformCheckOptions where
  keepGoing : Bool := false
  moduleSystem : Bool := false
deriving DecidableEq, Inhabited

inductive TargetDisposition where
  | compatible
  | skipped
  | requested (chain : IncompatibilityChain)

structure PlatformCheckResult where
  skipped : List TopLevelTarget
  failed : List TopLevelTarget

def PlatformCheckResult.skippingMessage? (result : PlatformCheckResult) : Option String :=
  if result.skipped.isEmpty then none
  else some (skippingMessage (result.skipped.map TopLevelTarget.label))

/-- The table of incompatible targets, and the labels that users asked for in canonical form. -/
structure PlatformCheck where
  table : IncompatibilityTable
  requested : List String
  options : PlatformCheckOptions

namespace PlatformCheck

def disposition (check : PlatformCheck) (target : TopLevelTarget) : TargetDisposition :=
  match check.table.chain? target.label with
  | none => .compatible
  | some chain =>
      if check.requested.contains (target.label.canonicalText check.options.moduleSystem) then
        .requested chain
      else .skipped

def isSkipped (check : PlatformCheck) (target : TopLevelTarget) : Bool :=
  match check.disposition target with
  | .skipped => true
  | _ => false

def requestedChain? (check : PlatformCheck) (target : TopLevelTarget) :
    Option IncompatibilityChain :=
  match check.disposition target with
  | .requested chain => some chain
  | _ => none

def notices (check : PlatformCheck) (target : TopLevelTarget) : List Notice :=
  match check.disposition target with
  | .compatible => []
  | .skipped => [.debug ("skipping incompatible target " ++ toString target.label)]
  | .requested _ =>
      let warning := Event.warning (RestrictionFailure.incompatibleTarget
        (target.label.canonicalText check.options.moduleSystem))
      [.log warning.logLine, .event warning]

/-- Unless the build keeps going, the first requested target that is incompatible fails the check,
and nothing is said about it or about later targets. -/
def run (check : PlatformCheck) (targets : List TopLevelTarget) :
    Except Failure PlatformCheckResult × List Notice :=
  let stop := if check.options.keepGoing then none else targets.findSome? check.requestedChain?
  match stop with
  | some chain =>
      let before := targets.takeWhile fun target => (check.requestedChain? target).isNone
      (.error (FailureCause.restriction (.incompatibleTargetRequested chain)),
        before.flatMap check.notices)
  | none =>
      (.ok { skipped := targets.filter check.isSkipped
             failed := targets.filter fun target => (check.requestedChain? target).isSome },
        targets.flatMap check.notices)

end PlatformCheck

end CrossBuild
