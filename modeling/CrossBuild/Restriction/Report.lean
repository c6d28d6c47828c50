import CrossBuild.Incompatibility
import CrossBuild.Restriction.Target

/-!
What the top-level checks report: the chain of dependencies that makes a target incompatible, and
the environments that targets were expected to support and do not.
-/

namespace CrossBuild

/-- An expected environment that a target does not support.  The removal is absent if the target
never declared the environment. -/
structure MissingEnvironment where
  environment : Label
  removal : Option EnvironmentRemoval
deriving DecidableEq, Inhabited

namespace MissingEnvironment

def lines (missing : MissingEnvironment) : List String :=
  match missing.removal with
  | none => ["  " ++ toString missing.environment]
  | some removal =>
      [ "  environment: " ++ toString missing.environment
      , "    removed by: " ++ toString removal.culprit
      , "    which has a select() that chooses dep: " ++ toString removal.selectedDependency
      , "    which lacks: " ++ toString missing.environment ]

end MissingEnvironment

structure EnvironmentReport where
  target : Label
  declared : List Label
  missing : List MissingEnvironment
deriving DecidableEq, Inhabited

namespace EnvironmentReport

def separator : String := " "

/-- Writes the entries after one another.  A separator stands between two neighbours of which at
least one is a block with a culprit. -/
def entryLines : List MissingEnvironment → List String
  | [] => []
  | [last] => last.lines
  | first :: second :: rest =>
      first.lines ++
        (if first.removal.isSome || second.removal.isSome then [separator] else []) ++
        entryLines (second :: rest)

def lines (report : EnvironmentReport) : List String :=
  [ separator
  , toString report.target ++ " declares compatibility with:"
  , "  " ++ Text.bracketList report.declared
  , "but does not support:" ] ++ entryLines report.missing

def message (reports : List EnvironmentReport) : String :=
  "\n".intercalate
    ("This is a restricted-environment build." :: reports.flatMap lines ++ [separator])

end EnvironmentReport

namespace IncompatibilityChain

def report (chain : IncompatibilityChain) : String :=
  "\nDependency chain:" ++
    String.join (chain.targets.map fun label => "\n    " ++ toString label) ++
    "   <-- target platform (" ++ toString chain.platform ++ ") didn't satisfy constraint" ++
    match chain.rootCause.constraints with
    | [only] => " " ++ toString only
    | constraints => "s " ++ Text.bracketList constraints

end IncompatibilityChain

inductive RestrictionFailure where
  | incompatibleTargetRequested (chain : IncompatibilityChain)
  | targetsMissingEnvironments (reports : List EnvironmentReport)
  | invalidTargetEnvironment (environment : Label) (reason : String)
deriving DecidableEq

namespace RestrictionFailure

def incompatibleTarget (target : String) : String :=
  "Target " ++ target ++ " is incompatible and cannot be built, but was explicitly requested."

def message : RestrictionFailure → String
  | incompatibleTargetRequested chain =>
      incompatibleTarget (toString chain.target) ++ chain.report
  | targetsMissingEnvironments reports => EnvironmentReport.message reports
  | invalidTargetEnvironment environment reason =>
      "invalid target environment " ++ toString environment ++ ": " ++ reason

end RestrictionFailure

end CrossBuild
