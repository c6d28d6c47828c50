import CrossBuild.Constraint
import CrossBuild.Distinct
import CrossBuild.Label.Basic
import CrossBuild.OrderedMap

/-!
Targets that cannot be built for the target platform.  A target is incompatible itself or through
a dependency; chains of such dependencies are followed in a table.
-/

namespace CrossBuild

/-- A target lacks constraint values of the target platform, or depends on an incompatible target
that has an entry of its own. -/
inductive Incompatibility where
  | unsatisfied (platform : Label) (constraints : List ConstraintValue)
  | dependency (platform culprit : Label)
deriving DecidableEq, Inhabited

namespace Incompatibility

def platform : Incompatibility → Label
  | unsatisfied platform _ | dependency platform _ => platform

def constraints : Incompatibility → List ConstraintValue
  | unsatisfied _ constraints => constraints
  | dependency _ _ => []

def culprit? : Incompatibility → Option Label
  | unsatisfied _ _ => none
  | dependency _ culprit => some culprit

end Incompatibility

/-- A target, the culprits that lead from it to the root cause, and that root cause. -/
structure IncompatibilityChain where
  target : Label
  culprits : List Label
  rootCause : Incompatibility
deriving DecidableEq

namespace IncompatibilityChain

def targets (chain : IncompatibilityChain) : List Label := chain.target :: chain.culprits

def leaf (chain : IncompatibilityChain) : Label := chain.culprits.getLast?.getD chain.target

def size (chain : IncompatibilityChain) : Nat := chain.targets.length

def platform (chain : IncompatibilityChain) : Label := chain.rootCause.platform

end IncompatibilityChain

abbrev IncompatibilityTable := OrderedMap Label Incompatibility

namespace IncompatibilityTable

def next? (table : IncompatibilityTable) (entry : Incompatibility) :
    Option (Label × Incompatibility) :=
  entry.culprit?.bind fun culprit =>
    (OrderedMap.get? table culprit).map fun cause => (culprit, cause)

def follow (table : IncompatibilityTable) :
    Nat → Incompatibility → List Label × Incompatibility
  | 0, entry => ([], entry)
  | steps + 1, entry =>
      match next? table entry with
      | none => ([], entry)
      | some (culprit, cause) =>
          let rest := follow table steps cause
          (culprit :: rest.1, rest.2)

/-- A walk that repeats no target has fewer steps than the table has entries, so the size of the
table as a bound cuts nothing but cycles. -/
def chain? (table : IncompatibilityTable) (target : Label) : Option IncompatibilityChain :=
  (OrderedMap.get? table target).map fun entry =>
    let walk := follow table (OrderedMap.size table) entry
    { target := target, culprits := walk.1, rootCause := walk.2 }

theorem chain?_eq_none_iff (table : IncompatibilityTable) (target : Label) :
    chain? table target = none ↔ target ∉ OrderedMap.keys table := by
  rw [← OrderedMap.get?_eq_none_iff]
  simp [chain?]

end IncompatibilityTable

def skippedTargetsListed : Nat := 10

/-- Lists the distinct targets in label order, one on a line.  Beyond ten targets the list stops
after nine and ends in the number of the others. -/
def skippingMessage (targets : List Label) : String :=
  let labels := Label.sorted (distinct targets)
  let shown := if labels.length > skippedTargetsListed then skippedTargetsListed - 1
    else labels.length
  let lines := (labels.take shown).map fun label => "  " ++ toString label ++ "\n"
  let others := labels.length - shown
  "Skipped " ++ toString labels.length ++ " incompatible targets:\n" ++ String.join lines ++
    if others = 0 then "" else "  ...and " ++ toString others ++ " more\n"

end CrossBuild
