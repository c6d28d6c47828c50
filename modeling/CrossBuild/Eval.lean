import CrossBuild.Failure

/-!
Reads from an evaluation engine that restarts.  A value that has not been computed yet suspends
the computation, which the engine runs again from the start once the value exists.
-/

namespace CrossBuild

inductive Suspension where
  | notReady
  | failed (failure : Failure)
deriving DecidableEq

abbrev Eval (α : Type) := Except Suspension α

namespace Eval

def fail {α : Type} (cause : FailureCause) : Eval α := .error (.failed { root := cause })

def isPending {α : Type} : Eval α → Bool
  | .error .notReady => true
  | _ => false

/-- Joins two reads that do not depend on each other.  A failure of either wins over a value that
is not ready, and the first of two failures over the second. -/
def joinPair {α β : Type} : Eval α → Eval β → Eval (α × β)
  | .ok first, .ok second => .ok (first, second)
  | .error (.failed failure), _ => .error (.failed failure)
  | _, .error (.failed failure) => .error (.failed failure)
  | _, _ => .error .notReady

end Eval

inductive Computed (α : Type) where
  | ready (value : α)
  | notReady
deriving DecidableEq

namespace Computed

def ofEval {α : Type} : Eval α → Except Failure (Computed α)
  | .ok value => .ok (ready value)
  | .error .notReady => .ok notReady
  | .error (.failed failure) => .error failure

def isReady {α : Type} : Computed α → Bool
  | ready _ => true
  | notReady => false

def value? {α : Type} : Computed α → Option α
  | ready value => some value
  | notReady => none

end Computed

end CrossBuild
