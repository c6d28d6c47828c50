import CrossBuild.Constraint
import CrossBuild.OrderedMap
import CrossBuild.Resolution.Key

/-!
The execution platforms that a resolution may choose from, in order of preference, and the reasons
for passing some of them over.
-/

namespace CrossBuild

inductive SkipReason where
  | missingConstraints (constraints : List ConstraintValue)
  | missingToolchains (types : List ToolchainType)
deriving DecidableEq

instance : ToString SkipReason where
  toString
    | .missingConstraints constraints => "missing constraints " ++ Text.bracketList constraints
    | .missingToolchains types => "no toolchains for types " ++ Text.bracketList types

/-- The registered platforms in their order.  The host comes last, unless it was registered. -/
def candidatePlatforms (registered : List Label) (host : Label) : List Label :=
  if host ∈ registered then registered else registered ++ [host]

def removalMessage (removal : Label × ConstraintValue) : String :=
  "ToolchainResolution: Removed execution platform " ++ toString removal.1 ++
    " from available execution platforms, it is missing constraint " ++ toString removal.2

/-- The candidates split by whether they satisfy the required constraint values.  Screening stops
at a candidate that is no platform. -/
structure Screening where
  kept : List Label := []
  dropped : List (Label × List ConstraintValue) := []
  unknown : Option Label := none

namespace Screening

def keepAll (candidates : List Label) : Screening := { kept := candidates }

def run (platforms : OrderedMap Label Platform) (required : List ConstraintValue) :
    List Label → Screening
  | [] => {}
  | candidate :: rest =>
      match platforms.get? candidate with
      | none => { unknown := some candidate }
      | some platform =>
          let later := run platforms required rest
          match platform.missing required with
          | [] => { later with kept := candidate :: later.kept }
          | missing => { later with dropped := (candidate, missing) :: later.dropped }

def messages (screening : Screening) : List String :=
  screening.dropped.flatMap fun entry => entry.2.map fun value => removalMessage (entry.1, value)

def skipped (screening : Screening) : List (Label × SkipReason) :=
  screening.dropped.map fun entry => (entry.1, .missingConstraints entry.2)

end Screening

end CrossBuild
