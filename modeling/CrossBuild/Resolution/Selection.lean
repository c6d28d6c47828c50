import CrossBuild.Eval
import CrossBuild.Resolution.Availability
import CrossBuild.Resolution.Candidates

/-!
From the answers for single toolchain types to one execution platform with a toolchain for each of
them.
-/

namespace CrossBuild

abbrev ToolchainAnswer := ToolchainRequirement × Eval ToolchainAvailability

namespace ToolchainAnswer

def failure? (answer : ToolchainAnswer) : Option Failure :=
  match answer.2 with
  | .error (.failed failure) =>
      match failure.lookup? with
      | some (.noToolchainFound _) => none
      | _ => some failure
  | _ => none

def missingType? (answer : ToolchainAnswer) : Option Label :=
  match answer.2 with
  | .ok value => if value.available.isEmpty then some answer.1.toolchainType else none
  | .error .notReady => none
  | .error (.failed failure) =>
      match failure.lookup? with
      | some (.noToolchainFound label) => some label
      | _ => none

def value? (answer : ToolchainAnswer) : Option ToolchainAvailability :=
  match answer.2 with
  | .ok value => if value.available.isEmpty then none else some value
  | .error _ => none

/-- The first failure ends the resolution at once.  Missing types are reported even if other
answers are not ready. -/
def collect (answers : List ToolchainAnswer) : Eval (List ToolchainAvailability) :=
  let missing := answers.filterMap missingType?
  match answers.findSome? failure? with
  | some failure => .error (.failed failure)
  | none =>
      if !missing.isEmpty then Eval.fail (.resolution (.unresolvedToolchains missing))
      else if answers.any fun answer => answer.2.isPending then .error .notReady
      else .ok (answers.filterMap value?)

end ToolchainAnswer

structure PlatformChoice where
  host : Label
  target : Label
  candidates : List Label

structure Selection where
  platform : Label
  toolchains : OrderedMap ToolchainType Label
  skipped : List (Label × SkipReason)

namespace PlatformChoice

def offers (choice : PlatformChoice) (platform : Label) : Bool :=
  platform = choice.host || platform = choice.target || platform ∈ choice.candidates

/-- A forced platform is never replaced by another one. -/
def pick? (choice : PlatformChoice) (forced : Option Label) (suitable : Label → Bool) :
    Option Label :=
  match forced with
  | some platform =>
      if choice.offers platform && suitable platform then some platform else none
  | none => choice.candidates.find? suitable

def ahead (choice : PlatformChoice) (forced : Option Label) (suitable : Label → Bool) :
    List Label :=
  match forced with
  | some _ => []
  | none => choice.candidates.takeWhile fun platform => !suitable platform

def select? (choice : PlatformChoice) (forced : Option Label)
    (values : List ToolchainAvailability) : Option Selection :=
  let required := values.map ToolchainAvailability.toolchainType
  let table := AvailabilityTable.ofList values
  let suitable := table.isSuitable required
  (choice.pick? forced suitable).map fun platform =>
    { platform := platform
      toolchains := table.row platform required
      skipped := (choice.ahead forced suitable).map fun other =>
        (other, .missingToolchains (table.missing other required)) }

def select (choice : PlatformChoice) (forced : Option Label)
    (requirements : List ToolchainRequirement) (answers : List ToolchainAnswer) :
    Eval Selection := do
  let values ← ToolchainAnswer.collect answers
  match choice.select? forced values with
  | some selection => return selection
  | none =>
      Eval.fail (.resolution (.noMatchingPlatform
        (requirements.map ToolchainRequirement.toolchainType) choice.candidates choice.target))

end PlatformChoice

end CrossBuild
