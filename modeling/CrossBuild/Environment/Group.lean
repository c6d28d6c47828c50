import CrossBuild.Distinct
import CrossBuild.Label.Basic

/-!
Environment groups: named sets of related environments, some of them defaults.  Inside a group a
declaration `(a, b)` says that whoever supports `a` supports `b`; `fulfillers` follows these
declarations backwards, nearest environments first.
-/

namespace CrossBuild

inductive EnvironmentError where
  | defaultNotMember (group environment : Label)
  | unknownFulfills (group environment : Label)
  | notAnEnvironment (label : Label)
  | notAnEnvironmentGroup (label : Label)
deriving DecidableEq

def EnvironmentError.message : EnvironmentError → String
  | defaultNotMember group environment =>
      "default environment " ++ toString environment ++ " is not a member of environment group " ++
        toString group
  | unknownFulfills group environment =>
      "environment " ++ toString environment ++
        " referenced by a fulfills declaration is not a member of environment group " ++
        toString group
  | notAnEnvironment label => toString label ++ " is not an environment"
  | notAnEnvironmentGroup label => toString label ++ " is not an environment group"

structure GroupDeclaration where
  label : Label
  environments : List Label := []
  defaults : List Label := []
  fulfills : List (Label × Label) := []

/-- A pair `(a, b)` of `fulfills` says that supporting `a` implies supporting `b`. -/
structure EnvironmentGroup where
  label : Label
  environments : List Label
  defaults : List Label
  fulfills : List (Label × Label)
  nodup_environments : environments.Nodup
  nodup_defaults : defaults.Nodup
  mem_of_default : ∀ environment ∈ defaults, environment ∈ environments
  mem_of_fulfills : ∀ pair ∈ fulfills, pair.1 ∈ environments ∧ pair.2 ∈ environments

namespace GroupDeclaration

def ends (declaration : GroupDeclaration) : List Label :=
  declaration.fulfills.flatMap fun pair => [pair.1, pair.2]

def stranger? (declaration : GroupDeclaration) (labels : List Label) : Option Label :=
  labels.find? fun label => label ∉ declaration.environments

theorem mem_of_stranger?_eq_none {declaration : GroupDeclaration} {labels : List Label}
    (clear : declaration.stranger? labels = none) :
    ∀ label ∈ labels, label ∈ declaration.environments := by
  simpa [stranger?] using clear

/-- Defaults are checked before the ends of the fulfills declarations. -/
def check (declaration : GroupDeclaration) : Except EnvironmentError EnvironmentGroup :=
  match noDefault : declaration.stranger? declaration.defaults with
  | some environment => .error (.defaultNotMember declaration.label environment)
  | none =>
      match noEnd : declaration.stranger? declaration.ends with
      | some environment => .error (.unknownFulfills declaration.label environment)
      | none =>
          .ok {
            label := declaration.label
            environments := distinct declaration.environments
            defaults := distinct declaration.defaults
            fulfills := declaration.fulfills
            nodup_environments := nodup_distinct _
            nodup_defaults := nodup_distinct _
            mem_of_default := by
              simpa using mem_of_stranger?_eq_none noDefault
            mem_of_fulfills := by
              intro pair member
              have inside := mem_of_stranger?_eq_none noEnd
              simp only [ends, List.mem_flatMap] at inside
              simp only [mem_distinct]
              exact ⟨inside pair.1 ⟨pair, member, by simp⟩, inside pair.2 ⟨pair, member, by simp⟩⟩ }

end GroupDeclaration

namespace EnvironmentGroup

def contains (group : EnvironmentGroup) (environment : Label) : Bool :=
  environment ∈ group.environments

def isDefault (group : EnvironmentGroup) (environment : Label) : Bool :=
  environment ∈ group.defaults

def directFulfillers (group : EnvironmentGroup) (environment : Label) : List Label :=
  (group.fulfills.filter fun pair => pair.2 = environment).map Prod.fst

def previous (group : EnvironmentGroup) (origin : Label) (environments : List Label) :
    List Label :=
  (environments.flatMap group.directFulfillers).filter fun environment => environment ≠ origin

/-- The other environments whose support implies support of this one, nearest first.  A chain of
declarations without repetition is shorter than the number of members, which bounds the levels. -/
def fulfillers (group : EnvironmentGroup) (environment : Label) : List Label :=
  gather (group.previous environment) group.environments.length [] [environment]

theorem fulfillers_nodup (group : EnvironmentGroup) (environment : Label) :
    (group.fulfillers environment).Nodup :=
  gather_nodup _ _ _ _ (by simp)

end EnvironmentGroup

end CrossBuild
