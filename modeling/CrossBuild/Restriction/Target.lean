import CrossBuild.Environment.Collection

/-!
Top-level targets and the parts of their configuration that the top-level checks read.  A target
supports the environments that it declares, as far as the choices in its dependencies leave them.
-/

namespace CrossBuild

structure EnvironmentRemoval where
  culprit : Label
  selectedDependency : Label
deriving DecidableEq, Inhabited

structure EnvironmentSupport where
  declared : EnvironmentCollection := OrderedMap.empty
  refined : EnvironmentCollection := OrderedMap.empty
  removals : OrderedMap Label EnvironmentRemoval := OrderedMap.empty

namespace EnvironmentSupport

/-- Support for an environment may have gone because of itself or because of one that fulfills it
in a group that the target declares.  The first of these that has a recorded removal explains it. -/
def removalOf? (support : EnvironmentSupport) (environment : Label) : Option EnvironmentRemoval :=
  (environment :: support.declared.groups.flatMap fun group =>
    group.fulfillers environment).findSome? support.removals.get?

end EnvironmentSupport

structure Rule where
  kind : String
  checksConstraints : Bool
deriving DecidableEq, Inhabited

/-- An analyzed target that a build asks for, by name or through a pattern.  Source files have no
rule, and some targets are built without a configuration. -/
structure TopLevelTarget where
  label : Label
  configuration : Option ConfigurationKey := none
  rule : Option Rule := none
  support : Option EnvironmentSupport := none

/-- Every participating target must support `targetEnvironments`.  It should also support the
members of `autoCpuGroup` that are called like the processor. -/
structure BuildConfiguration where
  cpu : String
  enforceConstraints : Bool := true
  targetEnvironments : List Label := []
  autoCpuGroup : Option Label := none
deriving DecidableEq

end CrossBuild
