import CrossBuild.DebugFilter
import CrossBuild.OrderedMap
import CrossBuild.Text.Basic

/-!
Kinds of toolchains, what a resolution is asked for, and what it asks for in turn.
-/

namespace CrossBuild

structure ToolchainType where
  label : Label
deriving DecidableEq, Inhabited

namespace ToolchainType

instance : ToString ToolchainType := ⟨fun toolchainType => toString toolchainType.label⟩

def sorted (types : List ToolchainType) : List ToolchainType :=
  types.mergeSort fun first second => first.label.notAfter second.label

end ToolchainType

/-- A request for a toolchain of some type.  Resolution treats every requirement as mandatory and
only carries the flag along. -/
structure ToolchainRequirement where
  toolchainType : Label
  mandatory : Bool := true
deriving DecidableEq, Inhabited

def ToolchainRequirement.retarget (requirement : ToolchainRequirement) (label : Label) :
    ToolchainRequirement :=
  { requirement with toolchainType := label }

structure PlatformConfiguration where
  host : Label
  target : Label
  debugFilter : DebugFilter

namespace ToolchainRequirement

def add (requirements : List ToolchainRequirement) (requirement : ToolchainRequirement) :
    List ToolchainRequirement :=
  if requirements.any fun earlier => earlier.toolchainType = requirement.toolchainType then
    requirements
  else requirements ++ [requirement]

def addAll (requirements added : List ToolchainRequirement) : List ToolchainRequirement :=
  added.foldl add requirements

end ToolchainRequirement

structure ResolutionKey where
  configuration : ConfigurationKey
  requirements : List ToolchainRequirement := []
  executionConstraints : List Label := []
  forcedPlatform : Option Label := none
  debug : Bool := false
deriving DecidableEq

namespace ResolutionKey

def addRequirements (key : ResolutionKey) (added : List ToolchainRequirement) : ResolutionKey :=
  { key with requirements := ToolchainRequirement.addAll key.requirements added }

def addExecutionConstraints (key : ResolutionKey) (labels : List Label) : ResolutionKey :=
  { key with
    executionConstraints := labels.foldl
      (fun present label => if label ∈ present then present else present ++ [label])
      key.executionConstraints }

def forcePlatform (key : ResolutionKey) (platform : Label) : ResolutionKey :=
  { key with forcedPlatform := some platform }

def setDebug (key : ResolutionKey) (debug : Bool) : ResolutionKey := { key with debug := debug }

def requestedTypes (key : ResolutionKey) : List Label :=
  key.requirements.map ToolchainRequirement.toolchainType

instance : ToString ResolutionKey where
  toString key :=
    "ToolchainContextKey(" ++ toString key.configuration ++ ", toolchain_types=" ++
      Text.bracketList key.requestedTypes ++
      (if key.executionConstraints.isEmpty then ""
        else ", exec_constraints=" ++ Text.bracketList key.executionConstraints) ++
      (key.forcedPlatform.elim "" fun platform =>
        ", force_execution_platform=" ++ toString platform) ++ ")"

end ResolutionKey

structure ToolchainQuery where
  configuration : ConfigurationKey
  requirement : ToolchainRequirement
  targetPlatform : Label
  candidates : List Label
  debug : Bool
deriving DecidableEq

structure ToolchainAvailability where
  toolchainType : ToolchainType
  available : OrderedMap Label Label

end CrossBuild
