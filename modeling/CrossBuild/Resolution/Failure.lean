import CrossBuild.Label.Basic
import CrossBuild.Text.Basic

/-!
The two ways in which toolchain resolution itself can fail.
-/

namespace CrossBuild

inductive ResolutionFailure where
  | unresolvedToolchains (missing : List Label)
  | noMatchingPlatform (toolchainTypes executionPlatforms : List Label) (targetPlatform : Label)
deriving DecidableEq

namespace ResolutionFailure

def cppToolchainType : String := "@bazel_tools//tools/cpp:toolchain_type"

def cppToolchainHint : String :=
  "No matching toolchains found for types " ++ cppToolchainType ++
    ". Maybe --incompatible_use_cc_configure_from_rules_cc has been flipped and there " ++
    "is no default C++ toolchain added in the WORKSPACE file? See " ++
    "https://github.com/bazelbuild/bazel/issues/10134 for details and migration instructions."

def unresolvedMessage (missing : List Label) : String :=
  if missing.map toString = [cppToolchainType] then cppToolchainHint
  else "no matching toolchains found for types " ++ Text.commaList missing

def noMatchingPlatformMessage (toolchainTypes executionPlatforms : List Label)
    (targetPlatform : Label) : String :=
  "Unable to find an execution platform for " ++
    (if toolchainTypes.isEmpty then ""
      else "toolchains " ++ Text.bracketList toolchainTypes ++ " and ") ++
    "target platform " ++ toString targetPlatform ++ " from available execution platforms " ++
    Text.bracketList executionPlatforms

def message : ResolutionFailure → String
  | unresolvedToolchains missing => unresolvedMessage missing
  | noMatchingPlatform toolchainTypes executionPlatforms targetPlatform =>
      noMatchingPlatformMessage toolchainTypes executionPlatforms targetPlatform

end ResolutionFailure

end CrossBuild
