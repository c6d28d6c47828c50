import CrossBuild.Label.Basic
import CrossBuild.Text.Basic

/-!
Filters that select the toolchain types whose resolution is explained.  A filter is a list of
patterns between commas.  A hyphen in front makes a pattern an exclusion.  What a single pattern
means is left to an engine.
-/

namespace CrossBuild

structure CompiledPattern where
  names : List String
  isMatch : String → Bool

/-- An engine reads a text by the rules of patterns, and then refuses what is over its limits.  It
gives a reason for what it does not accept. -/
structure PatternEngine where
  read : String → Except String CompiledPattern
  overrun? : String → Option String

def PatternEngine.compile (engine : PatternEngine) (text : String) :
    Except String CompiledPattern := do
  let pattern ← engine.read text
  match engine.overrun? text with
  | some reason => .error reason
  | none => .ok pattern

structure DebugFilterError where
  filter : String
  reason : String
deriving DecidableEq

namespace DebugFilterError

def heading (error : DebugFilterError) : String :=
  "invalid toolchain resolution debug filter `" ++ error.filter ++ "`: "

def message (error : DebugFilterError) : String := error.heading ++ error.reason

end DebugFilterError

/-- One pattern for all inclusions and one for all exclusions, where there are any.  A filter
without either selects nothing. -/
structure DebugFilter where
  inclusion : Option CompiledPattern := none
  exclusion : Option CompiledPattern := none

namespace DebugFilter

def disabled : DebugFilter := {}

def parts (filter : String) : List (List Char) :=
  ((filter.toList.splitOn ',').map Text.trimBlank).filter fun part => !part.isEmpty

def inclusions (filter : String) : List (List Char) :=
  (parts filter).filter fun part => part.head? ≠ some '-'

def exclusions (filter : String) : List (List Char) :=
  ((parts filter).filter fun part => part.head? = some '-').map List.tail

def grouped (pattern : List Char) : String := "(?:" ++ String.ofList pattern ++ ")"

def joined (patterns : List (List Char)) : String := "|".intercalate (patterns.map grouped)

def compile (engine : PatternEngine) (filter : String) (patterns : List (List Char)) :
    Except DebugFilterError (Option CompiledPattern) :=
  if patterns.isEmpty then .ok none
  else
    match engine.compile (joined patterns) with
    | .ok pattern => .ok (some pattern)
    | .error reason => .error { filter := filter, reason := reason }

def parse (engine : PatternEngine) (filter : String) : Except DebugFilterError DebugFilter := do
  return { inclusion := ← compile engine filter (inclusions filter)
           exclusion := ← compile engine filter (exclusions filter) }

def isEnabled (filter : DebugFilter) : Bool :=
  filter.inclusion.isSome || filter.exclusion.isSome

/-- A filter without inclusions includes everything that it does not exclude. -/
def includes (filter : DebugFilter) (text : String) : Bool :=
  filter.isEnabled && filter.inclusion.all (fun pattern => pattern.isMatch text) &&
    !filter.exclusion.any (fun pattern => pattern.isMatch text)

/-- Whether one of the labels is included.  Without labels the empty text is tried. -/
def matchesAny (filter : DebugFilter) (labels : List Label) : Bool :=
  if labels.isEmpty then filter.includes ""
  else labels.any fun label => filter.includes (toString label)

end DebugFilter

end CrossBuild
