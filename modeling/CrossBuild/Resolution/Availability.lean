import CrossBuild.Resolution.Key

/-!
Which toolchain of which type runs on which execution platform.
-/

namespace CrossBuild

/-- A row for each platform, with the toolchains that run there.  The table is filled one toolchain
type after another; what is written last stays. -/
structure AvailabilityTable where
  rows : OrderedMap Label (OrderedMap ToolchainType Label)

namespace AvailabilityTable

def empty : AvailabilityTable := ⟨OrderedMap.empty⟩

def put (table : AvailabilityTable) (platform : Label) (toolchainType : ToolchainType)
    (toolchain : Label) : AvailabilityTable :=
  match table.rows.get? platform with
  | some row => ⟨table.rows.insert platform (row.insert toolchainType toolchain)⟩
  | none => ⟨table.rows.insert platform (OrderedMap.empty.insert toolchainType toolchain)⟩

def putAll (table : AvailabilityTable) (value : ToolchainAvailability) : AvailabilityTable :=
  value.available.entries.foldl
    (fun filled entry => filled.put entry.1 value.toolchainType entry.2) table

def ofList (values : List ToolchainAvailability) : AvailabilityTable := values.foldl putAll empty

def get? (table : AvailabilityTable) (platform : Label) (toolchainType : ToolchainType) :
    Option Label :=
  (table.rows.get? platform).bind fun row => row.get? toolchainType

def missing (table : AvailabilityTable) (platform : Label) (required : List ToolchainType) :
    List ToolchainType :=
  required.filter fun toolchainType => (table.get? platform toolchainType).isNone

def isSuitable (table : AvailabilityTable) (required : List ToolchainType) (platform : Label) :
    Bool :=
  (table.missing platform required).isEmpty

def row (table : AvailabilityTable) (platform : Label) (required : List ToolchainType) :
    OrderedMap ToolchainType Label :=
  OrderedMap.ofList (required.filterMap fun toolchainType =>
    (table.get? platform toolchainType).map fun toolchain => (toolchainType, toolchain))

@[simp] theorem get?_empty (platform : Label) (toolchainType : ToolchainType) :
    empty.get? platform toolchainType = none := rfl

/-- A write is seen in one place only, whether or not the platform had a row before. -/
theorem get?_put (table : AvailabilityTable) (platform other : Label)
    (held toolchainType : ToolchainType) (toolchain : Label) :
    (table.put platform held toolchain).get? other toolchainType =
      if other = platform ∧ toolchainType = held then some toolchain
      else table.get? other toolchainType := by
  unfold put get?
  cases found : table.rows.get? platform with
  | none =>
      by_cases here : other = platform
      · subst here
        simp [OrderedMap.get?_insert, found]
      · simp [OrderedMap.get?_insert, here]
  | some row =>
      by_cases here : other = platform
      · subst here
        simp [OrderedMap.get?_insert, found]
      · simp [OrderedMap.get?_insert, here]

theorem isSuitable_iff (table : AvailabilityTable) (required : List ToolchainType)
    (platform : Label) :
    table.isSuitable required platform = true ↔
      ∀ toolchainType ∈ required, (table.get? platform toolchainType).isSome = true := by
  simp [isSuitable, missing, List.filter_eq_nil_iff, Option.isSome_iff_ne_none]

end AvailabilityTable

end CrossBuild
