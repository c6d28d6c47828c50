import CrossBuild.Proofs.LastOccurrence
import CrossBuild.Proofs.Table

/-!
The table of toolchains as a record of writes.  Whatever values fill it, in whatever order, the last
value that has something to say about a platform and a type decides what the table says.
-/

namespace CrossBuild

namespace ToolchainAvailability

variable {value : ToolchainAvailability} {platform toolchain : Label}
  {toolchainType : ToolchainType}

def Mentions (value : ToolchainAvailability) (platform : Label) (toolchainType : ToolchainType) :
    Prop :=
  value.toolchainType = toolchainType ∧ platform ∈ value.available.keys

theorem gives_eq_none_iff :
    value.gives platform toolchainType = none ↔ ¬value.Mentions platform toolchainType := by
  unfold gives Mentions
  by_cases own : value.toolchainType = toolchainType
  · simp [own, OrderedMap.get?_eq_none_iff]
  · simp [own]

theorem Mentions.gives_eq (mentions : value.Mentions platform toolchainType) :
    value.gives platform toolchainType = value.available.get? platform :=
  if_pos mentions.1

def LastGives (values : List ToolchainAvailability) (platform : Label)
    (toolchainType : ToolchainType) (toolchain : Label) : Prop :=
  ∃ value, IsLast (fun value => value.Mentions platform toolchainType) values value ∧
    value.available.get? platform = some toolchain

theorem lastGives_concat_of_mentions {values : List ToolchainAvailability}
    (mentions : value.Mentions platform toolchainType) :
    LastGives (values ++ [value]) platform toolchainType toolchain ↔
      value.available.get? platform = some toolchain := by
  have decided (other : ToolchainAvailability) :
      IsLast (fun value => value.Mentions platform toolchainType) (values ++ [value]) other ↔
        other = value := isLast_concat_of_holds mentions
  simp [LastGives, decided]

theorem lastGives_concat_of_silent {values : List ToolchainAvailability}
    (silent : ¬value.Mentions platform toolchainType) :
    LastGives (values ++ [value]) platform toolchainType toolchain ↔
      LastGives values platform toolchainType toolchain := by
  have kept (other : ToolchainAvailability) :
      IsLast (fun value => value.Mentions platform toolchainType) (values ++ [value]) other ↔
        IsLast (fun value => value.Mentions platform toolchainType) values other :=
    isLast_concat_of_not_holds silent
  simp [LastGives, kept]

end ToolchainAvailability

namespace AvailabilityTable

open ToolchainAvailability

theorem get?_ofList_eq_some_iff (values : List ToolchainAvailability) (platform : Label)
    (toolchainType : ToolchainType) (toolchain : Label) :
    (ofList values).get? platform toolchainType = some toolchain ↔
      LastGives values platform toolchainType toolchain := by
  induction values using List.reverseRecOn with
  | nil => simp [ofList, LastGives, IsLast]
  | append_singleton values last ih =>
      rw [ofList_concat, get?_putAll]
      by_cases mentions : last.Mentions platform toolchainType
      · rw [lastGives_concat_of_mentions mentions, mentions.gives_eq]
        have held : (last.available.get? platform).isSome := by
          simpa [OrderedMap.contains] using
            (OrderedMap.contains_iff last.available platform).mpr mentions.2
        obtain ⟨given, found⟩ := Option.isSome_iff_exists.mp held
        simp [found]
      · rw [lastGives_concat_of_silent mentions, gives_eq_none_iff.mpr mentions, Option.none_or,
          ih]

theorem get?_ofList_eq_none_iff (values : List ToolchainAvailability) (platform : Label)
    (toolchainType : ToolchainType) :
    (ofList values).get? platform toolchainType = none ↔
      ∀ value ∈ values, ¬value.Mentions platform toolchainType := by
  rw [get?_ofList, List.findSome?_eq_none_iff]
  simp only [List.mem_reverse, gives_eq_none_iff]

structure SameAnswers (table other : AvailabilityTable) : Prop where
  get? : ∀ platform toolchainType,
    table.get? platform toolchainType = other.get? platform toolchainType
  missing : ∀ platform required, table.missing platform required = other.missing platform required
  isSuitable : ∀ required platform,
    table.isSuitable required platform = other.isSuitable required platform
  row : ∀ platform required, table.row platform required = other.row platform required

theorem sameAnswers_of_get? {table other : AvailabilityTable}
    (same : ∀ platform toolchainType,
      table.get? platform toolchainType = other.get? platform toolchainType) :
    table.SameAnswers other where
  get? := same
  missing platform required := by simp only [missing, same]
  isSuitable required platform := by simp only [isSuitable, missing, same]
  row platform required := by simp only [row, same]

theorem SameAnswers.putAll {table other : AvailabilityTable} (same : table.SameAnswers other)
    (value : ToolchainAvailability) : (table.putAll value).SameAnswers (other.putAll value) := by
  apply sameAnswers_of_get?
  intro platform toolchainType
  rw [get?_putAll, get?_putAll, same.get?]

theorem SameAnswers.foldl {table other : AvailabilityTable} (same : table.SameAnswers other)
    (values : List ToolchainAvailability) :
    (values.foldl AvailabilityTable.putAll table).SameAnswers
      (values.foldl AvailabilityTable.putAll other) := by
  induction values generalizing table other with
  | nil => exact same
  | cons value rest ih => exact ih (same.putAll value)

theorem sameAnswers_swap (table : AvailabilityTable) {first second : ToolchainAvailability}
    (apart : first.toolchainType ≠ second.toolchainType) :
    ((table.putAll first).putAll second).SameAnswers ((table.putAll second).putAll first) := by
  apply sameAnswers_of_get?
  intro platform toolchainType
  simp only [get?_putAll]
  -- A type is only ever written by its own values.
  by_cases own : first.toolchainType = toolchainType
  · have silent : second.gives platform toolchainType = none :=
      if_neg fun same => apart (own.trans same.symm)
    simp [silent]
  · have silent : first.gives platform toolchainType = none := if_neg own
    simp [silent]

/-- The table records the last writes of some values, and every query is answered from them. -/
structure Records (table : AvailabilityTable) (values : List ToolchainAvailability) : Prop where
  written : ∀ platform toolchainType toolchain,
    table.get? platform toolchainType = some toolchain ↔
      LastGives values platform toolchainType toolchain
  unwritten : ∀ platform toolchainType,
    table.get? platform toolchainType = none ↔
      ∀ value ∈ values, ¬value.Mentions platform toolchainType
  missing : ∀ platform required, table.missing platform required =
    required.filter fun toolchainType => table.get? platform toolchainType = none
  suitable : ∀ required platform, table.isSuitable required platform = true ↔
    ∀ toolchainType ∈ required, ((table.row platform required).get? toolchainType).isSome = true
  rowKeys : ∀ platform required, (table.row platform required).keys =
    distinct (required.filter fun toolchainType => (table.get? platform toolchainType).isSome)
  rowEntries : ∀ platform required, ∀ toolchainType ∈ required,
    (table.row platform required).get? toolchainType = table.get? platform toolchainType

theorem records_ofList (values : List ToolchainAvailability) : (ofList values).Records values where
  written := get?_ofList_eq_some_iff values
  unwritten := get?_ofList_eq_none_iff values
  missing platform required := by
    apply List.filter_congr
    intro toolchainType _
    rw [Bool.eq_iff_iff, Option.isNone_iff_eq_none, decide_eq_true_iff]
  suitable required platform := by
    rw [isSuitable_iff]
    apply forall₂_congr
    intro toolchainType member
    rw [get?_row, if_pos member]
  rowKeys := keys_row (ofList values)
  rowEntries platform required toolchainType member := by rw [get?_row, if_pos member]

/-- However often types and platforms come again, the table is the relation of the last writes.
Neighbouring values of different types may trade places. -/
theorem ofList_lastWrites (values : List ToolchainAvailability) :
    (ofList values).Records values ∧
      ∀ before first second after, values = before ++ first :: second :: after →
        first.toolchainType ≠ second.toolchainType →
          (ofList values).SameAnswers (ofList (before ++ second :: first :: after)) := by
  refine ⟨records_ofList values, ?_⟩
  rintro before first second after rfl apart
  have swapped := (sameAnswers_swap (ofList before) apart).foldl after
  simpa [ofList, List.foldl_append] using swapped

def renewedToolchains : List ToolchainAvailability :=
  [{ toolchainType := ⟨⟨"", "toolchains", "cc"⟩⟩
     available := .ofList [(⟨"", "platforms", "host"⟩, ⟨"", "toolchains", "gcc"⟩),
      (⟨"", "platforms", "remote"⟩, ⟨"", "toolchains", "gcc_remote"⟩)] },
   { toolchainType := ⟨⟨"", "toolchains", "java"⟩⟩
     available := .ofList [(⟨"", "platforms", "remote"⟩, ⟨"", "toolchains", "jdk"⟩)] },
   { toolchainType := ⟨⟨"", "toolchains", "cc"⟩⟩
     available := .ofList [(⟨"", "platforms", "host"⟩, ⟨"", "toolchains", "clang"⟩)] }]

theorem ofList_lastWrites_renewed :
    (ofList renewedToolchains).Records renewedToolchains ∧
      LastGives renewedToolchains ⟨"", "platforms", "host"⟩ ⟨⟨"", "toolchains", "cc"⟩⟩
        ⟨"", "toolchains", "clang"⟩ ∧
      LastGives renewedToolchains ⟨"", "platforms", "remote"⟩ ⟨⟨"", "toolchains", "cc"⟩⟩
        ⟨"", "toolchains", "gcc_remote"⟩ ∧
      (ofList renewedToolchains).isSuitable
        [⟨⟨"", "toolchains", "java"⟩⟩, ⟨⟨"", "toolchains", "cc"⟩⟩] ⟨"", "platforms", "remote"⟩ =
          true ∧
      (ofList renewedToolchains).SameAnswers (ofList (renewedToolchains.take 1 ++
        (renewedToolchains.drop 1).reverse)) := by
  obtain ⟨records, swaps⟩ := ofList_lastWrites renewedToolchains
  have host := (records.written ⟨"", "platforms", "host"⟩ ⟨⟨"", "toolchains", "cc"⟩⟩ _).mp rfl
  have remote := (records.written ⟨"", "platforms", "remote"⟩ ⟨⟨"", "toolchains", "cc"⟩⟩ _).mp rfl
  exact ⟨records, host, remote, by decide, swaps (renewedToolchains.take 1) _ _ [] rfl (by decide)⟩

end AvailabilityTable

end CrossBuild
