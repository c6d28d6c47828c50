import CrossBuild.Proofs.FirstOccurrence

/-!
The table of toolchains, described by the values that it was filled with.
-/

namespace CrossBuild

def ToolchainAvailability.gives (value : ToolchainAvailability) (platform : Label)
    (toolchainType : ToolchainType) : Option Label :=
  if value.toolchainType = toolchainType then value.available.get? platform else none

namespace AvailabilityTable

theorem get?_fill (held toolchainType : ToolchainType) (platform : Label)
    (entries : List (Label × Label)) (nodup : (entries.map Prod.fst).Nodup)
    (table : AvailabilityTable) :
    (entries.foldl (fun filled entry => filled.put entry.1 held entry.2) table).get? platform
        toolchainType =
      (if held = toolchainType then entries.lookup platform else none).or
        (table.get? platform toolchainType) := by
  induction entries generalizing table with
  | nil => simp
  | cons entry rest ih =>
      rcases entry with ⟨first, toolchain⟩
      rw [List.map_cons, List.nodup_cons] at nodup
      rw [List.foldl_cons, ih nodup.2, get?_put]
      by_cases sameType : held = toolchainType
      · subst sameType
        by_cases samePlatform : platform = first
        · subst samePlatform
          -- The key does not come again, so this entry is the last write.
          have absent : rest.lookup platform = none := by
            rw [List.lookup_eq_none_iff]
            intro other member
            have apart : platform ≠ other.1 := fun same =>
              nodup.1 (List.mem_map.mpr ⟨other, member, same.symm⟩)
            exact bne_iff_ne.mpr apart
          simp [absent]
        · simp [samePlatform, List.lookup_cons, beq_eq_false_iff_ne.mpr samePlatform]
      · have other : ¬toolchainType = held := fun same => sameType same.symm
        simp [sameType, other]

theorem get?_putAll (table : AvailabilityTable) (value : ToolchainAvailability) (platform : Label)
    (toolchainType : ToolchainType) :
    (table.putAll value).get? platform toolchainType =
      (value.gives platform toolchainType).or (table.get? platform toolchainType) :=
  get?_fill value.toolchainType toolchainType platform value.available.entries
    value.available.nodup_keys table

theorem ofList_concat (values : List ToolchainAvailability) (last : ToolchainAvailability) :
    ofList (values ++ [last]) = (ofList values).putAll last := by
  simp only [ofList, List.foldl_append, List.foldl_cons, List.foldl_nil]

theorem get?_ofList (values : List ToolchainAvailability) (platform : Label)
    (toolchainType : ToolchainType) :
    (ofList values).get? platform toolchainType =
      values.reverse.findSome? fun value => value.gives platform toolchainType := by
  induction values using List.reverseRecOn with
  | nil => rfl
  | append_singleton values last ih =>
      rw [ofList_concat, get?_putAll, ih, List.reverse_append, List.reverse_singleton,
        List.singleton_append, List.findSome?_cons]
      cases last.gives platform toolchainType <;> rfl

theorem get?_ofList_of_mem {values : List ToolchainAvailability} {value : ToolchainAvailability}
    (nodup : (values.map ToolchainAvailability.toolchainType).Nodup) (member : value ∈ values)
    (platform : Label) :
    (ofList values).get? platform value.toolchainType = value.available.get? platform := by
  rw [get?_ofList]
  obtain ⟨before, after, rfl⟩ := List.append_of_mem member
  rw [List.map_append, List.map_cons, List.nodup_append, List.nodup_cons] at nodup
  obtain ⟨_, ⟨notAfter, _⟩, apart⟩ := nodup
  have silentAfter : after.reverse.findSome? (fun other =>
      other.gives platform value.toolchainType) = none := by
    rw [List.findSome?_eq_none_iff]
    intro other otherMember
    rw [List.mem_reverse] at otherMember
    exact if_neg fun same => notAfter (List.mem_map.mpr ⟨other, otherMember, same⟩)
  have silentBefore : before.reverse.findSome? (fun other =>
      other.gives platform value.toolchainType) = none := by
    rw [List.findSome?_eq_none_iff]
    intro other otherMember
    rw [List.mem_reverse] at otherMember
    exact if_neg (apart _ (List.mem_map_of_mem otherMember) _ List.mem_cons_self)
  have own : value.gives platform value.toolchainType = value.available.get? platform :=
    if_pos rfl
  simp only [List.reverse_append, List.reverse_cons, List.append_assoc, List.findSome?_append,
    silentAfter, List.singleton_append, List.findSome?_cons, silentBefore, own, Option.none_or]
  cases value.available.get? platform <;> rfl

variable (table : AvailabilityTable) (platform : Label) (required : List ToolchainType)

theorem keys_row :
    (table.row platform required).keys =
      distinct (required.filter fun toolchainType =>
        (table.get? platform toolchainType).isSome) := by
  rw [row, OrderedMap.keys_ofList]
  congr 1
  induction required with
  | nil => rfl
  | cons toolchainType rest ih =>
      cases found : table.get? platform toolchainType with
      | none => simp [found, ih]
      | some toolchain => simp [found, ih]

theorem get?_row (toolchainType : ToolchainType) :
    (table.row platform required).get? toolchainType =
      if toolchainType ∈ required then table.get? platform toolchainType else none :=
  OrderedMap.get?_ofList_filterMap (table.get? platform) required toolchainType

variable {table platform required}

theorem keys_row_of_isSuitable (suitable : table.isSuitable required platform = true) :
    (table.row platform required).keys = distinct required := by
  rw [keys_row, List.filter_eq_self.mpr ((isSuitable_iff table required platform).mp suitable)]

end AvailabilityTable

end CrossBuild
