import CrossBuild.Proofs.FirstOccurrence
import CrossBuild.Proofs.Screening

/-!
Collections of constraint values, told by the lists that they are made from.  A list makes a
collection if no setting has two values in it, and the collection is then the set of its values.
-/

namespace CrossBuild

/-- No setting has two values. -/
def Consistent (values : List ConstraintValue) : Prop :=
  ∀ value ∈ values, ∀ other ∈ values, value.setting = other.setting → value = other

instance (values : List ConstraintValue) : Decidable (Consistent values) :=
  inferInstanceAs (Decidable (∀ value ∈ values, ∀ other ∈ values, _ → value = other))

/-- The second value is the first one of the list that does not go with those before it, and the
first value is the earliest one of its setting. -/
def ConstraintConflict.FirstOf (conflict : ConstraintConflict) (values : List ConstraintValue) :
    Prop :=
  ∃ before between after,
    values = before ++ conflict.first :: between ++ conflict.second :: after ∧
      Consistent (before ++ conflict.first :: between) ∧
      (∀ value ∈ before, value.setting ≠ conflict.setting) ∧
      conflict.first.setting = conflict.setting ∧ conflict.second.setting = conflict.setting ∧
      conflict.first ≠ conflict.second

theorem Consistent.of_subset {values others : List ConstraintValue} (consistent : Consistent values)
    (subset : others ⊆ values) : Consistent others := by
  intro value member other otherMember same
  exact consistent value (subset member) other (subset otherMember) same

theorem ConstraintConflict.FirstOf.not_consistent {conflict : ConstraintConflict}
    {values : List ConstraintValue} (first : conflict.FirstOf values) : ¬ Consistent values := by
  obtain ⟨before, between, after, rfl, _, _, firstSetting, secondSetting, differ⟩ := first
  intro consistent
  exact differ (consistent _ (by simp) _ (by simp) (firstSetting.trans secondSetting.symm))

namespace ConstraintCollection

variable {collection : ConstraintCollection} {values others : List ConstraintValue}
  {value held : ConstraintValue} {setting : ConstraintSetting}

theorem get?_eq_some_iff :
    collection.get? setting = some value ↔ value ∈ collection.values ∧ value.setting = setting := by
  constructor
  · intro found
    have same := List.find?_some found
    exact ⟨List.mem_of_find?_eq_some found, of_decide_eq_true same⟩
  · rintro ⟨member, rfl⟩
    exact of_decide_eq_true ((has_iff_mem collection value).mpr member)

theorem exists_add (fresh : collection.get? value.setting = none) :
    ∃ added, collection.add value = .ok added ∧ added.values = collection.values ++ [value] := by
  unfold add
  split
  next => exact ⟨_, rfl, rfl⟩
  next found => cases fresh.symm.trans found

theorem add_of_held (found : collection.get? value.setting = some held) :
    collection.add value =
      if held = value then .ok collection
      else .error { setting := value.setting, first := held, second := value } := by
  unfold add
  split
  next fresh => cases found.symm.trans fresh
  next other otherFound =>
    cases found.symm.trans otherFound
    rfl

theorem ofList_append (front rest : List ConstraintValue) :
    ofList (front ++ rest) = ofList front >>= fun collection => rest.foldlM add collection := by
  rw [ofList, List.foldlM_append]
  rfl

/-- What a list of values comes to. -/
inductive Gathers (values : List ConstraintValue) :
    Except ConstraintConflict ConstraintCollection → Prop
  | kept {collection : ConstraintCollection} (consistent : Consistent values)
      (listed : collection.values = distinct values) : Gathers values (.ok collection)
  | clashing {conflict : ConstraintConflict} (first : conflict.FirstOf values) :
      Gathers values (.error conflict)

namespace Gathers

theorem add_fresh {last : ConstraintValue} (consistent : Consistent values)
    (listed : collection.values = distinct values)
    (fresh : collection.get? last.setting = none) :
    Gathers (values ++ [last]) (collection.add last) := by
  have apart : ∀ value ∈ values, value.setting ≠ last.setting := by
    intro value member same
    have found : collection.get? last.setting = some value :=
      get?_eq_some_iff.mpr ⟨by rwa [listed, mem_distinct], same⟩
    cases fresh.symm.trans found
  obtain ⟨added, made, addedValues⟩ := exists_add fresh
  rw [made]
  refine .kept ?_ ?_
  · intro value member other otherMember same
    rw [List.mem_append, List.mem_singleton] at member otherMember
    obtain member | rfl := member
    · obtain otherMember | rfl := otherMember
      · exact consistent value member other otherMember same
      · exact absurd same (apart value member)
    · obtain otherMember | rfl := otherMember
      · exact absurd same.symm (apart other otherMember)
      · rfl
  · have new : last ∉ values := fun member => apart last member rfl
    rw [addedValues, listed, distinct_concat, if_neg new]

theorem add_held {last : ConstraintValue} (consistent : Consistent values)
    (listed : collection.values = distinct values)
    (found : collection.get? last.setting = some held) :
    Gathers (values ++ [last]) (collection.add last) := by
  obtain ⟨member, same⟩ := get?_eq_some_iff.mp found
  rw [listed, mem_distinct] at member
  rw [add_of_held found]
  by_cases again : held = last
  · subst again
    rw [if_pos rfl]
    refine .kept (consistent.of_subset (by simp [member])) ?_
    rw [listed, distinct_concat, if_pos member]
  · rw [if_neg again]
    -- In a consistent list the first occurrence of a value is the first value of its setting.
    obtain ⟨before, between, rfl, first⟩ := List.eq_append_cons_of_mem member
    refine .clashing ⟨before, between, [], rfl, consistent, ?_, same, rfl, again⟩
    intro value earlier sameSetting
    have equal := consistent value (by simp [earlier]) held member (sameSetting.trans same.symm)
    exact first (equal ▸ earlier)

theorem concat {result : Except ConstraintConflict ConstraintCollection}
    (gathers : Gathers values result) (last : ConstraintValue) :
    Gathers (values ++ [last]) (result >>= fun collection => collection.add last) := by
  cases gathers with
  | @kept collection consistent listed =>
      change Gathers _ (collection.add last)
      cases found : collection.get? last.setting with
      | none => exact add_fresh consistent listed found
      | some held => exact add_held consistent listed found
  | clashing first =>
      obtain ⟨before, between, after, rfl, clash⟩ := first
      exact .clashing ⟨before, between, after ++ [last], by simp, clash⟩

end Gathers

theorem gathers_ofList (values : List ConstraintValue) : Gathers values (ofList values) := by
  induction values using List.reverseRecOn with
  | nil => exact .kept (by simp [Consistent]) rfl
  | append_singleton values last ih =>
      have step := ih.concat last
      rw [ofList_append]
      simpa using step

theorem exists_ofList_iff : (∃ collection, ofList values = .ok collection) ↔ Consistent values := by
  have gathers := gathers_ofList values
  generalize ofList values = result at gathers
  cases gathers with
  | kept consistent => exact iff_of_true ⟨_, rfl⟩ consistent
  | clashing first => exact iff_of_false nofun first.not_consistent

theorem values_of_ofList (made : ofList values = .ok collection) :
    collection.values = distinct values := by
  have gathers := gathers_ofList values
  rw [made] at gathers
  cases gathers with
  | kept _ listed => exact listed

theorem ofList_eq_error_iff {conflict : ConstraintConflict} :
    ofList values = .error conflict ↔ conflict.FirstOf values := by
  constructor
  · intro failed
    have gathers := gathers_ofList values
    rw [failed] at gathers
    cases gathers with
    | clashing first => exact first
  · rintro ⟨before, between, after, rfl, consistent, _, firstSetting, secondSetting, differ⟩
    obtain ⟨collection, made⟩ := exists_ofList_iff.mpr consistent
    have held : collection.get? conflict.second.setting = some conflict.first := by
      rw [get?_eq_some_iff, values_of_ofList made, mem_distinct]
      exact ⟨by simp, firstSetting.trans secondSetting.symm⟩
    rw [ofList_append, made]
    change (collection.add conflict.second >>= fun collection => after.foldlM add collection) = _
    rw [add_of_held held, if_neg differ, secondSetting]
    rfl

/-- The collection answers like the set of the values of a list. -/
structure Holds (collection : ConstraintCollection) (values : List ConstraintValue) : Prop where
  has_iff : ∀ value, collection.has value = true ↔ value ∈ values
  get?_iff : ∀ setting value,
    collection.get? setting = some value ↔ value ∈ values ∧ value.setting = setting
  listed : collection.values = distinct values
  missing : ∀ required, collection.missing required = required.filter fun value => value ∉ values

theorem holds_of_ofList (made : ofList values = .ok collection) : collection.Holds values := by
  have listed := values_of_ofList made
  have members : ∀ value, value ∈ collection.values ↔ value ∈ values := by
    intro value
    rw [listed, mem_distinct]
  constructor
  · intro value
    rw [has_iff_mem, members]
  · intro setting value
    rw [get?_eq_some_iff, members]
  · exact listed
  · intro required
    rw [missing_eq]
    apply List.filter_congr
    intro value _
    rw [decide_eq_decide, members]

structure Interchangeable (first second : ConstraintCollection) : Prop where
  has : ∀ value, first.has value = second.has value
  get? : ∀ setting, first.get? setting = second.get? setting
  missing : ∀ required, first.missing required = second.missing required
  values : first.values.Perm second.values
  same : first.sameValues second = true

theorem interchangeable {other : ConstraintCollection} (holds : collection.Holds values)
    (otherHolds : other.Holds others) (same : ∀ value, value ∈ values ↔ value ∈ others) :
    collection.Interchangeable other := by
  have perm : collection.values.Perm other.values := by
    rw [holds.listed, otherHolds.listed, List.perm_ext_iff_of_nodup (nodup_distinct _)
      (nodup_distinct _)]
    simpa using same
  constructor
  · intro value
    rw [Bool.eq_iff_iff, holds.has_iff, otherHolds.has_iff, same]
  · intro setting
    apply Option.ext
    intro value
    rw [holds.get?_iff, otherHolds.get?_iff, same]
  · intro required
    simp only [holds.missing, otherHolds.missing, same]
  · exact perm
  · have present : ∀ value ∈ collection.values, other.has value = true := by
      intro value member
      rwa [has_iff_mem, ← perm.mem_iff]
    simpa [sameValues, size, perm.length_eq] using present

/-- A list makes a collection exactly if no setting has two values in it, and the collection is the
set of these values, whatever their order and number.  Otherwise the conflict is about the first
value that does not go with an earlier one. -/
theorem ofList_consistent (values : List ConstraintValue) :
    ((∃ collection, ofList values = .ok collection) ↔ Consistent values) ∧
    (∀ collection, ofList values = .ok collection → collection.Holds values) ∧
    (∀ conflict, ofList values = .error conflict ↔ conflict.FirstOf values) ∧
    ∀ others, (∀ value, value ∈ values ↔ value ∈ others) →
      ((∃ collection, ofList values = .ok collection) ↔
        ∃ collection, ofList others = .ok collection) ∧
      ∀ collection other, ofList values = .ok collection → ofList others = .ok other →
        collection.Interchangeable other := by
  refine ⟨exists_ofList_iff, fun _ => holds_of_ofList, fun _ => ofList_eq_error_iff, ?_⟩
  intro others same
  constructor
  · rw [exists_ofList_iff, exists_ofList_iff]
    constructor
    · exact fun consistent => consistent.of_subset fun value => (same value).mpr
    · exact fun consistent => consistent.of_subset fun value => (same value).mp
  · intro collection other made otherMade
    exact interchangeable (holds_of_ofList made) (holds_of_ofList otherMade) same

def linux : ConstraintValue := ⟨⟨"", "os", "linux"⟩, ⟨⟨"", "os", "os"⟩⟩⟩

def macos : ConstraintValue := ⟨⟨"", "os", "macos"⟩, ⟨⟨"", "os", "os"⟩⟩⟩

def linuxValues : List ConstraintValue :=
  [linux, ⟨⟨"", "cpu", "x86_64"⟩, ⟨⟨"", "cpu", "cpu"⟩⟩⟩, linux,
    { linux with setting := ⟨⟨"", "os", "kernel"⟩⟩ }]

theorem ofList_consistent_linux :
    (∃ collection other, ofList linuxValues = .ok collection ∧
      ofList linuxValues.reverse = .ok other ∧ collection.Holds linuxValues ∧
      collection.Interchangeable other) ∧
    ofList (linuxValues ++ [macos, linux]) =
      .error { setting := ⟨⟨"", "os", "os"⟩⟩, first := linux, second := macos } := by
  obtain ⟨makes, holds, _, invariant⟩ := ofList_consistent linuxValues
  obtain ⟨_, _, conflicts, _⟩ := ofList_consistent (linuxValues ++ [macos, linux])
  obtain ⟨alike, interchanges⟩ := invariant linuxValues.reverse (by simp)
  obtain ⟨collection, made⟩ := makes.mpr (by decide)
  obtain ⟨other, otherMade⟩ := alike.mp ⟨collection, made⟩
  exact ⟨⟨collection, other, made, otherMade, holds collection made,
      interchanges collection other made otherMade⟩,
    (conflicts _).mpr ⟨[], linuxValues.tail, [linux], rfl, by decide, by simp, rfl, rfl, by decide⟩⟩

end ConstraintCollection

end CrossBuild
