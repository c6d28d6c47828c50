/-!
Finite maps that remember the order in which their keys were first inserted.  Inserting a key
that is present replaces its value where it stands.  The view of a map is `get?` together with
`keys`; `get?_insert` and `keys_insert` say what insertion does to each.
-/

universe u v

namespace CrossBuild

/-- Keys are pairwise distinct, and `entries` lists them in the order of their first insertion. -/
structure OrderedMap (κ : Type u) (ν : Type v) where
  entries : List (κ × ν)
  nodup_keys : (entries.map Prod.fst).Nodup

namespace OrderedMap

variable {κ : Type u} {ν : Type v}

def empty : OrderedMap κ ν := ⟨[], by simp⟩

instance : Inhabited (OrderedMap κ ν) := ⟨empty⟩

def keys (map : OrderedMap κ ν) : List κ := map.entries.map Prod.fst

def values (map : OrderedMap κ ν) : List ν := map.entries.map Prod.snd

def size (map : OrderedMap κ ν) : Nat := map.entries.length

def isEmpty (map : OrderedMap κ ν) : Bool := map.entries.isEmpty

theorem ext {first second : OrderedMap κ ν} (same : first.entries = second.entries) :
    first = second := by
  cases first
  cases second
  cases same
  rfl

@[simp] theorem length_keys (map : OrderedMap κ ν) : map.keys.length = map.size := by
  simp [keys, size]

variable [DecidableEq κ]

def get? (map : OrderedMap κ ν) (key : κ) : Option ν := map.entries.lookup key

def contains (map : OrderedMap κ ν) (key : κ) : Bool := (map.get? key).isSome

def putEntry (key : κ) (value : ν) : List (κ × ν) → List (κ × ν)
  | [] => [(key, value)]
  | entry :: rest =>
      if entry.1 = key then (key, value) :: rest else entry :: putEntry key value rest

theorem map_fst_putEntry (key : κ) (value : ν) (entries : List (κ × ν)) :
    (putEntry key value entries).map Prod.fst =
      if key ∈ entries.map Prod.fst then entries.map Prod.fst
      else entries.map Prod.fst ++ [key] := by
  induction entries with
  | nil => simp [putEntry]
  | cons entry rest ih =>
      simp only [putEntry]
      by_cases same : entry.1 = key
      · simp [same]
      · have other : ¬ key = entry.1 := fun equal => same equal.symm
        by_cases later : key ∈ rest.map Prod.fst
        · simp only [same, if_false, List.map_cons, ih, later, if_true, List.mem_cons, or_true]
        · simp only [same, if_false, List.map_cons, ih, later, if_false, List.mem_cons, other,
            or_self, List.cons_append]

theorem lookup_putEntry (key other : κ) (value : ν) (entries : List (κ × ν)) :
    (putEntry key value entries).lookup other =
      if other = key then some value else entries.lookup other := by
  induction entries with
  | nil =>
      by_cases same : other = key
      · simp [putEntry, same]
      · simp [putEntry, List.lookup_cons, beq_eq_false_iff_ne.mpr same, same]
  | cons entry rest ih =>
      rcases entry with ⟨first, held⟩
      simp only [putEntry]
      by_cases found : first = key
      · subst found
        by_cases same : other = first
        · simp [same]
        · simp [List.lookup_cons, beq_eq_false_iff_ne.mpr same, same]
      · by_cases same : other = key
        · subst same
          have apart : ¬ other = first := fun equal => found equal.symm
          simp [List.lookup_cons, found, beq_eq_false_iff_ne.mpr apart, ih]
        · simp [List.lookup_cons, found, same, ih]

def insert (map : OrderedMap κ ν) (key : κ) (value : ν) : OrderedMap κ ν where
  entries := putEntry key value map.entries
  nodup_keys := by
    rw [map_fst_putEntry]
    split
    · exact map.nodup_keys
    · rename_i absent
      rw [List.nodup_append]
      refine ⟨map.nodup_keys, by simp, ?_⟩
      intro present member last lastMember
      rw [List.mem_singleton] at lastMember
      subst lastMember
      exact fun equal => absent (equal ▸ member)

/-- Inserts the pairs from left to right, so the last pair of a key decides its value. -/
def ofList (pairs : List (κ × ν)) : OrderedMap κ ν :=
  pairs.foldl (fun map pair => map.insert pair.1 pair.2) empty

@[simp] theorem get?_empty (key : κ) : (empty : OrderedMap κ ν).get? key = none := rfl

theorem get?_insert (map : OrderedMap κ ν) (key other : κ) (value : ν) :
    (map.insert key value).get? other = if other = key then some value else map.get? other :=
  lookup_putEntry key other value map.entries

theorem keys_insert (map : OrderedMap κ ν) (key : κ) (value : ν) :
    (map.insert key value).keys = if key ∈ map.keys then map.keys else map.keys ++ [key] :=
  map_fst_putEntry key value map.entries

theorem contains_iff (map : OrderedMap κ ν) (key : κ) :
    map.contains key = true ↔ key ∈ map.keys := by
  unfold contains get? keys
  induction map.entries with
  | nil => simp
  | cons entry rest ih =>
      rcases entry with ⟨first, held⟩
      by_cases same : key = first
      · simp [same]
      · simp [List.lookup_cons, beq_eq_false_iff_ne.mpr same, same, ih]

theorem get?_eq_none_iff (map : OrderedMap κ ν) (key : κ) :
    map.get? key = none ↔ key ∉ map.keys := by
  rw [← contains_iff, contains, Bool.not_eq_true, Option.isSome_eq_false_iff,
    Option.isNone_iff_eq_none]

theorem get?_of_mem_entries {map : OrderedMap κ ν} {key : κ} {value : ν}
    (member : (key, value) ∈ map.entries) : map.get? key = some value := by
  obtain ⟨before, after, split⟩ := List.append_of_mem member
  have unique := map.nodup_keys
  rw [split, List.map_append, List.nodup_append] at unique
  rw [get?, List.lookup_eq_some_iff]
  refine ⟨before, after, split, ?_⟩
  intro entry earlier
  have apart := unique.2.2 entry.1 (List.mem_map_of_mem earlier) key (by simp)
  exact bne_iff_ne.mpr apart.symm

theorem mem_entries_of_get? {map : OrderedMap κ ν} {key : κ} {value : ν}
    (found : map.get? key = some value) : (key, value) ∈ map.entries := by
  obtain ⟨before, after, split, _⟩ := List.lookup_eq_some_iff.mp found
  rw [split]
  exact List.mem_append_right before List.mem_cons_self

theorem mem_keys_of_get? {map : OrderedMap κ ν} {key : κ} {value : ν}
    (found : map.get? key = some value) : key ∈ map.keys :=
  List.mem_map_of_mem (mem_entries_of_get? found)

theorem mem_values_of_get? {map : OrderedMap κ ν} {key : κ} {value : ν}
    (found : map.get? key = some value) : value ∈ map.values :=
  List.mem_map_of_mem (mem_entries_of_get? found)

end OrderedMap

end CrossBuild
