import CrossBuild.Distinct
import CrossBuild.OrderedMap
import CrossBuild.Resolution.Resolve
import Mathlib.Data.List.Induction

/-!
Lists, maps and requirements that are put together from left to right keep each key where it
occurred first.
-/

namespace CrossBuild

section Distinct

variable {α : Type} [DecidableEq α]

theorem distinct_concat (items : List α) (last : α) :
    distinct (items ++ [last]) =
      if last ∈ items then distinct items else distinct items ++ [last] := by
  unfold distinct
  rw [List.eraseDups_append]
  by_cases present : last ∈ items <;> simp [List.cons_removeAll, List.eraseDups_cons, present]

theorem distinct_append_congr {items others : List α} (same : distinct items = distinct others)
    (added : List α) : distinct (items ++ added) = distinct (others ++ added) := by
  induction added using List.reverseRecOn with
  | nil => rw [List.append_nil, List.append_nil, same]
  | append_singleton added last ih =>
      have known : last ∈ items ++ added ↔ last ∈ others ++ added := by
        rw [← mem_distinct, ih, mem_distinct]
      rw [← List.append_assoc, ← List.append_assoc, distinct_concat, distinct_concat, ih]
      simp only [known]

theorem distinct_of_nodup {items : List α} (nodup : items.Nodup) : distinct items = items := by
  induction items using List.reverseRecOn with
  | nil => rfl
  | append_singleton items last ih =>
      rw [List.nodup_append] at nodup
      obtain ⟨front, _, apart⟩ := nodup
      have fresh : last ∉ items := fun member => apart _ member _ List.mem_cons_self rfl
      rw [distinct_concat, if_neg fresh, ih front]

end Distinct

namespace OrderedMap

variable {κ : Type} {ν : Type} [DecidableEq κ]

theorem isEmpty_iff (map : OrderedMap κ ν) :
    map.isEmpty = true ↔ ∀ key, map.get? key = none := by
  simp only [get?_eq_none_iff, isEmpty, keys]
  rw [List.isEmpty_iff, ← List.map_eq_nil_iff (f := Prod.fst), List.eq_nil_iff_forall_not_mem]

theorem ofList_concat (pairs : List (κ × ν)) (last : κ × ν) :
    ofList (pairs ++ [last]) = (ofList pairs).insert last.1 last.2 := by
  simp only [ofList, List.foldl_append, List.foldl_cons, List.foldl_nil]

theorem keys_ofList (pairs : List (κ × ν)) :
    (ofList pairs).keys = distinct (pairs.map Prod.fst) := by
  induction pairs using List.reverseRecOn with
  | nil => rfl
  | append_singleton pairs last ih =>
      rw [ofList_concat, keys_insert, ih, List.map_append, List.map_singleton, distinct_concat]
      simp only [mem_distinct]

theorem putEntry_of_absent {key : κ} {entries : List (κ × ν)}
    (absent : key ∉ entries.map Prod.fst) (value : ν) :
    putEntry key value entries = entries ++ [(key, value)] := by
  induction entries with
  | nil => rfl
  | cons entry rest ih =>
      simp only [List.map_cons, List.mem_cons, not_or] at absent
      rw [putEntry, if_neg fun same => absent.1 same.symm, ih absent.2, List.cons_append]

theorem entries_ofList {pairs : List (κ × ν)} (nodup : (pairs.map Prod.fst).Nodup) :
    (ofList pairs).entries = pairs := by
  induction pairs using List.reverseRecOn with
  | nil => rfl
  | append_singleton pairs last ih =>
      rw [List.map_append, List.nodup_append] at nodup
      obtain ⟨front, _, apart⟩ := nodup
      have fresh : last.1 ∉ pairs.map Prod.fst := fun member => apart _ member _ (by simp) rfl
      rw [ofList_concat, insert]
      change putEntry last.1 last.2 (ofList pairs).entries = pairs ++ [last]
      rw [ih front, putEntry_of_absent fresh]

theorem get?_ofList_filterMap (value? : κ → Option ν) (keys : List κ) (key : κ) :
    (ofList (keys.filterMap fun other => (value? other).map fun value => (other, value))).get? key =
      if key ∈ keys then value? key else none := by
  induction keys using List.reverseRecOn with
  | nil => rfl
  | append_singleton keys last ih =>
      rw [List.filterMap_append]
      cases held : value? last with
      | none =>
          rw [List.filterMap_cons_none (by rw [held]; rfl), List.filterMap_nil, List.append_nil, ih]
          by_cases same : key = last
          · simp [same, held]
          · simp [same]
      | some value =>
          rw [List.filterMap_cons_some (by rw [held]; rfl), List.filterMap_nil, ofList_concat,
            get?_insert, ih]
          by_cases same : key = last
          · simp [same, held]
          · simp [same]

theorem entries_eq_map_keys (map : OrderedMap κ ν) (value : κ → ν)
    (given : ∀ key ∈ map.keys, map.get? key = some (value key)) :
    map.entries = map.keys.map fun key => (key, value key) := by
  have kept : map.entries.map (fun entry => (entry.1, value entry.1)) = map.entries.map id := by
    apply List.map_congr_left
    intro entry member
    have held := given entry.1 (List.mem_map_of_mem member)
    rw [get?_of_mem_entries member, Option.some.injEq] at held
    rw [← held, id]
  rw [keys, List.map_map]
  exact ((List.map_id _).symm.trans kept.symm)

theorem entries_ofList_map (value : κ → ν) (keys : List κ) :
    (ofList (keys.map fun key => (key, value key))).entries =
      (distinct keys).map fun key => (key, value key) := by
  have listed : (ofList (keys.map fun key => (key, value key))).keys = distinct keys := by
    rw [keys_ofList, List.map_map]
    exact congrArg distinct (List.map_id keys)
  rw [entries_eq_map_keys _ value, listed]
  intro key member
  rw [listed, mem_distinct] at member
  have found := get?_ofList_filterMap (fun other => some (value other)) keys key
  rw [if_pos member] at found
  simpa using found

end OrderedMap

/-- The type that a requested label stands for.  A label that is no alias stands for itself. -/
def ToolchainType.denotedBy (aliases : OrderedMap Label ToolchainType) (requested : Label) :
    ToolchainType :=
  (aliases.get? requested).getD ⟨requested⟩

namespace ToolchainRequirement

theorem map_toolchainType_add (requirements : List ToolchainRequirement)
    (requirement : ToolchainRequirement) :
    (add requirements requirement).map toolchainType =
      if requirement.toolchainType ∈ requirements.map toolchainType then
        requirements.map toolchainType
      else requirements.map toolchainType ++ [requirement.toolchainType] := by
  unfold add
  have present : (requirements.any fun earlier =>
      earlier.toolchainType = requirement.toolchainType) = true ↔
        requirement.toolchainType ∈ requirements.map toolchainType := by simp
  simp only [present]
  split <;> simp

theorem map_toolchainType_addAll (added : List ToolchainRequirement) :
    (addAll [] added).map toolchainType = distinct (added.map toolchainType) := by
  induction added using List.reverseRecOn with
  | nil => rfl
  | append_singleton added last ih =>
      rw [addAll, List.foldl_append, List.foldl_cons, List.foldl_nil, map_toolchainType_add]
      change (if _ ∈ (addAll [] added).map toolchainType then (addAll [] added).map toolchainType
        else (addAll [] added).map toolchainType ++ [last.toolchainType]) = _
      rw [ih, List.map_append, List.map_singleton, distinct_concat]
      simp only [mem_distinct]

theorem toolchainType_canonical (aliases : OrderedMap Label ToolchainType)
    (requirement : ToolchainRequirement) :
    (requirement.canonical aliases).toolchainType =
      (ToolchainType.denotedBy aliases requirement.toolchainType).label := by
  unfold canonical ToolchainType.denotedBy
  cases aliases.get? requirement.toolchainType <;> rfl

theorem map_toolchainType_canonicalAll (aliases : OrderedMap Label ToolchainType)
    (requirements : List ToolchainRequirement) :
    (canonicalAll aliases requirements).map toolchainType =
      distinct ((requirements.map toolchainType).map fun requested =>
        (ToolchainType.denotedBy aliases requested).label) := by
  rw [canonicalAll, map_toolchainType_addAll, List.map_map, List.map_map]
  congr 1
  exact List.map_congr_left fun requirement _ => toolchainType_canonical aliases requirement

end ToolchainRequirement

end CrossBuild
