import CrossBuild.Environment.Collection
import CrossBuild.Proofs.LastOccurrence
import Mathlib.Data.List.Basic

/-!
Collections of environments, told by what was put into them.  An environment stands where it was put
first and belongs to the group that it was put into last; the groups of the collection are those of
its environments at present.
-/

namespace CrossBuild

theorem distinct_filter {α : Type} [DecidableEq α] (test : α → Bool) (items : List α) :
    distinct (items.filter test) = (distinct items).filter test := by
  induction items using List.reverseRecOn with
  | nil => rfl
  | append_singleton items last ih =>
      rw [List.filter_append, distinct_concat]
      by_cases passes : test last = true
      · have kept : [last].filter test = [last] := by simp [passes]
        rw [kept, distinct_concat, ih]
        by_cases present : last ∈ items
        · simp [present, passes]
        · simp [present, passes]
      · have dropped : [last].filter test = [] := by simp [passes]
        rw [dropped, List.append_nil, ih]
        by_cases present : last ∈ items
        · simp [present]
        · simp [present, passes]

theorem OrderedMap.values_eq_filterMap_keys {κ ν : Type} [DecidableEq κ] (map : OrderedMap κ ν) :
    map.values = map.keys.filterMap map.get? := by
  rw [values, keys, List.filterMap_map, ← List.filterMap_eq_map]
  apply List.filterMap_congr
  intro entry member
  have found : map.get? entry.1 = some entry.2 := get?_of_mem_entries member
  exact found.symm

namespace EnvironmentCollection

variable {collection : EnvironmentCollection} {puts : List (EnvironmentGroup × Label)}
  {group : EnvironmentGroup} {environment label : Label}

theorem ofPairs_eq_ofList (pairs : List (EnvironmentGroup × Label)) :
    ofPairs pairs = OrderedMap.ofList (pairs.map Prod.swap) := by
  rw [ofPairs, OrderedMap.ofList, List.foldl_map]
  rfl

theorem environments_ofPairs (puts : List (EnvironmentGroup × Label)) :
    environments (ofPairs puts) = distinct (puts.map Prod.snd) := by
  rw [environments, ofPairs_eq_ofList, OrderedMap.keys_ofList, List.map_map]
  rfl

theorem groupOf?_ofPairs_eq_some_iff :
    groupOf? (ofPairs puts) environment = some group ↔
      IsLast (fun put => put.2 = environment) puts (group, environment) := by
  rw [groupOf?, ofPairs_eq_ofList, OrderedMap.get?_ofList_eq_some_iff, isLast_map]
  constructor
  · rintro ⟨⟨held, other⟩, same, last⟩
    rw [Prod.swap_prod_mk, Prod.mk.injEq] at same
    obtain ⟨rfl, rfl⟩ := same
    exact last
  · intro last
    exact ⟨(group, environment), rfl, last⟩

theorem groupOf?_ofPairs_eq_none_iff :
    groupOf? (ofPairs puts) environment = none ↔ environment ∉ puts.map Prod.snd := by
  have listed : environment ∈ environments (ofPairs puts) ↔ environment ∈ puts.map Prod.snd := by
    rw [environments_ofPairs, mem_distinct]
  rw [groupOf?, OrderedMap.get?_eq_none_iff, ← listed]
  rfl

theorem map_label_distinctGroups (groups : List EnvironmentGroup) :
    (distinctGroups groups).map EnvironmentGroup.label =
      distinct (groups.map EnvironmentGroup.label) := by
  induction groups with
  | nil => rfl
  | cons first rest ih =>
      rw [distinctGroups, List.map_cons, List.map_cons, distinct_cons, distinct_filter, ← ih,
        List.filter_map]
      congr 2
      apply List.filter_congr
      intro other _
      by_cases same : other.label = first.label
      · simp [same]
      · simp [same]

theorem nodup_label_distinctGroups (groups : List EnvironmentGroup) :
    ((distinctGroups groups).map EnvironmentGroup.label).Nodup := by
  rw [map_label_distinctGroups]
  exact nodup_distinct _

theorem mem_distinctGroups_iff {groups : List EnvironmentGroup} :
    group ∈ distinctGroups groups ↔
      ∃ before after, groups = before ++ group :: after ∧
        ∀ earlier ∈ before, earlier.label ≠ group.label := by
  induction groups with
  | nil => simp [distinctGroups]
  | cons first rest ih =>
      rw [distinctGroups, List.mem_cons, List.mem_filter, decide_eq_true_iff]
      constructor
      · rintro (rfl | ⟨later, apart⟩)
        · exact ⟨[], rest, rfl, by simp⟩
        · obtain ⟨before, after, rfl, new⟩ := ih.mp later
          exact ⟨first :: before, after, rfl, List.forall_mem_cons.mpr ⟨apart.symm, new⟩⟩
      · rintro ⟨before, after, split, new⟩
        cases before with
        | nil =>
            have same := (List.cons.inj split).1
            exact .inl same.symm
        | cons head front =>
            obtain ⟨rfl, rfl⟩ := List.cons.inj split
            rw [List.forall_mem_cons] at new
            exact .inr ⟨ih.mpr ⟨front, after, rfl, new.2⟩, new.1.symm⟩

theorem mem_values_iff :
    group ∈ OrderedMap.values collection ↔
      ∃ environment, groupOf? collection environment = some group := by
  rw [OrderedMap.values_eq_filterMap_keys, List.mem_filterMap]
  constructor
  · rintro ⟨environment, _, found⟩
    exact ⟨environment, found⟩
  · rintro ⟨environment, found⟩
    exact ⟨environment, OrderedMap.mem_keys_of_get? found, found⟩

theorem mem_groups_iff :
    group ∈ groups collection ↔
      ∃ before environment after, environments collection = before ++ environment :: after ∧
        groupOf? collection environment = some group ∧
        ∀ earlier ∈ before, ∀ other, groupOf? collection earlier = some other →
          other.label ≠ group.label := by
  rw [groups, mem_distinctGroups_iff, OrderedMap.values_eq_filterMap_keys]
  constructor
  · rintro ⟨before, after, split, new⟩
    obtain ⟨front, rest, listed, rfl, remaining⟩ := List.filterMap_eq_append_iff.mp split
    obtain ⟨skipped, environment, back, rfl, silent, found, _⟩ :=
      List.filterMap_eq_cons_iff.mp remaining
    refine ⟨front ++ skipped, environment, back, by simp [environments, listed], found, ?_⟩
    intro earlier member other held
    rcases List.mem_append.mp member with early | passed
    · exact new other (List.mem_filterMap.mpr ⟨earlier, early, held⟩)
    · have unheld := silent earlier passed
      rw [groupOf?, unheld] at held
      cases held
  · rintro ⟨before, environment, after, listed, found, new⟩
    refine ⟨before.filterMap (OrderedMap.get? collection),
      after.filterMap (OrderedMap.get? collection), ?_, ?_⟩
    · rw [environments] at listed
      rw [groupOf?] at found
      rw [listed, List.filterMap_append, List.filterMap_cons_some found]
    · intro other member
      obtain ⟨earlier, early, held⟩ := List.mem_filterMap.mp member
      exact new earlier early other held

theorem referencesGroup_iff_groupOf? :
    referencesGroup collection label = true ↔
      ∃ environment group, groupOf? collection environment = some group ∧ group.label = label := by
  simp only [referencesGroup, List.any_eq_true, decide_eq_true_iff, mem_values_iff]
  constructor
  · rintro ⟨group, ⟨environment, found⟩, same⟩
    exact ⟨environment, group, found, same⟩
  · rintro ⟨environment, group, found, same⟩
    exact ⟨group, ⟨environment, found⟩, same⟩

/-- Only the environment that is put changes its group. -/
theorem referencesGroup_put_iff :
    referencesGroup (put collection group environment) label = true ↔
      group.label = label ∨ ∃ other held, other ≠ environment ∧
        groupOf? collection other = some held ∧ held.label = label := by
  have moved (other : Label) : groupOf? (put collection group environment) other =
      if other = environment then some group else groupOf? collection other :=
    OrderedMap.get?_insert collection environment other group
  rw [referencesGroup_iff_groupOf?]
  constructor
  · rintro ⟨other, held, found, same⟩
    rw [moved] at found
    by_cases own : other = environment
    · rw [if_pos own, Option.some.injEq] at found
      exact .inl (found ▸ same)
    · rw [if_neg own] at found
      exact .inr ⟨other, held, own, found, same⟩
  · rintro (same | ⟨other, held, apart, found, same⟩)
    · exact ⟨environment, group, by rw [moved, if_pos rfl], same⟩
    · exact ⟨other, held, by rw [moved, if_neg apart, found], same⟩

/-- The collection keeps one group for each environment that was put. -/
structure Keeps (collection : EnvironmentCollection) (puts : List (EnvironmentGroup × Label)) :
    Prop where
  environments : environments collection = distinct (puts.map Prod.snd)
  grouped : ∀ environment group, groupOf? collection environment = some group ↔
    IsLast (fun put => put.2 = environment) puts (group, environment)
  ungrouped : ∀ environment,
    groupOf? collection environment = none ↔ environment ∉ puts.map Prod.snd
  distinctLabels : ((groups collection).map EnvironmentGroup.label).Nodup
  labels : (groups collection).map EnvironmentGroup.label =
    distinct (((EnvironmentCollection.environments collection).filterMap
      (groupOf? collection)).map EnvironmentGroup.label)
  firstOfLabel : ∀ group, group ∈ groups collection ↔
    ∃ before environment after,
      EnvironmentCollection.environments collection = before ++ environment :: after ∧
        groupOf? collection environment = some group ∧
        ∀ earlier ∈ before, ∀ other, groupOf? collection earlier = some other →
          other.label ≠ group.label
  references : ∀ label, referencesGroup collection label = true ↔
    ∃ group ∈ groups collection, group.label = label
  referencesHeld : ∀ label, referencesGroup collection label = true ↔
    ∃ environment group, groupOf? collection environment = some group ∧ group.label = label

theorem keeps_ofPairs (puts : List (EnvironmentGroup × Label)) : (ofPairs puts).Keeps puts where
  environments := environments_ofPairs puts
  grouped _ _ := groupOf?_ofPairs_eq_some_iff
  ungrouped _ := groupOf?_ofPairs_eq_none_iff
  distinctLabels := nodup_label_distinctGroups _
  labels := by
    rw [groups, map_label_distinctGroups, OrderedMap.values_eq_filterMap_keys]
    rfl
  firstOfLabel _ := mem_groups_iff
  references := referencesGroup_iff (ofPairs puts)
  referencesHeld _ := referencesGroup_iff_groupOf?

/-- Whatever is put, and in whatever order, the groups follow the environments; a group goes when
its last environment is put into another one. -/
theorem ofPairs_keeps (puts : List (EnvironmentGroup × Label)) :
    (ofPairs puts).Keeps puts ∧
      ∀ group environment label,
        (∀ other held, groupOf? (ofPairs puts) other = some held → held.label = label →
          other = environment) →
        group.label ≠ label →
          referencesGroup (put (ofPairs puts) group environment) label = false := by
  refine ⟨keeps_ofPairs puts, ?_⟩
  intro group environment label last elsewhere
  rw [← Bool.not_eq_true, referencesGroup_put_iff]
  rintro (same | ⟨other, held, apart, found, same⟩)
  · exact elsewhere same
  · exact apart (last other held found same)

def desktopGroup : EnvironmentGroup where
  label := ⟨"", "systems", "desktops"⟩
  environments := [⟨"", "systems", "linux"⟩, ⟨"", "systems", "macos"⟩]
  defaults := [⟨"", "systems", "macos"⟩]
  fulfills := []
  nodup_environments := by decide
  nodup_defaults := by decide
  mem_of_default := by decide
  mem_of_fulfills := by decide

def serverGroup : EnvironmentGroup :=
  { desktopGroup with
    defaults := [⟨"", "systems", "linux"⟩]
    nodup_defaults := by decide
    mem_of_default := by decide }

def phoneGroup : EnvironmentGroup where
  label := ⟨"", "systems", "phones"⟩
  environments := [⟨"", "systems", "android"⟩]
  defaults := [⟨"", "systems", "android"⟩]
  fulfills := []
  nodup_environments := by decide
  nodup_defaults := by decide
  mem_of_default := by decide
  mem_of_fulfills := by decide

def mixedPuts : List (EnvironmentGroup × Label) :=
  [(desktopGroup, ⟨"", "systems", "linux"⟩), (phoneGroup, ⟨"", "systems", "android"⟩),
    (desktopGroup, ⟨"", "systems", "macos"⟩), (serverGroup, ⟨"", "systems", "linux"⟩)]

theorem ofPairs_keeps_mixedPuts :
    (ofPairs mixedPuts).Keeps mixedPuts ∧
      groupOf? (ofPairs mixedPuts) ⟨"", "systems", "linux"⟩ = some serverGroup ∧
      groups (ofPairs mixedPuts) = [serverGroup, phoneGroup] ∧
      (∀ other held, groupOf? (ofPairs mixedPuts) other = some held →
        held.label = phoneGroup.label → other = ⟨"", "systems", "android"⟩) ∧
      desktopGroup.label ≠ phoneGroup.label ∧
      referencesGroup (ofPairs mixedPuts) phoneGroup.label = true ∧
      referencesGroup (put (ofPairs mixedPuts) desktopGroup ⟨"", "systems", "android"⟩)
        phoneGroup.label = false := by
  obtain ⟨keeps, moves⟩ := ofPairs_keeps mixedPuts
  have only : ∀ other held, groupOf? (ofPairs mixedPuts) other = some held →
      held.label = phoneGroup.label → other = ⟨"", "systems", "android"⟩ := by
    have listed : ∀ entry ∈ OrderedMap.entries (ofPairs mixedPuts),
        entry.2.label = phoneGroup.label → entry.1 = ⟨"", "systems", "android"⟩ := by decide
    intro other held found
    exact listed (other, held) (OrderedMap.mem_entries_of_get? found)
  exact ⟨keeps, rfl, rfl, only, by decide, by decide,
    moves desktopGroup ⟨"", "systems", "android"⟩ phoneGroup.label only (by decide)⟩

end EnvironmentCollection

end CrossBuild
