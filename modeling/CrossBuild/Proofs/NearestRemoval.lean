import CrossBuild.Proofs.EnvironmentsApart
import CrossBuild.Proofs.Fulfillers
import Mathlib.Data.List.Nodup

/-!
Which removal explains that an environment is missing.  If its group is known, it is the removal of
the environment itself or of the nearest one that fulfills it.
-/

namespace CrossBuild

/-- So many declarations lead from one environment to another, and none from one to itself. -/
inductive Reaches (pairs : List (Label × Label)) : Nat → Label → Label → Prop
  | self (environment : Label) : Reaches pairs 0 environment environment
  | chain {length : Nat} {source target : Label}
      (chain : FulfillmentChain pairs length source target) : Reaches pairs length source target

theorem FulfillmentChain.exists_isLeast {pairs : List (Label × Label)} {length : Nat}
    {source target : Label} (chain : FulfillmentChain pairs length source target) :
    ∃ shortest, IsLeast {length | FulfillmentChain pairs length source target} shortest := by
  classical
  have linked : ∃ length, FulfillmentChain pairs length source target := ⟨length, chain⟩
  exact ⟨Nat.find linked, Nat.find_spec linked, fun _ other => Nat.find_min' linked other⟩

namespace NearestFirst

variable {pairs : List (Label × Label)} {environment : Label} {found : List Label} {γ : Type}
  {value? : Label → Option γ}

theorem findSome?_eq_none_iff (nearestFirst : NearestFirst pairs environment found) :
    (environment :: found).findSome? value? = none ↔
      value? environment = none ∧
        ∀ other length, FulfillmentChain pairs length other environment → value? other = none := by
  rw [List.findSome?_eq_none_iff, List.forall_mem_cons, and_congr_right_iff]
  intro own
  constructor
  · intro others other length chain
    by_cases same : other = environment
    · rw [same, own]
    · exact others other ((nearestFirst.mem_iff other).mpr ⟨same, length, chain⟩)
  · intro others other member
    obtain ⟨_, length, chain⟩ := (nearestFirst.mem_iff other).mp member
    exact others other length chain

/-- Whoever comes later in the search has no shorter chain. -/
theorem le_of_later (nearestFirst : NearestFirst pairs environment found)
    {before after : List Label} {source other : Label} (split : found = before ++ source :: after)
    {shortest steps : Nat}
    (least : IsLeast {length | FulfillmentChain pairs length source environment} shortest)
    (later : other ∈ source :: after) (chain : FulfillmentChain pairs steps other environment) :
    shortest ≤ steps := by
  obtain rfl | after := List.mem_cons.mp later
  · exact least.2 chain
  · have ordered := nearestFirst.ordered
    rw [split, List.pairwise_append, List.pairwise_cons] at ordered
    obtain ⟨far, farthest⟩ := chain.exists_isLeast
    exact (ordered.2.1.1 other after shortest far least farthest).trans (farthest.2 chain)

theorem exists_nearest (nearestFirst : NearestFirst pairs environment found) {value : γ}
    (first : (environment :: found).findSome? value? = some value) :
    ∃ source distance, value? source = some value ∧ Reaches pairs distance source environment ∧
      ∀ other steps, Reaches pairs steps other environment → (value? other).isSome →
        distance ≤ steps := by
  rw [List.findSome?_cons] at first
  split at first
  next own same =>
    cases first
    exact ⟨environment, 0, same, .self environment, fun _ steps _ _ => Nat.zero_le steps⟩
  next unrecorded =>
    obtain ⟨before, source, after, split, recorded, silent⟩ :=
      List.findSome?_eq_some_iff.mp first
    have member : source ∈ found := by simp [split]
    obtain ⟨_, length, chain⟩ := (nearestFirst.mem_iff source).mp member
    obtain ⟨shortest, least⟩ := chain.exists_isLeast
    refine ⟨source, shortest, recorded, .chain least.1, ?_⟩
    intro other steps reaches otherRecorded
    cases reaches with
    | self => simp [unrecorded] at otherRecorded
    | chain otherChain =>
        have apart : other ≠ environment := by
          rintro rfl
          simp [unrecorded] at otherRecorded
        have listed := (nearestFirst.mem_iff other).mpr ⟨apart, steps, otherChain⟩
        rw [split, List.mem_append] at listed
        obtain earlier | later := listed
        · simp [silent other earlier] at otherRecorded
        · exact nearestFirst.le_of_later split least later otherChain

end NearestFirst

namespace EnvironmentCollection

structure OnlyGroup (collection : EnvironmentCollection) (group : EnvironmentGroup)
    (environment : Label) : Prop where
  listed : group ∈ collection.groups
  member : environment ∈ group.environments
  only : ∀ other ∈ collection.groups, environment ∈ other.environments → other = group

theorem OnlyGroup.flatMap_fulfillers {collection : EnvironmentCollection}
    {group : EnvironmentGroup} {environment : Label}
    (onlyGroup : collection.OnlyGroup group environment) :
    (collection.groups.flatMap fun group => group.fulfillers environment) =
      group.fulfillers environment := by
  obtain ⟨before, after, split⟩ := List.append_of_mem onlyGroup.listed
  have nodup : collection.groups.Nodup :=
    List.Nodup.of_map EnvironmentGroup.label (nodup_label_distinctGroups _)
  rw [split, List.nodup_middle, List.nodup_cons] at nodup
  have silent : ∀ other ∈ before ++ after, other.fulfillers environment = [] := by
    intro other member
    apply EnvironmentGroup.fulfillers_eq_nil
    intro inside
    have listed : other ∈ collection.groups := by
      rw [split, List.perm_middle.mem_iff]
      exact List.mem_cons_of_mem _ member
    cases onlyGroup.only other listed inside
    exact nodup.1 member
  rw [List.forall_mem_append] at silent
  rw [split, List.flatMap_append, List.flatMap_cons, List.flatMap_eq_nil_iff.mpr silent.1,
    List.flatMap_eq_nil_iff.mpr silent.2, List.nil_append, List.append_nil]

end EnvironmentCollection

namespace EnvironmentSupport

variable {support : EnvironmentSupport} {group : EnvironmentGroup} {environment : Label}

/-- The removal of the nearest environment with a recorded one, as far as it fulfills the missing
environment. -/
structure NearestRemoval (support : EnvironmentSupport) (group : EnvironmentGroup)
    (environment : Label) (removal : Option EnvironmentRemoval) : Prop where
  eq_none_iff : removal = none ↔ support.removals.get? environment = none ∧
    ∀ other length, FulfillmentChain group.fulfills length other environment →
      support.removals.get? other = none
  own : ∀ recorded, support.removals.get? environment = some recorded → removal = some recorded
  nearest : ∀ recorded, removal = some recorded →
    ∃ source distance, support.removals.get? source = some recorded ∧
      Reaches group.fulfills distance source environment ∧
      ∀ other steps, Reaches group.fulfills steps other environment →
        (support.removals.get? other).isSome → distance ≤ steps

theorem nearestRemoval (onlyGroup : support.declared.OnlyGroup group environment) :
    support.NearestRemoval group environment (support.removalOf? environment) := by
  have nearestFirst := EnvironmentGroup.nearestFirst_fulfillers onlyGroup.member
  have removal : support.removalOf? environment =
      (environment :: group.fulfillers environment).findSome? support.removals.get? := by
    rw [removalOf?, onlyGroup.flatMap_fulfillers]
  exact {
    eq_none_iff := by rw [removal, nearestFirst.findSome?_eq_none_iff]
    own := fun _ => removalOf?_of_recorded
    nearest := fun _ recorded => nearestFirst.exists_nearest (removal ▸ recorded) }

theorem removalOf?_of_ungrouped
    (ungrouped : ∀ group ∈ support.declared.groups, environment ∉ group.environments) :
    support.removalOf? environment = support.removals.get? environment := by
  have unfulfilled : (support.declared.groups.flatMap fun group =>
      group.fulfillers environment) = [] := by
    rw [List.flatMap_eq_nil_iff]
    intro group member
    exact EnvironmentGroup.fulfillers_eq_nil (ungrouped group member)
  rw [removalOf?, unfulfilled, List.findSome?_singleton]

end EnvironmentSupport

/-- A missing environment is explained by the nearest recorded removal in the only declared group
that it belongs to, and by nothing but its own removal if there is no such group. -/
theorem missing_nearestRemoval (support : EnvironmentSupport) (lookup : EnvironmentLookup)
    (expected : List Label) (missing : List MissingEnvironment)
    (outcome : support.missing lookup expected = .ok missing) :
    ∀ report ∈ missing,
      (∀ group, support.declared.OnlyGroup group report.environment →
        support.NearestRemoval group report.environment report.removal) ∧
      ((∀ group ∈ support.declared.groups, report.environment ∉ group.environments) →
        report.removal = support.removals.get? report.environment) := by
  intro report listed
  obtain ⟨_, _, same⟩ := (EnvironmentSupport.mem_missing_iff outcome report).mp listed
  have removal : report.removal = support.removalOf? report.environment :=
    congrArg MissingEnvironment.removal same
  rw [removal]
  exact ⟨fun group onlyGroup => EnvironmentSupport.nearestRemoval onlyGroup,
    EnvironmentSupport.removalOf?_of_ungrouped⟩

def ladderGroup : EnvironmentGroup where
  label := ⟨"", "ladder", "cpus"⟩
  environments := [⟨"", "ladder", "v1"⟩, ⟨"", "ladder", "v2"⟩, ⟨"", "ladder", "v3"⟩,
    ⟨"", "ladder", "v4"⟩]
  defaults := []
  fulfills := [(⟨"", "ladder", "v4"⟩, ⟨"", "ladder", "v3"⟩),
    (⟨"", "ladder", "v3"⟩, ⟨"", "ladder", "v2"⟩), (⟨"", "ladder", "v2"⟩, ⟨"", "ladder", "v1"⟩),
    (⟨"", "ladder", "v1"⟩, ⟨"", "ladder", "v3"⟩)]
  nodup_environments := by decide
  nodup_defaults := by decide
  mem_of_default := by decide
  mem_of_fulfills := by decide

def removedBy (name : String) : EnvironmentRemoval := ⟨⟨"", "lib", "select"⟩, ⟨"", "lib", name⟩⟩

def descended : EnvironmentSupport where
  declared := .ofPairs [(ladderGroup, ⟨"", "ladder", "v4"⟩), (ladderGroup, ⟨"", "ladder", "v1"⟩)]
  removals := .ofList [(⟨"", "ladder", "v4"⟩, removedBy "top"),
    (⟨"", "ladder", "v3"⟩, removedBy "middle"), (⟨"", "envs", "mac"⟩, removedBy "system")]

theorem missing_nearestRemoval_descended :
    ∃ lowest system,
      descended.missing { groups := [ladderGroup, systemGroup] : EnvironmentRegistry }.lookup
          [⟨"", "ladder", "v1"⟩, ⟨"", "envs", "mac"⟩] = .ok [lowest, system] ∧
        descended.declared.OnlyGroup ladderGroup lowest.environment ∧
        descended.NearestRemoval ladderGroup lowest.environment lowest.removal ∧
        lowest.removal = some (removedBy "middle") ∧
        system.removal = some (removedBy "system") := by
  have outcome : descended.missing
      { groups := [ladderGroup, systemGroup] : EnvironmentRegistry }.lookup
      [⟨"", "ladder", "v1"⟩, ⟨"", "envs", "mac"⟩] =
    .ok [descended.record ⟨"", "ladder", "v1"⟩, descended.record ⟨"", "envs", "mac"⟩] := by rfl
  have onlyGroup : descended.declared.OnlyGroup ladderGroup ⟨"", "ladder", "v1"⟩ := by
    have groups : descended.declared.groups = [ladderGroup] := by rfl
    constructor
    · simp [groups]
    · decide
    · intro other listed _
      rwa [groups, List.mem_singleton] at listed
  have explained := missing_nearestRemoval descended _ _ _ outcome
  rw [List.forall_mem_cons, List.forall_mem_singleton] at explained
  obtain ⟨⟨nearest, _⟩, _, ungrouped⟩ := explained
  exact ⟨_, _, outcome, onlyGroup, nearest ladderGroup onlyGroup, by decide,
    (ungrouped (by decide)).trans (by decide)⟩

end CrossBuild
