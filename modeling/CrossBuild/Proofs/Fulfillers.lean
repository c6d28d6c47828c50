import CrossBuild.Environment.Group
import CrossBuild.Proofs.LevelSearch

/-!
Which declarations make a group, and the order in which the fulfillers of its members are found.
-/

namespace CrossBuild

/-- Declarations that lead from one environment to another, and their number. -/
inductive FulfillmentChain (pairs : List (Label × Label)) : Nat → Label → Label → Prop
  | single {source target : Label} (declared : (source, target) ∈ pairs) :
      FulfillmentChain pairs 1 source target
  | cons {length : Nat} {source middle target : Label} (declared : (source, middle) ∈ pairs)
      (rest : FulfillmentChain pairs length middle target) :
      FulfillmentChain pairs (length + 1) source target

/-- The environments found are the other ones that fulfill an environment, those with the shortest
chains of declarations first. -/
structure NearestFirst (pairs : List (Label × Label)) (environment : Label) (found : List Label) :
    Prop where
  nodup : found.Nodup
  mem_iff : ∀ other, other ∈ found ↔
    other ≠ environment ∧ ∃ length, FulfillmentChain pairs length other environment
  ordered : found.Pairwise fun near far => ∀ short long,
    IsLeast {length | FulfillmentChain pairs length near environment} short →
    IsLeast {length | FulfillmentChain pairs length far environment} long → short ≤ long

namespace EnvironmentGroup

variable (group : EnvironmentGroup) (origin : Label)

def predecessors (environment : Label) : List Label :=
  (group.directFulfillers environment).filter fun fulfiller => fulfiller ≠ origin

theorem previous_eq_spread : group.previous origin = spread (group.predecessors origin) := by
  funext environments
  exact List.filter_flatMap

variable {group origin} {length : Nat} {fulfiller environment : Label}

theorem mem_predecessors_iff :
    fulfiller ∈ group.predecessors origin environment ↔
      (fulfiller, environment) ∈ group.fulfills ∧ fulfiller ≠ origin := by
  simp [predecessors, directFulfillers]

theorem chain_of_walk (walk : Walk (group.predecessors origin) origin length fulfiller)
    (positive : 0 < length) :
    fulfiller ≠ origin ∧ FulfillmentChain group.fulfills length fulfiller origin := by
  induction walk with
  | here => omega
  | @onward length _ _ walk next ih =>
      obtain ⟨declared, other⟩ := mem_predecessors_iff.mp next
      refine ⟨other, ?_⟩
      cases walk with
      | here => exact .single declared
      | onward => exact .cons declared (ih (by omega)).2

/-- A chain that passes its end can be left where it does so for the first time. -/
theorem exists_walk_of_chain (chain : FulfillmentChain group.fulfills length fulfiller origin)
    (other : fulfiller ≠ origin) :
    ∃ steps, 0 < steps ∧ steps ≤ length ∧
      Walk (group.predecessors origin) origin steps fulfiller := by
  induction chain with
  | single declared =>
      exact ⟨1, by omega, by omega, .onward .here (mem_predecessors_iff.mpr ⟨declared, other⟩)⟩
  | @cons length source middle target declared rest ih =>
      have next := mem_predecessors_iff.mpr ⟨declared, other⟩
      by_cases passes : middle = target
      · subst passes
        exact ⟨1, by omega, by omega, .onward .here next⟩
      · obtain ⟨steps, positive, bound, walk⟩ := ih passes
        exact ⟨steps + 1, by omega, by omega, .onward walk next⟩

theorem atDistance_of_isLeast (other : fulfiller ≠ origin)
    (least : IsLeast {length | FulfillmentChain group.fulfills length fulfiller origin} length) :
    AtDistance (group.predecessors origin) origin length fulfiller := by
  obtain ⟨chain, shortest⟩ := least
  obtain ⟨steps, positive, bound, walk⟩ := exists_walk_of_chain chain other
  have same : steps = length := by
    have bound := shortest (chain_of_walk walk positive).2
    omega
  subst same
  refine ⟨walk, ?_⟩
  intro shorter shortcut
  cases shortcut with
  | here => exact absurd rfl other
  | onward shortcut next =>
      exact shortest (chain_of_walk (.onward shortcut next) (Nat.succ_pos _)).2

section Members

variable (member : origin ∈ group.environments)

theorem not_mem_predecessors (environment : Label) :
    origin ∉ group.predecessors origin environment := by
  intro again
  exact (mem_predecessors_iff.mp again).2 rfl

theorem mem_environments_of_mem_predecessors (fulfiller : Label)
    (next : fulfiller ∈ group.predecessors origin environment) :
    fulfiller ∈ group.environments :=
  (group.mem_of_fulfills _ (mem_predecessors_iff.mp next).1).1

include member

theorem mem_fulfillers_iff (fulfiller : Label) :
    fulfiller ∈ group.fulfillers origin ↔
      fulfiller ≠ origin ∧
        ∃ length, FulfillmentChain group.fulfills length fulfiller origin := by
  rw [fulfillers, previous_eq_spread, mem_gather_iff not_mem_predecessors member
    fun _ _ => mem_environments_of_mem_predecessors]
  constructor
  · rintro ⟨steps, positive, walk⟩
    obtain ⟨other, chain⟩ := chain_of_walk walk positive
    exact ⟨other, steps, chain⟩
  · rintro ⟨other, length, chain⟩
    obtain ⟨steps, positive, _, walk⟩ := exists_walk_of_chain chain other
    exact ⟨steps, positive, walk⟩

theorem nearestFirst_fulfillers :
    NearestFirst group.fulfills origin (group.fulfillers origin) where
  nodup := group.fulfillers_nodup origin
  mem_iff := mem_fulfillers_iff member
  ordered := by
    obtain ⟨_, surveyed⟩ :=
      surveyed_zero.exists_gather (group.not_mem_predecessors) group.environments.length
    rw [← previous_eq_spread] at surveyed
    refine surveyed.ordered.imp_of_mem ?_
    intro near far nearMember farMember ordered short long shortest longest
    exact ordered short long
      (atDistance_of_isLeast ((mem_fulfillers_iff member near).mp nearMember).1 shortest)
      (atDistance_of_isLeast ((mem_fulfillers_iff member far).mp farMember).1 longest)

theorem drains_fulfillers :
    Drains (group.predecessors origin) [] [origin] (group.fulfillers origin) := by
  rw [fulfillers, previous_eq_spread]
  exact drains_of_surveyed not_mem_predecessors member
    (fun _ _ => mem_environments_of_mem_predecessors) surveyed_zero (Nat.le_add_left _ _)

end Members

theorem fulfillers_eq_nil (outside : environment ∉ group.environments) :
    group.fulfillers environment = [] := by
  have unfulfilled : group.predecessors environment environment = [] := by
    rw [List.eq_nil_iff_forall_not_mem]
    intro fulfiller next
    exact outside (group.mem_of_fulfills _ (mem_predecessors_iff.mp next).1).2
  rw [fulfillers, previous_eq_spread]
  apply gather_of_fresh_eq_nil
  simp [fresh, spread, unfulfilled]

end EnvironmentGroup

namespace GroupDeclaration

variable (declaration : GroupDeclaration)

def FirstStranger (labels : List Label) (label : Label) : Prop :=
  ∃ before after, labels = before ++ label :: after ∧ label ∉ declaration.environments ∧
    ∀ earlier ∈ before, earlier ∈ declaration.environments

theorem stranger?_eq_some_iff (labels : List Label) (label : Label) :
    declaration.stranger? labels = some label ↔ declaration.FirstStranger labels label := by
  rw [stranger?, List.find?_eq_some_iff_append, FirstStranger]
  simp only [decide_eq_true_iff, Bool.not_eq_true', decide_eq_false_iff_not, not_not]
  constructor
  · rintro ⟨outside, before, after, split, inside⟩
    exact ⟨before, after, split, outside, inside⟩
  · rintro ⟨before, after, split, outside, inside⟩
    exact ⟨outside, before, after, split, inside⟩

theorem stranger?_eq_none_iff (labels : List Label) :
    declaration.stranger? labels = none ↔ ∀ label ∈ labels, label ∈ declaration.environments := by
  simp [stranger?]

inductive Checks : Except EnvironmentError EnvironmentGroup → Prop
  | strangeDefault {label : Label} (first : declaration.FirstStranger declaration.defaults label) :
      Checks (.error (.defaultNotMember declaration.label label))
  | strangeEnd {label : Label}
      (defaults : ∀ label ∈ declaration.defaults, label ∈ declaration.environments)
      (first : declaration.FirstStranger declaration.ends label) :
      Checks (.error (.unknownFulfills declaration.label label))
  | accepted {group : EnvironmentGroup}
      (defaults : ∀ label ∈ declaration.defaults, label ∈ declaration.environments)
      (ends : ∀ label ∈ declaration.ends, label ∈ declaration.environments)
      (environments : group.environments = distinct declaration.environments)
      (fulfills : group.fulfills = declaration.fulfills) : Checks (.ok group)

theorem checks : declaration.Checks declaration.check := by
  unfold check
  split
  next label strange => exact .strangeDefault ((declaration.stranger?_eq_some_iff _ _).mp strange)
  next noDefault =>
    have defaults := (declaration.stranger?_eq_none_iff _).mp noDefault
    split
    next label strange =>
      exact .strangeEnd defaults ((declaration.stranger?_eq_some_iff _ _).mp strange)
    next noEnd => exact .accepted defaults ((declaration.stranger?_eq_none_iff _).mp noEnd) rfl rfl

variable {declaration}

namespace FirstStranger

variable {labels : List Label} {label : Label}

theorem unique {other : Label} (first : declaration.FirstStranger labels label)
    (otherFirst : declaration.FirstStranger labels other) : label = other := by
  rw [← stranger?_eq_some_iff] at first otherFirst
  exact Option.some.inj (first.symm.trans otherFirst)

theorem exists_outside (first : declaration.FirstStranger labels label) :
    ∃ label ∈ labels, label ∉ declaration.environments := by
  obtain ⟨before, after, rfl, outside, _⟩ := first
  exact ⟨label, by simp, outside⟩

theorem not_inside (first : declaration.FirstStranger labels label) :
    ¬ ∀ label ∈ labels, label ∈ declaration.environments := by
  obtain ⟨stranger, member, outside⟩ := first.exists_outside
  exact fun inside => outside (inside stranger member)

end FirstStranger

theorem check_eq_defaultNotMember_iff (label : Label) :
    declaration.check = .error (.defaultNotMember declaration.label label) ↔
      declaration.FirstStranger declaration.defaults label := by
  have outcome := declaration.checks
  constructor
  · intro failed
    rw [failed] at outcome
    cases outcome with
    | strangeDefault first => exact first
  · intro first
    generalize declaration.check = result at outcome
    cases outcome with
    | strangeDefault other => rw [first.unique other]
    | strangeEnd defaults | accepted defaults => exact absurd defaults first.not_inside

theorem check_eq_unknownFulfills_iff (label : Label) :
    declaration.check = .error (.unknownFulfills declaration.label label) ↔
      (∀ default ∈ declaration.defaults, default ∈ declaration.environments) ∧
        declaration.FirstStranger declaration.ends label := by
  have outcome := declaration.checks
  constructor
  · intro failed
    rw [failed] at outcome
    cases outcome with
    | strangeEnd defaults first => exact ⟨defaults, first⟩
  · rintro ⟨defaults, first⟩
    generalize declaration.check = result at outcome
    cases outcome with
    | strangeDefault other => exact absurd defaults other.not_inside
    | strangeEnd _ other => rw [first.unique other]
    | accepted _ ends => exact absurd ends first.not_inside

theorem check_fails_iff :
    (∃ error, declaration.check = .error error) ↔
      (∃ label ∈ declaration.defaults, label ∉ declaration.environments) ∨
        ∃ label ∈ declaration.ends, label ∉ declaration.environments := by
  have outcome := declaration.checks
  generalize declaration.check = result at outcome
  cases outcome with
  | strangeDefault first => exact iff_of_true ⟨_, rfl⟩ (.inl first.exists_outside)
  | strangeEnd _ first => exact iff_of_true ⟨_, rfl⟩ (.inr first.exists_outside)
  | accepted defaults ends =>
      refine iff_of_false nofun ?_
      rintro (⟨label, member, outside⟩ | ⟨label, member, outside⟩)
      · exact outside (defaults label member)
      · exact outside (ends label member)

theorem parts_of_check {group : EnvironmentGroup} (accepted : declaration.check = .ok group) :
    group.environments = distinct declaration.environments ∧
      group.fulfills = declaration.fulfills := by
  have outcome := declaration.checks
  rw [accepted] at outcome
  cases outcome with
  | accepted _ _ environments fulfills => exact ⟨environments, fulfills⟩

/-- A declaration fails with its first default outside of the environments, or else with the first
end of a pair there.  In a group the search for fulfillers comes to an end, nearest ones first. -/
theorem check_nearestFirst (declaration : GroupDeclaration) :
    ((∃ error, declaration.check = .error error) ↔
      (∃ label ∈ declaration.defaults, label ∉ declaration.environments) ∨
        ∃ label ∈ declaration.ends, label ∉ declaration.environments) ∧
    (∀ label, declaration.check = .error (.defaultNotMember declaration.label label) ↔
      declaration.FirstStranger declaration.defaults label) ∧
    (∀ label, declaration.check = .error (.unknownFulfills declaration.label label) ↔
      (∀ default ∈ declaration.defaults, default ∈ declaration.environments) ∧
        declaration.FirstStranger declaration.ends label) ∧
    ∀ group, declaration.check = .ok group →
      (∀ environment ∈ declaration.environments,
        Drains (group.predecessors environment) [] [environment] (group.fulfillers environment) ∧
        NearestFirst declaration.fulfills environment (group.fulfillers environment)) ∧
      ∀ environment ∉ declaration.environments, group.fulfillers environment = [] := by
  refine ⟨check_fails_iff, check_eq_defaultNotMember_iff, check_eq_unknownFulfills_iff, ?_⟩
  intro group accepted
  obtain ⟨environments, fulfills⟩ := parts_of_check accepted
  have members : ∀ environment,
      environment ∈ group.environments ↔ environment ∈ declaration.environments := by
    intro environment
    rw [environments, mem_distinct]
  constructor
  · intro environment declared
    have member := (members environment).mpr declared
    rw [← fulfills]
    exact ⟨EnvironmentGroup.drains_fulfillers member,
      EnvironmentGroup.nearestFirst_fulfillers member⟩
  · intro environment undeclared
    have outside : environment ∉ group.environments := by
      rwa [members environment]
    exact EnvironmentGroup.fulfillers_eq_nil outside

def cyclic : GroupDeclaration where
  label := ⟨"", "envs", "cpus"⟩
  environments := [⟨"", "envs", "a"⟩, ⟨"", "envs", "b"⟩, ⟨"", "envs", "c"⟩]
  fulfills :=
    [(⟨"", "envs", "a"⟩, ⟨"", "envs", "b"⟩), (⟨"", "envs", "a"⟩, ⟨"", "envs", "a"⟩),
      (⟨"", "envs", "b"⟩, ⟨"", "envs", "a"⟩), (⟨"", "envs", "c"⟩, ⟨"", "envs", "a"⟩),
      (⟨"", "envs", "b"⟩, ⟨"", "envs", "a"⟩)]

theorem check_nearestFirst_cyclic :
    (∃ group, cyclic.check = .ok group ∧
      NearestFirst cyclic.fulfills ⟨"", "envs", "b"⟩
        [⟨"", "envs", "a"⟩, ⟨"", "envs", "c"⟩]) ∧
    ({ cyclic with defaults := [⟨"", "envs", "d"⟩] } : GroupDeclaration).check =
      .error (.defaultNotMember ⟨"", "envs", "cpus"⟩ ⟨"", "envs", "d"⟩) := by
  have closes := (check_nearestFirst cyclic).2.2.2 _ rfl
  have fails := (check_nearestFirst { cyclic with defaults := [⟨"", "envs", "d"⟩] }).2.1
  refine ⟨⟨_, rfl, (closes.1 ⟨"", "envs", "b"⟩ (by decide)).2⟩, ?_⟩
  exact (fails _).mpr ⟨[], [], rfl, by decide, by simp⟩

end GroupDeclaration

end CrossBuild
