import CrossBuild.Incompatibility
import Mathlib.Data.List.Chain
import Mathlib.Data.List.Duplicate
import Mathlib.Data.List.Perm.Subperm
import Mathlib.Logic.Relation

/-!
Chains of culprits in a table.  A chain leads to the root cause unless its target runs into a cycle,
and then it is cut when it has become longer than the table.
-/

namespace CrossBuild.IncompatibilityTable

variable (table : IncompatibilityTable)

def Blames (earlier later : Label) : Prop :=
  ∃ entry, OrderedMap.get? table earlier = some entry ∧ entry.culprit? = some later

def IsRoot (entry : Incompatibility) : Prop :=
  ∀ culprit, entry.culprit? = some culprit → OrderedMap.get? table culprit = none

/-- Culprits with entries that lead from a target to the entry of the last one. -/
inductive Trail : Label → List Label → Incompatibility → Prop
  | stop {label : Label} {entry : Incompatibility}
      (found : OrderedMap.get? table label = some entry) : Trail label [] entry
  | onward {label culprit : Label} {culprits : List Label} {entry cause : Incompatibility}
      (found : OrderedMap.get? table label = some entry) (blamed : entry.culprit? = some culprit)
      (rest : Trail culprit culprits cause) : Trail label (culprit :: culprits) cause

variable {table} {label : Label} {culprits : List Label} {entry cause : Incompatibility}

theorem next?_eq_none_iff : next? table entry = none ↔ IsRoot table entry := by
  unfold next? IsRoot
  cases entry.culprit? <;> simp

theorem next?_eq_some_iff {culprit : Label} :
    next? table entry = some (culprit, cause) ↔
      entry.culprit? = some culprit ∧ OrderedMap.get? table culprit = some cause := by
  unfold next?
  cases entry.culprit? with
  | none => simp
  | some blamed =>
      simp only [Option.bind_some, Option.map_eq_some_iff, Prod.mk.injEq, Option.some.injEq]
      constructor
      · rintro ⟨found, known, rfl, rfl⟩
        exact ⟨rfl, known⟩
      · rintro ⟨rfl, known⟩
        exact ⟨cause, known, rfl, rfl⟩

theorem trail_follow (steps : Nat) (found : OrderedMap.get? table label = some entry) :
    Trail table label (follow table steps entry).1 (follow table steps entry).2 := by
  induction steps generalizing label entry with
  | zero => exact .stop found
  | succ steps ih =>
      rw [follow]
      split
      next => exact .stop found
      next culprit cause next =>
        obtain ⟨blamed, known⟩ := next?_eq_some_iff.mp next
        exact .onward found blamed (ih known)

variable (table) in
theorem isRoot_or_length_follow (steps : Nat) (entry : Incompatibility) :
    IsRoot table (follow table steps entry).2 ∨ (follow table steps entry).1.length = steps := by
  induction steps generalizing entry with
  | zero => exact .inr rfl
  | succ steps ih =>
      rw [follow]
      split
      next stuck => exact .inl (next?_eq_none_iff.mp stuck)
      next culprit cause next =>
        obtain root | cut := ih cause
        · exact .inl root
        · exact .inr (congrArg (· + 1) cut)

namespace Trail

theorem exists_entry (trail : Trail table label culprits cause) :
    ∃ entry, OrderedMap.get? table label = some entry := by
  cases trail with
  | stop found | onward found => exact ⟨_, found⟩

theorem exists_entry_of_mem (trail : Trail table label culprits cause) :
    ∀ target ∈ label :: culprits, ∃ entry, OrderedMap.get? table target = some entry := by
  induction trail with
  | stop found => simp [found]
  | onward found blamed rest ih => exact List.forall_mem_cons.mpr ⟨⟨_, found⟩, ih⟩

theorem isChain (trail : Trail table label culprits cause) :
    (label :: culprits).IsChain (Blames table) := by
  induction trail with
  | stop found => exact .singleton _
  | onward found blamed rest ih => exact .cons_cons ⟨_, found, blamed⟩ ih

theorem get?_leaf (trail : Trail table label culprits cause) :
    OrderedMap.get? table (culprits.getLast?.getD label) = some cause := by
  induction trail with
  | stop found => exact found
  | onward found blamed rest ih => rwa [List.getLast?_cons, Option.getD_some]

theorem of_append {before after : List Label} {target : Label}
    (trail : Trail table label (before ++ target :: after) cause) :
    Trail table target after cause := by
  induction before generalizing label with
  | nil =>
      cases trail with
      | onward found blamed rest => exact rest
  | cons first before ih =>
      cases trail with
      | onward found blamed rest => exact ih rest

theorem unique {others : List Label} {otherCause : Incompatibility}
    (trail : Trail table label culprits cause) (root : IsRoot table cause)
    (other : Trail table label others otherCause) (otherRoot : IsRoot table otherCause) :
    culprits = others := by
  induction trail generalizing others with
  | stop found =>
      cases other with
      | stop => rfl
      | onward same blamed rest =>
          cases found.symm.trans same
          obtain ⟨_, known⟩ := rest.exists_entry
          cases (root _ blamed).symm.trans known
  | onward found blamed rest ih =>
      cases other with
      | stop same =>
          cases found.symm.trans same
          obtain ⟨_, known⟩ := rest.exists_entry
          cases (otherRoot _ blamed).symm.trans known
      | onward same otherBlamed otherRest =>
          cases found.symm.trans same
          cases blamed.symm.trans otherBlamed
          rw [ih root otherRest]

/-- A target that came back would lead to the root in two numbers of steps. -/
theorem nodup_of_isRoot (trail : Trail table label culprits cause) (root : IsRoot table cause) :
    (label :: culprits).Nodup := by
  induction trail with
  | stop found => simp
  | @onward label culprit culprits entry cause found blamed rest ih =>
      rw [List.nodup_cons]
      refine ⟨?_, ih root⟩
      intro again
      obtain ⟨before, after, split⟩ := List.append_of_mem again
      have whole : Trail table label (culprit :: culprits) cause := .onward found blamed rest
      have shorter : Trail table label after cause := by
        rw [split] at whole
        exact whole.of_append
      have same := whole.unique root shorter root
      have lengths := congrArg List.length split
      rw [same, List.length_append, List.length_cons] at lengths
      omega

theorem length_le_size (trail : Trail table label culprits cause)
    (nodup : (label :: culprits).Nodup) :
    (label :: culprits).length ≤ OrderedMap.size table := by
  have listed : label :: culprits ⊆ OrderedMap.keys table := by
    intro target member
    obtain ⟨entry, known⟩ := trail.exists_entry_of_mem target member
    exact OrderedMap.mem_keys_of_get? known
  rw [← OrderedMap.length_keys]
  exact (List.subperm_of_subset nodup listed).length_le

/-- A trail that is as long as the table has room for one target more than the table lists. -/
theorem nodup_iff_isRoot (trail : Trail table label culprits cause)
    (stops : IsRoot table cause ∨ culprits.length = OrderedMap.size table) :
    (label :: culprits).Nodup ↔ IsRoot table cause := by
  constructor
  · intro nodup
    have short := trail.length_le_size nodup
    rw [List.length_cons] at short
    obtain root | cut := stops
    · exact root
    · omega
  · exact trail.nodup_of_isRoot

theorem exists_cycle (trail : Trail table label culprits cause)
    (repeats : ¬(label :: culprits).Nodup) :
    ∃ target, Relation.ReflTransGen (Blames table) label target ∧
      Relation.TransGen (Blames table) target target := by
  obtain ⟨target, duplicate⟩ := List.exists_duplicate_iff_not_nodup.mpr repeats
  have later : (label :: culprits).Pairwise (Relation.TransGen (Blames table)) :=
    (trail.isChain.imp fun _ _ => .single).pairwise
  have returns : [target, target].Pairwise (Relation.TransGen (Blames table)) :=
    later.sublist (List.duplicate_iff_sublist.mp duplicate)
  refine ⟨target, ?_, (List.pairwise_pair.mp returns)⟩
  obtain rfl | behind := List.mem_cons.mp duplicate.mem
  · exact .refl
  · exact ((List.pairwise_cons.mp later).1 target behind).to_reflTransGen

end Trail

/-- How a chain accounts for its target. -/
structure Explains (table : IncompatibilityTable) (target : Label) (chain : IncompatibilityChain) :
    Prop where
  starts : chain.targets.head? = some target
  chained : chain.targets.IsChain (Blames table)
  listed : ∀ label ∈ chain.targets, ∃ entry, OrderedMap.get? table label = some entry
  ends : chain.targets.getLast? = some chain.leaf
  cause : OrderedMap.get? table chain.leaf = some chain.rootCause
  complete_iff : chain.targets.Nodup ↔ IsRoot table chain.rootCause
  short_of_complete : chain.targets.Nodup → chain.size ≤ OrderedMap.size table
  cyclic_of_cut : ¬ chain.targets.Nodup →
    chain.size = OrderedMap.size table + 1 ∧
    ∃ label, Relation.ReflTransGen (Blames table) target label ∧
      Relation.TransGen (Blames table) label label

/-- A chain whose targets are distinct leads to the root cause.  Any other chain comes from a cycle
and is one longer than the table. -/
theorem chain?_explains (table : IncompatibilityTable) (target : Label) :
    (table.chain? target = none ↔ OrderedMap.get? table target = none) ∧
      ∀ chain, table.chain? target = some chain → Explains table target chain := by
  refine ⟨by simp [chain?], ?_⟩
  intro chain walked
  obtain ⟨entry, found, rfl⟩ := Option.map_eq_some_iff.mp walked
  have trail := trail_follow (OrderedMap.size table) found
  have stops := isRoot_or_length_follow table (OrderedMap.size table) entry
  generalize follow table (OrderedMap.size table) entry = walk at trail stops
  have complete := trail.nodup_iff_isRoot stops
  have cyclic (repeats : ¬(target :: walk.1).Nodup) :
      (target :: walk.1).length = OrderedMap.size table + 1 ∧
      ∃ label, Relation.ReflTransGen (Blames table) target label ∧
        Relation.TransGen (Blames table) label label := by
    obtain root | cut := stops
    · exact absurd (complete.mpr root) repeats
    · exact ⟨congrArg (· + 1) cut, trail.exists_cycle repeats⟩
  exact {
    starts := rfl
    chained := trail.isChain
    listed := trail.exists_entry_of_mem
    ends := List.getLast?_cons
    cause := trail.get?_leaf
    complete_iff := complete
    short_of_complete := trail.length_le_size
    cyclic_of_cut := cyclic }

def tangled : IncompatibilityTable := .ofList
  [(⟨"", "a", "a"⟩, .dependency ⟨"", "platforms", "mac"⟩ ⟨"", "b", "b"⟩),
    (⟨"", "b", "b"⟩, .dependency ⟨"", "platforms", "mac"⟩ ⟨"", "a", "a"⟩),
    (⟨"", "c", "c"⟩, .dependency ⟨"", "platforms", "mac"⟩ ⟨"", "d", "d"⟩),
    (⟨"", "d", "d"⟩, .unsatisfied ⟨"", "platforms", "mac"⟩
      [⟨⟨"", "os", "linux"⟩, ⟨⟨"", "os", "os"⟩⟩⟩])]

theorem chain?_explains_tangled :
    (∃ chain, tangled.chain? ⟨"", "c", "c"⟩ = some chain ∧ chain.size = 2 ∧
      IsRoot tangled chain.rootCause) ∧
    ∃ chain, tangled.chain? ⟨"", "a", "a"⟩ = some chain ∧
      chain.size = OrderedMap.size tangled + 1 ∧
      ∃ label, Relation.TransGen (Blames tangled) label label := by
  have explains := (chain?_explains tangled ⟨"", "c", "c"⟩).2 _ rfl
  have cut := (chain?_explains tangled ⟨"", "a", "a"⟩).2 _ rfl
  obtain ⟨size, label, _, cycle⟩ := cut.cyclic_of_cut (by decide)
  exact ⟨⟨_, rfl, rfl, explains.complete_iff.mp (by decide)⟩, _, rfl, size, label, cycle⟩

end CrossBuild.IncompatibilityTable
