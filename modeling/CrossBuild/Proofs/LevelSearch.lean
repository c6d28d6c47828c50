import CrossBuild.Distinct
import Mathlib.Data.List.Perm.Subperm
import Mathlib.Data.Nat.Find
import Mathlib.Order.Bounds.Basic

/-!
Searches level by level.  They find what can be reached from a start, nearest items first, and they
find it in the order in which a queue of single items would.
-/

namespace CrossBuild

variable {α : Type} (successors : α → List α) (start : α)

inductive Walk : Nat → α → Prop
  | here : Walk 0 start
  | onward {steps : Nat} {item later : α} (walk : Walk steps item)
      (next : later ∈ successors item) : Walk (steps + 1) later

/-- No walk to the item is shorter. -/
def AtDistance (steps : Nat) (item : α) : Prop :=
  IsLeast {steps | Walk successors start steps item} steps

def spread (items : List α) : List α := items.flatMap successors

variable {successors start} {steps : Nat} {item : α}

theorem exists_atDistance (walk : Walk successors start steps item) :
    ∃ near ≤ steps, AtDistance successors start near item := by
  classical
  have reached : ∃ steps, Walk successors start steps item := ⟨steps, walk⟩
  exact ⟨Nat.find reached, Nat.find_min' reached walk, Nat.find_spec reached,
    fun _ other => Nat.find_min' reached other⟩

theorem atDistance_zero_iff : AtDistance successors start 0 item ↔ item = start := by
  constructor
  · rintro ⟨walk, _⟩
    cases walk
    rfl
  · rintro rfl
    exact ⟨.here, fun _ _ => Nat.zero_le _⟩

theorem exists_before (distant : AtDistance successors start (steps + 1) item) :
    ∃ before, AtDistance successors start steps before ∧ item ∈ successors before := by
  obtain ⟨walk, least⟩ := distant
  cases walk with
  | @onward _ before _ walk next =>
      refine ⟨before, ⟨walk, ?_⟩, next⟩
      intro shorter shortcut
      have bound := least (Walk.onward shortcut next)
      omega

section Members

variable {members : List α} (inside : start ∈ members)
  (closed : ∀ item ∈ members, ∀ later ∈ successors item, later ∈ members)

include inside closed

theorem exists_trail (distant : AtDistance successors start steps item) :
    ∃ trail : List α, trail.length = steps + 1 ∧ trail.Nodup ∧ item ∈ trail ∧
      ∀ passed ∈ trail, passed ∈ members ∧
        ∃ near ≤ steps, AtDistance successors start near passed := by
  induction steps generalizing item with
  | zero =>
      refine ⟨[item], rfl, by simp, by simp, ?_⟩
      rw [List.forall_mem_singleton, atDistance_zero_iff.mp distant]
      exact ⟨inside, 0, Nat.le_refl 0, atDistance_zero_iff.mpr rfl⟩
  | succ steps ih =>
      obtain ⟨before, nearer, next⟩ := exists_before distant
      obtain ⟨trail, length, nodup, beforeMember, known⟩ := ih nearer
      have new : item ∉ trail := by
        intro member
        obtain ⟨_, near, bound, again⟩ := known item member
        have same := again.unique distant
        omega
      have itemInside := closed before (known before beforeMember).1 item next
      refine ⟨item :: trail, by simp [length], List.nodup_cons.mpr ⟨new, nodup⟩, by simp, ?_⟩
      rw [List.forall_mem_cons]
      refine ⟨⟨itemInside, _, Nat.le_refl _, distant⟩, ?_⟩
      intro passed member
      obtain ⟨inside, near, bound, nearDistance⟩ := known passed member
      exact ⟨inside, near, by omega, nearDistance⟩

theorem lt_length_of_atDistance (distant : AtDistance successors start steps item) :
    steps < members.length := by
  obtain ⟨trail, length, nodup, _, known⟩ := exists_trail inside closed distant
  have subset : trail ⊆ members := fun passed member => (known passed member).1
  have fits := (List.subperm_of_subset nodup subset).length_le
  omega

end Members

variable (successors start) in
/-- What a search has seen after a number of levels. -/
structure Surveyed (steps : Nat) (seen frontier : List α) : Prop where
  mem_frontier : ∀ item, item ∈ frontier ↔ AtDistance successors start steps item
  mem_seen : ∀ item, item ∈ seen ↔
    ∃ near, 0 < near ∧ near ≤ steps ∧ AtDistance successors start near item
  ordered : seen.Pairwise fun item later => ∀ near far,
    AtDistance successors start near item → AtDistance successors start far later → near ≤ far

theorem surveyed_zero : Surveyed successors start 0 [] [start] where
  mem_frontier item := by rw [List.mem_singleton, atDistance_zero_iff]
  mem_seen item := by
    constructor
    · intro impossible
      cases impossible
    · rintro ⟨near, positive, bound, _⟩
      omega
  ordered := .nil

variable {seen frontier : List α}

theorem Surveyed.frontier_eq_nil {members : List α} (inside : start ∈ members)
    (closed : ∀ item ∈ members, ∀ later ∈ successors item, later ∈ members)
    (surveyed : Surveyed successors start steps seen frontier)
    (far : members.length ≤ steps) : frontier = [] := by
  rw [List.eq_nil_iff_forall_not_mem]
  intro item member
  have distant := (surveyed.mem_frontier item).mp member
  have bound := lt_length_of_atDistance inside closed distant
  omega

variable [DecidableEq α]

theorem mem_fresh_iff {step : List α → List α} :
    item ∈ fresh step seen frontier ↔ item ∈ step frontier ∧ item ∉ seen := by
  simp [fresh]

theorem gather_of_fresh_eq_nil (dry : fresh (spread successors) seen frontier = [])
    (levels : Nat) : gather (spread successors) levels seen frontier = seen := by
  induction levels generalizing frontier with
  | zero => rfl
  | succ levels ih =>
      rw [gather, dry, List.append_nil]
      exact ih rfl

namespace Surveyed

theorem mem_fresh (surveyed : Surveyed successors start steps seen frontier)
    (apart : ∀ item, start ∉ successors item) (item : α) :
    item ∈ fresh (spread successors) seen frontier ↔
      AtDistance successors start (steps + 1) item := by
  rw [mem_fresh_iff, spread, List.mem_flatMap, surveyed.mem_seen]
  constructor
  · rintro ⟨⟨before, member, next⟩, unseen⟩
    have walk := (surveyed.mem_frontier before).mp member
    refine ⟨.onward walk.1 next, ?_⟩
    intro shorter shortcut
    by_contra bound
    obtain ⟨near, nearBound, nearest⟩ := exists_atDistance shortcut
    cases near with
    | zero =>
        rw [atDistance_zero_iff.mp nearest] at next
        exact apart before next
    | succ near => exact unseen ⟨near + 1, by omega, by omega, nearest⟩
  · intro distant
    obtain ⟨before, nearer, next⟩ := exists_before distant
    refine ⟨⟨before, (surveyed.mem_frontier before).mpr nearer, next⟩, ?_⟩
    rintro ⟨near, _, bound, again⟩
    have same := again.unique distant
    omega

theorem advance (surveyed : Surveyed successors start steps seen frontier)
    (apart : ∀ item, start ∉ successors item) :
    Surveyed successors start (steps + 1) (seen ++ fresh (spread successors) seen frontier)
      (fresh (spread successors) seen frontier) where
  mem_frontier := surveyed.mem_fresh apart
  mem_seen item := by
    rw [List.mem_append, surveyed.mem_fresh apart, surveyed.mem_seen]
    constructor
    · rintro (⟨near, positive, bound, nearest⟩ | distant)
      · exact ⟨near, positive, by omega, nearest⟩
      · exact ⟨steps + 1, by omega, Nat.le_refl _, distant⟩
    · rintro ⟨near, positive, bound, nearest⟩
      by_cases last : near = steps + 1
      · subst last
        exact .inr nearest
      · exact .inl ⟨near, positive, by omega, nearest⟩
  ordered := by
    rw [List.pairwise_append]
    refine ⟨surveyed.ordered, ?_, ?_⟩
    · rw [List.pairwise_iff_forall_sublist]
      intro item later pair near far nearest farthest
      have itemMember := (surveyed.mem_fresh apart item).mp (pair.subset (by simp))
      have laterMember := (surveyed.mem_fresh apart later).mp (pair.subset (by simp))
      rw [nearest.unique itemMember, farthest.unique laterMember]
    · intro item member later new near far nearest farthest
      obtain ⟨known, _, bound, knownDistance⟩ := (surveyed.mem_seen item).mp member
      have newDistance := (surveyed.mem_fresh apart later).mp new
      rw [nearest.unique knownDistance, farthest.unique newDistance]
      omega

theorem exists_gather (surveyed : Surveyed successors start steps seen frontier)
    (apart : ∀ item, start ∉ successors item) (levels : Nat) :
    ∃ rest, Surveyed successors start (steps + levels)
      (gather (spread successors) levels seen frontier) rest := by
  induction levels generalizing steps seen frontier with
  | zero => exact ⟨frontier, surveyed⟩
  | succ levels ih =>
      rw [gather, Nat.add_comm levels, ← Nat.add_assoc]
      exact ih (surveyed.advance apart)

end Surveyed

variable (successors) in
/-- Items are taken from the front of a queue, one after the other.  What is new among an item's
successors joins the items seen and the end of the queue.  The search ends with the queue. -/
inductive Drains : List α → List α → List α → Prop
  | stop (seen : List α) : Drains seen [] seen
  | take {seen queue result : List α} {item : α}
      (rest : Drains (seen ++ fresh (spread successors) seen [item])
        (queue ++ fresh (spread successors) seen [item]) result) :
      Drains seen (item :: queue) result

theorem fresh_cons (seen frontier : List α) (item : α) :
    fresh (spread successors) seen (item :: frontier) =
      fresh (spread successors) seen [item] ++
        fresh (spread successors) (seen ++ fresh (spread successors) seen [item]) frontier := by
  have split : spread successors (item :: frontier) =
      spread successors [item] ++ spread successors frontier := by
    simp [spread]
  rw [fresh, split, List.filter_append, distinct, List.eraseDups_append, List.removeAll,
    List.filter_filter]
  congr 2
  apply List.filter_congr
  intro later _
  by_cases known : later ∈ seen <;> simp [known, mem_fresh_iff]

/-- A queue works off a whole level before it comes to the next one. -/
theorem drains_of_level {queue result : List α}
    (rest : Drains successors (seen ++ fresh (spread successors) seen frontier)
      (queue ++ fresh (spread successors) seen frontier) result) :
    Drains successors seen (frontier ++ queue) result := by
  -- What the first item leads to waits behind the rest of the level and its successors.
  induction frontier generalizing seen queue with
  | nil => simpa [fresh, spread] using rest
  | cons item frontier ih =>
      rw [fresh_cons, ← List.append_assoc, ← List.append_assoc] at rest
      have later := ih rest
      rw [← List.append_assoc] at later
      exact .take later

section Exhausted

variable {members : List α} (apart : ∀ item, start ∉ successors item) (inside : start ∈ members)
  (closed : ∀ item ∈ members, ∀ later ∈ successors item, later ∈ members)

include apart inside closed

theorem drains_of_surveyed (surveyed : Surveyed successors start steps seen frontier)
    {levels : Nat} (enough : members.length ≤ steps + levels) :
    Drains successors seen frontier (gather (spread successors) levels seen frontier) := by
  induction levels generalizing steps seen frontier with
  | zero =>
      rw [surveyed.frontier_eq_nil inside closed enough]
      exact .stop seen
  | succ levels ih =>
      have rest := ih (surveyed.advance apart) (by omega)
      have level : Drains successors seen (frontier ++ []) _ := drains_of_level rest
      rwa [List.append_nil] at level

theorem mem_gather_iff (item : α) :
    item ∈ gather (spread successors) members.length [] [start] ↔
      ∃ steps, 0 < steps ∧ Walk successors start steps item := by
  obtain ⟨_, surveyed⟩ := surveyed_zero.exists_gather apart members.length
  rw [surveyed.mem_seen]
  constructor
  · rintro ⟨near, positive, _, nearest⟩
    exact ⟨near, positive, nearest.1⟩
  · rintro ⟨steps, positive, walk⟩
    obtain ⟨near, bound, nearest⟩ := exists_atDistance walk
    refine ⟨near, ?_, ?_, nearest⟩
    · -- A shortest walk of no steps stays at the start, which nothing leads back to.
      by_contra zero
      obtain rfl : near = 0 := by omega
      cases walk with
      | here => omega
      | onward walk next =>
          rw [atDistance_zero_iff.mp nearest] at next
          exact apart _ next
    · have small := lt_length_of_atDistance inside closed nearest
      omega

end Exhausted

end CrossBuild
