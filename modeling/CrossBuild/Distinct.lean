/-!
The distinct members of a list in the order of their first occurrence, and the breadth-first closure
of a list under a step that goes from a set of items to their successors.
-/

namespace CrossBuild

variable {α : Type} [DecidableEq α]

def distinct (items : List α) : List α := items.eraseDups

@[simp] theorem distinct_nil : distinct ([] : List α) = [] := rfl

theorem distinct_cons (first : α) (rest : List α) :
    distinct (first :: rest) = first :: distinct (rest.filter fun item => !item == first) :=
  List.eraseDups_cons

@[simp] theorem mem_distinct {item : α} {items : List α} :
    item ∈ distinct items ↔ item ∈ items :=
  List.mem_eraseDups

theorem nodup_distinct (items : List α) : (distinct items).Nodup := by
  generalize bound : items.length = count
  induction count using Nat.strongRecOn generalizing items with
  | ind count ih =>
      cases items with
      | nil => simp
      | cons first rest =>
          rw [distinct_cons, List.nodup_cons]
          refine ⟨by simp, ih _ ?_ _ rfl⟩
          have shorter := List.length_filter_le (fun item => !item == first) rest
          simp only [List.length_cons] at bound
          omega

def fresh (step : List α → List α) (seen frontier : List α) : List α :=
  distinct ((step frontier).filter fun item => item ∉ seen)

/-- Appends level after level of new successors to the items seen, for a number of levels. -/
def gather (step : List α → List α) : Nat → List α → List α → List α
  | 0, seen, _ => seen
  | levels + 1, seen, frontier =>
      gather step levels (seen ++ fresh step seen frontier) (fresh step seen frontier)

theorem gather_nodup (step : List α → List α) (levels : Nat) (seen frontier : List α)
    (apart : seen.Nodup) : (gather step levels seen frontier).Nodup := by
  induction levels generalizing seen frontier with
  | zero => exact apart
  | succ levels ih =>
      refine ih _ _ (List.nodup_append.mpr ⟨apart, nodup_distinct _, ?_⟩)
      intro old oldMember new newMember same
      subst same
      simp [fresh, oldMember] at newMember

end CrossBuild
