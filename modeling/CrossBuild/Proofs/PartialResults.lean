import CrossBuild.Eval
import Mathlib.Data.List.Forall2

/-!
Computations that may fail, and functions that do not have a value everywhere.
-/

namespace CrossBuild

section Succeeding

variable {ε α β : Type}

theorem bind_eq_ok_iff {first : Except ε α} {next : α → Except ε β} {result : β} :
    first >>= next = .ok result ↔ ∃ value, first = .ok value ∧ next value = .ok result := by
  cases first with
  | error failure =>
      constructor
      · intro succeeds
        cases succeeds
      · rintro ⟨_, impossible, -⟩
        cases impossible
  | ok value =>
      constructor
      · exact fun succeeds => ⟨value, rfl, succeeds⟩
      · rintro ⟨_, same, succeeds⟩
        cases same
        exact succeeds

theorem exists_of_bind {first : Except ε α} {next : α → Except ε β} {result : β}
    (succeeds : first >>= next = .ok result) :
    ∃ value, first = .ok value ∧ next value = .ok result := bind_eq_ok_iff.mp succeeds

theorem mapError_eq_ok_iff {ε' : Type} {found : Except ε α} {change : ε → ε'} {value : α} :
    found.mapError change = .ok value ↔ found = .ok value := by
  cases found with
  | ok held => simp [Except.mapError]
  | error failure => constructor <;> intro impossible <;> cases impossible

theorem mapM_eq_ok_map {step : α → Except ε β} {value : α → β} {items : List α}
    (each : ∀ item ∈ items, step item = .ok (value item)) :
    items.mapM step = .ok (items.map value) := by
  induction items with
  | nil => rfl
  | cons item rest ih =>
      rw [List.mapM_cons, each item List.mem_cons_self,
        ih fun other member => each other (List.mem_cons_of_mem _ member)]
      rfl

end Succeeding

open scoped Classical in
theorem forall₂_filterMap {α β : Type} {relates : α → β → Prop} {value? : α → Option β}
    {items : List α}
    (exact : ∀ item ∈ items, ∀ value, value? item = some value ↔ relates item value) :
    List.Forall₂ relates (items.filter fun item => ∃ value, relates item value)
      (items.filterMap value?) := by
  induction items with
  | nil => exact .nil
  | cons item rest ih =>
      rw [List.forall_mem_cons] at exact
      obtain ⟨own, others⟩ := exact
      cases held : value? item with
      | none =>
          have unrelated : ¬ ∃ value, relates item value := by
            rintro ⟨value, related⟩
            rw [(own value).mpr related] at held
            cases held
          rw [List.filter_cons_of_neg (by simpa using unrelated), List.filterMap_cons_none held]
          exact ih others
      | some value =>
          have related := (own value).mp held
          rw [List.filter_cons_of_pos (by simpa using ⟨value, related⟩),
            List.filterMap_cons_some held]
          exact .cons related (ih others)

namespace Eval

variable {α β : Type}

theorem joinPair_eq_ok_iff {first : Eval α} {second : Eval β} {values : α × β} :
    joinPair first second = .ok values ↔ first = .ok values.1 ∧ second = .ok values.2 := by
  rcases values with ⟨left, right⟩
  rcases first with (_ | _) | _ <;> rcases second with (_ | _) | _ <;> simp [joinPair]

theorem joinPair_eq_notReady_iff {first : Eval α} {second : Eval β} :
    joinPair first second = .error .notReady ↔
      (first = .error .notReady ∧ ∀ failure, second ≠ .error (.failed failure)) ∨
      (second = .error .notReady ∧ ∀ failure, first ≠ .error (.failed failure)) := by
  rcases first with (_ | _) | _ <;> rcases second with (_ | _) | _ <;> simp [joinPair]

theorem joinPair_eq_failed_iff {first : Eval α} {second : Eval β} {failure : Failure} :
    joinPair first second = .error (.failed failure) ↔
      first = .error (.failed failure) ∨
      (second = .error (.failed failure) ∧ ∀ earlier, first ≠ .error (.failed earlier)) := by
  rcases first with (_ | _) | _ <;> rcases second with (_ | _) | _ <;> simp [joinPair]

end Eval

end CrossBuild
