import CrossBuild.Proofs.FirstOccurrence

/-!
The last item of a list that has a property.  In a map that is put together from left to right, the
last pair of a key decides its value.
-/

namespace CrossBuild

section IsLast

variable {α : Type} {holds : α → Prop} {items : List α} {item last : α}

def IsLast (holds : α → Prop) (items : List α) (item : α) : Prop :=
  ∃ before after, items = before ++ item :: after ∧ holds item ∧ ∀ later ∈ after, ¬holds later

theorem isLast_concat_of_holds (held : holds last) :
    IsLast holds (items ++ [last]) item ↔ item = last := by
  constructor
  · rintro ⟨before, after, split, _, silent⟩
    obtain rfl | ⟨front, final, rfl⟩ := List.eq_nil_or_concat after
    · have same := List.append_inj' split rfl
      simp only [List.cons.injEq] at same
      exact same.2.1.symm
    · have regrouped : items ++ [last] = (before ++ item :: front) ++ [final] := by
        simp [split]
      have same : last = final := by
        simpa using (List.append_inj' regrouped rfl).2
      subst same
      exact absurd held (silent last (by simp))
  · rintro rfl
    exact ⟨items, [], rfl, held, by simp⟩

theorem isLast_concat_of_not_holds (missed : ¬holds last) :
    IsLast holds (items ++ [last]) item ↔ IsLast holds items item := by
  constructor
  · rintro ⟨before, after, split, held, silent⟩
    obtain rfl | ⟨front, final, rfl⟩ := List.eq_nil_or_concat after
    · have same : last = item := by
        simpa using (List.append_inj' split rfl).2
      exact absurd held (same ▸ missed)
    · have regrouped : items ++ [last] = (before ++ item :: front) ++ [final] := by
        simp [split]
      have same := (List.append_inj' regrouped rfl).1
      exact ⟨before, front, same, held, fun later member => silent later (by simp [member])⟩
  · rintro ⟨before, after, rfl, held, silent⟩
    refine ⟨before, after ++ [last], by simp, held, ?_⟩
    intro later member
    rcases List.mem_append.mp member with earlier | final
    · exact silent later earlier
    · rw [List.mem_singleton] at final
      exact final ▸ missed

theorem isLast_map {β : Type} {change : β → α} {others : List β} :
    IsLast holds (others.map change) item ↔
      ∃ other, change other = item ∧ IsLast (fun other => holds (change other)) others other := by
  constructor
  · rintro ⟨before, after, split, held, silent⟩
    obtain ⟨front, rest, rfl, rfl, remaining⟩ := List.map_eq_append_iff.mp split
    obtain ⟨other, back, rfl, rfl, rfl⟩ := List.map_eq_cons_iff.mp remaining
    exact ⟨other, rfl, front, back, rfl, held, by simpa using silent⟩
  · rintro ⟨other, rfl, before, after, rfl, held, silent⟩
    exact ⟨before.map change, after.map change, by simp, held, by simpa using silent⟩

end IsLast

namespace OrderedMap

variable {κ ν : Type} [DecidableEq κ]

theorem get?_ofList_eq_some_iff (pairs : List (κ × ν)) (key : κ) (value : ν) :
    (ofList pairs).get? key = some value ↔
      IsLast (fun pair => pair.1 = key) pairs (key, value) := by
  induction pairs using List.reverseRecOn with
  | nil => simp [ofList, IsLast]
  | append_singleton pairs last ih =>
      rw [ofList_concat, get?_insert]
      by_cases own : last.1 = key
      · have decided : IsLast (fun pair => pair.1 = key) (pairs ++ [last]) (key, value) ↔
            (key, value) = last := isLast_concat_of_holds own
        subst own
        rw [decided, if_pos rfl, Option.some.injEq]
        constructor
        · rintro rfl
          rfl
        · intro same
          rw [← same]
      · have kept : IsLast (fun pair => pair.1 = key) (pairs ++ [last]) (key, value) ↔
            IsLast (fun pair => pair.1 = key) pairs (key, value) := isLast_concat_of_not_holds own
        have other : ¬key = last.1 := fun same => own same.symm
        rw [kept, if_neg other, ih]

end OrderedMap

end CrossBuild
