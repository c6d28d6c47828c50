import CrossBuild.Incompatibility
import Mathlib.Data.Finset.Card
import Mathlib.Data.List.Destutter

/-!
The summary of skipped targets depends only on their set.  Labels are totally ordered, so a set of
them has one ascending list, and a summary shows the front of that list and counts the rest.
-/

namespace CrossBuild

namespace Label

theorem order_eq_compareLex :
    order = compareLex (compareLex (compareOn repository) (compareOn package)) (compareOn name) :=
  rfl

instance : Std.TransCmp order := by
  rw [order_eq_compareLex]
  infer_instance

theorem order_swap (first second : Label) : order first second = (order second first).swap :=
  Std.OrientedCmp.eq_swap

theorem notAfter_trans (first second third : Label) (one : first.notAfter second = true)
    (two : second.notAfter third = true) : first.notAfter third = true :=
  Std.TransCmp.isLE_trans one two

theorem notAfter_total (first second : Label) :
    (first.notAfter second || second.notAfter first) = true := by
  rw [notAfter, notAfter, order_swap second first]
  cases order first second <;> rfl

theorem eq_of_notAfter {first second : Label} (one : first.notAfter second = true)
    (two : second.notAfter first = true) : first = second := by
  rw [notAfter, order_swap] at two
  rw [notAfter] at one
  rw [← order_eq_eq_iff]
  cases compared : order first second <;> simp_all

instance : Std.Antisymm fun first second : Label => first.notAfter second = true :=
  ⟨fun _ _ => eq_of_notAfter⟩

def Ascending (labels : List Label) : Prop :=
  labels.Pairwise fun first second => order first second = .lt

theorem pairwise_sorted (labels : List Label) :
    (sorted labels).Pairwise fun first second => first.notAfter second = true :=
  List.pairwise_mergeSort notAfter_trans notAfter_total labels

theorem mem_sorted_iff {label : Label} {labels : List Label} :
    label ∈ sorted labels ↔ label ∈ labels :=
  (List.mergeSort_perm labels notAfter).mem_iff

theorem nodup_sorted_distinct (labels : List Label) : (sorted (distinct labels)).Nodup :=
  (List.mergeSort_perm _ notAfter).nodup_iff.mpr (nodup_distinct labels)

theorem ascending_of_nodup {labels : List Label}
    (sorted : labels.Pairwise fun first second => first.notAfter second = true)
    (nodup : labels.Nodup) : Ascending labels := by
  refine (sorted.and nodup).imp ?_
  rintro first second ⟨before, differ⟩
  rw [notAfter] at before
  have apart : order first second ≠ .eq := fun same => differ ((order_eq_eq_iff _ _).mp same)
  cases compared : order first second <;> simp_all

theorem ascending_sorted_distinct (labels : List Label) : Ascending (sorted (distinct labels)) :=
  ascending_of_nodup (pairwise_sorted _) (nodup_sorted_distinct labels)

theorem Ascending.eq_of_same_members {labels others : List Label} (ascending : Ascending labels)
    (otherAscending : Ascending others) (same : ∀ label, label ∈ labels ↔ label ∈ others) :
    labels = others := by
  have differ : ∀ first second : Label, order first second = .lt → first ≠ second := by
    rintro first _ before rfl
    rw [(order_eq_eq_iff first first).mpr rfl] at before
    cases before
  have pairs : labels.Pairwise fun first second => order first second = .lt := ascending
  refine List.Perm.eq_of_pairwise ?_ pairs otherAscending ?_
  · intro first second _ _ before after
    rw [order_swap, before] at after
    cases after
  · rw [List.perm_ext_iff_of_nodup (ascending.imp (differ _ _)) (otherAscending.imp (differ _ _))]
    exact same

theorem sorted_distinct_of_ascending {labels others : List Label} (ascending : Ascending others)
    (same : ∀ label, label ∈ labels ↔ label ∈ others) : sorted (distinct labels) = others :=
  (ascending_sorted_distinct labels).eq_of_same_members ascending (by simp [mem_sorted_iff, same])

theorem destutter_sorted (labels : List Label) :
    (sorted labels).destutter (· ≠ ·) = sorted (distinct labels) := by
  -- In a sorted list equal labels are neighbours.
  rw [(pairwise_sorted labels).destutter_eq_dedup, eq_comm]
  refine sorted_distinct_of_ascending ?_ (by simp [mem_sorted_iff])
  exact ascending_of_nodup ((pairwise_sorted labels).sublist (List.dedup_sublist _))
    (List.nodup_dedup _)

end Label

/-- What a summary tells of a list of targets: the labels that it lists and the number of those
that it leaves out.  Up to ten are listed in full, and of more the nine smallest. -/
structure Summarizes (targets listed : List Label) (elided : Nat) : Prop where
  ascending : Label.Ascending listed
  subset : listed ⊆ targets
  smallest : ∀ label ∈ targets, label ∉ listed → ∀ shown ∈ listed, Label.order shown label = .lt
  complete : listed.length + elided = targets.toFinset.card
  elided_eq : elided = if targets.toFinset.card ≤ 10 then 0 else targets.toFinset.card - 9

def summaryText (listed : List Label) (elided : Nat) : String :=
  "Skipped " ++ toString (listed.length + elided) ++ " incompatible targets:\n" ++
    String.join (listed.map fun label => "  " ++ toString label ++ "\n") ++
    if elided = 0 then "" else "  ...and " ++ toString elided ++ " more\n"

theorem card_eq_length_sorted (targets : List Label) :
    targets.toFinset.card = (Label.sorted (distinct targets)).length := by
  rw [← List.toFinset_card_of_nodup (Label.nodup_sorted_distinct targets)]
  congr 1
  ext label
  simp [Label.mem_sorted_iff]

theorem exists_summary (targets : List Label) :
    ∃ listed elided, Summarizes targets listed elided ∧
      listed <+: (Label.sorted targets).destutter (· ≠ ·) ∧
      skippingMessage targets = summaryText listed elided := by
  have card := card_eq_length_sorted targets
  have ascending := Label.ascending_sorted_distinct targets
  have members : ∀ label, label ∈ Label.sorted (distinct targets) ↔ label ∈ targets := by
    simp [Label.mem_sorted_iff]
  rw [Label.destutter_sorted]
  unfold skippingMessage skippedTargetsListed
  generalize Label.sorted (distinct targets) = labels at card ascending members ⊢
  dsimp only
  generalize shownEq : (if 10 < labels.length then 10 - 1 else labels.length) = shown
  have within : shown ≤ labels.length := by split at shownEq <;> omega
  have length : (labels.take shown).length = shown := List.length_take_of_le within
  refine ⟨labels.take shown, labels.length - shown, ⟨?_, ?_, ?_, ?_, ?_⟩, List.take_prefix _ _, ?_⟩
  · exact ascending.sublist (List.take_sublist _ _)
  · exact fun label member => (members label).mp (List.mem_of_mem_take member)
  · intro label target unlisted first member
    have listed := (members label).mpr target
    rw [Label.Ascending, ← List.take_append_drop shown labels, List.pairwise_append] at ascending
    rw [← List.take_append_drop shown labels, List.mem_append] at listed
    exact ascending.2.2 first member label (listed.resolve_left unlisted)
  · omega
  · rw [card]
    split at shownEq <;> split <;> omega
  · rw [summaryText, length, Nat.add_sub_cancel' within]

/-- The summary of skipped targets is that of their set: it names the number of distinct targets
and lists the smallest of them in ascending order, one on a line.  Repetitions are neighbours once
the targets are sorted. -/
theorem skippingMessage_summarizes (targets : List Label) :
    (∃ listed elided, Summarizes targets listed elided ∧
      listed <+: (Label.sorted targets).destutter (· ≠ ·) ∧
      skippingMessage targets = "Skipped " ++ toString targets.toFinset.card ++
        " incompatible targets:\n" ++
        String.join (listed.map fun label => "  " ++ toString label ++ "\n") ++
        if elided = 0 then "" else "  ...and " ++ toString elided ++ " more\n") ∧
    ∀ others, (∀ label, label ∈ targets ↔ label ∈ others) →
      skippingMessage targets = skippingMessage others := by
  constructor
  · obtain ⟨listed, elided, summarizes, front, text⟩ := exists_summary targets
    refine ⟨listed, elided, summarizes, front, ?_⟩
    rw [text, summaryText, summarizes.complete]
  · intro others same
    have sorted : Label.sorted (distinct targets) = Label.sorted (distinct others) :=
      Label.sorted_distinct_of_ascending (Label.ascending_sorted_distinct others)
        (by simp [Label.mem_sorted_iff, same])
    rw [skippingMessage, skippingMessage, sorted]

def twelve : List Label :=
  ["0", "1", "10", "11", "2", "3", "4", "5", "6", "7", "8", "9"].map fun number =>
    ⟨"", "foo", number⟩

theorem skippingMessage_summarizes_twelve :
    (∀ label, label ∈ twelve ↔ label ∈ twelve.reverse ++ twelve) ∧
      skippingMessage (twelve.reverse ++ twelve) =
        "Skipped 12 incompatible targets:\n  //foo:0\n  //foo:1\n  //foo:10\n  //foo:11\n" ++
          "  //foo:2\n  //foo:3\n  //foo:4\n  //foo:5\n  //foo:6\n  ...and 3 more\n" := by
  have same : ∀ label, label ∈ twelve ↔ label ∈ twelve.reverse ++ twelve := by simp
  have sorted : Label.sorted (distinct twelve) = twelve :=
    Label.sorted_distinct_of_ascending (by unfold Label.Ascending; decide +kernel) (by simp)
  refine ⟨same, ?_⟩
  rw [← (skippingMessage_summarizes twelve).2 _ same, skippingMessage, sorted]
  decide +kernel

end CrossBuild
