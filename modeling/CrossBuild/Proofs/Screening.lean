import CrossBuild.Resolution.Candidates

/-!
Screening of the candidates, told by what each candidate lacks.  Only the candidates ahead of the
first one that is no platform are looked at.
-/

namespace CrossBuild

namespace ConstraintCollection

def single (value : ConstraintValue) : ConstraintCollection := ⟨[value], by simp⟩

theorem has_iff_mem (collection : ConstraintCollection) (value : ConstraintValue) :
    collection.has value = true ↔ value ∈ collection.values := by
  rw [has, decide_eq_true_iff]
  constructor
  · exact List.mem_of_find?_eq_some
  · intro member
    have unique := collection.nodup_settings
    unfold get?
    generalize collection.values = values at member unique
    induction values with
    | nil => simp at member
    | cons first rest ih =>
        rw [List.map_cons, List.nodup_cons] at unique
        rcases List.mem_cons.mp member with rfl | later
        · simp
        · have apart : ¬first.setting = value.setting := fun same =>
            unique.1 (List.mem_map.mpr ⟨value, later, same.symm⟩)
          rw [List.find?_cons_of_neg (by simpa using apart)]
          exact ih later unique.2

theorem missing_eq (collection : ConstraintCollection) (required : List ConstraintValue) :
    collection.missing required = required.filter fun value => value ∉ collection.values := by
  apply List.filter_congr
  intro value _
  simp [← has_iff_mem]

end ConstraintCollection

def lacking (known : OrderedMap Label Platform) (required : List ConstraintValue)
    (candidate : Label) : List ConstraintValue :=
  required.filter fun value =>
    (known.get? candidate).any fun platform => value ∉ platform.constraints.values

def removals (known : OrderedMap Label Platform) (required : List ConstraintValue)
    (candidates : List Label) : List (Label × ConstraintValue) :=
  (candidates.takeWhile known.contains).flatMap fun candidate =>
    (lacking known required candidate).map fun value => (candidate, value)

namespace Screening

variable {known : OrderedMap Label Platform} {required : List ConstraintValue}
  {candidate : Label} {platform : Platform} {rest : List Label}

theorem missing_eq_lacking (found : known.get? candidate = some platform) :
    platform.missing required = lacking known required candidate := by
  simp [Platform.missing, ConstraintCollection.missing_eq, lacking, found]

theorem run_cons_unknown (absent : known.get? candidate = none) :
    run known required (candidate :: rest) = { unknown := some candidate } := by
  rw [run, absent]

theorem run_cons_kept (found : known.get? candidate = some platform)
    (complete : lacking known required candidate = []) :
    run known required (candidate :: rest) =
      { run known required rest with kept := candidate :: (run known required rest).kept } := by
  simp only [run, found, missing_eq_lacking found, complete]

theorem run_cons_dropped (found : known.get? candidate = some platform)
    (incomplete : lacking known required candidate ≠ []) :
    run known required (candidate :: rest) =
      { run known required rest with
        dropped := (candidate, lacking known required candidate) ::
          (run known required rest).dropped } := by
  simp only [run, found, missing_eq_lacking found]

theorem run_eq (candidates : List Label) :
    run known required candidates =
      { kept := (candidates.takeWhile known.contains).filter fun candidate =>
          (lacking known required candidate).isEmpty
        dropped := ((candidates.takeWhile known.contains).map fun candidate =>
          (candidate, lacking known required candidate)).filter fun entry => !entry.2.isEmpty
        unknown := candidates.find? fun candidate => !known.contains candidate } := by
  induction candidates with
  | nil => rfl
  | cons candidate rest ih =>
      cases found : known.get? candidate with
      | none =>
          have absent : known.contains candidate = false := by simp [OrderedMap.contains, found]
          simp [run_cons_unknown found, absent]
      | some platform =>
          have present : known.contains candidate = true := by simp [OrderedMap.contains, found]
          by_cases complete : lacking known required candidate = []
          · simp [run_cons_kept found complete, ih, present, complete]
          · simp [run_cons_dropped found complete, ih, present, complete]

theorem messages_eq (screening : Screening) :
    screening.messages =
      (screening.dropped.flatMap fun entry => entry.2.map fun value => (entry.1, value)).map
        removalMessage := by
  simp only [messages, List.map_flatMap, List.map_map]
  rfl

theorem messages_run (known : OrderedMap Label Platform)
    (required : List ConstraintValue) (candidates : List Label) :
    (run known required candidates).messages =
      (removals known required candidates).map removalMessage := by
  rw [messages_eq, run_eq, removals]
  congr 1
  dsimp only
  generalize candidates.takeWhile known.contains = looked
  induction looked with
  | nil => rfl
  | cons candidate rest ih =>
      rw [List.map_cons, List.flatMap_cons, ← ih, List.filter_cons]
      cases lacked : lacking known required candidate with
      | nil => rfl
      | cons value values => rfl

end Screening

end CrossBuild
