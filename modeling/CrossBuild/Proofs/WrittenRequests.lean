import CrossBuild.Proofs.LabelGrammar
import CrossBuild.Proofs.PlatformRestrictions
import Mathlib.Data.List.Find
import Mathlib.Data.List.Forall2

/-!
Platform checks whose requests are written by a user.  A request counts for the label that it
spells, and the toggle of the module system shows in the warnings only.
-/

namespace CrossBuild

theorem Label.injOn_canonicalText (moduleSystem : Bool) :
    Set.InjOn (Label.canonicalText · moduleSystem) Label.readable := by
  apply Label.injOn_of_reads
  rintro label ⟨text, read⟩
  exact Label.parse_canonicalText (Label.parts_of_parse read).1 moduleSystem

theorem Label.canonicalText_mem_map_iff {labels : List Label}
    (parsed : ∀ label ∈ labels, label ∈ readable) {label : Label} (labelParsed : label ∈ readable)
    (moduleSystem : Bool) :
    label.canonicalText moduleSystem ∈ labels.map (canonicalText · moduleSystem) ↔
      label ∈ labels := by
  rw [List.mem_map]
  constructor
  · rintro ⟨other, member, same⟩
    rwa [← injOn_canonicalText moduleSystem (parsed other member) labelParsed same]
  · intro member
    exact ⟨label, member, rfl⟩

def Label.incompatibleWarning (label : Label) (mark : String) : Event :=
  .warning (RestrictionFailure.incompatibleTarget (mark ++ label.repository ++ label.path))

inductive Notice.Respelled : Notice → Notice → Prop
  | unchanged (notice : Notice) : Respelled notice notice
  | log (label : Label) : Respelled (.log (label.incompatibleWarning "@").logLine)
      (.log (label.incompatibleWarning "@@").logLine)
  | event (label : Label) : Respelled (.event (label.incompatibleWarning "@"))
      (.event (label.incompatibleWarning "@@"))

namespace PlatformCheck

section Loop

variable (check : PlatformCheck) (target : TopLevelTarget) (rest : List TopLevelTarget)

def enter (result : PlatformCheckResult) : PlatformCheckResult where
  skipped := [target].filter check.isSkipped ++ result.skipped
  failed := ([target].filter fun target => (check.requestedChain? target).isSome) ++ result.failed

theorem run_cons_of_stopping {chain : IncompatibilityChain}
    (strict : check.options.keepGoing = false)
    (asked : check.requestedChain? target = some chain) :
    check.run (target :: rest) =
      (.error (FailureCause.restriction (.incompatibleTargetRequested chain)), []) := by
  simp [run, strict, asked]

theorem run_cons_of_continuing
    (continues : check.options.keepGoing = true ∨ check.requestedChain? target = none) :
    check.run (target :: rest) =
      ((check.run rest).1.map (check.enter target),
        check.notices target ++ (check.run rest).2) := by
  have entered (kept : TopLevelTarget → Bool) :
      (target :: rest).filter kept = [target].filter kept ++ rest.filter kept := by
    rw [← List.filter_append, List.singleton_append]
  unfold run
  by_cases going : check.options.keepGoing = true
  · simp only [going, if_true, entered, List.flatMap_cons]
    rfl
  · have unasked : check.requestedChain? target = none := continues.resolve_left going
    simp only [going, if_false, Bool.false_eq_true, List.findSome?_cons, unasked]
    cases rest.findSome? check.requestedChain? with
    | none =>
      simp only [entered, List.flatMap_cons]
      rfl
    | some chain =>
      simp only [List.takeWhile_cons, unasked, Option.isNone_none, if_true, List.flatMap_cons]
      rfl

end Loop

theorem run_alike {one other : PlatformCheck} {targets : List TopLevelTarget}
    (mode : one.options.keepGoing = other.options.keepGoing)
    (same : ∀ target ∈ targets, one.disposition target = other.disposition target)
    (alike : ∀ target ∈ targets,
      List.Forall₂ Notice.Respelled (one.notices target) (other.notices target)) :
    (one.run targets).1 = (other.run targets).1 ∧
      List.Forall₂ Notice.Respelled (one.run targets).2 (other.run targets).2 := by
  induction targets with
  | nil =>
      have empty : ∀ check : PlatformCheck, check.run [] = (.ok ⟨[], []⟩, []) := by
        intro check
        simp [run]
      rw [empty, empty]
      exact ⟨rfl, .nil⟩
  | cons target rest ih =>
      rw [List.forall_mem_cons] at same alike
      obtain ⟨outcome, notices⟩ := ih same.2 alike.2
      have asked : one.requestedChain? target = other.requestedChain? target := by
        rw [requestedChain?, same.1, requestedChain?]
      have skipped : one.isSkipped target = other.isSkipped target := by
        rw [isSkipped, same.1, isSkipped]
      have entered : one.enter target = other.enter target := by
        funext result
        simp only [enter, List.filter_singleton, asked, skipped]
      by_cases continues : one.options.keepGoing = true ∨ one.requestedChain? target = none
      · rw [one.run_cons_of_continuing target rest continues]
        rw [mode, asked] at continues
        rw [other.run_cons_of_continuing target rest continues, outcome, entered]
        exact ⟨rfl, List.rel_append alike.1 notices⟩
      · rw [not_or, Bool.not_eq_true, ← ne_eq, Option.ne_none_iff_exists'] at continues
        obtain ⟨strict, chain, found⟩ := continues
        rw [one.run_cons_of_stopping target rest strict found]
        rw [mode] at strict
        rw [asked] at found
        rw [other.run_cons_of_stopping target rest strict found]
        exact ⟨rfl, .nil⟩

def asking (table : IncompatibilityTable) (keepGoing : Bool) (labels : List Label)
    (moduleSystem : Bool) : PlatformCheck where
  table := table
  requested := labels.map (Label.canonicalText · moduleSystem)
  options := { keepGoing := keepGoing, moduleSystem := moduleSystem }

/-- Incompatible, and one of the labels that the user asked for. -/
def Asked (table : IncompatibilityTable) (labels : List Label) (target : TopLevelTarget) : Prop :=
  target.label ∈ OrderedMap.keys table ∧ target.label ∈ labels

def Unasked (table : IncompatibilityTable) (labels : List Label) (target : TopLevelTarget) : Prop :=
  target.label ∈ OrderedMap.keys table ∧ target.label ∉ labels

instance (table : IncompatibilityTable) (labels : List Label) :
    DecidablePred (Asked table labels) := fun _ => inferInstanceAs (Decidable (_ ∧ _))

instance (table : IncompatibilityTable) (labels : List Label) :
    DecidablePred (Unasked table labels) := fun _ => inferInstanceAs (Decidable (_ ∧ _))

/-- What a run of the check does if the targets that count as requested are those with the labels.
It divides the incompatible targets, or it stops at the first one that was asked for. -/
structure Recognizes (table : IncompatibilityTable) (labels : List Label) (moduleSystem : Bool)
    (keepGoing : Bool) (targets : List TopLevelTarget)
    (ran : Except Failure PlatformCheckResult × List Notice) : Prop where
  divides : (keepGoing = true ∨ ∀ target ∈ targets, ¬Asked table labels target) →
    ran.1 = .ok { skipped := targets.filter (Unasked table labels ·)
                  failed := targets.filter (Asked table labels ·) } ∧
      ran.2.filterMap Notice.event? = (targets.filter (Asked table labels ·)).map fun target =>
        target.label.incompatibleWarning (if moduleSystem then "@@" else "@")
  refuses : ∀ target, keepGoing = false →
    targets.find? (Asked table labels ·) = some target →
    ∃ chain, table.chain? target.label = some chain ∧
      ran.1 = .error (FailureCause.restriction (.incompatibleTargetRequested chain)) ∧
      ran.2.filterMap Notice.event? = []

section Asked

variable {table : IncompatibilityTable} {keepGoing : Bool} {labels : List Label}
  (parsed : ∀ label ∈ labels, label ∈ Label.readable) {target : TopLevelTarget}
  (targetParsed : target.label ∈ Label.readable)

include parsed targetParsed

theorem mem_requested_asking (moduleSystem : Bool) :
    target.label.canonicalText moduleSystem ∈
      (asking table keepGoing labels moduleSystem).requested ↔ target.label ∈ labels :=
  Label.canonicalText_mem_map_iff parsed targetParsed moduleSystem

theorem disposition_asking (moduleSystem : Bool) :
    (asking table keepGoing labels moduleSystem).disposition target =
      match table.chain? target.label with
      | none => TargetDisposition.compatible
      | some chain => if target.label ∈ labels then .requested chain else .skipped := by
  have asked : (asking table keepGoing labels moduleSystem).requested.contains
      (target.label.canonicalText moduleSystem) = true ↔ target.label ∈ labels := by
    rw [List.contains_iff_mem]
    exact mem_requested_asking parsed targetParsed moduleSystem
  unfold disposition
  change (match table.chain? target.label with
    | none => TargetDisposition.compatible
    | some chain => if (asking table keepGoing labels moduleSystem).requested.contains
        (target.label.canonicalText moduleSystem) = true then .requested chain else .skipped) = _
  simp only [asked]

theorem notices_asking :
    List.Forall₂ Notice.Respelled ((asking table keepGoing labels false).notices target)
      ((asking table keepGoing labels true).notices target) := by
  have same : (asking table keepGoing labels false).disposition target =
      (asking table keepGoing labels true).disposition target := by
    rw [disposition_asking parsed targetParsed, disposition_asking parsed targetParsed]
  unfold notices
  rw [same]
  cases (asking table keepGoing labels true).disposition target with
  | compatible => exact .nil
  | skipped => exact .cons (.unchanged _) .nil
  | requested chain => exact .cons (.log target.label) (.cons (.event target.label) .nil)

end Asked

theorem warning_asking (table : IncompatibilityTable) (keepGoing : Bool) (labels : List Label)
    (moduleSystem : Bool) (target : TopLevelTarget) :
    (asking table keepGoing labels moduleSystem).warning target =
      target.label.incompatibleWarning (if moduleSystem then "@@" else "@") := by
  cases moduleSystem <;> rfl

theorem recognizes_run {table : IncompatibilityTable} {labels : List Label}
    {targets : List TopLevelTarget} (parsed : ∀ label ∈ labels, label ∈ Label.readable)
    (targetsParsed : ∀ target ∈ targets, target.label ∈ Label.readable)
    (keepGoing moduleSystem : Bool) :
    Recognizes table labels moduleSystem keepGoing targets
      ((asking table keepGoing labels moduleSystem).run targets) := by
  let check := asking table keepGoing labels moduleSystem
  -- No two labels that were read share a canonical text.
  have requested : ∀ target ∈ targets,
      (target.label.canonicalText moduleSystem ∈ check.requested ↔ target.label ∈ labels) :=
    fun target member => mem_requested_asking parsed (targetsParsed target member) moduleSystem
  have hits : ∀ target ∈ targets, (check.Hits target ↔ Asked table labels target) :=
    fun target member => and_congr_right fun _ => requested target member
  have skips : ∀ target ∈ targets, (check.Skips target ↔ Unasked table labels target) :=
    fun target member => and_congr_right fun _ => not_congr (requested target member)
  have failed : targets.filter (check.Hits ·) = targets.filter (Asked table labels ·) :=
    List.filter_congr fun target member => by rw [decide_eq_decide, hits target member]
  have skipped : targets.filter (check.Skips ·) = targets.filter (Unasked table labels ·) :=
    List.filter_congr fun target member => by rw [decide_eq_decide, skips target member]
  have first : targets.find? (check.Hits ·) = targets.find? (Asked table labels ·) :=
    List.find?_congr fun target member => by rw [decide_eq_decide, hits target member]
  have mode : check.inMode keepGoing = check := rfl
  constructor
  · intro free
    have clear : keepGoing = true ∨ targets.find? (check.Hits ·) = none := by
      rw [first, List.find?_eq_none]
      simpa using free
    have ran := check.run_of_not_stopped targets keepGoing clear
    rw [mode, division, skipped, failed] at ran
    rw [ran, events_flatMap_notices, failed]
    exact ⟨rfl, List.map_congr_left fun target _ =>
      warning_asking table keepGoing labels moduleSystem target⟩
  · rintro target rfl asked
    rw [← first] at asked
    have hit : check.Hits target := by simpa using List.find?_some asked
    obtain ⟨chain, found⟩ := check.exists_chain_of_hits target hit
    exact ⟨chain, found, check.run_of_stopped targets asked found⟩

/-- A target counts as requested if one of the texts that the user wrote spells its label, whether
or not the module system marks the labels that are compared: it then stops the run or is among the
failed targets, and otherwise it is skipped.  The toggle changes the mark in the warnings and
nothing else. -/
theorem run_asking {texts : List String} {labels : List Label} {targets : List TopLevelTarget}
    (read : List.Forall₂ (fun text label => Label.parse text = .ok label) texts labels)
    (parsed : ∀ target ∈ targets, ∃ text, Label.parse text = .ok target.label)
    (table : IncompatibilityTable) (keepGoing : Bool) :
    (∀ moduleSystem, ∀ target ∈ targets, ∀ chain, table.chain? target.label = some chain →
      (asking table keepGoing labels moduleSystem).disposition target =
        if target.label ∈ labels then .requested chain else .skipped) ∧
    (∀ moduleSystem, Recognizes table labels moduleSystem keepGoing targets
      ((asking table keepGoing labels moduleSystem).run targets)) ∧
    ((asking table keepGoing labels false).run targets).1 =
      ((asking table keepGoing labels true).run targets).1 ∧
    List.Forall₂ Notice.Respelled ((asking table keepGoing labels false).run targets).2
      ((asking table keepGoing labels true).run targets).2 := by
  have labelsParsed : ∀ label ∈ labels, label ∈ Label.readable := by
    induction read with
    | nil => simp
    | cons spelled _ ih => exact List.forall_mem_cons.mpr ⟨⟨_, spelled⟩, ih⟩
  refine ⟨?_, recognizes_run labelsParsed parsed keepGoing, run_alike rfl ?_ ?_⟩
  · intro moduleSystem target member chain found
    rw [disposition_asking labelsParsed (parsed target member), found]
  · intro target member
    rw [disposition_asking labelsParsed (parsed target member),
      disposition_asking labelsParsed (parsed target member)]
  · intro target member
    exact notices_asking labelsParsed (parsed target member)

theorem run_asking_linuxLibrary :
    (∀ moduleSystem, ∃ chain,
      (asking linuxLibrary.table false [⟨"", "a", "y"⟩] moduleSystem).disposition
        { label := ⟨"", "a", "y"⟩ } = .requested chain ∧
      ((asking linuxLibrary.table false [⟨"", "a", "y"⟩] moduleSystem).run patternTargets).1 =
        .error (FailureCause.restriction (.incompatibleTargetRequested chain))) ∧
    (∀ moduleSystem, ∃ result,
      ((asking linuxLibrary.table true [⟨"", "a", "y"⟩] moduleSystem).run patternTargets).1 =
        .ok result ∧
      result.failed.map TopLevelTarget.label = [⟨"", "a", "y"⟩, ⟨"", "a", "y"⟩] ∧
      result.skipped.map TopLevelTarget.label = [⟨"", "a", "x"⟩]) ∧
    ((asking linuxLibrary.table true [⟨"", "a", "y"⟩] false).run patternTargets).1 =
      ((asking linuxLibrary.table true [⟨"", "a", "y"⟩] true).run patternTargets).1 := by
  have read : List.Forall₂ (fun text label => Label.parse text = .ok label)
      ["@@//a:y"] [⟨"", "a", "y"⟩] := .cons rfl .nil
  have parsed : ∀ target ∈ patternTargets, ∃ text, Label.parse text = .ok target.label := by
    intro target member
    refine ⟨"//a:" ++ target.label.name, ?_⟩
    revert target
    decide +kernel
  obtain ⟨disposition, strict, -⟩ := run_asking read parsed linuxLibrary.table false
  obtain ⟨-, going, outcome, -⟩ := run_asking read parsed linuxLibrary.table true
  refine ⟨fun moduleSystem => ?_, fun moduleSystem => ?_, outcome⟩
  · obtain ⟨chain, found, refused, -⟩ :=
      (strict moduleSystem).refuses { label := ⟨"", "a", "y"⟩ } rfl rfl
    exact ⟨chain, disposition moduleSystem _ (by simp [patternTargets]) _ found, refused⟩
  · have divided := ((going moduleSystem).divides (.inl rfl)).1
    exact ⟨_, divided, by decide +kernel, by decide +kernel⟩

end PlatformCheck

end CrossBuild
