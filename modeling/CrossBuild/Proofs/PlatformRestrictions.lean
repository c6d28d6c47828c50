import CrossBuild.Restriction.PlatformCheck

/-!
How the platform check divides the incompatible targets, in a build that keeps going and in one that
stops at the first of them that was asked for.
-/

namespace CrossBuild

theorem IncompatibilityTable.target_of_chain? {table : IncompatibilityTable} {target : Label}
    {chain : IncompatibilityChain} (found : table.chain? target = some chain) :
    chain.target = target := by
  obtain ⟨entry, _, rfl⟩ := Option.map_eq_some_iff.mp found
  rfl

namespace PlatformCheck

def Hits (check : PlatformCheck) (target : TopLevelTarget) : Prop :=
  target.label ∈ OrderedMap.keys check.table ∧
    target.label.canonicalText check.options.moduleSystem ∈ check.requested

def Skips (check : PlatformCheck) (target : TopLevelTarget) : Prop :=
  target.label ∈ OrderedMap.keys check.table ∧
    target.label.canonicalText check.options.moduleSystem ∉ check.requested

instance (check : PlatformCheck) : DecidablePred check.Hits :=
  fun _ => inferInstanceAs (Decidable (_ ∧ _))

instance (check : PlatformCheck) : DecidablePred check.Skips :=
  fun _ => inferInstanceAs (Decidable (_ ∧ _))

def warning (check : PlatformCheck) (target : TopLevelTarget) : Event :=
  .warning ("Target " ++ target.label.canonicalText check.options.moduleSystem ++
    " is incompatible and cannot be built, but was explicitly requested.")

def inMode (check : PlatformCheck) (keepGoing : Bool) : PlatformCheck :=
  { check with options := { check.options with keepGoing := keepGoing } }

variable (check : PlatformCheck) (target : TopLevelTarget) (targets : List TopLevelTarget)

/-- Which of the three cases a target belongs to. -/
inductive Disposes : TargetDisposition → Prop
  | compatible (absent : target.label ∉ OrderedMap.keys check.table) : Disposes .compatible
  | skipped (skips : check.Skips target) : Disposes .skipped
  | requested {chain : IncompatibilityChain} (hits : check.Hits target)
      (found : check.table.chain? target.label = some chain) : Disposes (.requested chain)

theorem disposes : check.Disposes target (check.disposition target) := by
  unfold disposition
  cases found : check.table.chain? target.label with
  | none => exact .compatible ((IncompatibilityTable.chain?_eq_none_iff _ _).mp found)
  | some chain =>
      have listed : target.label ∈ OrderedMap.keys check.table := by
        refine Decidable.not_not.mp fun absent => ?_
        rw [(IncompatibilityTable.chain?_eq_none_iff _ _).mpr absent] at found
        cases found
      dsimp only
      split
      next asked => exact .requested ⟨listed, List.contains_iff_mem.mp asked⟩ found
      next unasked =>
        exact .skipped ⟨listed, fun asked => unasked (List.contains_iff_mem.mpr asked)⟩

theorem isSkipped_iff : check.isSkipped target = true ↔ check.Skips target := by
  have disposes := check.disposes target
  unfold isSkipped
  generalize check.disposition target = disposition at disposes
  cases disposes with
  | compatible absent => simp [Skips, absent]
  | skipped skips => simp [skips]
  | requested hits found => simp [Skips, hits.2]

theorem requestedChain?_eq :
    check.requestedChain? target =
      if check.Hits target then check.table.chain? target.label else none := by
  have disposes := check.disposes target
  unfold requestedChain?
  generalize check.disposition target = disposition at disposes
  cases disposes with
  | compatible absent => simp [Hits, absent]
  | skipped skips => simp [Hits, skips.2]
  | requested hits found => rw [if_pos hits, found]

theorem exists_chain_of_hits (hits : check.Hits target) :
    ∃ chain, check.table.chain? target.label = some chain := by
  rw [← Option.ne_none_iff_exists']
  exact fun absent => (IncompatibilityTable.chain?_eq_none_iff _ _).mp absent hits.1

theorem requestedChain?_eq_none_iff :
    check.requestedChain? target = none ↔ ¬ check.Hits target := by
  rw [requestedChain?_eq]
  by_cases hits : check.Hits target
  · obtain ⟨chain, found⟩ := check.exists_chain_of_hits target hits
    simp [hits, found]
  · simp [hits]

theorem events_notices :
    (check.notices target).filterMap Notice.event? =
      if check.Hits target then [check.warning target] else [] := by
  have disposes := check.disposes target
  unfold notices
  generalize check.disposition target = disposition at disposes
  cases disposes with
  | compatible absent => simp [Hits, absent]
  | skipped skips => simp [Hits, skips.2, Notice.debug, Notice.event?]
  | requested hits found =>
      rw [if_pos hits]
      rfl

theorem events_flatMap_notices :
    (targets.flatMap check.notices).filterMap Notice.event? =
      (targets.filter (check.Hits ·)).map check.warning := by
  induction targets with
  | nil => rfl
  | cons target rest ih =>
      rw [List.flatMap_cons, List.filterMap_append, ih, events_notices]
      by_cases hits : check.Hits target <;> simp [hits]

theorem findSome?_requestedChain? :
    targets.findSome? check.requestedChain? =
      (targets.find? (check.Hits ·)).bind fun target => check.table.chain? target.label := by
  induction targets with
  | nil => rfl
  | cons target rest ih =>
      by_cases hits : check.Hits target
      · obtain ⟨chain, found⟩ := check.exists_chain_of_hits target hits
        rw [List.findSome?_cons, requestedChain?_eq, if_pos hits, found,
          List.find?_cons_of_pos (by simpa using hits), Option.bind_some, found]
      · rw [List.findSome?_cons, requestedChain?_eq, if_neg hits,
          List.find?_cons_of_neg (by simpa using hits), ih]

def division : PlatformCheckResult where
  skipped := targets.filter (check.Skips ·)
  failed := targets.filter (check.Hits ·)

theorem run_of_not_stopped (keepGoing : Bool)
    (free : keepGoing = true ∨ targets.find? (check.Hits ·) = none) :
    (check.inMode keepGoing).run targets =
      (.ok (check.division targets), targets.flatMap check.notices) := by
  have stop : (if (check.inMode keepGoing).options.keepGoing then none
      else targets.findSome? (check.inMode keepGoing).requestedChain?) = none := by
    obtain rfl | clear := free
    · rfl
    · change (if keepGoing = true then none else targets.findSome? check.requestedChain?) = none
      rw [findSome?_requestedChain?, clear, Option.bind_none, ite_self]
  have skipped : targets.filter check.isSkipped = targets.filter (check.Skips ·) := by
    apply List.filter_congr
    intro target _
    rw [Bool.eq_iff_iff, isSkipped_iff, decide_eq_true_iff]
  have failed : (targets.filter fun target => (check.requestedChain? target).isSome) =
      targets.filter (check.Hits ·) := by
    apply List.filter_congr
    intro target _
    rw [Bool.eq_iff_iff, decide_eq_true_iff, Option.isSome_iff_ne_none, ne_eq,
      requestedChain?_eq_none_iff, Decidable.not_not]
  rw [run, stop, division, ← skipped, ← failed]
  rfl

theorem run_of_stopped {target : TopLevelTarget} {chain : IncompatibilityChain}
    (first : targets.find? (check.Hits ·) = some target)
    (found : check.table.chain? target.label = some chain) :
    ((check.inMode false).run targets).1 =
        .error (FailureCause.restriction (.incompatibleTargetRequested chain)) ∧
      ((check.inMode false).run targets).2.filterMap Notice.event? = [] := by
  have stop : (if (check.inMode false).options.keepGoing then none
      else targets.findSome? (check.inMode false).requestedChain?) = some chain := by
    change targets.findSome? check.requestedChain? = some chain
    rw [findSome?_requestedChain?, first, Option.bind_some, found]
  have stopped : (check.inMode false).run targets =
      (.error (FailureCause.restriction (.incompatibleTargetRequested chain)),
        (targets.takeWhile fun target => (check.requestedChain? target).isNone).flatMap
          check.notices) := by
    rw [run, stop]
    rfl
  rw [stopped]
  refine ⟨rfl, ?_⟩
  rw [events_flatMap_notices, List.map_eq_nil_iff, List.filter_eq_nil_iff]
  intro earlier member
  -- What was passed on the way to the first hit was no hit.
  have unrequested := List.all_eq_true.mp (List.all_takeWhile ..) earlier member
  rw [Option.isNone_iff_eq_none, requestedChain?_eq_none_iff] at unrequested
  simpa using unrequested

theorem outcome_failingFast :
    ((∃ target chain, targets.find? (check.Hits ·) = some target ∧
        check.table.chain? target.label = some chain ∧
        ((check.inMode false).run targets).1 =
          .error (FailureCause.restriction (.incompatibleTargetRequested chain))) ∨
      (∀ target ∈ targets, ¬ check.Hits target) ∧
        ((check.inMode false).run targets).1 = .ok (check.division targets)) ∧
    ((check.inMode false).run targets).2.filterMap Notice.event? = [] := by
  cases first : targets.find? (check.Hits ·) with
  | some target =>
      have hits : check.Hits target := by simpa using List.find?_some first
      obtain ⟨chain, found⟩ := check.exists_chain_of_hits target hits
      obtain ⟨outcome, silent⟩ := check.run_of_stopped targets first found
      exact ⟨.inl ⟨target, chain, rfl, found, outcome⟩, silent⟩
  | none =>
      have clear : ∀ target ∈ targets, ¬ check.Hits target := by simpa using first
      rw [check.run_of_not_stopped targets false (.inr first), events_flatMap_notices]
      refine ⟨.inr ⟨clear, rfl⟩, ?_⟩
      rw [List.map_eq_nil_iff, List.filter_eq_nil_iff]
      simpa using clear

theorem isSome_skippingMessage?_iff (result : PlatformCheckResult) :
    result.skippingMessage?.isSome = true ↔ result.skipped ≠ [] := by
  unfold PlatformCheckResult.skippingMessage?
  cases result.skipped <;> simp

/-- A build that keeps going reports each target that was asked for and drops the others.  One that
does not stops at the first such target, says nothing, and otherwise comes to the same result. -/
theorem run_divides :
    (((check.inMode true).run targets).1 =
        .ok { skipped := targets.filter (check.Skips ·), failed := targets.filter (check.Hits ·) } ∧
      ((check.inMode true).run targets).2.filterMap Notice.event? =
        (targets.filter (check.Hits ·)).map check.warning) ∧
    (((∃ failure, ((check.inMode false).run targets).1 = .error failure) ↔
        ∃ target ∈ targets, check.Hits target) ∧
      (∀ failure, ((check.inMode false).run targets).1 = .error failure →
        ∃ target chain, targets.find? (check.Hits ·) = some target ∧
          check.table.chain? target.label = some chain ∧ chain.target = target.label ∧
          failure = FailureCause.restriction (.incompatibleTargetRequested chain) ∧
          failure.message = "Target " ++ toString target.label ++
            " is incompatible and cannot be built, but was explicitly requested." ++
            chain.report) ∧
      (∀ result, ((check.inMode false).run targets).1 = .ok result →
        ((check.inMode true).run targets).1 = .ok result) ∧
      ((check.inMode false).run targets).2.filterMap Notice.event? = []) ∧
    ∀ result : PlatformCheckResult,
      result.skippingMessage?.isSome = true ↔ result.skipped ≠ [] := by
  have going := check.run_of_not_stopped targets true (.inl rfl)
  obtain ⟨strict, silent⟩ := check.outcome_failingFast targets
  refine ⟨⟨by rw [going]; rfl, by rw [going, events_flatMap_notices]⟩, ⟨?_, ?_, ?_, silent⟩,
    isSome_skippingMessage?_iff⟩
  · obtain ⟨target, chain, first, _, outcome⟩ | ⟨clear, outcome⟩ := strict
    · have hits : check.Hits target := by simpa using List.find?_some first
      exact iff_of_true ⟨_, outcome⟩ ⟨target, List.mem_of_find?_eq_some first, hits⟩
    · apply iff_of_false
      · rintro ⟨failure, failed⟩
        rw [outcome] at failed
        cases failed
      · rintro ⟨target, member, hits⟩
        exact clear target member hits
  · intro failure failed
    obtain ⟨target, chain, first, found, outcome⟩ | ⟨_, outcome⟩ := strict
    · rw [outcome] at failed
      cases failed
      have same := IncompatibilityTable.target_of_chain? found
      exact ⟨target, chain, first, found, same, rfl, by rw [← same]; rfl⟩
    · rw [outcome] at failed
      cases failed
  · intro result ready
    obtain ⟨_, _, _, _, outcome⟩ | ⟨_, outcome⟩ := strict
    · rw [outcome] at ready
      cases ready
    · rw [going, ← ready, outcome]

def linuxLibrary : PlatformCheck where
  table := .ofList
    [(⟨"", "lib", "linux_only"⟩, .unsatisfied ⟨"", "platforms", "mac"⟩
        [⟨⟨"", "os", "linux"⟩, ⟨⟨"", "os", "os"⟩⟩⟩]),
      (⟨"", "a", "x"⟩, .dependency ⟨"", "platforms", "mac"⟩ ⟨"", "lib", "linux_only"⟩),
      (⟨"", "a", "y"⟩, .dependency ⟨"", "platforms", "mac"⟩ ⟨"", "lib", "linux_only"⟩)]
  requested := ["@//a:y"]
  options := {}

def patternTargets : List TopLevelTarget :=
  [{ label := ⟨"", "a", "x"⟩ }, { label := ⟨"", "a", "ok"⟩ }, { label := ⟨"", "a", "y"⟩ },
    { label := ⟨"", "a", "y"⟩ }]

theorem run_divides_linuxLibrary :
    (∃ result, ((linuxLibrary.inMode true).run patternTargets).1 = .ok result ∧
      result.failed.map TopLevelTarget.label = [⟨"", "a", "y"⟩, ⟨"", "a", "y"⟩] ∧
      result.skipped.map TopLevelTarget.label = [⟨"", "a", "x"⟩]) ∧
    ∃ failure, ((linuxLibrary.inMode false).run patternTargets).1 = .error failure ∧
      failure.message = "Target //a:y is incompatible and cannot be built, but was explicitly " ++
        "requested.\nDependency chain:\n    //a:y\n    //lib:linux_only   <-- target platform " ++
        "(//platforms:mac) didn't satisfy constraint //os:linux" := by
  have divides := linuxLibrary.run_divides patternTargets
  refine ⟨⟨_, divides.1.1, by decide +kernel, by decide +kernel⟩, ?_⟩
  obtain ⟨failure, failed⟩ := divides.2.1.1.mpr
    ⟨{ label := ⟨"", "a", "y"⟩ }, by simp [patternTargets], by decide +kernel⟩
  obtain ⟨target, chain, first, found, _, _, message⟩ := divides.2.1.2.1 failure failed
  cases first
  cases found
  exact ⟨failure, failed, message.trans (by decide +kernel)⟩

end PlatformCheck

end CrossBuild
