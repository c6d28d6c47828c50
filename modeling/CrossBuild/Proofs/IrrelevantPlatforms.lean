import CrossBuild.Proofs.SelectionLaw

/-!
Platforms that a resolution could do without.  Registered platforms that were not selected can be
taken away, wherever they stand.
-/

namespace CrossBuild

section Lists

variable {α : Type}

theorem find?_filter_of_spared {items : List α} {test spared : α → Bool} {item : α}
    (found : items.find? test = some item) (kept : spared item = true) :
    (items.filter spared).find? test = some item := by
  obtain ⟨fits, before, after, split, passed⟩ := List.find?_eq_some_iff_append.mp found
  rw [List.find?_filter, List.find?_eq_some_iff_append]
  refine ⟨by simp [kept, fits], before, after, split, ?_⟩
  intro other member
  have unfit := passed other member
  simp only [Bool.not_eq_true'] at unfit
  simp [unfit]

end Lists

theorem candidatePlatforms_without (registered : List Label) (host : Label)
    (removed : Label → Bool) :
    candidatePlatforms (registered.filter fun platform => !removed platform) host =
      ((candidatePlatforms registered host).filter fun platform => !removed platform) ++
        if removed host then [host] else [] := by
  unfold candidatePlatforms
  by_cases gone : removed host = true
  · by_cases listed : host ∈ registered <;> simp [gone, listed]
  · by_cases listed : host ∈ registered <;> simp [gone, listed]

namespace Supply

def without (supply : Supply) (removed : Label → Bool) : Supply :=
  { supply with registered := supply.registered.filter fun platform => !removed platform }

variable {supply : Supply} {key : ResolutionKey} {removed : Label → Bool} {platform : Label}

theorem kept_without :
    (supply.without removed).kept key =
      ((supply.kept key).filter fun platform => !removed platform) ++
        (if removed supply.configuration.host then [supply.configuration.host] else []).filter
          fun platform => (supply.lacks key platform).isEmpty := by
  have listed (build : Supply) : build.candidates =
      candidatePlatforms build.registered build.configuration.host :=
    (@candidates_inputs build key).symm
  have candidates : (supply.without removed).candidates =
      (supply.candidates.filter fun platform => !removed platform) ++
        if removed supply.configuration.host then [supply.configuration.host] else [] := by
    rw [listed, listed]
    exact candidatePlatforms_without _ _ removed
  rw [kept, candidates, List.filter_append, kept, List.filter_filter, List.filter_filter]
  simp only [Bool.and_comm]
  rfl

theorem find?_kept_without
    (found : (supply.kept key).find? (supply.suits key) = some platform)
    (spared : removed platform = false) :
    ((supply.without removed).kept key).find? ((supply.without removed).suits key) =
      some platform := by
  have remains : ((supply.kept key).filter fun other => !removed other).find?
      (supply.suits key) = some platform :=
    find?_filter_of_spared found (by simp [spared])
  -- The host may come in at the end, where the search does not get to.
  rw [kept_without, List.find?_append]
  change (List.find? (supply.suits key) _).or _ = _
  rw [remains]
  rfl

theorem unresolved_of_find? (found : (supply.kept key).find? (supply.suits key) = some platform) :
    supply.unresolved key = [] := by
  have member := List.mem_of_find?_eq_some found
  have equipped := suits_iff.mp (List.find?_some found)
  rw [unresolved, List.filter_eq_nil_iff]
  intro type required missing
  have absent := List.all_eq_true.mp missing platform member
  have present := equipped type required
  rw [Option.isNone_iff_eq_none] at absent
  rw [absent] at present
  cases present

theorem selection_of_find? (found : (supply.kept key).find? (supply.suits key) = some platform) :
    ∃ selection, supply.selection key = .ok selection ∧ selection.platform = platform ∧
      selection.toolchains = supply.toolchainsOn key platform := by
  rw [selection, unresolved_of_find? found, if_neg (not_not_intro rfl), found]
  exact ⟨_, rfl, rfl, rfl⟩

theorem find?_of_selection {selection : Selection}
    (selected : supply.selection key = .ok selection) :
    (supply.kept key).find? (supply.suits key) = some selection.platform ∧
      selection.toolchains = supply.toolchainsOn key selection.platform := by
  unfold Supply.selection at selected
  split at selected
  next => cases selected
  next =>
    split at selected
    next => cases selected
    next platform found =>
      cases selected
      exact ⟨found, rfl⟩

/-- Taking platforms away changes neither the selected platform nor its toolchains. -/
theorem verdict_without {resolution : Resolution} (ready : supply.verdict key = .ok resolution)
    (spared : removed resolution.executionPlatform.label = false) :
    ∃ later, (supply.without removed).verdict key = .ok later ∧
      later.executionPlatform = resolution.executionPlatform ∧
      later.toolchains = resolution.toolchains := by
  rw [verdict] at ready
  cases selected : supply.selection key with
  | error cause => rw [selected] at ready; cases ready
  | ok selection =>
      rw [selected] at ready
      cases ready
      obtain ⟨found, toolchains⟩ := find?_of_selection selected
      have label : (supply.resolution key selection).executionPlatform.label =
          selection.platform := supply.label_describe selection.platform
      rw [label] at spared
      obtain ⟨later, laterSelected, platform, laterToolchains⟩ :=
        selection_of_find? (find?_kept_without found spared)
      refine ⟨_, by rw [verdict, laterSelected]; rfl, ?_, ?_⟩
      · exact congrArg supply.describe platform
      · exact laterToolchains.trans toolchains.symm

end Supply

/-- A platform that is not selected has no influence on the one that is, nor on its toolchains. -/
theorem choice_of_without {σ τ : Type} (supply : Supply) (removed : Label → Bool)
    (engine : Engine σ) (reduced : Engine τ) (key : ResolutionKey) (state : σ) (other : τ)
    (unforced : key.forcedPlatform = none)
    (served : ∀ exchange ∈ engine.transcript (engine.attempt key state).1.reads state,
      supply.Answers exchange)
    (reducedServed : ∀ exchange ∈ reduced.transcript (reduced.attempt key other).1.reads other,
      (supply.without removed).Answers exchange)
    (resolution : Resolution) (ready : (engine.attempt key state).1.outcome = .ok resolution)
    (spared : removed resolution.executionPlatform.label = false) :
    (∃ later, (reduced.attempt key other).1.outcome = .ok later ∧
      later.executionPlatform = resolution.executionPlatform ∧
      later.toolchains = resolution.toolchains) ∧
    candidatePlatforms (supply.without removed).registered supply.configuration.host =
      ((candidatePlatforms supply.registered supply.configuration.host).filter
          fun platform => !removed platform) ++
        if removed supply.configuration.host then [supply.configuration.host] else [] := by
  constructor
  · rw [Supply.verdict_of_course (engine.attempt_course key state).1 served unforced] at ready
    rw [Supply.verdict_of_course (reduced.attempt_course key other).1 reducedServed unforced]
    exact Supply.verdict_without ready spared
  · exact candidatePlatforms_without supply.registered supply.configuration.host removed

theorem choice_of_without_mixedSupply :
    mixedKey.forcedPlatform = none ∧
      (∀ exchange ∈ mixedSupply.engine.transcript
          (mixedSupply.engine.attempt mixedKey ()).1.reads (), mixedSupply.Answers exchange) ∧
      (∀ exchange ∈ (mixedSupply.without fun platform => platform.name ≠ "local").engine.transcript
          ((mixedSupply.without fun platform => platform.name ≠ "local").engine.attempt
            mixedKey ()).1.reads (),
        (mixedSupply.without fun platform => platform.name ≠ "local").Answers exchange) ∧
      ∃ resolution later,
        (mixedSupply.engine.attempt mixedKey ()).1.outcome = .ok resolution ∧
        resolution.executionPlatform.label = ⟨"", "platforms", "local"⟩ ∧
        ((mixedSupply.without fun platform => platform.name ≠ "local").engine.attempt
          mixedKey ()).1.outcome = .ok later ∧
        later.executionPlatform = resolution.executionPlatform ∧
        later.toolchains = resolution.toolchains := by
  have served := mixedSupply.served_engine (mixedSupply.engine.attempt mixedKey ()).1.reads
  have reducedServed := (mixedSupply.without fun platform => platform.name ≠ "local").served_engine
    ((mixedSupply.without fun platform => platform.name ≠ "local").engine.attempt
      mixedKey ()).1.reads
  obtain ⟨later, ready, platform, toolchains⟩ :=
    (choice_of_without mixedSupply (fun platform => platform.name ≠ "local") mixedSupply.engine _
      mixedKey () () rfl served reducedServed _ rfl (by decide +kernel)).1
  exact ⟨rfl, served, reducedServed, _, later, rfl, by decide +kernel, ready, platform, toolchains⟩

end CrossBuild
