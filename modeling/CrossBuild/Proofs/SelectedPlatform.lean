import CrossBuild.Proofs.SelectionLaw

/-!
The platform that a resolution selects, and the platforms that it passes over on the way.
-/

namespace CrossBuild

namespace PlatformChoice

variable {choice : PlatformChoice} {forced : Option Label} {values : List ToolchainAvailability}
  {selection : Selection}

theorem offered_of_select? (selected : choice.select? forced values = some selection) :
    selection.platform ∈ choice.candidates ∨
      forced = some selection.platform ∧
        (selection.platform = choice.host ∨ selection.platform = choice.target) := by
  obtain ⟨platform, picked, rfl⟩ := Option.map_eq_some_iff.mp selected
  cases forced with
  | none => exact .inl (List.mem_of_find?_eq_some picked)
  | some wanted =>
      simp only [pick?, offers, Option.ite_none_right_eq_some, Bool.and_eq_true, Bool.or_eq_true,
        decide_eq_true_eq, Option.some.injEq] at picked
      obtain ⟨⟨(host | target) | candidate, _⟩, rfl⟩ := picked
      · exact .inr ⟨rfl, .inl host⟩
      · exact .inr ⟨rfl, .inr target⟩
      · exact .inl candidate

theorem not_mem_skipped_of_select? (selected : choice.select? forced values = some selection) :
    selection.platform ∉ selection.skipped.map Prod.fst := by
  obtain ⟨platform, picked, rfl⟩ := Option.map_eq_some_iff.mp selected
  have suitable := suitable_of_pick? picked
  simp only [List.map_map, Function.comp_def, List.map_id']
  cases forced with
  | some wanted => simp [ahead]
  | none =>
      intro passed
      have unsuitable := List.mem_takeWhile_imp passed
      simp [suitable] at unsuitable

end PlatformChoice

namespace Exchange

def Describes (fits : Label → Platform → Prop) : Exchange → Prop
  | ⟨.platforms labels, answer⟩ => ∀ known, answer = Except.ok known →
      ∀ label ∈ labels, ∀ platform, known.get? label = some platform → fits label platform
  | _ => True

theorem Describes.imp {fits weaker : Label → Platform → Prop} {exchange : Exchange}
    (described : exchange.Describes fits)
    (implies : ∀ label platform, fits label platform → weaker label platform) :
    exchange.Describes weaker := by
  rcases exchange with ⟨_ | labels | _ | _ | _ | _, answer⟩
  case platforms =>
    intro known same label member platform found
    exact implies label platform (described known same label member platform found)
  all_goals trivial

def constraintValues : Exchange → List ConstraintValue
  | ⟨.constraintValues _, .ok values⟩ => values
  | _ => []

end Exchange

def requiredValues (exchanges : List Exchange) : List ConstraintValue :=
  exchanges.flatMap Exchange.constraintValues

namespace ResolutionKey

variable {key : ResolutionKey} {inputs : ResolutionInputs} {exchanges : List Exchange}
  {events : List Event}

theorem Opens.mem_configuration (opens : key.Opens exchanges (.ok inputs)) :
    ⟨.configuration key.configuration, .ok inputs.configuration⟩ ∈ exchanges := by
  cases opens with
  | opened => exact List.mem_cons_self

variable {describe : Label → Platform} {screening : Screening} {platform : Label}

theorem requiredValues_course (screened : List Exchange) {chosen finished : List Exchange}
    {candidates : List Label} {choice : Eval Selection} {selection : Selection}
    {resolution : Resolution} (opens : key.Opens exchanges (.ok inputs))
    (chooses : key.Chooses inputs candidates chosen choice)
    (finishes : Finishes inputs screening selection finished events (.ok resolution)) :
    requiredValues (exchanges ++ (screened ++ (chosen ++ finished))) = requiredValues screened := by
  -- No step but the screening resolves labels of constraint values.
  cases opens
  cases chooses
  cases finishes
  simp [requiredValues, inputExchanges, Exchange.constraintValues]

theorem Screens.exists_run (screens : key.Screens inputs exchanges events (.ok screening))
    (described : ∀ exchange ∈ exchanges,
      exchange.Describes fun label platform => platform = describe label) :
    screening = .keepAll inputs.candidates ∧ requiredValues exchanges = [] ∨
      ∃ known required, screening = .run known required inputs.candidates ∧
        requiredValues exchanges = required ∧
        ∀ looked ∈ inputs.candidates.takeWhile known.contains,
          lacking known required looked =
            required.filter fun value => value ∉ (describe looked).constraints.values := by
  cases screens with
  | unconstrained => exact .inl ⟨rfl, rfl⟩
  | screened constrained known required all =>
      refine .inr ⟨known, required, rfl, List.append_nil _, ?_⟩
      intro looked member
      have contained : known.contains looked = true := List.mem_takeWhile_imp member
      obtain ⟨platform, found⟩ := Option.isSome_iff_exists.mp contained
      have same : platform = describe looked :=
        described ⟨.platforms inputs.candidates, .ok known⟩ List.mem_cons_self known rfl looked
          (List.takeWhile_subset _ member) platform found
      simp [lacking, found, same]

theorem Screens.complete_of_kept (screens : key.Screens inputs exchanges events (.ok screening))
    (described : ∀ exchange ∈ exchanges,
      exchange.Describes fun label platform => platform = describe label)
    (kept : platform ∈ screening.kept) :
    ∀ value ∈ requiredValues exchanges,
      value ∈ (describe platform).constraints.values := by
  obtain ⟨rfl, free⟩ | ⟨known, required, rfl, told, lacked⟩ := screens.exists_run described
  · simp [free]
  · rw [Screening.run_eq, List.mem_filter, List.isEmpty_iff] at kept
    rw [lacked platform kept.1] at kept
    simpa [told] using kept.2

theorem Screens.lacks_of_skipped (screens : key.Screens inputs exchanges events (.ok screening))
    (described : ∀ exchange ∈ exchanges,
      exchange.Describes fun label platform => platform = describe label)
    (skipped : platform ∈ screening.skipped.map Prod.fst) :
    ∃ value ∈ requiredValues exchanges,
      value ∉ (describe platform).constraints.values := by
  obtain ⟨rfl, free⟩ | ⟨known, required, rfl, told, lacked⟩ := screens.exists_run described
  · simp [Screening.skipped, Screening.keepAll] at skipped
  · simp only [Screening.skipped, Screening.run_eq, List.map_map, List.mem_map, List.mem_filter,
      Function.comp_apply] at skipped
    obtain ⟨_, ⟨⟨looked, member, rfl⟩, incomplete⟩, rfl⟩ := skipped
    rw [lacked looked member] at incomplete
    simpa [told] using incomplete

theorem Finishes.resolution_eq {selection : Selection} {resolution : Resolution}
    (finishes : Finishes inputs screening selection exchanges events (.ok resolution))
    {fits : Label → Platform → Prop}
    (described : ∀ exchange ∈ exchanges, exchange.Describes fits) :
    fits selection.platform resolution.executionPlatform ∧
      resolution.skipped = screening.skipped ++ selection.skipped := by
  cases finishes with
  | finished known execution target executionFound targetFound =>
      exact ⟨described _ List.mem_cons_self known rfl _ List.mem_cons_self execution
        executionFound, rfl⟩

theorem Chooses.exists_select? {candidates : List Label} {selection : Selection}
    (chooses : key.Chooses inputs candidates exchanges (.ok selection)) :
    ∃ values, (choice inputs candidates).select? key.forcedPlatform values = some selection := by
  obtain ⟨answers, _, chosen⟩ := chooses.exists_answers
  obtain ⟨values, _, selected⟩ := PlatformChoice.select_eq_ok_iff.mp chosen
  exact ⟨values, selected⟩

end ResolutionKey

structure Resolution.NotPassedOver (resolution : Resolution) (exchanges : List Exchange) :
    Prop where
  not_skipped : resolution.executionPlatform.label ∉ resolution.skipped.map Prod.fst
  complete : ∀ value ∈ requiredValues exchanges,
    value ∈ resolution.executionPlatform.constraints.values

namespace ResolutionKey

/-- The key forces the host or the target, which need not pass the screening, and this platform
lacks a required value. -/
structure ForcesUnscreened (key : ResolutionKey) (exchanges : List Exchange)
    (platform : Platform) : Prop where
  forced : key.forcedPlatform = some platform.label
  unscreened : ∃ configuration,
    ⟨.configuration key.configuration, .ok configuration⟩ ∈ exchanges ∧
      (platform.label = configuration.host ∨ platform.label = configuration.target)
  lacks : ∃ value ∈ requiredValues exchanges, value ∉ platform.constraints.values

variable {key : ResolutionKey} {exchanges : List Exchange} {events : List Event}
  {describe : Label → Platform}

theorem Course.notPassedOver_or_unscreened {resolution : Resolution}
    (course : key.Course exchanges events (.ok resolution))
    (label_describe : ∀ label, (describe label).label = label)
    (described : ∀ exchange ∈ exchanges,
      exchange.Describes fun label platform => platform = describe label) :
    resolution.NotPassedOver exchanges ∨
      key.ForcesUnscreened exchanges resolution.executionPlatform := by
  cases course with
  | @chosen _ inputs screened _ screening _ selection _ _ _ opens screens chooses finishes =>
      rw [List.forall_mem_append, List.forall_mem_append, List.forall_mem_append] at described
      obtain ⟨_, screensDescribed, _, finishesDescribed⟩ := described
      obtain ⟨same, skipped⟩ := finishes.resolution_eq finishesDescribed
      obtain ⟨values, selected⟩ := chooses.exists_select?
      have label : resolution.executionPlatform.label = selection.platform := by
        rw [same, label_describe]
      have required := requiredValues_course screened opens chooses finishes
      by_cases complete : ∀ value ∈ requiredValues screened,
          value ∈ (describe selection.platform).constraints.values
      · refine .inl ⟨?_, by rwa [required, same]⟩
        rw [label, skipped, List.map_append, List.mem_append, not_or]
        refine ⟨?_, PlatformChoice.not_mem_skipped_of_select? selected⟩
        intro passed
        obtain ⟨value, member, absent⟩ := screens.lacks_of_skipped screensDescribed passed
        exact absent (complete value member)
      · -- What screening keeps is complete, so only the host and the target are left.
        rcases PlatformChoice.offered_of_select? selected with kept | ⟨forced, unscreened⟩
        · exact (complete (screens.complete_of_kept screensDescribed kept)).elim
        · refine .inr ⟨label ▸ forced, ⟨inputs.configuration, ?_, label ▸ unscreened⟩, ?_⟩
          · exact List.mem_append_left _ opens.mem_configuration
          · rw [required, same]
            simpa using complete

end ResolutionKey

/-- A platform that is selected was not passed over and has every required constraint value, unless
the key forces the host or the target in spite of the constraints. -/
theorem notPassedOver_or_forcesUnscreened {σ : Type} (engine : Engine σ) (key : ResolutionKey)
    (state : σ) (describe : Label → Platform)
    (label_describe : ∀ label, (describe label).label = label)
    (described : ∀ exchange ∈ engine.transcript (engine.attempt key state).1.reads state,
      exchange.Describes fun label platform => platform = describe label)
    (resolution : Resolution) (ready : (engine.attempt key state).1.outcome = .ok resolution) :
    resolution.NotPassedOver (engine.transcript (engine.attempt key state).1.reads state) ∨
      key.ForcesUnscreened (engine.transcript (engine.attempt key state).1.reads state)
        resolution.executionPlatform := by
  have course := (engine.attempt_course key state).1
  rw [ready] at course
  exact course.notPassedOver_or_unscreened label_describe described

namespace Supply

variable {supply : Supply} {exchange : Exchange}

theorem Grounds.describes (grounds : supply.Grounds exchange) :
    exchange.Describes fun label platform => platform = supply.describe label := by
  rcases exchange with ⟨_ | labels | _ | _ | _ | _, answer⟩
  case platforms =>
    obtain ⟨known, rfl, described⟩ := grounds
    intro found same label member platform platformFound
    cases same
    rw [described label member] at platformFound
    exact (Option.some.inj platformFound).symm
  all_goals trivial

theorem Answers.describes (answers : supply.Answers exchange) :
    exchange.Describes fun label platform => platform = supply.describe label :=
  answers.grounds.describes

theorem Grounds.labelled (grounds : supply.Grounds exchange) :
    exchange.Describes fun label platform => platform.label = label := by
  refine grounds.describes.imp ?_
  rintro label platform rfl
  exact supply.label_describe label

end Supply

theorem notPassedOver_or_forcesUnscreened_mixedSupply :
    (∀ label, (mixedSupply.describe label).label = label) ∧
      (∀ exchange ∈ mixedSupply.engine.transcript
          (mixedSupply.engine.attempt mixedKey ()).1.reads (),
        exchange.Describes fun label platform => platform = mixedSupply.describe label) ∧
      ∃ resolution, (mixedSupply.engine.attempt mixedKey ()).1.outcome = .ok resolution ∧
        resolution.skipped.map Prod.fst = [⟨"", "platforms", "mac"⟩, ⟨"", "platforms", "remote"⟩,
          ⟨"", "platforms", "host"⟩] ∧
        resolution.NotPassedOver (mixedSupply.engine.transcript
          (mixedSupply.engine.attempt mixedKey ()).1.reads ()) := by
  have described : ∀ exchange ∈ mixedSupply.engine.transcript
      (mixedSupply.engine.attempt mixedKey ()).1.reads (),
      exchange.Describes fun label platform => platform = mixedSupply.describe label :=
    fun exchange member => (mixedSupply.served_engine _ exchange member).describes
  refine ⟨mixedSupply.label_describe, described, _, rfl, by decide +kernel, ?_⟩
  have selected := notPassedOver_or_forcesUnscreened mixedSupply.engine mixedKey ()
    mixedSupply.describe mixedSupply.label_describe described _ rfl
  refine selected.resolve_right ?_
  intro unscreened
  cases unscreened.forced

def bareHost : Supply :=
  { mixedSupply with
    describe := fun label => {
      label := label
      constraints :=
        if label.name = "host" then .empty
        else .single ⟨⟨"", "constraints", "linux"⟩, ⟨⟨"", "constraints", "os"⟩⟩⟩ }
    label_describe := fun _ => rfl }

def hostKey : ResolutionKey :=
  { mixedKey with requirements := [] }.forcePlatform ⟨"", "platforms", "host"⟩

theorem forced_host_passed_over :
    (∀ label, (bareHost.describe label).label = label) ∧
      (∀ exchange ∈ bareHost.engine.transcript (bareHost.engine.attempt hostKey ()).1.reads (),
        exchange.Describes fun label platform => platform = bareHost.describe label) ∧
      ∃ resolution, (bareHost.engine.attempt hostKey ()).1.outcome = .ok resolution ∧
        resolution.executionPlatform.label ∈ resolution.skipped.map Prod.fst ∧
        ∃ value ∈ requiredValues
            (bareHost.engine.transcript (bareHost.engine.attempt hostKey ()).1.reads ()),
          value ∉ resolution.executionPlatform.constraints.values :=
  ⟨bareHost.label_describe,
    fun exchange member => (bareHost.served_engine _ exchange member).describes, _, rfl,
    by decide +kernel, by decide +kernel⟩

end CrossBuild
