import CrossBuild.Proofs.ForcedPlatform

/-!
The toolchains of a resolution under the labels that the key asks for them by.  Aliases, merged
requirements, the table of toolchains and the row of the selected platform have to agree here.
-/

namespace CrossBuild

namespace Exchange

def AnswersInKind : Exchange → Prop
  | ⟨.toolchains queries, answers⟩ =>
      List.Forall₂ (fun query answer => ∀ value, answer = Except.ok value →
        value.toolchainType = ⟨query.requirement.toolchainType⟩) queries answers
  | _ => True

def valueFor? (type : Label) : ToolchainQuery × Eval ToolchainAvailability →
    Option ToolchainAvailability
  | (query, .ok value) => if query.requirement.toolchainType = type then some value else none
  | (_, .error _) => none

def valuesFor (type : Label) : Exchange → List ToolchainAvailability
  | ⟨.toolchains queries, answers⟩ => (queries.zip answers).filterMap (valueFor? type)
  | _ => []

end Exchange

def valuesFor (exchanges : List Exchange) (type : Label) : List ToolchainAvailability :=
  exchanges.flatMap (Exchange.valuesFor type)

namespace PlatformChoice

variable {choice : PlatformChoice} {forced : Option Label} {values : List ToolchainAvailability}
  {selection : Selection}

theorem keys_of_select? (selected : choice.select? forced values = some selection)
    (nodup : (values.map ToolchainAvailability.toolchainType).Nodup) :
    selection.toolchains.keys = values.map ToolchainAvailability.toolchainType := by
  rw [toolchains_of_select? selected,
    AvailabilityTable.keys_row_of_isSuitable (isSuitable_of_select? selected),
    distinct_of_nodup nodup]

theorem exists_toolchain_of_select? (selected : choice.select? forced values = some selection)
    (nodup : (values.map ToolchainAvailability.toolchainType).Nodup)
    {value : ToolchainAvailability} (member : value ∈ values) :
    ∃ toolchain, value.available.get? selection.platform = some toolchain ∧
      selection.toolchains.get? value.toolchainType = some toolchain := by
  have required : value.toolchainType ∈ values.map ToolchainAvailability.toolchainType :=
    List.mem_map_of_mem member
  have recorded := AvailabilityTable.get?_ofList_of_mem nodup member selection.platform
  have equipped := (AvailabilityTable.isSuitable_iff _ _ _).mp (isSuitable_of_select? selected)
    value.toolchainType required
  obtain ⟨toolchain, found⟩ := Option.isSome_iff_exists.mp equipped
  refine ⟨toolchain, recorded ▸ found, ?_⟩
  rw [toolchains_of_select? selected, AvailabilityTable.get?_row, if_pos required, found]

end PlatformChoice

def ToolchainRequirement.Typed (requirement : ToolchainRequirement)
    (value : ToolchainAvailability) : Prop :=
  value.toolchainType = ⟨requirement.toolchainType⟩

section Typed

variable {requirements : List ToolchainRequirement} {values : List ToolchainAvailability}

theorem map_toolchainType_of_typed
    (typed : List.Forall₂ ToolchainRequirement.Typed requirements values) :
    values.map ToolchainAvailability.toolchainType =
      requirements.map fun requirement => ⟨requirement.toolchainType⟩ := by
  induction typed with
  | nil => rfl
  | cons first _ ih => rw [List.map_cons, List.map_cons, ih, first]

theorem nodup_of_typed (typed : List.Forall₂ ToolchainRequirement.Typed requirements values)
    (nodup : (requirements.map ToolchainRequirement.toolchainType).Nodup) :
    (values.map ToolchainAvailability.toolchainType).Nodup := by
  have types := nodup.map (f := ToolchainType.mk) fun _ _ same => ToolchainType.mk.inj same
  rw [List.map_map] at types
  rw [map_toolchainType_of_typed typed]
  exact types

theorem valuesFor_of_absent (query : ToolchainRequirement → ToolchainQuery)
    (own : ∀ requirement, (query requirement).requirement = requirement) {type : Label}
    (absent : type ∉ requirements.map ToolchainRequirement.toolchainType)
    (answers : List (Eval ToolchainAvailability)) :
    (Exchange.valuesFor type ⟨.toolchains (requirements.map query), answers⟩) = [] := by
  apply List.filterMap_eq_nil_iff.mpr
  rintro ⟨asked, answer⟩ member
  obtain ⟨requirement, listed, rfl⟩ := List.mem_map.mp (List.of_mem_zip member).1
  have other : ¬requirement.toolchainType = type := fun same =>
    absent (same ▸ List.mem_map_of_mem listed)
  cases answer with
  | error cause => rfl
  | ok value => simp [Exchange.valueFor?, own, other]

theorem exists_valuesFor (query : ToolchainRequirement → ToolchainQuery)
    (own : ∀ requirement, (query requirement).requirement = requirement)
    (typed : List.Forall₂ ToolchainRequirement.Typed requirements values)
    (nodup : (requirements.map ToolchainRequirement.toolchainType).Nodup) {type : Label}
    (member : type ∈ requirements.map ToolchainRequirement.toolchainType) :
    ∃ value ∈ values, value.toolchainType = ⟨type⟩ ∧
      Exchange.valuesFor type ⟨.toolchains (requirements.map query), values.map .ok⟩ =
        [value] := by
  induction typed with
  | nil => simp at member
  | @cons requirement value rest later first _ ih =>
      rw [List.map_cons, List.nodup_cons] at nodup
      by_cases same : requirement.toolchainType = type
      · subst same
        have others := valuesFor_of_absent query own nodup.1 (later.map .ok)
        refine ⟨value, List.mem_cons_self, first, ?_⟩
        rw [Exchange.valuesFor] at others ⊢
        rw [List.map_cons, List.map_cons, List.zip_cons_cons, List.filterMap_cons, others]
        simp [Exchange.valueFor?, own]
      · have listed := (List.mem_cons.mp member).resolve_left fun equal => same equal.symm
        obtain ⟨found, foundMember, about, only⟩ := ih nodup.2 listed
        refine ⟨found, List.mem_cons_of_mem _ foundMember, about, ?_⟩
        rw [Exchange.valuesFor] at only ⊢
        rw [List.map_cons, List.map_cons, List.zip_cons_cons, List.filterMap_cons, only]
        simp [Exchange.valueFor?, own, same]

end Typed

/-- All requests of the key have an answer in the resolution, and every answer is the one that was
recorded for the selected platform. -/
structure Resolution.AnswersAll (resolution : Resolution) (key : ResolutionKey)
    (exchanges : List Exchange) : Prop where
  followed : ⟨.toolchainTypes key.configuration key.requestedTypes,
    .ok resolution.requestedTypes⟩ ∈ exchanges
  merged : resolution.requirements.map ToolchainRequirement.toolchainType =
    distinct (key.requestedTypes.map fun requested =>
      (ToolchainType.denotedBy resolution.requestedTypes requested).label)
  keys : resolution.toolchains.keys =
    resolution.requirements.map fun requirement => ⟨requirement.toolchainType⟩
  answered : ∀ requested ∈ key.requestedTypes, ∃ value toolchain,
    valuesFor exchanges (ToolchainType.denotedBy resolution.requestedTypes requested).label =
        [value] ∧
      value.available.get? resolution.executionPlatform.label = some toolchain ∧
      resolution.toolchainFor? requested = some toolchain

namespace ResolutionKey

variable {key : ResolutionKey} {inputs : ResolutionInputs} {exchanges : List Exchange}

theorem Chooses.exists_values {candidates : List Label} {selection : Selection}
    (chooses : key.Chooses inputs candidates exchanges (.ok selection))
    (typed : ∀ exchange ∈ exchanges, exchange.AnswersInKind) :
    ∃ values, exchanges = [⟨.toolchains (key.queries inputs candidates), values.map .ok⟩] ∧
      List.Forall₂ ToolchainRequirement.Typed inputs.requirements values ∧
      (choice inputs candidates).select? key.forcedPlatform values = some selection := by
  obtain ⟨answers, rfl, chosen⟩ := chooses.exists_answers
  obtain ⟨values, collected, selected⟩ := PlatformChoice.select_eq_ok_iff.mp chosen
  have inKind : List.Forall₂ _ (key.queries inputs candidates) answers :=
    typed _ List.mem_cons_self
  rw [queries, List.forall₂_map_left_iff] at inKind
  have answered : answers = values.map .ok := by
    rw [← (ToolchainAnswer.collect_eq_ok_iff.mp collected).1]
    exact (List.map_snd_zip inKind.length_eq.ge).symm
  subst answered
  rw [List.forall₂_map_right_iff] at inKind
  exact ⟨values, rfl, inKind.imp fun _ value inKind => inKind value rfl, selected⟩

theorem valuesFor_course {screened finished : List Exchange} {events laterEvents : List Event}
    {screening : Screening} {selection : Selection} {resolution : Resolution}
    (chosen : List Exchange) (opens : key.Opens exchanges (.ok inputs))
    (screens : key.Screens inputs screened events (.ok screening))
    (finishes : Finishes inputs screening selection finished laterEvents (.ok resolution))
    (type : Label) :
    valuesFor (exchanges ++ (screened ++ (chosen ++ finished))) type = valuesFor chosen type := by
  have silent : valuesFor exchanges type = [] ∧ valuesFor screened type = [] ∧
      valuesFor finished type = [] := by
    cases opens
    cases finishes
    refine ⟨rfl, ?_, rfl⟩
    cases screens <;> rfl
  unfold valuesFor at silent ⊢
  simp only [List.flatMap_append, silent, List.nil_append, List.append_nil]

theorem Opens.followed (opens : key.Opens exchanges (.ok inputs)) :
    ⟨.toolchainTypes key.configuration key.requestedTypes, .ok inputs.types⟩ ∈ exchanges ∧
      inputs.requirements.map ToolchainRequirement.toolchainType =
        distinct (key.requestedTypes.map fun requested =>
          (ToolchainType.denotedBy inputs.types requested).label) := by
  cases opens with
  | opened configuration types platforms registered =>
      exact ⟨by simp [inputExchanges, inputs],
        ToolchainRequirement.map_toolchainType_canonicalAll types key.requirements⟩

theorem Course.answersAll {events : List Event} {resolution : Resolution}
    (course : key.Course exchanges events (.ok resolution))
    (labelled : ∀ exchange ∈ exchanges,
      exchange.Describes fun label platform => platform.label = label)
    (typed : ∀ exchange ∈ exchanges, exchange.AnswersInKind) :
    resolution.AnswersAll key exchanges := by
  cases course with
  | @chosen opening inputs screened _ screening chosen selection finished _ _ opens screens chooses
      finishes =>
      rw [List.forall_mem_append, List.forall_mem_append, List.forall_mem_append] at labelled typed
      obtain ⟨followed, merged⟩ := opens.followed
      obtain ⟨platform, _⟩ := finishes.resolution_eq labelled.2.2.2
      obtain ⟨values, rfl, matching, selected⟩ := chooses.exists_values typed.2.2.1
      have distinctTypes : (inputs.requirements.map ToolchainRequirement.toolchainType).Nodup :=
        merged ▸ nodup_distinct _
      have distinctValues := nodup_of_typed matching distinctTypes
      have only := valuesFor_course [⟨.toolchains (key.queries inputs screening.kept),
        values.map .ok⟩] opens screens finishes
      cases finishes with
      | finished known execution target executionFound targetFound =>
          refine ⟨List.mem_append_left _ followed, merged, ?_, ?_⟩
          · exact (PlatformChoice.keys_of_select? selected distinctValues).trans
              (map_toolchainType_of_typed matching)
          · intro requested asked
            have required : (ToolchainType.denotedBy inputs.types requested).label ∈
                inputs.requirements.map ToolchainRequirement.toolchainType := by
              rw [merged, mem_distinct]
              exact List.mem_map_of_mem asked
            obtain ⟨value, member, about, single⟩ := exists_valuesFor
              (fun requirement => ⟨key.configuration, requirement, inputs.configuration.target,
                screening.kept, key.debug⟩)
              (fun _ => rfl) matching distinctTypes required
            obtain ⟨toolchain, recorded, found⟩ :=
              PlatformChoice.exists_toolchain_of_select? selected distinctValues member
            refine ⟨value, toolchain, ?_, ?_, ?_⟩
            · exact (only _).trans ((List.flatMap_singleton _ _).trans single)
            · exact platform ▸ recorded
            · rw [about] at found
              exact found

end ResolutionKey

/-- Whatever spelling a toolchain type is requested by, a resolution has the toolchain that was
found for it on the selected platform. -/
theorem answersAll_of_ready {σ : Type} (engine : Engine σ) (key : ResolutionKey) (state : σ)
    (labelled : ∀ exchange ∈ engine.transcript (engine.attempt key state).1.reads state,
      exchange.Describes fun label platform => platform.label = label)
    (typed : ∀ exchange ∈ engine.transcript (engine.attempt key state).1.reads state,
      exchange.AnswersInKind)
    (resolution : Resolution) (ready : (engine.attempt key state).1.outcome = .ok resolution) :
    resolution.AnswersAll key
      (engine.transcript (engine.attempt key state).1.reads state) := by
  have course := (engine.attempt_course key state).1
  rw [ready] at course
  exact course.answersAll labelled typed

namespace Supply

variable {supply : Supply} {exchange : Exchange}

theorem Exhibits.answersInKind (exhibits : supply.Exhibits exchange) : exchange.AnswersInKind := by
  rcases exchange with ⟨_ | _ | _ | _ | _ | queries, answers⟩
  case toolchains =>
    refine List.Forall₂.imp ?_ exhibits
    intro query answer lists value answered
    subst answered
    cases lists with
    | found _ same => exact same
  all_goals trivial

end Supply

theorem answersAll_of_ready_fullShelf :
    (∀ exchange ∈ (mixedSupply.shelfEngine fullShelf).transcript
        ((mixedSupply.shelfEngine fullShelf).attempt mixedKey ()).1.reads (),
      exchange.Describes fun label platform => platform.label = label) ∧
    (∀ exchange ∈ (mixedSupply.shelfEngine fullShelf).transcript
        ((mixedSupply.shelfEngine fullShelf).attempt mixedKey ()).1.reads (),
      exchange.AnswersInKind) ∧
    ∃ resolution,
      ((mixedSupply.shelfEngine fullShelf).attempt mixedKey ()).1.outcome = .ok resolution ∧
      resolution.AnswersAll mixedKey ((mixedSupply.shelfEngine fullShelf).transcript
        ((mixedSupply.shelfEngine fullShelf).attempt mixedKey ()).1.reads ()) ∧
      mixedKey.requestedTypes.map resolution.toolchainFor? =
        [some ⟨"", "cc", "remote"⟩, some ⟨"", "py", "remote"⟩, some ⟨"", "cc", "remote"⟩] ∧
      resolution.toolchains.keys = [⟨⟨"", "toolchains", "cc"⟩⟩, ⟨⟨"", "toolchains", "py"⟩⟩] := by
  have exhibited := mixedSupply.exhibits_shelfEngine fullShelf
    ((mixedSupply.shelfEngine fullShelf).attempt mixedKey ()).1.reads
  have labelled := fun exchange member => (exhibited exchange member).grounds.labelled
  have typed := fun exchange member => (exhibited exchange member).answersInKind
  exact ⟨labelled, typed, _, rfl,
    answersAll_of_ready (mixedSupply.shelfEngine fullShelf) mixedKey () labelled typed _ rfl,
    by decide +kernel, by decide +kernel⟩

end CrossBuild
