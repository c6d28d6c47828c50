import CrossBuild.Proofs.SelectedPlatform

/-!
The choice of a forced platform.  Here the answers about toolchains may list any platform, whether
it is a candidate or not.
-/

namespace CrossBuild

namespace PlatformChoice

variable {choice : PlatformChoice} {platform : Label} {values : List ToolchainAvailability}
  {selection : Selection}

theorem platform_of_select?_forced
    (selected : choice.select? (some platform) values = some selection) :
    selection.platform = platform := by
  obtain ⟨picked, found, rfl⟩ := Option.map_eq_some_iff.mp selected
  rw [pick?, Option.ite_none_right_eq_some] at found
  exact (Option.some.inj found.2).symm

end PlatformChoice

namespace Supply

variable (supply : Supply) (key : ResolutionKey)

def Unavailable (type : Label) : Prop := ∀ platform, supply.toolchain? type platform = none

/-- The answer for one type lists its toolchains on all platforms.  If there are none it may be
empty, or fail for the absence of whatever type. -/
inductive Lists (type : Label) : Eval ToolchainAvailability → Prop
  | found (value : ToolchainAvailability) (same : value.toolchainType = ⟨type⟩)
      (exact : ∀ platform, value.available.get? platform = supply.toolchain? type platform) :
      Lists type (.ok value)
  | absent (unavailable : supply.Unavailable type) (failure : Failure) (label : Label)
      (root : failure.root = .lookup (.noToolchainFound label)) :
      Lists type (.error (.failed failure))

def Exhibits : Exchange → Prop
  | ⟨.toolchains queries, answers⟩ =>
      List.Forall₂ (fun query => supply.Lists query.requirement.toolchainType) queries answers
  | exchange => supply.Answers exchange

structure Eligible (platform : Label) : Prop where
  offered : platform = supply.configuration.host ∨ platform = supply.configuration.target ∨
    platform ∈ supply.kept key
  equipped : ∀ type ∈ supply.types key, (supply.toolchain? type platform).isSome = true

def forcedSelection (platform : Label) : Selection where
  platform := platform
  toolchains := supply.toolchainsOn key platform
  skipped := []

/-- What comes of forcing a platform.  If it is not eligible nothing stands in for it, and types
without any toolchain are reported first. -/
structure Forces (platform : Label) (outcome : Eval Resolution) : Prop where
  unresolved : (∃ type ∈ supply.types key, supply.Unavailable type) →
    ∃ missing, outcome = Eval.fail (.resolution (.unresolvedToolchains missing))
  selected : supply.Eligible key platform →
    outcome = .ok (supply.resolution key (supply.forcedSelection key platform))
  refused : (∀ type ∈ supply.types key, ¬supply.Unavailable type) →
    ¬supply.Eligible key platform →
      outcome = Eval.fail (.resolution (.noMatchingPlatform (supply.types key) (supply.kept key)
        supply.configuration.target))

variable {supply key} {type platform : Label} {answer : Eval ToolchainAvailability}
  {requirements : List ToolchainRequirement} {answers : List (Eval ToolchainAvailability)}

theorem Eligible.available (eligible : supply.Eligible key platform) :
    ∀ type ∈ supply.types key, ¬supply.Unavailable type := by
  intro type member unavailable
  have equipped := eligible.equipped type member
  rw [unavailable platform] at equipped
  cases equipped

theorem Exhibits.grounds {exchange : Exchange} (exhibits : supply.Exhibits exchange) :
    supply.Grounds exchange := by
  rcases exchange with ⟨_ | _ | _ | _ | _ | _, answer⟩
  case toolchains => trivial
  all_goals exact exhibits

theorem isEmpty_iff_unavailable {value : ToolchainAvailability}
    (exact : ∀ platform, value.available.get? platform = supply.toolchain? type platform) :
    value.available.isEmpty = true ↔ supply.Unavailable type := by
  simp only [OrderedMap.isEmpty_iff, exact, Unavailable]

theorem Lists.failure?_eq {requirement : ToolchainRequirement} (lists : supply.Lists type answer) :
    ToolchainAnswer.failure? (requirement, answer) = none := by
  cases lists with
  | found value same exact => rfl
  | absent unavailable failure label root =>
      simp [ToolchainAnswer.failure?, Failure.lookup?, root]

theorem Lists.missingType?_eq_none_iff {requirement : ToolchainRequirement}
    (lists : supply.Lists type answer) :
    ToolchainAnswer.missingType? (requirement, answer) = none ↔ ¬supply.Unavailable type := by
  cases lists with
  | found value same exact =>
      simp [ToolchainAnswer.missingType?, ← isEmpty_iff_unavailable exact]
  | absent unavailable failure label root =>
      simp [ToolchainAnswer.missingType?, Failure.lookup?, root, unavailable]

theorem Lists.fits (lists : supply.Lists type answer) (available : ¬supply.Unavailable type) :
    ∃ value, answer = .ok value ∧ value.available.isEmpty = false ∧
      supply.Fits (fun _ => True) type value := by
  cases lists with
  | found value same exact =>
      refine ⟨value, rfl, ?_, same, fun platform _ => exact platform⟩
      rw [← Bool.not_eq_true, isEmpty_iff_unavailable exact]
      exact available
  | absent unavailable => exact (available unavailable).elim

abbrev Listed (supply : Supply) :
    List ToolchainRequirement → List (Eval ToolchainAvailability) → Prop :=
  List.Forall₂ fun requirement => supply.Lists requirement.toolchainType

theorem filterMap_missingType?_eq_nil_iff (listed : supply.Listed requirements answers) :
    (requirements.zip answers).filterMap ToolchainAnswer.missingType? = [] ↔
      ∀ type ∈ requirements.map ToolchainRequirement.toolchainType, ¬supply.Unavailable type := by
  rw [List.filterMap_eq_nil_iff, List.forall_mem_map]
  induction listed with
  | nil => simp
  | cons first _ ih =>
      rw [List.zip_cons_cons, List.forall_mem_cons, List.forall_mem_cons, ih,
        first.missingType?_eq_none_iff]

theorem collect_of_unavailable (listed : supply.Listed requirements answers)
    (unavailable : ∃ type ∈ requirements.map ToolchainRequirement.toolchainType,
      supply.Unavailable type) :
    ∃ missing, ToolchainAnswer.collect (requirements.zip answers) =
      Eval.fail (.resolution (.unresolvedToolchains missing)) := by
  have unfailing : (requirements.zip answers).findSome? ToolchainAnswer.failure? = none := by
    rw [List.findSome?_eq_none_iff]
    rintro ⟨requirement, answer⟩ member
    exact ((List.forall₂_iff_zip.mp listed).2 member).failure?_eq
  have missing : (requirements.zip answers).filterMap ToolchainAnswer.missingType? ≠ [] := by
    intro none
    obtain ⟨type, member, absent⟩ := unavailable
    exact (filterMap_missingType?_eq_nil_iff listed).mp none type member absent
  exact ⟨_, ToolchainAnswer.collect_of_missing unfailing missing⟩

theorem collect_of_available (listed : supply.Listed requirements answers)
    (available : ∀ type ∈ requirements.map ToolchainRequirement.toolchainType,
      ¬supply.Unavailable type) :
    ∃ values, ToolchainAnswer.collect (requirements.zip answers) = .ok values ∧
      List.Forall₂ (supply.Fits fun _ => True)
        (requirements.map ToolchainRequirement.toolchainType) values := by
  rw [List.forall_mem_map] at available
  simp only [List.forall₂_map_left_iff]
  refine collect_of_offered (((List.forall₂_and_left _ _).mpr ⟨available, listed⟩).imp ?_)
  rintro requirement answer ⟨some, lists⟩
  exact lists.fits some

variable {choice : PlatformChoice} {values : List ToolchainAvailability}

theorem select?_forced
    (fitting : List.Forall₂ (supply.Fits fun _ => True) (supply.types key) values) :
    choice.select? (some platform) values =
      if choice.offers platform && supply.suits key platform then
        some (supply.forcedSelection key platform)
      else none := by
  rw [PlatformChoice.select?, map_toolchainType_of_fits fitting]
  dsimp only [PlatformChoice.pick?]
  rw [isSuitable_table fitting trivial]
  split
  next => rw [Option.map_some, row_table fitting trivial]; rfl
  next => rfl

theorem select_forced (types : requirements.map ToolchainRequirement.toolchainType =
      supply.types key)
    (listed : supply.Listed requirements answers)
    (available : ∀ type ∈ supply.types key, ¬supply.Unavailable type) :
    choice.select (some platform) requirements (requirements.zip answers) =
      if choice.offers platform && supply.suits key platform then
        .ok (supply.forcedSelection key platform)
      else
        Eval.fail (.resolution (.noMatchingPlatform (supply.types key) choice.candidates
          choice.target)) := by
  rw [← types] at available
  obtain ⟨values, collected, fitting⟩ := collect_of_available listed available
  rw [types] at fitting
  rw [PlatformChoice.select_of_collect_ok collected, select?_forced fitting, types]
  split <;> rfl

theorem eligible_iff :
    ((ResolutionKey.choice (supply.inputs key) (supply.kept key)).offers platform &&
      supply.suits key platform) = true ↔ supply.Eligible key platform := by
  rw [Bool.and_eq_true, suits_iff]
  simp only [PlatformChoice.offers, Bool.or_eq_true, decide_eq_true_eq, or_assoc]
  constructor
  · rintro ⟨offered, equipped⟩
    exact ⟨offered, equipped⟩
  · rintro ⟨offered, equipped⟩
    exact ⟨offered, equipped⟩

theorem forces_of_course {exchanges : List Exchange} {events : List Event}
    {outcome : Eval Resolution} (course : key.Course exchanges events outcome)
    (forced : key.forcedPlatform = some platform)
    (exhibited : ∀ exchange ∈ exchanges, supply.Exhibits exchange) :
    supply.Forces key platform outcome := by
  obtain ⟨answers, asked, rfl⟩ := outcome_of_course course
    fun exchange member => (exhibited exchange member).grounds
  have listed : List.Forall₂ _ (key.queries (supply.inputs key) (supply.kept key)) answers :=
    exhibited _ asked
  rw [ResolutionKey.queries, List.forall₂_map_left_iff] at listed
  rw [forced]
  constructor
  · intro unavailable
    rw [← map_toolchainType_requirements] at unavailable
    obtain ⟨missing, collected⟩ := collect_of_unavailable listed unavailable
    exact ⟨missing, by rw [PlatformChoice.select_of_collect_error collected]; rfl⟩
  · intro eligible
    rw [select_forced map_toolchainType_requirements listed eligible.available,
      if_pos (eligible_iff.mpr eligible)]
    rfl
  · intro available ineligible
    rw [select_forced map_toolchainType_requirements listed available,
      if_neg (mt eligible_iff.mp ineligible)]
    rfl

def stock (supply : Supply) (shelf : Label → OrderedMap Label Label) : Supply :=
  { supply with toolchain? := fun type platform => (shelf type).get? platform }

def shelfEngine (supply : Supply) (shelf : Label → OrderedMap Label Label) : Engine Unit where
  answer
    | .toolchains queries, _ =>
        (queries.map fun query => .ok {
          toolchainType := ⟨query.requirement.toolchainType⟩
          available := shelf query.requirement.toolchainType }, ())
    | read, state => supply.engine.answer read state

theorem exhibits_shelfEngine (supply : Supply) (shelf : Label → OrderedMap Label Label)
    (reads : List Read) :
    ∀ exchange ∈ (supply.shelfEngine shelf).transcript reads (),
      (supply.stock shelf).Exhibits exchange := by
  apply Engine.forall_mem_transcript
  rintro read ⟨⟩
  have answered := supply.answers_engine read
  cases read with
  | toolchains queries =>
      change List.Forall₂ _ queries (queries.map _)
      rw [List.forall₂_map_right_iff]
      exact List.forall₂_same.mpr fun query _ => .found _ rfl fun platform => rfl
  | _ => exact answered

end Supply

theorem ResolutionKey.Course.label_of_forced {key : ResolutionKey} {exchanges : List Exchange}
    {events : List Event} {resolution : Resolution} {platform : Label}
    (course : key.Course exchanges events (.ok resolution))
    (forced : key.forcedPlatform = some platform)
    (labelled : ∀ exchange ∈ exchanges,
      exchange.Describes fun label platform => platform.label = label) :
    resolution.executionPlatform.label = platform := by
  cases course with
  | chosen opens screens chooses finishes =>
      rw [List.forall_mem_append, List.forall_mem_append, List.forall_mem_append] at labelled
      obtain ⟨values, selected⟩ := chooses.exists_select?
      rw [forced] at selected
      exact (finishes.resolution_eq labelled.2.2.2).1.trans
        (PlatformChoice.platform_of_select?_forced selected)

/-- A forced platform is selected or nothing is.  Which of the two, and how it fails, follows from
what the engine exhibits. -/
theorem outcome_of_forced {σ : Type} (engine : Engine σ) (key : ResolutionKey) (state : σ)
    (platform : Label) (forced : key.forcedPlatform = some platform) :
    (∀ supply : Supply,
      (∀ exchange ∈ engine.transcript (engine.attempt key state).1.reads state,
        supply.Exhibits exchange) →
      supply.Forces key platform (engine.attempt key state).1.outcome) ∧
    ((∀ exchange ∈ engine.transcript (engine.attempt key state).1.reads state,
        exchange.Describes fun label platform => platform.label = label) →
      ∀ resolution, (engine.attempt key state).1.outcome = .ok resolution →
        resolution.executionPlatform.label = platform) := by
  have course := (engine.attempt_course key state).1
  constructor
  · intro supply exhibited
    exact Supply.forces_of_course course forced exhibited
  · intro labelled resolution ready
    rw [ready] at course
    exact course.label_of_forced forced labelled

def fullShelf (type : Label) : OrderedMap Label Label :=
  .ofList [(⟨"", "platforms", "remote"⟩, ⟨"", type.name, "remote"⟩),
    (⟨"", "platforms", "target"⟩, ⟨"", type.name, "target"⟩)]

def targetKey : ResolutionKey := mixedKey.forcePlatform ⟨"", "platforms", "target"⟩

theorem outcome_of_forced_target :
    targetKey.forcedPlatform = some ⟨"", "platforms", "target"⟩ ∧
      (∀ exchange ∈ (mixedSupply.shelfEngine fullShelf).transcript
          ((mixedSupply.shelfEngine fullShelf).attempt targetKey ()).1.reads (),
        (mixedSupply.stock fullShelf).Exhibits exchange) ∧
      ∃ resolution,
        ((mixedSupply.shelfEngine fullShelf).attempt targetKey ()).1.outcome = .ok resolution ∧
        resolution.executionPlatform.label = ⟨"", "platforms", "target"⟩ ∧
        resolution.toolchains.entries =
          [(⟨⟨"", "toolchains", "cc"⟩⟩, ⟨"", "cc", "target"⟩),
            (⟨⟨"", "toolchains", "py"⟩⟩, ⟨"", "py", "target"⟩)] ∧
        resolution.skipped.map Prod.fst = [⟨"", "platforms", "mac"⟩] := by
  have exhibited := mixedSupply.exhibits_shelfEngine fullShelf
    ((mixedSupply.shelfEngine fullShelf).attempt targetKey ()).1.reads
  have equipped : ∀ type ∈ (mixedSupply.stock fullShelf).types targetKey,
      ((mixedSupply.stock fullShelf).toolchain? type
        ⟨"", "platforms", "target"⟩).isSome = true := by
    decide +kernel
  have forces := (outcome_of_forced (mixedSupply.shelfEngine fullShelf) targetKey () _ rfl).1
    (mixedSupply.stock fullShelf) exhibited
  exact ⟨rfl, exhibited, _, forces.selected ⟨.inr (.inl rfl), equipped⟩, rfl, by decide +kernel,
    by decide +kernel⟩

end CrossBuild
