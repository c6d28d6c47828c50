import CrossBuild.Proofs.SuppliedChoice
import Mathlib.Data.List.TakeWhile

/-!
An attempt on an engine that serves a supply comes to the verdict on this supply.
-/

namespace CrossBuild.Supply

variable {supply : Supply} {key : ResolutionKey} {opening screened finished : List Exchange}

def Grounds (supply : Supply) : Exchange → Prop
  | ⟨.toolchains _, _⟩ => True
  | exchange => supply.Answers exchange

theorem Answers.grounds {exchange : Exchange} (answers : supply.Answers exchange) :
    supply.Grounds exchange := by
  rcases exchange with ⟨_ | _ | _ | _ | _ | _, answer⟩
  case toolchains => trivial
  all_goals exact answers

def inputs (supply : Supply) (key : ResolutionKey) : ResolutionInputs :=
  key.inputs supply.configuration supply.aliases supply.registered

theorem candidates_inputs : (supply.inputs key).candidates = supply.candidates := by
  simp only [inputs, ResolutionKey.inputs, candidatePlatforms, candidates]
  split <;> simp

theorem label_denotedBy (requested : Label) :
    (ToolchainType.denotedBy supply.aliases requested).label = supply.canonical requested := by
  unfold ToolchainType.denotedBy canonical
  cases supply.aliases.get? requested <;> rfl

theorem map_toolchainType_requirements :
    (supply.inputs key).requirements.map ToolchainRequirement.toolchainType =
      supply.types key := by
  have merged := ToolchainRequirement.map_toolchainType_canonicalAll supply.aliases key.requirements
  simp only [label_denotedBy] at merged
  exact merged

theorem opens_eq {result : Eval ResolutionInputs} (opens : key.Opens opening result)
    (served : ∀ exchange ∈ opening, supply.Grounds exchange) :
    result = .ok (supply.inputs key) := by
  cases opens with
  | unconfigured cause => cases served _ List.mem_cons_self
  | unanswered configuration types platforms registered cause stopped =>
      have typesServed := served ⟨.toolchainTypes key.configuration key.requestedTypes, types⟩
        (by simp [ResolutionKey.inputExchanges])
      have platformsServed := served
        ⟨.platforms [configuration.host, configuration.target], platforms⟩
        (by simp [ResolutionKey.inputExchanges])
      have registeredServed := served ⟨.registeredPlatforms key.configuration, registered⟩
        (by simp [ResolutionKey.inputExchanges])
      obtain ⟨known, rfl, _⟩ := platformsServed
      cases typesServed
      cases registeredServed
      cases stopped
  | opened configuration types platforms registered =>
      have configurationServed := served ⟨.configuration key.configuration, .ok configuration⟩
        (by simp [ResolutionKey.inputExchanges])
      have typesServed := served
        ⟨.toolchainTypes key.configuration key.requestedTypes, .ok types⟩
        (by simp [ResolutionKey.inputExchanges])
      have registeredServed := served ⟨.registeredPlatforms key.configuration, .ok registered⟩
        (by simp [ResolutionKey.inputExchanges])
      cases configurationServed
      cases typesServed
      cases registeredServed
      rfl

theorem lacking_eq {known : OrderedMap Label Platform} {platform : Label}
    (found : known.get? platform = some (supply.describe platform))
    (constrained : key.executionConstraints ≠ []) :
    lacking known supply.constraints platform = supply.lacks key platform := by
  simp [lacking, lacks, required, found, constrained]

theorem screening_served {known : Eval (OrderedMap Label Platform)}
    {required : Eval (List ConstraintValue)}
    (served : ∀ exchange ∈ key.screeningExchanges (supply.inputs key) known required,
      supply.Grounds exchange) :
    ∃ platforms, known = .ok platforms ∧ required = .ok supply.constraints ∧
      ∀ candidate ∈ supply.candidates,
        platforms.get? candidate = some (supply.describe candidate) := by
  obtain ⟨platforms, answered, described⟩ :=
    served ⟨.platforms (supply.inputs key).candidates, known⟩
      (by simp [ResolutionKey.screeningExchanges])
  rw [candidates_inputs] at described
  exact ⟨platforms, answered, served ⟨.constraintValues key.executionConstraints, required⟩
    (by simp [ResolutionKey.screeningExchanges]), described⟩

theorem run_eq {platforms : OrderedMap Label Platform}
    (constrained : key.executionConstraints ≠ [])
    (described : ∀ candidate ∈ supply.candidates,
      platforms.get? candidate = some (supply.describe candidate)) :
    (Screening.run platforms supply.constraints supply.candidates).unknown = none ∧
      (Screening.run platforms supply.constraints supply.candidates).kept = supply.kept key ∧
      (Screening.run platforms supply.constraints supply.candidates).skipped =
        supply.dropped key := by
  have known : ∀ candidate ∈ supply.candidates, platforms.contains candidate = true := by
    intro candidate member
    simp [OrderedMap.contains, described candidate member]
  have lacked : ∀ candidate ∈ supply.candidates,
      lacking platforms supply.constraints candidate = supply.lacks key candidate :=
    fun candidate member => lacking_eq (described candidate member) constrained
  rw [Screening.run_eq, List.takeWhile_eq_self_iff.mpr known]
  refine ⟨?_, ?_, ?_⟩
  · rw [List.find?_eq_none]
    intro candidate member
    simp [known candidate member]
  · apply List.filter_congr
    intro candidate member
    rw [lacked candidate member]
  · have incomplete : supply.candidates.filter (fun candidate =>
        !(lacking platforms supply.constraints candidate).isEmpty) =
          supply.candidates.filter fun candidate => !(supply.lacks key candidate).isEmpty := by
      apply List.filter_congr
      intro candidate member
      rw [lacked candidate member]
    rw [Screening.skipped, dropped, List.filter_map, List.map_map, ← incomplete]
    apply List.map_congr_left
    intro candidate member
    simp [lacked candidate (List.mem_of_mem_filter member)]

theorem screens_eq {events : List Event} {result : Eval Screening}
    (screens : key.Screens (supply.inputs key) screened events result)
    (served : ∀ exchange ∈ screened, supply.Grounds exchange) :
    ∃ screening, result = .ok screening ∧ screening.kept = supply.kept key ∧
      screening.skipped = supply.dropped key := by
  cases screens with
  | unconstrained free =>
      have lacksNothing (platform : Label) : supply.lacks key platform = [] := by
        simp [lacks, required, free]
      refine ⟨_, rfl, ?_, ?_⟩
      · rw [Screening.keepAll, candidates_inputs, kept]
        simp [lacksNothing]
      · simp [Screening.keepAll, Screening.skipped, dropped, lacksNothing]
  | unanswered constrained known required cause stopped =>
      obtain ⟨platforms, rfl, rfl, _⟩ := screening_served served
      cases stopped
  | unknown constrained known required candidate found =>
      obtain ⟨platforms, answered, requiredAnswered, described⟩ := screening_served served
      cases answered
      cases requiredAnswered
      rw [candidates_inputs, (run_eq constrained described).1] at found
      cases found
  | screened constrained known required all =>
      obtain ⟨platforms, answered, requiredAnswered, described⟩ := screening_served served
      cases answered
      cases requiredAnswered
      rw [candidates_inputs]
      exact ⟨_, rfl, (run_eq constrained described).2⟩

theorem finishes_eq {screening : Screening} {selection : Selection} {events : List Event}
    {outcome : Eval Resolution}
    (finishes : ResolutionKey.Finishes (supply.inputs key) screening selection finished events
      outcome)
    (served : ∀ exchange ∈ finished, supply.Grounds exchange)
    (skipped : screening.skipped = supply.dropped key) :
    outcome = .ok (supply.resolution key selection) := by
  cases finishes with
  | unanswered cause =>
      obtain ⟨_, impossible, _⟩ := served _ List.mem_cons_self
      cases impossible
  | unknown known label asked absent =>
      obtain ⟨_, answered, described⟩ := served _ List.mem_cons_self
      cases answered
      rw [described label asked] at absent
      cases absent
  | finished known execution target executionFound targetFound =>
      obtain ⟨_, answered, described⟩ := served _ List.mem_cons_self
      cases answered
      rw [described _ List.mem_cons_self] at executionFound
      rw [described _ (List.mem_cons_of_mem _ List.mem_cons_self)] at targetFound
      cases executionFound
      cases targetFound
      rw [ResolutionKey.resolution, skipped]
      rfl

/-- Apart from the answers about toolchains, a supply leaves nothing open. -/
theorem outcome_of_course {exchanges : List Exchange} {events : List Event}
    {outcome : Eval Resolution} (course : key.Course exchanges events outcome)
    (served : ∀ exchange ∈ exchanges, supply.Grounds exchange) :
    ∃ answers,
      ⟨.toolchains (key.queries (supply.inputs key) (supply.kept key)), answers⟩ ∈ exchanges ∧
      outcome = ((ResolutionKey.choice (supply.inputs key) (supply.kept key)).select
        key.forcedPlatform (supply.inputs key).requirements
          ((supply.inputs key).requirements.zip answers)).map (supply.resolution key) := by
  cases course with
  | unopened opens => cases opens_eq opens served
  | unscreened opens screens =>
      rw [List.forall_mem_append] at served
      cases opens_eq opens served.1
      obtain ⟨_, impossible, _⟩ := screens_eq screens served.2
      cases impossible
  | unchosen opens screens chooses =>
      rw [List.forall_mem_append, List.forall_mem_append] at served
      cases opens_eq opens served.1
      obtain ⟨_, same, kept, _⟩ := screens_eq screens served.2.1
      cases same
      obtain ⟨answers, rfl, selected⟩ := chooses.exists_answers
      refine ⟨answers, by simp [kept], ?_⟩
      rw [← kept, selected]
      rfl
  | chosen opens screens chooses finishes =>
      rw [List.forall_mem_append, List.forall_mem_append, List.forall_mem_append] at served
      obtain ⟨opensServed, screensServed, _, finishesServed⟩ := served
      cases opens_eq opens opensServed
      obtain ⟨_, same, kept, skipped⟩ := screens_eq screens screensServed
      cases same
      obtain ⟨answers, rfl, selected⟩ := chooses.exists_answers
      refine ⟨answers, by simp [kept], ?_⟩
      rw [← kept, selected, finishes_eq finishes finishesServed skipped]
      rfl

theorem verdict_of_course {exchanges : List Exchange} {events : List Event}
    {outcome : Eval Resolution} (course : key.Course exchanges events outcome)
    (served : ∀ exchange ∈ exchanges, supply.Answers exchange)
    (unforced : key.forcedPlatform = none) : outcome = supply.verdict key := by
  obtain ⟨answers, asked, selected⟩ := outcome_of_course course
    fun exchange member => (served exchange member).grounds
  have resolved : List.Forall₂ supply.Resolves
      (key.queries (supply.inputs key) (supply.kept key)) answers := served _ asked
  rw [ResolutionKey.queries, List.forall₂_map_left_iff] at resolved
  rw [selected, unforced, verdict]
  congr 1
  refine select_eq rfl rfl map_toolchainType_requirements ?_
  exact resolved.imp fun requirement answer found => ⟨_, rfl, rfl, found⟩

end CrossBuild.Supply

namespace CrossBuild

/-- Unless a platform is forced, a resolution selects as the description of the build says, from
whatever engine that gives the answers of this description. -/
theorem outcome_of_served {σ : Type} (supply : Supply) (engine : Engine σ) (key : ResolutionKey)
    (state : σ) (unforced : key.forcedPlatform = none)
    (served : ∀ exchange ∈ engine.transcript (engine.attempt key state).1.reads state,
      supply.Answers exchange) :
    (engine.attempt key state).1.outcome = supply.verdict key :=
  Supply.verdict_of_course (engine.attempt_course key state).1 served unforced

def mixedSupply : Supply where
  configuration :=
    { host := ⟨"", "platforms", "host"⟩
      target := ⟨"", "platforms", "target"⟩
      debugFilter := .disabled }
  describe label :=
    { label := label
      constraints :=
        if label.name = "mac" then .empty
        else .single ⟨⟨"", "constraints", "linux"⟩, ⟨⟨"", "constraints", "os"⟩⟩⟩ }
  label_describe _ := rfl
  aliases := .ofList [(⟨"", "toolchains", "c++"⟩, ⟨⟨"", "toolchains", "cc"⟩⟩)]
  registered := [⟨"", "platforms", "remote"⟩, ⟨"", "platforms", "mac"⟩, ⟨"", "platforms", "host"⟩,
    ⟨"", "platforms", "local"⟩, ⟨"", "platforms", "remote"⟩]
  constraints := [⟨⟨"", "constraints", "linux"⟩, ⟨⟨"", "constraints", "os"⟩⟩⟩]
  toolchain? type platform :=
    if type.name = "cc" ∨ platform.name = "local" ∨ platform.name = "mac" then
      some ⟨"", type.name, platform.name⟩
    else none

def mixedKey : ResolutionKey where
  configuration := ⟨"opt"⟩
  requirements := [{ toolchainType := ⟨"", "toolchains", "c++"⟩ },
    { toolchainType := ⟨"", "toolchains", "py"⟩ }, { toolchainType := ⟨"", "toolchains", "cc"⟩ }]
  executionConstraints := [⟨"", "constraints", "linux"⟩]

theorem outcome_of_served_mixedSupply :
    mixedKey.forcedPlatform = none ∧
      (∀ exchange ∈ mixedSupply.engine.transcript
          (mixedSupply.engine.attempt mixedKey ()).1.reads (), mixedSupply.Answers exchange) ∧
      ∃ resolution, (mixedSupply.engine.attempt mixedKey ()).1.outcome = .ok resolution ∧
        resolution.executionPlatform.label = ⟨"", "platforms", "local"⟩ ∧
        resolution.toolchains.entries =
          [(⟨⟨"", "toolchains", "cc"⟩⟩, ⟨"", "cc", "local"⟩),
            (⟨⟨"", "toolchains", "py"⟩⟩, ⟨"", "py", "local"⟩)] ∧
        resolution.skipped.map Prod.fst = [⟨"", "platforms", "mac"⟩, ⟨"", "platforms", "remote"⟩,
          ⟨"", "platforms", "host"⟩] :=
  ⟨rfl, mixedSupply.served_engine _, _,
    (outcome_of_served mixedSupply mixedSupply.engine mixedKey () rfl
      (mixedSupply.served_engine _)).trans (by rfl),
    by decide +kernel, by decide +kernel, by decide +kernel⟩

end CrossBuild
