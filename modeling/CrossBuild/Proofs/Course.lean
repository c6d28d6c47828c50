import CrossBuild.Proofs.PartialResults
import CrossBuild.Proofs.Transcript
import CrossBuild.Resolution.Resolve

/-!
The course of an attempt at a resolution: which reads it makes, where it can stop, and what it
makes of the answers.  `attempt_course` is the one place where the steps of a resolution are run;
what holds of every attempt is read off the courses.
-/

namespace CrossBuild

namespace ResolutionKey

variable {σ : Type} (key : ResolutionKey)

def inputs (configuration : PlatformConfiguration) (types : OrderedMap Label ToolchainType)
    (registered : List Label) : ResolutionInputs where
  configuration := configuration
  explained := key.isExplained configuration
  types := types
  requirements := ToolchainRequirement.canonicalAll types key.requirements
  candidates := candidatePlatforms registered configuration.host

def inputExchanges (configuration : PlatformConfiguration)
    (types : Eval (OrderedMap Label ToolchainType)) (platforms : Eval (OrderedMap Label Platform))
    (registered : Eval (List Label)) : List Exchange :=
  [⟨.configuration key.configuration, .ok configuration⟩,
    ⟨.toolchainTypes key.configuration key.requestedTypes, types⟩,
    ⟨.platforms [configuration.host, configuration.target], platforms⟩,
    ⟨.registeredPlatforms key.configuration, registered⟩]

inductive Opens : List Exchange → Eval ResolutionInputs → Prop
  | unconfigured (cause : Suspension) :
      Opens [⟨.configuration key.configuration, .error cause⟩] (.error cause)
  | unanswered (configuration types platforms registered) (cause : Suspension)
      (stopped : Eval.joinPair types (Eval.joinPair platforms registered) = .error cause) :
      Opens (key.inputExchanges configuration types platforms registered) (.error cause)
  | opened (configuration types platforms registered) :
      Opens (key.inputExchanges configuration (.ok types) (.ok platforms) (.ok registered))
        (.ok (key.inputs configuration types registered))

def screeningExchanges (inputs : ResolutionInputs) (known : Eval (OrderedMap Label Platform))
    (required : Eval (List ConstraintValue)) : List Exchange :=
  [⟨.platforms inputs.candidates, known⟩, ⟨.constraintValues key.executionConstraints, required⟩]

def screeningEvents (inputs : ResolutionInputs) (screening : Screening) : List Event :=
  if inputs.explained then screening.messages.map .info else []

inductive Screens (inputs : ResolutionInputs) :
    List Exchange → List Event → Eval Screening → Prop
  | unconstrained (free : key.executionConstraints = []) :
      Screens inputs [] [] (.ok (.keepAll inputs.candidates))
  | unanswered (constrained : key.executionConstraints ≠ []) (known required)
      (cause : Suspension) (stopped : Eval.joinPair known required = .error cause) :
      Screens inputs (key.screeningExchanges inputs known required) [] (.error cause)
  | unknown (constrained : key.executionConstraints ≠ []) (known required) (candidate : Label)
      (found : (Screening.run known required inputs.candidates).unknown = some candidate) :
      Screens inputs (key.screeningExchanges inputs (.ok known) (.ok required))
        (screeningEvents inputs (Screening.run known required inputs.candidates))
        (Eval.fail (.lookup (.invalidPlatform candidate)))
  | screened (constrained : key.executionConstraints ≠ []) (known required)
      (all : (Screening.run known required inputs.candidates).unknown = none) :
      Screens inputs (key.screeningExchanges inputs (.ok known) (.ok required))
        (screeningEvents inputs (Screening.run known required inputs.candidates))
        (.ok (Screening.run known required inputs.candidates))

def choice (inputs : ResolutionInputs) (candidates : List Label) : PlatformChoice where
  host := inputs.configuration.host
  target := inputs.configuration.target
  candidates := candidates

inductive Chooses (inputs : ResolutionInputs) (candidates : List Label) :
    List Exchange → Eval Selection → Prop
  | answered (answers : List (Eval ToolchainAvailability)) :
      Chooses inputs candidates [⟨.toolchains (key.queries inputs candidates), answers⟩]
        ((choice inputs candidates).select key.forcedPlatform inputs.requirements
          (inputs.requirements.zip answers))

theorem Chooses.exists_answers {key : ResolutionKey} {inputs : ResolutionInputs}
    {candidates : List Label} {exchanges : List Exchange} {result : Eval Selection}
    (chooses : key.Chooses inputs candidates exchanges result) :
    ∃ answers, exchanges = [⟨.toolchains (key.queries inputs candidates), answers⟩] ∧
      (choice inputs candidates).select key.forcedPlatform inputs.requirements
        (inputs.requirements.zip answers) = result := by
  cases chooses with
  | answered answers => exact ⟨answers, rfl, rfl⟩

def resolution (inputs : ResolutionInputs) (screening : Screening) (selection : Selection)
    (execution target : Platform) : Resolution where
  executionPlatform := execution
  targetPlatform := target
  requirements := inputs.requirements
  requestedTypes := inputs.types
  toolchains := selection.toolchains
  skipped := screening.skipped ++ selection.skipped

def selectionEvents (inputs : ResolutionInputs) (selection : Selection)
    (execution target : Platform) : List Event :=
  if inputs.explained then [.info (selectionMessage target execution selection.toolchains)] else []

inductive Finishes (inputs : ResolutionInputs) (screening : Screening) (selection : Selection) :
    List Exchange → List Event → Eval Resolution → Prop
  | unanswered (cause : Suspension) :
      Finishes inputs screening selection
        [⟨.platforms [selection.platform, inputs.configuration.target], .error cause⟩] []
        (.error cause)
  | unknown (known : OrderedMap Label Platform) (label : Label)
      (asked : label ∈ [selection.platform, inputs.configuration.target])
      (absent : known.get? label = none) :
      Finishes inputs screening selection
        [⟨.platforms [selection.platform, inputs.configuration.target], .ok known⟩] []
        (Eval.fail (.lookup (.invalidPlatform label)))
  | finished (known : OrderedMap Label Platform) (execution target : Platform)
      (executionFound : known.get? selection.platform = some execution)
      (targetFound : known.get? inputs.configuration.target = some target) :
      Finishes inputs screening selection
        [⟨.platforms [selection.platform, inputs.configuration.target], .ok known⟩]
        (selectionEvents inputs selection execution target)
        (.ok (resolution inputs screening selection execution target))

/-- An attempt goes through four steps, and stops at the first one that has no value. -/
inductive Course : List Exchange → List Event → Eval Resolution → Prop
  | unopened {opening cause} (opens : key.Opens opening (.error cause)) :
      Course opening [] (.error cause)
  | unscreened {opening inputs screened events cause} (opens : key.Opens opening (.ok inputs))
      (screens : key.Screens inputs screened events (.error cause)) :
      Course (opening ++ screened) events (.error cause)
  | unchosen {opening inputs screened events screening chosen cause}
      (opens : key.Opens opening (.ok inputs))
      (screens : key.Screens inputs screened events (.ok screening))
      (chooses : key.Chooses inputs screening.kept chosen (.error cause)) :
      Course (opening ++ (screened ++ chosen)) events (.error cause)
  | chosen {opening inputs screened events screening chosen selection finished laterEvents result}
      (opens : key.Opens opening (.ok inputs))
      (screens : key.Screens inputs screened events (.ok screening))
      (chooses : key.Chooses inputs screening.kept chosen (.ok selection))
      (finishes : Finishes inputs screening selection finished laterEvents result) :
      Course (opening ++ (screened ++ (chosen ++ finished))) (events ++ laterEvents) result

variable (engine : Engine σ)

open Attempt

theorem readInputs_takes :
    Takes engine (key.readInputs engine) fun exchanges events result =>
      events = [] ∧ key.Opens exchanges result := by
  apply Takes.ask_bind
  intro configuration
  apply Takes.ofEval_bind
  · rintro cause rfl
    exact ⟨rfl, .unconfigured cause⟩
  rintro configuration rfl
  apply Takes.ask_bind
  intro types
  apply Takes.ask_bind
  intro platforms
  apply Takes.ask_bind
  intro registered
  apply Takes.ofEval_bind
  · intro cause stopped
    exact ⟨rfl, .unanswered configuration types platforms registered cause stopped⟩
  rintro ⟨typesValue, platformsValue, registeredValue⟩ joined
  obtain ⟨rfl, rest⟩ := Eval.joinPair_eq_ok_iff.mp joined
  obtain ⟨rfl, rfl⟩ := Eval.joinPair_eq_ok_iff.mp rest
  apply Takes.pure
  exact ⟨rfl, .opened configuration typesValue platformsValue registeredValue⟩

theorem screen_takes (inputs : ResolutionInputs) :
    Takes engine (key.screen engine inputs) (key.Screens inputs) := by
  unfold screen
  split
  next free =>
    apply Takes.pure
    exact .unconstrained (List.isEmpty_iff.mp free)
  next constrained =>
    rw [List.isEmpty_iff] at constrained
    apply Takes.ask_bind
    intro known
    apply Takes.ask_bind
    intro required
    apply Takes.ofEval_bind
    · intro cause stopped
      exact .unanswered constrained known required cause stopped
    rintro ⟨knownValue, requiredValue⟩ joined
    obtain ⟨rfl, rfl⟩ := Eval.joinPair_eq_ok_iff.mp joined
    apply Takes.explain_bind
    split
    next candidate found =>
      apply Takes.ofEval
      rw [List.append_nil]
      exact .unknown constrained knownValue requiredValue candidate found
    next all =>
      apply Takes.pure
      rw [List.append_nil]
      exact .screened constrained knownValue requiredValue all

theorem choose_takes (inputs : ResolutionInputs) (candidates : List Label) :
    Takes engine (key.choose engine inputs candidates) fun exchanges events result =>
      events = [] ∧ key.Chooses inputs candidates exchanges result := by
  apply Takes.ask_bind
  intro answers
  apply Takes.ofEval
  exact ⟨rfl, .answered answers⟩

theorem platformOf_eq_ok_iff {known : OrderedMap Label Platform} {label : Label}
    {platform : Platform} :
    platformOf known label = .ok platform ↔ known.get? label = some platform := by
  unfold platformOf
  cases known.get? label <;> simp [Eval.fail]

theorem platformOf_eq_error_iff {known : OrderedMap Label Platform} {label : Label}
    {cause : Suspension} :
    platformOf known label = .error cause ↔
      known.get? label = none ∧
        cause = .failed { root := .lookup (.invalidPlatform label) } := by
  unfold platformOf
  cases known.get? label <;> simp [Eval.fail, eq_comm]

def finish (inputs : ResolutionInputs) (screening : Screening) (selection : Selection) :
    Attempt σ Resolution := do
  let platforms ← ofEval
    (← ask engine (.platforms [selection.platform, inputs.configuration.target]))
  let execution ← ofEval (platformOf platforms selection.platform)
  let target ← ofEval (platformOf platforms inputs.configuration.target)
  explain inputs.explained [selectionMessage target execution selection.toolchains]
  return resolution inputs screening selection execution target

theorem resolve_eq :
    key.resolve engine = (do
      let inputs ← key.readInputs engine
      let screening ← key.screen engine inputs
      let selection ← key.choose engine inputs screening.kept
      finish engine inputs screening selection) := rfl

theorem finish_takes (inputs : ResolutionInputs) (screening : Screening) (selection : Selection) :
    Takes engine (finish engine inputs screening selection)
      (Finishes inputs screening selection) := by
  apply Takes.ask_bind
  intro platforms
  apply Takes.ofEval_bind
  · rintro cause rfl
    exact .unanswered cause
  rintro known rfl
  apply Takes.ofEval_bind
  · intro cause stopped
    obtain ⟨absent, rfl⟩ := platformOf_eq_error_iff.mp stopped
    exact .unknown known _ List.mem_cons_self absent
  intro execution executionFound
  apply Takes.ofEval_bind
  · intro cause stopped
    obtain ⟨absent, rfl⟩ := platformOf_eq_error_iff.mp stopped
    exact .unknown known _ (by simp) absent
  intro target targetFound
  apply Takes.explain_bind
  apply Takes.pure
  rw [List.append_nil]
  exact .finished known execution target (platformOf_eq_ok_iff.mp executionFound)
    (platformOf_eq_ok_iff.mp targetFound)

theorem resolve_takes : Takes engine (key.resolve engine) key.Course := by
  rw [resolve_eq]
  apply Takes.bind _ (key.readInputs_takes engine)
  · rintro exchanges events cause ⟨rfl, opens⟩
    exact .unopened opens
  rintro opening openingEvents inputs ⟨rfl, opens⟩
  apply Takes.bind _ (key.screen_takes engine inputs)
  · intro exchanges events cause screens
    exact .unscreened opens screens
  intro screened events screening screens
  apply Takes.bind _ (key.choose_takes engine inputs screening.kept)
  · rintro exchanges chosenEvents cause ⟨rfl, chooses⟩
    simp only [List.append_nil, List.nil_append]
    exact .unchosen opens screens chooses
  rintro chosen chosenEvents selection ⟨rfl, chooses⟩
  simp only [List.nil_append]
  refine (finish_takes engine inputs screening selection).mono ?_
  intro finished events result finishes
  exact .chosen opens screens chooses finishes

end ResolutionKey

namespace Engine

variable {σ : Type} (engine : Engine σ) (key : ResolutionKey) (state : σ)

theorem outcome_attempt :
    (engine.attempt key state).1.outcome = (key.resolve engine { state := state }).1 := rfl

theorem reads_attempt :
    (engine.attempt key state).1.reads = (key.resolve engine { state := state }).2.reads := rfl

theorem events_attempt :
    (engine.attempt key state).1.events = (key.resolve engine { state := state }).2.events := rfl

theorem state_attempt :
    (engine.attempt key state).2 = (key.resolve engine { state := state }).2.state := rfl

/-- An attempt runs a course on the answers that the engine gives to its reads. -/
theorem attempt_course :
    key.Course (engine.transcript (engine.attempt key state).1.reads state)
      (engine.attempt key state).1.events.events (engine.attempt key state).1.outcome ∧
    (engine.attempt key state).2 = engine.after (engine.attempt key state).1.reads state := by
  obtain ⟨exchanges, events, gives, reads, buffered, course⟩ :=
    key.resolve_takes engine { state := state }
  simp only [List.nil_append] at reads buffered
  rw [outcome_attempt, reads_attempt, events_attempt, state_attempt, reads, buffered,
    gives.answers]
  exact ⟨course, gives.states.symm⟩

end Engine

end CrossBuild
