import CrossBuild.Proofs.Choice
import CrossBuild.Proofs.Comparison
import CrossBuild.Proofs.Supply

/-!
Two attempts side by side that get the same answers.  Their keys may spell the request in different
ways, and one of them may be explained while the other one is not.  They take the same steps and
come to the same end.
-/

namespace CrossBuild

namespace Eval

variable {α β γ δ : Type}

/-- Two values that go together, or one and the same suspension. -/
inductive Alike (values : α → β → Prop) : Eval α → Eval β → Prop
  | ok {value : α} {other : β} (related : values value other) :
      Alike values (.ok value) (.ok other)
  | error (cause : Suspension) : Alike values (.error cause) (.error cause)

theorem Alike.of_eq {result other : Eval α} (same : result = other) : Alike Eq result other := by
  subst same
  cases result with
  | error cause => exact .error cause
  | ok value => exact .ok rfl

theorem Alike.imp {values weaker : α → β → Prop} {result : Eval α} {other : Eval β}
    (alike : Alike values result other)
    (implies : ∀ value otherValue, values value otherValue → weaker value otherValue) :
    Alike weaker result other := by
  cases alike with
  | ok related => exact .ok (implies _ _ related)
  | error cause => exact .error cause

theorem Alike.joinPair {values : α → β → Prop} {laterValues : γ → δ → Prop} {first : Eval α}
    {other : Eval β} {second : Eval γ} {otherSecond : Eval δ} (one : Alike values first other)
    (two : Alike laterValues second otherSecond) :
    Alike (fun pair others => values pair.1 others.1 ∧ laterValues pair.2 others.2)
      (Eval.joinPair first second) (Eval.joinPair other otherSecond) := by
  cases one with
  | ok related =>
      cases two with
      | ok laterRelated => exact .ok ⟨related, laterRelated⟩
      | error cause => cases cause <;> exact .error _
  | error cause =>
      cases two with
      | ok laterRelated => cases cause <;> exact .error _
      | error laterCause => cases cause <;> cases laterCause <;> exact .error _

end Eval

section Agreement

variable {σ τ α β γ δ : Type}

/-- The reads are the same as far as `blur` can tell.  There is one list of messages to tell, and
each session buffers them if it is explained. -/
structure SameStory (blur : Read → Read) (explained otherExplained : Bool) (left : Session σ)
    (right : Session τ) : Prop where
  reads : left.reads.map blur = right.reads.map blur
  events : ∃ messages : List Event,
    left.events.events = (if explained then messages else []) ∧
    right.events.events = if otherExplained then messages else []

def agreement (related : σ → τ → Prop) (blur : Read → Read) (explained otherExplained : Bool) :
    Comparison σ τ where
  sessions left right :=
    related left.state right.state ∧ SameStory blur explained otherExplained left right
  stopped cause left other right :=
    other = some cause ∧ SameStory blur explained otherExplained left right
  persists := by
    rintro cause left right later other ⟨impossible, _⟩
    cases impossible

def Engine.Concurs (first : Engine σ) (second : Engine τ) (related : σ → τ → Prop)
    (read other : Read) (answers : read.Answer → other.Answer → Prop) : Prop :=
  ∀ state otherState, related state otherState →
    answers (first.answer read state).1 (second.answer other otherState).1 ∧
      related (first.answer read state).2 (second.answer other otherState).2

variable {related : σ → τ → Prop} {blur : Read → Read} {explained otherExplained : Bool}
  {first : Engine σ} {second : Engine τ} {values : α → β → Prop} {laterValues : γ → δ → Prop}

namespace Attempt

theorem agree_ofEval {result : Eval α} {other : Eval β} (alike : Eval.Alike values result other) :
    (agreement related blur explained otherExplained).Relates values (ofEval result)
      (ofEval other) := by
  apply Comparison.Relates.ofEval
  · rintro value rfl
    cases alike with
    | ok same => exact ⟨_, rfl, same⟩
  · rintro cause rfl left right ⟨_, story⟩
    cases alike with
    | error => exact ⟨rfl, story⟩

theorem agree_bind {one : Attempt σ α} {two : Attempt τ β} {next : α → Attempt σ γ}
    {otherNext : β → Attempt τ δ}
    (begins : (agreement related blur explained otherExplained).Relates values one two)
    (rest : ∀ value other, values value other →
      (agreement related blur explained otherExplained).Relates laterValues (next value)
        (otherNext other)) :
    (agreement related blur explained otherExplained).Relates laterValues (one >>= next)
      (two >>= otherNext) :=
  begins.bind_of_survives rest fun _ stopped => by cases stopped.1

theorem agree_ask_bind {read other : Read} {next : read.Answer → Attempt σ γ}
    {otherNext : other.Answer → Attempt τ δ} {answers : read.Answer → other.Answer → Prop}
    (same : blur read = blur other) (concurs : first.Concurs second related read other answers)
    (rest : ∀ answer otherAnswer, answers answer otherAnswer →
      (agreement related blur explained otherExplained).Relates laterValues (next answer)
        (otherNext otherAnswer)) :
    (agreement related blur explained otherExplained).Relates laterValues
      (ask first read >>= next) (ask second other >>= otherNext) := by
  refine Comparison.Relates.ask_bind answers ?_ rest
  rintro left right ⟨states, story⟩
  obtain ⟨alike, later⟩ := concurs left.state right.state states
  exact ⟨alike, later, by simp [ask, story.reads, same], story.events⟩

theorem agree_explain (messages : List String) :
    (agreement related blur explained otherExplained).Relates (fun _ _ => True)
      (explain explained messages) (explain otherExplained messages) := by
  apply Comparison.Relates.explain
  rintro left right ⟨states, reads, buffered, events, otherEvents⟩
  have told (wanted : Bool) {υ : Type} (session : Session υ)
      (held : session.events.events = if wanted then buffered else []) :
      (explain wanted messages session).2.events.events =
        if wanted then buffered ++ messages.map .info else [] := by
    cases wanted with
    | false => exact held
    | true => exact (Takes.events_foldl_info messages session.events).trans (by rw [held]; rfl)
  refine ⟨?_, ?_, _, told explained left events, told otherExplained right otherEvents⟩
  · cases explained <;> cases otherExplained <;> exact states
  · cases explained <;> cases otherExplained <;> exact reads

/-- Attempts that agree come to the same end. -/
theorem outcome_of_agree {one : Attempt σ α} {two : Attempt τ β}
    (agrees : (agreement related blur explained otherExplained).Relates values one two)
    {left : Session σ} {right : Session τ} (states : related left.state right.state)
    (story : SameStory blur explained otherExplained left right) :
    Eval.Alike values (one left).1 (two right).1 ∧
      SameStory blur explained otherExplained (one left).2 (two right).2 := by
  rcases ran : one left with ⟨cause | value, later⟩
  · obtain ⟨stopped, laterStory⟩ := agrees.stops ⟨states, story⟩ ran
    rw [Eval.stop?_eq_some_iff.mp stopped]
    exact ⟨.error cause, laterStory⟩
  · obtain ⟨other, otherLater, same, alike, _, laterStory⟩ := agrees.goes ⟨states, story⟩ ran
    rw [same]
    exact ⟨.ok alike, laterStory⟩

end Attempt

end Agreement

structure PlatformConfiguration.SamePlatforms (one two : PlatformConfiguration) : Prop where
  host : one.host = two.host
  target : one.target = two.target

/-- In related states, two engines give the same answers.  Their configurations may have different
filters, and queries for toolchains may differ in what `blur` takes away. -/
structure Engine.Agrees {σ τ : Type} (blur : Read → Read) (related : σ → τ → Prop)
    (first : Engine σ) (second : Engine τ) : Prop where
  configuration : ∀ key, first.Concurs second related (.configuration key) (.configuration key)
    (Eval.Alike PlatformConfiguration.SamePlatforms)
  platforms : ∀ labels, first.Concurs second related (.platforms labels) (.platforms labels) Eq
  constraintValues : ∀ labels,
    first.Concurs second related (.constraintValues labels) (.constraintValues labels) Eq
  registeredPlatforms : ∀ key,
    first.Concurs second related (.registeredPlatforms key) (.registeredPlatforms key) Eq
  toolchains : ∀ queries others, blur (.toolchains queries) = blur (.toolchains others) →
    first.Concurs second related (.toolchains queries) (.toolchains others) Eq

namespace ToolchainAnswer

def bare (answer : ToolchainAnswer) : ToolchainAnswer :=
  ({ toolchainType := answer.1.toolchainType }, answer.2)

theorem collect_map_bare (answers : List ToolchainAnswer) :
    collect (answers.map bare) = collect answers := by
  simp only [collect, List.filterMap_map, List.findSome?_map, List.any_map]
  rfl

theorem map_bare_zip (requirements : List ToolchainRequirement)
    (answers : List (Eval ToolchainAvailability)) :
    (requirements.zip answers).map bare =
      ((requirements.map ToolchainRequirement.toolchainType).map fun label =>
        { toolchainType := label }).zip answers := by
  rw [List.map_map, List.zip_map_left]
  rfl

theorem collect_zip_congr {requirements others : List ToolchainRequirement}
    (same : requirements.map ToolchainRequirement.toolchainType =
      others.map ToolchainRequirement.toolchainType) (answers : List (Eval ToolchainAvailability)) :
    collect (requirements.zip answers) = collect (others.zip answers) := by
  rw [← collect_map_bare, ← collect_map_bare (others.zip answers), map_bare_zip, map_bare_zip, same]

end ToolchainAnswer

theorem PlatformChoice.select_zip_congr (choice : PlatformChoice) (forced : Option Label)
    {requirements others : List ToolchainRequirement}
    (same : requirements.map ToolchainRequirement.toolchainType =
      others.map ToolchainRequirement.toolchainType) (answers : List (Eval ToolchainAvailability)) :
    choice.select forced requirements (requirements.zip answers) =
      choice.select forced others (others.zip answers) := by
  rw [select, select, ToolchainAnswer.collect_zip_congr same, same]

structure Resolution.Matches (key other : ResolutionKey)
    (spelled : OrderedMap Label ToolchainType → OrderedMap Label ToolchainType → Prop)
    (one two : Resolution) : Prop where
  executionPlatform : one.executionPlatform = two.executionPlatform
  targetPlatform : one.targetPlatform = two.targetPlatform
  toolchains : one.toolchains = two.toolchains
  skipped : one.skipped = two.skipped
  requestedTypes : spelled one.requestedTypes two.requestedTypes
  requirements : one.requirements =
    ToolchainRequirement.canonicalAll one.requestedTypes key.requirements
  otherRequirements : two.requirements =
    ToolchainRequirement.canonicalAll two.requestedTypes other.requirements

structure Parallel {σ τ : Type} (blur : Read → Read)
    (spelled : OrderedMap Label ToolchainType → OrderedMap Label ToolchainType → Prop)
    (related : σ → τ → Prop) (first : Engine σ) (second : Engine τ) (key other : ResolutionKey) :
    Prop where
  agrees : first.Agrees blur related second
  configuration : key.configuration = other.configuration
  executionConstraints : key.executionConstraints = other.executionConstraints
  forcedPlatform : key.forcedPlatform = other.forcedPlatform
  typesRead : blur (.toolchainTypes key.configuration key.requestedTypes) =
    blur (.toolchainTypes other.configuration other.requestedTypes)
  types : first.Concurs second related (.toolchainTypes key.configuration key.requestedTypes)
    (.toolchainTypes other.configuration other.requestedTypes) (Eval.Alike spelled)
  required : ∀ types others, spelled types others →
    (ToolchainRequirement.canonicalAll types key.requirements).map
        ToolchainRequirement.toolchainType =
      (ToolchainRequirement.canonicalAll others other.requirements).map
        ToolchainRequirement.toolchainType
  queries : ∀ configuration otherConfiguration types others registered candidates,
    configuration.SamePlatforms otherConfiguration → spelled types others →
      blur (.toolchains (key.queries (key.inputs configuration types registered) candidates)) =
        blur (.toolchains
          (other.queries (other.inputs otherConfiguration others registered) candidates))

namespace ResolutionKey

open Attempt

variable {σ : Type} (engine : Engine σ) (key : ResolutionKey)

def gather (configuration : PlatformConfiguration) : Attempt σ ResolutionInputs := do
  let types ← ask engine (.toolchainTypes key.configuration key.requestedTypes)
  let platforms ← ask engine (.platforms [configuration.host, configuration.target])
  let registered ← ask engine (.registeredPlatforms key.configuration)
  let (types, _, registered) ← ofEval (Eval.joinPair types (Eval.joinPair platforms registered))
  return key.inputs configuration types registered

def proceed (configuration : PlatformConfiguration) : Attempt σ Resolution := do
  let inputs ← key.gather engine configuration
  let screening ← key.screen engine inputs
  let selection ← key.choose engine inputs screening.kept
  finish engine inputs screening selection

theorem resolve_eq_proceed :
    key.resolve engine = (do
      let configuration ← ofEval (← ask engine (.configuration key.configuration))
      key.proceed engine configuration) := by
  have opened : key.readInputs engine = (do
      let configuration ← ofEval (← ask engine (.configuration key.configuration))
      key.gather engine configuration) := rfl
  rw [resolve_eq, opened, bind_assoc]
  simp only [bind_assoc]
  rfl

def resume (state : σ) : Attempt σ Resolution :=
  match (engine.answer (.configuration key.configuration) state).1 with
  | .ok configuration => key.proceed engine configuration
  | .error cause => ofEval (.error cause)

theorem resolve_eq_resume (state : σ) :
    key.resolve engine { state := state } =
      key.resume engine state
        { state := (engine.answer (.configuration key.configuration) state).2
          reads := [.configuration key.configuration] } := by
  rw [resolve_eq_proceed, run_bind, resume]
  change ((ofEval (engine.answer (.configuration key.configuration) state).1 : Attempt σ _) >>=
    key.proceed engine) _ = _
  rw [run_bind]
  cases (engine.answer (.configuration key.configuration) state).1 <;> rfl

end ResolutionKey

namespace Parallel

open Attempt ResolutionKey

variable {σ τ : Type} {blur : Read → Read}
  {spelled : OrderedMap Label ToolchainType → OrderedMap Label ToolchainType → Prop}
  {related : σ → τ → Prop} {first : Engine σ} {second : Engine τ} {key other : ResolutionKey}
  {explained otherExplained : Bool}
  (parallel : Parallel blur spelled related first second key other)
  {configuration otherConfiguration : PlatformConfiguration}

include parallel

theorem agree_gather (same : configuration.SamePlatforms otherConfiguration) :
    (agreement related blur explained otherExplained).Relates
      (fun inputs others => ∃ types otherTypes registered, spelled types otherTypes ∧
        inputs = key.inputs configuration types registered ∧
        others = other.inputs otherConfiguration otherTypes registered)
      (key.gather first configuration) (other.gather second otherConfiguration) := by
  apply agree_ask_bind parallel.typesRead parallel.types
  intro types otherTypes alike
  have platformsRead : first.Concurs second related
      (.platforms [configuration.host, configuration.target])
      (.platforms [otherConfiguration.host, otherConfiguration.target]) Eq := by
    rw [same.host, same.target]
    exact parallel.agrees.platforms _
  apply agree_ask_bind (by rw [same.host, same.target]) platformsRead
  rintro platforms _ rfl
  have registeredRead : first.Concurs second related (.registeredPlatforms key.configuration)
      (.registeredPlatforms other.configuration) Eq := by
    rw [parallel.configuration]
    exact parallel.agrees.registeredPlatforms _
  apply agree_ask_bind (by rw [parallel.configuration]) registeredRead
  rintro registered _ rfl
  have joined := alike.joinPair
    ((Eval.Alike.of_eq (Eq.refl platforms)).joinPair (Eval.Alike.of_eq (Eq.refl registered)))
  apply agree_bind (agree_ofEval joined)
  rintro ⟨typesValue, _, registeredValue⟩ ⟨otherTypesValue, _, _⟩ ⟨related, _, rfl⟩
  exact .pure ⟨typesValue, otherTypesValue, registeredValue, related, rfl, rfl⟩

theorem agree_screen {inputs others : ResolutionInputs}
    (candidates : inputs.candidates = others.candidates) :
    (agreement related blur inputs.explained others.explained).Relates Eq
      (key.screen first inputs) (other.screen second others) := by
  unfold screen
  rw [parallel.executionConstraints, candidates]
  split
  next => exact .pure rfl
  next =>
    apply agree_ask_bind rfl (parallel.agrees.platforms _)
    rintro known _ rfl
    apply agree_ask_bind rfl (parallel.agrees.constraintValues _)
    rintro required _ rfl
    apply agree_bind (agree_ofEval (.of_eq rfl))
    rintro ⟨knownValue, requiredValue⟩ _ rfl
    apply agree_bind (agree_explain _)
    intro _ _ _
    split
    next => exact agree_ofEval (.of_eq rfl)
    next => exact .pure rfl

theorem agree_choose {types otherTypes : OrderedMap Label ToolchainType} (registered : List Label)
    (same : configuration.SamePlatforms otherConfiguration) (alike : spelled types otherTypes)
    (candidates : List Label) :
    (agreement related blur explained otherExplained).Relates Eq
      (key.choose first (key.inputs configuration types registered) candidates)
      (other.choose second (other.inputs otherConfiguration otherTypes registered) candidates) := by
  have asked := parallel.queries configuration otherConfiguration types otherTypes registered
    candidates same alike
  apply agree_ask_bind asked (parallel.agrees.toolchains _ _ asked)
  rintro answers _ rfl
  have selected : (ResolutionKey.choice (key.inputs configuration types registered)
      candidates).select key.forcedPlatform
        (key.inputs configuration types registered).requirements
        ((key.inputs configuration types registered).requirements.zip answers) =
      (ResolutionKey.choice (other.inputs otherConfiguration otherTypes registered)
        candidates).select other.forcedPlatform
          (other.inputs otherConfiguration otherTypes registered).requirements
          ((other.inputs otherConfiguration otherTypes registered).requirements.zip answers) := by
    simp only [ResolutionKey.choice, ResolutionKey.inputs, same.host, same.target,
      parallel.forcedPlatform]
    exact PlatformChoice.select_zip_congr _ _ (parallel.required _ _ alike) answers
  exact agree_ofEval (.of_eq selected)

theorem agree_finish {types otherTypes : OrderedMap Label ToolchainType} (registered : List Label)
    (same : configuration.SamePlatforms otherConfiguration) (alike : spelled types otherTypes)
    (screening : Screening) (selection : Selection) :
    (agreement related blur (key.isExplained configuration)
      (other.isExplained otherConfiguration)).Relates (Resolution.Matches key other spelled)
      (finish first (key.inputs configuration types registered) screening selection)
      (finish second (other.inputs otherConfiguration otherTypes registered) screening
        selection) := by
  have targets : (key.inputs configuration types registered).configuration.target =
      (other.inputs otherConfiguration otherTypes registered).configuration.target := same.target
  unfold finish
  rw [targets]
  apply agree_ask_bind rfl (parallel.agrees.platforms _)
  rintro platforms _ rfl
  apply agree_bind (agree_ofEval (.of_eq rfl))
  rintro known _ rfl
  apply agree_bind (agree_ofEval (.of_eq rfl))
  rintro execution _ rfl
  apply agree_bind (agree_ofEval (.of_eq rfl))
  rintro target _ rfl
  apply agree_bind (agree_explain _)
  intro _ _ _
  exact .pure ⟨rfl, rfl, rfl, rfl, alike, rfl, rfl⟩

theorem agree_proceed (same : configuration.SamePlatforms otherConfiguration) :
    (agreement related blur (key.isExplained configuration)
      (other.isExplained otherConfiguration)).Relates (Resolution.Matches key other spelled)
      (key.proceed first configuration) (other.proceed second otherConfiguration) := by
  apply agree_bind (parallel.agree_gather same)
  rintro _ _ ⟨types, otherTypes, registered, alike, rfl, rfl⟩
  have candidates : (key.inputs configuration types registered).candidates =
      (other.inputs otherConfiguration otherTypes registered).candidates :=
    congrArg (candidatePlatforms registered) same.host
  apply agree_bind (parallel.agree_screen candidates)
  rintro screening _ rfl
  apply agree_bind (parallel.agree_choose registered same alike screening.kept)
  rintro selection _ rfl
  exact parallel.agree_finish registered same alike screening selection

end Parallel

def Engine.explains {σ : Type} (engine : Engine σ) (key : ResolutionKey) (state : σ) : Bool :=
  match (engine.answer (.configuration key.configuration) state).1 with
  | .ok configuration => key.isExplained configuration
  | .error _ => false

structure AttemptReport.Matches (blur : Read → Read) (explained otherExplained : Bool)
    (resolutions : Resolution → Resolution → Prop) (report other : AttemptReport) : Prop where
  outcome : Eval.Alike resolutions report.outcome other.outcome
  reads : report.reads.map blur = other.reads.map blur
  events : ∃ messages : List Event,
    report.events.events = (if explained then messages else []) ∧
    other.events.events = if otherExplained then messages else []

open Attempt in
theorem Parallel.attempt {σ τ : Type} {blur : Read → Read}
    {spelled : OrderedMap Label ToolchainType → OrderedMap Label ToolchainType → Prop}
    {related : σ → τ → Prop} {first : Engine σ} {second : Engine τ} {key other : ResolutionKey}
    (parallel : Parallel blur spelled related first second key other) {state : σ} {otherState : τ}
    (start : related state otherState) :
    (first.attempt key state).1.Matches blur (first.explains key state)
      (second.explains other otherState) (Resolution.Matches key other spelled)
      (second.attempt other otherState).1 := by
  have configured : first.Concurs second related (.configuration key.configuration)
      (.configuration other.configuration) (Eval.Alike PlatformConfiguration.SamePlatforms) := by
    rw [parallel.configuration]
    exact parallel.agrees.configuration _
  obtain ⟨alike, states⟩ := configured state otherState start
  -- Only the first answer decides what is explained, so the comparison starts behind it.
  have resumed : (agreement related blur (first.explains key state)
      (second.explains other otherState)).Relates (Resolution.Matches key other spelled)
      (key.resume first state) (other.resume second otherState) := by
    unfold Engine.explains ResolutionKey.resume
    generalize (first.answer (.configuration key.configuration) state).1 = answer at alike ⊢
    generalize (second.answer (.configuration other.configuration) otherState).1 = otherAnswer
      at alike ⊢
    cases alike with
    | ok same => exact parallel.agree_proceed same
    | error cause => exact agree_ofEval (.error cause)
  have story : SameStory blur (first.explains key state) (second.explains other otherState)
      ({ state := (first.answer (.configuration key.configuration) state).2
         reads := [.configuration key.configuration] } : Session σ)
      ({ state := (second.answer (.configuration other.configuration) otherState).2
         reads := [.configuration other.configuration] } : Session τ) :=
    ⟨by rw [parallel.configuration], [], by simp, by simp⟩
  obtain ⟨outcome, reads, events⟩ := outcome_of_agree resumed states story
  simp only [← ResolutionKey.resolve_eq_resume] at outcome reads events
  exact ⟨outcome, reads, events⟩

theorem AttemptReport.Matches.delivered {blur : Read → Read} {explained otherExplained : Bool}
    {resolutions : Resolution → Resolution → Prop} {report other : AttemptReport}
    (same : report.Matches blur explained otherExplained resolutions other) :
    ∃ messages : List Event,
      report.delivered.events = (if explained then messages else []) ∧
      other.delivered.events = if otherExplained then messages else [] := by
  obtain ⟨outcome, _, events⟩ := same
  have silent : ∃ messages : List Event,
      [] = (if explained then messages else []) ∧ [] = if otherExplained then messages else [] :=
    ⟨[], by simp, by simp⟩
  unfold AttemptReport.delivered
  generalize report.outcome = result at outcome ⊢
  generalize other.outcome = otherResult at outcome ⊢
  cases outcome with
  | ok related => exact events
  | error cause =>
      cases cause with
      | notReady => exact silent
      | failed failure =>
          by_cases interrupted : failure.isInterrupted = true
          · simp only [interrupted, if_true]
            exact silent
          · simp only [interrupted]
            exact events

namespace Supply

def filteredBy (supply : Supply) (filter : DebugFilter) : Supply :=
  { supply with configuration := { supply.configuration with debugFilter := filter } }

/-- A supply answers alike whatever state it is in, whatever is explained and whatever a query says
that has no part in looking up. -/
theorem agrees_engine (supply : Supply) (filter : DebugFilter) {blur : Read → Read}
    {view : ToolchainQuery → ToolchainQuery}
    (blurred : ∀ queries, blur (.toolchains queries) = .toolchains (queries.map view))
    (blind : ∀ query, supply.lookUp (view query) = supply.lookUp query) :
    supply.engine.Agrees blur (fun _ _ => True) (supply.filteredBy filter).engine where
  configuration _ _ _ _ := ⟨.ok ⟨rfl, rfl⟩, trivial⟩
  platforms _ _ _ _ := ⟨rfl, trivial⟩
  constraintValues _ _ _ _ := ⟨rfl, trivial⟩
  registeredPlatforms _ _ _ _ := ⟨rfl, trivial⟩
  toolchains queries others same _ _ _ := by
    rw [blurred, blurred, Read.toolchains.injEq] at same
    have viewed (asked : List ToolchainQuery) :
        asked.map supply.lookUp = (asked.map view).map supply.lookUp := by
      rw [List.map_map]
      exact List.map_congr_left fun query _ => (blind query).symm
    have answered : queries.map supply.lookUp = others.map supply.lookUp := by
      rw [viewed, viewed others, same]
    exact ⟨answered, trivial⟩

end Supply

end CrossBuild
