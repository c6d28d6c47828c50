import CrossBuild.Proofs.Choice
import CrossBuild.Proofs.Readiness

/-!
What a listener is told about a resolution, read off the exchanges of its last attempt.
-/

namespace CrossBuild

def screeningRemovals (candidates : List Label) : List Exchange → List (Label × ConstraintValue)
  | ⟨.platforms _, .ok known⟩ :: ⟨.constraintValues _, .ok required⟩ :: _ =>
      removals known required candidates
  | _ => []

def removed : List Exchange → List (Label × ConstraintValue)
  | ⟨.configuration _, .ok configuration⟩ :: _ :: _ :: ⟨.registeredPlatforms _, .ok registered⟩ ::
      later => screeningRemovals (candidatePlatforms registered configuration.host) later
  | _ => []

def answeredType? : Eval ToolchainAvailability → Option ToolchainType
  | .ok value => some value.toolchainType
  | .error _ => none

def Exchange.answeredTypes : Exchange → List ToolchainType
  | ⟨.toolchains queries, answers⟩ => ((queries.zip answers).map Prod.snd).filterMap answeredType?
  | _ => []

def answeredTypes (exchanges : List Exchange) : List ToolchainType :=
  exchanges.flatMap Exchange.answeredTypes

def removalEvent (removal : Label × ConstraintValue) : Event := .info (removalMessage removal)

def Resolution.selectionEvent (resolution : Resolution) : Event :=
  .info (ResolutionKey.selectionMessage resolution.targetPlatform resolution.executionPlatform
    resolution.toolchains)

def closingEvents : Eval Resolution → List Event
  | .ok resolution => [resolution.selectionEvent]
  | .error _ => []

namespace ResolutionKey

variable (key : ResolutionKey)

def isExplainedBy : List Exchange → Bool
  -- The labels are matched as they were requested, before aliases are followed.
  | ⟨.configuration _, .ok configuration⟩ :: _ =>
      key.debug || configuration.debugFilter.matchesAny key.requestedTypes
  | _ => false

def bufferedEvents (exchanges : List Exchange) (outcome : Eval Resolution) : List Event :=
  if key.isExplainedBy exchanges then
    (removed exchanges).map removalEvent ++ closingEvents outcome
  else []

def explanation (exchanges : List Exchange) (outcome : Eval Resolution) : List Event :=
  match outcome with
  | .error .notReady => []
  | .error (.failed failure) =>
      if key.isExplainedBy exchanges ∧ failure.root ≠ .lookup .interrupted then
        (removed exchanges).map removalEvent
      else []
  | .ok resolution =>
      if key.isExplainedBy exchanges then
        (removed exchanges).map removalEvent ++ [resolution.selectionEvent]
      else []

def screeningEventsOf (inputs : ResolutionInputs) (later : List Exchange) : List Event :=
  if inputs.explained then (screeningRemovals inputs.candidates later).map removalEvent else []

variable {key} {inputs : ResolutionInputs} {opening screened later : List Exchange}
  {events : List Event}

theorem Opens.removed_of_error {cause : Suspension} (opens : key.Opens opening (.error cause)) :
    removed opening = [] := by
  cases opens with
  | unconfigured => rfl
  | unanswered configuration types platforms registered cause stopped => cases registered <;> rfl

theorem Opens.bufferedEvents_append (opens : key.Opens opening (.ok inputs))
    (later : List Exchange) (outcome : Eval Resolution) :
    key.bufferedEvents (opening ++ later) outcome =
      screeningEventsOf inputs later ++
        if inputs.explained then closingEvents outcome else [] := by
  cases opens with
  | opened configuration types platforms registered =>
      change (if key.isExplained configuration then _ else _) =
        (if key.isExplained configuration then _ else _) ++
          if key.isExplained configuration then _ else _
      split
      · rfl
      · rfl

theorem screeningEvents_run (inputs : ResolutionInputs) (known : OrderedMap Label Platform)
    (required : List ConstraintValue) (later : List Exchange) :
    screeningEvents inputs (Screening.run known required inputs.candidates) =
      screeningEventsOf inputs
        (key.screeningExchanges inputs (.ok known) (.ok required) ++ later) := by
  rw [screeningEvents, Screening.messages_run, List.map_map]
  rfl

theorem Screens.events_of_error {cause : Suspension}
    (screens : key.Screens inputs screened events (.error cause)) :
    events = screeningEventsOf inputs screened := by
  cases screens with
  | unanswered constrained known required cause stopped =>
      -- One of the two reads has no value, so that no candidate was looked at.
      have nothing : screeningRemovals inputs.candidates
          (key.screeningExchanges inputs known required) = [] := by
        rcases known with _ | known
        · rfl
        · rcases required with _ | required
          · rfl
          · cases stopped
      simp [screeningEventsOf, nothing]
  | unknown constrained known required candidate found => exact screeningEvents_run _ _ _ []

theorem Screens.events_of_ok {screening : Screening} {chosen : List Exchange}
    {chosenResult : Eval Selection}
    (screens : key.Screens inputs screened events (.ok screening))
    (chooses : key.Chooses inputs screening.kept chosen chosenResult) (later : List Exchange) :
    events = screeningEventsOf inputs (screened ++ (chosen ++ later)) := by
  cases screens with
  | unconstrained free =>
      cases chooses with
      | answered answers => simp [screeningEventsOf, screeningRemovals]
  | screened constrained known required all => exact screeningEvents_run _ _ _ _

theorem Finishes.events_eq {screening : Screening} {selection : Selection}
    {finished : List Exchange} {outcome : Eval Resolution}
    (finishes : Finishes inputs screening selection finished events outcome) :
    events = if inputs.explained then closingEvents outcome else [] := by
  cases finishes with
  | unanswered cause => simp [closingEvents]
  | unknown known label asked absent => simp [closingEvents, Eval.fail]
  | finished known execution target executionFound targetFound => rfl

theorem Course.events_eq {exchanges : List Exchange} {outcome : Eval Resolution}
    (course : key.Course exchanges events outcome) :
    events = key.bufferedEvents exchanges outcome := by
  cases course with
  | unopened opens => simp [bufferedEvents, closingEvents, opens.removed_of_error]
  | unscreened opens screens =>
      rw [opens.bufferedEvents_append, ← screens.events_of_error]
      simp [closingEvents]
  | unchosen opens screens chooses =>
      have buffered := screens.events_of_ok chooses []
      rw [List.append_nil] at buffered
      rw [opens.bufferedEvents_append, ← buffered]
      simp [closingEvents]
  | chosen opens screens chooses finishes =>
      rw [opens.bufferedEvents_append, ← screens.events_of_ok chooses, ← finishes.events_eq]

theorem Chooses.answeredTypes_eq {candidates : List Label} {chosen : List Exchange}
    {selection : Selection} (chooses : key.Chooses inputs candidates chosen (.ok selection)) :
    selection.toolchains.keys = distinct (answeredTypes chosen) := by
  generalize result : (.ok selection : Eval Selection) = selected at chooses
  cases chooses with
  | answered answers =>
      obtain ⟨values, collected, found⟩ := PlatformChoice.select_eq_ok_iff.mp result.symm
      have suitable := PlatformChoice.isSuitable_of_select? found
      have listed := (ToolchainAnswer.collect_eq_ok_iff.mp collected).1
      have zipped : ((key.queries inputs candidates).zip answers).map Prod.snd =
          values.map .ok := by
        rw [← listed, queries, List.zip_map_left, List.map_map]
        rfl
      have types : answeredTypes [⟨.toolchains (key.queries inputs candidates), answers⟩] =
          values.map ToolchainAvailability.toolchainType := by
        rw [answeredTypes, List.flatMap_singleton, Exchange.answeredTypes, zipped,
          List.filterMap_map, ← List.filterMap_eq_map]
        rfl
      rw [PlatformChoice.toolchains_of_select? found,
        AvailabilityTable.keys_row_of_isSuitable suitable, types]

theorem Course.keys_toolchains {exchanges : List Exchange} {resolution : Resolution}
    (course : key.Course exchanges events (.ok resolution)) :
    resolution.toolchains.keys = distinct (answeredTypes exchanges) := by
  cases course with
  | @chosen opening inputs screened events screening chosen selection finished later _ opens
      screens chooses finishes =>
      have silent : answeredTypes opening = [] ∧ answeredTypes screened = [] ∧
          answeredTypes finished = [] ∧ resolution.toolchains = selection.toolchains := by
        cases opens
        cases finishes
        refine ⟨rfl, ?_, rfl, rfl⟩
        cases screens <;> rfl
      obtain ⟨opensSilent, screensSilent, finishesSilent, same⟩ := silent
      have all : answeredTypes (opening ++ (screened ++ (chosen ++ finished))) =
          answeredTypes chosen := by
        simp only [answeredTypes, List.flatMap_append] at *
        simp [opensSilent, screensSilent, finishesSilent]
      rw [same, chooses.answeredTypes_eq, all]

end ResolutionKey

def Engine.received {σ : Type} (engine : Engine σ) (key : ResolutionKey) (listener : Listener)
    (states : List σ) : List Notice :=
  states.flatMap fun state => (engine.attempt key state).1.delivered.flush listener

theorem AttemptReport.delivered_eq {key : ResolutionKey} {exchanges : List Exchange}
    {report : AttemptReport}
    (course : key.Course exchanges report.events.events report.outcome) :
    report.delivered.events = key.explanation exchanges report.outcome := by
  have buffered := course.events_eq
  unfold delivered
  rcases outcome : report.outcome with (_ | failure) | resolution
  · rfl
  · rw [outcome] at buffered
    by_cases interrupted : failure.isInterrupted = true
    · have root := failure.isInterrupted_iff.mp interrupted
      simp [ResolutionKey.explanation, interrupted, root]
    · have root : failure.root ≠ .lookup .interrupted := fun same =>
        interrupted (failure.isInterrupted_iff.mpr same)
      simp [ResolutionKey.explanation, ResolutionKey.bufferedEvents, closingEvents, interrupted,
        root, buffered]
  · rw [outcome] at buffered
    exact buffered

/-- Whatever happens on the way, the listener is told about the last attempt of a run and about
nothing else. -/
theorem received_run {σ : Type} (engine : Engine σ) (key : ResolutionKey) (listener : Listener)
    (earlier : List σ) (last : σ)
    (restarted : ∀ state ∈ earlier, (engine.attempt key state).1.outcome = .error .notReady) :
    engine.received key listener (earlier ++ [last]) =
        (key.explanation (engine.transcript (engine.attempt key last).1.reads last)
          (engine.attempt key last).1.outcome).map listener.handle ∧
      ∀ resolution, (engine.attempt key last).1.outcome = .ok resolution →
        resolution.toolchains.keys =
          distinct (answeredTypes (engine.transcript (engine.attempt key last).1.reads last)) := by
  obtain ⟨course, _⟩ := engine.attempt_course key last
  constructor
  · have silent : engine.received key listener earlier = [] := by
      apply List.flatMap_eq_nil_iff.mpr
      intro state member
      simp [AttemptReport.delivered, restarted state member, EventBuffer.flush]
    have final := AttemptReport.delivered_eq course
    unfold Engine.received at silent ⊢
    rw [List.flatMap_append, silent, List.flatMap_singleton, List.nil_append, EventBuffer.flush,
      final]
  · intro resolution resolved
    rw [resolved] at course
    exact course.keys_toolchains

theorem received_run_slowRegistrations :
    (∀ state ∈ [([] : MemoryEngine.Seen)],
        (slowRegistrations.toEngine.attempt linuxKey state).1.outcome = .error .notReady) ∧
      slowRegistrations.toEngine.received linuxKey .collecting
          ([[]] ++ [["registered_execution_platforms opt"]]) =
        [.event (.info ("ToolchainResolution: Removed execution platform //platforms:host from " ++
            "available execution platforms, it is missing constraint //constraints:linux")),
          .event (.info ("ToolchainResolution: Target platform //platforms:target: Selected " ++
            "execution platform //platforms:remote, type //toolchains:cc -> toolchain " ++
            "//toolchains:cc_remote"))] := by
  have restarted : ∀ state ∈ [([] : MemoryEngine.Seen)],
      (slowRegistrations.toEngine.attempt linuxKey state).1.outcome = .error .notReady := by
    intro state member
    rw [List.mem_singleton.mp member]
    rfl
  refine ⟨restarted, ?_⟩
  rw [(received_run slowRegistrations.toEngine linuxKey .collecting [[]]
    ["registered_execution_platforms opt"] restarted).1]
  decide +kernel

end CrossBuild
