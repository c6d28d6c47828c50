import CrossBuild.Proofs.AnswerPrecedence
import CrossBuild.Proofs.Readiness

/-!
Contexts around failures.  They are there for whoever reads the message: nothing that decides on a
failure looks at them, neither where answers are joined or classified nor where events are handed
out.
-/

namespace CrossBuild

namespace Failure

variable {failure one two : Failure}

def separator : String := "\n\nCaused by:\n    "

def inContexts (failure : Failure) (contexts : List String) : Failure :=
  contexts.foldr (fun context inner => inner.inContext context) failure

theorem root_inContexts (failure : Failure) (contexts : List String) :
    (failure.inContexts contexts).root = failure.root := by
  induction contexts with
  | nil => rfl
  | cons context rest ih =>
      change ((failure.inContexts rest).inContext context).root = failure.root
      rw [root_inContext, ih]

theorem message_inContext (failure : Failure) (context : String) :
    (failure.inContext context).message = context ++ separator ++ failure.message := by
  simp [message, inContext, separator, rootMessage, String.append_assoc]

theorem message_inContexts (failure : Failure) (contexts : List String) :
    (failure.inContexts contexts).message =
      String.join (contexts.map fun context => context ++ separator) ++ failure.message := by
  induction contexts with
  | nil => simp [inContexts]
  | cons context rest ih =>
      change ((failure.inContexts rest).inContext context).message = _
      rw [message_inContext, ih, List.map_cons, String.join_cons]
      simp only [String.append_assoc]

/-- Two failures that no caller can tell apart but by the whole message. -/
structure SameKind (one two : Failure) : Prop where
  tag : one.tag = two.tag
  category : one.category = two.category
  rootMessage : one.rootMessage = two.rootMessage
  cause : ∀ kind, one.cause? kind = two.cause? kind
  lookup : one.lookup? = two.lookup?
  interrupted : one.isInterrupted = two.isInterrupted

theorem sameKind_of_root_eq (same : one.root = two.root) : one.SameKind two := by
  constructor
  · simp only [tag, same]
  · simp only [category, same]
  · simp only [rootMessage, same]
  · simp only [cause?, same, implies_true]
  · simp only [lookup?_eq_cause?, cause?, same]
  · unfold isInterrupted tag
    rw [same]

def stripped (failure : Failure) : Failure := { root := failure.root }

theorem stripped_eq_stripped_iff : one.stripped = two.stripped ↔ one.root = two.root := by
  simp [stripped]

theorem stripped_inContexts (failure : Failure) (contexts : List String) :
    (failure.inContexts contexts).stripped = failure.stripped := by
  rw [stripped_eq_stripped_iff, root_inContexts]

end Failure

def Suspension.stripped : Suspension → Suspension
  | notReady => notReady
  | failed failure => failed failure.stripped

namespace Eval

variable {α β : Type}

def stripped : Eval α → Eval α
  | .ok value => .ok value
  | .error cause => .error cause.stripped

def SameCause (result other : Eval α) : Prop := result.stripped = other.stripped

variable {result other : Eval α}

theorem SameCause.ok_iff (same : SameCause result other) (value : α) :
    result = .ok value ↔ other = .ok value := by
  rcases result with (_ | _) | _ <;> rcases other with (_ | _) | _ <;>
    simp_all [SameCause, stripped, Suspension.stripped]

theorem SameCause.notReady_iff (same : SameCause result other) :
    result = .error .notReady ↔ other = .error .notReady := by
  rcases result with (_ | _) | _ <;> rcases other with (_ | _) | _ <;>
    simp_all [SameCause, stripped, Suspension.stripped]

theorem SameCause.exists_failed (same : SameCause result other) {failure : Failure}
    (failed : result = .error (.failed failure)) :
    ∃ otherFailure, other = .error (.failed otherFailure) ∧ failure.root = otherFailure.root := by
  subst failed
  rcases other with (_ | otherFailure) | value
  · simp [SameCause, stripped, Suspension.stripped] at same
  · refine ⟨otherFailure, rfl, ?_⟩
    simpa [SameCause, stripped, Suspension.stripped, Failure.stripped] using same
  · simp [SameCause, stripped] at same

theorem stripped_joinPair (first : Eval α) (second : Eval β) :
    (joinPair first second).stripped = joinPair first.stripped second.stripped := by
  rcases first with (_ | _) | _ <;> rcases second with (_ | _) | _ <;> rfl

theorem isPending_stripped (result : Eval α) : result.stripped.isPending = result.isPending := by
  rcases result with (_ | _) | _ <;> rfl

theorem SameCause.isPending_eq (same : SameCause result other) :
    result.isPending = other.isPending := by
  rw [← isPending_stripped, same, isPending_stripped]

end Eval

namespace ToolchainAnswer

def stripped (answer : ToolchainAnswer) : ToolchainAnswer := (answer.1, answer.2.stripped)

theorem missingType?_stripped (answer : ToolchainAnswer) :
    answer.stripped.missingType? = answer.missingType? := by
  rcases answer with ⟨requirement, (_ | failure) | value⟩ <;> rfl

theorem value?_stripped (answer : ToolchainAnswer) : answer.stripped.value? = answer.value? := by
  rcases answer with ⟨requirement, (_ | failure) | value⟩ <;> rfl

theorem failure?_stripped (answer : ToolchainAnswer) :
    answer.stripped.failure? = answer.failure?.map Failure.stripped := by
  rcases answer with ⟨requirement, (_ | failure) | value⟩
  · rfl
  · rcases failure with ⟨root, contexts⟩
    cases root with
    | lookup cause => cases cause <;> rfl
    | _ => rfl
  · rfl

theorem collect_map_stripped (answers : List ToolchainAnswer) :
    collect (answers.map stripped) = (collect answers).stripped := by
  have missing : (answers.map stripped).filterMap missingType? =
      answers.filterMap missingType? := by
    rw [List.filterMap_map]
    exact congrArg (answers.filterMap ·) (funext missingType?_stripped)
  have values : (answers.map stripped).filterMap value? = answers.filterMap value? := by
    rw [List.filterMap_map]
    exact congrArg (answers.filterMap ·) (funext value?_stripped)
  have pending : ((answers.map stripped).any fun answer => answer.2.isPending) =
      answers.any fun answer => answer.2.isPending := by
    rw [List.any_map]
    exact congrArg (answers.any ·) (funext fun answer => answer.2.isPending_stripped)
  have failures : (answers.map stripped).findSome? failure? =
      (answers.findSome? failure?).map Failure.stripped := by
    rw [List.findSome?_map, List.map_findSome?]
    exact congrArg (answers.findSome? ·) (funext failure?_stripped)
  unfold collect
  rw [missing, values, pending, failures]
  cases answers.findSome? failure? with
  | some failure => rfl
  | none =>
      dsimp only [Option.map_none]
      split
      next => rfl
      next => split <;> rfl

theorem map_stripped_zip (requirements : List ToolchainRequirement)
    (answers : List (Eval ToolchainAvailability)) :
    (requirements.zip answers).map stripped = requirements.zip (answers.map Eval.stripped) := by
  rw [List.zip_map_right]
  rfl

end ToolchainAnswer

theorem PlatformChoice.stripped_select (choice : PlatformChoice) (forced : Option Label)
    (requirements : List ToolchainRequirement) (answers : List ToolchainAnswer) :
    (choice.select forced requirements answers).stripped =
      choice.select forced requirements (answers.map ToolchainAnswer.stripped) := by
  unfold select
  rw [ToolchainAnswer.collect_map_stripped]
  rcases ToolchainAnswer.collect answers with cause | values
  · rfl
  · simp only [Eval.stripped, bind, Except.bind]
    cases choice.select? forced values <;> rfl

/-- In related states, both engines give the same answers to all reads, but for the contexts that
they put around failures. -/
structure Engine.SameButContexts {σ τ : Type} (related : σ → τ → Prop) (first : Engine σ)
    (second : Engine τ) : Prop where
  answers : ∀ (read : Read) state other, related state other →
    read.Like (fun _ => Eval.SameCause) (first.answer read state).1 (second.answer read other).1
  states : ∀ read state other, related state other →
    related (first.answer read state).2 (second.answer read other).2

def contextual {σ τ : Type} (related : σ → τ → Prop) : Comparison σ τ where
  sessions := Session.InStep related
  stopped cause left other right :=
    (∃ otherCause, other = some otherCause ∧ cause.stripped = otherCause.stripped) ∧
      Session.InStep related left right
  persists := by
    rintro cause left right later other ⟨⟨_, impossible, _⟩, _⟩ _
    cases impossible

namespace Engine.SameButContexts

variable {σ τ : Type} {related : σ → τ → Prop} {first : Engine σ} {second : Engine τ}

theorem respects (alike : SameButContexts related first second) :
    (contextual related).Respects (fun _ => Eval.SameCause) first second where
  asks read left right inStep :=
    ⟨alike.answers read _ _ inStep.1, .ask (alike.states read _ _ inStep.1) inStep⟩
  explains wanted messages left right inStep := inStep.explain wanted messages
  values same value := (same.ok_iff value).mp
  stops {α result other} same cause stopped left right inStep := by
    subst stopped
    refine ⟨?_, inStep⟩
    rcases other with otherCause | value
    · exact ⟨otherCause, rfl, by simpa [Eval.SameCause, Eval.stripped] using same⟩
    · simp [Eval.SameCause, Eval.stripped] at same
  refl _ := rfl
  joins {α β one other two otherTwo} same sameTwo := by
    unfold Eval.SameCause at same sameTwo ⊢
    rw [Eval.stripped_joinPair, Eval.stripped_joinPair, same, sameTwo]
  selects choice forced requirements answers others same := by
    have equal : answers.map Eval.stripped = others.map Eval.stripped := by
      rw [← List.forall₂_eq_eq_eq, List.forall₂_map_left_iff, List.forall₂_map_right_iff]
      exact same
    unfold Eval.SameCause
    rw [PlatformChoice.stripped_select, PlatformChoice.stripped_select,
      ToolchainAnswer.map_stripped_zip, ToolchainAnswer.map_stripped_zip, equal]

end Engine.SameButContexts

/-- What callers get to see of two results that they cannot tell apart. -/
inductive Computed.Alike {α : Type} :
    Except Failure (Computed α) → Except Failure (Computed α) → Prop
  | ready (value : α) : Alike (.ok (.ready value)) (.ok (.ready value))
  | waiting : Alike (.ok .notReady) (.ok .notReady)
  | failed {one two : Failure} (same : one.SameKind two) : Alike (.error one) (.error two)

theorem Eval.SameCause.alike {α : Type} {result other : Eval α} (same : SameCause result other) :
    Computed.Alike (Computed.ofEval result) (Computed.ofEval other) := by
  rcases result with (_ | failure) | value
  · rw [same.notReady_iff.mp rfl]
    exact .waiting
  · obtain ⟨otherFailure, rfl, root⟩ := same.exists_failed rfl
    exact .failed (Failure.sameKind_of_root_eq root)
  · rw [(same.ok_iff value).mp rfl]
    exact .ready value

namespace AttemptReport

/-- The attempts decide alike, as far as callers and listeners are concerned. -/
structure SameDecision (report other : AttemptReport) : Prop where
  result : Computed.Alike (Computed.ofEval report.outcome) (Computed.ofEval other.outcome)
  delivered : report.delivered = other.delivered
  notices : ∀ key listener, report.notices key listener = other.notices key listener

variable {report other : AttemptReport}

theorem sameDecision_of_sameCause (same : Eval.SameCause report.outcome other.outcome)
    (events : report.events = other.events) : report.SameDecision other := by
  have delivered : report.delivered = other.delivered := by
    unfold AttemptReport.delivered
    rcases ended : report.outcome with (_ | failure) | resolution
    · rw [ended] at same
      rw [same.notReady_iff.mp rfl]
    · obtain ⟨otherFailure, otherEnded, root⟩ := same.exists_failed ended
      rw [otherEnded]
      dsimp only
      rw [(Failure.sameKind_of_root_eq root).interrupted, events]
    · rw [ended] at same
      rw [(same.ok_iff resolution).mp rfl]
      exact events
  refine ⟨same.alike, delivered, fun key listener => ?_⟩
  rw [notices, notices, same.isPending_eq, events, delivered]

end AttemptReport

namespace Engine.SameButContexts

variable {σ τ : Type} {related : σ → τ → Prop} {first : Engine σ} {second : Engine τ}
  (alike : SameButContexts related first second) (key : ResolutionKey)

include alike

theorem attempt {state : σ} {other : τ} (start : related state other) :
    (first.attempt key state).1.SameDecision (second.attempt key other).1 ∧
      (first.attempt key state).1.outcome.isPending =
        (second.attempt key other).1.outcome.isPending ∧
      related (first.attempt key state).2 (second.attempt key other).2 := by
  have relates := alike.respects.relates_resolve key
  have common : (contextual related).sessions { state := state } { state := other } :=
    ⟨start, rfl, rfl⟩
  have ends : Eval.SameCause (first.attempt key state).1.outcome
        (second.attempt key other).1.outcome ∧
      (first.attempt key state).1.events = (second.attempt key other).1.events ∧
      related (first.attempt key state).2 (second.attempt key other).2 := by
    simp only [outcome_attempt, events_attempt, state_attempt]
    rcases ran : key.resolve first { state := state } with ⟨cause | resolution, session⟩
    · obtain ⟨⟨otherCause, stopped, same⟩, states, _, events⟩ := relates.stops common ran
      rw [Eval.stop?_eq_some_iff.mp stopped]
      exact ⟨congrArg Except.error same, events, states⟩
    · obtain ⟨_, otherSession, goes, rfl, states, _, events⟩ := relates.goes common ran
      rw [goes]
      exact ⟨rfl, events, states⟩
  obtain ⟨same, events, states⟩ := ends
  exact ⟨AttemptReport.sameDecision_of_sameCause same events, same.isPending_eq, states⟩

theorem attempts (limit : Nat) {state : σ} {other : τ} (start : related state other) :
    List.Forall₂ AttemptReport.SameDecision (first.attempts key limit state).1
        (second.attempts key limit other).1 ∧
      related (first.attempts key limit state).2 (second.attempts key limit other).2 := by
  induction limit generalizing state other with
  | zero => exact ⟨.nil, start⟩
  | succ limit ih =>
      obtain ⟨decision, pending, states⟩ := alike.attempt key start
      obtain ⟨decisions, laterStates⟩ := ih states
      simp only [Engine.attempts, pending]
      split
      · exact ⟨.cons decision decisions, laterStates⟩
      · exact ⟨.cons decision .nil, states⟩

theorem attemptsAll (limit : Nat) (keys : List ResolutionKey) {state : σ} {other : τ}
    (start : related state other) :
    List.Forall₂
      (fun one two => one.1 = two.1 ∧ List.Forall₂ AttemptReport.SameDecision one.2 two.2)
      (first.attemptsAll limit keys state) (second.attemptsAll limit keys other) := by
  induction keys generalizing state other with
  | nil => exact .nil
  | cons key rest ih =>
      obtain ⟨decisions, states⟩ := alike.attempts key limit start
      exact .cons ⟨rfl, decisions⟩ (ih states)

end Engine.SameButContexts

namespace ToolchainAnswer

theorem failure?_wrapped (requirement : ToolchainRequirement) (label : Label)
    (contexts : List String) :
    failure? (requirement, .error (.failed
      (Failure.inContexts { root := .lookup (.noToolchainFound label) } contexts))) = none := by
  rw [Option.eq_none_iff_forall_ne_some]
  intro failure failed
  obtain ⟨same, known⟩ := failure?_eq_some_iff.mp failed
  cases same
  exact known label (Failure.root_inContexts _ contexts)

theorem collect_wrapped {answers : List ToolchainAnswer} {requirement : ToolchainRequirement}
    {label : Label} {contexts : List String}
    (member : (requirement, .error (.failed
      (Failure.inContexts { root := .lookup (.noToolchainFound label) } contexts))) ∈ answers)
    (unfailing : answers.findSome? failure? = none) :
    label ∈ answers.filterMap missingType? ∧
      collect answers =
        Eval.fail (.resolution (.unresolvedToolchains (answers.filterMap missingType?))) := by
  have misses : Misses (requirement, .error (.failed
      (Failure.inContexts { root := .lookup (.noToolchainFound label) } contexts))) label :=
    .unfound (Failure.root_inContexts _ contexts)
  have listed : label ∈ answers.filterMap missingType? :=
    List.mem_filterMap.mpr ⟨_, member, missingType?_eq_some_iff.mpr misses⟩
  exact ⟨listed, collect_of_missing unfailing (List.ne_nil_of_mem listed)⟩

end ToolchainAnswer

theorem delivered_of_interrupted {report : AttemptReport} {contexts : List String}
    (interrupted : report.outcome =
      .error (.failed (Failure.inContexts { root := .lookup .interrupted } contexts))) :
    report.delivered = {} := by
  have quiet :
      (Failure.inContexts { root := .lookup .interrupted } contexts).isInterrupted = true :=
    (Failure.isInterrupted_iff _).mpr (Failure.root_inContexts _ contexts)
  simp only [AttemptReport.delivered, interrupted, quiet, if_true]

/-- Failures are told apart by their causes alone: contexts around them change the message, and
neither what a resolution comes to nor what its listeners hear. -/
theorem contexts_decide_nothing {σ τ : Type} {related : σ → τ → Prop} {first : Engine σ}
    {second : Engine τ} (alike : Engine.SameButContexts related first second) :
    (∀ (root : FailureCause) (contexts : List String),
      (Failure.inContexts { root := root } contexts).SameKind { root := root } ∧
      (Failure.inContexts { root := root } contexts).message =
        String.join (contexts.map fun context => context ++ Failure.separator) ++ root.message) ∧
    (∀ key state other, related state other →
      (first.attempt key state).1.SameDecision (second.attempt key other).1 ∧
        related (first.attempt key state).2 (second.attempt key other).2) ∧
    (∀ limit keys state other, related state other →
      List.Forall₂
        (fun one two => one.1 = two.1 ∧ List.Forall₂ AttemptReport.SameDecision one.2 two.2)
        (first.attemptsAll limit keys state) (second.attemptsAll limit keys other)) ∧
    (∀ (answers : List ToolchainAnswer) requirement label contexts,
      let failure := Failure.inContexts { root := .lookup (.noToolchainFound label) } contexts
      ToolchainAnswer.failure? (requirement, .error (.failed failure)) = none ∧
      ((requirement, .error (.failed failure)) ∈ answers →
        answers.findSome? ToolchainAnswer.failure? = none →
        label ∈ answers.filterMap ToolchainAnswer.missingType? ∧
          ToolchainAnswer.collect answers =
            Eval.fail (.resolution (.unresolvedToolchains
              (answers.filterMap ToolchainAnswer.missingType?))))) ∧
    ∀ (report : AttemptReport) (contexts : List String),
      report.outcome =
          .error (.failed (Failure.inContexts { root := .lookup .interrupted } contexts)) →
        report.delivered = {} := by
  refine ⟨fun root contexts => ⟨?_, ?_⟩, fun key state other start => ?_,
    fun limit keys state other start => alike.attemptsAll limit keys start, ?_,
    fun report contexts interrupted => delivered_of_interrupted interrupted⟩
  · exact Failure.sameKind_of_root_eq (Failure.root_inContexts _ contexts)
  · exact Failure.message_inContexts _ contexts
  · obtain ⟨decision, _, states⟩ := alike.attempt key start
    exact ⟨decision, states⟩
  · intro answers requirement label contexts
    exact ⟨ToolchainAnswer.failure?_wrapped requirement label contexts,
      ToolchainAnswer.collect_wrapped⟩

def Eval.inContexts {α : Type} (contexts : List String) : Eval α → Eval α
  | .error (.failed failure) => .error (.failed (failure.inContexts contexts))
  | result => result

def Read.inContexts (contexts : List String) : (read : Read) → read.Answer → read.Answer
  | configuration _, answer => Eval.inContexts contexts answer
  | platforms _, answer => Eval.inContexts contexts answer
  | constraintValues _, answer => Eval.inContexts contexts answer
  | toolchainTypes _ _, answer => Eval.inContexts contexts answer
  | registeredPlatforms _, answer => Eval.inContexts contexts answer
  | toolchains _, answers => answers.map (Eval.inContexts contexts)

def Engine.inContexts {σ : Type} (engine : Engine σ) (contexts : List String) : Engine σ where
  answer read state :=
    (read.inContexts contexts (engine.answer read state).1, (engine.answer read state).2)

theorem Eval.sameCause_inContexts {α : Type} (contexts : List String) (result : Eval α) :
    SameCause result (inContexts contexts result) := by
  rcases result with (_ | failure) | value
  · rfl
  · simp only [SameCause, inContexts, stripped, Suspension.stripped, Failure.stripped_inContexts]
  · rfl

theorem Read.like_inContexts (contexts : List String) (read : Read) (answer : read.Answer) :
    read.Like (fun _ => Eval.SameCause) answer (read.inContexts contexts answer) := by
  cases read with
  | toolchains queries =>
      change List.Forall₂ Eval.SameCause answer (answer.map (Eval.inContexts contexts))
      rw [List.forall₂_map_right_iff, List.forall₂_same]
      exact fun one _ => Eval.sameCause_inContexts contexts one
  | configuration key => exact Eval.sameCause_inContexts contexts _
  | platforms labels => exact Eval.sameCause_inContexts contexts _
  | constraintValues labels => exact Eval.sameCause_inContexts contexts _
  | toolchainTypes key labels => exact Eval.sameCause_inContexts contexts _
  | registeredPlatforms key => exact Eval.sameCause_inContexts contexts _

theorem Engine.sameButContexts_inContexts {σ : Type} (engine : Engine σ) (contexts : List String) :
    SameButContexts Eq engine (engine.inContexts contexts) where
  answers read state other same := by
    subst same
    exact read.like_inContexts contexts _
  states read state other same := by
    subst same
    rfl

def interruptedToolchains : MemoryEngine :=
  { slowRegistrations with
    cold := .only []
    failures := [("single_toolchain //toolchains:cc", { root := .lookup .interrupted })] }

theorem contexts_decide_nothing_interruptedToolchains :
    let wrapped := interruptedToolchains.toEngine.inContexts ["configuring //app:main", "asking"]
    Engine.SameButContexts Eq interruptedToolchains.toEngine wrapped ∧
      (wrapped.attempt linuxKey []).1.outcome = .error (.failed
        { root := .lookup .interrupted, contexts := ["configuring //app:main", "asking"] }) ∧
      (wrapped.attempt linuxKey []).1.events ≠ {} ∧
      (wrapped.attempt linuxKey []).1.delivered = {} ∧
      (interruptedToolchains.toEngine.attempt linuxKey []).1.SameDecision
        (wrapped.attempt linuxKey []).1 := by
  have alike := interruptedToolchains.toEngine.sameButContexts_inContexts
    ["configuring //app:main", "asking"]
  obtain ⟨_, decides, _, _, quiet⟩ := contexts_decide_nothing alike
  refine ⟨alike, by rfl, by decide +kernel, ?_, (decides linuxKey [] [] rfl).1⟩
  exact quiet _ ["configuring //app:main", "asking"] (by rfl)

end CrossBuild
