import CrossBuild.Proofs.Comparison
import CrossBuild.Proofs.Course
import Mathlib.Data.List.Forall2

/-!
One resolution on two engines whose answers are alike.  What this means is left open: whatever the
joins and the selection of a resolution respect carries over from the answers to the attempts.
-/

namespace CrossBuild

def Read.Like (like : (α : Type) → Eval α → Eval α → Prop) :
    (read : Read) → read.Answer → read.Answer → Prop
  | configuration _, answer, other => like _ answer other
  | platforms _, answer, other => like _ answer other
  | constraintValues _, answer, other => like _ answer other
  | toolchainTypes _ _, answer, other => like _ answer other
  | registeredPlatforms _, answer, other => like _ answer other
  | toolchains _, answers, others => List.Forall₂ (like _) answers others

def Session.InStep {σ τ : Type} (related : σ → τ → Prop) (left : Session σ) (right : Session τ) :
    Prop :=
  related left.state right.state ∧ left.reads = right.reads ∧ left.events = right.events

namespace Session.InStep

variable {σ τ : Type} {related : σ → τ → Prop} {left : Session σ} {right : Session τ}

theorem ask {first : Engine σ} {second : Engine τ} {read : Read}
    (states : related (first.answer read left.state).2 (second.answer read right.state).2)
    (inStep : InStep related left right) :
    InStep related (Attempt.ask first read left).2 (Attempt.ask second read right).2 := by
  obtain ⟨_, reads, events⟩ := inStep
  exact ⟨states, by simp [Attempt.ask, reads], events⟩

theorem explain (wanted : Bool) (messages : List String) (inStep : InStep related left right) :
    InStep related (Attempt.explain wanted messages left).2
      (Attempt.explain wanted messages right).2 := by
  obtain ⟨states, reads, events⟩ := inStep
  cases wanted with
  | false => exact ⟨states, reads, events⟩
  | true => exact ⟨states, reads, by simp [Attempt.explain, events]⟩

end Session.InStep

/-- What a likeness has to keep up for a comparison of attempts to be about it. -/
structure Comparison.Respects {σ τ : Type} (comparison : Comparison σ τ)
    (like : (α : Type) → Eval α → Eval α → Prop) (first : Engine σ) (second : Engine τ) :
    Prop where
  asks : ∀ (read : Read) left right, comparison.sessions left right →
    read.Like like (first.answer read left.state).1 (second.answer read right.state).1 ∧
      comparison.sessions (Attempt.ask first read left).2 (Attempt.ask second read right).2
  explains : ∀ wanted messages left right, comparison.sessions left right →
    comparison.sessions (Attempt.explain wanted messages left).2
      (Attempt.explain wanted messages right).2
  values : ∀ {α : Type} {result other : Eval α}, like α result other →
    ∀ value, result = .ok value → other = .ok value
  stops : ∀ {α : Type} {result other : Eval α}, like α result other →
    ∀ cause, result = .error cause → ∀ left right, comparison.sessions left right →
      comparison.stopped cause left other.stop? right
  refl : ∀ {α : Type} (result : Eval α), like α result result
  joins : ∀ {α β : Type} {one other : Eval α} {two otherTwo : Eval β},
    like α one other → like β two otherTwo →
      like (α × β) (Eval.joinPair one two) (Eval.joinPair other otherTwo)
  selects : ∀ (choice : PlatformChoice) (forced : Option Label)
    (requirements : List ToolchainRequirement) {answers others : List (Eval ToolchainAvailability)},
    List.Forall₂ (like ToolchainAvailability) answers others →
      like Selection (choice.select forced requirements (requirements.zip answers))
        (choice.select forced requirements (requirements.zip others))

namespace Comparison.Respects

open Attempt ResolutionKey

variable {σ τ α β γ : Type} {comparison : Comparison σ τ}
  {like : (α : Type) → Eval α → Eval α → Prop} {first : Engine σ} {second : Engine τ}
  (respects : comparison.Respects like first second) (key : ResolutionKey)

include respects

theorem relates_ofEval {result other : Eval α} (alike : like α result other) :
    comparison.Relates Eq (ofEval result) (ofEval other) := by
  apply Comparison.Relates.ofEval
  · intro value answered
    exact ⟨value, respects.values alike value answered, rfl⟩
  · exact respects.stops alike

theorem relates_ask_bind {values : β → γ → Prop} {read : Read}
    {next : read.Answer → Attempt σ β} {otherNext : read.Answer → Attempt τ γ}
    (rest : ∀ answer other, read.Like like answer other →
      comparison.Relates values (next answer) (otherNext other)) :
    comparison.Relates values (ask first read >>= next) (ask second read >>= otherNext) :=
  Comparison.Relates.ask_bind (read.Like like) (respects.asks read) rest

theorem relates_explain (wanted : Bool) (messages : List String) :
    comparison.Relates (fun _ _ => True) (explain wanted messages) (explain wanted messages) :=
  Comparison.Relates.explain (respects.explains wanted messages)

theorem relates_readInputs :
    comparison.Relates Eq (key.readInputs first) (key.readInputs second) := by
  apply respects.relates_ask_bind
  intro configuration otherConfiguration (likeConfiguration : like _ _ _)
  refine Comparison.Relates.bind (respects.relates_ofEval likeConfiguration) ?_ ?_
  · rintro configuration _ rfl
    apply respects.relates_ask_bind
    intro types otherTypes (likeTypes : like _ _ _)
    apply respects.relates_ask_bind
    intro platforms otherPlatforms (likePlatforms : like _ _ _)
    apply respects.relates_ask_bind
    intro registered otherRegistered (likeRegistered : like _ _ _)
    have joined := respects.joins likeTypes (respects.joins likePlatforms likeRegistered)
    refine Comparison.Relates.bind (respects.relates_ofEval joined) ?_ ?_
    · rintro values _ rfl
      exact .pure rfl
    · exact fun values => Grows.pure _
  · intro configuration
    refine (Grows.ask _ _).bind fun types => (Grows.ask _ _).bind fun platforms =>
      (Grows.ask _ _).bind fun registered => (Grows.ofEval _).bind fun values => Grows.pure _

theorem relates_screen (inputs : ResolutionInputs) :
    comparison.Relates Eq (key.screen first inputs) (key.screen second inputs) := by
  unfold screen
  split
  · exact .pure rfl
  apply respects.relates_ask_bind
  intro known otherKnown (likeKnown : like _ _ _)
  apply respects.relates_ask_bind
  intro required otherRequired (likeRequired : like _ _ _)
  have joined := respects.joins likeKnown likeRequired
  refine Comparison.Relates.bind (respects.relates_ofEval joined) ?_ ?_
  · rintro values _ rfl
    refine Comparison.Relates.bind (respects.relates_explain _ _) ?_ ?_
    · intro _ _ _
      split
      · exact respects.relates_ofEval (respects.refl _)
      · exact .pure rfl
    · intro _
      split
      · exact Grows.ofEval _
      · exact Grows.pure _
  · intro values
    refine (Grows.explain _ _).bind fun _ => ?_
    split
    · exact Grows.ofEval _
    · exact Grows.pure _

theorem relates_choose (inputs : ResolutionInputs) (candidates : List Label) :
    comparison.Relates Eq (key.choose first inputs candidates)
      (key.choose second inputs candidates) := by
  apply respects.relates_ask_bind
  intro answers otherAnswers (likeAnswers : List.Forall₂ (like _) _ _)
  exact respects.relates_ofEval (respects.selects _ _ inputs.requirements likeAnswers)

theorem relates_finish (inputs : ResolutionInputs) (screening : Screening)
    (selection : Selection) :
    comparison.Relates Eq (finish first inputs screening selection)
      (finish second inputs screening selection) := by
  apply respects.relates_ask_bind
  intro platforms otherPlatforms (likePlatforms : like _ _ _)
  refine Comparison.Relates.bind (respects.relates_ofEval likePlatforms) ?_ ?_
  · rintro known _ rfl
    refine Comparison.Relates.bind (respects.relates_ofEval (respects.refl _)) ?_ ?_
    · rintro execution _ rfl
      refine Comparison.Relates.bind (respects.relates_ofEval (respects.refl _)) ?_ ?_
      · rintro target _ rfl
        exact (respects.relates_explain _ _).bind (fun _ _ _ => .pure rfl) fun _ => Grows.pure _
      · exact fun target => (Grows.explain _ _).bind fun _ => Grows.pure _
    · exact fun execution => (Grows.ofEval _).bind fun target =>
        (Grows.explain _ _).bind fun _ => Grows.pure _
  · exact fun known => (Grows.ofEval _).bind fun execution => (Grows.ofEval _).bind fun target =>
      (Grows.explain _ _).bind fun _ => Grows.pure _

theorem relates_resolve : comparison.Relates Eq (key.resolve first) (key.resolve second) := by
  rw [resolve_eq, resolve_eq]
  have finishGrows (inputs screening selection) :
      (finish second inputs screening selection).Grows :=
    .of_takes (finish_takes second inputs screening selection)
  have chooseGrows (inputs candidates) : (key.choose second inputs candidates).Grows :=
    .of_takes (key.choose_takes second inputs candidates)
  have screenGrows (inputs) : (key.screen second inputs).Grows :=
    .of_takes (key.screen_takes second inputs)
  refine Comparison.Relates.bind (respects.relates_readInputs key) ?_ ?_
  · rintro inputs _ rfl
    refine Comparison.Relates.bind (respects.relates_screen key inputs) ?_ ?_
    · rintro screening _ rfl
      refine Comparison.Relates.bind (respects.relates_choose key inputs screening.kept) ?_ ?_
      · rintro selection _ rfl
        exact respects.relates_finish inputs screening selection
      · exact fun selection => finishGrows inputs screening selection
    · exact fun screening => (chooseGrows _ _).bind fun selection => finishGrows _ _ _
  · exact fun inputs => (screenGrows inputs).bind fun screening =>
      (chooseGrows _ _).bind fun selection => finishGrows _ _ _

end Comparison.Respects

end CrossBuild
