import CrossBuild.Proofs.Transcript

/-!
Attempts side by side.  A comparison says what two attempts have in common while both go on, and
what is left of it once the first one stops; the second one may then still be going on.
-/

namespace CrossBuild

def Eval.stop? {α : Type} : Eval α → Option Suspension
  | .ok _ => none
  | .error cause => some cause

theorem Eval.stop?_eq_some_iff {α : Type} {result : Eval α} {cause : Suspension} :
    result.stop? = some cause ↔ result = .error cause := by
  cases result <;> simp [stop?]

/-- `stopped` is about the first attempt's cause and session, and about the cause of the second
one if it has stopped as well.  Reads that the second one adds do no harm. -/
structure Comparison (σ τ : Type) where
  sessions : Session σ → Session τ → Prop
  stopped : Suspension → Session σ → Option Suspension → Session τ → Prop
  persists : ∀ {cause left right later} (other : Option Suspension),
    stopped cause left none right → right.reads <+: later.reads → stopped cause left other later

namespace Comparison

variable {σ τ α β γ δ : Type} (comparison : Comparison σ τ)

structure Relates (values : α → β → Prop) (first : Attempt σ α) (second : Attempt τ β) :
    Prop where
  goes : ∀ {left right value later}, comparison.sessions left right →
    first left = (.ok value, later) →
    ∃ other otherLater, second right = (.ok other, otherLater) ∧ values value other ∧
      comparison.sessions later otherLater
  stops : ∀ {left right cause later}, comparison.sessions left right →
    first left = (.error cause, later) →
    comparison.stopped cause later (Eval.stop? (second right).1) (second right).2

namespace Relates

variable {comparison} {values : α → β → Prop} {laterValues : γ → δ → Prop}

theorem ofEval {result : Eval α} {other : Eval β}
    (goes : ∀ value, result = .ok value →
      ∃ otherValue, other = .ok otherValue ∧ values value otherValue)
    (stops : ∀ cause, result = .error cause → ∀ left right, comparison.sessions left right →
      comparison.stopped cause left other.stop? right) :
    comparison.Relates values (Attempt.ofEval result) (Attempt.ofEval other) where
  goes {left right value later} common ran := by
    obtain ⟨answered, rfl⟩ := Prod.mk.inj ran
    obtain ⟨otherValue, rfl, related⟩ := goes value answered
    exact ⟨otherValue, right, rfl, related, common⟩
  stops {left right cause later} common ran := by
    obtain ⟨stopped, rfl⟩ := Prod.mk.inj ran
    exact stops cause stopped left right common

theorem pure {value : α} {other : β} (related : values value other) :
    comparison.Relates values (Pure.pure value : Attempt σ α) (Pure.pure other : Attempt τ β) :=
  ofEval (fun _ same => ⟨other, rfl, by cases same; exact related⟩) fun _ impossible => by
    cases impossible

theorem explain {wanted otherWanted : Bool} {messages otherMessages : List String}
    (buffers : ∀ left right, comparison.sessions left right →
      comparison.sessions (Attempt.explain wanted messages left).2
        (Attempt.explain otherWanted otherMessages right).2) :
    comparison.Relates (fun _ _ => True) (Attempt.explain wanted messages)
      (Attempt.explain otherWanted otherMessages) where
  goes {left right value later} common ran := by
    have buffered := buffers left right common
    rw [ran] at buffered
    cases otherWanted <;> exact ⟨(), _, rfl, trivial, buffered⟩
  stops {left right cause later} common ran := by
    cases wanted <;> cases ran

/-- The rest of the second attempt is run even where the first attempt has stopped, and must leave
what is known by then as it is. -/
theorem bind_of_survives {first : Attempt σ α} {second : Attempt τ β} {next : α → Attempt σ γ}
    {otherNext : β → Attempt τ δ} (one : comparison.Relates values first second)
    (rest : ∀ value other, values value other →
      comparison.Relates laterValues (next value) (otherNext other))
    (survives : ∀ {cause left right} other, comparison.stopped cause left none right →
      comparison.stopped cause left (Eval.stop? (otherNext other right).1)
        (otherNext other right).2) :
    comparison.Relates laterValues (first >>= next) (second >>= otherNext) where
  goes {left right value later} common ran := by
    rw [Attempt.run_bind] at ran ⊢
    rcases begun : first left with ⟨cause | middle, session⟩
    · simp only [begun] at ran
      cases ran
    · simp only [begun] at ran
      obtain ⟨other, otherSession, same, related, middleCommon⟩ := one.goes common begun
      rw [same]
      exact (rest middle other related).goes middleCommon ran
  stops {left right cause later} common ran := by
    rw [Attempt.run_bind] at ran ⊢
    rcases begun : first left with ⟨firstCause | middle, session⟩
    · simp only [begun] at ran
      cases ran
      have stopped := one.stops common begun
      generalize second right = otherRan at stopped ⊢
      rcases otherRan with ⟨otherCause | other, otherSession⟩
      · exact stopped
      · exact survives other stopped
    · simp only [begun] at ran
      obtain ⟨other, otherSession, same, related, middleCommon⟩ := one.goes common begun
      rw [same]
      exact (rest middle other related).stops middleCommon ran

theorem bind {first : Attempt σ α} {second : Attempt τ β} {next : α → Attempt σ γ}
    {otherNext : β → Attempt τ δ} (one : comparison.Relates values first second)
    (rest : ∀ value other, values value other →
      comparison.Relates laterValues (next value) (otherNext other))
    (grows : ∀ other, (otherNext other).Grows) :
    comparison.Relates laterValues (first >>= next) (second >>= otherNext) :=
  bind_of_survives one rest fun other stopped => comparison.persists _ stopped (grows other _)

theorem ask_bind {engine : Engine σ} {otherEngine : Engine τ} {read otherRead : Read}
    {next : read.Answer → Attempt σ γ} {otherNext : otherRead.Answer → Attempt τ δ}
    (answers : read.Answer → otherRead.Answer → Prop)
    (asks : ∀ left right, comparison.sessions left right →
      answers (engine.answer read left.state).1 (otherEngine.answer otherRead right.state).1 ∧
      comparison.sessions (Attempt.ask engine read left).2
        (Attempt.ask otherEngine otherRead right).2)
    (rest : ∀ answer other, answers answer other →
      comparison.Relates laterValues (next answer) (otherNext other)) :
    comparison.Relates laterValues (Attempt.ask engine read >>= next)
      (Attempt.ask otherEngine otherRead >>= otherNext) where
  goes {left right value later} common ran := by
    obtain ⟨related, laterCommon⟩ := asks left right common
    exact (rest _ _ related).goes laterCommon ran
  stops {left right cause later} common ran := by
    obtain ⟨related, laterCommon⟩ := asks left right common
    exact (rest _ _ related).stops laterCommon ran

end Relates

end Comparison

end CrossBuild
