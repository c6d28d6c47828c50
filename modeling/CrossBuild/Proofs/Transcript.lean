import CrossBuild.Resolution.Engine

/-!
Attempts told from the outside: by their exchanges with the engine, the events that they buffer
and the result that they come to.  A step of an attempt is described by the courses it can take,
and the rules below put the courses of a whole attempt together from those of its steps.
-/

namespace CrossBuild

structure Exchange where
  read : Read
  answer : read.Answer

def Exchange.isPending : Exchange → Bool
  | ⟨.configuration _, answer⟩ => Eval.isPending answer
  | ⟨.platforms _, answer⟩ => Eval.isPending answer
  | ⟨.constraintValues _, answer⟩ => Eval.isPending answer
  | ⟨.toolchainTypes _ _, answer⟩ => Eval.isPending answer
  | ⟨.registeredPlatforms _, answer⟩ => Eval.isPending answer
  | ⟨.toolchains _, answers⟩ => answers.any Eval.isPending

namespace Engine

variable {σ : Type}

def transcript (engine : Engine σ) : List Read → σ → List Exchange
  | [], _ => []
  | read :: rest, state =>
      ⟨read, (engine.answer read state).1⟩ ::
        engine.transcript rest (engine.answer read state).2

def after (engine : Engine σ) (reads : List Read) (state : σ) : σ :=
  reads.foldl (fun current read => (engine.answer read current).2) state

theorem length_transcript (engine : Engine σ) (reads : List Read) (state : σ) :
    (engine.transcript reads state).length = reads.length := by
  induction reads generalizing state with
  | nil => rfl
  | cons read rest ih => rw [transcript, List.length_cons, ih, List.length_cons]

theorem transcript_append (engine : Engine σ) (first second : List Read) (state : σ) :
    engine.transcript (first ++ second) state =
      engine.transcript first state ++ engine.transcript second (engine.after first state) := by
  induction first generalizing state with
  | nil => rfl
  | cons read rest ih => simp only [List.cons_append, transcript, ih, after, List.foldl_cons]

theorem forall_mem_transcript {engine : Engine σ} {holds : Exchange → Prop}
    (each : ∀ read state, holds ⟨read, (engine.answer read state).1⟩) (reads : List Read)
    (state : σ) : ∀ exchange ∈ engine.transcript reads state, holds exchange := by
  induction reads generalizing state with
  | nil => simp [transcript]
  | cons read rest ih =>
      rw [transcript]
      exact List.forall_mem_cons.mpr ⟨each read state, ih _⟩

theorem after_append (engine : Engine σ) (first second : List Read) (state : σ) :
    engine.after (first ++ second) state = engine.after second (engine.after first state) := by
  simp only [after, List.foldl_append]

structure Gives (engine : Engine σ) (state : σ) (exchanges : List Exchange) (later : σ) :
    Prop where
  answers : engine.transcript (exchanges.map Exchange.read) state = exchanges
  states : engine.after (exchanges.map Exchange.read) state = later

namespace Gives

variable {engine : Engine σ} {state middle later : σ} {first second : List Exchange}

theorem nil (engine : Engine σ) (state : σ) : engine.Gives state [] state := ⟨rfl, rfl⟩

theorem single (engine : Engine σ) (read : Read) (state : σ) :
    engine.Gives state [⟨read, (engine.answer read state).1⟩] (engine.answer read state).2 :=
  ⟨rfl, rfl⟩

theorem append (one : engine.Gives state first middle) (two : engine.Gives middle second later) :
    engine.Gives state (first ++ second) later := by
  constructor
  · rw [List.map_append, transcript_append, one.answers, one.states, two.answers]
  · rw [List.map_append, after_append, one.states, two.states]

end Gives

end Engine

namespace Attempt

variable {σ α β : Type}

theorem run_bind (first : Attempt σ α) (next : α → Attempt σ β) (session : Session σ) :
    (first >>= next) session =
      match first session with
      | (.ok value, later) => next value later
      | (.error cause, later) => (.error cause, later) := by
  change (match first session with | (result, later) => ExceptT.bindCont next result later) = _
  rcases first session with ⟨_ | _, _⟩ <;> rfl

/-- Every run of the attempt makes exchanges with the engine, buffers events and comes to a
result in one of the given ways. -/
def Takes (engine : Engine σ) (attempt : Attempt σ α)
    (course : List Exchange → List Event → Eval α → Prop) : Prop :=
  ∀ session, ∃ exchanges events,
    engine.Gives session.state exchanges (attempt session).2.state ∧
    (attempt session).2.reads = session.reads ++ exchanges.map Exchange.read ∧
    (attempt session).2.events.events = session.events.events ++ events ∧
    course exchanges events (attempt session).1

namespace Takes

variable {engine : Engine σ} {course : List Exchange → List Event → Eval β → Prop}

theorem mono {attempt : Attempt σ β} {weaker : List Exchange → List Event → Eval β → Prop}
    (takes : Takes engine attempt course)
    (implies : ∀ exchanges events result, course exchanges events result →
      weaker exchanges events result) :
    Takes engine attempt weaker := by
  intro session
  obtain ⟨exchanges, events, gives, reads, buffered, holds⟩ := takes session
  exact ⟨exchanges, events, gives, reads, buffered, implies _ _ _ holds⟩

theorem ofEval {result : Eval β} (holds : course [] [] result) :
    Takes engine (Attempt.ofEval result) course :=
  fun session => ⟨[], [], .nil engine session.state, by simp [Attempt.ofEval],
    by simp [Attempt.ofEval], holds⟩

theorem pure {value : β} (holds : course [] [] (.ok value)) :
    Takes engine (Pure.pure value : Attempt σ β) course :=
  ofEval holds

theorem bind {first : Attempt σ α} {next : α → Attempt σ β}
    (firstCourse : List Exchange → List Event → Eval α → Prop)
    (one : Takes engine first firstCourse)
    (stops : ∀ exchanges events cause, firstCourse exchanges events (.error cause) →
      course exchanges events (.error cause))
    (goes : ∀ exchanges events value, firstCourse exchanges events (.ok value) →
      Takes engine (next value) fun later laterEvents result =>
        course (exchanges ++ later) (events ++ laterEvents) result) :
    Takes engine (first >>= next) course := by
  intro session
  obtain ⟨exchanges, events, gives, reads, buffered, holds⟩ := one session
  rw [run_bind]
  rcases ran : first session with ⟨cause | value, middle⟩
  · simp only [ran] at gives reads buffered holds ⊢
    exact ⟨exchanges, events, gives, reads, buffered, stops _ _ _ holds⟩
  · simp only [ran] at gives reads buffered holds ⊢
    obtain ⟨later, laterEvents, laterGives, laterReads, laterBuffered, laterHolds⟩ :=
      goes _ _ _ holds middle
    refine ⟨exchanges ++ later, events ++ laterEvents, gives.append laterGives, ?_, ?_, laterHolds⟩
    · rw [laterReads, reads, List.map_append, List.append_assoc]
    · rw [laterBuffered, buffered, List.append_assoc]

theorem ask_bind {read : Read} {next : read.Answer → Attempt σ β}
    (rest : ∀ answer, Takes engine (next answer) fun exchanges events result =>
      course (⟨read, answer⟩ :: exchanges) events result) :
    Takes engine (Attempt.ask engine read >>= next) course := by
  refine bind (fun exchanges events result =>
    ∃ answer, exchanges = [⟨read, answer⟩] ∧ events = [] ∧ result = .ok answer) ?_ ?_ ?_
  · intro session
    exact ⟨_, [], .single engine read session.state, rfl, by simp [Attempt.ask], _, rfl, rfl, rfl⟩
  · rintro exchanges events cause ⟨answer, _, _, impossible⟩
    cases impossible
  · rintro exchanges events value ⟨answer, rfl, rfl, same⟩
    cases same
    exact rest value

theorem ofEval_bind {result : Eval α} {next : α → Attempt σ β}
    (stops : ∀ cause, result = .error cause → course [] [] (.error cause))
    (goes : ∀ value, result = .ok value → Takes engine (next value) course) :
    Takes engine (Attempt.ofEval result >>= next) course := by
  refine bind (fun exchanges events final =>
    exchanges = [] ∧ events = [] ∧ final = result) (ofEval ⟨rfl, rfl, rfl⟩) ?_ ?_
  · rintro exchanges events cause ⟨rfl, rfl, same⟩
    exact stops cause same.symm
  · rintro exchanges events value ⟨rfl, rfl, same⟩
    exact goes value same.symm

theorem events_foldl_info (messages : List String) (buffer : EventBuffer) :
    (messages.foldl EventBuffer.info buffer).events = buffer.events ++ messages.map .info := by
  induction messages generalizing buffer with
  | nil => simp
  | cons message rest ih =>
      rw [List.foldl_cons, ih]
      simp [EventBuffer.info, EventBuffer.record]

theorem explain_bind {wanted : Bool} {messages : List String} {next : Unit → Attempt σ β}
    (rest : Takes engine (next ()) fun exchanges events result =>
      course exchanges ((if wanted then messages.map .info else []) ++ events) result) :
    Takes engine (Attempt.explain wanted messages >>= next) course := by
  refine bind (fun exchanges events final =>
    exchanges = [] ∧ events = (if wanted then messages.map .info else []) ∧ final = .ok ())
    ?_ ?_ ?_
  · intro session
    refine ⟨[], if wanted then messages.map .info else [], ?_⟩
    cases wanted with
    | false => exact ⟨.nil _ _, by simp [Attempt.explain], by simp [Attempt.explain], rfl, rfl, rfl⟩
    | true =>
        exact ⟨.nil _ _, by simp [Attempt.explain],
          by simp [Attempt.explain, events_foldl_info], rfl, rfl, rfl⟩
  · rintro exchanges events cause ⟨_, _, impossible⟩
    cases impossible
  · rintro exchanges events value ⟨rfl, rfl, _⟩
    exact rest

end Takes

def Grows (attempt : Attempt σ α) : Prop :=
  ∀ session, session.reads <+: (attempt session).2.reads

namespace Grows

theorem of_takes {engine : Engine σ} {attempt : Attempt σ α}
    {course : List Exchange → List Event → Eval α → Prop} (takes : Takes engine attempt course) :
    attempt.Grows := by
  intro session
  obtain ⟨exchanges, _, _, reads, _⟩ := takes session
  exact ⟨exchanges.map Exchange.read, reads.symm⟩

theorem pure (value : α) : (Pure.pure value : Attempt σ α).Grows :=
  fun _ => List.prefix_refl _

theorem bind {first : Attempt σ α} {next : α → Attempt σ β} (one : first.Grows)
    (rest : ∀ value, (next value).Grows) : (first >>= next).Grows := by
  intro session
  have grown := one session
  rw [run_bind]
  generalize first session = ran at grown ⊢
  rcases ran with ⟨cause | value, middle⟩
  · exact grown
  · exact grown.trans (rest value middle)

theorem ask (engine : Engine σ) (read : Read) : (Attempt.ask engine read).Grows :=
  fun _ => List.prefix_append _ _

theorem ofEval (result : Eval α) : (Attempt.ofEval result : Attempt σ α).Grows :=
  fun _ => List.prefix_refl _

theorem explain (wanted : Bool) (messages : List String) :
    (Attempt.explain wanted messages : Attempt σ Unit).Grows := by
  intro session
  cases wanted <;> exact List.prefix_refl _

end Grows

end Attempt

end CrossBuild
