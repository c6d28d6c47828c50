import CrossBuild.Proofs.Classification
import CrossBuild.Proofs.Congruence
import CrossBuild.Proofs.Screening
import CrossBuild.Resolution.MemoryEngine
import Mathlib.Data.List.Forall2

/-!
The same resolution on two engines, one of which has computed more values than the other.  What an
attempt on the lesser one comes to is settled: the other one can only go on where the first one had
to stop and wait.
-/

namespace CrossBuild

namespace Eval

variable {α β γ : Type}

def KeptIn (earlier later : Eval α) : Prop := earlier ≠ .error .notReady → later = earlier

structure Settles (earlier later : Eval α) : Prop where
  value : ∀ value, earlier = .ok value → later = .ok value
  failure : ∀ failure, earlier = .error (.failed failure) → ∃ other, later = .error (.failed other)

theorem KeptIn.settles {earlier later : Eval α} (kept : KeptIn earlier later) :
    Settles earlier later := by
  constructor
  · rintro value rfl
    exact kept (by simp)
  · rintro failure rfl
    exact ⟨failure, kept (by simp)⟩

theorem Settles.refl (result : Eval α) : Settles result result :=
  ⟨fun _ same => same, fun failure same => ⟨failure, same⟩⟩

theorem KeptIn.bind {earlier later : Eval α} (kept : KeptIn earlier later) (next : α → Eval β) :
    KeptIn (Except.bind earlier next) (Except.bind later next) := by
  intro answered
  rw [kept]
  rintro rfl
  exact answered rfl

theorem KeptIn.map {earlier later : Eval α} (kept : KeptIn earlier later) (change : α → β) :
    KeptIn (Except.map change earlier) (Except.map change later) := by
  intro answered
  rw [kept]
  rintro rfl
  exact answered rfl

theorem Settles.bind {earlier later : Eval α} (settles : Settles earlier later)
    (next : α → Eval β) : Settles (earlier >>= next) (later >>= next) := by
  rcases earlier with (_ | failure) | value
  · constructor
    · rintro value impossible
      cases impossible
    · rintro failure impossible
      cases impossible
  · obtain ⟨other, rfl⟩ := settles.failure failure rfl
    constructor
    · rintro value impossible
      cases impossible
    · intro _ _
      exact ⟨other, rfl⟩
  · rw [settles.value value rfl]
    exact .refl _

theorem Settles.joinPair {first firstLater : Eval α} {second secondLater : Eval β}
    (one : Settles first firstLater) (two : Settles second secondLater) :
    Settles (Eval.joinPair first second) (Eval.joinPair firstLater secondLater) := by
  constructor
  · intro values joined
    obtain ⟨rfl, rfl⟩ := joinPair_eq_ok_iff.mp joined
    exact joinPair_eq_ok_iff.mpr ⟨one.value _ rfl, two.value _ rfl⟩
  · intro failure joined
    have fails : (∃ other, firstLater = .error (.failed other)) ∨
        ∃ other, secondLater = .error (.failed other) := by
      rcases joinPair_eq_failed_iff.mp joined with failed | ⟨failed, _⟩
      · exact .inl (one.failure failure failed)
      · exact .inr (two.failure failure failed)
    rcases fails with ⟨other, rfl⟩ | ⟨other, rfl⟩
    · exact ⟨other, rfl⟩
    · rcases firstLater with (_ | earlier) | _
      · exact ⟨other, rfl⟩
      · exact ⟨earlier, rfl⟩
      · exact ⟨other, rfl⟩

end Eval

namespace ToolchainAnswer

theorem isRefusal_of_settles {earlier later : ToolchainAnswer}
    (settles : Eval.Settles earlier.2 later.2) (refusal : earlier.IsRefusal) :
    later.IsRefusal := by
  rw [isRefusal_iff] at refusal ⊢
  rcases refusal with ⟨failure, failed⟩ | ⟨value, answered, empty⟩
  · exact .inl (settles.failure failure failed)
  · exact .inr ⟨value, settles.value value answered, empty⟩

abbrev Settled : List ToolchainAnswer → List ToolchainAnswer → Prop :=
  List.Forall₂ fun one two => Eval.Settles one.2 two.2

theorem settled_zip (requirements : List ToolchainRequirement)
    {earlier later : List (Eval ToolchainAvailability)}
    (settles : List.Forall₂ Eval.Settles earlier later) :
    Settled (requirements.zip earlier) (requirements.zip later) := by
  induction settles generalizing requirements with
  | nil => simp
  | cons one _ ih =>
      cases requirements with
      | nil => simp
      | cons requirement rest => exact .cons one (ih rest)

theorem Settled.exists_refusal {earlier later : List ToolchainAnswer}
    (settled : Settled earlier later) (refused : ∃ answer ∈ earlier, answer.IsRefusal) :
    ∃ answer ∈ later, answer.IsRefusal := by
  induction settled with
  | nil => simp at refused
  | cons settles _ ih =>
      rcases (List.exists_mem_cons_iff ..).mp refused with refusal | later
      · exact ⟨_, List.mem_cons_self, isRefusal_of_settles settles refusal⟩
      · obtain ⟨other, member, refusal⟩ := ih later
        exact ⟨other, List.mem_cons_of_mem _ member, refusal⟩

theorem Settled.map_snd {earlier later : List ToolchainAnswer} (settled : Settled earlier later)
    (offers : ∀ answer ∈ earlier, answer.Offers) :
    later.map Prod.snd = earlier.map Prod.snd := by
  induction settled with
  | nil => rfl
  | cons settles _ ih =>
      obtain ⟨value, answered, _⟩ := offers _ List.mem_cons_self
      rw [List.map_cons, List.map_cons, settles.value value answered, answered,
        ih fun answer member => offers answer (List.mem_cons_of_mem _ member)]

theorem Settled.collect {earlier later : List ToolchainAnswer} (settled : Settled earlier later) :
    Eval.Settles (collect earlier) (collect later) := by
  constructor
  · intro values collected
    have same := settled.map_snd (offers_of_collect collected)
    rw [collect_eq_ok_iff] at collected ⊢
    exact ⟨same.trans collected.1, collected.2⟩
  · intro failure failed
    exact (collect_failed_iff later).mpr
      (settled.exists_refusal ((collect_failed_iff earlier).mp ⟨failure, failed⟩))

end ToolchainAnswer

namespace Read

def KeptIn : (read : Read) → read.Answer → read.Answer → Prop
  | configuration _, earlier, later => Eval.KeptIn earlier later
  | platforms _, earlier, later => Eval.KeptIn earlier later
  | constraintValues _, earlier, later => Eval.KeptIn earlier later
  | toolchainTypes _ _, earlier, later => Eval.KeptIn earlier later
  | registeredPlatforms _, earlier, later => Eval.KeptIn earlier later
  | toolchains _, earlier, later => List.Forall₂ Eval.KeptIn earlier later

theorem KeptIn.settles {read : Read} {earlier later : read.Answer}
    (kept : read.KeptIn earlier later) : read.Like (fun _ => Eval.Settles) earlier later := by
  cases read with
  | toolchains queries => exact List.Forall₂.imp (fun _ _ => Eval.KeptIn.settles) kept
  | configuration key => exact Eval.KeptIn.settles kept
  | platforms labels => exact Eval.KeptIn.settles kept
  | constraintValues labels => exact Eval.KeptIn.settles kept
  | toolchainTypes key labels => exact Eval.KeptIn.settles kept
  | registeredPlatforms key => exact Eval.KeptIn.settles kept

end Read

/-- In related states, both engines give the same answers to all reads, as far as the first one
has an answer at all. -/
structure Engine.LessComputed {σ τ : Type} (related : σ → τ → Prop) (earlier : Engine σ)
    (later : Engine τ) : Prop where
  answers : ∀ (read : Read) state other, related state other →
    read.KeptIn (earlier.answer read state).1 (later.answer read other).1
  states : ∀ read state other, related state other →
    related (earlier.answer read state).2 (later.answer read other).2

/-- The sessions have made the same reads and buffered the same events.  When the first attempt
stops at a failure, so does the second one. -/
def readiness {σ τ : Type} (related : σ → τ → Prop) : Comparison σ τ where
  sessions left right :=
    related left.state right.state ∧ left.reads = right.reads ∧ left.events = right.events
  stopped cause left other right :=
    left.reads <+: right.reads ∧
      ∀ failure, cause = .failed failure → ∃ otherFailure, other = some (.failed otherFailure)
  persists := by
    rintro cause left right later other ⟨reads, fails⟩ more
    refine ⟨reads.trans more, ?_⟩
    rintro failure rfl
    obtain ⟨_, impossible⟩ := fails failure rfl
    cases impossible

namespace Engine.LessComputed

variable {σ τ : Type} {related : σ → τ → Prop} {earlier : Engine σ} {later : Engine τ}

theorem respects (less : LessComputed related earlier later) :
    (readiness related).Respects (fun _ => Eval.Settles) earlier later where
  asks read left right inStep :=
    ⟨(less.answers read _ _ inStep.1).settles,
      Session.InStep.ask (less.states read _ _ inStep.1) inStep⟩
  explains wanted messages left right inStep := Session.InStep.explain wanted messages inStep
  values settles := settles.value
  stops settles cause stopped left right := by
    rintro ⟨_, reads, _⟩
    refine ⟨reads ▸ List.prefix_refl _, ?_⟩
    rintro failure rfl
    obtain ⟨otherFailure, failed⟩ := settles.failure failure stopped
    exact ⟨otherFailure, by rw [failed]; rfl⟩
  refl := Eval.Settles.refl
  joins one two := one.joinPair two
  selects _ _ requirements _ _ settles :=
    (ToolchainAnswer.settled_zip requirements settles).collect.bind _

theorem reads_prefix (less : LessComputed related earlier later) (key : ResolutionKey)
    {state : σ} {other : τ} (start : related state other) :
    (earlier.attempt key state).1.reads <+: (later.attempt key other).1.reads := by
  have relates := less.respects.relates_resolve key
  have common : (readiness related).sessions { state := state } { state := other } :=
    ⟨start, rfl, rfl⟩
  rw [reads_attempt, reads_attempt]
  rcases ran : key.resolve earlier { state := state } with ⟨cause | resolution, session⟩
  · exact (relates.stops common ran).1
  · obtain ⟨_, otherSession, same, _, _, reads, _⟩ := relates.goes common ran
    rw [same]
    have equal : session.reads = otherSession.reads := reads
    exact equal ▸ List.prefix_refl session.reads

theorem ready (less : LessComputed related earlier later) (key : ResolutionKey) {state : σ}
    {other : τ} (start : related state other) {resolution : Resolution}
    (resolved : (earlier.attempt key state).1.outcome = .ok resolution) :
    (later.attempt key other).1.outcome = .ok resolution ∧
      (later.attempt key other).1.events = (earlier.attempt key state).1.events := by
  have relates := less.respects.relates_resolve key
  have common : (readiness related).sessions { state := state } { state := other } :=
    ⟨start, rfl, rfl⟩
  obtain ⟨_, session, same, rfl, _, _, events⟩ := relates.goes common (Prod.ext resolved rfl)
  rw [outcome_attempt, events_attempt, same]
  exact ⟨rfl, events.symm⟩

theorem failed (less : LessComputed related earlier later) (key : ResolutionKey) {state : σ}
    {other : τ} (start : related state other) {failure : Failure}
    (fails : (earlier.attempt key state).1.outcome = .error (.failed failure)) :
    ∃ otherFailure, (later.attempt key other).1.outcome = .error (.failed otherFailure) := by
  have relates := less.respects.relates_resolve key
  have common : (readiness related).sessions { state := state } { state := other } :=
    ⟨start, rfl, rfl⟩
  obtain ⟨otherFailure, stopped⟩ := (relates.stops common (Prod.ext fails rfl)).2 failure rfl
  exact ⟨otherFailure, Eval.stop?_eq_some_iff.mp stopped⟩

end Engine.LessComputed

namespace MemoryEngine

variable (engine : MemoryEngine) {seen later : Seen}

theorem isPending_of_subset (more : seen ⊆ later) {request : String}
    (pending : engine.isPending later request = true) : engine.isPending seen request = true := by
  simp only [isPending, Bool.or_eq_true, Bool.and_eq_true, Bool.not_eq_true',
    List.contains_eq_mem, decide_eq_true_eq, decide_eq_false_iff_not] at pending ⊢
  rcases pending with never | ⟨cold, unseen⟩
  · exact .inl never
  · exact .inr ⟨cold, fun member => unseen (more member)⟩

theorem note_kept (more : seen ⊆ later) (requests : List String) :
    Eval.KeptIn (engine.note requests seen).1 (engine.note requests later).1 := by
  unfold note
  dsimp only
  by_cases pending : requests.any (engine.isPending seen) = true
  · intro answered
    rw [if_pos pending] at answered
    exact (answered rfl).elim
  · have settled : ¬requests.any (engine.isPending later) = true := by
      intro laterPending
      obtain ⟨request, member, still⟩ := List.any_eq_true.mp laterPending
      exact pending (List.any_eq_true.mpr
        ⟨request, member, engine.isPending_of_subset more still⟩)
    intro _
    rw [if_neg pending, if_neg settled]

theorem answerQueries_kept (more : seen ⊆ later) (queries : List ToolchainQuery) :
    List.Forall₂ Eval.KeptIn (engine.answerQueries queries seen).1
        (engine.answerQueries queries later).1 ∧
      (engine.answerQueries queries seen).2 ⊆ (engine.answerQueries queries later).2 := by
  induction queries generalizing seen later with
  | nil => exact ⟨.nil, more⟩
  | cons query rest ih =>
      have kept := engine.note_kept more [query.request]
      have noted : (engine.note [query.request] seen).2 ⊆ (engine.note [query.request] later).2 :=
        List.append_subset.mpr ⟨List.subset_append_left _ _,
          List.subset_append_of_subset_right _ more⟩
      obtain ⟨answers, states⟩ := ih noted
      exact ⟨.cons (kept.bind _) answers, states⟩

theorem lessComputed :
    Engine.LessComputed (fun seen later => seen ⊆ later) engine.toEngine engine.toEngine where
  answers read seen later more := by
    cases read with
    | toolchains queries => exact (engine.answerQueries_kept more queries).1
    | configuration key => exact (engine.note_kept more _).map _
    | platforms labels => exact (engine.note_kept more _).bind _
    | constraintValues labels => exact (engine.note_kept more _).bind _
    | toolchainTypes key labels => exact (engine.note_kept more _).bind _
    | registeredPlatforms key => exact (engine.note_kept more _).map _
  states read seen later more := by
    have noted (requests : List String) : requests ++ seen ⊆ requests ++ later :=
      List.append_subset.mpr ⟨List.subset_append_left _ _,
        List.subset_append_of_subset_right _ more⟩
    cases read with
    | toolchains queries => exact (engine.answerQueries_kept more queries).2
    | _ => exact noted _

end MemoryEngine

structure AttemptReport.Foretells (earlier later : AttemptReport) : Prop where
  ready : ∀ resolution, earlier.outcome = .ok resolution →
    later.outcome = .ok resolution ∧ later.delivered = earlier.delivered
  failed : ∀ failure, earlier.outcome = .error (.failed failure) →
    ∃ otherFailure, later.outcome = .error (.failed otherFailure)
  waiting : ∀ resolution, later.outcome = .ok resolution →
    earlier.outcome = .error .notReady ∨ earlier.outcome = .ok resolution

/-- Restarts are transparent: values that are not ready delay a resolution and never change it. -/
theorem foretells_of_lessComputed {σ τ : Type} {related : σ → τ → Prop} {earlier : Engine σ}
    {later : Engine τ} (less : Engine.LessComputed related earlier later) (key : ResolutionKey)
    {state : σ} {other : τ} (start : related state other) :
    (earlier.attempt key state).1.Foretells (later.attempt key other).1 where
  ready resolution resolved := by
    obtain ⟨same, events⟩ := less.ready key start resolved
    exact ⟨same, by simp only [AttemptReport.delivered, same, resolved, events]⟩
  failed failure fails := less.failed key start fails
  waiting resolution resolved := by
    rcases outcome : (earlier.attempt key state).1.outcome with (_ | failure) | settled
    · exact .inl rfl
    · obtain ⟨otherFailure, fails⟩ := less.failed key start outcome
      rw [resolved] at fails
      cases fails
    · obtain ⟨same, _⟩ := less.ready key start outcome
      rw [resolved] at same
      cases same
      exact .inr rfl

def slowRegistrations : MemoryEngine where
  configuration :=
    { host := ⟨"", "platforms", "host"⟩
      target := ⟨"", "platforms", "target"⟩
      debugFilter := .disabled }
  platforms := [⟨⟨"", "platforms", "host"⟩, .empty⟩, ⟨⟨"", "platforms", "target"⟩, .empty⟩,
    ⟨⟨"", "platforms", "remote"⟩,
      .single ⟨⟨"", "constraints", "linux"⟩, ⟨⟨"", "constraints", "os"⟩⟩⟩⟩]
  constraintValues := [⟨⟨"", "constraints", "linux"⟩, ⟨⟨"", "constraints", "os"⟩⟩⟩]
  toolchainTypes := [(⟨"", "toolchains", "cc"⟩, ⟨"", "toolchains", "cc"⟩)]
  registered := [⟨"", "platforms", "remote"⟩]
  toolchains := [{ toolchainType := ⟨"", "toolchains", "cc"⟩
                   pairs := [(⟨"", "platforms", "remote"⟩, ⟨"", "toolchains", "cc_remote"⟩)] }]
  cold := .only ["registered_execution_platforms opt"]

def linuxKey : ResolutionKey where
  configuration := ⟨"opt"⟩
  requirements := [{ toolchainType := ⟨"", "toolchains", "cc"⟩ }]
  executionConstraints := [⟨"", "constraints", "linux"⟩]
  debug := true

theorem foretells_slowRegistrations :
    Engine.LessComputed (fun seen later => seen ⊆ later) slowRegistrations.toEngine
        slowRegistrations.toEngine ∧
      ([] : MemoryEngine.Seen) ⊆ ["registered_execution_platforms opt"] ∧
      (slowRegistrations.toEngine.attempt linuxKey []).1.outcome = .error .notReady ∧
      (slowRegistrations.toEngine.attempt linuxKey
        ["registered_execution_platforms opt"]).1.outcome.isOk = true ∧
      (slowRegistrations.toEngine.attempt linuxKey []).1.Foretells
        (slowRegistrations.toEngine.attempt linuxKey ["registered_execution_platforms opt"]).1 :=
  ⟨slowRegistrations.lessComputed, List.nil_subset _, by rfl, by decide +kernel,
    foretells_of_lessComputed slowRegistrations.lessComputed linuxKey (List.nil_subset _)⟩

end CrossBuild
