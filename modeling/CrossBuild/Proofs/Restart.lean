import CrossBuild.Proofs.Readiness
import CrossBuild.Proofs.Waiting
import Mathlib.Data.List.Infix

/-!
Restarts on the memory engine.  An attempt that stops to wait has made the requests that it waits
for, and the next one gets past them.
-/

namespace CrossBuild

namespace Eval

variable {α β : Type}

theorem foldlM_ne_notReady {step : β → α → Eval β}
    (answers : ∀ found item, step found item ≠ .error .notReady) (items : List α) (found : β) :
    items.foldlM step found ≠ .error .notReady := by
  induction items generalizing found with
  | nil => simp [pure, Except.pure]
  | cons item rest ih =>
      rw [List.foldlM_cons]
      cases first : step found item with
      | error cause =>
          intro waiting
          cases waiting
          exact answers found item first
      | ok value => exact ih value

theorem mapM_ne_notReady {step : α → Eval β} (answers : ∀ item, step item ≠ .error .notReady)
    (items : List α) : items.mapM step ≠ .error .notReady := by
  induction items with
  | nil => simp [pure, Except.pure]
  | cons item rest ih =>
      rw [List.mapM_cons]
      cases first : step item with
      | error cause =>
          intro waiting
          cases waiting
          exact answers item first
      | ok value =>
          cases later : rest.mapM step with
          | error cause =>
              intro waiting
              rw [later] at ih
              cases waiting
              exact ih rfl
          | ok values => simp [bind, Except.bind, pure, Except.pure]

theorem notReady_of_bind {result : Eval α} {next : α → Eval β}
    (answers : ∀ value, next value ≠ .error .notReady)
    (waiting : Except.bind result next = .error .notReady) : result = .error .notReady := by
  cases result with
  | error cause =>
      cases waiting
      rfl
  | ok value => exact (answers value waiting).elim

theorem notReady_of_map {result : Eval α} {change : α → β}
    (waiting : Except.map change result = .error .notReady) : result = .error .notReady := by
  cases result with
  | error cause =>
      cases waiting
      rfl
  | ok value => cases waiting

end Eval

def Read.noted : Read → List String
  | .toolchains queries => queries.map ToolchainQuery.request
  | read => read.requests

namespace MemoryEngine

variable (engine : MemoryEngine)

theorem findPlatforms_ne_notReady (labels : List Label) :
    engine.findPlatforms labels ≠ .error .notReady := by
  apply Eval.foldlM_ne_notReady
  intro found label
  split
  · simp
  · split <;> simp [Eval.fail]

theorem findConstraintValues_ne_notReady (labels : List Label) :
    engine.findConstraintValues labels ≠ .error .notReady := by
  apply Eval.mapM_ne_notReady
  intro label
  split <;> simp [Eval.fail]

theorem findToolchainTypes_ne_notReady (labels : List Label) :
    engine.findToolchainTypes labels ≠ .error .notReady := by
  apply Eval.foldlM_ne_notReady
  intro found label
  split <;> simp [Eval.fail]

theorem findToolchains_ne_notReady (query : ToolchainQuery) :
    engine.findToolchains query ≠ .error .notReady := by
  unfold findToolchains
  dsimp only
  split <;> simp [Eval.fail]

variable {engine}

theorem exists_unseen_of_note (everReady : engine.neverReady = []) {requests : List String}
    {seen : Seen} (waiting : (engine.note requests seen).1 = .error .notReady) :
    ∃ request ∈ requests, request ∉ seen := by
  simp only [note] at waiting
  split at waiting
  next pending =>
    obtain ⟨request, member, unseen⟩ := List.any_eq_true.mp pending
    refine ⟨request, member, ?_⟩
    simp only [isPending, everReady, List.contains_eq_mem, List.not_mem_nil, decide_false,
      Bool.false_or, Bool.and_eq_true, Bool.not_eq_true', decide_eq_false_iff_not] at unseen
    exact unseen.2
  next => split at waiting <;> cases waiting

theorem exists_unseen_of_answerQueries (everReady : engine.neverReady = [])
    {queries : List ToolchainQuery} {seen : Seen}
    (waiting : (engine.answerQueries queries seen).1.any Eval.isPending = true) :
    ∃ request ∈ queries.map ToolchainQuery.request, request ∉ seen := by
  induction queries generalizing seen with
  | nil => simp [answerQueries] at waiting
  | cons query rest ih =>
      simp only [answerQueries, List.any_cons, Bool.or_eq_true] at waiting
      rcases waiting with first | later
      · have noted := Eval.notReady_of_bind (fun _ => engine.findToolchains_ne_notReady query)
          (Eval.isPending_iff.mp first)
        obtain ⟨request, member, unseen⟩ := exists_unseen_of_note everReady noted
        rw [List.mem_singleton] at member
        exact ⟨request, by simp [member], unseen⟩
      · obtain ⟨request, member, unseen⟩ := ih later
        refine ⟨request, List.mem_cons_of_mem _ member, ?_⟩
        exact fun earlier => unseen (List.mem_append_right _ earlier)

theorem exists_unseen (everReady : engine.neverReady = []) {read : Read} {seen : Seen}
    (waiting : Exchange.isPending ⟨read, (engine.answer read seen).1⟩ = true) :
    ∃ request ∈ read.noted, request ∉ seen := by
  cases read with
  | configuration key =>
      exact exists_unseen_of_note everReady
        (Eval.notReady_of_map (Eval.isPending_iff.mp waiting))
  | platforms labels =>
      exact exists_unseen_of_note everReady (Eval.notReady_of_bind
        (fun _ => engine.findPlatforms_ne_notReady labels) (Eval.isPending_iff.mp waiting))
  | constraintValues labels =>
      exact exists_unseen_of_note everReady (Eval.notReady_of_bind
        (fun _ => engine.findConstraintValues_ne_notReady labels) (Eval.isPending_iff.mp waiting))
  | toolchainTypes key labels =>
      exact exists_unseen_of_note everReady (Eval.notReady_of_bind
        (fun _ => engine.findToolchainTypes_ne_notReady labels) (Eval.isPending_iff.mp waiting))
  | registeredPlatforms key =>
      exact exists_unseen_of_note everReady
        (Eval.notReady_of_map (Eval.isPending_iff.mp waiting))
  | toolchains queries => exact exists_unseen_of_answerQueries everReady waiting

theorem mem_answerQueries (queries : List ToolchainQuery) (seen : Seen) (request : String) :
    request ∈ (engine.answerQueries queries seen).2 ↔
      request ∈ queries.map ToolchainQuery.request ∨ request ∈ seen := by
  induction queries generalizing seen with
  | nil => simp [answerQueries]
  | cons query rest ih =>
      simp only [answerQueries, ih, note, List.map_cons, List.mem_cons, List.mem_append,
        List.not_mem_nil, or_false]
      rw [or_assoc, or_left_comm]

theorem mem_answer (read : Read) (seen : Seen) (request : String) :
    request ∈ (engine.answer read seen).2 ↔ request ∈ read.noted ∨ request ∈ seen := by
  cases read with
  | toolchains queries => exact mem_answerQueries queries seen request
  | _ => exact List.mem_append

theorem mem_after (reads : List Read) (seen : Seen) (request : String) :
    request ∈ engine.toEngine.after reads seen ↔
      (∃ read ∈ reads, request ∈ read.noted) ∨ request ∈ seen := by
  induction reads generalizing seen with
  | nil => simp [Engine.after]
  | cons read rest ih =>
      have step : engine.toEngine.after (read :: rest) seen =
          engine.toEngine.after rest (engine.answer read seen).2 := rfl
      rw [step, ih, mem_answer, List.exists_mem_cons_iff, or_assoc, or_left_comm]

theorem exists_unseen_of_transcript (everReady : engine.neverReady = []) {reads : List Read}
    {seen : Seen} (waiting : ∃ exchange ∈ engine.toEngine.transcript reads seen,
      exchange.isPending = true) :
    ∃ read ∈ reads, ∃ request ∈ read.noted, request ∉ seen := by
  induction reads generalizing seen with
  | nil => simp [Engine.transcript] at waiting
  | cons read rest ih =>
      rw [Engine.transcript, List.exists_mem_cons_iff] at waiting
      rcases waiting with first | later
      · exact ⟨read, List.mem_cons_self, exists_unseen everReady first⟩
      · obtain ⟨other, member, request, noted, unseen⟩ := ih later
        refine ⟨other, List.mem_cons_of_mem _ member, request, noted, fun earlier => unseen ?_⟩
        exact (mem_answer read seen request).mpr (.inr earlier)

variable (engine) (key : ResolutionKey)

theorem subset_attempt (seen : Seen) : seen ⊆ (engine.toEngine.attempt key seen).2 := by
  intro request member
  rw [(engine.toEngine.attempt_course key seen).2, mem_after]
  exact .inr member

theorem reads_prefix {seen later : Seen} (more : seen ⊆ later) :
    (engine.toEngine.attempt key seen).1.reads <+: (engine.toEngine.attempt key later).1.reads :=
  engine.lessComputed.reads_prefix key more

variable {engine} {key}

/-- The next attempt that has to wait has come further. -/
theorem reads_lt_of_waiting (everReady : engine.neverReady = []) {seen later : Seen}
    (more : (engine.toEngine.attempt key seen).2 ⊆ later)
    (waiting : (engine.toEngine.attempt key later).1.outcome = .error .notReady) :
    (engine.toEngine.attempt key seen).1.reads.length <
      (engine.toEngine.attempt key later).1.reads.length := by
  obtain ⟨course, _⟩ := engine.toEngine.attempt_course key later
  rw [waiting] at course
  obtain ⟨read, member, request, noted, unseen⟩ :=
    exists_unseen_of_transcript everReady course.waits.2
  have front := engine.reads_prefix key (List.Subset.trans (engine.subset_attempt key seen) more)
  refine Nat.lt_of_le_of_ne front.length_le fun same => unseen (more ?_)
  rw [(engine.toEngine.attempt_course key seen).2, mem_after, front.eq_of_length same]
  exact .inl ⟨read, member, noted⟩

theorem countP_stages_lt {floor length : Nat} {stages : List Nat} (reached : length ∈ stages)
    (above : floor < length) :
    stages.countP (length < ·) < stages.countP (floor < ·) := by
  induction stages with
  | nil => simp at reached
  | cons stage rest ih =>
      have fewer : rest.countP (length < ·) ≤ rest.countP (floor < ·) := by
        apply List.countP_mono_left
        intro other _ further
        simp only [decide_eq_true_eq] at further ⊢
        omega
      simp only [List.countP_cons, decide_eq_true_eq]
      rcases List.mem_cons.mp reached with rfl | later
      · rw [if_neg (Nat.lt_irrefl _), if_pos above]
        omega
      · have later := ih later
        split <;> split <;> omega

theorem attempts_settle (everReady : engine.neverReady = []) (limit : Nat) (seen : Seen)
    (floor : Nat)
    (above : ∀ later, seen ⊆ later →
      (engine.toEngine.attempt key later).1.outcome = .error .notReady →
      floor < (engine.toEngine.attempt key later).1.reads.length)
    (enough : key.stages.countP (floor < ·) < limit) :
    ∃ waiting final, (engine.toEngine.attempts key limit seen).1 = waiting ++ [final] ∧
      waiting.length ≤ key.stages.countP (floor < ·) ∧
      (∀ report ∈ waiting, report.outcome = .error .notReady) ∧
      final.outcome ≠ .error .notReady := by
  induction limit generalizing seen floor with
  | zero => omega
  | succ limit ih =>
      rw [Engine.attempts]
      dsimp only
      split
      next pending =>
        rw [Eval.isPending_iff] at pending
        have reached : (engine.toEngine.attempt key seen).1.reads.length ∈ key.stages := by
          obtain ⟨course, _⟩ := engine.toEngine.attempt_course key seen
          rw [pending] at course
          have stage := course.waits.1
          rwa [Engine.length_transcript] at stage
        have fewer := countP_stages_lt reached (above seen (List.Subset.refl _) pending)
        obtain ⟨waiting, final, reports, bound, allWaiting, settled⟩ :=
          ih (engine.toEngine.attempt key seen).2
            (engine.toEngine.attempt key seen).1.reads.length
            (fun later more => reads_lt_of_waiting everReady more) (by omega)
        refine ⟨_ :: waiting, final, by rw [reports]; rfl, ?_, ?_, settled⟩
        · rw [List.length_cons]
          omega
        · intro report member
          rcases List.mem_cons.mp member with rfl | later
          · exact pending
          · exact allWaiting report later
      next settled =>
        refine ⟨[], _, rfl, Nat.zero_le _, by simp, ?_⟩
        exact fun waiting => settled (Eval.isPending_iff.mpr waiting)

theorem subset_attempts (engine : MemoryEngine) (key : ResolutionKey) (limit : Nat) (seen : Seen) :
    seen ⊆ (engine.toEngine.attempts key limit seen).2 := by
  induction limit generalizing seen with
  | zero => exact List.Subset.refl _
  | succ limit ih =>
      have begun := engine.subset_attempt key seen
      rw [Engine.attempts]
      dsimp only
      split
      next pending => exact List.Subset.trans begun (ih _)
      next settled => exact begun

theorem attempts_started {limit : Nat} {seen : Seen} {report : AttemptReport}
    (member : report ∈ (engine.toEngine.attempts key limit seen).1) :
    ∃ start, seen ⊆ start ∧ start ⊆ (engine.toEngine.attempts key limit seen).2 ∧
      report = (engine.toEngine.attempt key start).1 := by
  induction limit generalizing seen with
  | zero => simp [Engine.attempts] at member
  | succ limit ih =>
      have begun := engine.subset_attempt key seen
      rw [Engine.attempts] at member ⊢
      dsimp only at member ⊢
      split at member
      next pending =>
        rw [if_pos pending]
        have rest := engine.subset_attempts key limit (engine.toEngine.attempt key seen).2
        rcases List.mem_cons.mp member with rfl | later
        · exact ⟨seen, List.Subset.refl _, List.Subset.trans begun rest, rfl⟩
        · obtain ⟨start, from_, upTo, same⟩ := ih later
          exact ⟨start, List.Subset.trans begun from_, upTo, same⟩
      next settled =>
        rw [if_neg settled]
        rw [List.mem_singleton] at member
        exact ⟨seen, List.Subset.refl _, begun, member⟩

theorem attemptsAll_started {limit : Nat} {keys : List ResolutionKey} {seen : Seen}
    {run : ResolutionKey × List AttemptReport}
    (member : run ∈ engine.toEngine.attemptsAll limit keys seen) :
    ∃ start, seen ⊆ start ∧ run.2 = (engine.toEngine.attempts run.1 limit start).1 := by
  induction keys generalizing seen with
  | nil => simp [Engine.attemptsAll] at member
  | cons key rest ih =>
      rw [Engine.attemptsAll] at member
      rcases List.mem_cons.mp member with rfl | later
      · exact ⟨seen, List.Subset.refl _, rfl⟩
      · obtain ⟨start, further, same⟩ := ih later
        exact ⟨start, List.Subset.trans (engine.subset_attempts key limit seen) further, same⟩

end MemoryEngine

def AttemptReport.requests (report : AttemptReport) : List String :=
  report.reads.flatMap Read.requests

def Engine.history {σ : Type} (engine : Engine σ) (limit : Nat) (keys : List ResolutionKey)
    (state : σ) : List (ResolutionKey × AttemptReport) :=
  (engine.attemptsAll limit keys state).flatMap fun run =>
    run.2.map fun report => (run.1, report)

def Continues (earlier later : ResolutionKey × AttemptReport) : Prop :=
  earlier.1 = later.1 → earlier.2.requests <+: later.2.requests

namespace MemoryEngine

variable (engine : MemoryEngine)

theorem continues_of_subset (key : ResolutionKey) {first second : Seen} (more : first ⊆ second) :
    (engine.toEngine.attempt key first).1.requests <+:
      (engine.toEngine.attempt key second).1.requests :=
  (engine.reads_prefix key more).flatMap Read.requests

theorem attempts_continue (key : ResolutionKey) (limit : Nat) (seen : Seen) :
    ((engine.toEngine.attempts key limit seen).1.map fun report => (key, report)).Pairwise
      Continues := by
  induction limit generalizing seen with
  | zero => exact .nil
  | succ limit ih =>
      rw [Engine.attempts]
      dsimp only
      split
      next pending =>
        refine List.Pairwise.cons ?_ (ih _)
        intro later member _
        obtain ⟨report, reported, rfl⟩ := List.mem_map.mp member
        obtain ⟨start, further, _, rfl⟩ := attempts_started reported
        exact engine.continues_of_subset key
          (List.Subset.trans (engine.subset_attempt key seen) further)
      next settled => simp

theorem history_continues (limit : Nat) (keys : List ResolutionKey) (seen : Seen) :
    (engine.toEngine.history limit keys seen).Pairwise Continues := by
  induction keys generalizing seen with
  | nil => exact .nil
  | cons key rest ih =>
      rw [Engine.history, Engine.attemptsAll, List.flatMap_cons, List.pairwise_append]
      refine ⟨engine.attempts_continue key limit seen, ih _, ?_⟩
      intro earlier earlierMember later laterMember same
      obtain ⟨first, firstMember, rfl⟩ := List.mem_map.mp earlierMember
      obtain ⟨run, runMember, member⟩ := List.mem_flatMap.mp laterMember
      obtain ⟨second, secondMember, rfl⟩ := List.mem_map.mp member
      obtain ⟨begun, afterFirst, runs⟩ := attemptsAll_started runMember
      rw [runs] at secondMember
      obtain ⟨start, _, beforeEnd, rfl⟩ := attempts_started firstMember
      obtain ⟨laterStart, further, _, rfl⟩ := attempts_started secondMember
      change key = run.1 at same
      rw [← same]
      exact engine.continues_of_subset key
        (List.Subset.trans beforeEnd (List.Subset.trans afterFirst further))

end MemoryEngine

def ResolutionKey.restarts (key : ResolutionKey) : Nat :=
  if key.executionConstraints = [] then 4 else 5

theorem ResolutionKey.countP_stages (key : ResolutionKey) :
    key.stages.countP (0 < ·) = key.restarts := by
  unfold stages restarts
  split <;> rfl

/-- On the memory engine, no attempt falls behind an earlier one, and a resolution without
requests that are never ready comes to its end after a few attempts. -/
theorem restarts_progress (engine : MemoryEngine) (limit : Nat) (keys : List ResolutionKey)
    (seen : MemoryEngine.Seen) :
    (engine.toEngine.history limit keys seen).Pairwise Continues ∧
      (engine.neverReady = [] → ∀ run ∈ engine.toEngine.attemptsAll limit keys seen,
        run.1.restarts < limit →
        ∃ waiting final, run.2 = waiting ++ [final] ∧ waiting.length ≤ run.1.restarts ∧
          (∀ report ∈ waiting, report.outcome = .error .notReady) ∧
          final.outcome ≠ .error .notReady) := by
  refine ⟨engine.history_continues limit keys seen, ?_⟩
  intro everReady run member enough
  obtain ⟨start, _, same⟩ := MemoryEngine.attemptsAll_started member
  rw [← run.1.countP_stages] at enough ⊢
  rw [same]
  refine MemoryEngine.attempts_settle everReady limit start 0 ?_ enough
  intro later _ waiting
  obtain ⟨course, _⟩ := engine.toEngine.attempt_course run.1 later
  rw [waiting] at course
  obtain ⟨exchange, answered, _⟩ := course.waits.2
  rw [← engine.toEngine.length_transcript _ later]
  exact List.length_pos_of_mem answered

def coldBuild : MemoryEngine := { slowRegistrations with cold := .all }

def unconstrainedKey : ResolutionKey := { linuxKey with executionConstraints := [] }

theorem restarts_progress_coldBuild :
    coldBuild.neverReady = [] ∧ unconstrainedKey.restarts < 5 ∧
      (coldBuild.toEngine.attemptsAll 5 [unconstrainedKey] []).map
          (fun run => run.2.map fun report => report.outcome.isPending) =
        [[true, true, true, true, false]] ∧
      ∃ waiting final, (coldBuild.toEngine.attempts unconstrainedKey 5 []).1 = waiting ++ [final] ∧
        waiting.length ≤ unconstrainedKey.restarts ∧
        (∀ report ∈ waiting, report.outcome = .error .notReady) ∧
        final.outcome ≠ .error .notReady :=
  ⟨rfl, by decide, by decide +kernel,
    (restarts_progress coldBuild 5 [unconstrainedKey] []).2 rfl _ List.mem_cons_self (by decide)⟩

end CrossBuild
