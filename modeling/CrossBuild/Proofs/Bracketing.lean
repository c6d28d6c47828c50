import CrossBuild.Proofs.PartialResults

/-!
Any number of reads, joined two at a time.  However the joins are nested, the reads from left to
right decide what comes of them.
-/

namespace CrossBuild

def Eval.failure? {α : Type} : Eval α → Option Failure
  | .error (.failed failure) => some failure
  | _ => none

theorem Eval.failure?_eq_some_iff {α : Type} {result : Eval α} {failure : Failure} :
    result.failure? = some failure ↔ result = .error (.failed failure) := by
  rcases result with (_ | _) | _ <;> simp [failure?]

theorem Eval.failure?_joinPair {α β : Type} (first : Eval α) (second : Eval β) :
    (joinPair first second).failure? = first.failure?.or second.failure? := by
  rcases first with (_ | _) | _ <;> rcases second with (_ | _) | _ <;> rfl

theorem Eval.eq_notReady_iff {α : Type} {result : Eval α} :
    result = .error .notReady ↔ result.failure? = none ∧ ¬∃ value, result = .ok value := by
  rcases result with (_ | _) | _ <;> simp [failure?]

abbrev AnyRead := (α : Type) × Eval α

abbrev AnyValue := (α : Type) × α

def AnyRead.failure? (read : AnyRead) : Option Failure := Eval.failure? read.2

def AnyValue.read (value : AnyValue) : AnyRead := ⟨value.1, .ok value.2⟩

theorem AnyValue.read_injective {value other : AnyValue} (same : value.read = other.read) :
    value = other := by
  rcases value with ⟨type, value⟩
  rcases other with ⟨otherType, other⟩
  simp only [read, Sigma.mk.injEq] at same
  obtain ⟨rfl, equal⟩ := same
  rw [heq_eq_eq, Except.ok.injEq] at equal
  rw [equal]

/-- Reads with brackets around two at a time, each pair of brackets a join. -/
inductive Bracketing : Type → Type 1
  | read {α : Type} (result : Eval α) : Bracketing α
  | join {α β : Type} (first : Bracketing α) (second : Bracketing β) : Bracketing (α × β)

namespace Bracketing

variable {α β : Type}

def result {α : Type} : Bracketing α → Eval α
  | read result => result
  | join first second => Eval.joinPair first.result second.result

def reads {α : Type} : Bracketing α → List AnyRead
  | @read α result => [⟨α, result⟩]
  | join first second => first.reads ++ second.reads

def values {α : Type} : Bracketing α → α → List AnyValue
  | @read α _, value => [⟨α, value⟩]
  | join first second, pair => first.values pair.1 ++ second.values pair.2

theorem length_values (tree : Bracketing α) (value : α) :
    (tree.values value).length = tree.reads.length := by
  induction tree with
  | read result => rfl
  | join first second firstLength secondLength =>
      simp [values, reads, firstLength, secondLength]

theorem result_eq_ok_iff (tree : Bracketing α) (value : α) :
    tree.result = .ok value ↔ tree.reads = (tree.values value).map AnyValue.read := by
  induction tree with
  | read result => simp [Bracketing.result, reads, values, AnyValue.read]
  | join first second firstReady secondReady =>
      rcases value with ⟨left, right⟩
      rw [Bracketing.result, Eval.joinPair_eq_ok_iff, firstReady, secondReady, reads, values,
        List.map_append]
      constructor
      · rintro ⟨firstAll, secondAll⟩
        rw [firstAll, secondAll]
      · intro all
        exact List.append_inj all (by simp [length_values])

theorem exists_result_eq_ok_iff (tree : Bracketing α) :
    (∃ value, tree.result = .ok value) ↔ ∀ read ∈ tree.reads, ∃ value, read.2 = .ok value := by
  induction tree with
  | read result => simp [Bracketing.result, reads]
  | join first second firstReady secondReady =>
      rw [reads, List.forall_mem_append, ← firstReady, ← secondReady, Bracketing.result]
      constructor
      · rintro ⟨pair, joined⟩
        obtain ⟨left, right⟩ := Eval.joinPair_eq_ok_iff.mp joined
        exact ⟨⟨pair.1, left⟩, ⟨pair.2, right⟩⟩
      · rintro ⟨⟨left, firstAnswered⟩, ⟨right, secondAnswered⟩⟩
        exact ⟨(left, right), Eval.joinPair_eq_ok_iff.mpr ⟨firstAnswered, secondAnswered⟩⟩

theorem failure?_result (tree : Bracketing α) :
    tree.result.failure? = tree.reads.findSome? AnyRead.failure? := by
  induction tree with
  | read result =>
      cases failed : result.failure? with
      | none => simp [Bracketing.result, reads, AnyRead.failure?, failed]
      | some failure => simp [Bracketing.result, reads, AnyRead.failure?, failed]
  | join first second firstFailure secondFailure =>
      rw [Bracketing.result, Eval.failure?_joinPair, firstFailure, secondFailure, reads,
        List.findSome?_append]

theorem result_eq_failed_iff (tree : Bracketing α) (failure : Failure) :
    tree.result = .error (.failed failure) ↔
      ∃ before type after, tree.reads = before ++ ⟨type, .error (.failed failure)⟩ :: after ∧
        ∀ earlier ∈ before, earlier.failure? = none := by
  rw [← Eval.failure?_eq_some_iff, failure?_result, List.findSome?_eq_some_iff]
  constructor
  · rintro ⟨before, ⟨type, result⟩, after, split, failed, leftmost⟩
    have stopped : result = .error (.failed failure) := Eval.failure?_eq_some_iff.mp failed
    exact ⟨before, type, after, by rw [split, stopped], leftmost⟩
  · rintro ⟨before, type, after, split, leftmost⟩
    exact ⟨before, _, after, split, rfl, leftmost⟩

theorem result_eq_notReady_iff (tree : Bracketing α) :
    tree.result = .error .notReady ↔
      (∀ read ∈ tree.reads, read.failure? = none) ∧
        ∃ read ∈ tree.reads, read.2 = .error .notReady := by
  rw [Eval.eq_notReady_iff, failure?_result, List.findSome?_eq_none_iff, exists_result_eq_ok_iff]
  apply and_congr_right
  intro unfailing
  constructor
  · intro unready
    obtain ⟨read, unanswered⟩ := Classical.not_forall.mp unready
    obtain ⟨member, valueless⟩ := Classical.not_imp.mp unanswered
    exact ⟨read, member, Eval.eq_notReady_iff.mpr ⟨unfailing read member, valueless⟩⟩
  · rintro ⟨read, member, waiting⟩ ready
    obtain ⟨value, answered⟩ := ready read member
    rw [waiting] at answered
    cases answered

/-- What comes of reads in brackets, told by the reads alone. -/
structure Concludes (tree : Bracketing α) : Prop where
  ready : ∀ value, tree.result = .ok value ↔ tree.reads = (tree.values value).map AnyValue.read
  succeeds : (∃ value, tree.result = .ok value) ↔
    ∀ read ∈ tree.reads, ∃ value, read.2 = .ok value
  failed : ∀ failure, tree.result = .error (.failed failure) ↔
    ∃ before type after, tree.reads = before ++ ⟨type, .error (.failed failure)⟩ :: after ∧
      ∀ earlier ∈ before, earlier.failure? = none
  waiting : tree.result = .error .notReady ↔
    (∀ read ∈ tree.reads, read.failure? = none) ∧ ∃ read ∈ tree.reads, read.2 = .error .notReady
  computedReady : ∀ value,
    Computed.ofEval tree.result = .ok (.ready value) ↔ tree.result = .ok value
  computedFailed : ∀ failure,
    Computed.ofEval tree.result = .error failure ↔ tree.result = .error (.failed failure)
  computedWaiting : Computed.ofEval tree.result = .ok .notReady ↔ tree.result = .error .notReady

theorem concludes (tree : Bracketing α) : tree.Concludes where
  ready := tree.result_eq_ok_iff
  succeeds := tree.exists_result_eq_ok_iff
  failed := tree.result_eq_failed_iff
  waiting := tree.result_eq_notReady_iff
  computedReady value := by rcases tree.result with (_ | _) | _ <;> simp [Computed.ofEval]
  computedFailed failure := by rcases tree.result with (_ | _) | _ <;> simp [Computed.ofEval]
  computedWaiting := by rcases tree.result with (_ | _) | _ <;> simp [Computed.ofEval]

/-- The same values from left to right, or one and the same suspension. -/
structure Matches (tree : Bracketing α) (other : Bracketing β) : Prop where
  ready : ∀ value, tree.result = .ok value →
    ∃ otherValue, other.result = .ok otherValue ∧ other.values otherValue = tree.values value
  stopped : ∀ cause, tree.result = .error cause → other.result = .error cause

theorem matches_of_reads_eq {tree : Bracketing α} {other : Bracketing β}
    (same : tree.reads = other.reads) : tree.Matches other where
  ready value answered := by
    have all := (tree.exists_result_eq_ok_iff).mp ⟨value, answered⟩
    rw [same] at all
    obtain ⟨otherValue, otherAnswered⟩ := (other.exists_result_eq_ok_iff).mpr all
    have listed := (tree.result_eq_ok_iff value).mp answered
    have otherListed := (other.result_eq_ok_iff otherValue).mp otherAnswered
    rw [← same, listed] at otherListed
    exact ⟨otherValue, otherAnswered,
      (List.map_inj_right fun _ _ => AnyValue.read_injective).mp otherListed.symm⟩
  stopped cause failed := by
    cases cause with
    | notReady =>
        rw [result_eq_notReady_iff] at failed ⊢
        rwa [← same]
    | failed failure =>
        rw [result_eq_failed_iff] at failed ⊢
        rwa [← same]

/-- Nested joins succeed with all values in order, fail like the leftmost failure, and wait
otherwise; where the brackets stand makes no difference. -/
theorem reads_decide (tree : Bracketing α) :
    tree.Concludes ∧
      ∀ {β : Type} (other : Bracketing β), tree.reads = other.reads → tree.Matches other :=
  ⟨tree.concludes, fun _ same => matches_of_reads_eq same⟩

def nestedReads : Bracketing (Nat × (String × (Nat × Bool))) :=
  .join (.read (.ok 1)) (.join (.read (.error .notReady))
    (.join (.read (Eval.fail (.lookup .interrupted)))
      (.read (Eval.fail (.lookup (.noToolchainFound ⟨"", "toolchains", "cc"⟩))))))

def pairedReads : Bracketing ((Nat × String) × (Nat × Bool)) :=
  .join (.join (.read (.ok 1)) (.read (.error .notReady)))
    (.join (.read (Eval.fail (.lookup .interrupted)))
      (.read (Eval.fail (.lookup (.noToolchainFound ⟨"", "toolchains", "cc"⟩)))))

theorem reads_decide_nestedReads :
    nestedReads.Concludes ∧ nestedReads.reads = pairedReads.reads ∧
      nestedReads.Matches pairedReads ∧
      Computed.ofEval nestedReads.result = .error { root := .lookup .interrupted } ∧
      pairedReads.result = Eval.fail (.lookup .interrupted) := by
  obtain ⟨concludes, matched⟩ := reads_decide nestedReads
  have same : nestedReads.reads = pairedReads.reads := rfl
  have failed : nestedReads.result = Eval.fail (.lookup .interrupted) := rfl
  exact ⟨concludes, same, matched pairedReads same,
    (concludes.computedFailed _).mpr failed, (matched pairedReads same).stopped _ failed⟩

end Bracketing

end CrossBuild
