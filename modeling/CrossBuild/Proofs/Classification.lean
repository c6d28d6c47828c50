import CrossBuild.Resolution.Selection

/-!
How the answers for single toolchain types are classified: together they have a value, fail, or
are not ready.
-/

namespace CrossBuild.ToolchainAnswer

def IsRefusal (answer : ToolchainAnswer) : Prop :=
  answer.failure?.isSome ∨ answer.missingType?.isSome

def Offers (answer : ToolchainAnswer) : Prop :=
  ∃ value, answer.2 = .ok value ∧ value.available.isEmpty = false

theorem isRefusal_iff (answer : ToolchainAnswer) :
    answer.IsRefusal ↔ (∃ failure, answer.2 = .error (.failed failure)) ∨
      ∃ value, answer.2 = .ok value ∧ value.available.isEmpty = true := by
  rcases answer with ⟨requirement, (_ | failure) | value⟩
  · simp [IsRefusal, failure?, missingType?]
  · have classified : IsRefusal (requirement, .error (.failed failure)) := by
      unfold IsRefusal failure? missingType?
      dsimp only
      split <;> simp
    simp [classified]
  · simp [IsRefusal, failure?, missingType?]

theorem isRefusal_or_offers (answer : ToolchainAnswer) :
    answer.IsRefusal ∨ answer.2 = .error .notReady ∨ answer.Offers := by
  rw [isRefusal_iff]
  rcases answered : answer.2 with (_ | failure) | value
  · exact .inr (.inl rfl)
  · exact .inl (.inl ⟨failure, rfl⟩)
  · cases empty : value.available.isEmpty with
    | true => exact .inl (.inr ⟨value, rfl, empty⟩)
    | false => exact .inr (.inr ⟨value, answered, empty⟩)

theorem Offers.not_isRefusal {answer : ToolchainAnswer} (offers : answer.Offers) :
    ¬answer.IsRefusal := by
  obtain ⟨value, answered, some⟩ := offers
  simp [isRefusal_iff, answered, some]

theorem collect_of_refusal {answers : List ToolchainAnswer} {answer : ToolchainAnswer}
    (member : answer ∈ answers) (refusal : answer.IsRefusal) :
    ∃ failure, collect answers = .error (.failed failure) := by
  unfold collect
  dsimp only
  split
  next failure _ => exact ⟨failure, rfl⟩
  next none =>
    rw [List.findSome?_eq_none_iff] at none
    rcases refusal with failed | absent
    · simp [none answer member] at failed
    · obtain ⟨label, missing⟩ := Option.isSome_iff_exists.mp absent
      have listed : label ∈ answers.filterMap missingType? :=
        List.mem_filterMap.mpr ⟨answer, member, missing⟩
      rw [if_pos (by simpa using List.ne_nil_of_mem listed)]
      exact ⟨_, rfl⟩

theorem collect_of_no_refusal {answers : List ToolchainAnswer}
    (none : ∀ answer ∈ answers, ¬answer.IsRefusal) :
    collect answers =
      if answers.any fun answer => answer.2.isPending then .error .notReady
      else .ok (answers.filterMap value?) := by
  have noFailure : answers.findSome? failure? = Option.none := by
    rw [List.findSome?_eq_none_iff]
    intro answer member
    have fine := none answer member
    simp only [IsRefusal, not_or, Option.not_isSome_iff_eq_none] at fine
    exact fine.1
  have noMissing : answers.filterMap missingType? = [] := by
    rw [List.filterMap_eq_nil_iff]
    intro answer member
    have fine := none answer member
    simp only [IsRefusal, not_or, Option.not_isSome_iff_eq_none] at fine
    exact fine.2
  simp [collect, noFailure, noMissing]

theorem collect_of_missing {answers : List ToolchainAnswer}
    (unfailing : answers.findSome? failure? = none)
    (missing : answers.filterMap missingType? ≠ []) :
    collect answers =
      Eval.fail (.resolution (.unresolvedToolchains (answers.filterMap missingType?))) := by
  simp [collect, unfailing, missing]

theorem collect_failed_iff (answers : List ToolchainAnswer) :
    (∃ failure, collect answers = .error (.failed failure)) ↔
      ∃ answer ∈ answers, answer.IsRefusal := by
  constructor
  · rintro ⟨failure, failed⟩
    by_cases refused : ∃ answer ∈ answers, answer.IsRefusal
    · exact refused
    · rw [collect_of_no_refusal (by simpa using refused)] at failed
      split at failed <;> simp at failed
  · rintro ⟨answer, member, refusal⟩
    exact collect_of_refusal member refusal

theorem map_snd_of_offers {answers : List ToolchainAnswer}
    (offers : ∀ answer ∈ answers, answer.Offers) :
    answers.map Prod.snd = (answers.filterMap value?).map .ok := by
  induction answers with
  | nil => rfl
  | cons answer rest ih =>
      obtain ⟨value, answered, some⟩ := offers answer (by simp)
      have found : value? answer = Option.some value := by simp [value?, answered, some]
      rw [List.map_cons, List.filterMap_cons_some found, List.map_cons, answered,
        ih fun other member => offers other (List.mem_cons_of_mem _ member)]

theorem collect_of_offers {answers : List ToolchainAnswer}
    (offers : ∀ answer ∈ answers, answer.Offers) :
    collect answers = .ok (answers.filterMap value?) := by
  have ready : (answers.any fun answer => answer.2.isPending) = false := by
    rw [List.any_eq_false]
    intro answer member
    obtain ⟨value, answered, _⟩ := offers answer member
    simp [answered, Eval.isPending]
  rw [collect_of_no_refusal, ready, if_neg Bool.false_ne_true]
  exact fun answer member => (offers answer member).not_isRefusal

theorem offers_of_collect {answers : List ToolchainAnswer} {values : List ToolchainAvailability}
    (collected : collect answers = .ok values) : ∀ answer ∈ answers, answer.Offers := by
  intro answer member
  have fine (other : ToolchainAnswer) (otherMember : other ∈ answers) : ¬other.IsRefusal := by
    intro refusal
    obtain ⟨failure, failed⟩ := collect_of_refusal otherMember refusal
    simp [collected] at failed
  rcases isRefusal_or_offers answer with refusal | pending | offers
  · exact (fine answer member refusal).elim
  · rw [collect_of_no_refusal fine, if_pos] at collected
    · cases collected
    · exact List.any_eq_true.mpr ⟨answer, member, by simp [pending, Eval.isPending]⟩
  · exact offers

theorem collect_eq_ok_iff {answers : List ToolchainAnswer} {values : List ToolchainAvailability} :
    collect answers = .ok values ↔
      answers.map Prod.snd = values.map .ok ∧
        ∀ value ∈ values, value.available.isEmpty = false := by
  constructor
  · intro collected
    have offers := offers_of_collect collected
    rw [collect_of_offers offers] at collected
    cases collected
    refine ⟨map_snd_of_offers offers, ?_⟩
    intro value member
    obtain ⟨answer, answerMember, found⟩ := List.mem_filterMap.mp member
    obtain ⟨other, answered, some⟩ := offers answer answerMember
    simp only [value?, answered, some, Bool.false_eq_true, if_false, Option.some.injEq] at found
    exact found ▸ some
  · rintro ⟨same, some⟩
    have offers : ∀ answer ∈ answers, answer.Offers := by
      intro answer member
      have listed : answer.2 ∈ values.map .ok := same ▸ List.mem_map_of_mem member
      obtain ⟨value, valueMember, answered⟩ := List.mem_map.mp listed
      exact ⟨value, answered.symm, some value valueMember⟩
    rw [collect_of_offers offers]
    have mapped := (map_snd_of_offers offers).symm.trans same
    rw [(List.map_inj_right fun _ _ equal => Except.ok.inj equal).mp mapped]

theorem exists_pending_of_collect {answers : List ToolchainAnswer}
    (pending : collect answers = .error .notReady) :
    ∃ answer ∈ answers, answer.2.isPending = true := by
  have fine (answer : ToolchainAnswer) (member : answer ∈ answers) : ¬answer.IsRefusal := by
    intro refusal
    obtain ⟨failure, failed⟩ := collect_of_refusal member refusal
    simp [pending] at failed
  rw [collect_of_no_refusal fine] at pending
  split at pending
  next found => exact List.any_eq_true.mp found
  next => cases pending

end CrossBuild.ToolchainAnswer
