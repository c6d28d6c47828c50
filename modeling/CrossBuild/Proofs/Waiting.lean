import CrossBuild.Proofs.Choice
import CrossBuild.Proofs.Course

/-!
Attempts that stop to wait.  Each step of a resolution reads all that it needs before it looks at
any answer, so that an attempt can stop after a few fixed numbers of reads only.
-/

namespace CrossBuild

theorem Eval.isPending_iff {α : Type} {result : Eval α} :
    result.isPending = true ↔ result = .error .notReady := by
  rcases result with (_ | _) | _ <;> simp [isPending]

namespace ResolutionKey

def stages (key : ResolutionKey) : List Nat :=
  if key.executionConstraints = [] then [1, 4, 5, 6] else [1, 4, 6, 7, 8]

variable {key : ResolutionKey} {inputs : ResolutionInputs} {opening screened : List Exchange}

theorem Opens.length_of_ok (opens : key.Opens opening (.ok inputs)) : opening.length = 4 := by
  cases opens
  rfl

theorem Opens.waits (opens : key.Opens opening (.error .notReady)) :
    (opening.length = 1 ∨ opening.length = 4) ∧
      ∃ exchange ∈ opening, exchange.isPending = true := by
  cases opens with
  | unconfigured => exact ⟨.inl rfl, _, List.mem_cons_self, rfl⟩
  | unanswered configuration types platforms registered cause stopped =>
      refine ⟨.inr rfl, ?_⟩
      rcases Eval.joinPair_eq_notReady_iff.mp stopped with ⟨rfl, _⟩ | ⟨rest, _⟩
      · exact ⟨⟨.toolchainTypes key.configuration key.requestedTypes, .error .notReady⟩,
          by simp [inputExchanges], rfl⟩
      · rcases Eval.joinPair_eq_notReady_iff.mp rest with ⟨rfl, _⟩ | ⟨rfl, _⟩
        · exact ⟨⟨.platforms [configuration.host, configuration.target], .error .notReady⟩,
            by simp [inputExchanges], rfl⟩
        · exact ⟨⟨.registeredPlatforms key.configuration, .error .notReady⟩,
            by simp [inputExchanges], rfl⟩

theorem Screens.length_of_ok {events : List Event} {screening : Screening}
    (screens : key.Screens inputs screened events (.ok screening)) :
    screened.length = if key.executionConstraints = [] then 0 else 2 := by
  cases screens with
  | unconstrained free => simp [free]
  | screened constrained known required all => simp [constrained, screeningExchanges]

theorem Screens.waits {events : List Event}
    (screens : key.Screens inputs screened events (.error .notReady)) :
    key.executionConstraints ≠ [] ∧ screened.length = 2 ∧
      ∃ exchange ∈ screened, exchange.isPending = true := by
  cases screens with
  | unanswered constrained known required cause stopped =>
      refine ⟨constrained, rfl, ?_⟩
      rcases Eval.joinPair_eq_notReady_iff.mp stopped with ⟨rfl, _⟩ | ⟨rfl, _⟩
      · exact ⟨⟨.platforms inputs.candidates, .error .notReady⟩,
          by simp [screeningExchanges], rfl⟩
      · exact ⟨⟨.constraintValues key.executionConstraints, .error .notReady⟩,
          by simp [screeningExchanges], rfl⟩

theorem Chooses.length_eq {candidates : List Label} {chosen : List Exchange}
    {result : Eval Selection} (chooses : key.Chooses inputs candidates chosen result) :
    chosen.length = 1 := by
  cases chooses
  rfl

theorem Chooses.waits {candidates : List Label} {chosen : List Exchange}
    (chooses : key.Chooses inputs candidates chosen (.error .notReady)) :
    ∃ exchange ∈ chosen, exchange.isPending = true := by
  generalize waiting : (.error .notReady : Eval Selection) = result at chooses
  cases chooses with
  | answered answers =>
      obtain ⟨answer, member, pending⟩ := ToolchainAnswer.exists_pending_of_collect
        (PlatformChoice.collect_of_select_notReady waiting.symm)
      refine ⟨_, List.mem_singleton_self _, ?_⟩
      exact List.any_eq_true.mpr ⟨answer.2, (List.of_mem_zip member).2, pending⟩

theorem Finishes.waits {screening : Screening} {selection : Selection} {finished : List Exchange}
    {events : List Event}
    (finishes : Finishes inputs screening selection finished events (.error .notReady)) :
    finished.length = 1 ∧ ∃ exchange ∈ finished, exchange.isPending = true := by
  cases finishes
  exact ⟨rfl, _, List.mem_cons_self, rfl⟩

theorem Course.waits {exchanges : List Exchange} {events : List Event}
    (course : key.Course exchanges events (.error .notReady)) :
    exchanges.length ∈ key.stages ∧ ∃ exchange ∈ exchanges, exchange.isPending = true := by
  cases course with
  | unopened opens =>
      obtain ⟨length | length, pending⟩ := opens.waits
      · exact ⟨by rw [length, stages]; split <;> simp, pending⟩
      · exact ⟨by rw [length, stages]; split <;> simp, pending⟩
  | unscreened opens screens =>
      obtain ⟨constrained, length, exchange, member, pending⟩ := screens.waits
      refine ⟨?_, exchange, by simp [member], pending⟩
      rw [List.length_append, opens.length_of_ok, length, stages, if_neg constrained]
      simp
  | unchosen opens screens chooses =>
      obtain ⟨exchange, member, pending⟩ := chooses.waits
      refine ⟨?_, exchange, by simp [member], pending⟩
      rw [List.length_append, List.length_append, opens.length_of_ok, screens.length_of_ok,
        chooses.length_eq, stages]
      split <;> simp
  | chosen opens screens chooses finishes =>
      obtain ⟨length, exchange, member, pending⟩ := finishes.waits
      refine ⟨?_, exchange, by simp [member], pending⟩
      rw [List.length_append, List.length_append, List.length_append, opens.length_of_ok,
        screens.length_of_ok, chooses.length_eq, length, stages]
      split <;> simp

end ResolutionKey

end CrossBuild
