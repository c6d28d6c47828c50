import CrossBuild.Proofs.Classification
import CrossBuild.Proofs.Table

/-!
The choice of a platform from collected answers.
-/

namespace CrossBuild.PlatformChoice

variable {choice : PlatformChoice} {forced : Option Label} {suitable : Label → Bool}
  {platform : Label} {values : List ToolchainAvailability} {selection : Selection}

theorem suitable_of_pick? (picked : choice.pick? forced suitable = some platform) :
    suitable platform = true := by
  cases forced with
  | none => exact List.find?_some picked
  | some wanted =>
      simp only [pick?, Option.ite_none_right_eq_some, Bool.and_eq_true,
        Option.some.injEq] at picked
      obtain ⟨⟨_, fits⟩, rfl⟩ := picked
      exact fits

theorem isSuitable_of_select? (selected : choice.select? forced values = some selection) :
    (AvailabilityTable.ofList values).isSuitable
      (values.map ToolchainAvailability.toolchainType) selection.platform = true := by
  obtain ⟨platform, picked, rfl⟩ := Option.map_eq_some_iff.mp selected
  exact suitable_of_pick? picked

theorem toolchains_of_select? (selected : choice.select? forced values = some selection) :
    selection.toolchains = (AvailabilityTable.ofList values).row selection.platform
      (values.map ToolchainAvailability.toolchainType) := by
  obtain ⟨platform, picked, rfl⟩ := Option.map_eq_some_iff.mp selected
  rfl

variable {requirements : List ToolchainRequirement} {answers : List ToolchainAnswer}

theorem select_of_collect_ok (collected : ToolchainAnswer.collect answers = .ok values) :
    choice.select forced requirements answers =
      (choice.select? forced values).elim
        (Eval.fail (.resolution (.noMatchingPlatform
          (requirements.map ToolchainRequirement.toolchainType) choice.candidates choice.target)))
        .ok := by
  rw [select, collected]
  cases selected : choice.select? forced values <;>
    simp [bind, Except.bind, pure, Except.pure, selected]

theorem select_of_collect_error {cause : Suspension}
    (collected : ToolchainAnswer.collect answers = .error cause) :
    choice.select forced requirements answers = .error cause := by
  rw [select, collected]
  rfl

theorem select_eq_ok_iff :
    choice.select forced requirements answers = .ok selection ↔
      ∃ values, ToolchainAnswer.collect answers = .ok values ∧
        choice.select? forced values = some selection := by
  cases collected : ToolchainAnswer.collect answers with
  | error cause => simp [select_of_collect_error collected]
  | ok values =>
      rw [select_of_collect_ok collected]
      cases selected : choice.select? forced values <;> simp [Eval.fail, selected]

theorem collect_of_select_notReady
    (waiting : choice.select forced requirements answers = .error .notReady) :
    ToolchainAnswer.collect answers = .error .notReady := by
  cases collected : ToolchainAnswer.collect answers with
  | error cause =>
      rw [select_of_collect_error collected] at waiting
      cases waiting
      rfl
  | ok values =>
      rw [select_of_collect_ok collected] at waiting
      cases selected : choice.select? forced values <;> simp [Eval.fail, selected] at waiting

end CrossBuild.PlatformChoice
