import CrossBuild.Proofs.Choice
import CrossBuild.Proofs.Supply
import Mathlib.Data.List.Find

/-!
The choice of a platform when every type is looked up in a supply.
-/

namespace CrossBuild.Supply

variable {supply : Supply} {query : ToolchainQuery} {answer : Eval ToolchainAvailability}

structure Matches (supply : Supply) (candidates : List Label) (type : Label)
    (value : ToolchainAvailability) : Prop where
  type_eq : value.toolchainType = ⟨type⟩
  exact : ∀ platform, value.available.get? platform =
    if platform ∈ candidates then supply.toolchain? type platform else none

theorem isEmpty_of_exact {candidates : List Label} {type : Label} {value : ToolchainAvailability}
    (exact : ∀ platform, value.available.get? platform =
      if platform ∈ candidates then supply.toolchain? type platform else none) :
    value.available.isEmpty = supply.isMissing candidates type := by
  rw [Bool.eq_iff_iff, OrderedMap.isEmpty_iff, isMissing, List.all_eq_true]
  constructor
  · intro empty platform member
    have nothing := exact platform
    rw [empty, if_pos member] at nothing
    simp [← nothing]
  · intro missing platform
    rw [exact]
    split
    next member => exact Option.isNone_iff_eq_none.mp (missing platform member)
    next => rfl

theorem Resolves.failure?_eq (resolves : supply.Resolves query answer) :
    ToolchainAnswer.failure? (query.requirement, answer) = none := by
  cases resolves with
  | found value type exact => rfl
  | absent none failure root => simp [ToolchainAnswer.failure?, Failure.lookup?, root]

theorem Resolves.missingType?_eq (resolves : supply.Resolves query answer) :
    ToolchainAnswer.missingType? (query.requirement, answer) =
      if supply.isMissing query.candidates query.requirement.toolchainType then
        some query.requirement.toolchainType
      else none := by
  cases resolves with
  | found value type exact =>
      simp only [ToolchainAnswer.missingType?, isEmpty_of_exact exact]
  | absent none failure root =>
      have missing :
          supply.isMissing query.candidates query.requirement.toolchainType = true := by
        rw [isMissing, List.all_eq_true]
        intro platform member
        simp [none platform member]
      simp [ToolchainAnswer.missingType?, Failure.lookup?, root, missing]

theorem Resolves.matches (resolves : supply.Resolves query answer)
    (resolved : supply.isMissing query.candidates query.requirement.toolchainType = false) :
    ∃ value, answer = .ok value ∧ value.available.isEmpty = false ∧
      supply.Matches query.candidates query.requirement.toolchainType value := by
  cases resolves with
  | found value type exact =>
      exact ⟨value, rfl, (isEmpty_of_exact exact).trans resolved, type, exact⟩
  | absent none failure root =>
      rw [isMissing, List.all_eq_false] at resolved
      obtain ⟨platform, member, some⟩ := resolved
      simp [none platform member] at some

/-- The toolchains in the value are those of the supply, as far as the scope goes. -/
structure Fits (supply : Supply) (scope : Label → Prop) (type : Label)
    (value : ToolchainAvailability) : Prop where
  type_eq : value.toolchainType = ⟨type⟩
  exact : ∀ platform, scope platform →
    value.available.get? platform = supply.toolchain? type platform

theorem Matches.fits {candidates : List Label} {type : Label} {value : ToolchainAvailability}
    (found : supply.Matches candidates type value) : supply.Fits (· ∈ candidates) type value where
  type_eq := found.type_eq
  exact platform member := by rw [found.exact, if_pos member]

section Table

variable {scope : Label → Prop} {types : List Label} {values : List ToolchainAvailability}
  {type platform : Label}

theorem map_toolchainType_of_fits (fitting : List.Forall₂ (supply.Fits scope) types values) :
    values.map ToolchainAvailability.toolchainType = types.map .mk := by
  induction fitting with
  | nil => rfl
  | cons first _ ih => rw [List.map_cons, List.map_cons, ih, first.type_eq]

theorem exists_fits (fitting : List.Forall₂ (supply.Fits scope) types values)
    (member : type ∈ types) : ∃ value ∈ values, supply.Fits scope type value := by
  induction fitting with
  | nil => simp at member
  | cons first _ ih =>
      rcases List.mem_cons.mp member with rfl | later
      · exact ⟨_, List.mem_cons_self, first⟩
      · obtain ⟨value, valueMember, found⟩ := ih later
        exact ⟨value, List.mem_cons_of_mem _ valueMember, found⟩

theorem get?_table (fitting : List.Forall₂ (supply.Fits scope) types values)
    (nodup : types.Nodup) (member : type ∈ types) (inside : scope platform) :
    (AvailabilityTable.ofList values).get? platform ⟨type⟩ = supply.toolchain? type platform := by
  obtain ⟨value, valueMember, found⟩ := exists_fits fitting member
  have apart : (values.map ToolchainAvailability.toolchainType).Nodup := by
    rw [map_toolchainType_of_fits fitting]
    exact nodup.map fun _ _ same => ToolchainType.mk.inj same
  rw [← found.type_eq, AvailabilityTable.get?_ofList_of_mem apart valueMember,
    found.exact platform inside]

theorem missing_table (fitting : List.Forall₂ (supply.Fits scope) types values)
    (nodup : types.Nodup) (inside : scope platform) :
    (AvailabilityTable.ofList values).missing platform (types.map .mk) =
      (types.filter fun type => (supply.toolchain? type platform).isNone).map .mk := by
  rw [AvailabilityTable.missing, List.filter_map]
  congr 1
  apply List.filter_congr
  intro type member
  rw [Function.comp_apply, get?_table fitting nodup member inside]

variable {key : ResolutionKey}

theorem isSuitable_table (fitting : List.Forall₂ (supply.Fits scope) (supply.types key) values)
    (inside : scope platform) :
    (AvailabilityTable.ofList values).isSuitable ((supply.types key).map .mk) platform =
      supply.suits key platform := by
  rw [AvailabilityTable.isSuitable, missing_table fitting (nodup_distinct _) inside,
    List.isEmpty_map, suits, absent]

theorem row_table (fitting : List.Forall₂ (supply.Fits scope) (supply.types key) values)
    (inside : scope platform) :
    (AvailabilityTable.ofList values).row platform ((supply.types key).map .mk) =
      supply.toolchainsOn key platform := by
  have listed : ((supply.types key).map ToolchainType.mk).filterMap (fun toolchainType =>
      ((AvailabilityTable.ofList values).get? platform toolchainType).map fun toolchain =>
        (toolchainType, toolchain)) = supply.pairs key platform := by
    rw [List.filterMap_map, pairs]
    apply List.filterMap_congr
    intro type member
    rw [Function.comp_apply, get?_table fitting (nodup_distinct _) member inside]
  apply OrderedMap.ext
  rw [AvailabilityTable.row, listed,
    OrderedMap.entries_ofList (supply.map_fst_pairs_nodup key platform)]
  rfl

end Table

theorem takeWhile_congr {first second : Label → Bool} {platforms : List Label}
    (same : ∀ platform ∈ platforms, first platform = second platform) :
    platforms.takeWhile first = platforms.takeWhile second := by
  induction platforms with
  | nil => rfl
  | cons platform rest ih =>
      rw [List.takeWhile_cons, List.takeWhile_cons, same platform List.mem_cons_self,
        ih fun other member => same other (List.mem_cons_of_mem _ member)]

variable {choice : PlatformChoice} {values : List ToolchainAvailability}

theorem select?_of_matches {key : ResolutionKey}
    (candidates : choice.candidates = supply.kept key)
    (matching : List.Forall₂ (supply.Matches choice.candidates) (supply.types key) values) :
    choice.select? none values =
      ((supply.kept key).find? (supply.suits key)).map fun platform =>
        { platform := platform
          toolchains := supply.toolchainsOn key platform
          skipped := ((supply.kept key).takeWhile fun other => !supply.suits key other).map
            fun other => (other, .missingToolchains ((supply.absent key other).map .mk)) } := by
  have fitting : List.Forall₂ (supply.Fits (· ∈ choice.candidates)) (supply.types key) values :=
    matching.imp fun type value found => found.fits
  have missing : ∀ platform ∈ supply.kept key,
      (AvailabilityTable.ofList values).missing platform ((supply.types key).map .mk) =
        (supply.absent key platform).map .mk := by
    intro platform member
    exact missing_table fitting (nodup_distinct _) (candidates ▸ member)
  have suitable : ∀ platform ∈ supply.kept key,
      (AvailabilityTable.ofList values).isSuitable ((supply.types key).map .mk) platform =
        supply.suits key platform := by
    intro platform member
    exact isSuitable_table fitting (candidates ▸ member)
  have ahead : choice.ahead none
      ((AvailabilityTable.ofList values).isSuitable ((supply.types key).map .mk)) =
        (supply.kept key).takeWhile fun other => !supply.suits key other := by
    rw [PlatformChoice.ahead, candidates]
    apply takeWhile_congr
    intro platform member
    rw [suitable platform member]
  rw [PlatformChoice.select?, map_toolchainType_of_fits fitting, PlatformChoice.pick?, ahead,
    candidates, List.find?_congr suitable]
  cases found : (supply.kept key).find? (supply.suits key) with
  | none => rfl
  | some platform =>
      have skipped : ∀ other ∈ (supply.kept key).takeWhile fun other => !supply.suits key other,
          (AvailabilityTable.ofList values).missing other ((supply.types key).map .mk) =
            (supply.absent key other).map .mk :=
        fun other member => missing other (List.takeWhile_subset _ member)
      have candidate : platform ∈ choice.candidates :=
        candidates ▸ List.mem_of_find?_eq_some found
      rw [Option.map_some, Option.map_some, row_table fitting candidate,
        List.map_congr_left fun other member => by rw [skipped other member]]

variable {requirements : List ToolchainRequirement} {answers : List (Eval ToolchainAvailability)}

abbrev Resolved (supply : Supply) (candidates : List Label) :
    List ToolchainRequirement → List (Eval ToolchainAvailability) → Prop :=
  List.Forall₂ fun requirement answer => ∃ query : ToolchainQuery,
    query.requirement = requirement ∧ query.candidates = candidates ∧
      supply.Resolves query answer

theorem findSome?_failure? {candidates : List Label}
    (resolved : supply.Resolved candidates requirements answers) :
    (requirements.zip answers).findSome? ToolchainAnswer.failure? = none := by
  induction resolved with
  | nil => rfl
  | cons first _ ih =>
      obtain ⟨query, rfl, _, resolves⟩ := first
      rw [List.zip_cons_cons, List.findSome?_cons, resolves.failure?_eq]
      exact ih

theorem filterMap_missingType? {candidates : List Label}
    (resolved : supply.Resolved candidates requirements answers) :
    (requirements.zip answers).filterMap ToolchainAnswer.missingType? =
      (requirements.map ToolchainRequirement.toolchainType).filter
        (supply.isMissing candidates) := by
  induction resolved with
  | nil => rfl
  | cons first _ ih =>
      obtain ⟨query, rfl, rfl, resolves⟩ := first
      rw [List.zip_cons_cons, List.filterMap_cons, resolves.missingType?_eq, ih, List.map_cons,
        List.filter_cons]
      cases supply.isMissing query.candidates query.requirement.toolchainType <;> rfl

theorem collect_of_offered {offered : ToolchainRequirement → ToolchainAvailability → Prop}
    (answered : List.Forall₂ (fun requirement answer => ∃ value, answer = .ok value ∧
      value.available.isEmpty = false ∧ offered requirement value) requirements answers) :
    ∃ values, ToolchainAnswer.collect (requirements.zip answers) = .ok values ∧
      List.Forall₂ offered requirements values := by
  suffices found : ∃ values, (requirements.zip answers).map Prod.snd = values.map .ok ∧
      (∀ value ∈ values, value.available.isEmpty = false) ∧
      List.Forall₂ offered requirements values by
    obtain ⟨values, same, some, fitting⟩ := found
    exact ⟨values, ToolchainAnswer.collect_eq_ok_iff.mpr ⟨same, some⟩, fitting⟩
  induction answered with
  | nil => exact ⟨[], rfl, by simp, .nil⟩
  | cons first _ ih =>
      obtain ⟨value, rfl, some, found⟩ := first
      obtain ⟨values, same, rest, fitting⟩ := ih
      refine ⟨value :: values, ?_, List.forall_mem_cons.mpr ⟨some, rest⟩, .cons found fitting⟩
      rw [List.zip_cons_cons, List.map_cons, List.map_cons, same]

theorem collect_of_resolved {candidates : List Label}
    (resolved : supply.Resolved candidates requirements answers)
    (all : (requirements.map ToolchainRequirement.toolchainType).filter
      (supply.isMissing candidates) = []) :
    ∃ values, ToolchainAnswer.collect (requirements.zip answers) = .ok values ∧
      List.Forall₂ (supply.Matches candidates)
        (requirements.map ToolchainRequirement.toolchainType) values := by
  simp only [List.filter_eq_nil_iff, List.forall_mem_map, Bool.not_eq_true] at all
  simp only [List.forall₂_map_left_iff]
  refine collect_of_offered (((List.forall₂_and_left _ _).mpr ⟨all, resolved⟩).imp ?_)
  rintro requirement answer ⟨some, query, rfl, rfl, resolves⟩
  exact resolves.matches some

theorem select_eq {key : ResolutionKey} (candidates : choice.candidates = supply.kept key)
    (target : choice.target = supply.configuration.target)
    (types : requirements.map ToolchainRequirement.toolchainType = supply.types key)
    (resolved : supply.Resolved choice.candidates requirements answers) :
    choice.select none requirements (requirements.zip answers) = supply.selection key := by
  by_cases all : supply.unresolved key = []
  · have settled := all
    rw [unresolved, ← types, ← candidates] at settled
    obtain ⟨values, collected, matching⟩ := collect_of_resolved resolved settled
    rw [types] at matching
    rw [PlatformChoice.select_of_collect_ok collected, select?_of_matches candidates matching,
      selection, if_neg (not_not_intro all)]
    cases (supply.kept key).find? (supply.suits key) with
    | none => rw [types, candidates, target]; rfl
    | some platform => rfl
  · have missing : (requirements.zip answers).filterMap ToolchainAnswer.missingType? =
        supply.unresolved key := by
      rw [filterMap_missingType? resolved, types, candidates]
      rfl
    have collected := ToolchainAnswer.collect_of_missing (findSome?_failure? resolved)
      (missing ▸ all)
    rw [missing] at collected
    rw [PlatformChoice.select_of_collect_error collected, selection, if_pos all]
    rfl

end CrossBuild.Supply
