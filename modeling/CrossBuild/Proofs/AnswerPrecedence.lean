import CrossBuild.Proofs.Choice
import CrossBuild.Proofs.Course

/-!
Which of the answers for single toolchain types decide what comes of a choice.  It does not matter
where they stand: failures come before missing types, and these before answers that are not ready.
-/

namespace CrossBuild

namespace ToolchainAnswer

def Fails (answer : ToolchainAnswer) (failure : Failure) : Prop :=
  answer.2 = .error (.failed failure) ∧ ∀ label, failure.root ≠ .lookup (.noToolchainFound label)

/-- There is no toolchain of a type, which is the one that a failure names or the one that an empty
answer is for. -/
inductive Misses : ToolchainAnswer → Label → Prop
  | unfound {requirement : ToolchainRequirement} {failure : Failure} {label : Label}
      (root : failure.root = .lookup (.noToolchainFound label)) :
      Misses (requirement, .error (.failed failure)) label
  | empty {requirement : ToolchainRequirement} {value : ToolchainAvailability}
      (none : value.available.isEmpty = true) :
      Misses (requirement, .ok value) requirement.toolchainType

theorem failure?_eq_some_iff {answer : ToolchainAnswer} {failure : Failure} :
    answer.failure? = some failure ↔ answer.Fails failure := by
  rcases answer with ⟨requirement, (_ | cause) | value⟩
  · simp [failure?, Fails]
  · simp only [failure?, Fails, Except.error.injEq, Suspension.failed.injEq]
    split
    next label absent =>
      rw [Failure.lookup?_eq_some_iff] at absent
      constructor
      · intro impossible
        cases impossible
      · rintro ⟨rfl, other⟩
        exact absurd absent (other label)
    next present =>
      rw [Option.some.injEq]
      constructor
      · rintro rfl
        exact ⟨rfl, fun label absent => present label (cause.lookup?_eq_some_iff _ |>.mpr absent)⟩
      · exact And.left
  · simp [failure?, Fails]

theorem missingType?_eq_some_iff {answer : ToolchainAnswer} {label : Label} :
    answer.missingType? = some label ↔ answer.Misses label := by
  rcases answer with ⟨requirement, (_ | cause) | value⟩
  · exact iff_of_false nofun nofun
  · constructor
    · intro missing
      simp only [missingType?] at missing
      split at missing
      next absent =>
        cases missing
        exact .unfound ((cause.lookup?_eq_some_iff _).mp absent)
      next => cases missing
    · rintro (root | _)
      simp [missingType?, (cause.lookup?_eq_some_iff _).mpr root]
  · constructor
    · intro missing
      simp only [missingType?, Option.ite_none_right_eq_some, Option.some.injEq] at missing
      obtain ⟨none, rfl⟩ := missing
      exact .empty none
    · rintro (_ | none)
      simp [missingType?, none]

theorem not_isRefusal_iff {answer : ToolchainAnswer} :
    ¬ answer.IsRefusal ↔ (∀ failure, ¬ answer.Fails failure) ∧ ∀ label, ¬ answer.Misses label := by
  simp only [IsRefusal, not_or, Option.isSome_iff_exists, not_exists, failure?_eq_some_iff,
    missingType?_eq_some_iff]

variable {answers : List ToolchainAnswer}

theorem collect_of_fails {before after : List ToolchainAnswer} {answer : ToolchainAnswer}
    {failure : Failure} (split : answers = before ++ answer :: after)
    (fails : answer.Fails failure) (clear : ∀ earlier ∈ before, ∀ other, ¬ earlier.Fails other) :
    collect answers = .error (.failed failure) := by
  have first : answers.findSome? failure? = some failure := by
    rw [List.findSome?_eq_some_iff]
    refine ⟨before, answer, after, split, failure?_eq_some_iff.mpr fails, ?_⟩
    intro earlier member
    rw [Option.eq_none_iff_forall_ne_some]
    intro other failed
    exact clear earlier member other (failure?_eq_some_iff.mp failed)
  simp only [collect, first]

theorem fails_or_unresolved {failure : Failure}
    (failed : collect answers = .error (.failed failure)) :
    (∃ answer ∈ answers, answer.Fails failure) ∨
      ∃ labels, failure.root = .resolution (.unresolvedToolchains labels) := by
  unfold collect at failed
  dsimp only at failed
  split at failed
  next first found =>
    cases failed
    obtain ⟨answer, member, fails⟩ := List.exists_of_findSome?_eq_some found
    exact .inl ⟨answer, member, failure?_eq_some_iff.mp fails⟩
  next =>
    split at failed
    · cases failed
      exact .inr ⟨_, rfl⟩
    · split at failed <;> cases failed

section Unfailing

variable (unfailing : ∀ answer ∈ answers, ∀ failure, ¬ answer.Fails failure)

include unfailing

theorem findSome?_failure?_of_unfailing : answers.findSome? failure? = none := by
  rw [List.findSome?_eq_none_iff]
  intro answer member
  rw [Option.eq_none_iff_forall_ne_some]
  intro failure failed
  exact unfailing answer member failure (failure?_eq_some_iff.mp failed)

open scoped Classical in
theorem collect_of_misses (missing : ∃ answer ∈ answers, ∃ label, answer.Misses label) :
    ∃ labels, List.Forall₂ Misses (answers.filter fun answer => ∃ label, answer.Misses label)
        labels ∧
      collect answers = Eval.fail (.resolution (.unresolvedToolchains labels)) := by
  refine ⟨answers.filterMap missingType?, ?_, ?_⟩
  · exact forall₂_filterMap fun _ _ _ => missingType?_eq_some_iff
  · apply collect_of_missing (findSome?_failure?_of_unfailing unfailing)
    obtain ⟨answer, member, label, misses⟩ := missing
    exact List.ne_nil_of_mem
      (List.mem_filterMap.mpr ⟨answer, member, missingType?_eq_some_iff.mpr misses⟩)

variable (present : ∀ answer ∈ answers, ∀ label, ¬ answer.Misses label)

include present

theorem collect_of_pending (pending : ∃ answer ∈ answers, answer.2 = .error .notReady) :
    collect answers = .error .notReady := by
  obtain ⟨answer, member, waits⟩ := pending
  rw [collect_of_no_refusal, if_pos]
  · exact List.any_eq_true.mpr ⟨answer, member, by simp [waits, Eval.isPending]⟩
  · intro answer member
    exact not_isRefusal_iff.mpr ⟨unfailing answer member, present answer member⟩

theorem offers_of_ready (ready : ∀ answer ∈ answers, answer.2 ≠ .error .notReady) :
    ∀ answer ∈ answers, answer.Offers := by
  intro answer member
  obtain refusal | pending | offers := isRefusal_or_offers answer
  · exact absurd refusal (not_isRefusal_iff.mpr ⟨unfailing answer member, present answer member⟩)
  · exact absurd pending (ready answer member)
  · exact offers

end Unfailing

end ToolchainAnswer

namespace PlatformChoice

/-- The toolchain that the values give for a type on a platform.  The last one of them counts. -/
def given (values : List ToolchainAvailability) (platform : Label) (toolchainType : ToolchainType) :
    Option Label :=
  values.reverse.findSome? fun value => value.gives platform toolchainType

def lacking (values : List ToolchainAvailability) (platform : Label) : List ToolchainType :=
  (values.map ToolchainAvailability.toolchainType).filter fun toolchainType =>
    (given values platform toolchainType).isNone

/-- A platform that lacks nothing is picked, after some that were passed over: the forced one, if it
is offered, or else the first candidate. -/
inductive Picks (choice : PlatformChoice) (values : List ToolchainAvailability) :
    Option Label → Label → List Label → Prop
  | forced {platform : Label} (covers : lacking values platform = [])
      (offered : platform = choice.host ∨ platform = choice.target ∨
        platform ∈ choice.candidates) :
      Picks choice values (some platform) platform []
  | first {platform : Label} {before after : List Label} (covers : lacking values platform = [])
      (split : choice.candidates = before ++ platform :: after)
      (earlier : ∀ other ∈ before, lacking values other ≠ []) :
      Picks choice values none platform before

/-- A selection has a toolchain for each type, and says what the platforms before lack. -/
structure Equips (values : List ToolchainAvailability) (platform : Label) (passed : List Label)
    (selection : Selection) : Prop where
  selected : selection.platform = platform
  keys : selection.toolchains.keys =
    distinct (values.map ToolchainAvailability.toolchainType)
  get? : ∀ toolchainType ∈ values.map ToolchainAvailability.toolchainType,
    selection.toolchains.get? toolchainType = given values platform toolchainType
  skipped : selection.skipped = passed.map fun other =>
    (other, .missingToolchains (lacking values other))

section Picking

variable {choice : PlatformChoice} {forced : Option Label} {platform : Label}
  {passed : List Label} (values : List ToolchainAvailability)

theorem missing_ofList (platform : Label) :
    (AvailabilityTable.ofList values).missing platform
      (values.map ToolchainAvailability.toolchainType) = lacking values platform := by
  simp only [AvailabilityTable.missing, AvailabilityTable.get?_ofList]
  rfl

theorem isSuitable_ofList (platform : Label) :
    (AvailabilityTable.ofList values).isSuitable
      (values.map ToolchainAvailability.toolchainType) platform = true ↔
        lacking values platform = [] := by
  rw [AvailabilityTable.isSuitable, missing_ofList, List.isEmpty_iff]

theorem isSuitable_ofList_eq_false (platform : Label) :
    (AvailabilityTable.ofList values).isSuitable
      (values.map ToolchainAvailability.toolchainType) platform = false ↔
        lacking values platform ≠ [] := by
  rw [← Bool.not_eq_true, isSuitable_ofList]

variable {values}

theorem Picks.pick?_eq (picks : choice.Picks values forced platform passed) :
    choice.pick? forced ((AvailabilityTable.ofList values).isSuitable
      (values.map ToolchainAvailability.toolchainType)) = some platform := by
  cases picks with
  | forced covers offered =>
      have suitable := (isSuitable_ofList values platform).mpr covers
      have among : choice.offers platform = true := by simpa [offers, or_assoc] using offered
      simp [pick?, among, suitable]
  | first covers split earlier =>
      rw [pick?, List.find?_eq_some_iff_append]
      refine ⟨(isSuitable_ofList values platform).mpr covers, _, _, split, fun other member => ?_⟩
      simpa [isSuitable_ofList_eq_false] using earlier other member

theorem Picks.ahead_eq (picks : choice.Picks values forced platform passed) :
    choice.ahead forced ((AvailabilityTable.ofList values).isSuitable
      (values.map ToolchainAvailability.toolchainType)) = passed := by
  cases picks with
  | forced => rfl
  | first covers split earlier =>
      have suitable := (isSuitable_ofList values platform).mpr covers
      rw [ahead, split, List.takeWhile_append_of_pos, List.takeWhile_cons_of_neg,
        List.append_nil]
      · simp [suitable]
      · intro other member
        simpa [isSuitable_ofList_eq_false] using earlier other member

theorem exists_picks (picked : choice.pick? forced ((AvailabilityTable.ofList values).isSuitable
      (values.map ToolchainAvailability.toolchainType)) = some platform) :
    ∃ passed, choice.Picks values forced platform passed := by
  have covers := (isSuitable_ofList values platform).mp (suitable_of_pick? picked)
  cases forced with
  | some wanted =>
      simp only [pick?, Option.ite_none_right_eq_some, Bool.and_eq_true,
        Option.some.injEq] at picked
      obtain ⟨⟨among, -⟩, rfl⟩ := picked
      exact ⟨[], .forced covers (by simpa [offers, or_assoc] using among)⟩
  | none =>
      rw [pick?, List.find?_eq_some_iff_append] at picked
      obtain ⟨-, before, after, split, earlier⟩ := picked
      -- A candidate without a lack would have been found before this one.
      refine ⟨before, .first covers split fun other member lacksNone => ?_⟩
      have suitable := (isSuitable_ofList values other).mpr lacksNone
      simpa [suitable] using earlier other member

theorem select?_of_picks (picks : choice.Picks values forced platform passed) :
    ∃ selection, choice.select? forced values = some selection ∧
      Equips values platform passed selection := by
  have suitable := suitable_of_pick? picks.pick?_eq
  simp only [select?, picks.pick?_eq, picks.ahead_eq, Option.map_some, missing_ofList]
  refine ⟨_, rfl, rfl, AvailabilityTable.keys_row_of_isSuitable suitable, ?_, rfl⟩
  intro toolchainType member
  rw [AvailabilityTable.get?_row, if_pos member, AvailabilityTable.get?_ofList]
  rfl

theorem select?_of_not_picks
    (none : ∀ platform passed, ¬choice.Picks values forced platform passed) :
    choice.select? forced values = .none := by
  rw [select?, Option.map_eq_none_iff, Option.eq_none_iff_forall_ne_some]
  intro platform picked
  obtain ⟨passed, picks⟩ := exists_picks picked
  exact none platform passed picks

end Picking

open scoped Classical in
/-- What comes of the answers.  The first failure wins over missing types, these win over answers
that are not ready, and only if every answer has toolchains to offer a platform is looked for. -/
structure Concludes (choice : PlatformChoice) (forced : Option Label)
    (requirements : List ToolchainRequirement) (answers : List ToolchainAnswer)
    (outcome : Eval Selection) : Prop where
  failed : ∀ before answer after failure, answers = before ++ answer :: after →
    answer.Fails failure → (∀ earlier ∈ before, ∀ other, ¬ earlier.Fails other) →
    outcome = .error (.failed failure)
  unresolved : (∀ answer ∈ answers, ∀ failure, ¬ answer.Fails failure) →
    (∃ answer ∈ answers, ∃ label, answer.Misses label) →
    ∃ labels, List.Forall₂ ToolchainAnswer.Misses
        (answers.filter fun answer => ∃ label, answer.Misses label) labels ∧
      outcome = Eval.fail (.resolution (.unresolvedToolchains labels))
  waiting : (∀ answer ∈ answers, ∀ failure, ¬ answer.Fails failure) →
    (∀ answer ∈ answers, ∀ label, ¬ answer.Misses label) →
    (∃ answer ∈ answers, answer.2 = .error .notReady) → outcome = .error .notReady
  chosen : (∀ answer ∈ answers, ∀ failure, ¬ answer.Fails failure) →
    (∀ answer ∈ answers, ∀ label, ¬ answer.Misses label) →
    (∀ answer ∈ answers, answer.2 ≠ .error .notReady) →
    ∃ values, answers.map Prod.snd = values.map .ok ∧
      (∀ platform passed, choice.Picks values forced platform passed →
        ∃ selection, Equips values platform passed selection ∧ outcome = .ok selection) ∧
      ((∀ platform passed, ¬choice.Picks values forced platform passed) →
        outcome = Eval.fail (.resolution (.noMatchingPlatform
          (requirements.map ToolchainRequirement.toolchainType) choice.candidates choice.target)))
  unmatched : ∀ failure types platforms target, outcome = .error (.failed failure) →
    failure.root = .resolution (.noMatchingPlatform types platforms target) →
    (∃ answer ∈ answers, answer.Fails failure) ∨ ∀ answer ∈ answers, answer.Offers

variable {choice : PlatformChoice} {forced : Option Label}
  {requirements : List ToolchainRequirement} {answers : List ToolchainAnswer}

theorem offers_of_unmatched {failure : Failure} {types platforms : List Label} {target : Label}
    (failed : choice.select forced requirements answers = .error (.failed failure))
    (root : failure.root = .resolution (.noMatchingPlatform types platforms target)) :
    (∃ answer ∈ answers, answer.Fails failure) ∨ ∀ answer ∈ answers, answer.Offers := by
  cases collected : ToolchainAnswer.collect answers with
  | ok values => exact .inr (ToolchainAnswer.offers_of_collect collected)
  | error cause =>
      rw [select_of_collect_error collected] at failed
      cases failed
      obtain fails | ⟨labels, unresolved⟩ := ToolchainAnswer.fails_or_unresolved collected
      · exact .inl fails
      · cases root.symm.trans unresolved

theorem concludes_select (choice : PlatformChoice) (forced : Option Label)
    (requirements : List ToolchainRequirement) (answers : List ToolchainAnswer) :
    choice.Concludes forced requirements answers
      (choice.select forced requirements answers) where
  failed before answer after failure split fails clear :=
    select_of_collect_error (ToolchainAnswer.collect_of_fails split fails clear)
  unresolved unfailing missing := by
    obtain ⟨labels, listed, collected⟩ := ToolchainAnswer.collect_of_misses unfailing missing
    exact ⟨labels, listed, select_of_collect_error collected⟩
  waiting unfailing present pending :=
    select_of_collect_error (ToolchainAnswer.collect_of_pending unfailing present pending)
  chosen unfailing present ready := by
    have offers := ToolchainAnswer.offers_of_ready unfailing present ready
    have outcome (forced : Option Label) := @select_of_collect_ok choice forced _ requirements _
      (ToolchainAnswer.collect_of_offers offers)
    refine ⟨_, ToolchainAnswer.map_snd_of_offers offers, ?_, ?_⟩
    · intro platform passed picks
      obtain ⟨selection, selected, equips⟩ := select?_of_picks picks
      exact ⟨selection, equips, by rw [outcome, selected, Option.elim_some]⟩
    · intro none
      rw [outcome, select?_of_not_picks none, Option.elim_none]
  unmatched _ _ _ _ := offers_of_unmatched

end PlatformChoice

/-- Whatever the engine answers for the required types, and in whatever order, the choice of a
platform concludes from it by the precedence of the answers. -/
theorem choose_concludes {σ : Type} (engine : Engine σ) (key : ResolutionKey)
    (inputs : ResolutionInputs) (candidates : List Label) (session : Session σ) :
    (ResolutionKey.choice inputs candidates).Concludes key.forcedPlatform inputs.requirements
      (inputs.requirements.zip
        (engine.answer (.toolchains (key.queries inputs candidates)) session.state).1)
      (key.choose engine inputs candidates session).1 :=
  PlatformChoice.concludes_select _ _ _ _

def preparedEngine (answers : List (Eval ToolchainAvailability)) : Engine Unit where
  answer
    | .toolchains _, _ => (answers, ())
    | .configuration _, _ | .platforms _, _ | .constraintValues _, _ | .toolchainTypes _ _, _
    | .registeredPlatforms _, _ => (.error .notReady, ())

def threeTypes : ResolutionInputs where
  configuration := ⟨⟨"", "platforms", "host"⟩, ⟨"", "platforms", "target"⟩, .disabled⟩
  explained := false
  types := .empty
  requirements := [⟨⟨"", "toolchains", "cc"⟩, true⟩, ⟨⟨"", "toolchains", "go"⟩, true⟩,
    ⟨⟨"", "toolchains", "py"⟩, true⟩]
  candidates := [⟨"", "platforms", "host"⟩]

def unfoundGo : Failure :=
  (FailureCause.lookup (.noToolchainFound ⟨"", "toolchains", "go"⟩) : Failure).inContext "loading"

def cancelled : Failure := FailureCause.lookup .interrupted

def linuxTools : List ToolchainAvailability :=
  [⟨⟨⟨"", "toolchains", "cc"⟩⟩, .ofList [(⟨"", "platforms", "host"⟩, ⟨"", "gcc", "gcc"⟩),
      (⟨"", "platforms", "linux"⟩, ⟨"", "gcc", "linux_gcc"⟩)]⟩,
    ⟨⟨⟨"", "toolchains", "go"⟩⟩, .ofList [(⟨"", "platforms", "linux"⟩, ⟨"", "go", "sdk"⟩)]⟩,
    ⟨⟨⟨"", "toolchains", "py"⟩⟩, .ofList [(⟨"", "platforms", "host"⟩, ⟨"", "py", "host"⟩),
      (⟨"", "platforms", "linux"⟩, ⟨"", "py", "linux"⟩)]⟩]

def linuxAnswers : List ToolchainAnswer := threeTypes.requirements.zip (linuxTools.map .ok)

/-- An answer that is not ready, one for a type without toolchains, and an interruption or an empty
answer after them; then toolchains for every type, on the second of two platforms or on none. -/
theorem choose_concludes_threeTypes :
    (({ configuration := ⟨"opt"⟩ } : ResolutionKey).choose
      (preparedEngine [.error .notReady, .error (.failed unfoundGo), .error (.failed cancelled)])
      threeTypes threeTypes.candidates { state := () }).1 = .error (.failed cancelled) ∧
    (∃ labels, (({ configuration := ⟨"opt"⟩ } : ResolutionKey).choose
      (preparedEngine [.error .notReady, .error (.failed unfoundGo),
        .ok ⟨⟨⟨"", "", "py"⟩⟩, .empty⟩])
      threeTypes threeTypes.candidates { state := () }).1 =
        Eval.fail (.resolution (.unresolvedToolchains labels)) ∧
      labels = [⟨"", "toolchains", "go"⟩, ⟨"", "toolchains", "py"⟩]) ∧
    (∃ selection, (({ configuration := ⟨"opt"⟩ } : ResolutionKey).choose
      (preparedEngine (linuxTools.map .ok)) threeTypes
      [⟨"", "platforms", "host"⟩, ⟨"", "platforms", "linux"⟩] { state := () }).1 =
        .ok selection ∧
      selection.platform = ⟨"", "platforms", "linux"⟩ ∧
      selection.toolchains.get? ⟨⟨"", "toolchains", "go"⟩⟩ = some ⟨"", "go", "sdk"⟩ ∧
      selection.skipped = [(⟨"", "platforms", "host"⟩,
        .missingToolchains [⟨⟨"", "toolchains", "go"⟩⟩])]) ∧
    ∃ types, (({ configuration := ⟨"opt"⟩ } : ResolutionKey).choose
      (preparedEngine (linuxTools.map .ok)) threeTypes threeTypes.candidates { state := () }).1 =
        Eval.fail (.resolution (.noMatchingPlatform types threeTypes.candidates
          ⟨"", "platforms", "target"⟩)) := by
  have answered : ∀ answer ∈ linuxAnswers, ∃ value ∈ linuxTools, answer.2 = .ok value := by
    intro answer member
    obtain ⟨value, listed, same⟩ := List.mem_map.mp (List.of_mem_zip member).2
    exact ⟨value, listed, same.symm⟩
  have stocked : ∀ value ∈ linuxTools, value.available.isEmpty = false := by decide +kernel
  have unfailing : ∀ answer ∈ linuxAnswers, ∀ failure, ¬answer.Fails failure := by
    rintro answer member failure ⟨failed, -⟩
    obtain ⟨value, -, same⟩ := answered answer member
    cases same.symm.trans failed
  have present : ∀ answer ∈ linuxAnswers, ∀ label, ¬answer.Misses label := by
    intro answer member label misses
    obtain ⟨value, listed, same⟩ := answered answer member
    cases misses with
    | unfound => cases same
    | empty none =>
        cases same
        cases (stocked value listed).symm.trans none
  have ready : ∀ answer ∈ linuxAnswers, answer.2 ≠ .error .notReady := by
    intro answer member waits
    obtain ⟨value, -, same⟩ := answered answer member
    cases same.symm.trans waits
  refine ⟨?failed, ?unresolved, ?selected, ?unmatched⟩
  case failed =>
    refine (choose_concludes _ _ _ _ _).failed [_, _] _ [] cancelled rfl ⟨rfl, nofun⟩ ?_
    rw [List.forall_mem_cons, List.forall_mem_singleton]
    refine ⟨nofun, ?_⟩
    rintro other ⟨same, root⟩
    cases same
    exact root _ rfl
  case unresolved =>
    have concludes := choose_concludes (preparedEngine [.error .notReady,
      .error (.failed unfoundGo), .ok ⟨⟨⟨"", "", "py"⟩⟩, .empty⟩])
      { configuration := ⟨"opt"⟩ } threeTypes threeTypes.candidates { state := () }
    have concluded := concludes.unresolved ?unfailing ?missing
    case unfailing =>
      refine List.forall_mem_cons.mpr ⟨nofun, List.forall_mem_cons.mpr ⟨?_, ?_⟩⟩
      · rintro failure ⟨same, root⟩
        cases same
        exact root _ rfl
      · exact List.forall_mem_singleton.mpr nofun
    case missing =>
      exact ⟨_, List.mem_cons_of_mem _ List.mem_cons_self, _, .unfound rfl⟩
    obtain ⟨labels, -, outcome⟩ := concluded
    refine ⟨labels, outcome, ?_⟩
    cases outcome
    rfl
  case selected =>
    obtain ⟨values, same, picked, -⟩ := (choose_concludes (preparedEngine (linuxTools.map .ok))
      { configuration := ⟨"opt"⟩ } threeTypes [⟨"", "platforms", "host"⟩,
        ⟨"", "platforms", "linux"⟩] { state := () }).chosen unfailing present ready
    obtain rfl : linuxTools = values :=
      (List.map_inj_right fun _ _ => Except.ok.inj).mp same
    obtain ⟨selection, equips, outcome⟩ := picked ⟨"", "platforms", "linux"⟩
      [⟨"", "platforms", "host"⟩] (.first (by decide +kernel) rfl (by decide +kernel))
    refine ⟨selection, outcome, equips.selected, ?_, ?_⟩
    · rw [equips.get? _ (by decide +kernel)]
      decide +kernel
    · rw [equips.skipped]
      decide +kernel
  case unmatched =>
    obtain ⟨values, same, -, none⟩ := (choose_concludes (preparedEngine (linuxTools.map .ok))
      { configuration := ⟨"opt"⟩ } threeTypes threeTypes.candidates
      { state := () }).chosen unfailing present ready
    obtain rfl : linuxTools = values :=
      (List.map_inj_right fun _ _ => Except.ok.inj).mp same
    refine ⟨_, none ?_⟩
    intro platform passed picks
    cases picks with
    | first covers split =>
        have lacks : PlatformChoice.lacking linuxTools ⟨"", "platforms", "host"⟩ ≠ [] := by
          decide +kernel
        have only : platform = ⟨"", "platforms", "host"⟩ := by
          have member : platform ∈ threeTypes.candidates := by
            rw [show threeTypes.candidates = _ from split]
            simp
          simpa [threeTypes] using member
        exact lacks (only ▸ covers)

end CrossBuild
