import CrossBuild.Proofs.ConstraintSets
import CrossBuild.Proofs.SelectedPlatform

/-!
Screening as a conjunction.  A candidate is kept if it carries every required value, so it does not
matter in which order and in how many screenings the values are required.  No platform carries two
values of one setting, and a key that requires them leaves nothing to select from.
-/

namespace CrossBuild

namespace Platform

def Carries (platform : Platform) (required : List ConstraintValue) : Prop :=
  ∀ value ∈ required, value ∈ platform.constraints.values

instance (platform : Platform) (required : List ConstraintValue) :
    Decidable (platform.Carries required) :=
  inferInstanceAs (Decidable (∀ value ∈ required, value ∈ platform.constraints.values))

variable {platform : Platform} {required others : List ConstraintValue}

theorem carries_append_iff :
    platform.Carries (required ++ others) ↔ platform.Carries required ∧ platform.Carries others :=
  List.forall_mem_append

theorem carries_congr (same : required.Perm others) :
    platform.Carries required ↔ platform.Carries others := by
  simp only [Carries, same.mem_iff]

theorem missing_eq_nil_iff : platform.missing required = [] ↔ platform.Carries required := by
  rw [missing, ConstraintCollection.missing_eq_nil_iff]
  simp only [Carries, ConstraintCollection.has_iff_mem]

theorem isEmpty_missing :
    (platform.missing required).isEmpty = decide (platform.Carries required) := by
  rw [Bool.eq_iff_iff, List.isEmpty_iff, missing_eq_nil_iff, decide_eq_true_iff]

theorem Carries.consistent (carries : platform.Carries required) : Consistent required := by
  intro value member other otherMember same
  have found := ConstraintCollection.get?_eq_some_iff.mpr ⟨carries value member, same⟩
  have otherFound := ConstraintCollection.get?_eq_some_iff.mpr ⟨carries other otherMember, rfl⟩
  exact Option.some.inj (found.symm.trans otherFound)

end Platform

namespace Screening

/-- A candidate is kept if it carries every required value and dropped for those that it lacks
otherwise, each time that it stands among the candidates. -/
structure Divides (screening : Screening) (describe : Label → Platform)
    (required : List ConstraintValue) (candidates : List Label) : Prop where
  kept : screening.kept = candidates.filter fun candidate => (describe candidate).Carries required
  skipped : screening.skipped =
    (candidates.filter fun candidate => ¬(describe candidate).Carries required).map fun candidate =>
      (candidate, .missingConstraints (required.filter fun value =>
        value ∉ (describe candidate).constraints.values))
  reason_nonempty : ∀ candidate, (candidate, .missingConstraints []) ∉ screening.skipped

variable {describe : Label → Platform} {known : OrderedMap Label Platform}
  {required : List ConstraintValue} {candidates : List Label} {screening : Screening}

theorem divides_of_parts
    (kept : screening.kept = candidates.filter fun candidate =>
      (describe candidate).Carries required)
    (dropped : screening.dropped =
      (candidates.filter fun candidate => ¬(describe candidate).Carries required).map
        fun candidate => (candidate, (describe candidate).missing required)) :
    screening.Divides describe required candidates := by
  refine ⟨kept, ?_, ?_⟩
  · rw [Screening.skipped, dropped, List.map_map]
    apply List.map_congr_left
    intro candidate _
    rw [Function.comp_apply, Platform.missing, ConstraintCollection.missing_eq]
  · intro candidate entry
    rw [Screening.skipped, dropped, List.map_map, List.mem_map] at entry
    obtain ⟨looked, member, same⟩ := entry
    obtain ⟨rfl, missing⟩ := Prod.mk.inj same
    have lacks := of_decide_eq_true (List.mem_filter.mp member).2
    exact lacks (Platform.missing_eq_nil_iff.mp (SkipReason.missingConstraints.inj missing))

theorem divides_keepAll (describe : Label → Platform) (candidates : List Label) :
    (keepAll candidates).Divides describe [] candidates := by
  have carries : ∀ candidate, (describe candidate).Carries [] :=
    fun _ _ impossible => nomatch impossible
  apply divides_of_parts
  · simp [keepAll, carries]
  · simp [keepAll, carries]

theorem divides_run (described : ∀ candidate ∈ candidates,
      known.get? candidate = some (describe candidate)) :
    (run known required candidates).Divides describe required candidates ∧
      (run known required candidates).unknown = none := by
  have all : candidates.takeWhile known.contains = candidates := by
    rw [List.takeWhile_eq_self_iff]
    intro candidate member
    rw [OrderedMap.contains, described candidate member, Option.isSome_some]
  have lacked : ∀ candidate ∈ candidates,
      lacking known required candidate = (describe candidate).missing required :=
    fun candidate member => (missing_eq_lacking (described candidate member)).symm
  rw [run_eq, all]
  refine ⟨divides_of_parts ?_ ?_, ?_⟩
  · apply List.filter_congr
    intro candidate member
    rw [lacked candidate member, Platform.isEmpty_missing]
  · change List.filter _ (List.map _ _) = _
    rw [List.filter_map]
    refine (List.map_congr_left ?_).trans (congrArg (List.map _) (List.filter_congr ?_))
    · intro candidate member
      rw [lacked candidate (List.mem_of_mem_filter member)]
    · intro candidate member
      simp [lacked candidate member, Platform.isEmpty_missing]
  · apply List.find?_eq_none.mpr
    intro candidate member
    simp [OrderedMap.contains, described candidate member]

namespace Divides

variable {first second : List ConstraintValue} {one two both : Screening}

theorem kept_append (divides : both.Divides describe required candidates)
    (oneDivides : one.Divides describe first candidates)
    (twoDivides : two.Divides describe second candidates)
    (same : required.Perm (first ++ second)) :
    both.kept = one.kept.filter (· ∈ two.kept) := by
  rw [divides.kept, oneDivides.kept, twoDivides.kept, List.filter_filter]
  apply List.filter_congr
  intro candidate member
  simp [Platform.carries_congr same, Platform.carries_append_iff, member, Bool.and_comm]

theorem kept_again (divides : both.Divides describe required candidates)
    (oneDivides : one.Divides describe first candidates)
    (twoDivides : two.Divides describe second one.kept)
    (same : required.Perm (first ++ second)) : two.kept = both.kept := by
  rw [divides.kept, twoDivides.kept, oneDivides.kept, List.filter_filter]
  apply List.filter_congr
  intro candidate _
  simp [Platform.carries_congr same, Platform.carries_append_iff, Bool.and_comm]

theorem drops_all (divides : screening.Divides describe required candidates)
    (clash : ¬Consistent required) :
    screening.kept = [] ∧ screening.skipped.map Prod.fst = candidates := by
  have lacks : ∀ candidate, ¬(describe candidate).Carries required :=
    fun candidate carries => clash carries.consistent
  constructor
  · rw [divides.kept, List.filter_eq_nil_iff]
    simp [lacks]
  · rw [divides.skipped, List.map_map]
    simp [lacks, Function.comp_def]

end Divides

theorem kept_run_of_clash (clash : ¬Consistent required) :
    (run known required candidates).kept = [] := by
  rw [run_eq, List.filter_eq_nil_iff]
  intro candidate member complete
  have contained : known.contains candidate = true := List.mem_takeWhile_imp member
  obtain ⟨platform, found⟩ := Option.isSome_iff_exists.mp contained
  rw [← missing_eq_lacking found, Platform.isEmpty_missing, decide_eq_true_iff] at complete
  exact clash complete.consistent

end Screening

namespace ResolutionKey

variable {σ : Type} {engine : Engine σ} {key : ResolutionKey} {inputs : ResolutionInputs}
  {session : Session σ} {describe : Label → Platform} {known : OrderedMap Label Platform}
  {required : List ConstraintValue}

theorem screen_of_unconstrained (free : key.executionConstraints = []) :
    key.screen engine inputs session = (.ok (.keepAll inputs.candidates), session) := by
  rw [screen, free]
  rfl

theorem screen_of_answers (constrained : key.executionConstraints ≠ [])
    (answers : engine.transcript
        [.platforms inputs.candidates, .constraintValues key.executionConstraints] session.state =
      key.screeningExchanges inputs (.ok known) (.ok required))
    (all : (Screening.run known required inputs.candidates).unknown = none) :
    (key.screen engine inputs session).1 = .ok (.run known required inputs.candidates) := by
  obtain ⟨exchanges, events, gives, _, _, screens⟩ := key.screen_takes engine inputs session
  have told := gives.answers
  generalize (key.screen engine inputs session).1 = result at screens
  cases screens with
  | unconstrained free => exact absurd free constrained
  | unanswered _ otherKnown otherRequired cause stopped =>
      cases answers.symm.trans told
      cases stopped
  | unknown _ otherKnown otherRequired candidate found =>
      cases answers.symm.trans told
      cases all.symm.trans found
  | screened _ otherKnown otherRequired _ =>
      cases answers.symm.trans told
      rfl

/-- What an engine tells about the candidates and the constraints of a key.  A key without
constraints asks for nothing. -/
inductive Told (engine : Engine σ) (key : ResolutionKey) (inputs : ResolutionInputs)
    (session : Session σ) (describe : Label → Platform) : List ConstraintValue → Prop
  | nothing (free : key.executionConstraints = []) : Told engine key inputs session describe []
  | described (constrained : key.executionConstraints ≠ []) (known required)
      (answers : engine.transcript
          [.platforms inputs.candidates, .constraintValues key.executionConstraints]
          session.state = key.screeningExchanges inputs (.ok known) (.ok required))
      (all : ∀ candidate ∈ inputs.candidates, known.get? candidate = some (describe candidate)) :
      Told engine key inputs session describe required

theorem Told.exists_screening (told : Told engine key inputs session describe required) :
    ∃ screening, (key.screen engine inputs session).1 = .ok screening ∧
      screening.Divides describe required inputs.candidates := by
  cases told with
  | nothing free =>
      rw [screen_of_unconstrained free]
      exact ⟨_, rfl, Screening.divides_keepAll describe inputs.candidates⟩
  | described constrained known required answers all =>
      obtain ⟨divides, allKnown⟩ : (Screening.run known required inputs.candidates).Divides describe
          required inputs.candidates ∧ _ := Screening.divides_run all
      exact ⟨_, screen_of_answers constrained answers allKnown, divides⟩

theorem Course.not_ready_of_clash {exchanges : List Exchange} {events : List Event}
    {outcome : Eval Resolution} (course : key.Course exchanges events outcome)
    (unforced : key.forcedPlatform = none) (constrained : key.executionConstraints ≠ [])
    (clash : ∀ required, ⟨.constraintValues key.executionConstraints, .ok required⟩ ∈ exchanges →
      ¬Consistent required) (resolution : Resolution) : outcome ≠ .ok resolution := by
  rintro rfl
  cases course with
  | @chosen _ inputs _ _ screening _ _ _ _ _ opens screens chooses finishes =>
      obtain ⟨values, selected⟩ := chooses.exists_select?
      rw [unforced] at selected
      obtain ⟨platform, picked, _⟩ := Option.map_eq_some_iff.mp selected
      have kept : platform ∈ screening.kept := List.mem_of_find?_eq_some picked
      cases screens with
      | unconstrained free => exact constrained free
      | screened _ known required all =>
          have inconsistent := clash required (by simp [screeningExchanges])
          rw [Screening.kept_run_of_clash inconsistent] at kept
          cases kept

end ResolutionKey

/-- Every platform has one description and every label of a constraint value stands for one value,
whenever the engine is asked. -/
structure Engine.Informs {σ : Type} (engine : Engine σ) (describe : Label → Platform)
    (resolve : Label → ConstraintValue) : Prop where
  platforms : ∀ labels state, ∃ known,
    (engine.answer (.platforms labels) state).1 = Except.ok known ∧
      ∀ label ∈ labels, known.get? label = some (describe label)
  constraintValues : ∀ labels state,
    (engine.answer (.constraintValues labels) state).1 = Except.ok (labels.map resolve)

theorem Engine.Informs.told {σ : Type} {engine : Engine σ} {describe : Label → Platform}
    {resolve : Label → ConstraintValue} (informs : engine.Informs describe resolve)
    (key : ResolutionKey) (inputs : ResolutionInputs) (session : Session σ) :
    ResolutionKey.Told engine key inputs session describe
      (key.executionConstraints.map resolve) := by
  by_cases free : key.executionConstraints = []
  · rw [free]
    exact .nothing free
  · obtain ⟨known, answered, all⟩ := informs.platforms inputs.candidates session.state
    refine .described free known _ ?_ all
    simp only [Engine.transcript, answered, informs.constraintValues]
    rfl

theorem Engine.Informs.resolved {σ : Type} {engine : Engine σ} {describe : Label → Platform}
    {resolve : Label → ConstraintValue} (informs : engine.Informs describe resolve)
    {reads : List Read} {state : σ} {labels : List Label} {required : List ConstraintValue}
    (answered : ⟨.constraintValues labels, .ok required⟩ ∈ engine.transcript reads state) :
    required = labels.map resolve := by
  have resolved : ∀ exchange ∈ engine.transcript reads state, ∀ labels required,
      exchange = ⟨.constraintValues labels, .ok required⟩ → required = labels.map resolve := by
    apply Engine.forall_mem_transcript
    intro read state labels required same
    obtain ⟨rfl, answer⟩ := Exchange.mk.inj same
    have told := informs.constraintValues labels state
    rw [eq_of_heq answer] at told
    exact Except.ok.inj told
  exact resolved _ answered labels required rfl

/-- Screening is a conjunction of what the labels of a key require: told any values, it keeps the
candidates that carry all of them; labels may be split and reordered; and with two values of one
setting nothing is kept, and nothing can be selected on any engine unless a platform is forced. -/
theorem screen_conjoins {σ : Type} (engine : Engine σ) :
    (∀ (key : ResolutionKey) (inputs : ResolutionInputs) (session : Session σ)
        (describe : Label → Platform) (required : List ConstraintValue),
      ResolutionKey.Told engine key inputs session describe required →
        ∃ screening, (key.screen engine inputs session).1 = .ok screening ∧
          screening.Divides describe required inputs.candidates ∧
          (¬Consistent required →
            screening.kept = [] ∧ screening.skipped.map Prod.fst = inputs.candidates)) ∧
    (∀ describe resolve, engine.Informs describe resolve →
      ∀ (first second both : ResolutionKey) (inputs : ResolutionInputs)
        (oneSession twoSession allSession laterSession : Session σ),
        both.executionConstraints.Perm
            (first.executionConstraints ++ second.executionConstraints) →
          ∃ one two all later, (first.screen engine inputs oneSession).1 = .ok one ∧
            (second.screen engine inputs twoSession).1 = .ok two ∧
            (both.screen engine inputs allSession).1 = .ok all ∧
            all.kept = one.kept.filter (· ∈ two.kept) ∧
            (second.screen engine { inputs with candidates := one.kept } laterSession).1 =
              .ok later ∧
            later.kept = all.kept) ∧
    ∀ (key : ResolutionKey) (state : σ), key.forcedPlatform = none →
      key.executionConstraints ≠ [] →
      (∀ required, ⟨.constraintValues key.executionConstraints, .ok required⟩ ∈
          engine.transcript (engine.attempt key state).1.reads state → ¬Consistent required) →
      ∀ resolution, (engine.attempt key state).1.outcome ≠ .ok resolution := by
  refine ⟨?_, ?_, ?_⟩
  · intro key inputs session describe required told
    obtain ⟨screening, screened, divides⟩ := told.exists_screening
    exact ⟨screening, screened, divides, divides.drops_all⟩
  · intro describe resolve informs first second both inputs oneSession twoSession allSession
      laterSession labels
    have values := labels.map resolve
    rw [List.map_append] at values
    obtain ⟨one, oneScreened, oneDivides⟩ := (informs.told first inputs oneSession).exists_screening
    obtain ⟨two, twoScreened, twoDivides⟩ :=
      (informs.told second inputs twoSession).exists_screening
    obtain ⟨all, allScreened, allDivides⟩ := (informs.told both inputs allSession).exists_screening
    obtain ⟨later, laterScreened, laterDivides⟩ :=
      (informs.told second { inputs with candidates := one.kept } laterSession).exists_screening
    exact ⟨one, two, all, later, oneScreened, twoScreened, allScreened,
      allDivides.kept_append oneDivides twoDivides values, laterScreened,
      allDivides.kept_again oneDivides laterDivides values⟩
  · intro key state unforced constrained clash
    exact (engine.attempt_course key state).1.not_ready_of_clash unforced constrained clash

namespace Supply

def resolvingEngine (supply : Supply) (resolve : Label → ConstraintValue) : Engine Unit where
  answer
    | .constraintValues labels, _ => (.ok (labels.map resolve), ())
    | read, state => supply.engine.answer read state

theorem informs_resolvingEngine (supply : Supply) (resolve : Label → ConstraintValue) :
    (supply.resolvingEngine resolve).Informs supply.describe resolve := by
  constructor
  · rintro labels ⟨⟩
    exact supply.answers_engine (.platforms labels)
  · rintro labels ⟨⟩
    rfl

end Supply

def valueOfPackage (label : Label) : ConstraintValue := ⟨label, ⟨"", label.package, label.package⟩⟩

def x86 : ConstraintValue := valueOfPackage ⟨"", "cpu", "x86"⟩

def fleet : Supply :=
  { mixedSupply with
    describe := fun label => {
      label := label
      constraints :=
        if label.name = "mac" then .single x86
        else if label.name = "remote" then ⟨[x86, ConstraintCollection.linux], by decide⟩
        else if label.name = "local" then .single ConstraintCollection.linux
        else .empty }
    label_describe := fun _ => rfl }

def fleetEngine : Engine Unit := fleet.resolvingEngine valueOfPackage

def mixedKeyWith (labels : List Label) : ResolutionKey :=
  { mixedKey with executionConstraints := labels }

theorem screen_conjoins_fleet :
    let inputs := fleet.inputs mixedKey
    let session : Session Unit := { state := () }
    let linux : Label := ⟨"", "os", "linux"⟩
    let cpu : Label := ⟨"", "cpu", "x86"⟩
    let clashing := mixedKeyWith [linux, cpu, ⟨"", "os", "macos"⟩]
    (ResolutionKey.Told fleetEngine (mixedKeyWith [linux, cpu]) inputs session fleet.describe
        [ConstraintCollection.linux, x86] ∧
      ∃ screening, ((mixedKeyWith [linux, cpu]).screen fleetEngine inputs session).1 =
          .ok screening ∧
        screening.kept = [⟨"", "platforms", "remote"⟩, ⟨"", "platforms", "remote"⟩] ∧
        screening.skipped = [
          (⟨"", "platforms", "mac"⟩, .missingConstraints [ConstraintCollection.linux]),
          (⟨"", "platforms", "host"⟩, .missingConstraints [ConstraintCollection.linux, x86]),
          (⟨"", "platforms", "local"⟩, .missingConstraints [x86])]) ∧
    (fleetEngine.Informs fleet.describe valueOfPackage ∧
      (mixedKeyWith [cpu, linux]).executionConstraints.Perm
        ((mixedKeyWith [linux]).executionConstraints ++
          (mixedKeyWith [cpu]).executionConstraints) ∧
      ∃ one all, ((mixedKeyWith [linux]).screen fleetEngine inputs session).1 = .ok one ∧
        ((mixedKeyWith [cpu, linux]).screen fleetEngine inputs session).1 = .ok all ∧
        ∃ later, ((mixedKeyWith [cpu]).screen fleetEngine { inputs with candidates := one.kept }
          session).1 = .ok later ∧ later.kept = all.kept) ∧
    clashing.forcedPlatform = none ∧ clashing.executionConstraints ≠ [] ∧
      (∀ required, ⟨.constraintValues clashing.executionConstraints, .ok required⟩ ∈
          fleetEngine.transcript (fleetEngine.attempt clashing ()).1.reads () →
        ¬Consistent required) ∧
      ∀ resolution, (fleetEngine.attempt clashing ()).1.outcome ≠ .ok resolution := by
  intro inputs session linux cpu clashing
  obtain ⟨screens, splits, unready⟩ := screen_conjoins fleetEngine
  have informs : fleetEngine.Informs fleet.describe valueOfPackage :=
    fleet.informs_resolvingEngine valueOfPackage
  have told := informs.told (mixedKeyWith [linux, cpu]) inputs session
  have swapped : (mixedKeyWith [cpu, linux]).executionConstraints.Perm
      ((mixedKeyWith [linux]).executionConstraints ++
        (mixedKeyWith [cpu]).executionConstraints) := .swap linux cpu []
  have clash : ∀ required, ⟨.constraintValues clashing.executionConstraints, .ok required⟩ ∈
      fleetEngine.transcript (fleetEngine.attempt clashing ()).1.reads () →
        ¬Consistent required := by
    intro required answered
    rw [informs.resolved answered]
    decide
  refine ⟨⟨told, ?_⟩, ⟨informs, swapped, ?_⟩, rfl, List.cons_ne_nil _ _, clash,
    unready clashing () rfl (List.cons_ne_nil _ _) clash⟩
  · obtain ⟨screening, screened, divides, _⟩ := screens _ inputs session fleet.describe _ told
    exact ⟨screening, screened, divides.kept.trans (by decide +kernel),
      divides.skipped.trans (by decide +kernel)⟩
  · obtain ⟨one, two, all, later, oneScreened, _, allScreened, _, laterScreened, same⟩ :=
      splits fleet.describe valueOfPackage informs (mixedKeyWith [linux]) (mixedKeyWith [cpu])
        (mixedKeyWith [cpu, linux]) inputs session session session session swapped
    exact ⟨one, all, oneScreened, allScreened, later, laterScreened, same⟩

end CrossBuild
