import CrossBuild.Proofs.PatternRules

/-!
What a filter means in terms of its parts, which are compiled together.  The engine is any that
goes by the rules of `PatternEngine.Regular`.  A part that can stand in a group matches there what
it matches alone.
-/

namespace CrossBuild

namespace CompiledPattern

def offer : List CompiledPattern → CompiledPattern
  | [] => ⟨[], fun _ => false⟩
  | [only] => only
  | first :: second :: others => first.or (offer (second :: others))

theorem mem_names_offer {name : String} : ∀ {patterns : List CompiledPattern},
    name ∈ (offer patterns).names ↔ ∃ pattern ∈ patterns, name ∈ pattern.names
  | [] => by simp [offer]
  | [only] => by simp [offer]
  | first :: second :: others => by
      rw [offer, or, List.mem_append, mem_names_offer,
        List.exists_mem_cons_iff (fun pattern => name ∈ pattern.names) first]

theorem disjoint_names_offer {names : List String} {patterns : List CompiledPattern} :
    names.Disjoint (offer patterns).names ↔
      ∀ pattern ∈ patterns, names.Disjoint pattern.names := by
  simp only [List.Disjoint, mem_names_offer]
  constructor
  · intro apart pattern member name inNames inPattern
    exact apart inNames ⟨pattern, member, inPattern⟩
  · rintro apart name inNames ⟨pattern, member, inPattern⟩
    exact apart pattern member inNames inPattern

theorem isMatch_offer (text : String) : ∀ patterns : List CompiledPattern,
    (offer patterns).isMatch text = patterns.any fun pattern => pattern.isMatch text
  | [] => rfl
  | [only] => by simp [offer]
  | first :: second :: others => by
      rw [offer, List.any_cons, ← isMatch_offer text (second :: others)]
      rfl

end CompiledPattern

namespace DebugFilter

variable {engine : PatternEngine} {part : List Char} {patterns : List (List Char)}

/-- A part of a filter that is a pattern, and does not end in a comment that leaves its group
open. -/
structure Sound (engine : PatternEngine) (part : List Char) : Prop where
  valid : ∃ compiled, engine.compile (String.ofList part) = .ok compiled
  closes : '#' ∈ part → ∃ inner, engine.read (grouped part) = .ok inner

def Matches (engine : PatternEngine) (part : List Char) (text : String) : Prop :=
  ∃ compiled, engine.compile (String.ofList part) = .ok compiled ∧ compiled.isMatch text = true

/-- Whether a text is selected by the parts of a filter: by one inclusion, if there is any, and by
no exclusion. -/
structure Selects (engine : PatternEngine) (filter text : String) : Prop where
  present : parts filter ≠ []
  included : inclusions filter = [] ∨ ∃ part ∈ inclusions filter, Matches engine part text
  notExcluded : ∀ part ∈ exclusions filter, ¬Matches engine part text

def texts (labels : List Label) : List String :=
  if labels.isEmpty then [""] else labels.map toString

def meaning (engine : PatternEngine) (part : List Char) : CompiledPattern :=
  (engine.read (String.ofList part)).toOption.getD ⟨[], fun _ => false⟩

theorem read_of_compile {text : String} {compiled : CompiledPattern}
    (made : engine.compile text = .ok compiled) : engine.read text = .ok compiled := by
  unfold PatternEngine.compile at made
  cases read : engine.read text with
  | error reason =>
      rw [read] at made
      cases made
  | ok pattern =>
      rw [read] at made
      simp only [bind, Except.bind] at made
      split at made
      · cases made
      · exact made

theorem compile_of_read {text : String} {compiled : CompiledPattern}
    (read : engine.read text = .ok compiled) :
    engine.compile text = (engine.overrun? text).elim (.ok compiled) .error := by
  rw [PatternEngine.compile, read]
  cases exceeded : engine.overrun? text <;> simp [bind, Except.bind]

namespace Sound

theorem compile_eq (sound : Sound engine part) :
    engine.compile (String.ofList part) = .ok (meaning engine part) := by
  obtain ⟨compiled, made⟩ := sound.valid
  rw [meaning, read_of_compile made]
  exact made

theorem read_eq (sound : Sound engine part) :
    engine.read (String.ofList part) = .ok (meaning engine part) :=
  read_of_compile sound.compile_eq

theorem read_grouped (regular : engine.Regular) (sound : Sound engine part) :
    engine.read (grouped part) = .ok (meaning engine part) := by
  have inner : ∃ inner, engine.read (grouped part) = .ok inner := by
    by_cases hash : '#' ∈ part
    · exact sound.closes hash
    · exact regular.closes sound.read_eq hash
  obtain ⟨inner, read⟩ := inner
  rw [read, regular.group sound.read_eq read]

theorem matches_iff (sound : Sound engine part) (text : String) :
    Matches engine part text ↔ (meaning engine part).isMatch text = true := by
  rw [Matches, sound.compile_eq]
  constructor
  · rintro ⟨compiled, same, found⟩
    cases same
    exact found
  · intro found
    exact ⟨_, rfl, found⟩

end Sound

def Apart (engine : PatternEngine) (patterns : List (List Char)) : Prop :=
  patterns.Pairwise fun one two => (meaning engine one).names.Disjoint (meaning engine two).names

theorem joined_cons_cons (first second : List Char) (patterns : List (List Char)) :
    joined (first :: second :: patterns) =
      grouped first ++ "|" ++ joined (second :: patterns) := by
  simp [joined, String.intercalate_cons_cons]

/-- Parts that can stand in groups are read together if their captures have different names, and
then they mean what one of them means. -/
theorem read_joined (regular : engine.Regular) (nonempty : patterns ≠ [])
    (sound : ∀ part ∈ patterns, Sound engine part) (whole : CompiledPattern) :
    engine.read (joined patterns) = .ok whole ↔
      Apart engine patterns ∧ whole = .offer (patterns.map (meaning engine)) := by
  induction patterns generalizing whole with
  | nil => exact absurd rfl nonempty
  | cons first others ih =>
      rw [List.forall_mem_cons] at sound
      obtain ⟨own, later⟩ := sound
      have inGroup := own.read_grouped regular
      cases others with
      | nil =>
          have single : joined [first] = grouped first := by simp [joined]
          rw [single, inGroup]
          simp [Apart, CompiledPattern.offer, eq_comm]
      | cons second others =>
          have rest := ih (List.cons_ne_nil _ _) later
          have separate : (meaning engine first).names.Disjoint
                (CompiledPattern.offer ((second :: others).map (meaning engine))).names ↔
              ∀ other ∈ second :: others,
                (meaning engine first).names.Disjoint (meaning engine other).names := by
            rw [CompiledPattern.disjoint_names_offer, List.forall_mem_map]
          rw [joined_cons_cons, regular.alternative own.read_eq inGroup, Apart, List.pairwise_cons,
            ← separate]
          simp only [rest]
          constructor
          · rintro ⟨_, ⟨apart, rfl⟩, disjoint, rfl⟩
            exact ⟨⟨disjoint, apart⟩, rfl⟩
          · rintro ⟨⟨disjoint, apart⟩, rfl⟩
            exact ⟨_, ⟨apart, rfl⟩, disjoint, rfl⟩

/-- The parts make one pattern: they share no name of captures, and the text that joins them is
within the limits. -/
structure Joins (engine : PatternEngine) (patterns : List (List Char)) : Prop where
  apart : Apart engine patterns
  within : patterns ≠ [] → engine.overrun? (joined patterns) = none

/-- Why parts do not make one pattern. -/
inductive Clash (engine : PatternEngine) (patterns : List (List Char)) (reason : String) : Prop
  | shared {one two : List Char} {name : String} (pair : [one, two].Sublist patterns)
      (inOne : name ∈ (meaning engine one).names) (inTwo : name ∈ (meaning engine two).names)
      (refused : engine.read (joined patterns) = .error reason)
  | overrun (exceeded : engine.overrun? (joined patterns) = some reason)

inductive Compiles (engine : PatternEngine) (filter : String) (patterns : List (List Char)) :
    Except DebugFilterError (Option CompiledPattern) → Prop
  | none (empty : patterns = []) : Compiles engine filter patterns (.ok none)
  | some {pattern : CompiledPattern} (nonempty : patterns ≠ []) (joins : Joins engine patterns)
      (matches_iff : ∀ text,
        pattern.isMatch text = true ↔ ∃ part ∈ patterns, Matches engine part text) :
      Compiles engine filter patterns (.ok (some pattern))
  | error {reason : String} (apart : ¬Joins engine patterns)
      (clash : Clash engine patterns reason) :
      Compiles engine filter patterns (.error ⟨filter, reason⟩)

theorem clash_of_not_apart {reason : String} (shared : ¬Apart engine patterns)
    (refused : engine.read (joined patterns) = .error reason) : Clash engine patterns reason := by
  simp only [Apart, List.pairwise_iff_forall_sublist, Classical.not_forall] at shared
  obtain ⟨one, two, pair, common⟩ := shared
  simp only [List.Disjoint, Classical.not_forall] at common
  obtain ⟨name, inOne, inTwo, -⟩ := common
  exact .shared pair inOne inTwo refused

theorem isMatch_offer_meaning (sound : ∀ part ∈ patterns, Sound engine part) (text : String) :
    (CompiledPattern.offer (patterns.map (meaning engine))).isMatch text = true ↔
      ∃ part ∈ patterns, Matches engine part text := by
  rw [CompiledPattern.isMatch_offer, List.any_map, List.any_eq_true]
  exact exists_congr fun part => and_congr_right fun member =>
    ((sound part member).matches_iff text).symm

theorem compiles_compile (regular : engine.Regular) (filter : String)
    (sound : ∀ part ∈ patterns, Sound engine part) :
    Compiles engine filter patterns (compile engine filter patterns) := by
  by_cases empty : patterns = []
  · subst empty
    exact .none rfl
  · have notEmpty : patterns.isEmpty = false := by simpa using empty
    have reads := read_joined regular empty sound
    rw [compile, notEmpty]
    cases read : engine.read (joined patterns) with
    | error reason =>
        have shared : ¬Apart engine patterns := by
          intro apart
          have accepted := (reads _).mpr ⟨apart, rfl⟩
          rw [read] at accepted
          cases accepted
        rw [PatternEngine.compile, read]
        exact .error (fun joins => shared joins.apart) (clash_of_not_apart shared read)
    | ok whole =>
        obtain ⟨apart, rfl⟩ := (reads whole).mp read
        rw [compile_of_read read]
        cases exceeded : engine.overrun? (joined patterns) with
        | none =>
            exact .some empty ⟨apart, fun _ => exceeded⟩ (isMatch_offer_meaning sound)
        | some reason =>
            refine .error (fun joins => ?_) (.overrun exceeded)
            rw [joins.within empty] at exceeded
            cases exceeded

/-- What follows from the parts of a filter. -/
structure Follows (engine : PatternEngine) (filter : String)
    (result : Except DebugFilterError DebugFilter) : Prop where
  succeeds : (∃ compiled, result = .ok compiled) ↔
    Joins engine (inclusions filter) ∧ Joins engine (exclusions filter)
  selects : ∀ compiled, result = .ok compiled → ∀ labels,
    compiled.matchesAny labels = true ↔ ∃ text ∈ texts labels, Selects engine filter text
  refuses : ∀ error, result = .error error → error.filter = filter ∧
    (Clash engine (inclusions filter) error.reason ∨ Clash engine (exclusions filter) error.reason)

theorem joins_nil : Joins engine [] := ⟨.nil, fun nonempty => absurd rfl nonempty⟩

theorem matchesAny_iff (compiled : DebugFilter) (labels : List Label) :
    compiled.matchesAny labels = true ↔ ∃ text ∈ texts labels, compiled.includes text = true := by
  unfold matchesAny texts
  split <;> simp

section Compiles

variable {filter : String} {compiled : Option CompiledPattern}
  (compiles : Compiles engine filter patterns (.ok compiled))

include compiles

theorem Compiles.joins : Joins engine patterns := by
  cases compiles with
  | none empty => exact empty ▸ joins_nil
  | some _ joins _ => exact joins

theorem Compiles.isSome_iff : compiled.isSome = true ↔ patterns ≠ [] := by
  cases compiles with
  | none empty => simp [empty]
  | some nonempty _ _ => simp [nonempty]

theorem Compiles.any_iff (text : String) :
    compiled.any (fun pattern => pattern.isMatch text) = true ↔
      ∃ part ∈ patterns, Matches engine part text := by
  cases compiles with
  | none empty => simp [empty]
  | some _ _ found => simpa using found text

theorem Compiles.all_iff (text : String) :
    compiled.all (fun pattern => pattern.isMatch text) = true ↔
      patterns = [] ∨ ∃ part ∈ patterns, Matches engine part text := by
  cases compiles with
  | none empty => simp [empty]
  | some nonempty _ found => simpa [nonempty] using found text

end Compiles

theorem parts_eq_nil_iff (filter : String) :
    parts filter = [] ↔ inclusions filter = [] ∧ exclusions filter = [] := by
  simp only [inclusions, exclusions, List.map_eq_nil_iff, List.filter_eq_nil_iff]
  constructor
  · intro none
    simp [none]
  · rintro ⟨allExcluded, noneExcluded⟩
    rw [List.eq_nil_iff_forall_not_mem]
    intro part member
    have excluded := allExcluded part member
    have included := noneExcluded part member
    simp_all

theorem includes_iff {filter : String} {inclusion exclusion : Option CompiledPattern}
    (included : Compiles engine filter (inclusions filter) (.ok inclusion))
    (excluded : Compiles engine filter (exclusions filter) (.ok exclusion)) (text : String) :
    includes ⟨inclusion, exclusion⟩ text = true ↔ Selects engine filter text := by
  have enabled : isEnabled ⟨inclusion, exclusion⟩ = true ↔ parts filter ≠ [] := by
    rw [isEnabled, Bool.or_eq_true, included.isSome_iff, excluded.isSome_iff, ne_eq, ne_eq, ne_eq,
      parts_eq_nil_iff, not_and_or]
  have clear : (!exclusion.any fun pattern => pattern.isMatch text) = true ↔
      ∀ part ∈ exclusions filter, ¬Matches engine part text := by
    rw [Bool.not_eq_true', ← Bool.not_eq_true, excluded.any_iff]
    simp
  rw [includes, Bool.and_eq_true, Bool.and_eq_true, enabled, included.all_iff, clear]
  exact ⟨fun ⟨⟨present, included⟩, notExcluded⟩ => ⟨present, included, notExcluded⟩,
    fun selects => ⟨⟨selects.present, selects.included⟩, selects.notExcluded⟩⟩

theorem Follows.of_clash {filter : String} {reason : String}
    (apart : ¬(Joins engine (inclusions filter) ∧ Joins engine (exclusions filter)))
    (clash : Clash engine (inclusions filter) reason ∨ Clash engine (exclusions filter) reason) :
    Follows engine filter (.error ⟨filter, reason⟩) where
  succeeds := ⟨nofun, fun joins => absurd joins apart⟩
  selects := nofun
  refuses := by
    rintro error same
    cases same
    exact ⟨rfl, clash⟩

theorem follows_parse (regular : engine.Regular) (filter : String)
    (sound : ∀ part ∈ inclusions filter ++ exclusions filter, Sound engine part) :
    Follows engine filter (parse engine filter) := by
  rw [List.forall_mem_append] at sound
  have included := compiles_compile regular filter sound.1
  have excluded := compiles_compile regular filter sound.2
  unfold parse
  cases inclusion : compile engine filter (inclusions filter) with
  | error refusal =>
      rw [inclusion] at included
      cases included with
      | error apart clash => exact .of_clash (fun joins => apart joins.1) (.inl clash)
  | ok inclusion =>
      rw [inclusion] at included
      cases exclusion : compile engine filter (exclusions filter) with
      | error refusal =>
          rw [exclusion] at excluded
          cases excluded with
          | error apart clash => exact .of_clash (fun joins => apart joins.2) (.inr clash)
      | ok exclusion =>
          rw [exclusion] at excluded
          refine ⟨⟨fun _ => ⟨included.joins, excluded.joins⟩, fun _ => ⟨_, rfl⟩⟩, ?_, nofun⟩
          intro compiled same labels
          cases same
          rw [matchesAny_iff]
          exact exists_congr fun text => and_congr_right fun _ =>
            includes_iff included excluded text

section Order

variable {filter other : String} (same : (parts other).Perm (parts filter))

include same

theorem inclusions_perm : (inclusions other).Perm (inclusions filter) := same.filter _

theorem exclusions_perm : (exclusions other).Perm (exclusions filter) := (same.filter _).map _

theorem Selects.of_perm {text : String} (selects : Selects engine filter text) :
    Selects engine other text where
  present := fun none => selects.present (by simpa [none] using same)
  included := selects.included.imp
    (fun none => by simpa [none] using inclusions_perm same)
    fun ⟨part, member, found⟩ => ⟨part, (inclusions_perm same).mem_iff.mpr member, found⟩
  notExcluded part member := selects.notExcluded part ((exclusions_perm same).mem_iff.mp member)

end Order

/-- Whether two filters agree.  Only the limits of the engine can depend on the order of the
parts. -/
structure Agree (engine : PatternEngine) (other : String)
    (result otherResult : Except DebugFilterError DebugFilter) : Prop where
  answers : ∀ one two, result = .ok one → otherResult = .ok two →
    ∀ labels, one.matchesAny labels = two.matchesAny labels
  refuses : ∀ one error, result = .ok one → otherResult = .error error →
    engine.overrun? (joined (inclusions other)) = some error.reason ∨
      engine.overrun? (joined (exclusions other)) = some error.reason

theorem Apart.of_perm {others : List (List Char)} (apart : Apart engine patterns)
    (same : others.Perm patterns) : Apart engine others :=
  apart.perm same.symm List.disjoint_symm

theorem Joins.overrun_of_clash {others : List (List Char)} {reason : String}
    (joins : Joins engine patterns) (same : others.Perm patterns)
    (clash : Clash engine others reason) : engine.overrun? (joined others) = some reason := by
  cases clash with
  | shared pair inOne inTwo _ =>
      have apart := joins.apart.of_perm same
      exact absurd inTwo (List.pairwise_iff_forall_sublist.mp apart pair inOne)
  | overrun exceeded => exact exceeded

theorem Follows.agree {filter other : String}
    {result otherResult : Except DebugFilterError DebugFilter}
    (follows : Follows engine filter result) (otherFollows : Follows engine other otherResult)
    (same : (parts other).Perm (parts filter)) : Agree engine other result otherResult where
  answers one two isOne isTwo labels := by
    rw [Bool.eq_iff_iff, follows.selects one isOne, otherFollows.selects two isTwo]
    exact exists_congr fun text => and_congr_right fun _ =>
      ⟨fun selects => selects.of_perm same, fun selects => selects.of_perm same.symm⟩
  refuses one error isOne isError := by
    obtain ⟨included, excluded⟩ := follows.succeeds.mp ⟨one, isOne⟩
    exact (otherFollows.refuses error isError).2.imp
      (included.overrun_of_clash (inclusions_perm same))
      (excluded.overrun_of_clash (exclusions_perm same))

/-- A filter whose parts are patterns that can stand in a group means what its parts mean, in any
order. -/
theorem parts_decide (regular : engine.Regular) (filter : String)
    (sound : ∀ part ∈ inclusions filter ++ exclusions filter, Sound engine part) :
    Follows engine filter (parse engine filter) ∧
      ∀ other, (parts other).Perm (parts filter) →
        Agree engine other (parse engine filter) (parse engine other) := by
  have follows := follows_parse regular filter sound
  refine ⟨follows, fun other same => follows.agree (follows_parse regular other ?_) same⟩
  have members := (inclusions_perm same).append (exclusions_perm same)
  exact fun part member => sound part (members.mem_iff.mp member)

theorem sound_of_isOk (valid : (engine.compile (String.ofList part)).isOk = true)
    (closes : (engine.read (grouped part)).isOk = true) : Sound engine part where
  valid := by
    cases made : engine.compile (String.ofList part) with
    | error reason =>
        rw [made] at valid
        cases valid
    | ok compiled => exact ⟨compiled, rfl⟩
  closes _ := by
    cases read : engine.read (grouped part) with
    | error reason =>
        rw [read] at closes
        cases closes
    | ok inner => exact ⟨inner, rfl⟩

def mixedFilter : String := "(?x) cpp # C\n | (?P<kind> go ),-(?P<kind>java)$"

theorem parts_decide_mixedFilter :
    Pattern.engine.Regular ∧
      (∀ part ∈ inclusions mixedFilter ++ exclusions mixedFilter, Sound Pattern.engine part) ∧
      (parse Pattern.engine mixedFilter).isOk = true ∧
      Follows Pattern.engine mixedFilter (parse Pattern.engine mixedFilter) ∧
      Agree Pattern.engine "-(?P<kind>java)$,,(?x) cpp # C\n | (?P<kind> go )"
        (parse Pattern.engine mixedFilter)
        (parse Pattern.engine "-(?P<kind>java)$,,(?x) cpp # C\n | (?P<kind> go )") := by
  have checked : ∀ part ∈ inclusions mixedFilter ++ exclusions mixedFilter,
      (Pattern.engine.compile (String.ofList part)).isOk = true ∧
        (Pattern.engine.read (grouped part)).isOk = true := by
    decide +kernel
  have sound : ∀ part ∈ inclusions mixedFilter ++ exclusions mixedFilter,
      Sound Pattern.engine part :=
    fun part member => sound_of_isOk (checked part member).1 (checked part member).2
  have decided := parts_decide Pattern.regular_engine mixedFilter sound
  exact ⟨Pattern.regular_engine, sound, by decide +kernel, decided.1,
    decided.2 _ (by decide +kernel)⟩

/-- The comment at the end of a part makes the parenthesis that closes its group part of itself. -/
theorem parse_comment_unclosed :
    (∀ part ∈ inclusions "(?x)cpp#" ++ exclusions "(?x)cpp#",
        (Pattern.engine.compile (String.ofList part)).isOk = true) ∧
      parse Pattern.engine "(?x)cpp#" = .error ⟨"(?x)cpp#", "unclosed group"⟩ :=
  ⟨by decide +kernel, rfl⟩

end DebugFilter

end CrossBuild
