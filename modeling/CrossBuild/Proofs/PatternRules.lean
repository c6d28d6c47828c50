import CrossBuild.Proofs.GroupReading

/-!
The rules of patterns that filters depend on, as a condition on engines.  The patterns of this
library obey them.
-/

namespace CrossBuild

def CompiledPattern.or (first second : CompiledPattern) : CompiledPattern where
  names := first.names ++ second.names
  isMatch text := first.isMatch text || second.isMatch text

open DebugFilter (grouped)

/-- The rules of patterns that an engine goes by, as far as filters depend on them. -/
structure PatternEngine.Regular (engine : PatternEngine) : Prop where
  /-- A group that is no capture means what the pattern in it means. -/
  group : ∀ {pattern compiled inner}, engine.read (String.ofList pattern) = .ok compiled →
    engine.read (grouped pattern) = .ok inner → inner = compiled
  /-- Nothing but a comment can hide the parenthesis that closes a group. -/
  closes : ∀ {pattern compiled}, engine.read (String.ofList pattern) = .ok compiled →
    '#' ∉ pattern → ∃ inner, engine.read (grouped pattern) = .ok inner
  /-- A group can be followed by any pattern that gives its captures other names; the alternatives
  match what one of them matches. -/
  alternative : ∀ {pattern compiled inner}, engine.read (String.ofList pattern) = .ok compiled →
    engine.read (grouped pattern) = .ok inner → ∀ rest whole,
      engine.read (grouped pattern ++ "|" ++ rest) = .ok whole ↔
        ∃ others, engine.read rest = .ok others ∧ compiled.names.Disjoint others.names ∧
          whole = compiled.or others

namespace Pattern

def inside : Frame := ⟨[], [Reading.initial.group], 0, []⟩

def Reading.ofText (text : List Char) : Reading :=
  (Reading.initial.readOn text).toOption.getD Reading.initial

def inGroup (text : List Char) : List Char := '(' :: '?' :: ':' :: (text ++ [')'])

structure Stands (text : List Char) : Prop where
  reads : Reading.initial.readOn text = .ok (.ofText text)
  closed : (Reading.ofText text).outer = []
  stays : ∀ frame : Frame, (Reading.ofText text).names.Disjoint frame.names → ∀ more,
    (frame.within .initial).readOn (text ++ ')' :: more) =
      (frame.within (.ofText text)).readOn (')' :: more)

def alternative (text : List Char) : Piece :=
  let whole := (Reading.ofText text).group.close
  ⟨whole.pattern, 1 + whole.depth⟩

namespace Reading

def ofGroup (text : List Char) : Reading :=
  { ofText text with
    group := initial.group.addItem (.piece (alternative text))
    outer := []
    flags := {} }

theorem readOn_opening (text : List Char) :
    initial.readOn ('(' :: '?' :: ':' :: text) = (inside.within initial).readOn text :=
  @readOn_of_token initial ('(' :: '?' :: ':' :: text) ('?' :: ':' :: text) text '('
    (.openGroup []) rfl rfl

theorem ground_initial : initial.ground = (none, {}) := rfl

theorem closeGroup_inside {text : List Char} (stands : Stands text) :
    (inside.within (ofText text)).closeGroup = .ok (ofGroup text) := by
  have ground : (ofText text).ground = (none, {}) :=
    (reads_of_readOn stands.reads).ground_eq.trans ground_initial
  simp only [Reading.ground, stands.closed, List.getLastD_nil, Prod.mk.injEq] at ground
  have same : inside.place (ofText text).group [] = (ofText text).group.renumber 0 := by
    simp [Frame.place, inside]
  have whole : (inside.place (ofText text).group []).closed = alternative text := by
    rw [same, Group.closed_renumber, Group.closed, ground.1, Piece.renumber, renumber_zero]
    rfl
  have flags : (inside.place (ofText text).group []).outerFlags = {} := by
    rw [same]
    exact ground.2
  rw [closeGroup, Frame.within, stands.closed]
  simp only [Frame.stack, inside, Nat.zero_add, List.append_nil]
  rw [← inside, whole, flags]
  rfl

theorem readOn_inGroup {text : List Char} (stands : Stands text) (more : List Char) :
    initial.readOn (inGroup text ++ more) = (ofGroup text).readOn more := by
  have same : inGroup text ++ more = '(' :: '?' :: ':' :: (text ++ ')' :: more) := by
    simp [inGroup]
  rw [same, readOn_opening, stands.stays inside (List.disjoint_nil_right _),
    readOn_closing (Flags.skip_closing _ more), closeGroup_inside stands]
  rfl

/-- A text that is a pattern stands within a group of any pattern, unless a comment at its end
leaves its group open. -/
theorem stands_of_readOn {text : List Char} {reading : Reading}
    (read : initial.readOn text = .ok reading) (closed : reading.outer = [])
    (closes : '#' ∈ text → ∃ last, initial.readOn (inGroup text) = .ok last ∧ last.outer = []) :
    Stands text := by
  have own : ofText text = reading := by
    rw [ofText, read]
    rfl
  refine ⟨own ▸ read, own ▸ closed, ?_⟩
  rw [own]
  refine (reads_of_readOn read).within.resolve_right fun ⟨hash, passes⟩ => ?_
  obtain ⟨last, inGroup, ended⟩ := closes hash
  rw [Pattern.inGroup, readOn_opening, passes inside (List.disjoint_nil_right _)] at inGroup
  cases inGroup
  simp [Frame.within, closed, Frame.stack, inside] at ended

end Reading

def after (text : List Char) : Frame where
  earlier := [alternative text]
  outer := []
  captures := (Reading.ofText text).captures
  names := (Reading.ofText text).names

namespace Reading

theorem readOn_alternative {text : List Char} (stands : Stands text) (rest : List Char) :
    initial.readOn (inGroup text ++ '|' :: rest) = ((after text).within initial).readOn rest := by
  rw [readOn_inGroup stands]
  have added : (ofGroup text).add .alternative = .ok ((after text).within initial) := by
    simp [add, ofGroup, Frame.within, Frame.stack, after, initial]
    rfl
  rw [@readOn_of_token (ofGroup text) ('|' :: rest) rest rest '|' .alternative rfl rfl, added]
  rfl

variable {frame : Frame} {reading : Reading}

theorem add_within_error {token : Token} {reason : PatternError} (lowest : frame.outer = [])
    (refused : reading.add token = .error reason) :
    ∃ reason, (frame.within reading).add token = .error reason := by
  cases token with
  | openCapture name =>
      simp only [add, openCapture] at refused
      split at refused
      · rename_i used found
        obtain ⟨rfl, inUse⟩ := Option.filter_eq_some_iff.mp found
        have inWhole : (some used).filter (frame.within reading).names.contains = some used := by
          simp_all [Frame.within]
        exact ⟨_, by rw [add, openCapture, inWhole]⟩
      · cases refused
  | closeGroup =>
      simp only [add, closeGroup] at refused
      split at refused
      · rename_i same
        exact ⟨_, by rw [add, closeGroup, Frame.within, same, Frame.stack, lowest]⟩
      · cases refused
  | repetition least most greedy =>
      simp only [add] at refused
      cases repeats : reading.group.repeatLast least most greedy with
      | error reason =>
          refine ⟨reason, ?_⟩
          simp only [add, Frame.within, Frame.repeatLast_place, repeats]
          rfl
      | ok group =>
          rw [repeats] at refused
          cases refused
  | expression | openGroup | setFlags | alternative => cases refused

theorem add_within_iff {token : Token} (lowest : frame.outer = []) (plain : token.Plain)
    (fresh : reading.names.Disjoint frame.names) (whole : Reading) :
    (frame.within reading).add token = .ok whole ↔
      ∃ next, reading.add token = .ok next ∧ next.names.Disjoint frame.names ∧
        whole = frame.within next := by
  cases added : reading.add token with
  | error reason =>
      obtain ⟨other, refused⟩ := add_within_error lowest added
      simp [refused]
  | ok next =>
      have named := names_of_add added
      by_cases apart : next.names.Disjoint frame.names
      · have unused : ∀ name, token = .openCapture (some name) → name ∉ frame.names := by
          rintro name rfl inUse
          rcases named with ⟨-, unnamed⟩ | ⟨_, same, names⟩
          · exact unnamed name rfl
          · cases same
            exact apart (by rw [names]; exact List.mem_cons_self) inUse
        rw [add_within plain unused added]
        simp [apart, eq_comm]
      · rcases named with ⟨same, -⟩ | ⟨name, rfl, names⟩
        · exact absurd (same ▸ fresh) apart
        · have inUse : name ∈ frame.names := by
            rw [names, List.disjoint_cons_left] at apart
            by_contra unused
            exact apart ⟨unused, fresh⟩
          rw [add_within_used inUse]
          simp [apart]

/-- A text is read in a longer pattern as it is read at the beginning, and it is refused where it
uses a name of what precedes it. -/
theorem run_within_iff (lowest : frame.outer = []) (fresh : reading.names.Disjoint frame.names)
    {fuel : Nat} {text : List Char} (enough : text.length ≤ fuel) (whole : Reading) :
    run fuel (frame.within reading) text = .ok whole ↔
      ∃ last, run fuel reading text = .ok last ∧ last.names.Disjoint frame.names ∧
        whole = frame.within last := by
  induction fuel generalizing reading text with
  | zero => simp [run, fresh, eq_comm]
  | succ fuel ih =>
      rw [run, run, show (frame.within reading).flags = reading.flags from rfl]
      split
      · simp [fresh, eq_comm]
      · rename_i first rest skipped
        cases taken : Token.read reading.flags first rest with
        | error reason => simp [bind, Except.bind]
        | ok outcome =>
            obtain ⟨token, left⟩ := outcome
            have shorter := length_after_lt skipped taken
            have within : left.length ≤ fuel := by omega
            have step := add_within_iff lowest (Token.plain_of_read taken) fresh
            change ((frame.within reading).add token >>= fun next => run fuel next left) = _ ↔
              ∃ last, (reading.add token >>= fun next => run fuel next left) = _ ∧ _
            simp only [bind_eq_ok_iff, step]
            -- Names in use stay in use, so that names that clash at this token clash at the end.
            constructor
            · rintro ⟨_, ⟨next, added, apart, rfl⟩, read⟩
              obtain ⟨last, read, apart, same⟩ := (ih apart within).mp read
              exact ⟨last, ⟨next, added, read⟩, apart, same⟩
            · rintro ⟨last, ⟨next, added, read⟩, apart, same⟩
              have freshNext : next.names.Disjoint frame.names := fun name used =>
                apart ((reads_of_run within read).names_subset used)
              exact ⟨_, ⟨next, added, freshNext, rfl⟩,
                (ih freshNext within).mpr ⟨last, read, apart, same⟩⟩

theorem readOn_within_iff (lowest : frame.outer = []) (text : List Char) (whole : Reading) :
    (frame.within initial).readOn text = .ok whole ↔
      ∃ last, initial.readOn text = .ok last ∧ last.names.Disjoint frame.names ∧
        whole = frame.within last :=
  run_within_iff lowest (List.disjoint_nil_left _) (Nat.le_refl _) whole

end Reading

theorem read_eq_ok_iff {text : List Char} {reading : Reading} :
    read text = .ok reading ↔
      Reading.initial.readOn text = .ok reading ∧ reading.outer = [] := by
  rw [read, bind_eq_ok_iff]
  constructor
  · rintro ⟨last, found, ended⟩
    split at ended
    · cases ended
    · rename_i closed
      cases ended
      exact ⟨found, closed⟩
  · rintro ⟨found, closed⟩
    exact ⟨reading, found, by rw [closed]⟩

theorem engine_read_iff {text : String} {compiled : CompiledPattern} :
    engine.read text = .ok compiled ↔
      ∃ reading, Reading.initial.readOn text.toList = .ok reading ∧ reading.outer = [] ∧
        compiled = reading.compiled := by
  simp only [← and_assoc, ← read_eq_ok_iff, engine]
  cases read text.toList with
  | error reason => simp
  | ok reading => simp [eq_comm]

theorem toList_grouped (text : List Char) : (grouped text).toList = inGroup text := by
  simp [grouped, inGroup]

theorem stands_of_read {text : List Char} {compiled : CompiledPattern}
    (read : engine.read (String.ofList text) = .ok compiled)
    (closes : '#' ∈ text → ∃ inner, engine.read (grouped text) = .ok inner) : Stands text := by
  obtain ⟨reading, own, closed, -⟩ := engine_read_iff.mp read
  rw [String.toList_ofList] at own
  refine Reading.stands_of_readOn own closed fun hash => ?_
  obtain ⟨inner, grouped⟩ := closes hash
  obtain ⟨last, inGroup, ended, -⟩ := engine_read_iff.mp grouped
  rw [toList_grouped] at inGroup
  exact ⟨last, inGroup, ended⟩

theorem Stands.compiled_eq {text : List Char} {compiled : CompiledPattern} (stands : Stands text)
    (read : engine.read (String.ofList text) = .ok compiled) :
    compiled = (Reading.ofText text).compiled := by
  obtain ⟨reading, own, -, rfl⟩ := engine_read_iff.mp read
  rw [String.toList_ofList, stands.reads] at own
  cases own
  rfl

theorem Stands.read_grouped {text : List Char} (stands : Stands text) :
    engine.read (grouped text) = .ok (Reading.ofText text).compiled := by
  refine engine_read_iff.mpr ⟨.ofGroup text, ?_, rfl, rfl⟩
  rw [toList_grouped, ← List.append_nil (inGroup text), Reading.readOn_inGroup stands]
  rfl

theorem isMatch_offer : ∀ {pieces : List Piece}, pieces ≠ [] → ∀ text : String,
    (Group.offer pieces).pattern.isMatch text =
      pieces.any fun piece => piece.pattern.isMatch text
  | [], nonempty, _ => absurd rfl nonempty
  | [only], _, text => by simp [Group.offer]
  | first :: second :: pieces, _, text => by
      rw [Group.offer_of_two_le _ (by simp), isMatch_either, List.any_map]
      rfl

theorem isMatch_close (group : Group) (text : String) : group.close.pattern.isMatch text =
    (group.sequence :: group.alternatives).any fun piece => piece.pattern.isMatch text := by
  rw [Group.close_eq_offer, isMatch_offer (by simp), List.any_reverse]

theorem compiled_after (text : List Char) {last : Reading} (closed : last.outer = []) :
    ((after text).within last).compiled = (Reading.ofText text).compiled.or last.compiled := by
  have names : ((after text).within last).compiled.names =
      ((Reading.ofText text).compiled.or last.compiled).names := by
    simp [Reading.compiled, Frame.within, after, CompiledPattern.or]
  have found : ((after text).within last).compiled.isMatch =
      ((Reading.ofText text).compiled.or last.compiled).isMatch := by
    funext value
    have earlier : (alternative text).pattern = (Reading.ofText text).group.close.pattern := rfl
    simp only [Reading.compiled, CompiledPattern.or]
    rw [← earlier, isMatch_close, isMatch_close, Frame.within, closed, Frame.sequence_place]
    simp [Frame.place, after, Group.renumber, Piece.renumber, isMatch_renumber,
      List.any_map, Function.comp_def, Bool.or_comm, Bool.or_left_comm]
  cases wholeIs : ((after text).within last).compiled
  rw [wholeIs] at names found
  simp only at names found
  rw [names, found]

theorem outer_after (text : List Char) (last : Reading) :
    ((after text).within last).outer = [] ↔ last.outer = [] := by
  rw [Frame.within]
  cases last.outer with
  | nil => exact iff_of_true rfl rfl
  | cons enclosing others => simp [Frame.stack]

theorem disjoint_names_after (text : List Char) (last : Reading) :
    last.names.Disjoint (after text).names ↔
      (Reading.ofText text).compiled.names.Disjoint last.compiled.names := by
  rw [List.disjoint_comm]
  simp [Reading.compiled, after, List.Disjoint]

/-- The patterns of this library obey the rules. -/
theorem regular_engine : engine.Regular where
  group read grouped := by
    have stands := stands_of_read read fun _ => ⟨_, grouped⟩
    rw [stands.read_grouped, ← stands.compiled_eq read] at grouped
    exact (Except.ok.inj grouped).symm
  closes read plain :=
    ⟨_, (stands_of_read read fun hash => absurd hash plain).read_grouped⟩
  alternative {pattern compiled inner} read inGroup rest whole := by
    have stands := stands_of_read read fun _ => ⟨_, inGroup⟩
    have joined : (grouped pattern ++ "|" ++ rest).toList =
        Pattern.inGroup pattern ++ '|' :: rest.toList := by
      simp [← toList_grouped]
    rw [engine_read_iff, joined, Reading.readOn_alternative stands, stands.compiled_eq read]
    have lowest : (after pattern).outer = [] := rfl
    simp only [Reading.readOn_within_iff lowest, engine_read_iff]
    constructor
    · rintro ⟨_, ⟨last, read, apart, rfl⟩, ended, rfl⟩
      have closed := (outer_after pattern last).mp ended
      exact ⟨_, ⟨last, read, closed, rfl⟩, (disjoint_names_after pattern last).mp apart,
        compiled_after pattern closed⟩
    · rintro ⟨_, ⟨last, read, closed, rfl⟩, apart, rfl⟩
      exact ⟨_, ⟨last, read, (disjoint_names_after pattern last).mpr apart, rfl⟩,
        (outer_after pattern last).mpr closed, (compiled_after pattern closed).symm⟩

end Pattern

end CrossBuild
