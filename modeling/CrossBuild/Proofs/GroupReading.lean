import CrossBuild.Proofs.Renumbering

/-!
A text between the parentheses of a group is read as if it were a pattern of its own, up to the
numbers of captures and to names that are in use around the group.
-/

namespace CrossBuild

namespace Pattern

/-- What precedes a text in a longer pattern: the alternatives that are complete where it begins,
the groups that are open there, and the captures with their names. -/
structure Frame where
  earlier : List Piece
  outer : List Group
  captures : Nat
  names : List String

namespace Frame

variable (frame : Frame) (group : Group) (outer : List Group)

/-- A group of the text in the longer pattern.  What is earlier comes before the outermost one. -/
def place : Group :=
  let own := group.renumber frame.captures
  { own with alternatives := own.alternatives ++ if outer.isEmpty then frame.earlier else [] }

def stack : List Group → List Group
  | [] => frame.outer
  | group :: others => frame.place group others :: stack others

def within (reading : Reading) : Reading where
  group := frame.place reading.group reading.outer
  outer := frame.stack reading.outer
  flags := reading.flags
  captures := frame.captures + reading.captures
  names := reading.names ++ frame.names

theorem place_start (number : Option Nat) (flags : Flags) (enclosing : Group) :
    frame.place (.start number flags) (enclosing :: outer) =
      .start (number.map (· + frame.captures)) flags := rfl

theorem place_addItem (item : Item) : frame.place (group.addItem item) outer =
    (frame.place group outer).addItem (item.renumber frame.captures) := rfl

theorem sequence_place :
    (frame.place group outer).sequence = group.sequence.renumber frame.captures :=
  Group.sequence_renumber frame.captures group

theorem place_divide : (frame.place group outer).divide = frame.place group.divide outer := by
  rw [Group.divide, sequence_place]
  rfl

theorem closed_place (enclosing : Group) :
    (frame.place group (enclosing :: outer)).closed = group.closed.renumber frame.captures := by
  rw [← Group.closed_renumber]
  simp [place]

theorem repeatLast_place (least : Nat) (most : Option Nat) (greedy : Bool) :
    (frame.place group outer).repeatLast least most greedy =
      (group.repeatLast least most greedy).map (frame.place · outer) := by
  obtain ⟨number, alternatives, items, outerFlags⟩ := group
  match items with
  | [] => rfl
  | .flags :: _ => rfl
  | .piece last :: others =>
      simp [Group.repeatLast, place, Group.renumber, Item.renumber, Piece.renumber,
        repeated_renumber, Except.map]

end Frame

namespace Reading

def ground (reading : Reading) : Option Nat × Flags :=
  let group := reading.outer.getLastD reading.group
  (group.number, group.outerFlags)

theorem ground_eq {reading next : Reading} (sameOuter : next.outer = reading.outer)
    (number : next.group.number = reading.group.number)
    (flags : next.group.outerFlags = reading.group.outerFlags) : next.ground = reading.ground := by
  simp only [ground, sameOuter]
  cases reading.outer with
  | nil => simp [number, flags]
  | cons enclosing others => simp only [List.getLastD_cons]

theorem ground_add {reading next : Reading} {token : Token} (added : reading.add token = .ok next) :
    next.ground = reading.ground := by
  cases token with
  | openCapture name =>
      simp only [add, openCapture] at added
      split at added
      · cases added
      · cases added
        simp only [ground, openGroup, List.getLastD_cons]
  | closeGroup =>
      simp only [add, closeGroup] at added
      split at added
      · cases added
      · rename_i enclosing others same
        cases added
        simp only [ground, same, List.getLastD_cons]
        cases others <;> rfl
  | repetition least most greedy =>
      obtain ⟨group, repeats, added⟩ := exists_of_bind added
      cases added
      have kept : group.number = reading.group.number ∧
          group.outerFlags = reading.group.outerFlags := by
        unfold Group.repeatLast at repeats
        split at repeats
        · cases repeats
          exact ⟨rfl, rfl⟩
        · cases repeats
      exact ground_eq rfl kept.1 kept.2
  | openGroup changes =>
      cases added
      simp only [ground, openGroup, List.getLastD_cons]
  | expression => cases added; exact ground_eq rfl rfl rfl
  | setFlags => cases added; exact ground_eq rfl rfl rfl
  | alternative => cases added; exact ground_eq rfl rfl rfl

theorem add_within {frame : Frame} {reading next : Reading} {token : Token}
    (plain : token.Plain)
    (fresh : ∀ name, token = .openCapture (some name) → name ∉ frame.names)
    (added : reading.add token = .ok next) :
    (frame.within reading).add token = .ok (frame.within next) := by
  cases token with
  | expression pattern depth =>
      cases added
      simp [add, Frame.within, Frame.place_addItem, Item.renumber, Piece.renumber,
        plain pattern depth rfl frame.captures]
  | openGroup changes =>
      cases added
      simp [add, Frame.within, openGroup, Frame.place_start, Frame.stack]
  | openCapture name =>
      simp only [add, openCapture] at added ⊢
      split at added
      · cases added
      · rename_i unused
        cases added
        have free : name.filter (frame.within reading).names.contains = none := by
          cases name with
          | none => rfl
          | some name =>
              have outside := fresh name rfl
              simp_all [Frame.within]
        rw [free]
        simp [Frame.within, openGroup, Frame.place_start, Frame.stack, Nat.add_comm, Nat.add_assoc]
  | closeGroup =>
      simp only [add, closeGroup] at added ⊢
      split at added
      · cases added
      · rename_i enclosing others same
        cases added
        simp [Frame.within, same, Frame.stack, Frame.closed_place, Frame.place_addItem]
        exact ⟨rfl, rfl⟩
  | setFlags changes =>
      cases added
      simp [add, Frame.within, Frame.place_addItem, Item.renumber]
  | alternative =>
      cases added
      simp [add, Frame.within, Frame.place_divide]
  | repetition least most greedy =>
      obtain ⟨group, repeats, added⟩ := exists_of_bind added
      cases added
      simp only [add, Frame.within, Frame.repeatLast_place, repeats]
      rfl

theorem add_within_used {frame : Frame} {reading : Reading} {name : String}
    (used : name ∈ frame.names) :
    (frame.within reading).add (.openCapture (some name)) = .error (.duplicateGroupName name) := by
  have found : (some name).filter (frame.within reading).names.contains = some name := by
    simp [Frame.within, used]
  rw [add, openCapture, found]

theorem length_after_lt {flags : Flags} {text rest after : List Char} {first : Char} {token : Token}
    (skipped : flags.skip text = first :: rest)
    (taken : Token.read flags first rest = .ok (token, after)) : after.length < text.length := by
  have shorter := (flags.skip_suffix text).length_le
  have suffix := (Token.local_read flags first taken).suffix.length_le
  rw [skipped, List.length_cons] at shorter
  omega

def readOn (reading : Reading) (text : List Char) : Except PatternError Reading :=
  run text.length reading text

theorem run_of_length_le {fuel : Nat} {reading : Reading} {text : List Char}
    (enough : text.length ≤ fuel) : run fuel reading text = reading.readOn text := by
  unfold readOn
  suffices same : ∀ fuel other, text.length ≤ fuel → text.length ≤ other →
      run fuel reading text = run other reading text from same _ _ enough (Nat.le_refl _)
  clear enough fuel
  intro fuel
  induction fuel generalizing reading text with
  | zero =>
      intro other enough _
      obtain rfl : text = [] := List.eq_nil_of_length_eq_zero (by omega)
      cases other with
      | zero => rfl
      | succ other => simp [run, Flags.skip_nil]
  | succ fuel ih =>
      intro other enough enoughToo
      cases other with
      | zero =>
          obtain rfl : text = [] := List.eq_nil_of_length_eq_zero (by omega)
          simp [run, Flags.skip_nil]
      | succ other =>
          simp only [run]
          split
          · rfl
          · rename_i first rest skipped
            cases taken : Token.read reading.flags first rest with
            | error reason => rfl
            | ok outcome =>
                have shorter := length_after_lt skipped taken
                simp only [bind, Except.bind]
                split
                · rfl
                · exact ih other (by omega) (by omega)

theorem readOn_of_skip {reading : Reading} {text : List Char}
    (skipped : reading.flags.skip text = []) : reading.readOn text = .ok reading := by
  cases text with
  | nil => rfl
  | cons first text => simp [readOn, run, skipped]

theorem readOn_of_token {reading : Reading} {text rest after : List Char} {first : Char}
    {token : Token} (skipped : reading.flags.skip text = first :: rest)
    (taken : Token.read reading.flags first rest = .ok (token, after)) :
    reading.readOn text = reading.add token >>= fun next => next.readOn after := by
  have shorter := length_after_lt skipped taken
  cases text with
  | nil => simp at shorter
  | cons _ text =>
      simp only [readOn, List.length_cons, run, skipped, taken]
      exact bind_congr fun next => run_of_length_le (Nat.le_of_lt_succ shorter)

inductive Reads : Reading → List Char → Reading → Prop
  | done {reading : Reading} {text : List Char} (skipped : reading.flags.skip text = []) :
      Reads reading text reading
  | token {reading next last : Reading} {text rest after : List Char} {first : Char} {token : Token}
      (skipped : reading.flags.skip text = first :: rest)
      (taken : Token.read reading.flags first rest = .ok (token, after))
      (added : reading.add token = .ok next) (onward : Reads next after last) :
      Reads reading text last

theorem Reads.eq_of_nil {reading last : Reading} (reads : Reads reading [] last) :
    last = reading := by
  cases reads with
  | done => rfl
  | token skipped => simp [Flags.skip_nil] at skipped

theorem reads_of_run {fuel : Nat} {reading last : Reading} {text : List Char}
    (enough : text.length ≤ fuel) (read : run fuel reading text = .ok last) :
    Reads reading text last := by
  induction fuel generalizing reading text with
  | zero =>
      obtain rfl : text = [] := List.eq_nil_of_length_eq_zero (by omega)
      cases read
      exact .done (Flags.skip_nil _)
  | succ fuel ih =>
      simp only [run] at read
      split at read
      · rename_i skipped
        cases read
        exact .done skipped
      · rename_i first rest skipped
        obtain ⟨⟨token, after⟩, taken, read⟩ := exists_of_bind read
        obtain ⟨next, added, read⟩ := exists_of_bind read
        have shorter := length_after_lt skipped taken
        exact .token skipped taken added (ih (by omega) read)

theorem reads_of_readOn {reading last : Reading} {text : List Char}
    (read : reading.readOn text = .ok last) : Reads reading text last :=
  reads_of_run (Nat.le_refl _) read

theorem names_of_add {reading next : Reading} {token : Token}
    (added : reading.add token = .ok next) :
    (next.names = reading.names ∧ ∀ name, token ≠ .openCapture (some name)) ∨
      ∃ name, token = .openCapture (some name) ∧ next.names = name :: reading.names := by
  cases token with
  | openCapture name =>
      simp only [add, openCapture] at added
      split at added
      · cases added
      · cases added
        cases name with
        | none => exact .inl ⟨rfl, nofun⟩
        | some name => exact .inr ⟨name, rfl, rfl⟩
  | closeGroup =>
      simp only [add, closeGroup] at added
      split at added
      · cases added
      · cases added
        exact .inl ⟨rfl, nofun⟩
  | repetition least most greedy =>
      obtain ⟨group, _, added⟩ := exists_of_bind added
      cases added
      exact .inl ⟨rfl, nofun⟩
  | expression | openGroup | setFlags | alternative =>
      cases added
      exact .inl ⟨rfl, nofun⟩

theorem Reads.names_subset {reading last : Reading} {text : List Char}
    (reads : Reads reading text last) : reading.names ⊆ last.names := by
  induction reads with
  | done => exact List.Subset.refl _
  | token _ _ added _ ih =>
      refine List.Subset.trans ?_ ih
      rcases names_of_add added with ⟨same, -⟩ | ⟨name, -, same⟩
      · rw [same]
        exact List.Subset.refl _
      · rw [same]
        exact List.subset_cons_self _ _

theorem Reads.ground_eq {reading last : Reading} {text : List Char}
    (reads : Reads reading text last) : last.ground = reading.ground := by
  induction reads with
  | done => rfl
  | token _ _ added _ ih => exact ih.trans (ground_add added)

theorem skip_within (frame : Frame) {reading : Reading} {text rest : List Char} {first : Char}
    (skipped : reading.flags.skip text = first :: rest) (more : List Char) :
    (frame.within reading).flags.skip (text ++ more) = first :: (rest ++ more) := by
  change reading.flags.skip (text ++ more) = _
  rw [Flags.skip_append _ (by simp [skipped]), skipped, List.cons_append]

/-- A token is read within a group as it is read outside. -/
theorem readOn_within {frame : Frame} {reading next : Reading} {text rest after : List Char}
    {first : Char} {token : Token} {more left : List Char}
    (skipped : reading.flags.skip text = first :: rest)
    (taken : Token.read reading.flags first rest = .ok (token, after))
    (takenToo : Token.read reading.flags first (rest ++ more) = .ok (token, left))
    (added : reading.add token = .ok next) (apart : next.names.Disjoint frame.names) :
    (frame.within reading).readOn (text ++ more) = (frame.within next).readOn left := by
  rw [readOn_of_token (skip_within frame skipped more) takenToo, add_within _ _ added]
  · rfl
  · exact Token.plain_of_read taken
  · rintro name rfl
    rcases names_of_add added with ⟨-, unnamed⟩ | ⟨_, same, names⟩
    · exact absurd rfl (unnamed name)
    · cases same
      exact apart (by rw [names]; exact List.mem_cons_self)

theorem readOn_closing {reading : Reading} {text more : List Char}
    (skipped : reading.flags.skip text = ')' :: more) :
    reading.readOn text = reading.closeGroup >>= fun next => next.readOn more :=
  @readOn_of_token reading text more more ')' .closeGroup skipped rfl

/-- The reading of a group is the reading of its text, up to the numbers of captures, as long as the
text does not use a name of the pattern around it.  Then the parenthesis that closes the group is
read next, or it is part of a comment. -/
theorem Reads.within {reading last : Reading} {text : List Char} (reads : Reads reading text last) :
    (∀ frame : Frame, last.names.Disjoint frame.names → ∀ more,
      (frame.within reading).readOn (text ++ ')' :: more) =
        (frame.within last).readOn (')' :: more)) ∨
    '#' ∈ text ∧ (∀ frame : Frame, last.names.Disjoint frame.names →
      (frame.within reading).readOn (text ++ [')']) = .ok (frame.within last)) := by
  induction reads with
  | @done reading text skipped =>
      refine (reading.flags.skip_ended skipped).imp (fun stays => ?_) fun ⟨hash, passes⟩ =>
        ⟨hash, fun frame _ => @readOn_of_skip (frame.within reading) _ passes⟩
      intro frame apart more
      exact (@readOn_closing (frame.within reading) _ _ (stays more)).trans
        (readOn_closing (Flags.skip_closing _ more)).symm
  | @token reading next last text rest after first token skipped taken added onward ih =>
      have reads := Token.local_read reading.flags first taken
      have suffix : rest <:+ text := (List.suffix_cons first rest).trans
        (skipped ▸ reading.flags.skip_suffix text)
      -- Only the token that ends the text can take the parenthesis into a comment.
      by_cases left : after = []
      · subst left
        obtain rfl := onward.eq_of_nil
        refine (reads.ended rfl).imp (fun stays => ?_) fun ⟨hash, passes⟩ =>
          ⟨suffix.subset hash, ?_⟩
        · intro frame apart more
          exact readOn_within skipped taken (stays more) added apart
        · intro frame apart
          rw [readOn_within skipped taken passes added apart]
          rfl
      · have step : ∀ frame : Frame, last.names.Disjoint frame.names → ∀ more,
            (frame.within reading).readOn (text ++ more) =
              (frame.within next).readOn (after ++ more) := fun frame apart more =>
          readOn_within skipped taken (reads.settled left more) added fun name used =>
            apart (onward.names_subset used)
        refine ih.imp (fun stays => ?_) fun ⟨hash, passes⟩ =>
          ⟨suffix.subset (reads.suffix.subset hash), ?_⟩
        · intro frame apart more
          exact (step frame apart _).trans (stays frame apart more)
        · intro frame apart
          exact (step frame apart _).trans (passes frame apart)

end Reading

end Pattern

end CrossBuild
