import CrossBuild.Pattern.Flags
import CrossBuild.Proofs.PartialResults
import Mathlib.Data.List.TakeWhile

/-!
Readers of parts of a pattern, and what becomes of a part when the pattern goes on behind it.  A
local reader looks at most one character beyond what it takes: with more text behind it makes the
same of the text, unless the text ends in a comment, which then goes on.
-/

namespace CrossBuild

abbrev Reader (α : Type) := List Char → Except PatternError (α × List Char)

section Splitting

variable {accept : Char → Bool} {text : List Char} (left : text.dropWhile accept ≠ [])
  (more : List Char)

include left

theorem takeWhile_append_of_left : (text ++ more).takeWhile accept = text.takeWhile accept := by
  rw [List.takeWhile_append, if_neg]
  intro whole
  apply left
  have lengths := congrArg List.length (List.takeWhile_append_dropWhile (p := accept) (l := text))
  rw [List.length_append, whole] at lengths
  exact List.eq_nil_of_length_eq_zero (by omega)

theorem dropWhile_append_of_left :
    (text ++ more).dropWhile accept = text.dropWhile accept ++ more := by
  rw [List.dropWhile_append, if_neg (by simpa using left)]

end Splitting

namespace Reader

variable {α β : Type}

/-- How a success goes on when the text does.  A reader that leaves something has seen all that it
looks for.  If nothing is left, then a closing parenthesis behind the text is left as it is, or the
text ends in a comment, which a `#` has begun, and the parenthesis belongs to it. -/
structure ReadsOn (read : Reader α) (text : List Char) (value : α) (rest : List Char) : Prop where
  now : read text = .ok (value, rest)
  suffix : rest <:+ text
  settled : rest ≠ [] → ∀ more, read (text ++ more) = .ok (value, rest ++ more)
  ended : rest = [] → (∀ more, read (text ++ ')' :: more) = .ok (value, ')' :: more)) ∨
    '#' ∈ text ∧ read (text ++ [')']) = .ok (value, [])

def Local (read : Reader α) : Prop :=
  ∀ ⦃text value rest⦄, read text = .ok (value, rest) → ReadsOn read text value rest

namespace ReadsOn

variable {read : Reader α} {next : α → Reader β} {text middle rest : List Char} {value : α}
  {result : β}

theorem of_append (suffix : rest <:+ text)
    (settled : ∀ more, read (text ++ more) = .ok (value, rest ++ more)) :
    ReadsOn read text value rest where
  now := by simpa using settled []
  suffix := suffix
  settled _ := settled
  ended same := .inl fun more => by rw [settled, same]; rfl

/-- Where a reader is at some place for good, what happens from there on decides. -/
theorem of_settled {read next : Reader β} (onward : ReadsOn next middle result rest)
    (suffix : middle <:+ text) (same : ∀ more, read (text ++ more) = next (middle ++ more)) :
    ReadsOn read text result rest where
  now := by
    have now := same []
    simp only [List.append_nil] at now
    exact now.trans onward.now
  suffix := onward.suffix.trans suffix
  settled left more := (same more).trans (onward.settled left more)
  ended none := (onward.ended none).imp (fun stays more => (same _).trans (stays more))
    fun ⟨hash, passes⟩ => ⟨suffix.subset hash, (same _).trans passes⟩

theorem bind (first : ReadsOn read text value middle)
    (second : ReadsOn (next value) middle result rest) :
    ReadsOn (fun text => read text >>= fun taken => next taken.1 taken.2) text result rest := by
  by_cases middleLeft : middle ≠ []
  · exact second.of_settled first.suffix fun more => by rw [first.settled middleLeft]; rfl
  · -- Nothing is left for the second reader, so it takes nothing, and leaves a parenthesis alone.
    obtain rfl : middle = [] := not_not.mp middleLeft
    obtain rfl : rest = [] := List.suffix_nil.mp second.suffix
    refine ⟨by rw [first.now]; exact second.now, List.nil_suffix, fun left => absurd rfl left,
      fun _ => ?_⟩
    rcases first.ended rfl with stays | ⟨hash, passes⟩
    · refine .inl fun more => ?_
      rw [stays]
      exact (second.ended rfl).resolve_right (fun ⟨hash, _⟩ => nomatch hash) more
    · refine .inr ⟨hash, ?_⟩
      rw [passes]
      exact second.now

theorem cons {first : Char} (reads : ReadsOn (fun rest => read (first :: rest)) text value rest) :
    ReadsOn read (first :: text) value rest where
  now := reads.now
  suffix := reads.suffix.trans (List.suffix_cons first text)
  settled := reads.settled
  ended none := (reads.ended none).imp_right fun ⟨hash, passes⟩ =>
    ⟨List.mem_cons_of_mem first hash, passes⟩

theorem map (change : α → β) (reads : ReadsOn read text value rest) :
    ReadsOn (fun text => (read text).map fun taken => (change taken.1, taken.2)) text (change value)
      rest where
  now := by rw [reads.now]; rfl
  suffix := reads.suffix
  settled left more := by rw [reads.settled left more]; rfl
  ended same := (reads.ended same).imp (fun stays more => by rw [stays more]; rfl)
    fun ⟨hash, passes⟩ => ⟨hash, by rw [passes]; rfl⟩

end ReadsOn

theorem readsOn_pure (value : α) (text : List Char) :
    ReadsOn (fun text => .ok (value, text)) text value text :=
  ⟨rfl, List.suffix_rfl, fun _ _ => rfl, fun same => .inl fun more => by rw [same]; rfl⟩

theorem local_ok (value : α) : Local fun text => .ok (value, text) := by
  intro text value rest read
  cases read
  exact readsOn_pure _ _

theorem local_error (reason : PatternError) :
    Local fun _ => (.error reason : Except _ (α × _)) := by
  intro text value rest read
  cases read

theorem Local.bind {read : Reader α} {next : α → Reader β} (first : Local read)
    (second : ∀ value, Local (next value)) :
    Local fun text => read text >>= fun taken => next taken.1 taken.2 := by
  intro text result rest taken
  obtain ⟨outcome, found, onward⟩ := exists_of_bind taken
  exact (first found).bind (second outcome.1 onward)

theorem Local.given (result : Except PatternError α) {next : α → Reader β}
    (reads : ∀ value, Local (next value)) :
    Local fun text => result >>= fun value => next value text := by
  cases result with
  | error reason => exact local_error reason
  | ok value => exact reads value

theorem local_of_cons {read : Reader α} (none : ∀ taken, read [] ≠ .ok taken)
    (some : ∀ first, Local fun rest => read (first :: rest)) : Local read := by
  intro text value rest taken
  cases text with
  | nil => exact absurd taken (none _)
  | cons first text => exact (some first taken).cons

section Same

variable {read next : Reader α} {text middle rest : List Char} {value : α}

theorem Local.of_settled (reads : Local next) (suffix : middle <:+ text)
    (same : ∀ more, read (text ++ more) = next (middle ++ more))
    (taken : read text = .ok (value, rest)) : ReadsOn read text value rest := by
  have now := same []
  simp only [List.append_nil] at now
  rw [now] at taken
  exact (reads taken).of_settled suffix same

theorem Local.of_same (reads : Local next)
    (same : ∀ more, read (text ++ more) = next (text ++ more))
    (taken : read text = .ok (value, rest)) : ReadsOn read text value rest :=
  reads.of_settled List.suffix_rfl same taken

end Same

theorem local_of_mark {read : Reader α} (mark : Char) (value : α) (differs : ')' ≠ mark)
    (marked : ∀ text found rest, read (mark :: text) = .ok (found, rest) →
      ReadsOn read (mark :: text) found rest)
    (none : read [] = .ok (value, []))
    (plain : ∀ first, first ≠ mark → ∀ text, read (first :: text) = .ok (value, first :: text)) :
    Local read := by
  intro text found rest taken
  match text with
  | [] =>
      rw [none] at taken
      cases taken
      exact ⟨none, List.suffix_rfl, fun left => absurd rfl left,
        fun _ => .inl fun more => plain ')' differs more⟩
  | first :: text =>
      by_cases here : first = mark
      · subst here
        exact marked text found rest taken
      · exact (local_ok value).of_same (fun more => plain first here (text ++ more)) taken

theorem local_of_only_mark {read : Reader α} (mark : Char) (reason : PatternError)
    (none : ∀ taken, read [] ≠ .ok taken) (marked : Local fun text => read (mark :: text))
    (plain : ∀ first, first ≠ mark → ∀ text, read (first :: text) = .error reason) :
    Local read := by
  refine local_of_cons none fun first => ?_
  by_cases here : first = mark
  · subst here
    exact marked
  · rw [funext (plain first here)]
    exact local_error reason

end Reader

namespace Flags

open Reader

variable (flags : Flags)

theorem skipIgnored_suffix (inComment : Bool) (text : List Char) :
    skipIgnored inComment text <:+ text := by
  fun_induction skipIgnored inComment text with
  | case1 => exact List.suffix_rfl
  | case2 _ _ ih => exact ih.trans (List.suffix_cons _ _)
  | case3 _ _ _ _ _ ih => exact ih.trans (List.suffix_cons _ _)
  | case4 _ _ _ _ ih => exact ih.trans (List.suffix_cons _ _)
  | case5 => exact List.suffix_rfl

theorem skipIgnored_append (inComment : Bool) (text more : List Char)
    (left : skipIgnored inComment text ≠ []) :
    skipIgnored inComment (text ++ more) = skipIgnored inComment text ++ more := by
  fun_induction skipIgnored inComment text with
  | case1 => exact absurd rfl left
  | case2 _ _ ih => simp_all [skipIgnored]
  | case3 _ _ _ _ _ ih => simp_all [skipIgnored]
  | case4 _ _ _ _ ih => simp_all [skipIgnored]
  | case5 => simp_all [skipIgnored]

theorem skipIgnored_ended (inComment : Bool) (text : List Char)
    (ended : skipIgnored inComment text = []) :
    (∀ more, skipIgnored inComment (text ++ ')' :: more) = ')' :: more) ∨
      (inComment = true ∨ '#' ∈ text) ∧ skipIgnored inComment (text ++ [')']) = [] := by
  fun_induction skipIgnored inComment text with
  | case1 inComment =>
      cases inComment with
      | false => left; intro more; rfl
      | true => exact .inr ⟨.inl rfl, rfl⟩
  | case2 _ _ ih =>
      exact (ih ended).imp (fun stays more => by simpa [skipIgnored] using stays more)
        fun passes => ⟨.inl rfl, by simpa [skipIgnored] using passes.2⟩
  | case3 _ _ _ _ _ ih =>
      refine (ih ended).imp (fun stays more => ?_) fun ⟨hash, passes⟩ => ⟨.inr ?_, ?_⟩
      · simp_all [skipIgnored]
      · exact List.mem_cons_of_mem _ (hash.resolve_left Bool.false_ne_true)
      · simp_all [skipIgnored]
  | case4 _ _ _ _ ih => simp_all [skipIgnored]
  | case5 => cases ended

theorem skipIgnored_skipIgnored (inComment : Bool) (text : List Char) :
    skipIgnored false (skipIgnored inComment text) = skipIgnored inComment text := by
  fun_induction skipIgnored inComment text <;> simp_all [skipIgnored]

theorem skipIgnored_dropWhile (text : List Char) :
    skipIgnored false (text.dropWhile Text.isBlank) = skipIgnored false text := by
  induction text with
  | nil => rfl
  | cons first text ih =>
      by_cases blank : Text.isBlank first = true <;> simp_all [skipIgnored]

theorem skipIgnored_of_blank {text : List Char} (blank : ∀ c ∈ text, Text.isBlank c = true)
    (inComment : Bool) : skipIgnored inComment text = [] := by
  fun_induction skipIgnored inComment text <;> simp_all

theorem skip_readsOn (text : List Char) :
    ReadsOn (fun text => .ok ((), flags.skip text)) text () (flags.skip text) := by
  by_cases extended : flags.extended
  · have same : ∀ other, flags.skip other = skipIgnored false other := fun other => by
      simp [skip, extended]
    simp only [same]
    exact ⟨rfl, skipIgnored_suffix false text,
      fun left more => by rw [skipIgnored_append false text more left],
      fun ended => (skipIgnored_ended false text ended).imp (fun stays more => by rw [stays more])
        fun ⟨hash, passes⟩ => ⟨hash.resolve_left Bool.false_ne_true, by rw [passes]⟩⟩
  · have same : ∀ other, flags.skip other = other := fun other => by simp [skip, extended]
    simp only [same]
    exact readsOn_pure () text

theorem skip_suffix (text : List Char) : flags.skip text <:+ text :=
  (flags.skip_readsOn text).suffix

theorem skip_append {text : List Char} (left : flags.skip text ≠ [])
    (more : List Char) : flags.skip (text ++ more) = flags.skip text ++ more :=
  congrArg Prod.snd (Except.ok.inj ((flags.skip_readsOn text).settled left more))

theorem skip_ended {text : List Char} (ended : flags.skip text = []) :
    (∀ more, flags.skip (text ++ ')' :: more) = ')' :: more) ∨
      '#' ∈ text ∧ flags.skip (text ++ [')']) = [] :=
  ((flags.skip_readsOn text).ended ended).imp
    (fun stays more => congrArg Prod.snd (Except.ok.inj (stays more)))
    fun ⟨hash, passes⟩ => ⟨hash, congrArg Prod.snd (Except.ok.inj passes)⟩

theorem skip_nil : flags.skip [] = [] := List.suffix_nil.mp (flags.skip_suffix [])

theorem skip_skip (text : List Char) : flags.skip (flags.skip text) = flags.skip text := by
  by_cases extended : flags.extended <;> simp [skip, extended, skipIgnored_skipIgnored]

/-- No flag makes a parenthesis part of what is skipped, so it ends a group wherever it is read. -/
theorem skip_closing (more : List Char) : flags.skip (')' :: more) = ')' :: more := by
  have counts : Text.isBlank ')' = false := by decide
  by_cases extended : flags.extended <;> simp [skip, skipIgnored, extended, counts]

theorem skip_cons {first : Char} {text : List Char}
    (counts : flags.skip (first :: text) = first :: text) (other : List Char) :
    flags.skip (first :: other) = first :: other := by
  have notSkipped : ∀ inComment, skipIgnored inComment text ≠ first :: text := by
    intro inComment same
    have shorter := (skipIgnored_suffix inComment text).length_le
    rw [same, List.length_cons] at shorter
    omega
  by_cases extended : flags.extended
  · simp only [skip, extended, if_true, skipIgnored, Bool.false_eq_true, if_false] at counts ⊢
    split at counts
    · exact absurd counts (notSkipped false)
    · split at counts
      · exact absurd counts (notSkipped true)
      · simp [*]
  · simp [skip, extended]

theorem read_append {negated afterMinus : Bool} {changes found : FlagChanges} {terminator : Char}
    {text rest : List Char}
    (taken : read negated afterMinus changes text = .ok (found, terminator, rest)) :
    rest <:+ text ∧ ∀ more,
      read negated afterMinus changes (text ++ more) = .ok (found, terminator, rest ++ more) := by
  fun_induction read negated afterMinus changes text with
  | case1 => cases taken
  | case2 => cases taken
  | case3 =>
      cases taken
      refine ⟨List.suffix_cons _ _, fun more => ?_⟩
      simp_all [read]
  | case4 => cases taken
  | case5 _ _ _ _ _ _ ih =>
      obtain ⟨suffix, onward⟩ := ih taken
      refine ⟨suffix.trans (List.suffix_cons _ _), fun more => ?_⟩
      simp_all [read]
  | case6 => cases taken
  | case7 => cases taken
  | case8 _ _ _ _ _ _ _ _ _ _ ih =>
      obtain ⟨suffix, onward⟩ := ih taken
      refine ⟨suffix.trans (List.suffix_cons _ _), fun more => ?_⟩
      simp_all [read]

end Flags

namespace Reader

variable {α : Type} {read : Reader α}

theorem ReadsOn.afterSkip {flags : Flags} {text rest : List Char} {value : α}
    (reads : ReadsOn read (flags.skip text) value rest) :
    ReadsOn (fun text => read (flags.skip text)) text value rest :=
  @ReadsOn.bind _ _ _ (fun _ => read) _ _ _ _ _ (flags.skip_readsOn text) reads

theorem local_skip (flags : Flags) : Local fun text => .ok ((), flags.skip text) := by
  intro text value rest read
  cases read
  exact flags.skip_readsOn text

theorem Local.afterSkip (flags : Flags) (reads : Local read) :
    Local fun text => read (flags.skip text) :=
  (local_skip flags).bind fun _ => reads

theorem local_of_skip (flags : Flags) (same : ∀ text, read (flags.skip text) = read text)
    (none : ∀ taken, read [] ≠ .ok taken)
    (some : ∀ first, (∀ text, flags.skip (first :: text) = first :: text) →
      ∀ text value rest, read (first :: text) = .ok (value, rest) →
        ReadsOn read (first :: text) value rest) : Local read := by
  intro text value rest taken
  rw [← funext same]
  apply ReadsOn.afterSkip
  rw [← same] at taken
  cases skipped : flags.skip text with
  | nil =>
      rw [skipped] at taken
      exact absurd taken (none _)
  | cons first left =>
      rw [skipped] at taken
      refine some first (@Flags.skip_cons flags first left ?_) left value rest taken
      rw [← skipped, flags.skip_skip]

end Reader

namespace Flags

open Reader

variable (flags : Flags) (accept : Char → Bool)

theorem readWhile_of_length_le {fuel : Nat} {text : List Char} (enough : text.length ≤ fuel) :
    flags.readWhile accept fuel text = flags.readAll accept text := by
  unfold readAll
  suffices same : ∀ fuel other, text.length ≤ fuel → text.length ≤ other →
      flags.readWhile accept fuel text = flags.readWhile accept other text from
    same _ _ enough (Nat.le_refl _)
  clear enough fuel
  intro fuel
  induction fuel generalizing text with
  | zero =>
      intro other enough _
      have none : text = [] := List.eq_nil_of_length_eq_zero (by omega)
      subst none
      cases other <;> rfl
  | succ fuel ih =>
      intro other enough enoughToo
      match text, other with
      | [], 0 => rfl
      | [], _ + 1 => rfl
      | first :: rest, other + 1 =>
          have shorter := (flags.skip_suffix rest).length_le
          simp only [List.length_cons] at enough enoughToo
          simp only [readWhile, @ih (flags.skip rest) other (by omega) (by omega)]

theorem readAll_cons (first : Char) (rest : List Char) :
    flags.readAll accept (first :: rest) =
      if accept first then
        (first :: (flags.readAll accept (flags.skip rest)).1,
          (flags.readAll accept (flags.skip rest)).2)
      else ([], first :: rest) := by
  have shorter := (flags.skip_suffix rest).length_le
  rw [readAll, List.length_cons, readWhile]
  simp only [flags.readWhile_of_length_le accept shorter]

theorem readAll_suffix : ∀ text : List Char, (flags.readAll accept text).2 <:+ text
  | [] => List.suffix_rfl
  | first :: rest => by
      rw [readAll_cons]
      split
      · exact (readAll_suffix (flags.skip rest)).trans
          ((flags.skip_suffix rest).trans (List.suffix_cons first rest))
      · exact List.suffix_rfl
termination_by text => text.length
decreasing_by exact Nat.lt_succ_of_le (flags.skip_suffix rest).length_le

theorem readAll_append (more : List Char) :
    ∀ text : List Char, (flags.readAll accept text).2 ≠ [] →
      flags.readAll accept (text ++ more) =
        ((flags.readAll accept text).1, (flags.readAll accept text).2 ++ more)
  | [], left => absurd rfl left
  | first :: rest, left => by
      rw [readAll_cons] at left
      rw [List.cons_append, readAll_cons, readAll_cons]
      by_cases accepted : accept first = true
      · simp only [accepted, if_true] at left ⊢
        have restLeft : flags.skip rest ≠ [] := by
          intro none
          rw [none] at left
          exact left rfl
        rw [flags.skip_append restLeft, readAll_append more (flags.skip rest) left]
      · simp [accepted]
termination_by text => text.length
decreasing_by exact Nat.lt_succ_of_le (flags.skip_suffix rest).length_le

theorem readAll_readsOn (closes : accept ')' = false) : ∀ text : List Char,
    ReadsOn (fun text => .ok (flags.readAll accept text)) text (flags.readAll accept text).1
      (flags.readAll accept text).2
  | [] => ⟨rfl, List.suffix_rfl, fun left => absurd rfl left, fun _ => .inl fun more => by
      rw [List.nil_append, readAll_cons, closes]
      rfl⟩
  | first :: rest => by
      by_cases accepted : accept first = true
      · apply ReadsOn.cons
        have onward := ((readAll_readsOn closes (flags.skip rest)).map (first :: ·)).afterSkip
        simp only [readAll_cons, accepted, if_true]
        exact onward
      · refine ⟨rfl, flags.readAll_suffix accept _, fun left more => ?_, fun ended => ?_⟩
        · rw [flags.readAll_append accept more _ left]
        · simp [readAll_cons, accepted] at ended
termination_by text => text.length
decreasing_by exact Nat.lt_succ_of_le (flags.skip_suffix rest).length_le

end Flags

namespace Reader

variable {α : Type} {read : Reader α}

theorem Local.afterAll (flags : Flags) (accept : Char → Bool) {next : List Char → Reader α}
    (none : ∀ letters taken, next letters [] ≠ .ok taken)
    (some : ∀ letters, Local (next letters)) :
    Local fun text => next (flags.readAll accept text).1 (flags.readAll accept text).2 := by
  intro text value rest taken
  have left : (flags.readAll accept text).2 ≠ [] := by
    intro ended
    simp only [ended] at taken
    exact none _ _ taken
  exact (some _).of_settled (flags.readAll_suffix accept text)
    (fun more => by rw [flags.readAll_append accept more text left]) taken

theorem local_readAll (flags : Flags) (accept : Char → Bool) (closes : accept ')' = false) :
    Local fun text => .ok (flags.readAll accept text) := by
  intro text letters rest taken
  have same : flags.readAll accept text = (letters, rest) := Except.ok.inj taken
  have reads := flags.readAll_readsOn accept closes text
  rwa [same] at reads

theorem dropBlanks_readsOn (text : List Char) :
    ReadsOn (fun text => .ok ((), text.dropWhile Text.isBlank)) text ()
      (text.dropWhile Text.isBlank) := by
  refine ⟨rfl, List.dropWhile_suffix _, fun left more => ?_, fun ended => .inl fun more => ?_⟩
  · rw [dropWhile_append_of_left left]
  · have closes : Text.isBlank ')' = false := by decide
    rw [List.dropWhile_append, if_pos (by simpa using ended), List.dropWhile_cons, closes]
    rfl

theorem Local.afterBlanks (reads : Local read) :
    Local fun text => read (text.dropWhile Text.isBlank) := fun text _ _ taken =>
  @ReadsOn.bind _ _ _ (fun _ => read) _ _ _ _ _ (dropBlanks_readsOn text) (reads taken)

end Reader

end CrossBuild
