import CrossBuild.Pattern.Bracket
import CrossBuild.Proofs.LocalReaders

/-!
Escape sequences and bracketed classes are read locally.  A class ends within the text, so nothing
behind the text matters to it.
-/

namespace CrossBuild

namespace Escape

open Reader

variable (flags : Flags)

theorem local_readHex (count : Nat) : Local (readHex flags count) := by
  induction count with
  | zero => exact local_ok []
  | succ count ih =>
      refine local_of_cons (fun _ => nofun) fun digit => ?_
      simp only [readHex]
      split
      · exact local_error _
      · exact (ih.afterSkip flags).bind fun digits => local_ok (digit :: digits)

theorem local_closeNumber (digits : List Char) : Local (closeNumber flags digits) := by
  refine local_of_cons (fun _ => nofun) fun _ => ?_
  simp only [closeNumber]
  split
  · exact local_error _
  · split
    · exact local_error _
    · exact .given _ fun value => (local_ok value).afterSkip flags

theorem local_readDigits (count : Nat) : Local (readDigits flags count) :=
  (local_readHex flags count).bind fun digits => .given (ofNumber digits (count = 2)) local_ok

theorem local_readNumber (count : Nat) : Local (readNumber flags count) := by
  refine local_of_skip flags (fun text => by simp only [readNumber, flags.skip_skip])
    (fun _ => by simp [readNumber, flags.skip_nil]) fun first counts text value rest taken => ?_
  by_cases brace : first = '\x7b'
  · subst brace
    have braced : Local fun text => readNumber flags count ('\x7b' :: text) := by
      simp only [readNumber, counts]
      exact (Local.afterAll flags _ (fun _ _ => by simp [closeNumber])
        (local_closeNumber flags)).afterSkip flags
    exact (braced taken).cons
  · have unbraced : ∀ other, readNumber flags count (first :: other) =
        readDigits flags count (first :: other) := by
      intro other
      simp only [readNumber, counts]
      split <;> simp_all
    exact (local_readDigits flags count).of_same (fun more => unbraced (text ++ more)) taken

theorem local_closeProperty (negated : Bool) (name : List Char) :
    Local (closeProperty flags negated name) :=
  local_of_cons (fun _ => nofun) fun _ => .given (propertySet flags negated name) local_ok

theorem local_readProperty (negated : Bool) : Local (readProperty flags negated) := by
  refine local_of_skip flags (fun text => by simp only [readProperty, flags.skip_skip])
    (fun _ => by simp [readProperty, flags.skip_nil]) fun first counts text value rest taken => ?_
  by_cases brace : first = '\x7b'
  · subst brace
    have braced : Local fun text => readProperty flags negated ('\x7b' :: text) := by
      simp only [readProperty, counts]
      exact (Local.afterAll flags _ (fun _ _ => by simp [closeProperty])
        (local_closeProperty flags negated)).afterSkip flags
    exact (braced taken).cons
  · have unbraced : ∀ other, readProperty flags negated (first :: other) =
        if first = '\\' then .error (.unknownProperty "\\")
        else propertySet flags negated [first] >>= fun set => .ok (set, flags.skip other) := by
      intro other
      simp only [readProperty, counts]
      split <;> rfl
    have letter : Local fun text => readProperty flags negated (first :: text) := by
      simp only [unbraced]
      split
      · exact local_error _
      · exact .given _ fun set => (local_ok set).afterSkip flags
    exact (letter taken).cons

theorem local_closeBoundary (letters : List Char) : Local (closeBoundary flags letters) := by
  refine local_of_only_mark '\x7d' .unclosedWordBoundary (fun _ => nofun) ?_ ?_
  · simp only [closeBoundary]
    split
    · exact local_ok _
    · exact local_error _
  · intro first differs text
    simp only [closeBoundary]
    split
    · simp_all
    · rfl

theorem readsOn_readBoundary {text rest : List Char} {value : Escape}
    (taken : readBoundary flags ('\x7b' :: text) = .ok (value, rest)) :
    ReadsOn (readBoundary flags) ('\x7b' :: text) value rest := by
  cases skipped : flags.skip text with
  | nil => simp [readBoundary, skipped] at taken
  | cons first name =>
      have left : flags.skip text ≠ [] := by simp [skipped]
      by_cases named : isBoundaryCharacter first = true
      · have reads := (Local.afterAll flags isBoundaryCharacter
          (fun _ _ => by simp [closeBoundary]) (local_closeBoundary flags)).afterSkip flags
        refine ReadsOn.cons (reads.of_same (fun more => ?_) taken)
        simp [readBoundary, flags.skip_append left, skipped, named]
      · refine (local_ok (.look (.wordBoundary flags.word))).of_same (fun more => ?_) taken
        simp [readBoundary, flags.skip_append left, skipped, named]

theorem local_readBoundary : Local (readBoundary flags) := by
  refine local_of_mark '\x7b' _ (by decide) (fun _ _ _ => readsOn_readBoundary flags) rfl ?_
  intro first differs text
  simp only [readBoundary]
  split
  · simp_all
  · rfl

theorem local_read : Local (read flags) := by
  refine local_of_cons (fun _ => nofun) fun first => ?_
  simp only [read]
  split
  · exact local_ok _
  · split
    · exact local_error _
    · split
      case h_1 => exact local_readNumber flags 2
      case h_2 => exact local_readNumber flags 4
      case h_3 => exact local_readNumber flags 8
      case h_4 => exact local_readProperty flags false
      case h_5 => exact local_readProperty flags true
      case h_20 => exact local_readBoundary flags
      case h_24 => exact local_error _
      all_goals exact local_ok _

end Escape

namespace Bracket

open Reader

variable (flags : Flags)

theorem local_readItem : Local (readItem flags) := by
  refine local_of_cons (fun _ => nofun) fun first => ?_
  by_cases escaped : first = '\\'
  · subst escaped
    exact Escape.local_read flags
  · have plain : (fun text => readItem flags (first :: text)) =
        fun text => .ok (.character first false, text) := by
      funext text
      simp only [readItem]
    rw [plain]
    exact local_ok _

theorem afterHash_cons {first : Char} (plain : first ≠ '#') (rest : List Char) :
    afterHash (first :: rest) = some first := by
  simp only [afterHash]
  split <;> simp_all

theorem peek_append {text : List Char}
    (seen : flags.skip text ≠ [] ∨ ∃ c, peek flags text = some c ∧ c ≠ '#' ∧ Text.isBlank c = false)
    (more : List Char) : peek flags (text ++ more) = peek flags text := by
  by_cases extended : flags.extended = true
  · simp only [peek, extended, Flags.skip, if_true] at seen ⊢
    have head : ∀ c, text.head? = some c → Text.isBlank c = false →
        text.dropWhile Text.isBlank = text := by
      intro c first plain
      cases text <;> simp_all
    cases found : text.dropWhile Text.isBlank with
    | nil =>
        rw [← Flags.skipIgnored_dropWhile, found] at seen
        obtain none | ⟨c, first, -, plain⟩ := seen
        · exact absurd rfl none
        · simp only [afterHash, List.head?_nil, Option.none_or] at first
          rw [head c first plain] at found
          simp [found] at first
    | cons first rest =>
        have left : text.dropWhile Text.isBlank ≠ [] := by simp [found]
        rw [dropWhile_append_of_left left, found, List.cons_append]
        by_cases hash : first = '#'
        · subst hash
          cases later : rest.dropWhile Text.isBlank with
          | nil =>
              have blank : ∀ c ∈ rest, Text.isBlank c = true := List.dropWhile_eq_nil_iff.mp later
              have skipped : Flags.skipIgnored false text = [] := by
                rw [← Flags.skipIgnored_dropWhile, found]
                exact Flags.skipIgnored_of_blank blank true
              rw [found, skipped] at seen
              obtain none | ⟨c, first, notHash, plain⟩ := seen
              · exact absurd rfl none
              · simp only [afterHash, later, List.head?_nil, Option.none_or] at first
                rw [head c first plain] at found
                simp only [found, List.head?_cons, Option.some.injEq] at first
                exact absurd first.symm notHash
          | cons second others =>
              have restLeft : rest.dropWhile Text.isBlank ≠ [] := by simp [later]
              simp [afterHash, dropWhile_append_of_left restLeft, later]
        · rw [afterHash_cons hash, afterHash_cons hash]
          rfl
  · simp only [peek, extended, Flags.skip] at seen ⊢
    cases text <;> simp_all

theorem local_readLast (first : Escape) : Local (readLast flags first) :=
  ((local_readItem flags).bind fun last =>
    .given (rangeOf flags first last) local_ok).afterSkip flags

theorem local_readFrom (first : Escape) : Local (readFrom flags first) := by
  intro text set rest taken
  cases skipped : flags.skip text with
  | nil => simp [readFrom, skipped] at taken
  | cons mark left =>
      have counts : flags.skip text ≠ [] := by simp [skipped]
      have suffix : mark :: left <:+ text := skipped ▸ flags.skip_suffix text
      have onward : ∀ more, flags.skip (text ++ more) = mark :: (left ++ more) := by
        intro more
        rw [flags.skip_append counts, skipped, List.cons_append]
      have single : Local fun text => itemSet flags first >>= fun set => .ok (set, text) :=
        .given _ local_ok
      by_cases hyphen : mark = '-'
      · subst hyphen
        by_cases next : peek flags left = some ']' ∨ peek flags left = some '-'
        · have seen : ∃ c, peek flags left = some c ∧ c ≠ '#' ∧ Text.isBlank c = false := by
            rcases next with next | next
            · exact ⟨_, next, by decide, by decide⟩
            · exact ⟨_, next, by decide, by decide⟩
          refine single.of_settled suffix (fun more => ?_) taken
          simp [readFrom, onward, peek_append flags (.inr seen), next]
          rfl
        · have range : readLast flags first left = .ok (set, rest) := by
            simpa [readFrom, skipped, not_or.mp next] using taken
          have seen : flags.skip left ≠ [] := by
            intro none
            simp only [readLast, none, readItem] at range
            cases range
          refine (local_readLast flags first).of_settled ((List.suffix_cons _ left).trans suffix)
            (fun more => ?_) taken
          simp [readFrom, onward, peek_append flags (.inl seen), not_or.mp next]
      · refine single.of_settled suffix (fun more => ?_) taken
        simp only [readFrom, onward]
        split
        · contradiction
        · simp_all
        · rfl

theorem local_readRange : Local (readRange flags) :=
  (local_readItem flags).bind (local_readFrom flags)

theorem readNegation_eq (text : List Char) :
    readNegation flags text =
      if (flags.skip text).head? = some '^' then (true, flags.skip (flags.skip text).tail)
      else (false, flags.skip text) := by
  unfold readNegation
  split
  · simp_all
  · rename_i plain
    cases skipped : flags.skip text <;> simp_all

theorem local_readNegation : Local fun text => .ok (readNegation flags text) := by
  suffices unextended : Local fun text =>
      .ok (if text.head? = some '^' then (true, flags.skip text.tail) else (false, text)) by
    simp only [readNegation_eq]
    exact unextended.afterSkip flags
  refine local_of_mark '^' false (by decide)
    (fun _ _ _ taken => ((local_ok true).afterSkip flags taken).cons) rfl ?_
  intro first differs text
  simp [differs]

theorem local_begin (negated : Bool) (hyphens : List Char) :
    Local (begin flags negated hyphens) := by
  intro text bracket rest taken
  match hyphens, text with
  | [], [] => cases taken
  | _ :: _, [] => cases taken
  | hyphen :: hyphens, first :: text =>
      refine (local_ok (ofCharacters negated (hyphen :: hyphens))).of_same (fun more => ?_) taken
      simp only [List.cons_append, begin]
  | [], first :: text =>
      by_cases closing : first = ']'
      · subst closing
        exact ((local_ok _).afterSkip flags taken).cons
      · refine (local_ok (ofCharacters negated [])).of_same (fun more => ?_) taken
        simp only [List.cons_append, begin]
        split <;> simp_all

theorem local_start : Local (start flags) :=
  (local_readNegation flags).bind fun negated =>
    .afterAll flags _ (fun _ _ => by simp [begin]) (local_begin flags negated)

theorem not_mem_of_posix? {name : List Char} {set : CharSet}
    (known : CharSet.posix? (String.ofList name) = some set) : ']' ∉ name := by
  suffices plain : ']' ∉ (String.ofList name).toList by simpa using plain
  unfold CharSet.posix? at known
  split at known
  case h_15 => cases known
  all_goals
    rename_i same
    rw [same]
    decide

def withRest (more : List Char) (found : CharSet × Bool × List Char) : CharSet × Bool × List Char :=
  (found.1, found.2.1, found.2.2 ++ more)

theorem posixNamed?_eq_none {negated : Bool} {text : List Char}
    (bad : ']' ∈ text.takeWhile (· ≠ ':')) : posixNamed? negated text = none := by
  unfold posixNamed?
  split
  · cases known : CharSet.posix? (String.ofList (text.takeWhile (· ≠ ':'))) with
    | none => rfl
    | some set => exact absurd bad (not_mem_of_posix? known)
  · rfl

theorem posixNamed?_append (negated : Bool) {text : List Char} (closes : ']' ∈ text)
    (more : List Char) :
    posixNamed? negated (text ++ more) = (posixNamed? negated text).map (withRest more) := by
  by_cases bad : ']' ∈ text.takeWhile (· ≠ ':')
  · rw [posixNamed?_eq_none bad, posixNamed?_eq_none]
    · rfl
    · rw [List.takeWhile_append]
      split
      · exact List.mem_append_left _ closes
      · exact bad
  · rw [← List.takeWhile_append_dropWhile (p := (· ≠ ':')) (l := text)] at closes
    have after := (List.mem_append.mp closes).resolve_left bad
    have left := List.ne_nil_of_mem after
    unfold posixNamed?
    rw [takeWhile_append_of_left left, dropWhile_append_of_left left]
    match text.dropWhile (· ≠ ':'), after with
    | [_], only =>
        obtain rfl := List.mem_singleton.mp only
        rfl
    | first :: second :: rest, _ =>
        by_cases ends : first = ':' ∧ second = ']'
        · obtain ⟨rfl, rfl⟩ := ends
          simp only [List.cons_append, Option.map_map]
          rfl
        · simp only [List.cons_append]
          split <;> split <;> simp_all

theorem readPosix?_append {text : List Char} (closes : ']' ∈ text) (more : List Char) :
    readPosix? (text ++ more) = (readPosix? text).map (withRest more) := by
  match text with
  | [first] =>
      obtain rfl := List.mem_singleton.mp closes
      rfl
  | first :: second :: rest =>
      by_cases colon : first = ':'
      · subst colon
        replace closes : ']' ∈ second :: rest := by simpa using closes
        by_cases negated : second = '^'
        · subst negated
          exact posixNamed?_append true (by simpa using closes) more
        · have plain : ∀ others, readPosix? (':' :: second :: others) =
              posixNamed? false (second :: others) := by
            intro others
            simp only [readPosix?]
            split <;> simp_all
          rw [List.cons_append, List.cons_append, plain, plain]
          exact posixNamed?_append false closes more
      · simp only [List.cons_append, readPosix?]
        split <;> split <;> simp_all

theorem suffix_of_readPosix? {text rest : List Char} {set : CharSet} {negated : Bool}
    (found : readPosix? text = some (set, negated, rest)) : rest <:+ text := by
  have named : ∀ {negated opposite : Bool} {set : CharSet} {text rest : List Char},
      posixNamed? negated text = some (set, opposite, rest) → rest <:+ text := by
    intro negated opposite set text rest found
    unfold posixNamed? at found
    split at found
    · rename_i after ends
      obtain ⟨_, _, same⟩ := Option.map_eq_some_iff.mp found
      cases same
      have whole : ':' :: ']' :: rest <:+ text := ends ▸ List.dropWhile_suffix _
      exact ((List.suffix_cons _ _).trans (List.suffix_cons _ _)).trans whole
    · cases found
  unfold readPosix? at found
  split at found
  · exact (named found).trans ((List.suffix_cons _ _).trans (List.suffix_cons _ _))
  · exact (named found).trans (List.suffix_cons _ _)
  · cases found

/-- Reading a class ends at a bracket within the text, so that nothing behind the text matters.
More fuel does not matter either: a longer text is read with more of it. -/
structure Ends (fuel : Nat) (bracket : Bracket) (outer : List Bracket) (text : List Char)
    (result : Bracket) (rest : List Char) : Prop where
  suffix : rest <:+ text
  closes : ']' ∈ text
  settled : ∀ more others, fuel ≤ others →
    read flags others bracket outer (text ++ more) = .ok (result, rest ++ more)

theorem Ends.step {flags : Flags} {fuel : Nat} {bracket next result : Bracket}
    {outer others : List Bracket} {text after rest : List Char}
    (ends : Ends flags fuel next others after result rest) (suffix : after <:+ text)
    (same : ∀ more fuel, read flags (fuel + 1) bracket outer (text ++ more) =
      read flags fuel next others (after ++ more)) :
    Ends flags (fuel + 1) bracket outer text result rest where
  suffix := ends.suffix.trans suffix
  closes := suffix.subset ends.closes
  settled more fuel' enough := by
    match fuel' with
    | fuel' + 1 =>
        rw [same]
        exact ends.settled more fuel' (by omega)

theorem suffix_of_readOperation? {text rest : List Char} {operation : SetOperation}
    (found : readOperation? text = some (operation, rest)) : rest <:+ text := by
  unfold readOperation? at found
  split at found
  case h_4 => cases found
  all_goals
    cases found
    exact (List.suffix_cons _ _).trans (List.suffix_cons _ _)

theorem readOperation?_append (first second : Char) (text more : List Char) :
    readOperation? (first :: second :: (text ++ more)) =
      (readOperation? (first :: second :: text)).map fun found => (found.1, found.2 ++ more) := by
  simp only [readOperation?]
  split <;> split <;> simp_all

theorem readOperation?_single (first : Char) : readOperation? [first] = none := by
  simp [readOperation?]

theorem read_of_plain {fuel : Nat} {bracket : Bracket} {outer : List Bracket}
    {text left : List Char} {first : Char} (skipped : flags.skip text = first :: left)
    (notOpening : first ≠ '[') (notClosing : first ≠ ']') :
    read flags (fuel + 1) bracket outer text =
      match readOperation? (first :: left) with
      | some (operation, rest) => read flags fuel (bracket.operate flags operation) outer rest
      | none => readRange flags (first :: left) >>= fun taken =>
          read flags fuel (bracket.addSet taken.1) outer taken.2 := by
  rw [read, skipped]
  split
  case h_4 => rfl
  all_goals simp_all

theorem readRange_single (first : Char) (taken : CharSet × List Char) :
    readRange flags [first] ≠ .ok taken := by
  by_cases escaped : first = '\\'
  · subst escaped
    exact nofun
  · simp [readRange, readItem, readFrom, flags.skip_nil, bind, Except.bind]

section Step

variable {flags : Flags} {fuel : Nat} {bracket result : Bracket} {outer : List Bracket}
  {text left rest : List Char}
  (ih : ∀ {bracket : Bracket} {outer : List Bracket} {text : List Char},
    read flags fuel bracket outer text = .ok (result, rest) →
      Ends flags fuel bracket outer text result rest)
  (taken : read flags (fuel + 1) bracket outer text = .ok (result, rest))

include ih taken

theorem Ends.of_opening (skipped : flags.skip text = '[' :: left) :
    Ends flags (fuel + 1) bracket outer text result rest := by
  have onward := @Flags.skip_append flags text (by simp [skipped])
  have suffix : left <:+ text :=
    (List.suffix_cons '[' left).trans (skipped ▸ flags.skip_suffix text)
  rw [skipped] at onward
  rw [read, skipped] at taken
  cases posix : readPosix? left with
  | some found =>
      obtain ⟨set, negated, after⟩ := found
      simp only [posix] at taken
      obtain ⟨members, allowed, taken⟩ := exists_of_bind taken
      have closes := (suffix_of_readPosix? posix).subset (ih taken).closes
      refine (ih taken).step ((suffix_of_readPosix? posix).trans suffix) fun more fuel => ?_
      rw [read, onward]
      simp only [List.cons_append, readPosix?_append closes, posix, Option.map_some, withRest,
        allowed]
      rfl
  | none =>
      simp only [posix] at taken
      obtain ⟨⟨inner, after⟩, started, taken⟩ := exists_of_bind taken
      have reads := local_start flags started
      have closes := reads.suffix.subset (ih taken).closes
      refine (ih taken).step (reads.suffix.trans suffix) fun more fuel => ?_
      rw [read, onward]
      simp only [List.cons_append, readPosix?_append closes, posix, Option.map_none,
        reads.settled (List.ne_nil_of_mem (ih taken).closes)]
      rfl

theorem Ends.of_closing (skipped : flags.skip text = ']' :: left) :
    Ends flags (fuel + 1) bracket outer text result rest := by
  have onward := @Flags.skip_append flags text (by simp [skipped])
  have suffix : ']' :: left <:+ text := skipped ▸ flags.skip_suffix text
  have leftSuffix := (List.suffix_cons ']' left).trans suffix
  rw [skipped] at onward
  rw [read, skipped] at taken
  cases outer with
  | nil =>
      cases taken
      refine ⟨leftSuffix, suffix.subset List.mem_cons_self, fun more fuel enough => ?_⟩
      match fuel with
      | fuel + 1 =>
          rw [read, onward]
          rfl
  | cons enclosing others =>
      obtain ⟨next, added, taken⟩ := exists_of_bind taken
      refine (ih taken).step leftSuffix fun more fuel => ?_
      rw [read, onward]
      simp only [List.cons_append, added]
      rfl

theorem Ends.of_plain {first : Char} (skipped : flags.skip text = first :: left)
    (notOpening : first ≠ '[') (notClosing : first ≠ ']') :
    Ends flags (fuel + 1) bracket outer text result rest := by
  rw [read_of_plain flags skipped notOpening notClosing] at taken
  match left with
  | [] =>
      rw [readOperation?_single] at taken
      obtain ⟨found, ranged, -⟩ := exists_of_bind taken
      exact absurd ranged (readRange_single flags first found)
  | second :: left =>
      have suffix : first :: second :: left <:+ text := skipped ▸ flags.skip_suffix text
      have onward : ∀ more, flags.skip (text ++ more) = first :: second :: (left ++ more) := by
        intro more
        rw [flags.skip_append (by simp [skipped]), skipped]
        rfl
      cases found : readOperation? (first :: second :: left) with
      | some outcome =>
          obtain ⟨operation, after⟩ := outcome
          simp only [found] at taken
          refine (ih taken).step ((suffix_of_readOperation? found).trans suffix) fun more fuel => ?_
          rw [read_of_plain flags (onward more) notOpening notClosing, readOperation?_append, found]
          rfl
      | none =>
          simp only [found] at taken
          obtain ⟨⟨set, after⟩, ranged, taken⟩ := exists_of_bind taken
          have reads := local_readRange flags ranged
          refine (ih taken).step (reads.suffix.trans suffix) fun more fuel => ?_
          rw [read_of_plain flags (onward more) notOpening notClosing, readOperation?_append, found]
          have settled := reads.settled (List.ne_nil_of_mem (ih taken).closes) more
          simp only [List.cons_append] at settled
          simp only [Option.map_none, settled]
          rfl

end Step

theorem ends_of_read {fuel : Nat} {bracket result : Bracket} {outer : List Bracket}
    {text rest : List Char} (taken : read flags fuel bracket outer text = .ok (result, rest)) :
    Ends flags fuel bracket outer text result rest := by
  induction fuel generalizing bracket outer text with
  | zero => cases taken
  | succ fuel ih =>
      cases skipped : flags.skip text with
      | nil => simp [read, skipped] at taken
      | cons first left =>
          by_cases opening : first = '['
          · exact .of_opening ih taken (opening ▸ skipped)
          · by_cases closing : first = ']'
            · exact .of_closing ih taken (closing ▸ skipped)
            · exact .of_plain ih taken skipped opening closing

theorem local_readClass : Local (readClass flags) := by
  intro text bracket rest taken
  obtain ⟨⟨inner, after⟩, started, taken⟩ := exists_of_bind taken
  have ends := ends_of_read flags taken
  have reads := local_start flags started
  refine .of_append (ends.suffix.trans reads.suffix) fun more => ?_
  rw [readClass, reads.settled (List.ne_nil_of_mem ends.closes)]
  exact ends.settled more _ (by simp)

end Bracket

end CrossBuild
