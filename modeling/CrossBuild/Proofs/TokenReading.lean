import CrossBuild.Pattern.Token
import CrossBuild.Proofs.ClassReading

/-!
Every token of a pattern is read locally.
-/

namespace CrossBuild

namespace Token

open Reader

variable (flags : Flags)

theorem local_repeating (least : Nat) (most : Option Nat) :
    Local fun text => .ok (repeating flags least most text) := by
  refine local_of_mark '?' _ (by decide) (fun _ _ _ taken => (local_ok _ taken).cons) rfl ?_
  intro first differs text
  simp only [repeating]
  split
  · simp_all
  · rfl

theorem local_readDecimal : Local fun text => .ok (readDecimal flags text) :=
  ((local_readAll flags Char.isDigit rfl).bind fun digits =>
    ((local_ok (decimal digits)).afterSkip flags).afterBlanks).afterBlanks

theorem local_readUpper : Local (readUpper flags) := by
  have bounded : ∀ first, first ≠ '\x7d' → ∀ text, readUpper flags (first :: text) =
      (readDecimal flags (first :: text)).1 >>= fun most =>
        .ok (some most, (readDecimal flags (first :: text)).2) := by
    intro first differs text
    simp only [readUpper]
    split
    · simp_all
    · rfl
  intro text value rest taken
  match text with
  | [] => cases taken
  | first :: text =>
      by_cases brace : first = '\x7d'
      · subst brace
        exact (local_ok none).of_same (fun _ => rfl) taken
      · have reads := (local_readDecimal flags).bind fun number => .given number fun most =>
          local_ok (some most)
        exact reads.of_same (fun more => bounded first brace (text ++ more)) taken

theorem local_readMost (least : Nat) : Local (readMost flags least) := by
  refine local_of_mark ',' _ (by decide)
    (fun _ _ _ taken => ((local_readUpper flags).afterSkip flags taken).cons) rfl ?_
  intro first differs text
  simp only [readMost]
  split
  · simp_all
  · rfl

theorem local_closeCounted (least : Nat) (most : Option Nat) :
    Local (closeCounted flags least most) := by
  refine local_of_only_mark '\x7d' .unclosedRepetition (fun _ => nofun) ?_ ?_
  · simp only [closeCounted]
    split
    · exact (local_repeating flags least none).afterSkip flags
    · split
      · exact local_error _
      · exact (local_repeating flags least _).afterSkip flags
  · intro first differs text
    simp only [closeCounted]
    split
    · simp_all
    · rfl

theorem local_readCounted : Local (readCounted flags) :=
  ((local_readDecimal flags).bind fun number => .given number fun least =>
    (local_readMost flags least).bind fun most =>
      local_closeCounted flags least most).afterSkip flags

theorem local_readName : Local readName := by
  intro text name rest taken
  cases found : text.dropWhile (· ≠ '>') with
  | nil =>
      unfold readName at taken
      rw [found] at taken
      cases taken
  | cons mark left =>
      have closed : text.dropWhile (· ≠ '>') ≠ [] := by
        rw [found]
        exact List.cons_ne_nil mark left
      have same : ∀ more, readName (text ++ more) =
          captureName (text.takeWhile (· ≠ '>')) >>= fun name => .ok (name, left ++ more) := by
        intro more
        rw [readName, takeWhile_append_of_left closed, dropWhile_append_of_left closed, found]
        rfl
      have suffix : left <:+ text := (List.suffix_cons mark left).trans
        (found ▸ List.dropWhile_suffix _)
      exact (Local.given _ local_ok).of_settled suffix same taken

theorem local_readNamed : Local readNamed :=
  local_readName.bind fun name => local_ok (openCapture (some name))

theorem local_readFlags : Local readFlags := by
  intro text token rest taken
  obtain ⟨⟨changes, terminator, left⟩, found, -⟩ := exists_of_bind taken
  obtain ⟨suffix, onward⟩ := Flags.read_append found
  have ends : Local fun text => if terminator = ':' then .ok (openGroup changes, text)
      else if changes.isEmpty then .error .nothingToRepeat
      else .ok (setFlags changes, text) := by
    split
    · exact local_ok _
    · split
      · exact local_error _
      · exact local_ok _
  refine ends.of_settled suffix (fun more => ?_) taken
  rw [readFlags, onward]
  simp only [bind, Except.bind]
  split
  · rfl
  · split <;> rfl

theorem local_readMarked : Local readMarked := by
  intro text token rest taken
  have marked := taken
  unfold readMarked at taken
  split at taken
  case h_5 text => exact (local_readNamed taken).cons.cons
  case h_6 text notAhead notBehind =>
    match text with
    | [] => cases taken
    | first :: text =>
        refine local_readNamed.of_settled (List.suffix_cons '<' _) (fun more => ?_) marked
        simp only [List.cons_append, readMarked]
        split <;> simp_all
  case h_7 notAhead notBehind named plain =>
    match text with
    | [] => cases taken
    | [first] =>
        have unnamed : first ≠ 'P' := by
          rintro rfl
          cases taken
        refine local_readFlags.of_same (fun more => ?_) marked
        simp only [List.cons_append, readMarked]
        split <;> simp_all
    | first :: second :: text =>
        refine local_readFlags.of_same (fun more => ?_) marked
        simp only [List.cons_append, readMarked]
        split <;> simp_all
  all_goals cases taken

theorem local_readGroup : Local (readGroup flags) := by
  suffices unextended : Local (readGroup {}) from unextended.afterSkip flags
  refine local_of_mark '?' _ (by decide) (fun _ _ _ taken => (local_readMarked taken).cons) rfl ?_
  intro first differs text
  simp only [readGroup, Flags.skip, if_false, Bool.false_eq_true]
  split
  · simp_all
  · rfl

theorem local_ofPattern (pattern : Except PatternError Pattern) : Local (ofPattern pattern) := by
  cases pattern with
  | error reason => exact local_error reason
  | ok pattern => exact local_ok _

theorem local_ofEscape (escape : Escape) : Local (ofEscape flags escape) := by
  cases escape with
  | character character asByte => exact local_ofPattern _
  | set negated members => exact local_ofPattern _
  | look condition => exact local_ok _

theorem local_ofBracket (bracket : Bracket) : Local (ofBracket flags bracket) :=
  .given (flags.classOf bracket.negated _) fun _ => local_ok _

theorem local_read (first : Char) : Local (read flags first) := by
  unfold read
  split
  case h_1 => exact local_readGroup flags
  case h_4 => exact (Bracket.local_readClass flags).bind (local_ofBracket flags)
  case h_5 => exact local_repeating flags 0 (some 1)
  case h_6 => exact local_repeating flags 0 none
  case h_7 => exact local_repeating flags 1 none
  case h_8 => exact local_readCounted flags
  case h_9 => exact (Escape.local_read flags).bind (local_ofEscape flags)
  all_goals first | exact local_ok _ | exact local_ofPattern _

end Token

end CrossBuild
