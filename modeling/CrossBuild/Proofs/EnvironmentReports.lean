import CrossBuild.Proofs.LabelGrammar
import CrossBuild.Restriction.Report
import Mathlib.Data.List.Basic

/-!
Reports of missing environments can be read back.  A label holds no blank, so a report falls into
lines, each kind of line shows at its beginning, and a separator shows by what follows it whether
the target goes on.
-/

namespace CrossBuild

namespace Text

theorem splitOn_toList_intercalate {mark : Char} {separator : String}
    (single : separator.toList = [mark]) {pieces : List String}
    (plain : ∀ piece ∈ pieces, mark ∉ piece.toList) (nonempty : pieces ≠ []) :
    ((separator.intercalate pieces).toList.splitOn mark).map String.ofList = pieces := by
  rw [String.toList_intercalate, single,
    List.splitOn_intercalate mark (by simpa using plain) (by simpa using nonempty), List.map_map]
  simp [Function.comp_def]

def linesOf (text : String) : List String := (text.toList.splitOn '\n').map String.ofList

theorem linesOf_intercalate {lines : List String} (plain : ∀ line ∈ lines, '\n' ∉ line.toList)
    (nonempty : lines ≠ []) : linesOf ("\n".intercalate lines) = lines :=
  splitOn_toList_intercalate rfl plain nonempty

theorem append_cons_inj {mark : Char} {front other rest otherRest : List Char}
    (plain : mark ∉ front) (otherPlain : mark ∉ other)
    (same : front ++ mark :: rest = other ++ mark :: otherRest) :
    front = other ∧ rest = otherRest := by
  obtain ⟨more, rfl, behind⟩ | ⟨more, rfl, behind⟩ := List.append_eq_append_iff.mp same
  · cases more with
    | nil => exact ⟨(List.append_nil front).symm, (List.cons.inj behind).2⟩
    | cons first more =>
        obtain ⟨rfl, _⟩ := List.cons.inj behind
        exact absurd (by simp) otherPlain
  · cases more with
    | nil => exact ⟨List.append_nil other, (List.cons.inj behind).2.symm⟩
    | cons first more =>
        obtain ⟨rfl, _⟩ := List.cons.inj behind
        exact absurd (by simp) plain

end Text

namespace Label

variable {label other : Label} {labels others : List Label}

theorem text_inj (read : label ∈ readable) (otherRead : other ∈ readable)
    (same : label.text = other.text) : label = other :=
  injOn_of_reads (fun _ ⟨_, known⟩ => parse_text (parts_of_parse known).1) read otherRead same

theorem head?_text (label : Label) : label.text.toList.head? = some '/' ∨
    label.text.toList.head? = some '@' := by
  unfold text
  split
  · exact .inl (by simp [path])
  · exact .inr (by simp)

theorem not_blank_of_mem_text (read : label ∈ readable) {character : Char}
    (member : character ∈ label.text.toList) : Text.isBlank character = false := by
  obtain ⟨_, known⟩ := read
  obtain ⟨wellFormed, _⟩ := parts_of_parse known
  have parts : character ∈ label.repository.toList ∨ character ∈ label.package.toList ∨
      character ∈ label.name.toList ∨ character = '/' ∨ character = ':' ∨ character = '@' := by
    unfold text path at member
    split at member <;> simp at member <;> grind
  obtain repository | package | name | rfl | rfl | rfl := parts
  · exact (wellFormed.repository_clean _ repository).1
  · exact (wellFormed.package_clean _ package).1
  · exact (wellFormed.name_clean _ name).1
  all_goals decide

theorem space_not_mem_text (read : label ∈ readable) : ' ' ∉ label.text.toList :=
  fun member => absurd (not_blank_of_mem_text read member) (by decide)

theorem lineFeed_not_mem_text (read : label ∈ readable) : '\n' ∉ label.text.toList :=
  fun member => absurd (not_blank_of_mem_text read member) (by decide)

theorem text_ne_empty (label : Label) : label.text ≠ "" := by
  intro empty
  have first := head?_text label
  simp [empty] at first

theorem commaList_singleton (label : Label) : Text.commaList [label] = label.text := by
  simp [Text.commaList]

theorem toList_commaList_cons_cons (first second : Label) (rest : List Label) :
    (Text.commaList (first :: second :: rest)).toList =
      (first.text.toList ++ [',']) ++ ' ' :: (Text.commaList (second :: rest)).toList := by
  simp [Text.commaList]

theorem commaList_ne_empty (first : Label) (rest : List Label) :
    Text.commaList (first :: rest) ≠ "" := by
  cases rest with
  | nil =>
      rw [commaList_singleton]
      exact text_ne_empty first
  | cons second rest =>
      intro empty
      have listed := toList_commaList_cons_cons first second rest
      simp [empty] at listed

theorem commaList_singleton_ne (read : label ∈ readable) (first second : Label)
    (rest : List Label) : Text.commaList [label] ≠ Text.commaList (first :: second :: rest) := by
  intro same
  have spaced : ' ' ∈ (Text.commaList (first :: second :: rest)).toList := by
    simp [toList_commaList_cons_cons]
  rw [← same, commaList_singleton] at spaced
  exact space_not_mem_text read spaced

theorem lineFeed_not_mem_commaList (read : ∀ label ∈ labels, label ∈ readable) :
    '\n' ∉ (Text.commaList labels).toList := by
  induction labels with
  | nil => exact List.not_mem_nil
  | cons first rest ih =>
      rw [List.forall_mem_cons] at read
      have plain := lineFeed_not_mem_text read.1
      cases rest with
      | nil => rwa [commaList_singleton]
      | cons second rest =>
          rw [toList_commaList_cons_cons]
          simpa [plain] using ih read.2

theorem commaList_inj (read : ∀ label ∈ labels, label ∈ readable)
    (otherRead : ∀ label ∈ others, label ∈ readable)
    (same : Text.commaList labels = Text.commaList others) : labels = others := by
  induction labels generalizing others with
  | nil =>
      cases others with
      | nil => rfl
      | cons first rest => exact absurd same.symm (commaList_ne_empty first rest)
  | cons first rest ih =>
      rw [List.forall_mem_cons] at read
      cases others with
      | nil => exact absurd same (commaList_ne_empty first rest)
      | cons other otherRest =>
          rw [List.forall_mem_cons] at otherRead
          cases rest with
          | nil =>
              cases otherRest with
              | nil =>
                  rw [commaList_singleton, commaList_singleton] at same
                  rw [text_inj read.1 otherRead.1 same]
              | cons otherSecond otherRest =>
                  exact (commaList_singleton_ne read.1 _ _ _ same).elim
          | cons second rest =>
              cases otherRest with
              | nil => exact (commaList_singleton_ne otherRead.1 _ _ _ same.symm).elim
              | cons otherSecond otherRest =>
                  have lists := congrArg String.toList same
                  rw [toList_commaList_cons_cons, toList_commaList_cons_cons] at lists
                  -- The first space of either text stands behind its first label.
                  obtain ⟨front, behind⟩ := Text.append_cons_inj
                    (by simpa using space_not_mem_text read.1)
                    (by simpa using space_not_mem_text otherRead.1) lists
                  have firsts := String.toList_inj.mp (List.append_cancel_right front)
                  rw [text_inj read.1 otherRead.1 firsts,
                    ih read.2 otherRead.2 (String.toList_inj.mp behind)]

end Label

namespace MissingEnvironment

def labels (missing : MissingEnvironment) : List Label :=
  missing.environment ::
    missing.removal.elim [] fun removal => [removal.culprit, removal.selectedDependency]

def Readable (missing : MissingEnvironment) : Prop :=
  ∀ label ∈ missing.labels, label ∈ Label.readable

def Indented (line : String) : Prop := [' ', ' '] <+: line.toList

instance (line : String) : Decidable (Indented line) := inferInstanceAs (Decidable (_ <+: _))

theorem indented_append (rest : String) : Indented ("  " ++ rest) := by
  simp [Indented]

theorem indented_of_mem_lines {missing : MissingEnvironment} {line : String}
    (member : line ∈ missing.lines) : Indented line := by
  unfold lines at member
  split at member
  · rw [List.mem_singleton] at member
    subst member
    exact indented_append _
  · simp only [List.mem_cons, List.not_mem_nil, or_false] at member
    obtain rfl | rfl | rfl | rfl := member <;> simp [Indented]

theorem exists_lines_eq_cons (missing : MissingEnvironment) :
    ∃ line rest, missing.lines = line :: rest ∧ Indented line := by
  have indented : ∀ line ∈ missing.lines, Indented line := fun _ => indented_of_mem_lines
  cases shape : missing.lines with
  | nil => unfold lines at shape; split at shape <;> cases shape
  | cons line rest =>
      rw [shape] at indented
      exact ⟨line, rest, rfl, indented line List.mem_cons_self⟩

theorem lineFeed_not_mem_of_mem_lines {missing : MissingEnvironment} (readable : missing.Readable)
    {line : String} (member : line ∈ missing.lines) : '\n' ∉ line.toList := by
  have plain : ∀ label ∈ missing.labels, '\n' ∉ label.text.toList :=
    fun label isLabel => Label.lineFeed_not_mem_text (readable label isLabel)
  obtain ⟨environment, _ | ⟨culprit, dependency⟩⟩ := missing
  · rw [lines, List.mem_singleton] at member
    simpa [member, labels] using plain
  · simp only [labels, Option.elim_some, List.forall_mem_cons] at plain
    simp only [lines, List.mem_cons, List.not_mem_nil, or_false] at member
    obtain rfl | rfl | rfl | rfl := member <;> simp [plain]

theorem bare_ne_block (label : Label) (rest : String) :
    "  " ++ label.text ≠ "  environment: " ++ rest := by
  intro same
  have lists := congrArg String.toList same
  have first := Label.head?_text label
  simp at lists
  simp [lists] at first

theorem lines_append_inj {missing other : MissingEnvironment} (readable : missing.Readable)
    (otherReadable : other.Readable) {rest otherRest : List String}
    (same : missing.lines ++ rest = other.lines ++ otherRest) :
    missing = other ∧ rest = otherRest := by
  -- A block begins with a word that no label begins with, so both entries are of one kind.
  obtain ⟨environment, _ | ⟨culprit, dependency⟩⟩ := missing
  · obtain ⟨otherEnvironment, _ | ⟨otherCulprit, otherDependency⟩⟩ := other
    · obtain ⟨line, behind⟩ := List.cons.inj same
      rw [Label.text_inj (readable environment List.mem_cons_self)
        (otherReadable otherEnvironment List.mem_cons_self) (String.append_right_inj _ |>.mp line)]
      exact ⟨rfl, behind⟩
    · exact (bare_ne_block _ _ (List.cons.inj same).1).elim
  · obtain ⟨otherEnvironment, _ | ⟨otherCulprit, otherDependency⟩⟩ := other
    · exact (bare_ne_block _ _ (List.cons.inj same).1.symm).elim
    · simp only [lines, List.cons_append, List.nil_append, List.cons.injEq, String.append_right_inj,
        Label.toString_eq_text] at same
      obtain ⟨environments, culprits, dependencies, _, behind⟩ := same
      rw [Label.text_inj (readable _ (by simp [labels])) (otherReadable _ (by simp [labels]))
          environments,
        Label.text_inj (readable _ (by simp [labels])) (otherReadable _ (by simp [labels]))
          culprits,
        Label.text_inj (readable _ (by simp [labels])) (otherReadable _ (by simp [labels]))
          dependencies]
      exact ⟨rfl, behind⟩

end MissingEnvironment

namespace EnvironmentReport

open MissingEnvironment (Indented exists_lines_eq_cons lines_append_inj)

def labels (report : EnvironmentReport) : List Label :=
  report.target :: report.declared ++ report.missing.flatMap MissingEnvironment.labels

def Readable (report : EnvironmentReport) : Prop := ∀ label ∈ report.labels, label ∈ Label.readable

def gap (first second : MissingEnvironment) : List String :=
  if first.removal.isSome || second.removal.isSome then [separator] else []

def following (before : Option MissingEnvironment) : List MissingEnvironment → List String
  | [] => []
  | first :: rest =>
      before.elim [] (gap · first) ++ (first.lines ++ following (some first) rest)

theorem entryLines_cons (first : MissingEnvironment) (rest : List MissingEnvironment) :
    entryLines (first :: rest) = first.lines ++ following (some first) rest := by
  induction rest generalizing first with
  | nil => simp [entryLines, following]
  | cons second rest ih =>
      rw [following, ← ih second, ← List.append_assoc]
      rfl

theorem entryLines_eq_following (entries : List MissingEnvironment) :
    entryLines entries = following none entries := by
  cases entries with
  | nil => rfl
  | cons first rest => rw [entryLines_cons, following, Option.elim_none, List.nil_append]

theorem not_indented_separator : ¬Indented separator := by decide

theorem separator_not_mem_lines (missing : MissingEnvironment) : separator ∉ missing.lines :=
  fun member => not_indented_separator (MissingEnvironment.indented_of_mem_lines member)

def Ends (lines : List String) : Prop :=
  ∃ later, lines = separator :: later ∧ ∀ line ∈ later.head?, ¬Indented line

variable {before : Option MissingEnvironment} {first other : MissingEnvironment}
  {entries others : List MissingEnvironment} {after otherAfter rest otherRest : List String}

theorem gap_eq (before : Option MissingEnvironment) (first : MissingEnvironment) :
    before.elim [] (gap · first) = [] ∨ before.elim [] (gap · first) = [separator] := by
  cases before with
  | none => exact .inl rfl
  | some before =>
      rw [Option.elim_some, gap]
      split
      · exact .inr rfl
      · exact .inl rfl

theorem Ends.ne_entry (ends : Ends after) (before : Option MissingEnvironment)
    (first : MissingEnvironment) (rest : List String) :
    after ≠ before.elim [] (gap · first) ++ (first.lines ++ rest) := by
  rintro rfl
  obtain ⟨later, shape, bare⟩ := ends
  obtain ⟨line, more, lines, indented⟩ := exists_lines_eq_cons first
  rw [lines] at shape
  obtain none | one := gap_eq before first
  · rw [none] at shape
    cases shape
    exact not_indented_separator indented
  · rw [one] at shape
    cases shape
    exact bare line rfl indented

theorem entry_of_gap_append
    (same : before.elim [] (gap · first) ++ (first.lines ++ rest) =
      before.elim [] (gap · other) ++ (other.lines ++ otherRest)) :
    first.lines ++ rest = other.lines ++ otherRest := by
  obtain ⟨line, more, lines, indented⟩ := exists_lines_eq_cons first
  obtain ⟨otherLine, otherMore, otherLines, otherIndented⟩ := exists_lines_eq_cons other
  rw [lines, otherLines] at same ⊢
  obtain none | one := gap_eq before first <;> obtain otherNone | otherOne := gap_eq before other
  · rwa [none, otherNone] at same
  · rw [none, otherOne] at same
    exact absurd ((List.cons.inj same).1 ▸ indented) not_indented_separator
  · rw [one, otherNone] at same
    exact absurd ((List.cons.inj same).1 ▸ otherIndented) not_indented_separator
  · rw [one, otherOne] at same
    exact (List.cons.inj same).2

/-- The entries of a target can be told from their lines and what follows them. -/
theorem following_append_inj (readable : ∀ entry ∈ entries, entry.Readable)
    (otherReadable : ∀ entry ∈ others, entry.Readable) (ends : Ends after)
    (otherEnds : Ends otherAfter)
    (same : following before entries ++ after = following before others ++ otherAfter) :
    entries = others ∧ after = otherAfter := by
  induction entries generalizing before others with
  | nil =>
      cases others with
      | nil => exact ⟨rfl, same⟩
      | cons other others =>
          simp only [following, List.append_assoc] at same
          exact (ends.ne_entry _ _ _ same).elim
  | cons first entries ih =>
      rw [List.forall_mem_cons] at readable
      cases others with
      | nil =>
          simp only [following, List.append_assoc] at same
          exact (otherEnds.ne_entry _ _ _ same.symm).elim
      | cons other others =>
          rw [List.forall_mem_cons] at otherReadable
          simp only [following, List.append_assoc] at same
          obtain ⟨rfl, behind⟩ :=
            lines_append_inj readable.1 otherReadable.1 (entry_of_gap_append same)
          obtain ⟨rfl, rfl⟩ := ih readable.2 otherReadable.2 behind
          exact ⟨rfl, rfl⟩

theorem not_indented_header (label : Label) (rest : String) : ¬Indented (label.text ++ rest) := by
  have first := Label.head?_text label
  unfold Indented
  cases shape : label.text.toList with
  | nil => simp [shape] at first
  | cons head tail =>
      rw [String.toList_append, shape, List.cons_append, List.cons_prefix_cons]
      rintro ⟨rfl, _⟩
      simp [shape] at first

theorem ends_reports (reports : List EnvironmentReport) :
    Ends (reports.flatMap lines ++ [separator]) := by
  cases reports with
  | nil => exact ⟨[], rfl, by simp⟩
  | cons report reports =>
      refine ⟨_, rfl, ?_⟩
      intro line isHeader
      cases isHeader
      exact not_indented_header _ _

theorem report_of_lines_append {report other : EnvironmentReport} (readable : report.Readable)
    (otherReadable : other.Readable) (ends : Ends after) (otherEnds : Ends otherAfter)
    (same : report.lines ++ after = other.lines ++ otherAfter) :
    report = other ∧ after = otherAfter := by
  obtain ⟨target, declared, missing⟩ := report
  obtain ⟨otherTarget, otherDeclared, otherMissing⟩ := other
  simp only [lines, Text.bracketList, List.cons_append, List.nil_append, List.cons.injEq,
    String.append_right_inj, String.append_left_inj, Label.toString_eq_text, true_and,
    entryLines_eq_following] at same
  obtain ⟨targets, lists, behind⟩ := same
  simp only [Readable, labels, List.cons_append, List.forall_mem_cons, List.forall_mem_append,
    List.forall_mem_flatMap] at readable otherReadable
  obtain ⟨rfl, rfl⟩ :=
    following_append_inj readable.2.2 otherReadable.2.2 ends otherEnds behind
  rw [Label.text_inj readable.1 otherReadable.1 targets,
    Label.commaList_inj readable.2.1 otherReadable.2.1 lists]
  exact ⟨rfl, rfl⟩

theorem reports_of_lines {reports others : List EnvironmentReport}
    (readable : ∀ report ∈ reports, report.Readable)
    (otherReadable : ∀ report ∈ others, report.Readable)
    (same : reports.flatMap lines ++ [separator] = others.flatMap lines ++ [separator]) :
    reports = others := by
  induction reports generalizing others with
  | nil =>
      cases others with
      | nil => rfl
      | cons other others => simp [lines] at same
  | cons report reports ih =>
      rw [List.forall_mem_cons] at readable
      cases others with
      | nil => simp [lines] at same
      | cons other others =>
          rw [List.forall_mem_cons] at otherReadable
          rw [List.flatMap_cons, List.flatMap_cons, List.append_assoc, List.append_assoc] at same
          obtain ⟨rfl, behind⟩ := report_of_lines_append readable.1 otherReadable.1
            (ends_reports reports) (ends_reports others) same
          rw [ih readable.2 otherReadable.2 behind]

theorem following_append (before : Option MissingEnvironment) (front : List MissingEnvironment)
    (last : MissingEnvironment) (rest : List MissingEnvironment) :
    following before (front ++ last :: rest) =
      following before (front ++ [last]) ++ following (some last) rest := by
  induction front generalizing before with
  | nil => simp [following]
  | cons first front ih => simp only [List.cons_append, following, ih, List.append_assoc]

theorem entryLines_append (front : List MissingEnvironment) (first second : MissingEnvironment)
    (rest : List MissingEnvironment) :
    entryLines (front ++ first :: second :: rest) =
      entryLines (front ++ [first]) ++ gap first second ++ entryLines (second :: rest) := by
  rw [entryLines_eq_following, following_append, ← entryLines_eq_following, entryLines_cons,
    following, List.append_assoc]
  rfl

theorem lines_suffix_entryLines (front : List MissingEnvironment) (last : MissingEnvironment) :
    last.lines <:+ entryLines (front ++ [last]) := by
  rw [entryLines_eq_following]
  generalize none = before
  induction front generalizing before with
  | nil =>
      rw [List.nil_append, following, following, List.append_nil]
      exact List.suffix_append _ _
  | cons first front ih =>
      rw [List.cons_append, following, ← List.append_assoc]
      exact (ih (some first)).trans (List.suffix_append _ _)

theorem lines_prefix_entryLines (first : MissingEnvironment) (rest : List MissingEnvironment) :
    first.lines <+: entryLines (first :: rest) := by
  rw [entryLines_cons]
  exact List.prefix_append _ _

theorem mem_entryLines {line : String} (member : line ∈ entryLines entries) :
    line = separator ∨ ∃ entry ∈ entries, line ∈ entry.lines := by
  rw [entryLines_eq_following] at member
  revert member
  generalize none = before
  induction entries generalizing before with
  | nil => intro impossible; cases impossible
  | cons first entries ih =>
      intro member
      rw [following, List.mem_append, List.mem_append] at member
      obtain gap | own | later := member
      · obtain none | one := gap_eq before first
        · rw [none] at gap
          cases gap
        · rw [one, List.mem_singleton] at gap
          exact .inl gap
      · exact .inr ⟨first, List.mem_cons_self, own⟩
      · obtain separator | ⟨entry, known, own⟩ := ih _ later
        · exact .inl separator
        · exact .inr ⟨entry, List.mem_cons_of_mem _ known, own⟩

theorem lineFeed_not_mem_of_mem_lines {report : EnvironmentReport} (readable : report.Readable)
    {line : String} (member : line ∈ report.lines) : '\n' ∉ line.toList := by
  simp only [Readable, labels, List.cons_append, List.forall_mem_cons, List.forall_mem_append,
    List.forall_mem_flatMap] at readable
  have target := Label.lineFeed_not_mem_text readable.1
  have declared := Label.lineFeed_not_mem_commaList readable.2.1
  simp only [lines, List.cons_append, List.nil_append, List.mem_cons] at member
  obtain rfl | rfl | rfl | rfl | entry := member
  · decide
  · simp [target]
  · simp [Text.bracketList, declared]
  · decide
  · obtain rfl | ⟨entry, known, own⟩ := mem_entryLines entry
    · decide
    · exact MissingEnvironment.lineFeed_not_mem_of_mem_lines (readable.2.2 entry known) own

theorem linesOf_message {reports : List EnvironmentReport}
    (readable : ∀ report ∈ reports, report.Readable) :
    Text.linesOf (message reports) =
      "This is a restricted-environment build." :: reports.flatMap lines ++ [separator] := by
  refine Text.linesOf_intercalate ?_ (by simp)
  intro line member
  simp only [List.cons_append, List.mem_cons, List.mem_append, List.mem_flatMap,
    List.not_mem_nil, or_false] at member
  obtain rfl | ⟨report, known, own⟩ | rfl := member
  · decide
  · exact lineFeed_not_mem_of_mem_lines (readable report known) own
  · decide

/-- Different reports on labels that were read from texts have different messages.  The lines of a
message show where entries end: a separator stands beside a block with a culprit and at the end of
the message, and there is none between two environments that were never declared. -/
theorem message_tells (reports : List EnvironmentReport)
    (readable : ∀ report ∈ reports, report.Readable) :
    (∀ others, (∀ report ∈ others, report.Readable) → message reports = message others →
      reports = others) ∧
    Text.linesOf (message reports) =
      "This is a restricted-environment build." :: reports.flatMap lines ++ [separator] ∧
    ∀ report ∈ reports, (∀ entry ∈ report.missing, separator ∉ entry.lines) ∧
      ∀ before first second after, report.missing = before ++ first :: second :: after →
        entryLines report.missing =
            entryLines (before ++ [first]) ++
              (if first.removal.isSome || second.removal.isSome then [separator] else []) ++
              entryLines (second :: after) ∧
          first.lines <:+ entryLines (before ++ [first]) ∧
          second.lines <+: entryLines (second :: after) := by
  refine ⟨?_, linesOf_message readable, ?_⟩
  · intro others otherReadable same
    have lines := congrArg Text.linesOf same
    rw [linesOf_message readable, linesOf_message otherReadable] at lines
    exact reports_of_lines readable otherReadable (List.cons.inj lines).2
  · intro report _
    refine ⟨fun entry _ => separator_not_mem_lines entry, ?_⟩
    intro before first second after shape
    rw [shape]
    exact ⟨entryLines_append before first second after, lines_suffix_entryLines before first,
      lines_prefix_entryLines second after⟩

def phoneReport : EnvironmentReport where
  target := ⟨"", "app", "phone"⟩
  declared := [⟨"", "os", "linux"⟩, ⟨"envs", "cpu", "arm,v8"⟩]
  missing := [⟨⟨"", "os", "mac"⟩, none⟩, ⟨⟨"", "os", "bsd"⟩, none⟩,
    ⟨⟨"", "os", "linux"⟩, some ⟨⟨"", "lib", "sel"⟩, ⟨"", "lib", "arm"⟩⟩⟩]

def watchReport : EnvironmentReport where
  target := ⟨"", "app", "watch"⟩
  declared := []
  missing := [⟨⟨"", "os", "mac"⟩, none⟩]

theorem readable_phoneReport : phoneReport.Readable := by
  have read : ∀ label ∈ phoneReport.labels, Label.parse label.text = .ok label := by decide +kernel
  exact fun label member => ⟨label.text, read label member⟩

theorem readable_watchReport : watchReport.Readable := by
  have read : ∀ label ∈ watchReport.labels, Label.parse label.text = .ok label := by decide +kernel
  exact fun label member => ⟨label.text, read label member⟩

theorem message_tells_phoneReport :
    (∀ report ∈ [phoneReport, watchReport], report.Readable) ∧
      (∀ report ∈ [watchReport, phoneReport], report.Readable) ∧
      message [phoneReport, watchReport] ≠ message [watchReport, phoneReport] ∧
      Text.linesOf (message [phoneReport, watchReport]) =
        ["This is a restricted-environment build.", " ",
          "//app:phone declares compatibility with:", "  [//os:linux, @envs//cpu:arm,v8]",
          "but does not support:", "  //os:mac", "  //os:bsd", " ", "  environment: //os:linux",
          "    removed by: //lib:sel", "    which has a select() that chooses dep: //lib:arm",
          "    which lacks: //os:linux", " ", "//app:watch declares compatibility with:", "  []",
          "but does not support:", "  //os:mac", " "] := by
  have readable : ∀ report ∈ [phoneReport, watchReport], report.Readable := by
    simp [readable_phoneReport, readable_watchReport]
  have reversed : ∀ report ∈ [watchReport, phoneReport], report.Readable := by
    simp [readable_phoneReport, readable_watchReport]
  obtain ⟨unique, lines, _⟩ := message_tells [phoneReport, watchReport] readable
  refine ⟨readable, reversed, ?_, lines.trans rfl⟩
  intro same
  exact absurd (unique _ reversed same) (by decide)

end EnvironmentReport

end CrossBuild
