import CrossBuild.Label.Parser
import Mathlib.Data.Set.Operations

/-!
Written labels and the labels that they stand for.  The grammar is stated for whole texts, without
the splits by which a text is read; every written form of a label belongs to it.
-/

namespace CrossBuild.Label

def IsClean (part : String) : Prop :=
  ∀ character ∈ part.toList, Text.isBlank character = false ∧ character ≠ ':' ∧ character ≠ '@'

/-- No part holds a character that ends another one, and the repository does not run into the root
behind it. -/
structure WellFormed (label : Label) : Prop where
  repository_clean : IsClean label.repository
  package_clean : IsClean label.package
  name_clean : IsClean label.name
  name_nonempty : label.name ≠ ""
  repository_rootless : ¬ ['/', '/'] <:+: label.repository.toList
  repository_unslashed : ¬ ['/'] <:+ label.repository.toList

inductive Marks (repository : String) : String → Prop
  | single : Marks repository "@"
  | double : Marks repository "@@"
  | omitted (main : repository = "") : Marks repository ""

def LastSegment (package name : String) : Prop :=
  '/' ∉ name.toList ∧ (package = name ∨ ∃ front, package = front ++ "/" ++ name)

/-- What stands behind the root.  A package alone names the target called like its last segment. -/
inductive Locates (package name : String) : String → Prop
  | full : Locates package name (package ++ ":" ++ name)
  | short (last : LastSegment package name) : Locates package name package

def Spells (text : String) (label : Label) : Prop :=
  ∃ mark body, Marks label.repository mark ∧ Locates label.package label.name body ∧
    text = mark ++ label.repository ++ "//" ++ body

def Rootless (front : List Char) : Prop := ¬ ['/', '/'] <:+: front ++ ['/']

theorem rootless_iff (front : List Char) :
    Rootless front ↔ ¬ ['/', '/'] <:+: front ∧ ¬ ['/'] <:+ front := by
  have ending : ['/', '/'] <:+ front ++ ['/'] ↔ ['/'] <:+ front := by
    rw [List.suffix_concat_iff]
    constructor
    · rintro (impossible | ⟨short, same, suffix⟩)
      · cases impossible
      · have single : short ++ ['/'] = ['/'] ++ ['/'] := same.symm
        rwa [List.append_cancel_right single] at suffix
    · exact fun suffix => .inr ⟨['/'], rfl, suffix⟩
  rw [Rootless, List.infix_concat_iff, ending, not_or, and_comm]

theorem rootless_cons (first : Char) (front : List Char) :
    Rootless (first :: front) ↔
      ¬(first = '/' ∧ (front ++ ['/']).head? = some '/') ∧ Rootless front := by
  have opening : ['/', '/'] <+: first :: (front ++ ['/']) ↔
      first = '/' ∧ (front ++ ['/']).head? = some '/' := by
    rw [List.cons_prefix_cons, eq_comm]
    cases front ++ ['/'] with
    | nil => simp
    | cons second rest => simp [List.cons_prefix_cons, eq_comm]
  rw [Rootless, List.cons_append, List.infix_cons_iff, opening, not_or, Rootless]

theorem splitAtRoot_append {front : List Char} (rootless : Rootless front) (rest : List Char) :
    splitAtRoot (front ++ '/' :: '/' :: rest) = some (front, rest) := by
  induction front with
  | nil => rfl
  | cons first front ih =>
      obtain ⟨apart, rootless⟩ := (rootless_cons first front).mp rootless
      -- A slash behind a first slash would be the root that `apart` rules out.
      have noRoot : ∀ tail, first = '/' → front ++ '/' :: '/' :: rest = '/' :: tail → False := by
        intro tail slash continued
        apply apart
        refine ⟨slash, ?_⟩
        cases front with
        | nil => rfl
        | cons second front => exact congrArg List.head? continued
      rw [List.cons_append, splitAtRoot.eq_3 _ _ noRoot, ih rootless, Option.map_some]

theorem append_of_splitAtRoot {text front rest : List Char}
    (split : splitAtRoot text = some (front, rest)) :
    text = front ++ '/' :: '/' :: rest ∧ Rootless front := by
  induction text using splitAtRoot.induct generalizing front with
  | case1 => cases split
  | case2 tail =>
      cases split
      exact ⟨rfl, fun root => absurd root.length_le (by decide)⟩
  | case3 first tail noRoot ih =>
      rw [splitAtRoot.eq_3 _ _ noRoot] at split
      obtain ⟨⟨front, rest⟩, later, same⟩ := Option.map_eq_some_iff.mp split
      cases same
      obtain ⟨rfl, rootless⟩ := ih later
      refine ⟨rfl, (rootless_cons first front).mpr ⟨?_, rootless⟩⟩
      rintro ⟨slash, continued⟩
      -- The slash that goes on may belong to the front or be the one behind it.
      cases front with
      | nil => exact noRoot _ slash rfl
      | cons second front =>
          cases continued
          exact noRoot _ slash rfl

theorem splitAtColon_append {front : List Char} (plain : ':' ∉ front) (rest : List Char) :
    splitAtColon (front ++ ':' :: rest) = some (front, rest) := by
  induction front with
  | nil => rfl
  | cons first front ih =>
      rw [List.mem_cons, not_or] at plain
      rw [List.cons_append, splitAtColon, if_neg fun same => plain.1 same.symm, ih plain.2,
        Option.map_some]

theorem splitAtColon_eq_none {text : List Char} (plain : ':' ∉ text) :
    splitAtColon text = none := by
  induction text with
  | nil => rfl
  | cons first rest ih =>
      rw [List.mem_cons, not_or] at plain
      rw [splitAtColon, if_neg fun same => plain.1 same.symm, ih plain.2, Option.map_none]

theorem all_reverse_of_plain {name : List Char} (plain : '/' ∉ name) :
    ∀ character ∈ name.reverse, decide (character ≠ '/') = true := by
  intro character member
  rw [decide_eq_true_iff]
  rintro rfl
  exact plain (List.mem_reverse.mp member)

theorem lastSegment_of_plain {name : List Char} (plain : '/' ∉ name) :
    lastSegment name = name := by
  have whole := all_reverse_of_plain plain
  rw [lastSegment, ← List.append_nil name.reverse, List.takeWhile_append_of_pos whole,
    List.takeWhile_nil, List.append_nil, List.reverse_reverse]

theorem lastSegment_append (front : List Char) {name : List Char} (plain : '/' ∉ name) :
    lastSegment (front ++ '/' :: name) = name := by
  have whole := all_reverse_of_plain plain
  rw [lastSegment, List.reverse_append, List.reverse_cons, List.append_assoc,
    List.takeWhile_append_of_pos whole]
  simp

theorem lastSegment_eq_iff {package name : List Char} :
    lastSegment package = name ↔
      '/' ∉ name ∧ (package = name ∨ ∃ front, package = front ++ '/' :: name) := by
  constructor
  · rintro rfl
    by_cases slash : '/' ∈ package
    · obtain ⟨behind, front, reversed, plain⟩ :=
        List.eq_append_cons_of_mem (List.mem_reverse.mpr slash)
      have split : package = front.reverse ++ '/' :: behind.reverse := by
        rw [← List.reverse_reverse package, reversed]
        simp
      rw [split, lastSegment_append _ (by simpa using plain)]
      exact ⟨by simpa using plain, .inr ⟨_, rfl⟩⟩
    · rw [lastSegment_of_plain slash]
      exact ⟨slash, .inl rfl⟩
  · rintro ⟨plain, rfl | ⟨front, rfl⟩⟩
    · exact lastSegment_of_plain plain
    · exact lastSegment_append front plain

theorem splitPath_eq_iff {path package name : List Char} :
    splitPath path = (package, name) ↔
      ':' ∉ package ∧ (path = package ++ ':' :: name ∨
        path = package ∧ lastSegment package = name) := by
  constructor
  · intro split
    -- The first colon ends the package, so that only a name can hold one.
    by_cases colon : ':' ∈ path
    · obtain ⟨front, rest, rfl, plain⟩ := List.eq_append_cons_of_mem colon
      rw [splitPath, splitAtColon_append plain, Option.getD_some] at split
      cases split
      exact ⟨plain, .inl rfl⟩
    · rw [splitPath, splitAtColon_eq_none colon, Option.getD_none] at split
      cases split
      exact ⟨colon, .inr ⟨rfl, rfl⟩⟩
  · rintro ⟨plain, rfl | ⟨rfl, rfl⟩⟩
    · rw [splitPath, splitAtColon_append plain, Option.getD_some]
    · rw [splitPath, splitAtColon_eq_none plain, Option.getD_none]

theorem eq_dropMark_or (text : List Char) : text = dropMark text ∨ text = '@' :: dropMark text := by
  unfold dropMark
  split
  · exact .inr rfl
  · exact .inl rfl

theorem dropMark_of_unmarked {repository : List Char} (unmarked : '@' ∉ repository)
    (path : List Char) :
    dropMark (repository ++ '/' :: '/' :: path) = repository ++ '/' :: '/' :: path := by
  cases repository with
  | nil => rfl
  | cons first rest =>
      rw [List.mem_cons, not_or] at unmarked
      rw [List.cons_append, dropMark.eq_2]
      exact fun tail same => unmarked.1 (List.cons.inj same).1.symm

theorem splitRepository_marked {text : String} {rest repository path : List Char}
    (marked : text.toList = '@' :: rest) :
    splitRepository text = .ok (repository, path) ↔
      splitAtRoot (dropMark rest) = some (repository, path) := by
  rw [splitRepository, marked]
  cases found : splitAtRoot (dropMark rest) <;> simp [found]

theorem eq_written_iff (text mark repository path : String) :
    text = mark ++ repository ++ "//" ++ path ↔
      text.toList = mark.toList ++ (repository.toList ++ '/' :: '/' :: path.toList) := by
  rw [← String.toList_inj]
  simp

theorem written_of_splitRepository {text repository path : String}
    (split : splitRepository text = .ok (repository.toList, path.toList)) :
    Rootless repository.toList ∧
      ∃ mark, Marks repository mark ∧ text = mark ++ repository ++ "//" ++ path := by
  simp only [eq_written_iff]
  by_cases marked : ∃ rest, text.toList = '@' :: rest
  · obtain ⟨rest, marked⟩ := marked
    obtain ⟨stripped, rootless⟩ :=
      append_of_splitAtRoot ((splitRepository_marked marked).mp split)
    refine ⟨rootless, ?_⟩
    rw [marked, ← stripped]
    obtain same | same := eq_dropMark_or rest
    · exact ⟨"@", .single, congrArg _ same⟩
    · exact ⟨"@@", .double, congrArg _ same⟩
  · unfold splitRepository at split
    split at split
    next rest mark => exact absurd ⟨rest, mark⟩ marked
    next rest rooted =>
      obtain ⟨main, rfl⟩ := Prod.mk.inj (Except.ok.inj split)
      rw [← main]
      exact ⟨fun root => absurd root.length_le (by decide), "",
        .omitted (String.toList_eq_nil_iff.mp main.symm), rooted⟩
    next => cases split

theorem splitRepository_written {mark repository : String} (marks : Marks repository mark)
    (unmarked : '@' ∉ repository.toList) (rootless : Rootless repository.toList)
    (path : String) :
    splitRepository (mark ++ repository ++ "//" ++ path) =
      .ok (repository.toList, path.toList) := by
  have written := (eq_written_iff (mark ++ repository ++ "//" ++ path) mark repository path).mp rfl
  cases marks with
  | single =>
      rw [splitRepository_marked written]
      change splitAtRoot (dropMark (repository.toList ++ '/' :: '/' :: path.toList)) = _
      rw [dropMark_of_unmarked unmarked, splitAtRoot_append rootless]
  | double =>
      -- The second mark is the one that is dropped.
      rw [splitRepository_marked written]
      exact splitAtRoot_append rootless path.toList
  | omitted main =>
      subst main
      rw [splitRepository, written]
      rfl

theorem lastSegment_toList_iff (package name : String) :
    lastSegment package.toList = name.toList ↔ LastSegment package name := by
  have split : (∃ front, package.toList = front ++ '/' :: name.toList) ↔
      ∃ front, package = front ++ "/" ++ name := by
    constructor
    · rintro ⟨front, same⟩
      exact ⟨String.ofList front, by rw [← String.toList_inj, same]; simp⟩
    · rintro ⟨front, rfl⟩
      exact ⟨front.toList, by simp⟩
  rw [lastSegment_eq_iff, split, String.toList_inj, LastSegment]

theorem splitPath_toList_iff {package : String} (plain : ':' ∉ package.toList)
    (name path : String) :
    splitPath path.toList = (package.toList, name.toList) ↔ Locates package name path := by
  have full : path.toList = package.toList ++ ':' :: name.toList ↔
      path = package ++ ":" ++ name := by
    rw [← String.toList_inj]
    simp
  rw [splitPath_eq_iff, lastSegment_toList_iff, full, String.toList_inj]
  constructor
  · rintro ⟨_, rfl | ⟨rfl, last⟩⟩
    · exact .full
    · exact .short last
  · intro located
    refine ⟨plain, ?_⟩
    cases located with
    | full => exact .inl rfl
    | short last => exact .inr ⟨rfl, last⟩

theorem isForbidden_eq_false_iff (character : Char) :
    isForbidden character = false ↔
      Text.isBlank character = false ∧ character ≠ ':' ∧ character ≠ '@' := by
  simp [isForbidden, and_assoc]

theorem find?_isForbidden_eq_none_iff (label : Label) :
    (label.repository.toList ++ label.package.toList ++ label.name.toList).find? isForbidden =
        none ↔
      IsClean label.repository ∧ IsClean label.package ∧ IsClean label.name := by
  simp [IsClean, isForbidden_eq_false_iff, forall_and, and_assoc]

theorem parse_eq_ok_iff_split {text : String} {label : Label} :
    parse text = .ok label ↔
      (∃ path : String, splitRepository text = .ok (label.repository.toList, path.toList) ∧
        splitPath path.toList = (label.package.toList, label.name.toList)) ∧ label.name ≠ "" ∧
        IsClean label.repository ∧ IsClean label.package ∧ IsClean label.name := by
  rw [← find?_isForbidden_eq_none_iff]
  unfold parse
  constructor
  · intro read
    cases split : splitRepository text with
    | error problem => rw [split] at read; cases read
    | ok parts =>
        obtain ⟨repository, path⟩ := parts
        simp only [split, bind, Except.bind] at read
        by_cases unnamed : (splitPath path).2.isEmpty = true
        · rw [if_pos unnamed] at read
          cases read
        · rw [if_neg unnamed] at read
          cases clean : (repository ++ (splitPath path).1 ++ (splitPath path).2).find?
              isForbidden with
          | some character => rw [clean] at read; cases read
          | none =>
              rw [clean] at read
              cases read
              simp only [String.toList_ofList]
              exact ⟨⟨String.ofList path, by simp⟩, by simpa using unnamed, clean⟩
  · rintro ⟨⟨path, split, located⟩, named, clean⟩
    have filled : label.name.toList.isEmpty = false := by simpa using named
    rw [split]
    simp only [bind, Except.bind, located, filled, clean, String.ofList_toList]
    rfl

theorem parts_of_parse {text : String} {label : Label} (read : parse text = .ok label) :
    label.WellFormed ∧ Spells text label := by
  obtain ⟨⟨path, split, located⟩, named, repositoryClean, packageClean, nameClean⟩ :=
    parse_eq_ok_iff_split.mp read
  obtain ⟨rootless, mark, marks, written⟩ := written_of_splitRepository split
  obtain ⟨noRoot, unslashed⟩ := (rootless_iff _).mp rootless
  rw [splitPath_toList_iff fun colon => (packageClean _ colon).2.1 rfl] at located
  exact ⟨⟨repositoryClean, packageClean, nameClean, named, noRoot, unslashed⟩,
    mark, path, marks, located, written⟩

theorem parse_of_spells {text : String} {label : Label} (wellFormed : label.WellFormed)
    (spelled : Spells text label) : parse text = .ok label := by
  obtain ⟨mark, path, marks, located, rfl⟩ := spelled
  refine parse_eq_ok_iff_split.mpr ⟨⟨path, ?_, ?_⟩, wellFormed.name_nonempty,
    wellFormed.repository_clean, wellFormed.package_clean, wellFormed.name_clean⟩
  · have rootless := (rootless_iff _).mpr
      ⟨wellFormed.repository_rootless, wellFormed.repository_unslashed⟩
    have unmarked := fun mark => (wellFormed.repository_clean _ mark).2.2 rfl
    exact splitRepository_written marks unmarked rootless path
  · rwa [splitPath_toList_iff fun colon => (wellFormed.package_clean _ colon).2.1 rfl]

/-- A text is read as a label exactly if it spells the label and the label's parts can be told
apart. -/
theorem parse_eq_ok_iff (text : String) (label : Label) :
    parse text = .ok label ↔ label.WellFormed ∧ Spells text label :=
  ⟨parts_of_parse, fun parts => parse_of_spells parts.1 parts.2⟩

theorem spells_canonicalText (label : Label) (moduleSystem : Bool) :
    Spells (label.canonicalText moduleSystem) label := by
  have written : ∀ mark : String, mark ++ label.repository ++ label.path =
      mark ++ label.repository ++ "//" ++ (label.package ++ ":" ++ label.name) := by
    intro mark
    simp only [path, String.append_assoc]
  cases moduleSystem with
  | false => exact ⟨"@", _, .single, .full, written "@"⟩
  | true => exact ⟨"@@", _, .double, .full, written "@@"⟩

theorem spells_text (label : Label) : Spells label.text label := by
  by_cases main : label.repository = ""
  · refine ⟨"", _, .omitted main, .full, ?_⟩
    simp [text, isMain, path, main, String.append_assoc]
  · have same : label.text = label.canonicalText false := by
      simp [text, isMain, canonicalText, main]
    rw [same]
    exact label.spells_canonicalText false

/-- The labels that some text stands for. -/
def readable : Set Label := {label | ∃ text, parse text = .ok label}

theorem injOn_of_reads {form : Label → String}
    (reads : ∀ label ∈ readable, parse (form label) = .ok label) : Set.InjOn form readable := by
  intro label labelRead other otherRead same
  have again := reads label labelRead
  rw [same, reads other otherRead] at again
  exact (Except.ok.inj again).symm

theorem parse_text {label : Label} (wellFormed : label.WellFormed) :
    parse label.text = .ok label :=
  parse_of_spells wellFormed label.spells_text

theorem parse_canonicalText {label : Label} (wellFormed : label.WellFormed) (moduleSystem : Bool) :
    parse (label.canonicalText moduleSystem) = .ok label :=
  parse_of_spells wellFormed (label.spells_canonicalText moduleSystem)

/-- A label that was read from any text is read again from each of its written forms, so none of
them stands for two such labels.  Of all labels, these are the ones that can be read from the form
used in messages. -/
theorem parse_forms :
    (∀ text label, parse text = .ok label →
      parse label.text = .ok label ∧
        ∀ moduleSystem, parse (label.canonicalText moduleSystem) = .ok label) ∧
    Set.InjOn text readable ∧
    (∀ moduleSystem, Set.InjOn (canonicalText · moduleSystem) readable) ∧
    ∀ label : Label, parse label.text = .ok label ↔ label.WellFormed := by
  have reads : ∀ label ∈ readable, label.WellFormed := by
    rintro label ⟨text, read⟩
    exact (parts_of_parse read).1
  refine ⟨?_, ?_, ?_, ?_⟩
  · intro text label read
    have wellFormed := reads label ⟨text, read⟩
    exact ⟨parse_text wellFormed, parse_canonicalText wellFormed⟩
  · exact injOn_of_reads fun label read => parse_text (reads label read)
  · intro moduleSystem
    exact injOn_of_reads fun label read => parse_canonicalText (reads label read) moduleSystem
  · intro label
    exact ⟨fun read => reads label ⟨_, read⟩, parse_text⟩

theorem parse_forms_slashes :
    parse "@@rules/cc///lib:a/b" = .ok ⟨"rules/cc", "/lib", "a/b"⟩ ∧
      parse (text ⟨"rules/cc", "/lib", "a/b"⟩) = .ok ⟨"rules/cc", "/lib", "a/b"⟩ ∧
      ∀ moduleSystem, parse (canonicalText ⟨"rules/cc", "/lib", "a/b"⟩ moduleSystem) =
        .ok ⟨"rules/cc", "/lib", "a/b"⟩ :=
  ⟨rfl, parse_forms.1 "@@rules/cc///lib:a/b" _ rfl⟩

end CrossBuild.Label
