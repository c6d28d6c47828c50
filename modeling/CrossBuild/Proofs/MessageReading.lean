import CrossBuild.Proofs.EnvironmentReports
import CrossBuild.Resolution.Resolve

/-!
Messages about chains of dependencies and about selections, read back.  A label holds no blank, so
each label of a chain stands on a line of its own, and the labels of a selection are words.
-/

namespace CrossBuild

namespace IncompatibilityChain

def labels (chain : IncompatibilityChain) : List Label :=
  chain.targets ++ chain.platform :: chain.rootCause.constraints.map ConstraintValue.label

def Readable (chain : IncompatibilityChain) : Prop := ∀ label ∈ chain.labels, label ∈ Label.readable

def ending (chain : IncompatibilityChain) : String :=
  "   <-- target platform (" ++ chain.platform.text ++ ") didn't satisfy constraint" ++
    match chain.rootCause.constraints with
    | [only] => " " ++ only.label.text
    | constraints => "s [" ++ Text.commaList (constraints.map ConstraintValue.label) ++ "]"

def targetLines (ending : String) : List Label → List String
  | [] => []
  | [leaf] => ["    " ++ leaf.text ++ ending]
  | label :: next :: rest => ("    " ++ label.text) :: targetLines ending (next :: rest)

def labelOf (line : String) : String :=
  String.ofList ((line.toList.drop 4).takeWhile fun character => character ≠ ' ')

theorem labelOf_line {label : Label} (read : label ∈ Label.readable) {behind : String}
    (spaced : ∀ character ∈ behind.toList.head?, character = ' ') :
    labelOf ("    " ++ label.text ++ behind) = label.text := by
  have plain : ∀ character ∈ label.text.toList, decide (character ≠ ' ') = true := by
    intro character member
    rw [decide_eq_true_iff]
    rintro rfl
    exact Label.space_not_mem_text read member
  have stops : behind.toList.takeWhile (fun character => decide (character ≠ ' ')) = [] := by
    cases shape : behind.toList with
    | nil => rfl
    | cons first rest =>
        rw [shape] at spaced
        simp [spaced first rfl]
  have dropped : ("    " ++ label.text ++ behind).toList.drop 4 =
      label.text.toList ++ behind.toList := by
    simp [String.append_assoc]
  rw [labelOf, dropped, List.takeWhile_append_of_pos plain, stops, List.append_nil,
    String.ofList_toList]

theorem map_labelOf_targetLines {ending : String}
    (spaced : ∀ character ∈ ending.toList.head?, character = ' ') {targets : List Label}
    (read : ∀ label ∈ targets, label ∈ Label.readable) :
    (targetLines ending targets).map labelOf = targets.map Label.text := by
  induction targets with
  | nil => rfl
  | cons label rest ih =>
      rw [List.forall_mem_cons] at read
      cases rest with
      | nil => rw [targetLines, List.map_singleton, labelOf_line read.1 spaced, List.map_singleton]
      | cons next rest =>
          have single := @labelOf_line label read.1 "" (by simp)
          rw [String.append_empty] at single
          rw [targetLines, List.map_cons, single, ih read.2]
          rfl

theorem head?_ending (chain : IncompatibilityChain) :
    ∀ character ∈ chain.ending.toList.head?, character = ' ' := by
  unfold ending
  generalize (match chain.rootCause.constraints with
    | [only] => _
    | constraints => _ : String) = constraints
  simp

theorem lineFeed_not_mem_ending {chain : IncompatibilityChain} (readable : chain.Readable) :
    '\n' ∉ chain.ending.toList := by
  simp only [Readable, labels, List.forall_mem_append, List.forall_mem_cons] at readable
  obtain ⟨-, platform, constraints⟩ := readable
  have plain := Label.lineFeed_not_mem_text platform
  have listed := Label.lineFeed_not_mem_commaList constraints
  unfold ending
  split
  next only shape =>
    rw [shape, List.map_singleton, Label.commaList_singleton] at listed
    simp [plain, listed]
  next => simp [plain, listed]

theorem lineFeed_not_mem_targetLines {ending : String} (plain : '\n' ∉ ending.toList)
    {targets : List Label} (read : ∀ label ∈ targets, label ∈ Label.readable) :
    ∀ line ∈ targetLines ending targets, '\n' ∉ line.toList := by
  induction targets with
  | nil => exact nofun
  | cons label rest ih =>
      rw [List.forall_mem_cons] at read
      have own := Label.lineFeed_not_mem_text read.1
      cases rest with
      | nil => simp [targetLines, own, plain]
      | cons next rest =>
          rw [targetLines, List.forall_mem_cons]
          exact ⟨by simp [own], ih read.2⟩

theorem intercalate_targetLines (ending front : String) {targets : List Label}
    (nonempty : targets ≠ []) :
    "\n".intercalate (front :: targetLines ending targets) =
      front ++ String.join (targets.map fun label => "\n    " ++ label.text) ++ ending := by
  induction targets generalizing front with
  | nil => exact absurd rfl nonempty
  | cons label rest ih =>
      cases rest with
      | nil =>
          rw [targetLines, String.intercalate_cons_cons]
          simp [← String.toList_inj]
      | cons next rest =>
          rw [targetLines, String.intercalate_cons_cons, ih _ (List.cons_ne_nil _ _)]
          simp [← String.toList_inj]

theorem bracketList_constraints (constraints : List ConstraintValue) :
    "s " ++ Text.bracketList constraints =
      "s [" ++ Text.commaList (constraints.map ConstraintValue.label) ++ "]" := by
  have labels : Text.commaList (constraints.map ConstraintValue.label) =
      Text.commaList constraints := by
    rw [Text.commaList, Text.commaList, List.map_map]
    rfl
  simp [labels, Text.bracketList, ← String.toList_inj]

theorem report_eq_ending (chain : IncompatibilityChain) :
    chain.report = "\nDependency chain:" ++
      String.join (chain.targets.map fun label => "\n    " ++ label.text) ++ chain.ending := by
  have single (value : ConstraintValue) : toString value = value.label.text := rfl
  have several := bracketList_constraints chain.rootCause.constraints
  unfold report ending
  generalize chain.rootCause.constraints = constraints at several ⊢
  match constraints with
  | [] | _ :: _ :: _ => simp only [several, String.append_assoc, Label.toString_eq_text]
  | [_] => simp only [single, String.append_assoc, Label.toString_eq_text]

theorem report_eq (chain : IncompatibilityChain) :
    chain.report = "\n".intercalate
      ("" :: "Dependency chain:" :: targetLines chain.ending chain.targets) := by
  have heading : "\nDependency chain:" = "\n" ++ "Dependency chain:" := rfl
  rw [report_eq_ending, String.intercalate_cons_cons,
    @intercalate_targetLines chain.ending "Dependency chain:" chain.targets (List.cons_ne_nil _ _)]
  simp only [heading, String.append_assoc, String.empty_append]

/-- The targets of a chain can be read off its report, one on a line behind the heading. -/
theorem report_tells {chain : IncompatibilityChain} (readable : chain.Readable) :
    Text.linesOf chain.report =
        "" :: "Dependency chain:" :: targetLines chain.ending chain.targets ∧
      ((Text.linesOf chain.report).drop 2).map labelOf = chain.targets.map Label.text := by
  have targets : ∀ label ∈ chain.targets, label ∈ Label.readable :=
    fun label member => readable label (List.mem_append_left _ member)
  have lines : Text.linesOf chain.report =
      "" :: "Dependency chain:" :: targetLines chain.ending chain.targets := by
    rw [report_eq]
    apply Text.linesOf_intercalate
    · have plain := lineFeed_not_mem_targetLines (lineFeed_not_mem_ending readable) targets
      simpa using plain
    · exact List.cons_ne_nil _ _
  refine ⟨lines, ?_⟩
  rw [lines]
  exact map_labelOf_targetLines chain.head?_ending targets

end IncompatibilityChain

namespace ResolutionKey

def wordsOf (text : String) : List String := (text.toList.splitOn ' ').map String.ofList

def wordsFrom (label : String) : List (ToolchainType × Label) → List String
  | [] => [label]
  | (held, toolchain) :: rest =>
      (label ++ ",") :: "type" :: held.label.text :: "->" :: "toolchain" ::
        wordsFrom toolchain.text rest

def labelsFrom : List String → List String
  | [last] => [last]
  | first :: _ :: held :: _ :: _ :: rest =>
      String.ofList first.toList.dropLast :: held :: labelsFrom rest
  | _ => []

theorem labelsFrom_wordsFrom (label : String) (entries : List (ToolchainType × Label)) :
    labelsFrom (wordsFrom label entries) =
      label :: entries.flatMap fun entry => [entry.1.label.text, entry.2.text] := by
  induction entries generalizing label with
  | nil => rfl
  | cons entry rest ih =>
      rw [wordsFrom, labelsFrom, ih]
      simp

def pairsText : List (ToolchainType × Label) → String
  | [] => ""
  | (held, toolchain) :: rest =>
      ", type " ++ held.label.text ++ " -> toolchain " ++ toolchain.text ++ pairsText rest

theorem intercalate_pairs (front : String) (entries : List (ToolchainType × Label)) :
    ", ".intercalate (front :: entries.map fun entry =>
        "type " ++ toString entry.1 ++ " -> toolchain " ++ toString entry.2) =
      front ++ pairsText entries := by
  induction entries generalizing front with
  | nil => simp [pairsText]
  | cons entry rest ih =>
      rw [List.map_cons, String.intercalate_cons_cons, ih]
      simp [← String.toList_inj, pairsText, toString]

theorem wordsFrom_ne_nil (label : String) (entries : List (ToolchainType × Label)) :
    wordsFrom label entries ≠ [] := by
  cases entries <;> simp [wordsFrom]

theorem intercalate_wordsFrom (label : String) (entries : List (ToolchainType × Label)) :
    " ".intercalate (wordsFrom label entries) = label ++ pairsText entries := by
  induction entries generalizing label with
  | nil => simp [wordsFrom, pairsText]
  | cons entry rest ih =>
      obtain ⟨held, toolchain⟩ := entry
      have later := wordsFrom_ne_nil toolchain.text rest
      simp only [wordsFrom, String.intercalate_cons_cons, String.intercalate_cons_of_ne_nil later,
        ih]
      simp [← String.toList_inj, pairsText]

theorem space_not_mem_wordsFrom {label : String} (plain : ' ' ∉ label.toList)
    {entries : List (ToolchainType × Label)}
    (read : ∀ entry ∈ entries, entry.1.label ∈ Label.readable ∧ entry.2 ∈ Label.readable) :
    ∀ word ∈ wordsFrom label entries, ' ' ∉ word.toList := by
  induction entries generalizing label with
  | nil => simpa [wordsFrom] using plain
  | cons entry rest ih =>
      rw [List.forall_mem_cons] at read
      have held := Label.space_not_mem_text read.1.1
      have later := ih (Label.space_not_mem_text read.1.2) read.2
      simp only [wordsFrom, List.forall_mem_cons]
      exact ⟨by simpa using plain, by decide, held, by decide, by decide, later⟩

theorem selectionMessage_eq (target execution : Platform)
    (toolchains : OrderedMap ToolchainType Label) :
    selectionMessage target execution toolchains = " ".intercalate
      ("ToolchainResolution:" :: "Target" :: "platform" :: (target.label.text ++ ":") ::
        "Selected" :: "execution" :: "platform" ::
          wordsFrom execution.label.text toolchains.entries) := by
  have words := wordsFrom_ne_nil execution.label.text toolchains.entries
  rw [selectionMessage, intercalate_pairs]
  simp only [String.intercalate_cons_cons, String.intercalate_cons_of_ne_nil words,
    intercalate_wordsFrom, Label.toString_eq_text]
  simp [← String.toList_inj]

/-- The labels of a selection can be read off its message: the target platform, the execution
platform, and each type with its toolchain. -/
theorem selectionMessage_tells {target execution : Platform}
    {toolchains : OrderedMap ToolchainType Label} (targetRead : target.label ∈ Label.readable)
    (executionRead : execution.label ∈ Label.readable)
    (read : ∀ entry ∈ toolchains.entries,
      entry.1.label ∈ Label.readable ∧ entry.2 ∈ Label.readable) :
    (wordsOf (selectionMessage target execution toolchains))[3]? =
        some (target.label.text ++ ":") ∧
      labelsFrom ((wordsOf (selectionMessage target execution toolchains)).drop 7) =
        execution.label.text ::
          toolchains.entries.flatMap fun entry => [entry.1.label.text, entry.2.text] := by
  have words : wordsOf (selectionMessage target execution toolchains) =
      "ToolchainResolution:" :: "Target" :: "platform" :: (target.label.text ++ ":") ::
        "Selected" :: "execution" :: "platform" ::
          wordsFrom execution.label.text toolchains.entries := by
    rw [selectionMessage_eq]
    apply Text.splitOn_toList_intercalate rfl
    · have later := space_not_mem_wordsFrom (Label.space_not_mem_text executionRead) read
      have plain := Label.space_not_mem_text targetRead
      simp only [List.forall_mem_cons]
      exact ⟨by decide, by decide, by decide, by simpa using plain, by decide, by decide,
        by decide, later⟩
    · exact List.cons_ne_nil _ _
  rw [words]
  exact ⟨rfl, labelsFrom_wordsFrom _ _⟩

end ResolutionKey

end CrossBuild
