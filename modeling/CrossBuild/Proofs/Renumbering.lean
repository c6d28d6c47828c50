import CrossBuild.Pattern.Parser
import CrossBuild.Pattern.Placement
import CrossBuild.Proofs.TokenReading
import Mathlib.Data.List.Basic

/-!
Captures counted from a later number on.  The numbers do not matter to what a pattern matches, and
a group of a pattern is put together in the same way whatever they are.
-/

namespace CrossBuild

namespace Pattern

mutual

def renumber (offset : Nat) : Pattern → Pattern
  | empty => empty
  | character members => character members
  | look condition => look condition
  | capture number body => capture (number + offset) (body.renumber offset)
  | sequence parts => sequence (renumberAll offset parts)
  | either choices => either (renumberAll offset choices)
  | repetition body least most greedy => repetition (body.renumber offset) least most greedy

def renumberAll (offset : Nat) : List Pattern → List Pattern
  | [] => []
  | part :: parts => part.renumber offset :: renumberAll offset parts

end

theorem renumberAll_eq_map (offset : Nat) (patterns : List Pattern) :
    renumberAll offset patterns = patterns.map (renumber offset) := by
  induction patterns with
  | nil => rfl
  | cons pattern patterns ih => rw [renumberAll, ih, List.map_cons]

mutual

theorem renumber_zero : ∀ pattern : Pattern, pattern.renumber 0 = pattern
  | empty | look _ | character _ => rfl
  | capture number body => by rw [renumber, renumber_zero body, Nat.add_zero]
  | repetition body _ _ _ => by rw [renumber, renumber_zero body]
  | sequence parts | either parts => by rw [renumber, renumberAll_zero parts]

theorem renumberAll_zero : ∀ patterns : List Pattern, renumberAll 0 patterns = patterns
  | [] => rfl
  | pattern :: patterns => by rw [renumberAll, renumber_zero pattern, renumberAll_zero patterns]

end

mutual

theorem isBlank_renumber (offset : Nat) : ∀ pattern : Pattern,
    (pattern.renumber offset).isBlank = pattern.isBlank
  | empty | look _ | character _ => rfl
  | capture _ body | repetition body _ _ _ => isBlank_renumber offset body
  | sequence parts | either parts => areBlank_renumberAll offset parts

theorem areBlank_renumberAll (offset : Nat) : ∀ patterns : List Pattern,
    areBlank (renumberAll offset patterns) = areBlank patterns
  | [] => rfl
  | pattern :: patterns => by
      rw [renumberAll, areBlank, areBlank, isBlank_renumber offset pattern,
        areBlank_renumberAll offset patterns]

end

mutual

/-- Numbers of captures do not matter to what a pattern matches. -/
theorem placed_renumber (offset : Nat) (text : Array Char) : ∀ pattern : Pattern,
    (pattern.renumber offset).placed text = pattern.placed text
  | empty | look _ | character _ => rfl
  | capture _ body => placed_renumber offset text body
  | repetition body _ _ _ => by rw [renumber, placed, placed, placed_renumber offset text body]
  | sequence parts | either parts => by
      rw [renumber, placed, placed, allPlaced_renumberAll offset text parts]

theorem allPlaced_renumberAll (offset : Nat) (text : Array Char) : ∀ patterns : List Pattern,
    allPlaced text (renumberAll offset patterns) = allPlaced text patterns
  | [] => rfl
  | pattern :: patterns => by
      rw [renumberAll, allPlaced, allPlaced, placed_renumber offset text pattern,
        allPlaced_renumberAll offset text patterns]

end

theorem isMatch_renumber (offset : Nat) (pattern : Pattern) (text : String) :
    (pattern.renumber offset).isMatch text = pattern.isMatch text := by
  simp only [isMatch, placed_renumber]

theorem repeated_renumber (offset : Nat) (pattern : Pattern) (least : Nat) (most : Option Nat)
    (greedy : Bool) : (pattern.renumber offset).repeated least most greedy =
      (pattern.repeated least most greedy).renumber offset := by
  simp only [repeated, isBlank_renumber]
  generalize (if pattern.isBlank then _ else _ : Nat × Option Nat) = bounds
  split
  · rfl
  · split <;> rfl

end Pattern

namespace Token

def Plain (token : Token) : Prop :=
  ∀ pattern depth, token = expression pattern depth →
    ∀ offset, pattern.renumber offset = pattern

theorem plain_repeating (flags : Flags) (least : Nat) (most : Option Nat) (text : List Char) :
    (repeating flags least most text).1.Plain := by
  unfold repeating
  split <;> exact nofun

theorem plain_of_readCounted {flags : Flags} {text : List Char} {taken : Token × List Char}
    (read : readCounted flags text = .ok taken) : taken.1.Plain := by
  obtain ⟨least, _, read⟩ := exists_of_bind read
  obtain ⟨⟨most, rest⟩, _, read⟩ := exists_of_bind read
  simp only [closeCounted] at read
  split at read
  · split at read
    · cases read
      exact plain_repeating _ _ _ _
    · split at read
      · cases read
      · cases read
        exact plain_repeating _ _ _ _
  · cases read

theorem plain_of_readMarked {text : List Char} {taken : Token × List Char}
    (read : readMarked text = .ok taken) : taken.1.Plain := by
  have named : ∀ {rest}, readNamed rest = .ok taken → taken.1.Plain := by
    intro rest read
    obtain ⟨⟨name, rest⟩, _, read⟩ := exists_of_bind read
    cases read
    exact nofun
  unfold readMarked at read
  split at read
  case h_5 => exact named read
  case h_6 => exact named read
  case h_7 =>
    obtain ⟨⟨changes, terminator, rest⟩, _, read⟩ := exists_of_bind read
    simp only [bind, Except.bind] at read
    split at read
    · cases read
      exact nofun
    · split at read
      · cases read
      · cases read
        exact nofun
  all_goals cases read

theorem plain_of_readGroup {flags : Flags} {text : List Char} {taken : Token × List Char}
    (read : readGroup flags text = .ok taken) : taken.1.Plain := by
  unfold readGroup at read
  split at read
  · exact plain_of_readMarked read
  · cases read
    exact nofun

theorem plain_of_class {made : Except PatternError CharClass} {rest : List Char}
    {taken : Token × List Char} (read : ofPattern (made.map .character) rest = .ok taken) :
    taken.1.Plain := by
  cases made with
  | error reason => cases read
  | ok members =>
      cases read
      intro pattern depth same
      cases same
      exact fun _ => rfl

theorem plain_of_literal {flags : Flags} {character : Char} {asByte : Bool} {rest : List Char}
    {taken : Token × List Char}
    (read : ofPattern (flags.literal character asByte) rest = .ok taken) : taken.1.Plain := by
  unfold Flags.literal at read
  split at read
  · exact plain_of_class read
  · split at read
    · cases read
    · exact plain_of_class read

theorem plain_look (condition : Look) (depth : Nat) :
    (expression (.look condition) depth).Plain := by
  intro pattern depth same
  cases same
  exact fun _ => rfl

theorem plain_of_ofEscape {flags : Flags} {escape : Escape} {rest : List Char}
    {taken : Token × List Char} (read : ofEscape flags escape rest = .ok taken) :
    taken.1.Plain := by
  cases escape with
  | character character asByte => exact plain_of_literal read
  | set negated members => exact plain_of_class read
  | look condition =>
      cases read
      exact plain_look condition 0

theorem plain_of_dot {flags : Flags} {rest : List Char} {taken : Token × List Char}
    (read : ofPattern flags.dot rest = .ok taken) : taken.1.Plain := by
  unfold Flags.dot at read
  split at read
  · cases read
  · exact plain_of_class read

theorem plain_of_ofBracket {flags : Flags} {bracket : Bracket} {rest : List Char}
    {taken : Token × List Char} (read : ofBracket flags bracket rest = .ok taken) :
    taken.1.Plain := by
  obtain ⟨members, _, read⟩ := exists_of_bind read
  cases read
  intro pattern depth same
  cases same
  exact fun _ => rfl

theorem plain_of_read {flags : Flags} {first : Char} {rest : List Char} {taken : Token × List Char}
    (read : read flags first rest = .ok taken) : taken.1.Plain := by
  unfold Token.read at read
  split at read
  case h_1 => exact plain_of_readGroup read
  case h_2 => cases read; exact nofun
  case h_3 => cases read; exact nofun
  case h_4 =>
    obtain ⟨⟨bracket, rest⟩, _, read⟩ := exists_of_bind read
    exact plain_of_ofBracket read
  case h_5 => cases read; exact plain_repeating _ _ _ _
  case h_6 => cases read; exact plain_repeating _ _ _ _
  case h_7 => cases read; exact plain_repeating _ _ _ _
  case h_8 => exact plain_of_readCounted read
  case h_9 =>
    obtain ⟨⟨escape, rest⟩, _, read⟩ := exists_of_bind read
    exact plain_of_ofEscape read
  case h_10 => exact plain_of_dot read
  case h_11 => cases read; exact plain_look _ 0
  case h_12 => cases read; exact plain_look _ 0
  case h_13 => exact plain_of_literal read

end Token

namespace Pattern

def Piece.renumber (offset : Nat) (piece : Piece) : Piece :=
  { piece with pattern := piece.pattern.renumber offset }

def Item.renumber (offset : Nat) : Item → Item
  | .piece part => .piece (part.renumber offset)
  | .flags => .flags

theorem Item.toPiece_renumber (offset : Nat) (item : Item) :
    (item.renumber offset).toPiece = item.toPiece.renumber offset := by
  cases item <;> rfl

namespace Group

variable (offset : Nat) (group : Group)

def renumber (offset : Nat) (group : Group) : Group :=
  { group with
    number := group.number.map (· + offset)
    alternatives := group.alternatives.map (Piece.renumber offset)
    items := group.items.map (Item.renumber offset) }

theorem deepest_renumber (pieces : List Piece) :
    deepest (pieces.map (Piece.renumber offset)) = deepest pieces := by
  rw [deepest, List.map_map]
  rfl

theorem map_pattern_renumber (pieces : List Piece) :
    (pieces.map (Piece.renumber offset)).map Piece.pattern =
      renumberAll offset (pieces.map Piece.pattern) := by
  rw [renumberAll_eq_map, List.map_map, List.map_map]
  rfl

theorem sequence_renumber : (group.renumber offset).sequence = group.sequence.renumber offset := by
  obtain ⟨number, alternatives, items, outerFlags⟩ := group
  match items with
  | [] => rfl
  | [item] => exact item.toPiece_renumber offset
  | first :: second :: items =>
      have pieces :
          ((first :: second :: items).map (Item.renumber offset)).reverse.map Item.toPiece =
            ((first :: second :: items).reverse.map Item.toPiece).map (Piece.renumber offset) := by
        rw [← List.map_reverse, List.map_map, List.map_map]
        exact List.map_congr_left fun item _ => item.toPiece_renumber offset
      simp only [renumber, sequence, List.map_cons] at pieces ⊢
      rw [pieces, deepest_renumber, map_pattern_renumber]
      rfl

def offer : List Piece → Piece
  | [only] => only
  | pieces => ⟨.either (pieces.map Piece.pattern), 1 + deepest pieces⟩

theorem offer_of_two_le : ∀ pieces : List Piece, 2 ≤ pieces.length →
    offer pieces = ⟨.either (pieces.map Piece.pattern), 1 + deepest pieces⟩
  | _ :: _ :: _, _ => rfl

theorem close_eq_offer : group.close = offer (group.sequence :: group.alternatives).reverse := by
  cases found : group.alternatives with
  | nil => simp [close, found, offer]
  | cons first others => rw [offer_of_two_le _ (by simp), close, found]

theorem offer_renumber (pieces : List Piece) :
    offer (pieces.map (Piece.renumber offset)) = (offer pieces).renumber offset := by
  match pieces with
  | [] => rfl
  | [only] => rfl
  | first :: second :: pieces =>
      rw [offer_of_two_le _ (by simp), offer_of_two_le _ (by simp), deepest_renumber,
        map_pattern_renumber]
      rfl

theorem close_renumber : (group.renumber offset).close = group.close.renumber offset := by
  rw [close_eq_offer, close_eq_offer, ← offer_renumber, List.map_reverse, List.map_cons,
    sequence_renumber]
  rfl

theorem closed_renumber : (group.renumber offset).closed = group.closed.renumber offset := by
  rw [closed, close_renumber]
  cases number : group.number <;> simp [closed, renumber, Piece.renumber, Pattern.renumber, number]

end Group

end Pattern

end CrossBuild
