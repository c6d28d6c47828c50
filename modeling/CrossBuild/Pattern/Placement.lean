import CrossBuild.Pattern.Basic

/-!
Patterns over a text.  Placing a pattern turns each of its classes and conditions into the set of
positions at which it holds, which is then the same for every attempt to match.
-/

namespace CrossBuild

/-- A set of positions is a number, and the bit at a position says whether it belongs. -/
inductive Placement where
  | step (positions : Nat)
  | stay (positions : Nat)
  | sequence (parts : List Placement)
  | either (choices : List Placement)
  | repetition (body : Placement) (least more : Nat)

namespace Placement

def place (condition : Nat → Bool) : Nat → Nat
  | 0 => 0
  | count + 1 =>
      if condition count then place condition count ||| 1 <<< count else place condition count

def iterate (step : Nat → Nat) : Nat → Nat → Nat
  | 0, positions => positions
  | count + 1, positions =>
      let next := step positions
      if next = positions then positions else iterate step count next

mutual

/-- The positions at which a match can end that starts at one of the given positions. -/
def ends : Placement → Nat → Nat
  | step positions, starts => (starts &&& positions) <<< 1
  | stay positions, starts => starts &&& positions
  | sequence parts, starts => endsInTurn parts starts
  | either choices, starts => endsOfAny choices starts
  | repetition body least more, starts =>
      iterate (fun positions => positions ||| body.ends positions) more
        (iterate body.ends least starts)

def endsInTurn : List Placement → Nat → Nat
  | [], starts => starts
  | part :: parts, starts => endsInTurn parts (part.ends starts)

def endsOfAny : List Placement → Nat → Nat
  | [], _ => 0
  | choice :: choices, starts => choice.ends starts ||| endsOfAny choices starts

end

theorem endsOfAny_eq_zero (choices : List Placement) (starts : Nat) :
    endsOfAny choices starts = 0 ↔ ∀ choice ∈ choices, choice.ends starts = 0 := by
  induction choices with
  | nil => simp [endsOfAny]
  | cons choice choices ih => simp [endsOfAny, Nat.or_eq_zero_iff, ih]

end Placement

namespace Pattern

open Placement (place)

def characterBefore (text : Array Char) (position : Nat) : Option Char :=
  match position with
  | 0 => none
  | index + 1 => text[index]?

mutual

/-- The pattern on a text.  A repetition without upper bound has reached every position after as
many rounds as there are characters. -/
def placed (text : Array Char) : Pattern → Placement
  | empty => .sequence []
  | character members =>
      .step (place (fun position => text[position]?.any members.contains) text.size)
  | look condition =>
      .stay (place (fun position =>
        condition.holds (characterBefore text position) text[position]?) (text.size + 1))
  | capture _ body => body.placed text
  | sequence parts => .sequence (allPlaced text parts)
  | either choices => .either (allPlaced text choices)
  | repetition body least most _ =>
      .repetition (body.placed text) least (most.elim text.size (· - least))

def allPlaced (text : Array Char) : List Pattern → List Placement
  | [] => []
  | part :: parts => part.placed text :: allPlaced text parts

end

def isMatch (pattern : Pattern) (text : String) : Bool :=
  let characters := text.toList.toArray
  (pattern.placed characters).ends (place (fun _ => true) (characters.size + 1)) ≠ 0

theorem allPlaced_eq_map (text : Array Char) (patterns : List Pattern) :
    allPlaced text patterns = patterns.map (placed text) := by
  induction patterns with
  | nil => rfl
  | cons pattern patterns ih => simp [allPlaced, ih]

theorem isMatch_either (choices : List Pattern) (text : String) :
    (either choices).isMatch text = choices.any fun choice => choice.isMatch text := by
  rw [Bool.eq_iff_iff, List.any_eq_true]
  simp only [isMatch, placed, allPlaced_eq_map, Placement.ends, ne_eq, decide_eq_true_eq,
    Placement.endsOfAny_eq_zero, List.forall_mem_map]
  simp only [Classical.not_forall, exists_prop]

end Pattern

end CrossBuild
