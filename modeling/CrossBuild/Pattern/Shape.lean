import CrossBuild.Pattern.Basic

/-!
Patterns in the compact form in which they are compiled: adjacent characters are one literal,
nested sequences and alternatives are flat, alternatives that are characters or classes are one
class, and what all alternatives begin with stands in front of them.
-/

namespace CrossBuild

inductive Shape where
  | empty
  | literal (text : List Char)
  | characters (members : CharClass)
  | look (look : Look)
  | capture (number : Nat) (body : Shape)
  | sequence (parts : List Shape)
  | either (choices : List Shape)
  | repetition (body : Shape) (least : Nat) (most : Option Nat) (greedy : Bool)
deriving Inhabited

namespace Shape

mutual

def same : Shape → Shape → Bool
  | empty, empty => true
  | literal first, literal second => first = second
  | characters first, characters second => first = second
  | look first, look second => first = second
  | capture number first, capture number' second => number = number' && first.same second
  | sequence first, sequence second => sameEach first second
  | either first, either second => sameEach first second
  | repetition first least most greedy, repetition second least' most' greedy' =>
      least = least' && most = most' && greedy = greedy' && first.same second
  | _, _ => false

def sameEach : List Shape → List Shape → Bool
  | [], [] => true
  | first :: firsts, second :: seconds => first.same second && sameEach firsts seconds
  | _, _ => false

end

mutual

theorem same_iff : ∀ first second : Shape, first.same second = true ↔ first = second
  | empty, second => by cases second <;> simp [same]
  | literal _, second => by cases second <;> simp [same]
  | characters _, second => by cases second <;> simp [same]
  | look _, second => by cases second <;> simp [same]
  | capture _ first, second => by cases second <;> simp [same, same_iff first]
  | sequence first, second => by cases second <;> simp [same, sameEach_iff first]
  | either first, second => by cases second <;> simp [same, sameEach_iff first]
  | repetition first _ _ _, second => by
      cases second <;> simp [same, same_iff first]
      grind

theorem sameEach_iff : ∀ firsts seconds : List Shape,
    sameEach firsts seconds = true ↔ firsts = seconds
  | [], seconds => by cases seconds <;> simp [sameEach]
  | first :: firsts, seconds => by
      cases seconds <;> simp [sameEach, same_iff first, sameEach_iff firsts]

end

instance : DecidableEq Shape := fun first second =>
  decidable_of_iff (first.same second) (same_iff first second)

def never : Shape := characters ⟨[], true⟩

def ofClass (members : CharClass) : Shape :=
  match members.ranges with
  | [] => never
  | [range] =>
      if range.first = range.last then literal [Char.ofNat range.first] else characters members
  | _ => characters members

def inSequence : Shape → List Shape
  | empty => []
  | sequence parts => parts
  | part => [part]

def joinLiterals : List Shape → List Shape
  | [] => []
  | literal text :: parts =>
      match joinLiterals parts with
      | literal more :: others => literal (text ++ more) :: others
      | others => literal text :: others
  | part :: parts => part :: joinLiterals parts

def sequenceOf (parts : List Shape) : Shape :=
  match joinLiterals (parts.flatMap inSequence) with
  | [] => empty
  | [part] => part
  | parts => sequence parts

def inChoices : Shape → List Shape
  | either choices => choices
  | choice => [choice]

def single? : Shape → Option CharSet
  | literal [character] => some (.only character)
  | _ => none

def set? : Shape → Option CharSet
  | characters members => some members.toSet
  | _ => none

def parts? : Shape → Option (List Shape)
  | sequence parts => some parts
  | _ => none

def commonPrefix : List Shape → List Shape → List Shape
  | first :: firsts, second :: seconds =>
      if first = second then first :: commonPrefix firsts seconds else []
  | _, _ => []

def eitherOf (nesting : Nat) (choices : List Shape) : Shape :=
  match choices.flatMap inChoices with
  | [] => never
  | [choice] => choice
  | choices =>
      match (choices.mapM single?).or (choices.mapM set?) with
      | some sets => ofClass ⟨(CharSet.unionAll sets).ranges, false⟩
      | none =>
          match nesting, choices.mapM parts? with
          | nesting + 1, some (first :: others) =>
              let shared := others.foldl commonPrefix first
              if shared.isEmpty then either choices
              else
                let rests := (first :: others).map fun parts =>
                  sequenceOf (parts.drop shared.length)
                sequenceOf (shared ++ [eitherOf nesting rests])
          | _, _ => either choices

mutual

def ofPattern : Pattern → Shape
  | .empty => empty
  | .character members => ofClass members
  | .look condition => look condition
  | .capture number body => capture number (ofPattern body)
  | .sequence parts => sequenceOf (ofPatterns parts)
  | .either choices => eitherOf Pattern.depthLimit (ofPatterns choices)
  | .repetition body least most greedy => repetition (ofPattern body) least most greedy

def ofPatterns : List Pattern → List Shape
  | [] => []
  | pattern :: patterns => ofPattern pattern :: ofPatterns patterns

end

mutual

def isBlank : Shape → Bool
  | empty | look _ => true
  | literal _ | characters _ => false
  | capture _ body => body.isBlank
  | sequence parts | either parts => areBlank parts
  | repetition body _ _ _ => body.isBlank

def areBlank : List Shape → Bool
  | [] => true
  | part :: parts => part.isBlank && areBlank parts

end

mutual

def shortest? : Shape → Option Nat
  | empty | look _ => some 0
  | literal text => some text.length
  | characters members => if members.ranges.isEmpty then none else some 1
  | capture _ body => body.shortest?
  | sequence parts => shortestInTurn? parts
  | either choices => shortestOfAny? choices
  | repetition body least _ _ => body.shortest?.map (least * ·)

def shortestInTurn? : List Shape → Option Nat
  | [] => some 0
  | part :: parts => return (← part.shortest?) + (← shortestInTurn? parts)

def shortestOfAny? : List Shape → Option Nat
  | [] => none
  | [choice] => choice.shortest?
  | choice :: choices => return min (← choice.shortest?) (← shortestOfAny? choices)

end

def hasText (shape : Shape) : Bool := shape.shortest?.any (0 < ·)

end Shape

end CrossBuild
