import CrossBuild.Pattern.NamedClass

/-!
Patterns.  A text is searched for a match anywhere, and only whether there is one matters.
-/

namespace CrossBuild

inductive Look where
  | textStart
  | textEnd
  | lineStart (returns : Bool)
  | lineEnd (returns : Bool)
  | wordBoundary (word : CharSet)
  | noWordBoundary (word : CharSet)
  | wordStart (word : CharSet)
  | wordEnd (word : CharSet)
  | wordStartHalf (word : CharSet)
  | wordEndHalf (word : CharSet)
deriving DecidableEq

namespace Look

def isWord (word : CharSet) (character : Option Char) : Bool := character.any word.contains

def holds (look : Look) (before after : Option Char) : Bool :=
  match look with
  | textStart => before.isNone
  | textEnd => after.isNone
  | lineStart returns =>
      before.isNone || before = some '\n' || (returns && before = some '\r' && after ≠ some '\n')
  | lineEnd returns =>
      after.isNone || (returns && after = some '\r') ||
        (after = some '\n' && !(returns && before = some '\r'))
  | wordBoundary word => isWord word before != isWord word after
  | noWordBoundary word => isWord word before == isWord word after
  | wordStart word => !isWord word before && isWord word after
  | wordEnd word => isWord word before && !isWord word after
  | wordStartHalf word => !isWord word before
  | wordEndHalf word => !isWord word after

end Look

/-- A class as it stands in a pattern: ranges in ascending order.  Written outside of Unicode mode,
it is a class of bytes. -/
structure CharClass where
  ranges : List Text.CodeRange
  ofBytes : Bool
deriving DecidableEq

namespace CharClass

def contains (members : CharClass) (character : Char) : Bool :=
  members.ranges.any fun range => range.contains character.toNat

def toSet (members : CharClass) : CharSet := .ofRanges members.ranges

end CharClass

inductive Pattern where
  | empty
  | character (members : CharClass)
  | look (look : Look)
  | capture (number : Nat) (body : Pattern)
  | sequence (parts : List Pattern)
  | either (choices : List Pattern)
  | repetition (body : Pattern) (least : Nat) (most : Option Nat) (greedy : Bool)
deriving Inhabited

namespace Pattern

/-- The deepest nesting of groups, repetitions, sequences, alternatives and classes. -/
def depthLimit : Nat := 250

mutual

def isBlank : Pattern → Bool
  | empty | look _ => true
  | character _ => false
  | capture _ body => body.isBlank
  | sequence parts | either parts => areBlank parts
  | repetition body _ _ _ => body.isBlank

def areBlank : List Pattern → Bool
  | [] => true
  | part :: parts => part.isBlank && areBlank parts

end

def repeated (body : Pattern) (least : Nat) (most : Option Nat) (greedy : Bool) : Pattern :=
  let (least, most) :=
    if body.isBlank then (min least 1, some (min (most.getD 1) 1)) else (least, most)
  if most = some 0 then empty
  else if least = 1 ∧ most = some 1 then body
  else repetition body least most greedy

end Pattern

end CrossBuild
