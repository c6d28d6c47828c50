import CrossBuild.Pattern.Escape

/-!
Bracketed character classes: unions of characters, ranges and classes, negation, nesting, and the
operations `&&`, `--` and `~~`, which bind weaker than union and group to the left.
-/

namespace CrossBuild

structure NestedSet where
  set : CharSet
  depth : Nat

inductive SetOperation where
  | intersection
  | difference
  | symmetricDifference

def SetOperation.apply : SetOperation → CharSet → CharSet → CharSet
  | intersection, first, second => .intersection first second
  | difference, first, second => .difference first second
  | symmetricDifference, first, second => .symmetricDifference first second

structure Bracket where
  negated : Bool
  waiting : Option (SetOperation × NestedSet)
  parts : List NestedSet

namespace Bracket

def add (bracket : Bracket) (part : NestedSet) : Bracket :=
  { bracket with parts := part :: bracket.parts }

def addSet (bracket : Bracket) (set : CharSet) : Bracket := bracket.add ⟨set, 0⟩

def union (bracket : Bracket) : NestedSet :=
  match bracket.parts with
  | [] => ⟨.empty, 0⟩
  | [part] => part
  | parts =>
      ⟨.unionAll (parts.map NestedSet.set), 1 + (parts.map NestedSet.depth).foldl max 0⟩

def value (flags : Flags) (bracket : Bracket) : NestedSet :=
  match bracket.waiting with
  | none => bracket.union
  | some (operation, first) =>
      let second := bracket.union
      ⟨operation.apply (flags.withCase first.set) (flags.withCase second.set),
        1 + max first.depth second.depth⟩

def close (flags : Flags) (bracket : Bracket) : NestedSet :=
  let inner := bracket.value flags
  ⟨flags.withCase inner.set, 1 + inner.depth⟩

def addBracket (flags : Flags) (bracket inner : Bracket) : Except PatternError Bracket := do
  let closed := inner.close flags
  return bracket.add ⟨← flags.negate inner.negated closed.set, closed.depth⟩

def operate (flags : Flags) (bracket : Bracket) (operation : SetOperation) : Bracket :=
  { bracket with waiting := some (operation, bracket.value flags), parts := [] }

def readNegation (flags : Flags) (text : List Char) : Bool × List Char :=
  match flags.skip text with
  | '^' :: rest => (true, flags.skip rest)
  | text => (false, text)

def ofCharacters (negated : Bool) (characters : List Char) : Bracket :=
  characters.foldl (fun bracket character => bracket.addSet (.only character))
    { negated := negated, waiting := none, parts := [] }

def begin (flags : Flags) (negated : Bool) (hyphens text : List Char) :
    Except PatternError (Bracket × List Char) :=
  match hyphens, text with
  | _, [] => .error .unclosedClass
  | [], ']' :: rest => .ok (ofCharacters negated [']'], flags.skip rest)
  | _, _ => .ok (ofCharacters negated hyphens, text)

def start (flags : Flags) (text : List Char) : Except PatternError (Bracket × List Char) :=
  let (negated, rest) := readNegation flags text
  let (hyphens, rest) := flags.readAll (fun character => character = '-') rest
  begin flags negated hyphens rest

def posixNamed? (negated : Bool) (text : List Char) : Option (CharSet × Bool × List Char) :=
  match text.dropWhile (· ≠ ':') with
  | ':' :: ']' :: after =>
      (CharSet.posix? (String.ofList (text.takeWhile (· ≠ ':')))).map fun set =>
        (set, negated, after)
  | _ => none

def readPosix? (text : List Char) : Option (CharSet × Bool × List Char) :=
  match text with
  | ':' :: '^' :: rest => posixNamed? true rest
  | ':' :: rest => posixNamed? false rest
  | _ => none

def readItem (flags : Flags) (text : List Char) : Except PatternError (Escape × List Char) :=
  match text with
  | [] => .error .unclosedClass
  | '\\' :: rest => Escape.read flags rest
  | character :: rest => .ok (.character character false, rest)

def itemSet (flags : Flags) : Escape → Except PatternError CharSet
  | .character character _ => return .only (← flags.classLiteral character)
  | .set negated set => flags.negate negated set
  | .look _ => .error .invalidClassItem

def rangeEnd (flags : Flags) : Escape → Except PatternError Char
  | .character character _ => flags.classLiteral character
  | _ => .error .invalidClassItem

def afterHash : List Char → Option Char
  | '#' :: rest => (rest.dropWhile Text.isBlank).head?
  | text => text.head?

def peek (flags : Flags) (text : List Char) : Option Char :=
  if flags.extended then (afterHash (text.dropWhile Text.isBlank)).or text.head? else text.head?

def rangeOf (flags : Flags) (first last : Escape) : Except PatternError CharSet := do
  let low ← rangeEnd flags first
  let high ← rangeEnd flags last
  if high < low then throw (.invalidClassRange low high)
  return .ofRange (.between low high)

def readLast (flags : Flags) (first : Escape) (text : List Char) :
    Except PatternError (CharSet × List Char) := do
  let (last, rest) ← readItem flags (flags.skip text)
  return (← rangeOf flags first last, rest)

def readFrom (flags : Flags) (first : Escape) (text : List Char) :
    Except PatternError (CharSet × List Char) :=
  match flags.skip text with
  | [] => .error .unclosedClass
  | '-' :: rest =>
      let next := peek flags rest
      if next = some ']' || next = some '-' then do return (← itemSet flags first, '-' :: rest)
      else readLast flags first rest
  | text => do return (← itemSet flags first, text)

def readRange (flags : Flags) (text : List Char) : Except PatternError (CharSet × List Char) := do
  let (first, rest) ← readItem flags text
  readFrom flags first rest

def readOperation? : List Char → Option (SetOperation × List Char)
  | '&' :: '&' :: rest => some (.intersection, rest)
  | '-' :: '-' :: rest => some (.difference, rest)
  | '~' :: '~' :: rest => some (.symmetricDifference, rest)
  | _ => none

/-- Reads up to the bracket that closes the outermost class.  The enclosing classes stand in
`outer`, the innermost first. -/
def read (flags : Flags) :
    Nat → Bracket → List Bracket → List Char → Except PatternError (Bracket × List Char)
  | 0, _, _, _ => .error .unclosedClass
  | fuel + 1, bracket, outer, text =>
      match flags.skip text with
      | [] => .error .unclosedClass
      | '[' :: rest =>
          match readPosix? rest with
          | some (set, negated, after) => do
              let set ← flags.negate negated (flags.withCase set)
              read flags fuel (bracket.addSet set) outer after
          | none => do
              let (inner, after) ← start flags rest
              read flags fuel inner (bracket :: outer) after
      | ']' :: rest =>
          match outer with
          | [] => .ok (bracket, rest)
          | enclosing :: others => do
              read flags fuel (← enclosing.addBracket flags bracket) others rest
      | text =>
          match readOperation? text with
          | some (operation, rest) => read flags fuel (bracket.operate flags operation) outer rest
          | none => do
              let (set, after) ← readRange flags text
              read flags fuel (bracket.addSet set) outer after

def readClass (flags : Flags) (text : List Char) :
    Except PatternError (Bracket × List Char) := do
  let (bracket, rest) ← start flags text
  read flags (text.length + 1) bracket [] rest

end Bracket

end CrossBuild
