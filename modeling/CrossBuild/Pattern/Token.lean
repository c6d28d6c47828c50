import CrossBuild.Pattern.Bracket

/-!
The parts that a pattern is written in: single expressions, repetitions, and the marks that open,
close and divide groups.
-/

namespace CrossBuild

inductive Token where
  | expression (pattern : Pattern) (depth : Nat)
  | openGroup (changes : FlagChanges)
  | openCapture (name : Option String)
  | closeGroup
  | setFlags (changes : FlagChanges)
  | alternative
  | repetition (least : Nat) (most : Option Nat) (greedy : Bool)

namespace Token

def repeating (flags : Flags) (least : Nat) (most : Option Nat) (text : List Char) :
    Token × List Char :=
  match text with
  | '?' :: rest => (repetition least most flags.swapGreed, rest)
  | rest => (repetition least most (!flags.swapGreed), rest)

def decimal (digits : List Char) : Except PatternError Nat :=
  let number := digits.foldl (fun value digit => 10 * value + (digit.toNat - '0'.toNat)) 0
  if digits.isEmpty then .error .missingNumber
  else if number < UInt32.size then .ok number
  else .error .numberTooLarge

def readDecimal (flags : Flags) (text : List Char) :
    Except PatternError Nat × List Char :=
  let (digits, rest) := flags.readAll Char.isDigit (text.dropWhile Text.isBlank)
  (decimal digits, flags.skip (rest.dropWhile Text.isBlank))

def readUpper (flags : Flags) (text : List Char) :
    Except PatternError (Option Nat × List Char) :=
  match text with
  | '\x7d' :: _ => .ok (none, text)
  | _ =>
      let (number, rest) := readDecimal flags text
      number.map fun most => (some most, rest)

def readMost (flags : Flags) (least : Nat) (text : List Char) :
    Except PatternError (Option Nat × List Char) :=
  match text with
  | ',' :: rest => readUpper flags (flags.skip rest)
  | _ => .ok (some least, text)

def closeCounted (flags : Flags) (least : Nat) (most : Option Nat) (text : List Char) :
    Except PatternError (Token × List Char) :=
  match text with
  | '\x7d' :: rest =>
      match most with
      | none => .ok (repeating flags least none (flags.skip rest))
      | some most =>
          if most < least then .error (.invalidRepetition least most)
          else .ok (repeating flags least (some most) (flags.skip rest))
  | _ => .error .unclosedRepetition

def readCounted (flags : Flags) (text : List Char) : Except PatternError (Token × List Char) := do
  let (number, rest) := readDecimal flags (flags.skip text)
  let least ← number
  let (most, rest) ← readMost flags least rest
  closeCounted flags least most rest

def captureName (name : List Char) : Except PatternError String :=
  match name with
  | [] => .error .emptyGroupName
  | first :: others =>
      if CharSet.beginsName first && others.all CharSet.continuesName then .ok (String.ofList name)
      else .error .invalidGroupName

def readName (text : List Char) : Except PatternError (String × List Char) :=
  match text.dropWhile (· ≠ '>') with
  | [] => .error .invalidGroupName
  | _ :: rest => do return (← captureName (text.takeWhile (· ≠ '>')), rest)

def readNamed (text : List Char) : Except PatternError (Token × List Char) := do
  let (name, rest) ← readName text
  return (openCapture (some name), rest)

def readFlags (text : List Char) : Except PatternError (Token × List Char) := do
  let (changes, terminator, rest) ← Flags.read false false [] text
  if terminator = ':' then return (openGroup changes, rest)
  if changes.isEmpty then throw .nothingToRepeat
  return (setFlags changes, rest)

def readMarked (text : List Char) : Except PatternError (Token × List Char) :=
  match text with
  | '=' :: _ | '!' :: _ | '<' :: '=' :: _ | '<' :: '!' :: _ => .error .lookAround
  | 'P' :: '<' :: rest | '<' :: rest => readNamed rest
  | _ => readFlags text

def readGroup (flags : Flags) (text : List Char) : Except PatternError (Token × List Char) :=
  match flags.skip text with
  | '?' :: rest => readMarked rest
  | rest => .ok (openCapture none, rest)

def ofPattern (pattern : Except PatternError Pattern) (rest : List Char) :
    Except PatternError (Token × List Char) :=
  pattern.map fun pattern => (expression pattern 0, rest)

def ofEscape (flags : Flags) (escape : Escape) (rest : List Char) :
    Except PatternError (Token × List Char) :=
  match escape with
  | .character character asByte => ofPattern (flags.literal character asByte) rest
  | .set negated members => ofPattern ((flags.classOf negated members).map .character) rest
  | .look condition => .ok (expression (.look condition) 0, rest)

def ofBracket (flags : Flags) (bracket : Bracket) (rest : List Char) :
    Except PatternError (Token × List Char) := do
  let inner := bracket.close flags
  return (expression (.character (← flags.classOf bracket.negated inner.set)) inner.depth, rest)

def read (flags : Flags) (first : Char) (rest : List Char) :
    Except PatternError (Token × List Char) :=
  match first with
  | '(' => readGroup flags rest
  | ')' => .ok (closeGroup, rest)
  | '|' => .ok (alternative, rest)
  | '[' => do
      let (bracket, rest) ← Bracket.readClass flags rest
      ofBracket flags bracket rest
  | '?' => .ok (repeating flags 0 (some 1) rest)
  | '*' => .ok (repeating flags 0 none rest)
  | '+' => .ok (repeating flags 1 none rest)
  | '\x7b' => readCounted flags rest
  | '\\' => do
      let (escape, rest) ← Escape.read flags rest
      ofEscape flags escape rest
  | '.' => ofPattern flags.dot rest
  | '^' => .ok (expression (.look flags.lineStart) 0, rest)
  | '$' => .ok (expression (.look flags.lineEnd) 0, rest)
  | _ => ofPattern (flags.literal first false) rest

end Token

end CrossBuild
