import CrossBuild.Pattern.Flags

/-!
Escape sequences: characters by name or number, classes, word boundaries and text boundaries.
-/

namespace CrossBuild

inductive Escape where
  | character (character : Char) (asByte : Bool)
  | set (negated : Bool) (set : CharSet)
  | look (look : Look)

namespace Escape

def isMeta (character : Char) : Bool := "\\.+*?()|[]\x7b\x7d^$#&-~".toList.contains character

def isLiteral (character : Char) : Bool :=
  isMeta character ||
    (character.toNat < 0x80 && !character.isAlphanum && character ≠ '<' && character ≠ '>')

def hexValue (digits : List Char) : Nat :=
  digits.foldl (fun value digit => 16 * value + (Text.hexDigit? digit).getD 0) 0

def ofNumber (digits : List Char) (asByte : Bool) : Except PatternError Escape :=
  let code := hexValue digits
  if code.isValidChar then .ok (.character (Char.ofNat code) asByte)
  else .error .invalidCodePoint

def readHex (flags : Flags) : Nat → List Char → Except PatternError (List Char × List Char)
  | 0, text => .ok ([], text)
  | _ + 1, [] => .error .unfinishedEscape
  | count + 1, digit :: rest =>
      if (Text.hexDigit? digit).isNone then .error (.invalidHexDigit digit)
      else do
        let (digits, rest) ← readHex flags count (flags.skip rest)
        return (digit :: digits, rest)

def readDigits (flags : Flags) (count : Nat) (text : List Char) :
    Except PatternError (Escape × List Char) := do
  let (digits, rest) ← readHex flags count text
  return (← ofNumber digits (count = 2), rest)

def closeNumber (flags : Flags) (digits text : List Char) :
    Except PatternError (Escape × List Char) :=
  match text with
  | [] => .error .unfinishedEscape
  | _ :: rest =>
      match digits.find? fun digit => (Text.hexDigit? digit).isNone with
      | some digit => .error (.invalidHexDigit digit)
      | none =>
          if digits.isEmpty then .error .missingNumber
          else do return (← ofNumber digits false, flags.skip rest)

def readNumber (flags : Flags) (count : Nat) (text : List Char) :
    Except PatternError (Escape × List Char) :=
  match flags.skip text with
  | [] => .error .unfinishedEscape
  | '\x7b' :: rest =>
      let (digits, rest) := flags.readAll (fun digit => digit ≠ '\x7d') (flags.skip rest)
      closeNumber flags digits rest
  | text => readDigits flags count text

def splitAtText (separator : List Char) : List Char → Option (List Char × List Char)
  | [] => none
  | first :: rest =>
      if separator.isPrefixOf (first :: rest) then
        some ([], (first :: rest).drop separator.length)
      else (splitAtText separator rest).map fun parts => (first :: parts.1, parts.2)

def propertyNamed (name : List Char) : Option CharSet × Bool :=
  match splitAtText ['!', '='] name with
  | some (property, value) =>
      (CharSet.propertyValue? (CharSet.looseName property) (CharSet.looseName value), true)
  | none =>
      match (splitAtText [':'] name).or (splitAtText ['='] name) with
      | some (property, value) =>
          (CharSet.propertyValue? (CharSet.looseName property) (CharSet.looseName value), false)
      | none => (CharSet.property? (CharSet.looseName name), false)

def propertySet (flags : Flags) (negated : Bool) (name : List Char) :
    Except PatternError Escape :=
  if !flags.unicode then .error .needsUnicode
  else
    match propertyNamed name with
    | (none, _) => .error (.unknownProperty (String.ofList name))
    | (some members, opposite) => .ok (.set (negated != opposite) (flags.withCase members))

def closeProperty (flags : Flags) (negated : Bool) (name text : List Char) :
    Except PatternError (Escape × List Char) :=
  match text with
  | [] => .error .unfinishedEscape
  | _ :: rest => do return (← propertySet flags negated name, rest)

def readProperty (flags : Flags) (negated : Bool) (text : List Char) :
    Except PatternError (Escape × List Char) :=
  match flags.skip text with
  | [] => .error .unfinishedEscape
  | '\x7b' :: rest =>
      let (name, rest) := flags.readAll (fun character => character ≠ '\x7d') (flags.skip rest)
      closeProperty flags negated name rest
  | letter :: rest =>
      if letter = '\\' then .error (.unknownProperty "\\")
      else do return (← propertySet flags negated [letter], flags.skip rest)

def namedBoundary? (flags : Flags) : String → Option Look
  | "start" => some (.wordStart flags.word)
  | "end" => some (.wordEnd flags.word)
  | "start-half" => some (.wordStartHalf flags.word)
  | "end-half" => some (.wordEndHalf flags.word)
  | _ => none

def isBoundaryCharacter (character : Char) : Bool := character.isAlpha || character = '-'

def closeBoundary (flags : Flags) (letters text : List Char) :
    Except PatternError (Escape × List Char) :=
  match text with
  | '\x7d' :: rest =>
      match namedBoundary? flags (String.ofList letters) with
      | some boundary => .ok (.look boundary, rest)
      | none => .error (.unknownWordBoundary (String.ofList letters))
  | _ => .error .unclosedWordBoundary

def readBoundary (flags : Flags) (text : List Char) : Except PatternError (Escape × List Char) :=
  match text with
  | '\x7b' :: rest =>
      match flags.skip rest with
      | [] => .error .unclosedWordBoundary
      | name@(first :: _) =>
          if !isBoundaryCharacter first then .ok (.look (.wordBoundary flags.word), text)
          else
            let (letters, rest) := flags.readAll isBoundaryCharacter name
            closeBoundary flags letters rest
  | _ => .ok (.look (.wordBoundary flags.word), text)

def read (flags : Flags) (text : List Char) : Except PatternError (Escape × List Char) :=
  match text with
  | [] => .error .unfinishedEscape
  | first :: rest =>
      if isLiteral first then .ok (.character first false, rest)
      else if first.isDigit then .error .backReference
      else
        match first with
        | 'x' => readNumber flags 2 rest
        | 'u' => readNumber flags 4 rest
        | 'U' => readNumber flags 8 rest
        | 'p' => readProperty flags false rest
        | 'P' => readProperty flags true rest
        | 'd' => .ok (.set false flags.digit, rest)
        | 'D' => .ok (.set true flags.digit, rest)
        | 's' => .ok (.set false flags.blank, rest)
        | 'S' => .ok (.set true flags.blank, rest)
        | 'w' => .ok (.set false flags.word, rest)
        | 'W' => .ok (.set true flags.word, rest)
        | 'a' => .ok (.character '\x07' false, rest)
        | 'f' => .ok (.character '\x0c' false, rest)
        | 't' => .ok (.character '\t' false, rest)
        | 'n' => .ok (.character '\n' false, rest)
        | 'r' => .ok (.character '\r' false, rest)
        | 'v' => .ok (.character '\x0b' false, rest)
        | 'A' => .ok (.look .textStart, rest)
        | 'z' => .ok (.look .textEnd, rest)
        | 'b' => readBoundary flags rest
        | 'B' => .ok (.look (.noWordBoundary flags.word), rest)
        | '<' => .ok (.look (.wordStart flags.word), rest)
        | '>' => .ok (.look (.wordEnd flags.word), rest)
        | _ => .error (.unknownEscape first)

end Escape

end CrossBuild
