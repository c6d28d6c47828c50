import CrossBuild.Pattern.Basic
import CrossBuild.Pattern.Error
import CrossBuild.Text.Basic

/-!
The flags that are in force at a place of a pattern, how they are written, and what they make of
literal characters, dots, anchors and blanks.
-/

namespace CrossBuild

inductive Flag where
  | ignoreCase
  | multiLine
  | dotAll
  | swapGreed
  | unicode
  | lineReturns
  | extended
deriving DecidableEq

def Flag.ofLetter? : Char → Option Flag
  | 'i' => some ignoreCase
  | 'm' => some multiLine
  | 's' => some dotAll
  | 'U' => some swapGreed
  | 'u' => some unicode
  | 'R' => some lineReturns
  | 'x' => some extended
  | _ => none

structure Flags where
  ignoreCase : Bool := false
  multiLine : Bool := false
  dotAll : Bool := false
  swapGreed : Bool := false
  unicode : Bool := true
  lineReturns : Bool := false
  extended : Bool := false
deriving DecidableEq

abbrev FlagChanges := List (Flag × Bool)

namespace Flags

def change (flags : Flags) : Flag × Bool → Flags
  | (.ignoreCase, on) => { flags with ignoreCase := on }
  | (.multiLine, on) => { flags with multiLine := on }
  | (.dotAll, on) => { flags with dotAll := on }
  | (.swapGreed, on) => { flags with swapGreed := on }
  | (.unicode, on) => { flags with unicode := on }
  | (.lineReturns, on) => { flags with lineReturns := on }
  | (.extended, on) => { flags with extended := on }

def changeAll (flags : Flags) (changes : FlagChanges) : Flags := changes.foldl change flags

def read (negated afterMinus : Bool) (changes : FlagChanges) :
    List Char → Except PatternError (FlagChanges × Char × List Char)
  | [] => .error .unclosedFlags
  | character :: rest =>
      if character = ':' || character = ')' then
        if afterMinus then .error .danglingNegation else .ok (changes, character, rest)
      else if character = '-' then
        if negated then .error .repeatedNegation else read true true changes rest
      else
        match Flag.ofLetter? character with
        | none => .error (.unknownFlag character)
        | some flag =>
            if changes.any fun earlier => earlier.1 = flag then .error (.duplicateFlag character)
            else read negated false (changes ++ [(flag, !negated)]) rest

def skipIgnored (inComment : Bool) : List Char → List Char
  | [] => []
  | character :: rest =>
      if inComment then skipIgnored (character ≠ '\n') rest
      else if Text.isBlank character then skipIgnored false rest
      else if character = '#' then skipIgnored true rest
      else character :: rest

def skip (flags : Flags) (text : List Char) : List Char :=
  if flags.extended then skipIgnored false text else text

def readWhile (flags : Flags) (accept : Char → Bool) : Nat → List Char → List Char × List Char
  | fuel + 1, character :: rest =>
      if accept character then
        let more := flags.readWhile accept fuel (flags.skip rest)
        (character :: more.1, more.2)
      else ([], character :: rest)
  | _, text => ([], text)

def readAll (flags : Flags) (accept : Char → Bool) (text : List Char) : List Char × List Char :=
  flags.readWhile accept text.length text

def withCase (flags : Flags) (set : CharSet) : CharSet :=
  if !flags.ignoreCase then set
  else if flags.unicode then .anyCase set
  else .intersection (.anyCase set) .ascii

/-- A class within another one.  Outside of Unicode mode its complement would hold bytes that are no
text. -/
def negate (flags : Flags) (negated : Bool) (set : CharSet) : Except PatternError CharSet :=
  if !negated then .ok set
  else if flags.unicode then .ok (.complement set)
  else .error .needsUnicode

def classOf (flags : Flags) (negated : Bool) (set : CharSet) : Except PatternError CharClass :=
  if !negated then .ok ⟨set.ranges, !flags.unicode⟩
  else if flags.unicode then .ok ⟨set.gaps, false⟩
  else .error .needsUnicode

def literal (flags : Flags) (character : Char) (asByte : Bool) : Except PatternError Pattern :=
  if flags.unicode || character.toNat < 0x80 then
    (flags.classOf false (flags.withCase (.only character))).map .character
  else if asByte then .error .needsUnicode
  else (flags.classOf false (.only character)).map .character

def classLiteral (flags : Flags) (character : Char) : Except PatternError Char :=
  if flags.unicode || character.toNat < 0x80 then .ok character else .error .needsUnicode

def dot (flags : Flags) : Except PatternError Pattern :=
  if !flags.unicode then .error .needsUnicode
  else
    let lineEnds := if flags.dotAll then .empty
      else if flags.lineReturns then .ofText "a d"
      else .ofText "a"
    (flags.classOf true lineEnds).map .character

def lineStart (flags : Flags) : Look :=
  if flags.multiLine then .lineStart flags.lineReturns else .textStart

def lineEnd (flags : Flags) : Look :=
  if flags.multiLine then .lineEnd flags.lineReturns else .textEnd

def word (flags : Flags) : CharSet := if flags.unicode then .word else .asciiWord

def digit (flags : Flags) : CharSet := if flags.unicode then .digit else .asciiDigit

def blank (flags : Flags) : CharSet := if flags.unicode then .blank else .asciiBlank

end Flags

end CrossBuild
