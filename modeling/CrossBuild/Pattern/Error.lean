/-!
Why a text is not a pattern.
-/

namespace CrossBuild

inductive PatternError where
  | unclosedGroup
  | unopenedGroup
  | lookAround
  | emptyGroupName
  | invalidGroupName
  | duplicateGroupName (name : String)
  | unclosedFlags
  | unknownFlag (flag : Char)
  | duplicateFlag (flag : Char)
  | repeatedNegation
  | danglingNegation
  | nothingToRepeat
  | unclosedRepetition
  | missingNumber
  | numberTooLarge
  | invalidRepetition (least most : Nat)
  | unfinishedEscape
  | unknownEscape (character : Char)
  | backReference
  | invalidHexDigit (digit : Char)
  | invalidCodePoint
  | unclosedWordBoundary
  | unknownWordBoundary (name : String)
  | unknownProperty (name : String)
  | unclosedClass
  | invalidClassItem
  | invalidClassRange (first last : Char)
  | needsUnicode
  | tooDeep
  | tooLarge
deriving DecidableEq

def PatternError.message : PatternError → String
  | unclosedGroup => "unclosed group"
  | unopenedGroup => "unopened group"
  | lookAround => "look-around is not supported"
  | emptyGroupName => "empty capture group name"
  | invalidGroupName => "invalid capture group name"
  | duplicateGroupName name => "duplicate capture group name " ++ name
  | unclosedFlags => "unclosed flags"
  | unknownFlag flag => "unknown flag " ++ flag.toString
  | duplicateFlag flag => "duplicate flag " ++ flag.toString
  | repeatedNegation => "flags are negated twice"
  | danglingNegation => "negation without a flag"
  | nothingToRepeat => "repetition without an expression"
  | unclosedRepetition => "unclosed counted repetition"
  | missingNumber => "counted repetition without a number"
  | numberTooLarge => "number of repetitions is too large"
  | invalidRepetition least most =>
      "repetition from " ++ toString least ++ " to " ++ toString most ++ " times"
  | unfinishedEscape => "unfinished escape sequence"
  | unknownEscape character => "unknown escape sequence for " ++ character.toString
  | backReference => "back-references are not supported"
  | invalidHexDigit digit => "invalid hexadecimal digit " ++ digit.toString
  | invalidCodePoint => "number is not a character"
  | unclosedWordBoundary => "unclosed word boundary"
  | unknownWordBoundary name => "unknown word boundary " ++ name
  | unknownProperty name => "unknown Unicode property " ++ name
  | unclosedClass => "unclosed character class"
  | invalidClassItem => "expression is not allowed in a character class"
  | invalidClassRange first last =>
      "invalid range from " ++ first.toString ++ " to " ++ last.toString
  | needsUnicode => "expression needs Unicode mode"
  | tooDeep => "groups are nested too deeply"
  | tooLarge => "pattern is too large"

end CrossBuild
