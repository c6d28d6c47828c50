import CrossBuild.Pattern.CharSet
import CrossBuild.Text.Unicode.Age
import CrossBuild.Text.Unicode.Category
import CrossBuild.Text.Unicode.Property
import CrossBuild.Text.Unicode.Script
import CrossBuild.Text.Unicode.Segmentation
import CrossBuild.Text.Unicode.SharedScript

/-!
The named character classes of patterns: digits, blanks and word characters, the POSIX names, and
the classes that are asked for by Unicode properties and their values.
-/

namespace CrossBuild.CharSet

open Text (NamedRanges)

def ofTable? (tables : List NamedRanges) (name : String) : Option CharSet :=
  (NamedRanges.find? tables name).map ofRanges

def ofTables (tables : List NamedRanges) (names : List String) : CharSet :=
  unionAll (names.filterMap (ofTable? tables))

def categories (names : List String) : CharSet := ofTables Text.Unicode.categories names

def properties (names : List String) : CharSet := ofTables Text.Unicode.properties names

def digit : CharSet := categories ["nd"]

def blank : CharSet := properties ["whitespace"]

def word : CharSet :=
  union (properties ["alphabetic", "joincontrol"]) (categories ["mn", "mc", "me", "nd", "pc"])

def asciiDigit : CharSet := ofText "30-39"

def asciiBlank : CharSet := ofText "9-d 20"

def asciiWord : CharSet := ofText "30-39 41-5a 5f 61-7a"

def posix? : String → Option CharSet
  | "alnum" => some (ofText "30-39 41-5a 61-7a")
  | "alpha" => some (ofText "41-5a 61-7a")
  | "ascii" => some ascii
  | "blank" => some (ofText "9 20")
  | "cntrl" => some (ofText "0-1f 7f")
  | "digit" => some asciiDigit
  | "graph" => some (ofText "21-7e")
  | "lower" => some (ofText "61-7a")
  | "print" => some (ofText "20-7e")
  | "punct" => some (ofText "21-2f 3a-40 5b-60 7b-7e")
  | "space" => some asciiBlank
  | "upper" => some (ofText "41-5a")
  | "word" => some asciiWord
  | "xdigit" => some (ofText "30-39 41-46 61-66")
  | _ => none

def categoryUnions : List (List String × List String) :=
  [ (["l", "letter"], ["lu", "ll", "lt", "lm", "lo"])
  , (["lc", "casedletter"], ["lu", "ll", "lt"])
  , (["m", "mark", "combiningmark"], ["mn", "mc", "me"])
  , (["n", "number"], ["nd", "nl", "no"])
  , (["p", "punctuation", "punct"], ["pc", "pd", "ps", "pe", "pi", "pf", "po"])
  , (["s", "symbol"], ["sm", "sc", "sk", "so"])
  , (["z", "separator"], ["zs", "zl", "zp"]) ]

def assigned : CharSet :=
  unionAll (Text.Unicode.categories.map fun table => ofRanges table.ranges)

def category? (name : String) : Option CharSet :=
  match name with
  | "any" => some all
  | "assigned" => some assigned
  | "ascii" => some ascii
  | "cn" | "unassigned" => some (complement assigned)
  | "c" | "other" =>
      some (unionAll [complement assigned, categories ["cc", "cf", "co"], surrogates])
  | _ =>
      match categoryUnions.find? fun entry => entry.1.contains name with
      | some entry => some (categories entry.2)
      | none => ofTable? Text.Unicode.categories name

def script? (name : String) : Option CharSet := ofTable? Text.Unicode.scripts name

def scriptInUse? (name : String) : Option CharSet :=
  (script? name).map fun own =>
    if ["zyyy", "common", "zinh", "qaai", "inherited"].contains name then
      difference own (unionAll (Text.Unicode.sharedScripts.map fun table => ofRanges table.ranges))
    else union own (ofTables Text.Unicode.sharedScripts [name])

def age? (name : String) : Option CharSet :=
  let earlier := Text.Unicode.ages.takeWhile fun table => !table.names.contains name
  (Text.Unicode.ages.find? fun table => table.names.contains name).map fun table =>
    unionAll ((earlier ++ [table]).map fun table => ofRanges table.ranges)

def openSyllables : CharSet := ofCodes ((List.range 399).map fun index => 0xAC00 + 28 * index)

def closedSyllables : CharSet := difference (ofText "ac00-d7a3") openSyllables

def separateMarks : CharSet :=
  ofText ("102b-102c 1038 1062-1064 1067-106d 1083 1087-108c 108f 109a-109c 1a61 1a63-1a64 aa7b " ++
    "aa7d 11720-11721")

def graphemeBreak? (name : String) : Option CharSet :=
  match name with
  | "ex" | "extend" => some (properties ["graphemeextend", "emojimodifier"])
  | "sm" | "spacingmark" =>
      some (union (ofText "e33 eb3")
        (difference (categories ["mc"]) (union separateMarks (properties ["graphemeextend"]))))
  | "lv" => some openSyllables
  | "lvt" => some closedSyllables
  | _ => ofTable? Text.Unicode.graphemeBreaks name

def zeroWidthJoiner : CharSet := ofText "200d"

def wordBreak? (name : String) : Option CharSet :=
  match name with
  | "extend" =>
      some (difference (union (categories ["mc"]) (properties ["graphemeextend", "emojimodifier"]))
        zeroWidthJoiner)
  | _ => ofTable? Text.Unicode.wordBreaks name

def sentenceExtend : CharSet :=
  unionAll [categories ["mc"], properties ["graphemeextend"], zeroWidthJoiner]

def sentenceLower : CharSet :=
  difference (properties ["lowercase"])
    (union (properties ["graphemeextend"]) (ofText "10d0-10fa 10fd-10ff"))

def sentenceUpper : CharSet :=
  difference (union (properties ["uppercase"]) (categories ["lt"])) (ofText "1c90-1cba 1cbd-1cbf")

def sentenceBreak? (name : String) : Option CharSet :=
  match name with
  | "ex" | "extend" => some sentenceExtend
  | "lo" | "lower" => some sentenceLower
  | "up" | "upper" => some sentenceUpper
  | "le" | "oletter" =>
      some (difference (union (properties ["alphabetic"]) (ofText "5f3"))
        (unionAll [sentenceLower, sentenceUpper, sentenceExtend]))
  | "nu" | "numeric" =>
      some (union (ofText "66c") (ofTables Text.Unicode.wordBreaks ["numeric"]))
  | "sp" => some (difference blank (ofText "a d 85 2028-2029"))
  | "st" | "sterm" =>
      some (difference (properties ["sentenceterminal"])
        (ofTables Text.Unicode.sentenceBreaks ["aterm"]))
  | _ => ofTable? Text.Unicode.sentenceBreaks name

/-- The class of a name that stands alone.  Yes-or-no properties come first, but for three short
names that are general categories here although a property is abbreviated in the same way. -/
def property? (name : String) : Option CharSet :=
  let yesOrNo := if ["cf", "sc", "lc"].contains name then none
    else ofTable? Text.Unicode.properties name
  (yesOrNo.or (category? name)).or (script? name)

def propertyValue? (property value : String) : Option CharSet :=
  match property with
  | "gc" | "generalcategory" => category? value
  | "sc" | "script" => script? value
  | "scx" | "scriptextensions" => scriptInUse? value
  | "age" => age? value
  | "gcb" | "graphemeclusterbreak" => graphemeBreak? value
  | "wb" | "wordbreak" => wordBreak? value
  | "sb" | "sentencebreak" => sentenceBreak? value
  | _ => none

def looseName (name : List Char) : String :=
  let dropsIs := match name with
    | first :: second :: _ => first.toLower = 'i' && second.toLower = 's'
    | _ => false
  let body := (if dropsIs then name.drop 2 else name).filter fun character =>
    character.toNat < 0x80 && !(character == ' ' || character == '_' || character == '-')
  let letters := body.map Char.toLower
  if dropsIs && letters = ['c'] then "isc" else String.ofList letters

def newLetters : CharSet :=
  ofText ("88f c5c cdc a7ce-a7cf a7d2 a7d4 a7f1 10940-10959 10ec5-10ec7 10efa-10efb 11b60-11b67 " ++
    "11db0-11ddb 16ea0-16eb8 16ebb-16ed3 16ff2-16ff6 187f8-187ff 18d09-18d1e 18d80-18df2 " ++
    "1e6c0-1e6de 1e6e0-1e6f5 1e6fe-1e6ff 2b73a-2b73f 2cea2-2cead 323b0-33479")

def newDigits : CharSet := ofText "11de0-11de9 16ff4-16ff6"

def letter : CharSet := union (properties ["alphabetic"]) newLetters

def letterOrNumber : CharSet := unionAll [letter, categories ["nd", "nl", "no"], newDigits]

def beginsName (character : Char) : Bool :=
  character = '_' ||
    if character.toNat < 0x80 then character.isAlpha else letter.contains character

def continuesName (character : Char) : Bool :=
  "_.[]".toList.contains character ||
    if character.toNat < 0x80 then character.isAlphanum else letterOrNumber.contains character

end CrossBuild.CharSet
