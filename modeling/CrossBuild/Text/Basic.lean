/-!
Blank characters, and how single characters and lists of items are written inside messages.
-/

namespace CrossBuild.Text

def isBlank (character : Char) : Bool :=
  let code := character.toNat
  (9 ≤ code && code ≤ 13) || code == 0x20 || code == 0x85 || code == 0xA0 || code == 0x1680 ||
    (0x2000 ≤ code && code ≤ 0x200A) || code == 0x2028 || code == 0x2029 || code == 0x202F ||
    code == 0x205F || code == 0x3000

def trimBlank (text : List Char) : List Char :=
  ((text.dropWhile isBlank).reverse.dropWhile isBlank).reverse

def hexCode (character : Char) : String :=
  String.ofList (Nat.toDigits 16 character.toNat)

/-- Writes a character between single quotes.  A space and the visible characters stand for
themselves, tab, line feed and carriage return have letters, and every other character that is
handed to this function is an invisible one, written by its number. -/
def quoteCharacter (character : Char) : String :=
  let body :=
    if character = '\t' then "\\t"
    else if character = '\n' then "\\n"
    else if character = '\r' then "\\r"
    else if 0x20 ≤ character.toNat && character.toNat < 0x7F then character.toString
    else "\\u\x7b" ++ hexCode character ++ "\x7d"
  "'" ++ body ++ "'"

def commaList {α : Type} [ToString α] (items : List α) : String :=
  ", ".intercalate (items.map toString)

def bracketList {α : Type} [ToString α] (items : List α) : String :=
  "[" ++ commaList items ++ "]"

end CrossBuild.Text
