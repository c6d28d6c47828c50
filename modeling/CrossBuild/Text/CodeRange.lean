/-!
Sets of code points as lists of ranges, and the compact text in which long lists are kept: ranges
in hexadecimal digits, a blank between neighbours, a single code point standing for itself.
-/

namespace CrossBuild.Text

structure CodeRange where
  first : Nat
  last : Nat
deriving DecidableEq, Inhabited

namespace CodeRange

def contains (range : CodeRange) (code : Nat) : Bool := range.first ≤ code && code ≤ range.last

def size (range : CodeRange) : Nat := range.last + 1 - range.first

def only (character : Char) : CodeRange := ⟨character.toNat, character.toNat⟩

def between (first last : Char) : CodeRange := ⟨first.toNat, last.toNat⟩

end CodeRange

def hexDigit? (character : Char) : Option Nat :=
  if '0' ≤ character && character ≤ '9' then some (character.toNat - '0'.toNat)
  else if 'a' ≤ character && character ≤ 'f' then some (character.toNat - 'a'.toNat + 10)
  else if 'A' ≤ character && character ≤ 'F' then some (character.toNat - 'A'.toNat + 10)
  else none

def rangesFrom (first : Option Nat) (code : Nat) : List Char → List CodeRange
  | [] => [⟨first.getD code, code⟩]
  | ' ' :: rest => ⟨first.getD code, code⟩ :: rangesFrom none 0 rest
  | '-' :: rest => rangesFrom (some code) 0 rest
  | digit :: rest => rangesFrom first (16 * code + (hexDigit? digit).getD 0) rest

def rangesOf (line : String) : List CodeRange := rangesFrom none 0 line.toList

structure NamedRanges where
  names : List String
  lines : List String

namespace NamedRanges

def ranges (table : NamedRanges) : List CodeRange := table.lines.flatMap rangesOf

def find? (tables : List NamedRanges) (name : String) : Option (List CodeRange) :=
  (tables.find? fun table => table.names.contains name).map ranges

end NamedRanges

end CrossBuild.Text
