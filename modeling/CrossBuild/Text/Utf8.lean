import CrossBuild.Text.CodeRange

/-!
UTF-8: which sequences of bytes encode the characters of a range.
-/

namespace CrossBuild.Text

structure ByteRange where
  first : Nat
  last : Nat
deriving DecidableEq, Hashable, Inhabited

abbrev ByteSequence := List ByteRange

namespace Utf8

def continuation : ByteRange := ⟨0x80, 0xBF⟩

/-- The encodings of a range whose first byte is `lead` and the highest bits, and which have
`count` bytes of six bits after it.  The range is divided where the bytes behind one first byte
begin or end, so that each part is a product of byte ranges. -/
def split : (count lead first last : Nat) → List ByteSequence
  | 0, lead, first, last => [[⟨lead + first, lead + last⟩]]
  | count + 1, lead, first, last =>
      let block := 64 ^ (count + 1)
      let behind (high first last : Nat) : List ByteSequence :=
        (split count 0x80 first last).map fun rest => ⟨lead + high, lead + high⟩ :: rest
      let low := first / block
      let high := last / block
      if low = high then behind low (first % block) (last % block)
      else
        let whole := first % block = 0
        let wholeEnd := last % block = block - 1
        let start := if whole then low else low + 1
        let stop := if wholeEnd then high + 1 else high
        (if whole then [] else behind low (first % block) (block - 1)) ++
        (if start < stop then
          [⟨lead + start, lead + (stop - 1)⟩ :: List.replicate (count + 1) continuation]
        else []) ++
        (if wholeEnd then [] else behind high 0 (last % block))

structure Zone where
  range : CodeRange
  count : Nat
  lead : Nat

def zones : List Zone :=
  [ ⟨⟨0, 0x7F⟩, 0, 0⟩
  , ⟨⟨0x80, 0x7FF⟩, 1, 0xC0⟩
  , ⟨⟨0x800, 0xD7FF⟩, 2, 0xE0⟩
  , ⟨⟨0xE000, 0xFFFF⟩, 2, 0xE0⟩
  , ⟨⟨0x10000, 0x10FFFF⟩, 3, 0xF0⟩ ]

def sequences (range : CodeRange) : List ByteSequence :=
  zones.flatMap fun zone =>
    let first := max range.first zone.range.first
    let last := min range.last zone.range.last
    if first ≤ last then split zone.count zone.lead first last else []

def encode (character : Char) : List Nat :=
  ((sequences (.only character)).headD []).map ByteRange.first

end Utf8

end CrossBuild.Text
