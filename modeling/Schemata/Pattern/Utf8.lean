import Schemata.Pattern.CharSet

/-!
# Sets of characters as sequences of bytes

The encodings of a range of code points, as sequences of byte ranges: a text of bytes is the
encoding of one of the code points just when each of its bytes lies in the range at its place. A
range is cut where the number of bytes changes, around the surrogates, and where its ends share a
leading byte only in part.
-/

namespace Schemata.Pattern

/-- The bytes from `first` to `last`, both included. -/
structure ByteRange where
  /-- The first byte. -/
  first : UInt8
  /-- The last byte. -/
  last : UInt8
  deriving DecidableEq

namespace CodeRange

/-- The code points that take equally many bytes, without the surrogates. -/
def encodingSpans : List CodeRange :=
  [⟨0, 0x7F⟩, ⟨0x80, 0x7FF⟩, ⟨0x800, 0xD7FF⟩, ⟨0xE000, 0xFFFF⟩, ⟨0x10000, 0x10FFFF⟩]

/-- The code points in both ranges. -/
def inter? (a b : CodeRange) : Option CodeRange :=
  let first := Nat.max a.first b.first
  let last := Nat.min a.last b.last
  if first ≤ last then some ⟨first, last⟩ else none

/-- The byte ranges between the encodings of two code points. -/
def between (first last : Nat) : List ByteRange :=
  List.zipWith ByteRange.mk (String.utf8EncodeChar (Char.ofNat first))
    (String.utf8EncodeChar (Char.ofNat last))

/-- Cut a range so that all bytes of a sequence but the first that differs are free or fixed. Each
unit is the number of code points that share the bytes before one place, the last place first. -/
def cut : (units : List Nat) → (first last : Nat) → List (List ByteRange)
  | [], first, last => [between first last]
  | unit :: units, first, last =>
    if first / unit = last / unit then [between first last]
    else
      let start := if first % unit = 0 then first else (first / unit + 1) * unit
      let stop := if (last + 1) % unit = 0 then last + 1 else last / unit * unit
      (if first < start then [between first (start - 1)] else []) ++
        (if start < stop then cut units start (stop - 1) else []) ++
        (if stop ≤ last then [between stop last] else [])

/-- The encodings of the code points of a range, in ascending order. -/
def encodings (range : CodeRange) : List (List ByteRange) :=
  (encodingSpans.filterMap range.inter?).flatMap fun part ↦
    if part.last < 0x80 then [between part.first part.last]
    else cut [64, 4096, 262144] part.first part.last

end CodeRange

/-- The encodings of the characters of a set, in ascending order. -/
def CharSet.encodings (set : CharSet) : List (List ByteRange) :=
  set.ranges.flatMap CodeRange.encodings

end Schemata.Pattern
