/-!
# Sets of characters

A set of characters is a list of ranges of code points in ascending order. `ofRanges` orders any
list of ranges and joins those that touch, and the set operations work on ordered lists in one pass.

The ends of a range are characters, so a step from one end to its neighbour passes over the
surrogates. Two ranges that meet around the surrogates are not joined, and `compl` writes the gap
between them as the range of the two ends.
-/

namespace Schemata.Pattern

/-- The code points from `first` to `last`, both included. -/
structure CodeRange where
  /-- The first code point. -/
  first : Nat
  /-- The last code point. -/
  last : Nat
  deriving DecidableEq, Inhabited

/-- A set of characters, as ranges of code points in ascending order. -/
structure CharSet where
  /-- The ranges. -/
  ranges : List CodeRange
  deriving DecidableEq, Inhabited

namespace CharSet

/-- The greatest code point. -/
def lastCode : Nat := 0x10FFFF

/-- The next character's code point. -/
def next (code : Nat) : Nat := if code = 0xD7FF then 0xE000 else code + 1

/-- The code point of the character before. -/
def prev (code : Nat) : Nat := if code = 0xE000 then 0xD7FF else code - 1

/-- Whether a code point lies in one of the ranges; a range that starts beyond it ends the search.
-/
def inRanges (code : Nat) : List CodeRange → Bool
  | [] => false
  | range :: rest =>
    if code < range.first then false else decide (code ≤ range.last) || inRanges code rest

/-- Whether a code point is in the set. -/
def containsCode (set : CharSet) (code : Nat) : Bool := inRanges code set.ranges

/-- Whether a character is in the set. -/
def contains (set : CharSet) (c : Char) : Bool := set.containsCode c.toNat

/-- Whether there is no character in the set. -/
def isEmpty (set : CharSet) : Bool := set.ranges.isEmpty

/-- Whether every character of the set is in ASCII. -/
def isAscii (set : CharSet) : Bool := set.ranges.all fun range ↦ decide (range.last < 0x80)

/-- The only character of the set, if there is just one. -/
def only? (set : CharSet) : Option Char :=
  match set.ranges with
  | [range] => if range.first = range.last then some (Char.ofNat range.first) else none
  | _ => none

/-- Join ranges that touch; `current` precedes the others. -/
def joinFrom (current : CodeRange) : List CodeRange → List CodeRange
  | [] => [current]
  | range :: rest =>
    if range.first ≤ current.last + 1 then
      joinFrom ⟨current.first, Nat.max current.last range.last⟩ rest
    else current :: joinFrom range rest

/-- Whether a range does not come after another. -/
def notAfter (a b : CodeRange) : Bool :=
  decide (a.first < b.first) || (a.first == b.first && decide (a.last ≤ b.last))

/-- The set of the code points in some ranges, in any order. -/
def ofRanges (ranges : List CodeRange) : CharSet :=
  match ranges.mergeSort notAfter with
  | [] => ⟨[]⟩
  | range :: rest => ⟨joinFrom range rest⟩

/-- No character. -/
def empty : CharSet := ⟨[]⟩

/-- Every character. -/
def all : CharSet := ⟨[⟨0, lastCode⟩]⟩

/-- One character. -/
def single (c : Char) : CharSet := ⟨[⟨c.toNat, c.toNat⟩]⟩

/-- The characters from `first` to `last`. -/
def range (first last : Char) : CharSet := ⟨[⟨first.toNat, last.toNat⟩]⟩

/-- The characters of a list. -/
def ofList (cs : List Char) : CharSet := ofRanges (cs.map fun c ↦ ⟨c.toNat, c.toNat⟩)

/-- The characters in any set of a list. -/
def unions (sets : List CharSet) : CharSet := ofRanges (sets.flatMap ranges)

/-- The characters in either set. -/
def union (s t : CharSet) : CharSet := unions [s, t]

/-- The code points in both lists of ranges. -/
def interRanges : List CodeRange → List CodeRange → List CodeRange
  | [], _ => []
  | _ :: _, [] => []
  | a :: as, b :: bs =>
    let rest := if a.last < b.last then interRanges as (b :: bs) else interRanges (a :: as) bs
    let first := Nat.max a.first b.first
    let last := Nat.min a.last b.last
    if first ≤ last then ⟨first, last⟩ :: rest else rest
termination_by as bs => as.length + bs.length

/-- The characters in both sets. -/
def inter (s t : CharSet) : CharSet := ⟨interRanges s.ranges t.ranges⟩

/-- The code points in the first list of ranges alone. -/
def diffRanges : List CodeRange → List CodeRange → List CodeRange
  | [], _ => []
  | a :: as, [] => a :: as
  | a :: as, b :: bs =>
    if b.last < a.first then diffRanges (a :: as) bs
    else if a.last < b.first then a :: diffRanges as (b :: bs)
    else
      let before := if a.first < b.first then [⟨a.first, prev b.first⟩] else []
      if b.last < a.last then before ++ diffRanges (⟨next b.last, a.last⟩ :: as) bs
      else before ++ diffRanges as (b :: bs)
termination_by as bs => as.length + bs.length

/-- The characters in the first set alone. -/
def diff (s t : CharSet) : CharSet := ⟨diffRanges s.ranges t.ranges⟩

/-- The characters in one set alone. -/
def symmDiff (s t : CharSet) : CharSet := (s.union t).diff (s.inter t)

/-- The range between two code points, whichever is less. -/
def spanned (a b : Nat) : CodeRange := if a ≤ b then ⟨a, b⟩ else ⟨b, a⟩

/-- The gaps after the code point `last`, before and between the ranges that follow it. -/
def gapsAfter (last : Nat) : List CodeRange → List CodeRange
  | [] => if last < lastCode then [⟨next last, lastCode⟩] else []
  | range :: rest => spanned (next last) (prev range.first) :: gapsAfter range.last rest

/-- The characters outside the set. -/
def compl (set : CharSet) : CharSet :=
  match set.ranges with
  | [] => all
  | range :: rest =>
    ⟨(if 0 < range.first then [⟨0, prev range.first⟩] else []) ++ gapsAfter range.last rest⟩

/-- The complement if `negated`. -/
def complIf (negated : Bool) (set : CharSet) : CharSet := if negated then set.compl else set

/-- The letters of ASCII in lower case. -/
def asciiLower : CharSet := range 'a' 'z'

/-- The letters of ASCII in upper case. -/
def asciiUpper : CharSet := range 'A' 'Z'

/-- The letters of ASCII. -/
def asciiAlpha : CharSet := asciiUpper.union asciiLower

/-- The digits of ASCII. -/
def asciiDigit : CharSet := range '0' '9'

/-- The letters and digits of ASCII. -/
def asciiAlnum : CharSet := asciiDigit.union asciiAlpha

/-- The characters of a word in ASCII. -/
def asciiWord : CharSet := asciiAlnum.union (single '_')

/-- White space in ASCII. -/
def asciiSpace : CharSet := ofList [' ', '\t', '\n', '\x0b', '\x0c', '\r']

/-- The characters of ASCII. -/
def ascii : CharSet := range '\x00' '\x7f'

/-- A class of ASCII characters with a name of its own. -/
def asciiClass? : String → Option CharSet
  | "alnum" => some asciiAlnum
  | "alpha" => some asciiAlpha
  | "ascii" => some ascii
  | "blank" => some (ofList [' ', '\t'])
  | "cntrl" => some ((range '\x00' '\x1f').union (single '\x7f'))
  | "digit" => some asciiDigit
  | "graph" => some (range '!' '~')
  | "lower" => some asciiLower
  | "print" => some (range ' ' '~')
  | "punct" => some ((range '!' '~').diff asciiAlnum)
  | "space" => some asciiSpace
  | "upper" => some asciiUpper
  | "word" => some asciiWord
  | "xdigit" => some (unions [asciiDigit, range 'A' 'F', range 'a' 'f'])
  | _ => none

/-- The set with every letter of ASCII in both cases. -/
def foldCaseAscii (set : CharSet) : CharSet :=
  let shifted (letters : CharSet) (shift : Nat → Nat) : List CodeRange :=
    (set.inter letters).ranges.map fun range ↦ ⟨shift range.first, shift range.last⟩
  ofRanges (set.ranges ++ shifted asciiLower (· - 32) ++ shifted asciiUpper (· + 32))

end CharSet

end Schemata.Pattern
