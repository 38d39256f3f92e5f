import Schemata.Pattern.CharSet

/-!
# Tables of code points

A table lists code points as text, in hexadecimal and in order: a single one, a range `first-last`,
or `first-last/step` for every `step`th one of a range. It may build on general categories, to which
it adds some code points and from which it removes others.
-/

namespace Schemata.Pattern.Unicode

/-- A named set of code points. -/
structure Table where
  /-- The names, in lower case and without separators. -/
  names : List String
  /-- Short names of the general categories that the set builds on. -/
  categories : List String := []
  /-- The code points beside those of the categories. -/
  lines : List String := []
  /-- The code points of the categories that are not in the set. -/
  removed : List String := []

namespace Table

/-- The value of a hexadecimal digit; tables hold no other letter. -/
def digitValue (c : Char) : Nat := if c.isDigit then c.toNat - 48 else c.toNat - 87

/-- The ranges of an entry, from the numbers before its last one, nearest first, and that one. -/
def entry : List Nat → Nat → List CodeRange
  | [], code => [⟨code, code⟩]
  | [first], last => [⟨first, last⟩]
  | last :: first :: _, step =>
    (List.range ((last - first) / step + 1)).map fun index ↦
      ⟨first + index * step, first + index * step⟩

/-- Read the rest of a line: the numbers of the entry under way, and the last of them so far. -/
def scan (ends : List Nat) (number : Nat) : List Char → List CodeRange
  | [] => entry ends number
  | ' ' :: rest => entry ends number ++ scan [] 0 rest
  | c :: rest =>
    if c == '-' || c == '/' then scan (number :: ends) 0 rest
    else scan ends (number * 16 + digitValue c) rest

/-- The ranges that lines of a table list. -/
def ranges (lines : List String) : List CodeRange :=
  lines.flatMap fun line ↦ scan [] 0 line.toList

/-- The first table with a name. -/
def named? (tables : List Table) (name : String) : Option Table :=
  tables.find? fun table ↦ table.names.contains name

end Table

end Schemata.Pattern.Unicode
