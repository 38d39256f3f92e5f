import Schemata.Pattern.Unicode.Age
import Schemata.Pattern.Unicode.Break
import Schemata.Pattern.Unicode.Category
import Schemata.Pattern.Unicode.Property
import Schemata.Pattern.Unicode.Script

/-!
# Sets of characters by name

A property of characters selects a set, by its name alone or by its name and a value. Names are
compared without case, spaces, underscores and hyphens.
-/

namespace Schemata.Pattern.CharSet

/-- The ranges of some general categories, given by short names. -/
def categoryRanges (names : List String) : List CodeRange :=
  names.flatMap fun name ↦
    ((Unicode.Table.named? Unicode.categoryTables name).map fun table ↦
      Unicode.Table.ranges table.lines).getD []

/-- The set that a table describes. -/
def ofTable (table : Unicode.Table) : CharSet :=
  (ofRanges (categoryRanges table.categories ++ Unicode.Table.ranges table.lines)).diff
    (ofRanges (Unicode.Table.ranges table.removed))

/-- The set of the first table with a name. -/
def tabled? (tables : List Unicode.Table) (name : String) : Option CharSet :=
  (Unicode.Table.named? tables name).map ofTable

/-- The code points that stand for no character. -/
def surrogates : CodeRange := ⟨0xD800, 0xDFFF⟩

/-- The code points in no general category; surrogates are not among them. -/
def unassigned : CharSet :=
  (ofRanges (surrogates ::
    Unicode.categoryTables.flatMap fun table ↦ Unicode.Table.ranges table.lines)).compl

/-- The general category with a normalized name, broad or not. The broad category of the unassigned
characters runs on over the surrogates. -/
def category? (name : String) : Option CharSet :=
  match name with
  | "any" => some all
  | "ascii" => some ascii
  | "assigned" => some unassigned.compl
  | "cn" | "unassigned" => some unassigned
  | "c" | "other" =>
    some (ofRanges (surrogates :: categoryRanges ["cc", "cf", "co"] ++ unassigned.ranges))
  | _ => tabled? Unicode.categoryTables name <|> tabled? Unicode.broadCategoryTables name

/-- The script with a normalized name, or its extensions. -/
def script? (name : String) (extensions : Bool) : Option CharSet :=
  (Unicode.scriptTables.find? fun table ↦ table.names.contains name).map fun table ↦
    let own := Unicode.Table.ranges table.lines
    if extensions then
      (ofRanges (own ++ Unicode.Table.ranges table.added)).diff
        (ofRanges (Unicode.Table.ranges table.dropped))
    else ofRanges own

/-- The binary property with a normalized name. -/
def property? (name : String) : Option CharSet := tabled? Unicode.propertyTables name

/-- The characters that the version with a normalized name had, from it or from one before. -/
def age? (name : String) : Option CharSet :=
  let newer := Unicode.ageTables.dropWhile fun table ↦ !table.names.contains name
  match newer with
  | [] => none
  | _ :: newer =>
    let older := Unicode.ageTables.take (Unicode.ageTables.length - newer.length)
    some (ofRanges (older.flatMap fun table ↦ Unicode.Table.ranges table.lines))

/-- A property name in lower case, without separators and without a leading `is`. -/
def normalizeName (name : String) : String :=
  let cs := name.toList
  let (isPrefixed, rest) := match cs with
    | i :: s :: rest => if i.toLower == 'i' && s.toLower == 's' then (true, rest) else (false, cs)
    | _ => (false, cs)
  let isKept (c : Char) : Bool := c.toNat < 0x80 && c != ' ' && c != '_' && c != '-'
  let kept := (rest.filter isKept).map Char.toLower
  if isPrefixed && kept == ['c'] then "isc" else String.ofList kept

/-- The set that a property name alone selects: a binary property, a general category or a script.
Three short names that mean several things mean the category. -/
def named? (name : String) : Option CharSet :=
  let name := normalizeName name
  let property := if name == "cf" || name == "sc" || name == "lc" then none else property? name
  property <|> category? name <|> script? name false

/-- The set that a property and one of its values select. -/
def valued? (property value : String) : Option CharSet :=
  let value := normalizeName value
  match normalizeName property with
  | "gc" | "generalcategory" => category? value
  | "sc" | "script" => script? value false
  | "scx" | "scriptextensions" => script? value true
  | "age" => age? value
  | "gcb" | "graphemeclusterbreak" => tabled? Unicode.graphemeBreakTables value
  | "wb" | "wordbreak" => tabled? Unicode.wordBreakTables value
  | "sb" | "sentencebreak" => tabled? Unicode.sentenceBreakTables value
  | _ => none

/-- The letters of the alphabets. -/
def alphabetic : CharSet := (property? "alphabetic").getD empty

/-- The characters of a number. -/
def numeric : CharSet := ofRanges (categoryRanges ["nd", "nl", "no"])

/-- Decimal digits of every script. -/
def decimalDigits : CharSet := ofRanges (categoryRanges ["nd"])

/-- White space. -/
def whiteSpace : CharSet := (property? "whitespace").getD empty

/-- The characters of a word: letters, marks, digits, connectors and joiners. -/
def wordChars : CharSet :=
  unions [alphabetic, ofRanges (categoryRanges ["mc", "me", "mn", "nd", "pc"]),
    (property? "joincontrol").getD empty]

end Schemata.Pattern.CharSet
