import Schemata.Json.Printer

/-!
# Values

The values that decoding produces and encoding consumes: JSON documents with one addition, symbols.
A symbol turns into a plain string whenever a value is written (`Value.toJson`), so a symbol-free
value survives the way through JSON unchanged (`ofJson_toJson`).
-/

namespace Schemata

/-- A dynamic value; objects keep their entries in order. -/
inductive Value where
  /-- The null value. -/
  | null
  /-- A truth value. -/
  | bool (value : Bool)
  /-- A number in the form it was written. -/
  | number (value : Number)
  /-- A string. -/
  | string (text : String)
  /-- A symbolic name. -/
  | symbol (name : String)
  /-- An array. -/
  | array (items : List Value)
  /-- An object with its entries in order. -/
  | object (entries : List (String × Value))
  deriving Inhabited

/-- The kinds of value that errors speak of. -/
inductive ValueKind where
  /-- The null value. -/
  | null
  /-- A truth value. -/
  | boolean
  /-- A number in integer form. -/
  | integer
  /-- A number in float form. -/
  | number
  /-- A string. -/
  | string
  /-- A symbolic name. -/
  | symbol
  /-- An array. -/
  | array
  /-- An object. -/
  | object
  deriving DecidableEq

/-- The word for a kind of value. -/
def ValueKind.name : ValueKind → String
  | .null => "null"
  | .boolean => "boolean"
  | .integer => "integer"
  | .number => "number"
  | .string => "string"
  | .symbol => "symbol"
  | .array => "array"
  | .object => "object"

namespace Value

/-- The kind of a value; a number's kind is its form. -/
def kind : Value → ValueKind
  | .null => .null
  | .bool _ => .boolean
  | .number n => if n.isInteger then .integer else .number
  | .string _ => .string
  | .symbol _ => .symbol
  | .array _ => .array
  | .object _ => .object

/-- Whether the value is null. -/
def isNull : Value → Bool
  | .null => true
  | _ => false

/-- The text of a string or symbol. -/
def text? : Value → Option String
  | .string s => some s
  | .symbol s => some s
  | _ => none

/-- A number as binary64. -/
def toBinary64? : Value → Option Binary64
  | .number n => some n.toBinary64
  | _ => none

/-- The items of an array. -/
def items? : Value → Option (List Value)
  | .array items => some items
  | _ => none

/-- The entries of an object. -/
def entries? : Value → Option (Entries Value)
  | .object entries => some entries
  | _ => none

/-- The entry of an object under `key`. -/
def get? (key : String) : Value → Option Value
  | .object entries => Entries.get? key entries
  | _ => none

/-- The float form of a number. -/
def ofBinary64 (x : Binary64) : Value := .number (.float x)

mutual

/-- The document of a value; symbols become strings. -/
def toJson : Value → Json
  | .null => .null
  | .bool b => .bool b
  | .number n => .number n
  | .string s => .string s
  | .symbol s => .string s
  | .array items => .array (toJsonItems items)
  | .object entries => .object (toJsonEntries entries)

/-- `toJson` on the items of an array. -/
def toJsonItems : List Value → List Json
  | [] => []
  | item :: rest => toJson item :: toJsonItems rest

/-- `toJson` on the entries of an object. -/
def toJsonEntries : List (String × Value) → List (String × Json)
  | [] => []
  | (key, value) :: rest => (key, toJson value) :: toJsonEntries rest

end

mutual

/-- The value of a document; it holds no symbol. -/
def ofJson : Json → Value
  | .null => .null
  | .bool b => .bool b
  | .number n => .number n
  | .string s => .string s
  | .array items => .array (ofJsonItems items)
  | .object members => .object (ofJsonMembers members)

/-- `ofJson` on the items of an array. -/
def ofJsonItems : List Json → List Value
  | [] => []
  | item :: rest => ofJson item :: ofJsonItems rest

/-- `ofJson` on the members of an object. -/
def ofJsonMembers : List (String × Json) → List (String × Value)
  | [] => []
  | (key, value) :: rest => (key, ofJson value) :: ofJsonMembers rest

end

mutual

/-- Equality of kind, form and content; the order of an object's entries does not count. -/
def same : Value → Value → Bool
  | .null, .null => true
  | .bool a, .bool b => a == b
  | .number a, .number b => a.same b
  | .string a, .string b => a == b
  | .symbol a, .symbol b => a == b
  | .array xs, .array ys => sameItems xs ys
  | .object xs, .object ys => xs.length == ys.length && sameEntries xs ys
  | _, _ => false

/-- `same` item by item. -/
def sameItems : List Value → List Value → Bool
  | [], [] => true
  | x :: xs, y :: ys => same x y && sameItems xs ys
  | _, _ => false

/-- Every entry of the first object has an equal one in the second. -/
def sameEntries : List (String × Value) → Entries Value → Bool
  | [], _ => true
  | (key, x) :: rest, ys =>
    (match Entries.get? key ys with
    | some y => same x y
    | none => false) && sameEntries rest ys

end

/-- Equality that ignores the form of two numbers, but only at the top: there they are compared as
binary64. -/
def looselyEq : Value → Value → Bool
  | .number a, .number b => a.looselyEq b
  | a, b => same a b

/-- The text of a value: compact JSON, and a colon before the name of a symbol. -/
def text : Value → String
  | .symbol s => ":" ++ s
  | other => other.toJson.compact

/-- The text under which a value serves as an object key. -/
def toKey : Value → String
  | .string s => s
  | .symbol s => s
  | other => other.text

mutual

/-- No symbol occurs at any depth. -/
def SymbolFree : Value → Prop
  | .symbol _ => False
  | .array items => SymbolFreeItems items
  | .object entries => SymbolFreeEntries entries
  | _ => True

/-- `SymbolFree` on the items of an array. -/
def SymbolFreeItems : List Value → Prop
  | [] => True
  | item :: rest => SymbolFree item ∧ SymbolFreeItems rest

/-- `SymbolFree` on the entries of an object. -/
def SymbolFreeEntries : List (String × Value) → Prop
  | [] => True
  | (_, value) :: rest => SymbolFree value ∧ SymbolFreeEntries rest

end

mutual

/-- No object in the value repeats a key. -/
def WellFormed : Value → Prop
  | .array items => WellFormedItems items
  | .object entries => Entries.Distinct entries ∧ WellFormedEntries entries
  | _ => True

/-- `WellFormed` on the items of an array. -/
def WellFormedItems : List Value → Prop
  | [] => True
  | item :: rest => WellFormed item ∧ WellFormedItems rest

/-- `WellFormed` on the entries of an object. -/
def WellFormedEntries : List (String × Value) → Prop
  | [] => True
  | (_, value) :: rest => WellFormed value ∧ WellFormedEntries rest

end

mutual

/-- A symbol-free value is read back from its document. -/
theorem ofJson_toJson : (v : Value) → v.SymbolFree → ofJson v.toJson = v
  | .null, _ => rfl
  | .bool _, _ => rfl
  | .number _, _ => rfl
  | .string _, _ => rfl
  | .symbol _, h => h.elim
  | .array items, h => by simp [toJson, ofJson, ofJsonItems_toJsonItems items h]
  | .object entries, h => by simp [toJson, ofJson, ofJsonMembers_toJsonEntries entries h]

private theorem ofJsonItems_toJsonItems :
    (items : List Value) → SymbolFreeItems items → ofJsonItems (toJsonItems items) = items
  | [], _ => rfl
  | item :: rest, h => by
    simp [toJsonItems, ofJsonItems, ofJson_toJson item h.1, ofJsonItems_toJsonItems rest h.2]

private theorem ofJsonMembers_toJsonEntries :
    (entries : List (String × Value)) → SymbolFreeEntries entries →
      ofJsonMembers (toJsonEntries entries) = entries
  | [], _ => rfl
  | (key, value) :: rest, h => by
    simp [toJsonEntries, ofJsonMembers, ofJson_toJson value h.1,
      ofJsonMembers_toJsonEntries rest h.2]

end

mutual

/-- Every document is written back as it was. -/
theorem toJson_ofJson : (doc : Json) → (ofJson doc).toJson = doc
  | .null => rfl
  | .bool _ => rfl
  | .number _ => rfl
  | .string _ => rfl
  | .array items => by simp [toJson, ofJson, toJsonItems_ofJsonItems items]
  | .object members => by simp [toJson, ofJson, toJsonEntries_ofJsonMembers members]

private theorem toJsonItems_ofJsonItems :
    (items : List Json) → toJsonItems (ofJsonItems items) = items
  | [] => rfl
  | item :: rest => by
    simp [toJsonItems, ofJsonItems, toJson_ofJson item, toJsonItems_ofJsonItems rest]

private theorem toJsonEntries_ofJsonMembers :
    (members : List (String × Json)) → toJsonEntries (ofJsonMembers members) = members
  | [] => rfl
  | (key, value) :: rest => by
    simp [toJsonEntries, ofJsonMembers, toJson_ofJson value, toJsonEntries_ofJsonMembers rest]

end

end Value

end Schemata
