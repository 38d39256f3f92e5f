import Schemata.Entries
import Schemata.Number.Basic

/-!
# JSON documents

A document is a tree whose objects keep their members in order. The type admits repeated member
names, because a text may hold them; `Json.normalize` merges them, keeping the first place and the
last value, and `Json.WellFormed` says that there are none.
-/

namespace Schemata

/-- A JSON document. -/
inductive Json where
  /-- The null literal. -/
  | null
  /-- A truth value. -/
  | bool (value : Bool)
  /-- A number in the form it was written. -/
  | number (value : Number)
  /-- A string. -/
  | string (value : String)
  /-- An array. -/
  | array (items : List Json)
  /-- An object with its members in order. -/
  | object (members : List (String × Json))
  deriving Inhabited

namespace Json

/-- The member of an object under `key`. -/
def get? (key : String) : Json → Option Json
  | .object members => Entries.get? key members
  | _ => none

/-- The text of a string. -/
def asString? : Json → Option String
  | .string s => some s
  | _ => none

/-- The number, if the document is one. -/
def asNumber? : Json → Option Number
  | .number n => some n
  | _ => none

/-- The truth value, if the document is one. -/
def asBool? : Json → Option Bool
  | .bool b => some b
  | _ => none

/-- The count, if the document is a number in non-negative integer form. -/
def asCount? : Json → Option UInt64
  | .number n => n.toCount?
  | _ => none

mutual

/-- Merge repeated member names at every depth: the first place and the last value remain. -/
def normalize : Json → Json
  | .array items => .array (normalizeItems items)
  | .object members => .object (Entries.ofList (normalizeMembers members))
  | other => other

/-- `normalize` on the items of an array. -/
def normalizeItems : List Json → List Json
  | [] => []
  | item :: rest => normalize item :: normalizeItems rest

/-- `normalize` on the values of an object. -/
def normalizeMembers : List (String × Json) → List (String × Json)
  | [] => []
  | (key, value) :: rest => (key, normalize value) :: normalizeMembers rest

end

mutual

/-- No object in the document repeats a member name. -/
def WellFormed : Json → Prop
  | .array items => WellFormedItems items
  | .object members => Entries.Distinct members ∧ WellFormedMembers members
  | _ => True

/-- `WellFormed` on the items of an array. -/
def WellFormedItems : List Json → Prop
  | [] => True
  | item :: rest => WellFormed item ∧ WellFormedItems rest

/-- `WellFormed` on the values of an object. -/
def WellFormedMembers : List (String × Json) → Prop
  | [] => True
  | (_, value) :: rest => WellFormed value ∧ WellFormedMembers rest

end

end Json

end Schemata
