import Schemata.Json.Document

/-!
# Constraint sets

What a leaf or an array demands beyond its kind. The same sets stand on schema nodes and in their
descriptions; a set is written as an object of its present members, and `ofJson_toJson` reads it
back.
-/

namespace Schemata

/-- Constraints on strings. -/
structure StringConstraints where
  /-- Least length in characters. -/
  min : Option UInt64 := none
  /-- Greatest length in characters. -/
  max : Option UInt64 := none
  /-- A pattern that the string must match somewhere. -/
  format : Option String := none
  deriving DecidableEq

/-- Constraints on numbers. -/
structure NumericConstraints where
  /-- Inclusive lower bound. -/
  min : Option Number := none
  /-- Inclusive upper bound. -/
  max : Option Number := none
  /-- Exclusive lower bound. -/
  greaterThan : Option Number := none
  /-- Exclusive upper bound. -/
  lessThan : Option Number := none
  /-- A factor of the number. -/
  multipleOf : Option Number := none
  deriving DecidableEq

/-- Constraints on arrays. -/
structure ArrayConstraints where
  /-- Least count of items. -/
  min : Option UInt64 := none
  /-- Greatest count of items. -/
  max : Option UInt64 := none
  /-- Exact count of items. -/
  length : Option UInt64 := none
  /-- Whether items must be pairwise distinct. -/
  unique : Bool := false
  deriving DecidableEq

/-- The document of a count. -/
def Json.ofCount (n : UInt64) : Json := .number (.ofCount n)

@[simp] theorem Json.asCount?_ofCount (n : UInt64) : (Json.ofCount n).asCount? = some n := by
  simp [Json.ofCount, Json.asCount?]

namespace StringConstraints

/-- Whether nothing is demanded. -/
def isEmpty (c : StringConstraints) : Bool := c.min.isNone && c.max.isNone && c.format.isNone

/-- The document of a constraint set. -/
def toJson (c : StringConstraints) : Json :=
  .object (Json.memberOf "min" Json.ofCount c.min ++ Json.memberOf "max" Json.ofCount c.max
    ++ Json.memberOf "format" Json.string c.format)

/-- Read a constraint set; absent and null members demand nothing. -/
def ofJson : Json → Except DocumentFault StringConstraints
  | .object members => do
    let min ← Json.optionalMember "min" Json.asCount? members
    let max ← Json.optionalMember "max" Json.asCount? members
    let format ← Json.optionalMember "format" Json.asString? members
    return { min, max, format }
  | _ => .error .notAnObject

/-- A written constraint set reads back. -/
theorem ofJson_toJson (c : StringConstraints) : ofJson c.toJson = .ok c := by
  obtain ⟨min, max, format⟩ := c
  cases min <;> cases max <;> cases format <;> rfl

end StringConstraints

namespace NumericConstraints

/-- Whether nothing is demanded. -/
def isEmpty (c : NumericConstraints) : Bool :=
  c.min.isNone && c.max.isNone && c.greaterThan.isNone && c.lessThan.isNone && c.multipleOf.isNone

/-- The document of a constraint set. -/
def toJson (c : NumericConstraints) : Json :=
  .object (Json.memberOf "min" Json.number c.min ++ Json.memberOf "max" Json.number c.max
    ++ Json.memberOf "greater_than" Json.number c.greaterThan
    ++ Json.memberOf "less_than" Json.number c.lessThan
    ++ Json.memberOf "multiple_of" Json.number c.multipleOf)

/-- Read a constraint set; absent and null members demand nothing. -/
def ofJson : Json → Except DocumentFault NumericConstraints
  | .object members => do
    let min ← Json.optionalMember "min" Json.asNumber? members
    let max ← Json.optionalMember "max" Json.asNumber? members
    let greaterThan ← Json.optionalMember "greater_than" Json.asNumber? members
    let lessThan ← Json.optionalMember "less_than" Json.asNumber? members
    let multipleOf ← Json.optionalMember "multiple_of" Json.asNumber? members
    return { min, max, greaterThan, lessThan, multipleOf }
  | _ => .error .notAnObject

/-- A written constraint set reads back. -/
theorem ofJson_toJson (c : NumericConstraints) : ofJson c.toJson = .ok c := by
  obtain ⟨min, max, greaterThan, lessThan, multipleOf⟩ := c
  cases min <;> cases max <;> cases greaterThan <;> cases lessThan <;> cases multipleOf <;> rfl

end NumericConstraints

namespace ArrayConstraints

/-- Whether nothing is demanded. -/
def isEmpty (c : ArrayConstraints) : Bool :=
  c.min.isNone && c.max.isNone && c.length.isNone && !c.unique

/-- The document of a constraint set; `unique` is written where it holds. -/
def toJson (c : ArrayConstraints) : Json :=
  .object (Json.memberOf "min" Json.ofCount c.min ++ Json.memberOf "max" Json.ofCount c.max
    ++ Json.memberOf "length" Json.ofCount c.length
    ++ if c.unique then [("unique", .bool true)] else [])

/-- Read a constraint set; absent and null members demand nothing, but `unique` may not be null. -/
def ofJson : Json → Except DocumentFault ArrayConstraints
  | .object members => do
    let min ← Json.optionalMember "min" Json.asCount? members
    let max ← Json.optionalMember "max" Json.asCount? members
    let length ← Json.optionalMember "length" Json.asCount? members
    let unique ← Json.memberOr "unique" Json.asBool? false members
    return { min, max, length, unique }
  | _ => .error .notAnObject

/-- A written constraint set reads back. -/
theorem ofJson_toJson (c : ArrayConstraints) : ofJson c.toJson = .ok c := by
  obtain ⟨min, max, length, unique⟩ := c
  cases min <;> cases max <;> cases length <;> cases unique <;> rfl

end ArrayConstraints

end Schemata
