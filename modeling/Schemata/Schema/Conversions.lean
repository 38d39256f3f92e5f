import Schemata.Schema.Basic

/-!
# Conversions

Conversions for transform nodes. All of them are total; a value of another shape than expected is
given a fixed reading.
-/

namespace Schemata

namespace Binary64

/-- One hundred. -/
def hundred : Binary64 := ofInt 100

/-- The integer part as a signed integer of 64 bits, the nearest one where it does not fit. -/
def toSigned64 (x : Binary64) : Int :=
  max (-(signedLimit : Int)) (min ((signedLimit : Int) - 1) x.truncate)

end Binary64

namespace Conversion

/-- A value as it is. -/
def identity : Conversion := ⟨id, id⟩

/-- A value read as binary64, zero where it is not a number. -/
def amount (value : Value) : Binary64 := value.toBinary64?.getD (.zero false)

/-- An integer in 64 bits, null outside of them. -/
def integerOrNull (n : Int) : Value :=
  match Number.ofInt? n with
  | some number => .number number
  | none => .null

/-- Amounts in hundredths, decoded to whole units. -/
def cents : Conversion where
  decode value :=
    match (amount value).div? Binary64.hundred with
    | some quotient => .ofBinary64 quotient
    | none => .null
  encode value :=
    let x := amount value
    match x.mul? Binary64.hundred with
    | some product => integerOrNull product.toSigned64
    | none => integerOrNull (if x.negative then -(signedLimit : Int) else signedLimit - 1)

/-- Text with commas, decoded to the list of its pieces. -/
def commaSeparated : Conversion where
  decode value := .array (((value.text?.getD "").splitOn ",").map .string)
  encode value := .string (",".intercalate ((value.items?.getD []).filterMap Value.text?))

/-- A value, decoded to the list of it alone. -/
def singleton : Conversion where
  decode value := .array [value]
  encode
    | .array items => items.head?.getD .null
    | value => value

/-- Anything, decoded to null, which stands for every number that is not finite. -/
def notANumber : Conversion := ⟨fun _ ↦ .null, fun _ ↦ .bool true⟩

/-- A value, decoded to the name of its kind and encoded to its text. -/
def kindName : Conversion := ⟨fun value ↦ .string value.kind.name, fun value ↦ .string value.text⟩

end Conversion

end Schemata
