import Schemata.Number.Decimal

/-!
# Numbers

A number keeps the form it was written in: an integer of 64 bits, signed or unsigned, or a binary64
number. The two forms stay apart under `Number.same`; `Number.toBinary64` forgets them, and
`Number.looselyEq` compares by that value.
-/

namespace Schemata

/-- The magnitude of the least signed integer of 64 bits: 2^63. -/
def signedLimit : Nat := 9223372036854775808

/-- The integers of 64 bits, signed or unsigned. -/
def IsWord : Int → Prop
  | .ofNat n => n < UInt64.size
  | .negSucc n => n < signedLimit

/-- The bounds are compared. -/
instance : (n : Int) → Decidable (IsWord n)
  | .ofNat n => inferInstanceAs (Decidable (n < UInt64.size))
  | .negSucc n => inferInstanceAs (Decidable (n < signedLimit))

/-- The 64-bit integers lie between -2^63 and 2^64. -/
theorem isWord_iff {n : Int} : IsWord n ↔ -(signedLimit : Int) ≤ n ∧ n < (UInt64.size : Int) := by
  cases n with
  | ofNat n =>
    simp only [IsWord, Int.ofNat_eq_natCast]
    omega
  | negSucc n =>
    unfold IsWord
    omega

/-- A number in the form it was written. -/
inductive Number where
  /-- An integer of 64 bits. -/
  | integer (value : Int) (isWord : IsWord value)
  /-- A finite binary64 number. -/
  | float (value : Binary64)
  deriving DecidableEq

namespace Number

/-- The value as binary64; integers beyond 53 bits are rounded. -/
def toBinary64 : Number → Binary64
  | .integer n _ => Binary64.ofInt n
  | .float x => x

/-- Equality of form and value; the two zeros of the float form are equal. -/
def same : Number → Number → Bool
  | .integer m _, .integer n _ => m == n
  | .float x, .float y => x.eq y
  | _, _ => false

/-- Equality of the values as binary64, whatever the forms. -/
def looselyEq (a b : Number) : Bool := a.toBinary64.eq b.toBinary64

/-- Whether the value is an integer, in either form. -/
def isIntegral : Number → Bool
  | .integer _ _ => true
  | .float x => x.isIntegral

/-- Whether the number is in integer form. -/
def isInteger : Number → Bool
  | .integer _ _ => true
  | .float _ => false

/-- The integer form of an integer of 64 bits. -/
def ofInt? (n : Int) : Option Number :=
  if h : IsWord n then some (.integer n h) else none

/-- A count, which is a number in non-negative integer form. -/
def toCount? : Number → Option UInt64
  | .integer (.ofNat n) isWord => some (UInt64.ofNatLT n isWord)
  | _ => none

/-- The integer form of a count. -/
def ofCount (n : UInt64) : Number := .integer (Int.ofNat n.toNat) n.toNat_lt

/-- The number of an integer token: the integer form if 64 bits hold it, else the nearest float.
A negative zero is a float. -/
def ofIntegerToken? (negative : Bool) (digits : Nat) : Option Number :=
  let n : Int := if negative then -(digits : Int) else digits
  if negative && digits == 0 then some (.float (Binary64.zero true))
  else match ofInt? n with
    | some number => some number
    | none => (Binary64.ofRatio? negative digits 1).map .float

/-- The number of a bound given as binary64: the integer form for integers below 2^63. -/
def ofBound (x : Binary64) : Number :=
  if x.isIntegral && decide (x.truncate.natAbs < signedLimit) then
    match ofInt? x.truncate with
    | some number => number
    | none => .float x
  else .float x

/-- Digits with the point after the first `lead`, zeros supplied on either side. -/
private def positional (digits : List Char) (lead : Int) : String :=
  if lead ≤ 0 then
    "0." ++ String.ofList (List.replicate (-lead).toNat '0' ++ digits)
  else
    let whole := digits.take lead.toNat
    let rest := digits.drop lead.toNat
    String.ofList (whole ++ List.replicate (lead.toNat - whole.length) '0') ++ "."
      ++ String.ofList (if rest.isEmpty then ['0'] else rest)

/-- One digit, then the fraction if there is one, then the exponent with its sign. -/
private def scientific (digits : List Char) (exponent : Int) : String :=
  let fraction := digits.drop 1
  String.ofList (digits.take 1) ++ (if fraction.isEmpty then "" else "." ++ String.ofList fraction)
    ++ (if 0 ≤ exponent then "e+" else "e-") ++ Decimal.digitText exponent.natAbs

/-- The text of a float: positional with at least one fraction digit for decimal exponents from -5
to 15, scientific beyond. -/
def floatText (x : Binary64) : String :=
  let sign := if x.negative then "-" else ""
  if x.units = 0 then sign ++ "0.0"
  else
    let d := Decimal.shortest x
    let digits := Nat.toDigits 10 d.digits
    if -5 ≤ d.exponent ∧ d.exponent ≤ 15 then sign ++ positional digits (d.exponent + 1)
    else sign ++ scientific digits d.exponent

/-- The text of a number: digits for the integer form, `floatText` for the other. -/
def text : Number → String
  | .integer n _ => (if n < 0 then "-" else "") ++ Decimal.digitText n.natAbs
  | .float x => floatText x

@[simp] theorem toCount?_float (x : Binary64) : (Number.float x).toCount? = none := rfl

/-- A count reads back. -/
@[simp] theorem toCount?_ofCount (n : UInt64) : (ofCount n).toCount? = some n := by
  simp [ofCount, toCount?]

end Number

end Schemata
