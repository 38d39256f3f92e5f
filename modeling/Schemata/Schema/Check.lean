import Schemata.Schema.Basic

/-!
# Constraint checks

What a value of the right kind breaks, if anything. Checks run in a fixed order and the first one
that fails is reported. Numbers are compared as binary64.
-/

namespace Schemata

/-- The first violation of a string. -/
def StringType.violation? (type : StringType) (text : String) : Option Violation :=
  let tooShort := type.constraints.min.bind fun min ↦
    if text.length < min.toNat then some (.tooShort min) else none
  let tooLong := type.constraints.max.bind fun max ↦
    if max.toNat < text.length then some (.tooLong max) else none
  let noMatch := match type.pattern, type.constraints.format with
    | some pattern, some format => if pattern.isMatch text then none else some (.noMatch format)
    | _, _ => none
  tooShort <|> tooLong <|> noMatch

namespace Binary64

/-- The number one. -/
def one : Binary64 := ofInt 1

/-- How far, relative to its size, a quotient may lie from an integer: the float next to 10^-9. -/
def multipleTolerance : Binary64 := (ofDecimal? false 1 (-9)).getD (zero false)

/-- Whether a quotient lies so near to an integer that it counts as one: within the tolerance, times
the quotient where that exceeds one. -/
def countsAsInteger (quotient : Binary64) : Bool :=
  let distance := (quotient.toUnits - quotient.nearestInt * unitsPerOne).natAbs
  let scale := if quotient.abs.lt one then one else quotient.abs
  -- A tolerance that overflows allows any distance.
  (multipleTolerance.mul? scale).all fun tolerance ↦ decide (distance ≤ tolerance.units)

/-- Whether the quotient by `factor` counts as an integer, which one that overflows does not. -/
def isMultipleOf (x factor : Binary64) : Bool := (x.div? factor).any countsAsInteger

end Binary64

/-- The first violation of a number. -/
def NumericConstraints.violation? (c : NumericConstraints) (n : Number) : Option Violation :=
  let x := n.toBinary64
  let broken (relation : Relation) (bound : Option Number) (breaks : Binary64 → Bool) :
      Option Violation :=
    bound.bind fun b ↦ if breaks b.toBinary64 then some (.outOfBounds relation b) else none
  broken .greaterThan c.greaterThan (fun b ↦ x.le b)
    <|> broken .lessThan c.lessThan (fun b ↦ b.le x)
    <|> broken .atLeast c.min (fun b ↦ x.lt b)
    <|> broken .atMost c.max (fun b ↦ b.lt x)
    <|> broken .multipleOf c.multipleOf (fun b ↦ b.units != 0 && !x.isMultipleOf b)

/-- Whether two items at different positions are loosely equal. -/
def Value.hasRepeats : List Value → Bool
  | [] => false
  | item :: rest => rest.any (fun later ↦ later.looselyEq item) || hasRepeats rest

/-- The first violation of an array. -/
def ArrayConstraints.violation? (c : ArrayConstraints) (items : List Value) : Option Violation :=
  let tooFew := c.min.bind fun min ↦
    if items.length < min.toNat then some (.tooFewItems min) else none
  let tooMany := c.max.bind fun max ↦
    if max.toNat < items.length then some (.tooManyItems max) else none
  let wrongCount := c.length.bind fun length ↦
    if items.length = length.toNat then none else some (.wrongItemCount length)
  let repeated := if c.unique && Value.hasRepeats items then some .repeatedItems else none
  tooFew <|> tooMany <|> wrongCount <|> repeated

end Schemata
