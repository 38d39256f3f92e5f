import Schemata.Constraints
import Schemata.Kind
import Schemata.Value

/-!
# Schema descriptions

An `Ast` is a schema as plain data: a finite tree without functions and without cycles. A recursive
reference is a stub that names the kind of an enclosing node and how far up it stands; a transform
keeps the name of its target and loses its conversion.
-/

namespace Schemata

/-- The description of a schema. -/
inductive Ast where
  /-- A string. -/
  | string (constraints : StringConstraints)
  /-- A number. -/
  | number (constraints : NumericConstraints)
  /-- A number with an integral value. -/
  | integer (constraints : NumericConstraints)
  /-- A truth value. -/
  | boolean
  /-- The null value. -/
  | null
  /-- A symbolic name. -/
  | symbol
  /-- One of some scalars. -/
  | literal (values : List Value)
  /-- A sequence of one item type. -/
  | array (item : Ast) (constraints : ArrayConstraints)
  /-- A sequence of fixed length. -/
  | tuple (elements : List Ast)
  /-- An object with declared fields, those that must be present, and a policy for others. -/
  | struct (fields : List (String × Ast)) (required : List String) (extraKeys : ExtraKeys)
  /-- An object with arbitrary keys. -/
  | record (key value : Ast)
  /-- The first member that accepts. -/
  | union (members : List Ast)
  /-- The variant named by a tag field. -/
  | discriminatedUnion (discriminator : String) (variants : List (String × Ast))
  /-- A value that may be absent, with the external form of its default. -/
  | optional (inner : Ast) (default : Option Value)
  /-- Another type followed by a conversion to a named target. -/
  | transform (inner : Ast) (target : String)
  /-- A reference to an enclosing node of a kind: the one `refDepth` levels up, where 1 is the
  parent, or the nearest. -/
  | lazy (name : String) (refKind : Kind) (refDepth : Option Nat)

namespace Ast

/-- The kind of a description. -/
def kind : Ast → Kind
  | .string _ => .string
  | .number _ => .number
  | .integer _ => .integer
  | .boolean => .boolean
  | .null => .null
  | .symbol => .symbol
  | .literal _ => .literal
  | .array _ _ => .array
  | .tuple _ => .tuple
  | .struct _ _ _ => .struct
  | .record _ _ => .record
  | .union _ => .union
  | .discriminatedUnion _ _ => .discriminatedUnion
  | .optional _ _ => .optional
  | .transform _ _ => .transform
  | .lazy _ _ _ => .lazy

/-- A string without constraints. -/
def plainString : Ast := .string {}

/-- Whether the description is of a value that may be absent. -/
def isOptional : Ast → Bool
  | .optional _ _ => true
  | _ => false

mutual

/-- Whether a recursive reference occurs at any depth. -/
def hasStub : Ast → Bool
  | .lazy _ _ _ => true
  | .array item _ => item.hasStub
  | .tuple elements => anyStub elements
  | .struct fields _ _ => anyStubIn fields
  | .record key value => key.hasStub || value.hasStub
  | .union members => anyStub members
  | .discriminatedUnion _ variants => anyStubIn variants
  | .optional inner _ => inner.hasStub
  | .transform inner _ => inner.hasStub
  | _ => false

/-- `hasStub` of any description of a list. -/
def anyStub : List Ast → Bool
  | [] => false
  | ast :: rest => ast.hasStub || anyStub rest

/-- `hasStub` of any description under a name. -/
def anyStubIn : List (String × Ast) → Bool
  | [] => false
  | (_, ast) :: rest => ast.hasStub || anyStubIn rest

end

/-- Equality of optional values. -/
def sameDefault : Option Value → Option Value → Bool
  | none, none => true
  | some a, some b => a.same b
  | _, _ => false

/-- Equality of optional bounds. -/
def sameBound : Option Number → Option Number → Bool
  | none, none => true
  | some a, some b => a.same b
  | _, _ => false

/-- Equality of numeric constraints, bound by bound. -/
def sameNumeric (a b : NumericConstraints) : Bool :=
  sameBound a.min b.min && sameBound a.max b.max && sameBound a.greaterThan b.greaterThan
    && sameBound a.lessThan b.lessThan && sameBound a.multipleOf b.multipleOf

mutual

/-- Equality of descriptions; the order of fields, variants and object keys does not count, the
order of everything else does. -/
def same : Ast → Ast → Bool
  | .string a, .string b => a == b
  | .number a, .number b => sameNumeric a b
  | .integer a, .integer b => sameNumeric a b
  | .boolean, .boolean => true
  | .null, .null => true
  | .symbol, .symbol => true
  | .literal xs, .literal ys => Value.sameItems xs ys
  | .array x a, .array y b => same x y && a == b
  | .tuple xs, .tuple ys => sameList xs ys
  | .struct xs r p, .struct ys s q =>
    xs.length == ys.length && sameEntries xs ys && r == s && p == q
  | .record k v, .record l w => same k l && same v w
  | .union xs, .union ys => sameList xs ys
  | .discriminatedUnion d xs, .discriminatedUnion e ys =>
    d == e && xs.length == ys.length && sameEntries xs ys
  | .optional x d, .optional y e => same x y && sameDefault d e
  | .transform x s, .transform y t => same x y && s == t
  | .lazy m j d, .lazy n k e => m == n && j == k && d == e
  | _, _ => false

/-- `same` one by one. -/
def sameList : List Ast → List Ast → Bool
  | [], [] => true
  | x :: xs, y :: ys => same x y && sameList xs ys
  | _, _ => false

/-- Every entry of the first list has an equal one in the second. -/
def sameEntries : List (String × Ast) → Entries Ast → Bool
  | [], _ => true
  | (key, x) :: rest, ys =>
    (match Entries.get? key ys with
    | some y => same x y
    | none => false) && sameEntries rest ys

end

end Ast

end Schemata
