import Schemata.Constraints
import Schemata.Kind
import Schemata.Value

/-!
# Errors

A decode error is a cause wrapped in the path segments that lead to it, outermost first, and its
message renders the path in front of the cause. A schema error says why a schema cannot be declared,
rebuilt or converted.
-/

namespace Schemata

/-- One step of the path from the root value to a failing value. -/
inductive PathSegment where
  /-- A struct field. -/
  | field (name : String)
  /-- An array item. -/
  | index (i : Nat)
  /-- A tuple element. -/
  | position (i : Nat)
  /-- A record entry. -/
  | key (k : String)
  deriving DecidableEq

/-- The text of a segment in front of a message. -/
def PathSegment.text : PathSegment → String
  | .field name => s!"Field '{name}': "
  | .index i => s!"item at index {i}: "
  | .position i => s!"element at position {i}: "
  | .key k => s!"Key '{k}': "

/-- The relation that a number fails to have with a bound. -/
inductive Relation where
  /-- Exclusive lower bound. -/
  | greaterThan
  /-- Exclusive upper bound. -/
  | lessThan
  /-- Inclusive lower bound. -/
  | atLeast
  /-- Inclusive upper bound. -/
  | atMost
  /-- A factor. -/
  | multipleOf
  deriving DecidableEq

/-- The words for a relation. -/
def Relation.words : Relation → String
  | .greaterThan => "greater than"
  | .lessThan => "less than"
  | .atLeast => "at least"
  | .atMost => "at most"
  | .multipleOf => "a multiple of"

/-- A constraint that a value of the right kind breaks. -/
inductive Violation where
  /-- A string has too few characters. -/
  | tooShort (min : UInt64)
  /-- A string has too many characters. -/
  | tooLong (max : UInt64)
  /-- A string does not match its pattern. -/
  | noMatch (pattern : String)
  /-- A number stands in the wrong relation to a bound. -/
  | outOfBounds (relation : Relation) (bound : Number)
  /-- A value is none of those listed. -/
  | notListed (values : List Value)
  /-- An array has too few items. -/
  | tooFewItems (min : UInt64)
  /-- An array has too many items. -/
  | tooManyItems (max : UInt64)
  /-- An array has another count of items. -/
  | wrongItemCount (length : UInt64)
  /-- Two items of an array are equal. -/
  | repeatedItems
  /-- A tuple has another length. -/
  | tupleLength (expected actual : Nat)

/-- The text of a violation. -/
def Violation.message : Violation → String
  | .tooShort min => s!"String must be at least {min} characters"
  | .tooLong max => s!"String must be at most {max} characters"
  | .noMatch pattern => s!"String must match format /{pattern}/"
  | .outOfBounds relation bound => s!"Number must be {relation.words} {bound.text}"
  | .notListed values => "Value must be one of: " ++ ", ".intercalate (values.map Value.text)
  | .tooFewItems min => s!"Array must contain at least {min} items"
  | .tooManyItems max => s!"Array must contain at most {max} items"
  | .wrongItemCount length => s!"Array must contain exactly {length} items"
  | .repeatedItems => "Array items must be unique"
  | .tupleLength expected actual =>
    s!"Tuple length mismatch: expected exactly {expected}, got {actual}"

/-- Why a value fails to decode, inside the path that leads to it. -/
inductive DecodeError where
  /-- The value is of another kind. -/
  | typeMismatch (expected actual : ValueKind)
  /-- The value breaks a constraint. -/
  | constraint (violation : Violation)
  /-- A field is absent or a value is null where neither is allowed. -/
  | requiredValue
  /-- The discriminator names no variant. -/
  | unknownDiscriminator (field value : String) (valid : List String)
  /-- The discriminator field is absent. -/
  | missingDiscriminator (field : String)
  /-- An object has keys that its struct does not declare. -/
  | unexpectedKeys (keys : List String)
  /-- Every member of a union failed; one failure a member, in order. -/
  | unionMismatch (failures : List DecodeError)
  /-- The input nests deeper than the limit. -/
  | depthExceeded (limit : Nat)
  /-- The failure happened one step further in. -/
  | within (segment : PathSegment) (error : DecodeError)

namespace DecodeError

/-- The path from the root value, outermost first. -/
def path : DecodeError → List PathSegment
  | .within segment error => segment :: error.path
  | _ => []

/-- The error without its path. -/
def cause : DecodeError → DecodeError
  | .within _ error => error.cause
  | error => error

/-- The text of an error that holds no other error. -/
def plainMessage : DecodeError → String
  | .typeMismatch expected actual => s!"Expected {expected.name}, got {actual.name}"
  | .constraint violation => violation.message
  | .requiredValue => "Value is required"
  | .unknownDiscriminator field value valid =>
    s!"Unknown discriminator value '{value}' for field '{field}'. Valid values: "
      ++ ", ".intercalate valid
  | .missingDiscriminator field => s!"Missing discriminator field '{field}'"
  | .unexpectedKeys keys => "Unexpected keys: " ++ ", ".intercalate keys
  | .depthExceeded limit => s!"Maximum nesting depth of {limit} exceeded"
  | .unionMismatch _ | .within _ _ => ""

/-- The text of a union mismatch, from the texts of its failures. -/
def mismatchMessage (failures : List String) : String :=
  "Value did not match any union member: " ++ "; ".intercalate failures

mutual

/-- The text of an error with its path in front. -/
def message : DecodeError → String
  | .unionMismatch failures => mismatchMessage (messages failures)
  | .within segment error => segment.text ++ error.message
  | error => error.plainMessage

/-- The texts of several errors. -/
def messages : List DecodeError → List String
  | [] => []
  | error :: rest => error.message :: messages rest

end

@[simp] theorem path_within (segment : PathSegment) (error : DecodeError) :
    (within segment error).path = segment :: error.path := rfl

@[simp] theorem cause_within (segment : PathSegment) (error : DecodeError) :
    (within segment error).cause = error.cause := rfl

/-- Each step of the path stands in front of the message of what lies below it. -/
@[simp] theorem message_within (segment : PathSegment) (error : DecodeError) :
    (within segment error).message = segment.text ++ error.message := by
  simp only [message]

end DecodeError

/-- Why a variant does not fit the tag of a discriminated union. -/
inductive VariantFault where
  /-- The variant is not a struct. -/
  | notAStruct (kind : Kind)
  /-- The struct lacks the discriminator field. -/
  | missingField (field : String)
  /-- The field's literal is not the tag alone. -/
  | otherLiteral (field tag : String)
  /-- The field is not a literal. -/
  | notALiteral (field : String) (kind : Kind)
  /-- The tag was declared before. -/
  | duplicateTag
  deriving DecidableEq

/-- The text of a variant fault. -/
def VariantFault.message : VariantFault → String
  | .notAStruct kind => s!"expected a struct, got {kind.name}"
  | .missingField field => s!"missing discriminator field '{field}'"
  | .otherLiteral field tag => s!"field '{field}' must be the single literal '{tag}'"
  | .notALiteral field kind => s!"field '{field}' must be a literal, got {kind.name}"
  | .duplicateTag => "duplicate tag"

/-- A schema that cannot be represented. -/
inductive Unsupported where
  /-- A literal without values. -/
  | emptyLiteral
  /-- A literal value that is not a scalar. -/
  | literalValue (kind : ValueKind)
  /-- A discriminated union without variants. -/
  | noVariants
  /-- A recursive reference that no enclosing node answers to. -/
  | danglingReference (name : String) (kind : Kind)
  /-- A JSON Schema that is not an object. -/
  | notASchemaObject (schema : Json)
  /-- A JSON Schema reference. -/
  | reference
  /-- A `type` that is neither a name nor a nullable pair. -/
  | typeForm (form : Json)
  /-- A `type` name that is not known. -/
  | typeName (name : String)
  /-- A JSON Schema that nothing decides. -/
  | noType
  /-- A keyword whose value must be an array. -/
  | notAnArray (keyword : String)
  /-- An enumeration without values. -/
  | emptyEnum
  /-- An alternative that is not an object schema. -/
  | alternative (index : Nat)
  /-- Alternatives with different discriminator fields. -/
  | discriminators (first second : String)
  /-- Alternatives without a discriminator field. -/
  | noDiscriminator

/-- The text of an unsupported schema. -/
def Unsupported.message : Unsupported → String
  | .emptyLiteral => "literal needs at least one value"
  | .literalValue kind => s!"literal values must be strings, numbers or booleans, got {kind.name}"
  | .noVariants => "discriminated union needs at least one variant"
  | .danglingReference name kind =>
    s!"recursive reference '{name}' has no enclosing {kind.name} node"
  | .notASchemaObject schema => s!"expected a schema object, got {schema.compact}"
  | .reference => "$ref is not supported"
  | .typeForm form => s!"unsupported type {form.compact}"
  | .typeName name => s!"unsupported type \"{name}\""
  | .noType => "schema has no type"
  | .notAnArray keyword => s!"'{keyword}' must be an array"
  | .emptyEnum => "'enum' must be a non-empty array"
  | .alternative index => s!"oneOf alternative {index} is not an object schema"
  | .discriminators first second =>
    s!"oneOf alternatives disagree on the discriminator field: '{first}' and '{second}'"
  | .noDiscriminator => "oneOf alternatives have no const-valued discriminator property"

/-- Why a schema cannot be declared, rebuilt or converted. -/
inductive SchemaError where
  /-- A default does not decode through its own type. -/
  | invalidDefault (cause : DecodeError)
  /-- A format is not a regular expression. -/
  | invalidPattern (pattern : String)
  /-- A variant does not fit its tag. -/
  | invalidVariant (tag : String) (fault : VariantFault)
  /-- A schema that cannot be represented. -/
  | unsupported (reason : Unsupported)
  /-- A document that describes no schema. -/
  | document (fault : DocumentFault)

/-- The text of a schema error. -/
def SchemaError.message : SchemaError → String
  | .invalidDefault cause => s!"Invalid default value: {cause.message}"
  | .invalidPattern pattern => s!"Invalid pattern '{pattern}': not a regular expression"
  | .invalidVariant tag fault => s!"Invalid discriminated union variant '{tag}': {fault.message}"
  | .unsupported reason => s!"Unsupported schema: {reason.message}"
  | .document fault => s!"Invalid document: {fault.message}"

end Schemata
