import Schemata.Json.Parser

/-!
# Reading members

A node of a document is read member by member: a known member may stand once, an unknown one is
passed over, and the order of members does not matter. `member?` is the one way to a member, and
`DocumentFault` names what can go wrong.
-/

namespace Schemata

/-- Why a document is not what its reader expects. -/
inductive DocumentFault where
  /-- The text is not JSON. -/
  | text (fault : Json.Fault)
  /-- A node is not an object. -/
  | notAnObject
  /-- A node names no known kind. -/
  | unknownKind
  /-- A member that must be present is not. -/
  | missing (member : String)
  /-- A known member stands twice. -/
  | repeated (member : String)
  /-- A member holds something of the wrong shape. -/
  | malformed (member : String)
  deriving DecidableEq

/-- The text of a document fault. -/
def DocumentFault.message : DocumentFault → String
  | .text fault => fault.message
  | .notAnObject => "expected an object"
  | .unknownKind => "unknown kind"
  | .missing member => s!"missing member '{member}'"
  | .repeated member => s!"repeated member '{member}'"
  | .malformed member => s!"malformed member '{member}'"

namespace Json

/-- The member under `key`, which may be absent but not stand twice. -/
def member? (key : String) (members : Entries Json) : Except DocumentFault (Option Json) :=
  match members.filter (fun m ↦ m.1 == key) with
  | [] => .ok none
  | [m] => .ok (some m.2)
  | _ => .error (.repeated key)

/-- The member under `key`, read by `read`; absent is `default`. -/
def memberOr {α : Type} (key : String) (read : Json → Option α) (default : α)
    (members : Entries Json) : Except DocumentFault α := do
  match ← member? key members with
  | none => return default
  | some doc =>
    match read doc with
    | some a => return a
    | none => throw (.malformed key)

/-- The member under `key`, read by `read`; it must be present. -/
def requiredMember {α : Type} (key : String) (read : Json → Option α) (members : Entries Json) :
    Except DocumentFault α := do
  match ← member? key members with
  | none => throw (.missing key)
  | some doc =>
    match read doc with
    | some a => return a
    | none => throw (.malformed key)

/-- Read null as absent. -/
def nullable {α : Type} (read : Json → Option α) : Json → Option (Option α)
  | .null => some none
  | doc => (read doc).map some

/-- The member under `key`, read by `read`; absent and null both mean none. -/
def optionalMember {α : Type} (key : String) (read : Json → Option α) (members : Entries Json) :
    Except DocumentFault (Option α) :=
  memberOr key (nullable read) none members

/-- The items of an array, each read by `read`. -/
def asListOf? {α : Type} (read : Json → Option α) : Json → Option (List α)
  | .array items => items.mapM read
  | _ => none

/-- A member for a present value. -/
def memberOf {α : Type} (key : String) (write : α → Json) : Option α → List (String × Json)
  | none => []
  | some a => [(key, write a)]

end Json

end Schemata
