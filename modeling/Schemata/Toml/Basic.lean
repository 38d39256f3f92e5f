import Schemata.Entries

/-!
# TOML documents

A document is a table. A table remembers how it came to be, because that decides what may still be
added to it: a header may complete a table that was only implied by other headers, dotted keys may
extend tables that dotted keys made, and nothing may be added to an inline table. Every operation
that adds something fails rather than redefine.
-/

namespace Schemata

namespace Toml

/-- How a table came to be. -/
inductive Origin where
  /-- By a header that names it. -/
  | header
  /-- By a header that names a table within. -/
  | implied
  /-- By a dotted key. -/
  | dotted
  /-- As a value. -/
  | inline
  deriving DecidableEq

/-- A value of a document. -/
inductive Node where
  /-- A string. -/
  | string (text : String)
  /-- An integer of at most 128 bits. -/
  | integer (value : Int)
  /-- A float, in the digits it was written with. -/
  | float (digits : String)
  /-- A number that no integer of 128 bits and no finite float holds, or whose digits belong to a
  larger base. A document may have it where nothing asks for it. -/
  | unheld
  /-- A truth value. -/
  | boolean (value : Bool)
  /-- A date, a time or both. -/
  | datetime
  /-- An array of values. -/
  | array (items : List Node)
  /-- A table. -/
  | table (origin : Origin) (entries : List (String × Node))
  /-- The tables of an array that headers make, in order. -/
  | tables (items : List (List (String × Node)))
  deriving Inhabited

/-- Why a text is not a TOML document. -/
inductive Fault where
  /-- The text ends too early. -/
  | endOfText
  /-- A character that cannot stand here. -/
  | unexpected (c : Char)
  /-- An escape that is not defined. -/
  | badEscape
  /-- A number that is malformed or out of range. -/
  | badNumber
  /-- A date or time that does not exist. -/
  | badDate
  /-- A key that is defined already. -/
  | redefined (key : String)
  /-- A key on the way to another that is not a table. -/
  | notATable (key : String)
  /-- A value of the wrong type. -/
  | wrongType (key : String)
  /-- Arrays, inline tables or the parts of a key nest too deep. -/
  | tooDeep
  /-- A number that is out of range where it is asked for. -/
  | unheld (key : String)
  deriving DecidableEq

/-- The text of a fault. -/
def Fault.message : Fault → String
  | .endOfText => "unexpected end of text"
  | .unexpected c => "unexpected character " ++ String.singleton c
  | .badEscape => "invalid escape"
  | .badNumber => "invalid number"
  | .badDate => "invalid date or time"
  | .redefined key => s!"duplicate key '{key}'"
  | .notATable key => s!"key '{key}' is not a table"
  | .wrongType key => s!"invalid type for key '{key}'"
  | .tooDeep => "nested too deep"
  | .unheld key => s!"number out of range under key '{key}'"

/-- The entries of a table. -/
abbrev Table := Entries Node

/-- Whether every number within is held. -/
def Node.isHeld : Node → Bool
  | .unheld => false
  | .array items => inItems items
  | .table _ entries => inEntries entries
  | .tables items => inTables items
  | _ => true
where
  /-- Whether every number in a list of nodes is held. -/
  inItems : List Node → Bool
  | [] => true
  | node :: nodes => node.isHeld && inItems nodes
  /-- Whether every number in a table is held. -/
  inEntries : List (String × Node) → Bool
  | [] => true
  | (_, node) :: entries => node.isHeld && inEntries entries
  /-- Whether every number in a list of tables is held. -/
  inTables : List (List (String × Node)) → Bool
  | [] => true
  | entries :: rest => inEntries entries && inTables rest

/-- A change to a table, given how the table came to be. -/
abbrev Change := Origin → Table → Except Fault Table

/-- Change the last item of a list, if there is one. -/
def changeLast {α ε : Type} (change : α → Except ε α) : List α → Except ε (List α)
  | [] => .ok []
  | [last] => do return [← change last]
  | first :: rest => do return first :: (← changeLast change rest)

/-- Change the table at the end of a path, making tables on the way. An array of tables leads to its
last table. Dotted keys go neither into inline tables nor into tables that have a header. -/
def changeAt (dotted : Bool) (change : Change) : List String → Change
  | [], origin, table => change origin table
  | key :: rest, _, table =>
    match Entries.get? key table with
    | none => do
      let made := if dotted then Origin.dotted else .implied
      return Entries.insert key (.table made (← changeAt dotted change rest made [])) table
    | some (.table origin inner) =>
      if origin = .inline then .error (.notATable key)
      else if dotted && origin = .header then .error (.redefined key)
      else do
        return Entries.insert key (.table origin (← changeAt dotted change rest origin inner)) table
    | some (.tables items) => do
      return Entries.insert key (.tables (← changeLast (changeAt dotted change rest .header) items))
        table
    | some _ => .error (.notATable key)

/-- Make the table that a header names, or complete it if it was only implied. -/
def openTable (key : String) : Change := fun _ table ↦
  match Entries.get? key table with
  | none => .ok (Entries.insert key (.table .header []) table)
  | some (.table .implied inner) => .ok (Entries.insert key (.table .header inner) table)
  | some _ => .error (.redefined key)

/-- Add a table to the array that a header names. -/
def pushTable (key : String) : Change := fun _ table ↦
  match Entries.get? key table with
  | none => .ok (Entries.insert key (.tables [[]]) table)
  | some (.tables items) => .ok (Entries.insert key (.tables (items ++ [[]])) table)
  | some _ => .error (.redefined key)

/-- Add a value under a dotted key, given as the keys before the last one and the last one. The keys
before it lead through tables that dotted keys made. -/
def addValue (before : List String) (key : String) (value : Node) : Change :=
  changeAt true
    (fun origin table ↦
      if (origin = .dotted) = before.isEmpty then .error (.redefined key)
      else if Entries.contains key table then .error (.redefined key)
      else .ok (Entries.insert key value table))
    before

end Toml

end Schemata
