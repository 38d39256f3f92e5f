import Schemata.JsonSchema.Export
import Schemata.Schema.Decode
import Schemata.Toml.Parser

/-!
# Configuration

A configuration is read from a TOML document, overridden by what the command line gives, and
validated after either. Unknown tables and keys are passed over; a known key must have its type.
-/

namespace Schemata

/-- The configuration of the commands. -/
structure Config where
  /-- Whether documents are written with line breaks and indentation. -/
  pretty : Bool := true
  /-- The metadata of exported documents. -/
  metadata : JsonSchema.Metadata := {}
  /-- How deep data may nest when it is checked. -/
  maxDepth : UInt64 := 256

/-- Values from the command line, which take precedence. -/
structure Overrides where
  /-- In place of `pretty`. -/
  pretty : Option Bool := none
  /-- In place of the identifier. -/
  id : Option String := none
  /-- In place of the title. -/
  title : Option String := none
  /-- In place of the description. -/
  description : Option String := none
  /-- In place of `maxDepth`. -/
  maxDepth : Option UInt64 := none

/-- A configuration value that is out of range. -/
structure InvalidValue where
  /-- The key. -/
  key : String
  /-- What is wrong with its value. -/
  reason : String

namespace Config

/-- The name of the configuration file in the working directory. -/
def fileName : String := "shape-rs.toml"

/-- A configuration that allows a depth of at least one. -/
def validate (config : Config) : Except InvalidValue Config :=
  if config.maxDepth = 0 then
    .error { key := "engine.max_depth", reason := "must be greater than zero" }
  else .ok config

/-- The configuration with the given values in place of its own. -/
def override (config : Config) (overrides : Overrides) : Config where
  pretty := overrides.pretty.getD config.pretty
  metadata :=
    { id := overrides.id <|> config.metadata.id
      title := overrides.title <|> config.metadata.title
      description := overrides.description <|> config.metadata.description }
  maxDepth := overrides.maxDepth.getD config.maxDepth

/-- Override a configuration and validate the result. -/
def merge (config : Config) (overrides : Overrides) : Except InvalidValue Config :=
  (config.override overrides).validate

/-- The value of a setting of a section, given its key and its position: a section is a table, or an
array of the values of its settings. A date counts as a table without settings. -/
def setting? (section? : Option Toml.Node) (key : String) (position : Nat) :
    Except Toml.Fault (Option Toml.Node) :=
  match section? with
  | none => .ok none
  | some (.table _ entries) => .ok (Entries.get? key entries)
  | some (.array items) => .ok items[position]?
  | some .datetime => .ok none
  | some _ => .error (.wrongType key)

/-- The value of a setting, read by `read`. -/
def readSetting {α : Type} (section? : Option Toml.Node) (key : String) (position : Nat)
    (read : Toml.Node → Option α) : Except Toml.Fault (Option α) := do
  match ← setting? section? key position with
  | none => return none
  | some node =>
    match read node with
    | some a => return some a
    | none => throw (.wrongType key)

/-- The text of a string. -/
def asText? : Toml.Node → Option String
  | .string text => some text
  | _ => none

/-- A truth value. -/
def asTruth? : Toml.Node → Option Bool
  | .boolean value => some value
  | _ => none

/-- A count in 64 bits. -/
def asCount? : Toml.Node → Option UInt64
  | .integer (.ofNat n) => if n < UInt64.size then some (UInt64.ofNat n) else none
  | _ => none

/-- How many settings a section has. -/
def settingCount? : String → Option Nat
  | "output" => some 1
  | "json_schema" => some 3
  | "engine" => some 1
  | _ => none

/-- Whether the numbers that are asked for or passed over under a key of the document are held. Of a
section that is an array, the items behind its settings are not looked at. -/
def isHeld (key : String) (node : Toml.Node) : Bool :=
  match settingCount? key, node with
  | some count, .array items => (items.take count).all Toml.Node.isHeld
  | _, node => node.isHeld

/-- The configuration that a document holds; what it leaves out has its default. -/
def ofToml (document : Toml.Table) : Except Toml.Fault Config := do
  for (key, node) in document do
    unless isHeld key node do throw (.unheld key)
  let output := Entries.get? "output" document
  let jsonSchema := Entries.get? "json_schema" document
  let engine := Entries.get? "engine" document
  let default : Config := {}
  let pretty ← readSetting output "pretty" 0 asTruth?
  let id ← readSetting jsonSchema "id" 0 asText?
  let title ← readSetting jsonSchema "title" 1 asText?
  let description ← readSetting jsonSchema "description" 2 asText?
  let maxDepth ← readSetting engine "max_depth" 0 asCount?
  return {
    pretty := pretty.getD default.pretty
    metadata := { id, title, description }
    maxDepth := maxDepth.getD default.maxDepth }

/-- Read a configuration from its text, without validating it. -/
def parse (text : String) : Except Toml.Fault Config := do
  ofToml (← Toml.parse text)

/-- The text of a configuration file with every default spelled out. -/
def template : String :=
  "\n".intercalate [
    "# shape-rs configuration file",
    "",
    "[output]",
    "# Pretty-print JSON written by `export`, `import` and `check`",
    "pretty = true",
    "",
    "[json_schema]",
    "# Document metadata added by `export`. Setting `id` also adds `$schema`.",
    "# id = \"https://example.com/schemas/config.json\"",
    "# title = \"Config\"",
    "# description = \"Service configuration\"",
    "",
    "[engine]",
    "# Maximum nesting depth accepted when decoding data with `check`",
    "max_depth = 256",
    ""]

end Config

end Schemata
