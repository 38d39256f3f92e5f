import Schemata.Ast.Reader
import Schemata.Ast.Writer
import Schemata.Command.Error
import Schemata.JsonSchema.Import
import Schemata.Schema.Rebuild

/-!
# Documents

The work of the commands on documents: reading, converting, checking, rendering and writing them,
and loading the configuration. Nothing here prints.
-/

namespace Schemata

/-- The outcome of writing a document. -/
inductive Written where
  /-- It was written to a file. -/
  | file (path : String) (bytes : Nat)
  /-- It belongs on the standard output. -/
  | output (bytes : Nat)
  /-- It was kept back. -/
  | preview (path : Option String) (content : String)

namespace Written

/-- The file that was or would be written. -/
def path? : Written → Option String
  | .file path _ => some path
  | .output _ => none
  | .preview path _ => path

/-- Whether the document was let out. -/
def isReleased : Written → Bool
  | .preview _ _ => false
  | _ => true

/-- How many bytes were let out. -/
def bytes : Written → Nat
  | .file _ bytes => bytes
  | .output bytes => bytes
  | .preview _ _ => 0

end Written

namespace Document

/-- Render a document with line breaks or without. -/
def render (document : Json) (pretty : Bool) : String :=
  if pretty then document.pretty else document.compact

/-- Read a description from a document. -/
def toAst (document : Json) : Except CommandError Ast :=
  match Ast.ofJson document with
  | .ok ast => .ok ast
  | .error fault => .error (.schema (.document fault))

/-- The JSON Schema of a description, with the metadata of the configuration. -/
def exportSchema (config : Config) (ast : Ast) : Json := ast.toJsonSchema config.metadata

/-- The document of the description of a JSON Schema. -/
def importSchema (document : Json) : Except CommandError Json :=
  match Ast.ofJsonSchema document with
  | .ok ast => .ok ast.toJson
  | .error error => .error (.schema error)

/-- Decode data against a description. -/
def check (config : Config) (ast : Ast) (data : Json) : Except CommandError Json :=
  match Schema.ofAst ast with
  | .error error => .error (.schema error)
  | .ok schema =>
    match schema.decode (.ofJson data) config.maxDepth.toNat with
    | .ok decoded => .ok decoded.toJson
    | .error error => .error (.validation error.message)

variable {m : Type → Type} [Monad m] [FileAccess m]

/-- Read a JSON document. -/
def read (path : String) : m (Except CommandError Json) := do
  if ← FileAccess.isPresent path then
    match ← FileAccess.read path with
    | .error fault => return .error (.input (.unreadable path fault))
    | .ok text =>
      match Json.parse text with
      | .ok document => return .ok document
      | .error fault => return .error (.input (.invalidJson path fault))
  else return .error (.input (.notFound path))

/-- Read the document of a description. -/
def readAst (path : String) : m (Except CommandError Ast) := do
  return (← read path).bind toAst

/-- Write a document to a file, making the directory above it if need be; without a path it belongs
on the standard output. A preview writes nothing. -/
def write (preview : Bool) (path? : Option String) (content : String) :
    m (Except CommandError Written) := do
  if preview then return .ok (.preview path? content)
  match path? with
  | none => return .ok (.output content.utf8ByteSize)
  | some path =>
    let above := (Path.parent? path).getD ""
    let made ←
      if above = "" then pure (.ok ())
      else if ← FileAccess.isPresent above then pure (.ok ())
      else FileAccess.makeDirectories above
    match made with
    | .error fault => return .error (.write (.directory above fault))
    | .ok () =>
      match ← FileAccess.write path content with
      | .ok () => return .ok (.file path content.utf8ByteSize)
      | .error fault => return .error (.write (.file path fault))

end Document

namespace Config

variable {m : Type → Type} [Monad m] [FileAccess m]

/-- A configuration from the text of the file at a path, validated. -/
def ofText (path text : String) : Except CommandError Config :=
  match Config.parse text with
  | .error fault => .error (.config (.invalidToml path fault))
  | .ok config =>
    match config.validate with
    | .ok config => .ok config
    | .error invalid => .error (.config (.invalidValue invalid))

/-- Override a configuration, as a step of a command. -/
def overridden (config : Config) (overrides : Overrides) : Except CommandError Config :=
  match config.merge overrides with
  | .ok config => .ok config
  | .error invalid => .error (.config (.invalidValue invalid))

/-- Load the configuration at a path, which must be there. Without a path, the file of the working
directory is used if there is one, and otherwise the defaults. -/
def load (path? : Option String) : m (Except CommandError Config) := do
  let path := path?.getD fileName
  if ← FileAccess.isPresent path then
    match ← FileAccess.read path with
    | .ok text => return ofText path text
    | .error fault => return .error (.config (.unreadable path fault))
  else
    match path? with
    | some path => return .error (.config (.notFound path))
    | none => return .ok {}

/-- Load the configuration and override it. -/
def loadWith (path? : Option String) (overrides : Overrides) : m (Except CommandError Config) := do
  return (← load path?).bind fun config ↦ config.overridden overrides

end Config

end Schemata
