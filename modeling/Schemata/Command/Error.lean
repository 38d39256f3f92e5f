import Schemata.Error
import Schemata.Files
import Schemata.Command.Config

/-!
# Command errors

Why a command fails, and the text that says so. Data that does not decode is told apart from every
other failure, so that it can have an exit status of its own.
-/

namespace Schemata

/-- Why a configuration cannot be loaded. -/
inductive ConfigError where
  /-- There is nothing at the path that was given. -/
  | notFound (path : String)
  /-- The file is not a configuration. -/
  | invalidToml (path : String) (fault : Toml.Fault)
  /-- A value is out of range. -/
  | invalidValue (invalid : InvalidValue)
  /-- The file cannot be read. -/
  | unreadable (path : String) (fault : FileFault)

/-- The text of a configuration error. -/
def ConfigError.message : ConfigError → String
  | .notFound path => s!"Configuration file not found: {path}"
  | .invalidToml path fault => s!"Invalid TOML in {path}: {fault.message}"
  | .invalidValue invalid => s!"Invalid configuration value for '{invalid.key}': {invalid.reason}"
  | .unreadable path fault => s!"Failed to read config {path}: {fault.message}"

/-- Why an input document cannot be read. -/
inductive InputError where
  /-- There is nothing at the path. -/
  | notFound (path : String)
  /-- The file is not JSON. -/
  | invalidJson (path : String) (fault : Json.Fault)
  /-- The file cannot be read. -/
  | unreadable (path : String) (fault : FileFault)

/-- The text of an input error. -/
def InputError.message : InputError → String
  | .notFound path => s!"File not found: {path}"
  | .invalidJson path fault => s!"Invalid JSON in {path}: {fault.message}"
  | .unreadable path fault => s!"Failed to read {path}: {fault.message}"

/-- Why a document cannot be written. -/
inductive WriteError where
  /-- The directory above the file cannot be made. -/
  | directory (path : String) (fault : FileFault)
  /-- The file cannot be written. -/
  | file (path : String) (fault : FileFault)

/-- The text of a write error. -/
def WriteError.message : WriteError → String
  | .directory path fault => s!"Failed to create directory {path}: {fault.message}"
  | .file path fault => s!"Failed to write file {path}: {fault.message}"

/-- Why a command fails. -/
inductive CommandError where
  /-- The configuration cannot be loaded. -/
  | config (error : ConfigError)
  /-- An input document cannot be read. -/
  | input (error : InputError)
  /-- The output cannot be written. -/
  | write (error : WriteError)
  /-- A schema cannot be built or converted. -/
  | schema (error : SchemaError)
  /-- Data does not decode, or the command does not apply. -/
  | validation (reason : String)
  /-- A file cannot be used. -/
  | file (fault : FileFault)

namespace CommandError

/-- The text of a command error. -/
def message : CommandError → String
  | .config error => s!"Failed to load configuration: {error.message}"
  | .input error => s!"Failed to read input: {error.message}"
  | .write error => s!"Failed to write output: {error.message}"
  | .schema error => s!"Schema error: {error.message}"
  | .validation reason => s!"Validation failed: {reason}"
  | .file fault => s!"IO error: {fault.message}"

/-- The exit status of a failure. -/
def status : CommandError → UInt32
  | .validation _ => 2
  | _ => 1

end CommandError

end Schemata
