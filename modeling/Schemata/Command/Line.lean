/-!
# The command line

Arguments are read level by level: options of the program up to the name of a command, then options
and operands of the command, among which the options of the program may stand again. An option may
stand once a level; of one that stands on both, the command's counts. A value may follow its option
as the next argument or after `=`, after a short option also directly. Everything after `--` is an
operand.
-/

namespace Schemata

/-- What an option takes. -/
inductive OptionValue where
  /-- Nothing. -/
  | flag
  /-- Any text. -/
  | text
  /-- A path, which is not empty. -/
  | path
  /-- A count in 64 bits. -/
  | count
  deriving DecidableEq

/-- An option. -/
structure OptionSpec where
  /-- Its long name. -/
  long : String
  /-- Its short name. -/
  short : Option Char := none
  /-- What it takes. -/
  value : OptionValue := .flag

/-- Where the output of a command goes. -/
structure OutputOptions where
  /-- The file; without one it is the standard output. -/
  path : Option String
  /-- Whether it is written without line breaks. -/
  compact : Bool
  /-- Whether it is kept back and shown. -/
  dryRun : Bool

/-- A command with its arguments. -/
inductive Command where
  /-- Write the JSON Schema of a description. -/
  | export (input : String) (id title description : Option String) (output : OutputOptions)
  /-- Write the description of a JSON Schema. -/
  | import (input : String) (output : OutputOptions)
  /-- Decode data against a description. -/
  | check (schema data : String) (maxDepth : Option UInt64) (output : OutputOptions)
  /-- Write a configuration file. -/
  | init (output : String) (force : Bool)

/-- What the command line asks for. -/
structure Invocation where
  /-- The path of the configuration. -/
  config : Option String
  /-- The command. -/
  command : Command

/-- Why the command line leads to no command. -/
inductive Stop where
  /-- It is not understood. -/
  | usage (reason : String)
  /-- It asks for help. -/
  | help
  /-- It asks for the version. -/
  | version

namespace CommandLine

/-- The arguments of one level. -/
structure Level where
  /-- The options that were given, with their values. -/
  options : List (String × String) := []
  /-- The operands, in order. -/
  operands : List String := []

/-- Whether an option was given. -/
def Level.has (level : Level) (long : String) : Bool := (level.options.lookup long).isSome

/-- The value of an option. -/
def Level.value? (level : Level) (long : String) : Option String := level.options.lookup long

/-- A count: digits, with or without a plus sign, below 2^64. -/
def count? (text : String) : Option UInt64 :=
  let digits := match text.toList with
    | '+' :: rest => rest
    | cs => cs
  if digits.isEmpty || !digits.all Char.isDigit then none
  else
    let n := digits.foldl (fun n c ↦ n * 10 + (c.toNat - 48)) 0
    if n < UInt64.size then some (UInt64.ofNat n) else none

/-- Whether a text may be the value of an option. -/
def accepts : OptionValue → String → Bool
  | .flag, _ => true
  | .text, _ => true
  | .path, text => text ≠ ""
  | .count, text => (count? text).isSome

/-- Whether the next argument may be taken as a value. -/
def isValue (argument : String) : Bool := !argument.startsWith "-" || argument = "-"

/-- Add an option with its value. -/
def Level.give (level : Level) (spec : OptionSpec) (value : String) : Except Stop Level :=
  if spec.long = "help" then .error .help
  else if spec.long = "version" then .error .version
  else if level.has spec.long then
    .error (.usage s!"the option '--{spec.long}' cannot be given twice")
  else if accepts spec.value value then
    .ok { level with options := level.options ++ [(spec.long, value)] }
  else .error (.usage s!"invalid value '{value}' for '--{spec.long}'")

/-- Split an option at its first equals sign. -/
def splitEquals (text : List Char) : String × Option String :=
  match text.dropWhile (· != '=') with
  | [] => (String.ofList text, none)
  | _ :: value => (String.ofList (text.takeWhile (· != '=')), some (String.ofList value))

/-- What reading one argument leads to. -/
inductive Reading where
  /-- The argument is done with. -/
  | done (level : Level)
  /-- The next argument is the value of an option. -/
  | wants (level : Level) (spec : OptionSpec)

/-- Read a long option, given without its hyphens. -/
def readLong (specs : List OptionSpec) (level : Level) (text : List Char) : Except Stop Reading :=
  let (long, value?) := splitEquals text
  match specs.find? (fun spec ↦ spec.long = long), value? with
  | none, _ => .error (.usage s!"unknown option '--{long}'")
  | some spec, some value =>
    if spec.value = .flag then .error (.usage s!"the option '--{long}' takes no value")
    else (level.give spec value).map .done
  | some spec, none =>
    if spec.value = .flag then (level.give spec "").map .done else .ok (.wants level spec)

/-- Read short options, given without their hyphen: flags one after the other, the last of them may
take a value. -/
def readShort (specs : List OptionSpec) (level : Level) : List Char → Except Stop Reading
  | [] => .ok (.done level)
  | c :: rest =>
    match specs.find? (fun spec ↦ spec.short = some c) with
    | none => .error (.usage s!"unknown option '-{c}'")
    | some spec =>
      if spec.value = .flag then
        match level.give spec "" with
        | .ok level => readShort specs level rest
        | .error stop => .error stop
      else
        match rest with
        | [] => .ok (.wants level spec)
        | '=' :: value => (level.give spec (String.ofList value)).map .done
        | value => (level.give spec (String.ofList value)).map .done

/-- Read an argument that starts with a hyphen. -/
def readOption (specs : List OptionSpec) (level : Level) (argument : String) :
    Except Stop Reading :=
  match argument.toList with
  | '-' :: '-' :: text => readLong specs level text
  | '-' :: text => readShort specs level text
  | _ => .ok (.done level)

/-- Read the arguments of a level. Where the level has commands, the first operand ends it; what
follows it comes back beside the level. -/
def readLevel (specs : List OptionSpec) (hasCommands : Bool) (level : Level) :
    List String → Except Stop (Level × List String)
  | [] => .ok (level, [])
  | argument :: rest =>
    if argument = "--" then
      if hasCommands && !rest.isEmpty then .error (.usage "a command cannot follow '--'")
      else .ok ({ level with operands := level.operands ++ rest }, [])
    else if isValue argument then
      let level := { level with operands := level.operands ++ [argument] }
      if hasCommands then .ok (level, rest) else readLevel specs hasCommands level rest
    else
      match readOption specs level argument with
      | .error stop => .error stop
      | .ok (.done level) => readLevel specs hasCommands level rest
      | .ok (.wants level spec) =>
        match rest with
        | value :: rest =>
          if isValue value then
            match level.give spec value with
            | .ok level => readLevel specs hasCommands level rest
            | .error stop => .error stop
          else .error (.usage s!"the option '--{spec.long}' needs a value")
        | [] => .error (.usage s!"the option '--{spec.long}' needs a value")

/-- Options of the program that may stand on either level. -/
def sharedOptions : List OptionSpec :=
  [{ long := "config", short := some 'c', value := .path },
    { long := "verbose", short := some 'v' }, { long := "quiet", short := some 'q' },
    { long := "help", short := some 'h' }]

/-- Options of the program. -/
def programOptions : List OptionSpec :=
  sharedOptions ++ [{ long := "version", short := some 'V' }]

/-- Options of a command that writes a document. -/
def outputOptions : List OptionSpec :=
  [{ long := "output", short := some 'o', value := .path }, { long := "compact" },
    { long := "dry-run" }]

/-- Options of the exporting command. -/
def exportOptions : List OptionSpec :=
  sharedOptions ++ outputOptions
    ++ [{ long := "id", value := .text }, { long := "title", value := .text },
      { long := "description", value := .text }]

/-- Options of the importing command. -/
def importOptions : List OptionSpec := sharedOptions ++ outputOptions

/-- Options of the checking command. -/
def checkOptions : List OptionSpec :=
  sharedOptions ++ outputOptions
    ++ [{ long := "schema", short := some 's', value := .path },
      { long := "max-depth", value := .count }]

/-- Options of the command that writes a configuration file. -/
def initOptions : List OptionSpec :=
  sharedOptions ++ [{ long := "output", short := some 'o', value := .path }, { long := "force" }]

/-- Refuse a level that asks for more and for less output. -/
def checkVerbosity (level : Level) : Except Stop Unit :=
  if level.has "verbose" && level.has "quiet" then
    .error (.usage "the options '--verbose' and '--quiet' exclude each other")
  else .ok ()

/-- The one operand of a command, a path. -/
def onlyOperand (level : Level) : Except Stop String :=
  match level.operands with
  | [] => .error (.usage "an operand is missing")
  | [operand] => if operand = "" then .error (.usage "an operand is empty") else .ok operand
  | _ => .error (.usage "there are too many operands")

/-- The output options of a level. -/
def outputOf (level : Level) : OutputOptions where
  path := level.value? "output"
  compact := level.has "compact"
  dryRun := level.has "dry-run"

/-- The options that a command takes. -/
def optionsOf? : (name : String) → Option (List OptionSpec)
  | "export" => some exportOptions
  | "import" => some importOptions
  | "check" => some checkOptions
  | "init" => some initOptions
  | _ => none

/-- The command of a name and the arguments of its level. -/
def commandOf (name : String) (level : Level) : Except Stop Command :=
  match name with
  | "export" => do
    return .export (← onlyOperand level) (level.value? "id") (level.value? "title")
      (level.value? "description") (outputOf level)
  | "import" => do return .import (← onlyOperand level) (outputOf level)
  | "check" => do
    let data ← onlyOperand level
    match level.value? "schema" with
    | some schema =>
      return .check schema data ((level.value? "max-depth").bind count?) (outputOf level)
    | none => throw (.usage "the option '--schema' is required")
  | "init" =>
    if level.operands.isEmpty then
      .ok (.init ((level.value? "output").getD "shape-rs.toml") (level.has "force"))
    else .error (.usage "there are too many operands")
  | _ => .error (.usage s!"unknown command '{name}'")

/-- Read the name of a command and its arguments. -/
def readCommand (name : String) (arguments : List String) : Except Stop (Level × Command) :=
  match optionsOf? name with
  | none =>
    if name = "help" && arguments.all (fun a ↦ (optionsOf? a).isSome) then .error .help
    else .error (.usage s!"unknown command '{name}'")
  | some specs => do
    let (level, _) ← readLevel specs false {} arguments
    let command ← commandOf name level
    checkVerbosity level
    return (level, command)

/-- Read the command line. -/
def parse (arguments : List String) : Except Stop Invocation := do
  let (program, rest) ← readLevel programOptions true {} arguments
  match program.operands with
  | [name] =>
    let (level, command) ← readCommand name rest
    checkVerbosity program
    return { config := level.value? "config" <|> program.value? "config", command }
  | [] => throw (.usage "a command is missing")
  | _ => throw (.usage "there are too many operands")

end CommandLine

end Schemata
