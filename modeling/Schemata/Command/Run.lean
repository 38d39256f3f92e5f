import Schemata.Command.Document
import Schemata.Command.Line

/-!
# Running commands

A run ends in a report: an exit status and what belongs on the two output streams. It touches files
through `FileAccess` only, so the same run happens on disk and on a file system that is a value.
-/

namespace Schemata

/-- What a run leaves on the output streams. -/
structure Streams where
  /-- The standard output. -/
  output : String := ""
  /-- The standard error. -/
  error : String := ""

/-- The result of a run. -/
structure Report where
  /-- The exit status. -/
  status : UInt32
  /-- What belongs on the output streams. -/
  streams : Streams

/-- A step of a run, which may fail but keeps what was printed. -/
abbrev Running (m : Type → Type) := ExceptT CommandError (StateT Streams m)

namespace Command

variable {m : Type → Type} [Monad m] [FileAccess m]

/-- Print a line on the standard output. -/
def printOutput (line : String) : Running m Unit :=
  modify fun streams ↦ { streams with output := streams.output ++ line ++ "\n" }

/-- Print a line on the standard error. -/
def printError (line : String) : Running m Unit :=
  modify fun streams ↦ { streams with error := streams.error ++ line ++ "\n" }

/-- Do something with files as a step of a run. -/
def perform {α : Type} (action : m (Except CommandError α)) : Running m α :=
  ExceptT.mk (StateT.lift action)

/-- The line around a preview. -/
def rule : String := String.ofList (List.replicate 60 '─')

/-- Write a document and say so. -/
def emit (document : Json) (output : OutputOptions) (config : Config) : Running m Unit := do
  let content := Document.render document config.pretty
  match ← perform (Document.write output.dryRun output.path content) with
  | .file path bytes => printError s!"✓ Written {bytes} bytes to {path}"
  | .output _ => printOutput content
  | .preview path? content => do
    let target := path?.getD "stdout"
    printError s!"[dry-run] Would write to {target}:"
    printError rule
    printError content
    printError rule

/-- The override of the output options: compact output is not pretty. -/
def prettyOverride (output : OutputOptions) : Option Bool :=
  if output.compact then some false else none

/-- Carry out a command. -/
def execute (config? : Option String) : Command → Running m Unit
  | .export input id title description output => do
    let overrides : Overrides := { pretty := prettyOverride output, id, title, description }
    let config ← perform (Config.loadWith config? overrides)
    let ast ← perform (Document.readAst input)
    emit (Document.exportSchema config ast) output config
  | .import input output => do
    let config ← perform (Config.loadWith config? { pretty := prettyOverride output })
    let document ← perform (Document.read input)
    let ast ← perform (pure (Document.importSchema document))
    emit ast output config
  | .check schema data maxDepth output => do
    let config ← perform (Config.loadWith config? { pretty := prettyOverride output, maxDepth })
    let ast ← perform (Document.readAst schema)
    let document ← perform (Document.read data)
    let decoded ← perform (pure (Document.check config ast document))
    printError s!"✓ {data} is valid"
    emit decoded output config
  | .init output force => do
    if (← perform (Except.ok <$> FileAccess.isPresent output)) && !force then
      printError s!"Error: Configuration file already exists: {output}"
      printError "  Use --force to overwrite"
      throw (.validation "Configuration file already exists")
    match ← perform (Except.ok <$> FileAccess.write output Config.template) with
    | .ok () => printError s!"✓ Created configuration file: {output}"
    | .error fault => throw (.file fault)

end Command

namespace Invocation

variable {m : Type → Type} [Monad m] [FileAccess m]

/-- Carry out what the command line asks for. -/
def run (invocation : Invocation) : m Report := do
  let (result, streams) ← (invocation.command.execute invocation.config).run.run {}
  match result with
  | .ok () => return { status := 0, streams }
  | .error error =>
    let error' := streams.error ++ s!"Error: {error.message}\n"
    return { status := error.status, streams := { streams with error := error' } }

end Invocation

/-- The report on a command line that leads to no command. -/
def Stop.report : Stop → Report
  | .usage reason => { status := 2, streams := { error := s!"error: {reason}\n" } }
  | .help =>
    let usage := "usage: shape-rs [-c CONFIG] [-v | -q] export|import|check|init ..."
    { status := 0, streams := { output := usage ++ "\n" } }
  | .version => { status := 0, streams := { output := "shape-rs 0.1.0\n" } }

/-- Run a command line. -/
def runCommandLine {m : Type → Type} [Monad m] [FileAccess m] (arguments : List String) :
    m Report :=
  match CommandLine.parse arguments with
  | .ok invocation => invocation.run
  | .error stop => pure stop.report

end Schemata
