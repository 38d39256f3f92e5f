import Schemata.Command.Run

/-!
# The program

Runs the command line on the files of the disk and prints its report.
-/

namespace Schemata

/-- Report a failure of the system in its own words. -/
private def orFault {α : Type} (action : IO α) : IO (Except FileFault α) := do
  try
    return .ok (← action)
  catch failure =>
    return .error (.other failure.toString)

/-- The files of the disk. -/
instance : FileAccess IO where
  isPresent path := do
    try
      let _ ← IO.FS.realPath path
      return true
    catch _ =>
      return false
  read path := do
    match ← orFault (IO.FS.readBinFile path) with
    | .error fault => return .error fault
    | .ok bytes =>
      match String.fromUTF8? bytes with
      | some text => return .ok text
      | none => return .error .notText
  write path text := orFault (IO.FS.writeFile path text)
  makeDirectories path := orFault (IO.FS.createDirAll path)

end Schemata

/-- Run the arguments as a command line. -/
def main (arguments : List String) : IO UInt32 := do
  let report : Schemata.Report ← Schemata.runCommandLine arguments
  IO.print report.streams.output
  IO.eprint report.streams.error
  return report.status
