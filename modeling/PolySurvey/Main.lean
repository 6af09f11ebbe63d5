import PolySurvey.CommandLine

/-!
# The program

Reads the task files that the arguments name, and prints what the run leaves behind.
-/

open PolySurvey

/-- The bytes of a file, or why there are none. -/
def readBytes (path : String) : IO (Except FileError ByteArray) := do
  try
    return .ok (← IO.FS.readBinFile path)
  catch
    | .inappropriateType _ code _ =>
      return .error (if code = 21 then .directory else .notADirectory)
    | .invalidArgument .. => return .error .nameTooLong
    | .permissionDenied .. => return .error .denied
    | _ => return .error .notFound

/-- Runs the command line. -/
def main (arguments : List String) : IO UInt32 := do
  let files ← (CommandLine.taskPaths arguments).mapM fun path => do
    return (path, ← readBytes path)
  let outcome := CommandLine.run (fun path => (files.lookup path).getD (.error .notFound)) arguments
  (← IO.getStdout).putStr outcome.output
  (← IO.getStderr).putStr outcome.errors
  return outcome.exitCode.toUInt32
