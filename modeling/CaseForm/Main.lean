import CaseForm.CommandLine.Report
import Std.Time.DateTime.Timestamp

/-!
The program: it reads the files that the arguments name and prints the report on them.
-/

open CaseForm

/-- Reads a file, or says why it cannot be read. -/
def readFile (path : String) : IO (Except String String) := do
  match ← (IO.FS.readFile path).toBaseIO with
  | .ok text => return .ok text
  | .error error => return .error (toString error)

/-- Prints the report on the arguments, and ends with its code. -/
def main (arguments : List String) : IO UInt32 := do
  let paths := CommandLine.pathsOf arguments
  let contents ← paths.mapM readFile
  let files := Table.ofList (paths.zip contents)
  let now ← Std.Time.Timestamp.now
  let report := CommandLine.run (fun path => (files.get? path).getD (.error "not read"))
    (Moment.ofMilliseconds now.toMillisecondsSinceUnixEpoch.toInt) arguments
  (← IO.getStdout).putStr report.output
  (← IO.getStderr).putStr report.errors
  return report.code.toUInt32
