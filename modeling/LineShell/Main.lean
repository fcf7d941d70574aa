import LineShell.Dialogue.Report
import LineShell.Program.Catalogue

/-!
# The command line

Reads the whole input, runs the program over it, and writes what it reports.
-/

namespace LineShell.Main

/-- The bytes that a stream still holds, behind those that have been read. -/
partial def readAll (stream : IO.FS.Stream) (bytes : ByteArray) : IO ByteArray := do
  let more ← stream.read 65536
  if more.isEmpty then return bytes else readAll stream (bytes ++ more)

/-- The variables of the environment that the program or its children read, with their values. -/
def environment : IO (List (String × String)) :=
  [Settings.historyVariable, Settings.lineVariable, Logger.environmentVariable, "HOME",
    "PATH", "PWD"].filterMapM fun name => do return (← IO.getEnv name).map (name, ·)

/-- The variables as programs see them. -/
def exported (environment : List (String × String)) : List (Octets × Octets) :=
  environment.map fun (name, value) => (Octets.ofText name, Octets.ofText value)

/-- What the program reports in an environment, over an input. A child ends before the turn behind
the one that created it. -/
def report (environment : List (String × String)) (input : List UInt8) : Report :=
  Report.ofRun (Program.host (exported environment)) (fun n => List.range (n + 1))
    (List.lookup · environment) input

end LineShell.Main

open LineShell in
/-- Runs the shell over the standard input. -/
def main : IO UInt32 := do
  let environment ← Main.environment
  let input ← Main.readAll (← IO.getStdin) .empty
  let report := Main.report environment input.data.toList
  let output ← IO.getStdout
  output.write ⟨report.output.toArray⟩
  output.flush
  let errors ← IO.getStderr
  errors.write ⟨report.errors.toArray⟩
  errors.flush
  return UInt32.ofNat report.status
