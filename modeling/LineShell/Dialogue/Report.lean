import LineShell.Dialogue.Loop
import LineShell.Output.Limited

/-!
# The program as a whole

The program reads its settings from the environment, holds the dialogue over its input, and reports
what it wrote and how it ended.
-/

namespace LineShell

/-- What a run of the program leaves behind. -/
structure Report where
  /-- The exit status. -/
  status : Nat
  /-- The bytes on descriptor 1. -/
  output : List UInt8
  /-- The bytes on descriptor 2. -/
  errors : List UInt8
deriving DecidableEq, Repr

namespace Report

/-- The exit status that a process shows for a status: the last byte of it. -/
def shownStatus (status : Int) : Nat :=
  (status % 256).toNat

/-- The report of a run that could not begin because of its settings. -/
def ofBadSettings (fault : Fault) : Report where
  status := shownStatus fault.exitStatus
  output := []
  errors := Text.utf8 ("rashell: invalid shell configuration: " ++ fault.report ++ "\n")

/-- The report of a run with a trace and a status. -/
def ofTrace (log : Diagnostic → List UInt8) (t : Trace) (status : Nat) : Report where
  status := status
  output := t.output
  errors := t.errors log

/-- The exit status of a shell that breaks off. -/
def brokenStatus : Nat :=
  101

/-- The report of a dialogue. That no child can be created is told where the shell speaks; any other
fault that ends the dialogue is told on descriptor 2. A shell that breaks off has told already. -/
def ofOutcome {σ α : Type} [OutputStream σ] (log : Diagnostic → List UInt8) (o : Outcome σ α) :
    Report :=
  match o.answer with
  | .ok _ => ofTrace log o.trace 0
  | .error fault =>
    if o.trace.breaks then
      ofTrace log o.trace brokenStatus
    else
      let status := shownStatus fault.exitStatus
      match fault with
      | .fork _ =>
        let t := o.trace ++ ((Action.print fault.message).run o.shell).trace
        ofTrace log t (if t.breaks then brokenStatus else status)
      | _ =>
        let report := ofTrace log o.trace status
        { report with
          errors := report.errors ++ Text.utf8 ("rashell: " ++ fault.report ++ "\n") }

/-- The report of the program on a host, in an environment, over an input. The host depends on what
children can read. -/
def ofRun (host : Octets → Host) (ended : Nat → List Pid) (lookup : String → Option String)
    (input : List UInt8) (logger : Logger := Logger.levels) : Report :=
  let asked := lookup Logger.environmentVariable
  let report :=
    match Settings.ofLookup lookup with
    | .error fault => ofBadSettings fault
    | .ok settings =>
      ofOutcome (logger.write asked)
        ((Dialogue.run host settings ended input).run
          (Shell.ofSettings settings Limited.unlimited))
  { report with errors := logger.opening asked ++ report.errors }

end Report

end LineShell
