import LineShell.Errno
import LineShell.Output.Failure
import LineShell.Text.Quoted

/-!
# Faults of the shell

What can go wrong in the shell itself, as opposed to the programs it runs, and how it is reported.
-/

namespace LineShell

/-- What went wrong in the shell. -/
inductive Fault where
  /-- No child could be created. The shell cannot go on. -/
  | fork (cause : Errno)
  /-- A line of so many bytes is longer than the limit. -/
  | lineTooLong (length limit : Nat)
  /-- The value of a setting is no positive number. -/
  | setting (name value : String)
  /-- The shell could not write its own output. -/
  | output (cause : Failure)
deriving DecidableEq, Repr

namespace Fault

/-- The message of a fault. -/
def message : Fault → String
  | fork _ => "error in forking"
  | lineTooLong length limit =>
    s!"rashell: input line of {length} bytes exceeds the {limit}-byte limit"
  | setting name value =>
    s!"invalid value for {name}: " ++ Text.quote value ++ " (expected a positive integer)"
  | output _ => "failed to write shell output"

/-- The message of a fault, followed by that of its cause if it has one. -/
def report : Fault → String
  | fork cause => (fork cause).message ++ ": " ++ cause.message
  | output cause => (output cause).message ++ ": " ++ cause.message
  | fault => fault.message

/-- The message of the cause of a fault, or its own if it has none. -/
def source : Fault → String
  | fork cause => cause.message
  | output cause => cause.message
  | fault => fault.message

/-- The cause of a fault as it is shown to those who look into it, or the message of the fault if it
is not one of the output. -/
def detail : Fault → String
  | output cause => cause.detail
  | fault => fault.message

/-- The exit status of a shell that ends with the fault. -/
def exitStatus : Fault → Int
  | fork _ => -1
  | _ => 1

end Fault

end LineShell
