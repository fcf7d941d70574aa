import LineShell.Errno
import LineShell.Text.Quoted
import LineShell.Text.Utf8

/-!
# Diagnostics

A shell can report on the side what it does. Each report has a level and a line of text. What is
written of them is up to a logger; the plain one leaves out what is below a threshold.
-/

namespace LineShell

/-- How important a report is. -/
inductive Level where
  /-- Something failed. -/
  | error
  /-- Something was refused. -/
  | warn
  /-- Something worth knowing happened. -/
  | info
  /-- A step of the shell. -/
  | debug
  /-- A detail of a step. -/
  | trace
deriving DecidableEq, Repr

namespace Level

/-- The place of a level; the less important it is, the higher. -/
def rank : Level → Nat
  | error => 1
  | warn => 2
  | info => 3
  | debug => 4
  | trace => 5

/-- The name of a level in five columns, at the right. -/
def label : Level → String
  | error => "ERROR"
  | warn => " WARN"
  | info => " INFO"
  | debug => "DEBUG"
  | trace => "TRACE"

/-- The level that a name in lower case or a number stands for. -/
def ofName? : String → Option Level
  | "error" | "1" => some error
  | "warn" | "2" => some warn
  | "info" | "3" => some info
  | "debug" | "4" => some debug
  | "trace" | "5" => some trace
  | _ => none

end Level

/-- A report of the shell on what it does. What it reports of a process by its number, that it was
created or has ended, differs from run to run and is not among these; the effects of the shell tell
it. -/
inductive Diagnostic where
  /-- No child could be created. -/
  | forkFailed (cause : Errno)
  /-- A line was too long. -/
  | oversized (length limit : Nat)
  /-- The history is listed, with so many entries of so many at most. -/
  | listing (entries capacity : Nat)
  /-- A line is recalled. -/
  | recalled (id : Nat) (text : String)
  /-- There is no line of this number to recall. -/
  | notRecalled (id : Nat)
  /-- A line was kept. -/
  | recorded (id : Nat) (text : String)
  /-- There is no more input. -/
  | endOfInput
  /-- The shell ends, after so many lines were kept. -/
  | leaving (commands : Nat)
deriving DecidableEq, Repr

namespace Diagnostic

/-- The level of a report. -/
def level : Diagnostic → Level
  | forkFailed _ => .error
  | oversized .. => .warn
  | recorded .. => .trace
  | _ => .debug

/-- The text of a report: what happened, and then the particulars, each with its name. Lines of the
history are quoted. -/
def message : Diagnostic → String
  | forkFailed cause => "fork failed err=" ++ cause.message
  | oversized length limit => s!"discarded oversized input line len={length} max={limit}"
  | listing entries capacity => s!"listing history entries={entries} capacity={capacity}"
  | recalled id text => s!"history recall id={id} text=" ++ Text.quote text
  | notRecalled id => s!"history recall miss id={id}"
  | recorded id text => s!"recorded history entry id={id} text=" ++ Text.quote text
  | endOfInput => "end of input"
  | leaving commands => s!"leaving shell commands={commands}"

/-- The line of a report. -/
def line (d : Diagnostic) : String :=
  d.level.label ++ " " ++ d.message ++ "\n"

end Diagnostic

/-- Which reports are written: those up to a level, or none. -/
abbrev Threshold := Option Level

namespace Threshold

/-- Whether a report is written. -/
def admits (t : Threshold) (d : Diagnostic) : Bool :=
  match t with
  | none => false
  | some l => d.level.rank ≤ l.rank

/-- The threshold that a value asks for by the name of a level, in either case, by its number, or by
the word or the number for no reports; warnings and errors otherwise. -/
def ofValue (value : Option String) : Threshold :=
  match value.map String.toLower with
  | some "off" | some "0" => none
  | some name => some ((Level.ofName? name).getD .warn)
  | none => some .warn

end Threshold

/-- How reports are written. It depends on the value of a variable, if that is set. -/
structure Logger where
  /-- What is written before anything is reported. -/
  opening : Option String → List UInt8
  /-- What is written for a report. -/
  write : Option String → Diagnostic → List UInt8

namespace Logger

/-- The variable that says which reports are written. -/
def environmentVariable : String :=
  "RASHELL_LOG"

/-- The logger that knows levels, and takes the value for one. -/
def levels : Logger where
  opening _ := []
  write value d := if (Threshold.ofValue value).admits d then Text.utf8 d.line else []

end Logger

end LineShell
