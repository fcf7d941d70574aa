import LineShell.Text.Octets

/-!
# Signals

A signal is a number that one process sends to another. Most have a name. What a signal does to a
process that makes no arrangement for it is to end it, apart from a few that do nothing.
-/

namespace LineShell

/-- A signal, by its number. Number zero is no signal: sending it only asks whether there is a
process to send to. -/
structure Signal where
  /-- The number. -/
  number : Nat
deriving DecidableEq, Repr

namespace Signal

/-- Number, name and description of the signals that have a name. -/
def known : List (Nat × String × String) := [
  (1, "HUP", "Hangup"),
  (2, "INT", "Interrupt"),
  (3, "QUIT", "Quit"),
  (4, "ILL", "Illegal instruction"),
  (5, "TRAP", "Trace/breakpoint trap"),
  (6, "ABRT", "Aborted"),
  (7, "BUS", "Bus error"),
  (8, "FPE", "Floating point exception"),
  (9, "KILL", "Killed"),
  (10, "USR1", "User defined signal 1"),
  (11, "SEGV", "Segmentation fault"),
  (12, "USR2", "User defined signal 2"),
  (13, "PIPE", "Broken pipe"),
  (14, "ALRM", "Alarm clock"),
  (15, "TERM", "Terminated"),
  (16, "16", "Stack fault"),
  (17, "CHLD", "Child exited"),
  (18, "CONT", "Continued"),
  (19, "STOP", "Stopped (signal)"),
  (20, "TSTP", "Stopped"),
  (21, "TTIN", "Stopped (tty input)"),
  (22, "TTOU", "Stopped (tty output)"),
  (23, "URG", "Urgent I/O condition"),
  (24, "XCPU", "CPU time limit exceeded"),
  (25, "XFSZ", "File size limit exceeded"),
  (26, "VTALRM", "Virtual timer expired"),
  (27, "PROF", "Profiling timer expired"),
  (28, "WINCH", "Window changed"),
  (29, "IO", "I/O possible"),
  (30, "PWR", "Power failure"),
  (31, "SYS", "Bad system call")]

/-- The number behind the last signal. -/
def bound : Nat :=
  65

/-- The signal that asks a process to end. -/
def term : Signal :=
  ⟨15⟩

/-- The signal of a pipe that nobody reads. -/
def pipe : Signal :=
  ⟨13⟩

/-- The signal that is sent from the keyboard. -/
def interrupt : Signal :=
  ⟨2⟩

/-- The signal of the end of a process that was started. -/
def child : Signal :=
  ⟨17⟩

/-- The signal that ends a process whatever it arranges for. -/
def kill : Signal :=
  ⟨9⟩

/-- The name of a signal. Those for free use are counted from the first or back from the last of
them, whichever is nearer. -/
def name (s : Signal) : Octets :=
  match known.lookup s.number with
  | some (name, _) => name.toList
  | none =>
    if s.number = 0 then "EXIT".toList
    else if s.number < 34 then Octets.decimal s.number
    else if s.number = 34 then "RTMIN".toList
    else if s.number < 50 then "RTMIN+".toList ++ Octets.decimal (s.number - 34)
    else if s.number < 64 then "RTMAX-".toList ++ Octets.decimal (64 - s.number)
    else "RTMAX".toList

/-- The description of a signal. -/
def description (s : Signal) : Octets :=
  match known.lookup s.number with
  | some (_, text) => text.toList
  | none => "Real-time signal ".toList ++ Octets.decimal (s.number - 34)

/-- The signal of a number in decimal digits. -/
def ofNumber? (text : Octets) : Option Signal :=
  if text ≠ [] ∧ text.all Char.isDigit ∧ Nat.ofDigitChars 10 text 0 < bound then
    some ⟨Nat.ofDigitChars 10 text 0⟩
  else none

/-- The signal that a text names by its number or, in either case, by its name, if its number is not
below the least one. -/
def ofText? (least : Nat) (text : Octets) : Option Signal :=
  match ofNumber? text with
  | some s => some s
  | none =>
    ((List.range bound).map Signal.mk).find? fun s =>
      least ≤ s.number && s.name.map Char.toUpper = text.map Char.toUpper

/-- Whether a signal does nothing to a process that makes no arrangement for it. -/
def isHarmless (s : Signal) : Bool :=
  [0, 17, 18, 23, 28].contains s.number

/-- Whether a process may make arrangements for a signal. -/
def isManageable (s : Signal) : Bool :=
  s.number ≠ 9 && s.number ≠ 19

end Signal

end LineShell
