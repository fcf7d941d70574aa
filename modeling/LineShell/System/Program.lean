import LineShell.System.Inquiry

/-!
# Programs

A program is started with its arguments, its environment and its input. It writes to two
descriptors, takes a part of its input from the front, and leaves a status.
-/

namespace LineShell

/-- What a program is started with. -/
structure Start where
  /-- The word by which it is called. -/
  name : Octets
  /-- The arguments behind that word. -/
  args : List Octets
  /-- The variables of its environment and their values. -/
  environment : List (Octets × Octets)
  /-- The directory where it is started. -/
  directory : Path
  /-- What it can read from descriptor 0. -/
  input : Octets
  /-- Why it cannot read from there, if so. -/
  inputTrouble : Option FileTrouble := none
  /-- Why it cannot write to descriptor 1, if so. -/
  outputTrouble : Option FileTrouble := none
  /-- The content of the file that a text leads to. -/
  content : Octets → Except FileTrouble Octets
  /-- What answers its questions about files. -/
  inquiry : Inquiry

/-- Something that a program writes. -/
inductive Written where
  /-- To descriptor 1. -/
  | output (text : Octets)
  /-- To descriptor 2. -/
  | errors (text : Octets)
deriving DecidableEq, Repr

/-- What a program leaves behind. -/
structure Finish where
  /-- What it wrote, in order. -/
  written : List Written
  /-- The status it ended with. -/
  status : Nat := 0
  /-- How much of its input it took. -/
  taken : Nat := 0
deriving DecidableEq, Repr

namespace Finish

/-- What reached descriptor 1. -/
def output (f : Finish) : Octets :=
  f.written.flatMap fun
    | .output text => text
    | .errors _ => []

/-- What reached descriptor 2. -/
def errors (f : Finish) : Octets :=
  f.written.flatMap fun
    | .output _ => []
    | .errors text => text

end Finish

namespace Start

/-- The name of the variable that has programs follow the standard to the letter. -/
def standardVariable : Octets :=
  "POSIXLY_CORRECT".toList

/-- Whether the program is to follow the standard to the letter. -/
def isToTheLetter (s : Start) : Bool :=
  (s.environment.lookup standardVariable).isSome

/-- Whether the only argument asks the program about itself. -/
def asksAboutItself (s : Start) : Bool :=
  s.args = ["--help".toList] || s.args = ["--version".toList]

/-- A line for descriptor 2 that begins with the word by which the program is called. -/
def complaint (s : Start) (text : String) : Written :=
  .errors (s.name ++ ": ".toList ++ text.toList ++ ['\n'])

/-- What a program does that is called in a wrong way: it complains, and says how to get help. -/
def misuse (s : Start) (complaints : List String) : Finish where
  written := complaints.map s.complaint
    ++ [.errors ("Try '".toList ++ s.name ++ " --help' for more information.\n".toList)]
  status := 1

/-- What is left of what a program does if what it writes at its end cannot be written then. -/
def closing (s : Start) (f : Finish) : Finish :=
  match s.outputTrouble with
  | none => f
  | some t =>
    if f.output = [] then f
    else
      let complaints := f.written.filter fun w =>
        match w with
        | .output _ => false
        | .errors _ => true
      { f with
        written := complaints ++ [s.complaint ("write error: " ++ t.description)]
        status := 1 }

end Start

end LineShell
