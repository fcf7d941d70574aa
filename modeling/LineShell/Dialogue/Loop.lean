import LineShell.Dialogue.Intake
import LineShell.Shell.Evaluate

/-!
# The dialogue

The shell asks for lines with its prompt and evaluates them, until one of them leaves the shell, the
input ends, or a line is no text. Children read what the shell has not taken of the input.
-/

namespace LineShell

/-- What is read when the shell asks for a line. -/
inductive Reading where
  /-- A line. -/
  | line (text : String)
  /-- Bytes that are no text. -/
  | malformed
  /-- The end of the input. -/
  | endOfInput
deriving DecidableEq, Repr

/-- What the first line of the input is read as. -/
def Reading.ofInput (input : List UInt8) : Reading :=
  if input = [] then
    endOfInput
  else
    match Line.text? (Line.front input) with
    | some text => line text
    | none => malformed

/-- How a dialogue ends. -/
inductive Ending where
  /-- A line left the shell. -/
  | left
  /-- There was no more input. -/
  | endOfInput
  /-- A line was no text. -/
  | malformed
  /-- The prompt could not be written. -/
  | unprompted (cause : Fault)
deriving DecidableEq, Repr

namespace Dialogue

variable {σ : Type} [OutputStream σ]

/-- What is said about a prompt that could not be written. -/
def unpromptedLine (cause : Fault) : String :=
  "Error: Io(" ++ cause.detail ++ ")"

/-- What is said about a line that is no text. -/
def malformedLine : String :=
  "Error: Io(Error \x7b kind: InvalidData, " ++
    "message: \"stream did not contain valid UTF-8\" \x7d)"

/-- Writes the prompt, and only then reads the first line of the input. -/
def ask (prompt : String) (input : List UInt8) : Action σ Reading := do
  Action.emit (OutputStream.writeAll · (Text.utf8 prompt))
  Action.flush
  return Reading.ofInput input

/-- One turn of the dialogue: collects the children in the background that have ended, asks for a
line and evaluates it. Answers how the dialogue ends, if it does. Where nothing can be read the line
about it is printed, and with a stream that does not take that line either the shell breaks off. -/
def turn (host : Host) (settings : Settings) (ended : List Pid) (input : List UInt8) :
    Action σ (Option Ending) := do
  Shell.idle (ended.foldl ChildTable.finish)
  discard <| Shell.collect
  match ← Action.attempt (ask settings.prompt input) with
  | .error cause =>
    Action.print (unpromptedLine cause)
    return some (.unprompted cause)
  | .ok .endOfInput =>
    Action.note .endOfInput
    return some .endOfInput
  | .ok .malformed =>
    Action.print malformedLine
    return some .malformed
  | .ok (.line text) =>
    match ← Shell.evaluate host settings.lineLimit text with
    | .leave => return some .left
    | .stay => return none

/-- The turns of the dialogue from the `n`-th on, over the input that is left. What the shell has
not taken of it is there for the children of a turn. The pids that `ended` gives for a turn are
those of children that end before it. -/
def turns (host : Octets → Host) (settings : Settings) (ended : Nat → List Pid) (n : Nat)
    (intake : Intake) : Action σ Ending :=
  if _ : intake.length = 0 then
    return (← turn (host []) settings (ended n) []).getD .endOfInput
  else do
    let i := intake.filled
    let (ending, trace) ← Action.observe (turn (host i.open_) settings (ended n) i.held)
    match ending with
    | some ending => return ending
    | none => turns host settings ended (n + 1) (intake.filled.rest trace.taken)
termination_by intake.length
decreasing_by exact Intake.length_rest_lt ‹_› _

/-- The whole dialogue over the input. -/
def run (host : Octets → Host) (settings : Settings) (ended : Nat → List Pid)
    (input : List UInt8) : Action σ Ending := do
  let ending ← turns host settings ended 0 (Intake.ofInput input)
  let s ← Action.state
  Action.note (.leaving (s.history.nextId - 1))
  return ending

end Dialogue

end LineShell
