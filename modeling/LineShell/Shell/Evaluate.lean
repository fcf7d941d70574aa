import LineShell.Command.EventId
import LineShell.Command.Lexer
import LineShell.Shell.Launch

/-!
# Evaluating lines

A line asks to leave the shell, to list the history, to run an earlier line once more, or to run a
program. Lines that are run are kept in the history, a recalled line under a new number.
-/

namespace LineShell

/-- The line that leaves the shell. -/
def exitLine : String :=
  "exit"

/-- The line that lists the history. -/
def historyLine : String :=
  "history"

/-- Whether the shell goes on. -/
inductive Flow where
  /-- The shell takes another line. -/
  | stay
  /-- The shell ends. -/
  | leave
deriving DecidableEq, Repr

namespace Shell

variable {σ : Type}

/-- Keeps a line in the history, and answers its number. -/
def record (text : String) : Action σ Nat := do
  let s ← Action.state
  Action.modify fun s => { s with history := s.history.insert text }
  Action.note (.recorded s.history.nextId text)
  return s.history.nextId

variable [OutputStream σ]

/-- Keeps the line that lists the history, and writes all entries, oldest first. -/
def list : Action σ Unit := do
  discard <| record historyLine
  let s ← Action.state
  Action.note (.listing s.history.count s.history.slots.size)
  s.history.toList.forM fun e => Action.say e.line
  Action.flush

/-- Runs a line that is not to be recalled, given its words. What the shell has written so far
comes before anything the program writes. -/
def execute (host : Host) (argv : List String) (line : String) (background : Bool) :
    Action σ Unit :=
  if line = historyLine then
    list
  else do
    Action.flush
    launch host argv line background
    discard <| record line

/-- Runs the line of a number once more, or reports the line that asked for it. -/
def replay (host : Host) (id : Nat) (line : String) : Action σ Unit := do
  let s ← Action.state
  match s.history.find? id with
  | none =>
    Action.note (.notRecalled id)
    Action.say (line ++ ": event not found")
    Action.flush
  | some e =>
    Action.note (.recalled id e.text)
    let command := Command.ofLine e.text
    if command.argv = [] then pure () else execute host command.argv e.text command.background

/-- Refuses a line that is too long. -/
def refuse (line : String) (limit : Nat) : Action σ Unit := do
  Action.note (.oversized line.utf8ByteSize limit)
  Action.say (Fault.lineTooLong line.utf8ByteSize limit).message
  Action.flush

/-- Does what a line asks for that is neither the one that leaves the shell nor too long. -/
def perform (host : Host) (line : String) : Action σ Unit :=
  if line = historyLine then
    list
  else
    let command := Command.ofLine line
    match command.argv with
    | [] => pure ()
    | word :: _ =>
      if EventId.IsRecall word then replay host (EventId.ofWord word) line
      else execute host command.argv line command.background

/-- Evaluates a line of at most so many bytes. The line that leaves the shell does so whatever the
limit is. -/
def evaluate (host : Host) (limit : Nat) (line : String) : Action σ Flow :=
  if line = exitLine then
    pure .leave
  else do
    if limit < line.utf8ByteSize then refuse line limit else perform host line
    return .stay

end Shell

end LineShell
