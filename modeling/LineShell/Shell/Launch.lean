import LineShell.Shell.Basic

/-!
# Launching programs

A program runs in a child of its own, and what it writes goes to descriptor 1 past the shell's
stream. The shell waits for a child in the foreground and collects it; a child in the background is
tracked until it is collected later. A program that there is not is reported with the line that
asked for it: by the child, if there can be one, and otherwise by the shell, which then creates
none.
-/

namespace LineShell

variable {σ : Type}

/-- The report of a line whose program cannot be run. -/
def notFound (line : String) : String :=
  line ++ ": command not found\n"

/-- What a child writes for a line: what its program does, or that it cannot be run. -/
def Host.writing (host : Host) (argv : List String) (line : String) : Writing :=
  (host.exec argv).getD { output := Text.utf8 (notFound line) }

/-- Whether the words can be handed to a new program at all: there is one to name it, and none
holds the character that ends a word there. -/
def IsPassable (argv : List String) : Prop :=
  argv ≠ [] ∧ ∀ word ∈ argv, '\x00' ∉ word.toList

instance (argv : List String) : Decidable (IsPassable argv) :=
  inferInstanceAs (Decidable (_ ∧ _))

namespace Shell

/-- Creates a child for the words. -/
def fork (host : Host) (argv : List String) (background : Bool) : Action σ Launch := do
  let s ← Action.state
  Action.modify fun s => { s with forks := s.forks + 1 }
  match host.fork s.forks s.roster.table with
  | .error cause =>
    Action.note (.forkFailed cause)
    Action.fail (.fork cause)
  | .ok pid =>
    let launch : Launch := { pid, serial := s.forks, argv, background }
    Action.modify fun s =>
      { s with roster := { s.roster with table := s.roster.table.start pid launch.serial } }
    Action.tell [.launched launch]
    return launch

/-- Waits until a child has ended, and collects it. -/
def await (pid : Pid) : Action σ Unit := do
  let s ← Action.state
  let (answer, table) := s.roster.table.await pid
  Action.modify fun s => { s with roster := { s.roster with table } }
  match answer with
  | .collected child => Action.tell [.collected child]
  | _ => pure ()

/-- Runs the program of the words for a line. -/
def launch (host : Host) (argv : List String) (line : String) (background : Bool) :
    Action σ Unit := do
  if IsPassable argv then
    let child ← fork host argv background
    Action.tell [.childWrote child.serial (host.writing argv line)]
    if background then
      Action.modify fun s => { s with roster := s.roster.track child.pid }
    else
      await child.pid
  else
    Action.tell [.printed (Text.utf8 (notFound line))]

/-- Collects the children in the background that have ended, and answers how many there were. -/
def collect : Action σ Nat := do
  let s ← Action.state
  let sweep := s.roster.sweep
  Action.modify fun s => { s with roster := s.roster.collect }
  Action.tell (sweep.collected.map .collected)
  return sweep.gone.length

/-- Children end while the shell does nothing. -/
def idle (change : ChildTable → ChildTable) : Action σ Unit :=
  Action.modify fun s => { s with roster := { s.roster with table := change s.roster.table } }

end Shell

end LineShell
