import LineShell.Script.Evaluation

/-!
# The interpreter as a program

The interpreter is started like any other program. Its input, its output and its complaints are
three contents of the machine that runs the script.
-/

namespace LineShell.Script

/-- How many commands may be inside one another. -/
def deepest : Nat :=
  100000

/-- The number of the process that starts the interpreter. -/
def starter : Nat :=
  1

/-- The machine on which an interpreter starts. -/
def Machine.ofStart (s : Start) : Machine :=
  let process := newProcess {} (starter + 1) starter s.name s.environment s.directory
  { process := { process with descriptors := [(0, 0), (1, 1), (2, 2)] }
    contents := #[s.input.toArray, #[], #[]]
    opened := #[
      { content := some 0, readable := true },
      { content := some 1, atEnd := true, writable := true },
      { content := some 2, atEnd := true, writable := true }]
    ancestors := [starter]
    nextProcess := starter + 2 }

/-- Runs a script. -/
def run (s : Start) : Finish :=
  let self := eval deepest
  let whole : Run Ending := do
    let ending ← Run.conclude self (interpret self s.args)
    Run.runJobs self deepest
    return ending
  let finish (status : Nat) (m : Machine) : Finish :=
    let text (n : Nat) : Octets := (m.contents.getD n #[]).toList
    { written := [.output (text 1), .errors (text 2)]
      status
      taken := m.opened[0]?.map Opened.place |>.getD 0 }
  match whole.run (Machine.ofStart s) with
  | .ok ending m => finish ending.code m
  | .error _ m => finish 2 m

end LineShell.Script
