/-!
# Child processes

The system keeps a child until somebody collects it: while it runs, and after it has ended. A child
is addressed by its pid, which is free for another child once this one has been collected.
-/

namespace LineShell

/-- The number by which a child is addressed. -/
abbrev Pid := Nat

/-- A child process that has not been collected. -/
structure Child where
  /-- The number by which it is addressed. -/
  pid : Pid
  /-- How many children were created before it. No two children share it. -/
  serial : Nat
  /-- Whether it has ended. -/
  ended : Bool
deriving DecidableEq, Repr

/-- The children that have not been collected, in the order of their creation. -/
abbrev ChildTable := List Child

/-- What the system answers when it is asked for a child. -/
inductive Poll where
  /-- The child still runs. -/
  | running
  /-- The child had ended, and has now been collected. -/
  | collected (child : Child)
  /-- There is no such child. -/
  | absent
deriving DecidableEq, Repr

namespace ChildTable

/-- The child of a pid. -/
def find? (t : ChildTable) (p : Pid) : Option Child :=
  List.find? (fun c => c.pid = p) t

/-- Adds a child that runs. -/
def start (t : ChildTable) (p : Pid) (serial : Nat) : ChildTable :=
  t ++ [{ pid := p, serial, ended := false }]

/-- The child of a pid ends, by itself or by a signal. -/
def finish (t : ChildTable) (p : Pid) : ChildTable :=
  t.map fun c => if c.pid = p then { c with ended := true } else c

/-- Every child ends. -/
def finishAll (t : ChildTable) : ChildTable :=
  t.map fun c => { c with ended := true }

/-- Asks for the child of a pid without waiting, and collects it if it has ended. -/
def poll (t : ChildTable) (p : Pid) : Poll × ChildTable :=
  match find? t p with
  | none => (.absent, t)
  | some c => if c.ended then (.collected c, t.filter (·.pid ≠ p)) else (.running, t)

/-- Waits until the child of a pid ends, and collects it. -/
def await (t : ChildTable) (p : Pid) : Poll × ChildTable :=
  poll (finish t p) p

end ChildTable

end LineShell
