import LineShell.Child.Table
import LineShell.Errno

/-!
# The host of a shell

A shell runs on a host, which creates its children and knows the programs they run.
-/

namespace LineShell

/-- What a child writes and takes from its start to its end. -/
structure Writing where
  /-- The bytes on descriptor 1. -/
  output : List UInt8
  /-- The bytes on descriptor 2. -/
  errors : List UInt8 := []
  /-- How many bytes it takes from the front of what it can read. -/
  taken : Nat := 0
deriving DecidableEq, Repr

/-- How the system around a shell behaves. -/
structure Host where
  /-- The answer to an attempt to create a child, given how many attempts went before it and which
  children have not been collected: the pid of a new child, or why there is none. -/
  fork : Nat → ChildTable → Except Errno Pid
  /-- What the program of an argument list writes, or `none` if there is no such program to run. -/
  exec : List String → Option Writing

end LineShell
