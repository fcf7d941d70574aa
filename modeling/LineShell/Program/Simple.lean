import LineShell.Program.Concatenate
import LineShell.Program.Condition
import LineShell.Program.Echo
import LineShell.Program.Format
import LineShell.Program.Sleep

/-!
# Simple programs

These programs do one thing with their arguments and their input, and start no other program.
-/

namespace LineShell.Program

/-- A program that writes nothing, and ends with a status. -/
def silent (status : Nat) (_ : Start) : Finish where
  written := []
  status := status

/-- The simple program of a name. -/
def simple? (name : Octets) : Option (Start → Finish) :=
  match String.ofList name with
  | "[" => some (Condition.run true)
  | "cat" => some Concatenate.run
  | "echo" => some fun s => s.closing (Echo.run s)
  | "false" => some (silent 1)
  | "printf" => some fun s => s.closing (Format.run s)
  | "sleep" => some Sleep.run
  | "test" => some (Condition.run false)
  | "true" => some (silent 0)
  | _ => none

end LineShell.Program
