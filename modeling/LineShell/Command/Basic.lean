/-!
# Commands

A command is what one line asks for: the words to run and whether the shell waits for them.
-/

namespace LineShell

/-- The words of a command line, the program first, and whether it is to run in the background. -/
structure Command where
  /-- The program and its arguments; empty when the line asks for nothing. -/
  argv : List String
  /-- Whether the line ended in a background marker. -/
  background : Bool
deriving DecidableEq, Repr, Inhabited

end LineShell
