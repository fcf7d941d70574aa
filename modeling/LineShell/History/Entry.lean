/-!
# History entries

A line that has been run is kept under a number. Numbers start at one, count up, and are never
given twice.
-/

namespace LineShell

/-- A line of the history and its number. -/
structure Entry (ι : Type) where
  /-- The number. -/
  id : ι
  /-- The line. -/
  text : String
deriving DecidableEq, Repr

/-- The line of a history listing that shows an entry. -/
def Entry.line (e : Entry Nat) : String :=
  s!"       {e.id} {e.text}"

end LineShell
