import LineShell.Dialogue.Line
import LineShell.Text.Octets

/-!
# Taking in the input

The shell takes its input in portions, and reads lines from what it has taken. What it has not
taken is there for its children, too. Main statements: `length_filled`, which says that nothing is
lost, and `length_rest_lt`, which says that each line leaves less.
-/

namespace LineShell

/-- The input that has not been read. -/
structure Intake where
  /-- What has been taken. -/
  held : List UInt8
  /-- What can still be taken. -/
  open_ : Octets
deriving DecidableEq, Repr

namespace Intake

/-- The most bytes that are taken at once. -/
def portion : Nat :=
  8192

/-- The input of a shell that has taken nothing. -/
def ofInput (input : List UInt8) : Intake where
  held := []
  open_ := Octets.ofBytes input

/-- How many bytes have not been read. -/
def length (i : Intake) : Nat :=
  i.held.length + i.open_.length

/-- The input after as many portions have been taken as the next line needs. -/
def filled (i : Intake) : Intake :=
  if i.held.contains Line.feed ∨ i.open_ = [] then i
  else
    filled {
      held := i.held ++ Octets.toBytes (i.open_.take portion)
      open_ := i.open_.drop portion }
termination_by i.open_.length
decreasing_by
  rename_i hopen
  have hpos : 0 < i.open_.length := List.length_pos_iff.mpr fun h => hopen (.inr h)
  simp only [List.length_drop, portion]
  omega

/-- The input behind its first line and so many bytes that children have taken. -/
def rest (i : Intake) (taken : Nat) : Intake where
  held := Line.rest i.held
  open_ := i.open_.drop taken

/-- Taking portions loses nothing. -/
theorem length_filled (i : Intake) : i.filled.length = i.length := by
  fun_induction filled i with
  | case1 => rfl
  | case2 i h ih =>
    rw [ih]
    simp only [length, List.length_append, Octets.toBytes, List.length_map, List.length_take,
      List.length_drop]
    omega

/-- Something has been taken if there is something to take. -/
theorem held_filled_ne_nil {i : Intake} (h : i.length ≠ 0) : i.filled.held ≠ [] := by
  fun_induction filled i with
  | case1 i h' =>
    rcases h' with h' | h'
    · intro hn
      simp [hn] at h'
    · intro hn
      simp [length, hn, h'] at h
  | case2 i h' ih =>
    apply ih
    simp only [length, List.length_append, Octets.toBytes, List.length_map, List.length_take,
      List.length_drop]
    have hl : i.open_.length ≠ 0 := fun hl => h' (.inr (List.length_eq_zero_iff.mp hl))
    simp only [portion]
    omega

/-- Each line leaves less input. -/
theorem length_rest_lt {i : Intake} (h : i.length ≠ 0) (taken : Nat) :
    (i.filled.rest taken).length < i.length := by
  have hl := Line.length_rest_lt (held_filled_ne_nil h)
  rw [← length_filled i]
  simp only [rest, length, List.length_drop]
  omega

end Intake

end LineShell
