import LineShell.Fault
import LineShell.Numeral
import LineShell.Text.Blank

/-!
# Settings

Two variables of the environment set the shell up. Each holds a positive number that fits a machine
word, with blanks around it and one plus sign before it allowed.
-/

namespace LineShell

/-- How a shell is set up. -/
structure Settings where
  /-- The text that asks for a line. -/
  prompt : String := "rashell> "
  /-- The number of lines that the history holds. -/
  historyCapacity : Nat := 10
  /-- The number of bytes that a line may have. -/
  lineLimit : Nat := 1000
  /-- The history holds a line. -/
  historyCapacity_pos : 0 < historyCapacity := by decide
  /-- Some line is short enough. -/
  lineLimit_pos : 0 < lineLimit := by decide
deriving DecidableEq, Repr

namespace Settings

/-- The variable that sets the number of lines in the history. -/
def historyVariable : String :=
  "RASHELL_HISTSIZE"

/-- The variable that sets the number of bytes in a line. -/
def lineVariable : String :=
  "RASHELL_MAX_LINE"

/-- The positive number that a value holds. -/
def positive? (value : String) : Option { n : Nat // 0 < n } :=
  (Numeral.word? (Numeral.skipPlus (Text.trim value.toList))).bind fun n =>
    if h : 0 < n then some ⟨n, h⟩ else none

/-- The number that a variable sets, or the fallback if the variable is not set. The fault of a
value that holds no positive number gives the value as it stands. -/
def positiveOr (fallback : { n : Nat // 0 < n }) (name : String) :
    Option String → Except Fault { n : Nat // 0 < n }
  | none => .ok fallback
  | some value =>
    match positive? value with
    | some n => .ok n
    | none => .error (.setting name value)

/-- The settings that the variables ask for. The history comes first, so of two bad values its
value is the one that is reported. -/
def ofLookup (lookup : String → Option String) : Except Fault Settings := do
  let standard : Settings := {}
  let history ← positiveOr ⟨standard.historyCapacity, standard.historyCapacity_pos⟩
    historyVariable (lookup historyVariable)
  let line ← positiveOr ⟨standard.lineLimit, standard.lineLimit_pos⟩
    lineVariable (lookup lineVariable)
  return {
    standard with
    historyCapacity := history.val
    lineLimit := line.val
    historyCapacity_pos := history.property
    lineLimit_pos := line.property }

end Settings

end LineShell
