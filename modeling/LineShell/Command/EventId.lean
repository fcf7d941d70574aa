import LineShell.Numeral
import LineShell.Text.Blank

/-!
# Event numbers

A word that begins with an exclamation mark recalls an earlier command by its number. The number is
read leniently: blanks and one plus sign may stand before it, and only the digits at the front
count.
-/

namespace LineShell.EventId

/-- The sign of a recall. -/
def sigil : Char :=
  '!'

/-- The text without one sign of a recall at its front. -/
def skipSigil : List Char → List Char
  | [] => []
  | c :: cs => if c = sigil then cs else c :: cs

/-- The event number in a word, or zero, which no command ever has, when there is none. -/
def ofWord (word : String) : Nat :=
  let cs := Numeral.skipPlus (Text.trimStart (skipSigil word.toList))
  (Numeral.word? (cs.takeWhile Char.isDigit)).getD 0

/-- Whether a word recalls an earlier command. -/
def IsRecall (word : String) : Prop :=
  word.toList.head? = some sigil

instance (word : String) : Decidable (IsRecall word) :=
  inferInstanceAs (Decidable (_ = _))

end LineShell.EventId
