import LineShell.Text.Utf8

/-!
# Lines of input

The input is taken line by line. A line reaches up to and including the next line feed, or to the
end of the input; its text goes without that line feed and without one carriage return before it.
-/

namespace LineShell.Line

/-- The byte of a line feed. -/
def feed : UInt8 :=
  10

/-- The byte of a carriage return. -/
def carriageReturn : UInt8 :=
  13

/-- The first line of the input, with its line feed if it has one. -/
def front (input : List UInt8) : List UInt8 :=
  input.takeWhile (· ≠ feed) ++ (input.dropWhile (· ≠ feed)).take 1

/-- The input behind its first line. -/
def rest (input : List UInt8) : List UInt8 :=
  (input.dropWhile (· ≠ feed)).drop 1

/-- Nothing of the input is lost. -/
@[simp] theorem front_append_rest (input : List UInt8) : front input ++ rest input = input := by
  rw [front, rest, List.append_assoc, List.take_append_drop, List.takeWhile_append_dropWhile]

theorem front_ne_nil {input : List UInt8} (h : input ≠ []) : front input ≠ [] := by
  cases input with
  | nil => exact absurd rfl h
  | cons b bs =>
    by_cases hb : b = feed
    · simp [front, hb]
    · simp [front, hb]

/-- Taking a line leaves less input. -/
theorem length_rest_lt {input : List UInt8} (h : input ≠ []) :
    (rest input).length < input.length := by
  have hf : 0 < (front input).length := List.length_pos_iff.mpr (front_ne_nil h)
  have hl : (front input).length + (rest input).length = input.length := by
    rw [← List.length_append, front_append_rest]
  omega

/-- A line without its line feed and one carriage return before that. -/
def strip (line : List UInt8) : List UInt8 :=
  match line.reverse with
  | [] => []
  | b :: bs =>
    if b = feed then
      match bs with
      | [] => []
      | c :: cs => if c = carriageReturn then cs.reverse else (c :: cs).reverse
    else line

/-- The text of a line, if its bytes are one. -/
def text? (line : List UInt8) : Option String :=
  Text.ofUtf8? (strip line)

end LineShell.Line
