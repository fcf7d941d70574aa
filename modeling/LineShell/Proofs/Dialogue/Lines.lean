import Mathlib.Data.List.TakeWhile
import LineShell.Dialogue.Loop

/-!
# The lines of an input

The input is cut behind each line feed. Lines are taken one at a time and in portions, but what is
read in the end are those pieces, in their order, up to the one that ends the dialogue.
-/

namespace LineShell

namespace Line

/-- A piece of the input without one carriage return at its end. -/
def withoutReturn (piece : List UInt8) : List UInt8 :=
  if piece.getLast? = some carriageReturn then piece.dropLast else piece

/-- The lines of the input: what stands before each line feed, without one carriage return at its
end, and what stands behind the last line feed, as it is, unless that is nothing. -/
def bodies (input : List UInt8) : List (List UInt8) :=
  let pieces := input.splitOn feed
  pieces.dropLast.map withoutReturn ++ (pieces.getLast?.filter (· ≠ [])).toList

/-! ## Cutting lines -/

theorem bodies_nil : bodies [] = [] := rfl

theorem bodies_append_feed (piece input : List UInt8) :
    bodies (piece ++ feed :: input) = (piece.splitOn feed).map withoutReturn ++ bodies input := by
  have hne : input.splitOn feed ≠ [] := List.splitOn_ne_nil feed input
  rw [bodies, bodies, List.splitOn_append_cons_self, List.dropLast_append_of_ne_nil hne,
    List.getLast?_append, List.getLast?_eq_some_getLast hne, Option.some_or, List.map_append,
    List.append_assoc]

theorem bodies_of_not_mem {input : List UInt8} (h : feed ∉ input) (hne : input ≠ []) :
    bodies input = [input] := by
  rw [bodies, List.splitOn_eq_singleton h]
  simp [Option.filter, hne]

theorem front_of_not_mem {input : List UInt8} (h : feed ∉ input) :
    front input = input ∧ rest input = [] := by
  have hdrop : input.dropWhile (· ≠ feed) = [] := by
    rw [List.dropWhile_eq_nil_iff]
    intro b hb
    exact decide_eq_true fun he => h (he ▸ hb)
  have happend := front_append_rest input
  rw [rest, hdrop, List.drop_nil, List.append_nil] at happend
  exact ⟨happend, by rw [rest, hdrop, List.drop_nil]⟩

theorem front_append_feed {piece : List UInt8} (h : feed ∉ piece) (input : List UInt8) :
    front (piece ++ feed :: input) = piece ++ [feed] ∧ rest (piece ++ feed :: input) = input := by
  have hpiece : ∀ b ∈ piece, decide (b ≠ feed) = true :=
    fun b hb => decide_eq_true fun he => h (he ▸ hb)
  rw [front, rest, List.takeWhile_append_of_pos hpiece, List.dropWhile_append_of_pos hpiece]
  simp

theorem strip_append_feed (piece : List UInt8) : strip (piece ++ [feed]) = withoutReturn piece := by
  rw [strip, List.reverse_append]
  cases hrev : piece.reverse with
  | nil =>
      obtain rfl : piece = [] := List.reverse_eq_nil_iff.mp hrev
      rfl
  | cons c cs =>
      obtain rfl : piece = cs.reverse ++ [c] := by
        rw [← List.reverse_reverse piece, hrev, List.reverse_cons]
      rw [withoutReturn, List.getLast?_concat, List.dropLast_concat]
      change (if c = carriageReturn then cs.reverse else (c :: cs).reverse) = _
      simp only [Option.some.injEq, List.reverse_cons]

theorem strip_of_not_mem {line : List UInt8} (h : feed ∉ line) : strip line = line := by
  rw [strip]
  split
  · rename_i hrev
    exact (List.reverse_eq_nil_iff.mp hrev).symm
  · rename_i b bs hrev
    have hb : b ∈ line := by
      rw [← List.mem_reverse, hrev]
      exact List.mem_cons_self
    exact if_neg (ne_of_mem_of_not_mem hb h)

/-- The lines of the input are its first line and the lines of the rest. -/
theorem bodies_eq_cons {input : List UInt8} (h : input ≠ []) :
    bodies input = strip (front input) :: bodies (rest input) := by
  by_cases hmem : feed ∈ input
  · obtain ⟨piece, input, rfl, hpiece⟩ := List.eq_append_cons_of_mem hmem
    obtain ⟨hfront, hrest⟩ := front_append_feed hpiece input
    rw [bodies_append_feed, List.splitOn_eq_singleton hpiece, hfront, hrest, strip_append_feed]
    rfl
  · obtain ⟨hfront, hrest⟩ := front_of_not_mem hmem
    rw [bodies_of_not_mem hmem h, hfront, hrest, strip_of_not_mem hmem]
    rfl

theorem bodies_eq_nil_iff {input : List UInt8} : bodies input = [] ↔ input = [] := by
  constructor
  · intro h
    by_contra hne
    rw [bodies_eq_cons hne] at h
    cases h
  · rintro rfl
    exact bodies_nil

/-- A first line that has its line feed does not depend on what comes behind. -/
theorem front_append_of_mem {input : List UInt8} (h : feed ∈ input) (more : List UInt8) :
    front (input ++ more) = front input ∧ rest (input ++ more) = rest input ++ more := by
  obtain ⟨piece, input, rfl, hpiece⟩ := List.eq_append_cons_of_mem h
  obtain ⟨hfront, hrest⟩ := front_append_feed hpiece input
  obtain ⟨hfront', hrest'⟩ := front_append_feed hpiece (input ++ more)
  rw [List.append_assoc, List.cons_append, hfront, hrest, hfront', hrest']
  exact ⟨rfl, rfl⟩

end Line

/-! ## Taking lines from an intake -/

namespace Intake

/-- The bytes that have not been read, be they taken or not. -/
def bytes (i : Intake) : List UInt8 :=
  i.held ++ Octets.toBytes i.open_

@[simp] theorem bytes_ofInput (input : List UInt8) : (ofInput input).bytes = input := by
  simp [bytes, ofInput]

theorem length_bytes (i : Intake) : i.bytes.length = i.length := by
  simp [bytes, length, Octets.toBytes]

@[simp] theorem bytes_filled (i : Intake) : i.filled.bytes = i.bytes := by
  fun_induction filled i with
  | case1 => rfl
  | case2 i h ih =>
      rw [ih, bytes, bytes, List.append_assoc, Octets.toBytes, Octets.toBytes, Octets.toBytes,
        ← List.map_append, List.take_append_drop]

theorem feed_mem_or_open_filled (i : Intake) :
    Line.feed ∈ i.filled.held ∨ i.filled.open_ = [] := by
  fun_induction filled i with
  | case1 i h => exact h.imp_left List.contains_iff_mem.mp
  | case2 i h ih => exact ih

/-- Portions are taken until the first line is there. -/
theorem front_filled (i : Intake) :
    Line.front i.filled.held = Line.front i.bytes ∧
      (i.filled.rest 0).bytes = Line.rest i.bytes := by
  rw [← bytes_filled i, bytes, bytes]
  rcases feed_mem_or_open_filled i with hfeed | hopen
  · obtain ⟨hfront, hrest⟩ := Line.front_append_of_mem hfeed (Octets.toBytes i.filled.open_)
    exact ⟨hfront.symm, hrest.symm⟩
  · rw [rest, hopen]
    simp [Octets.toBytes]

/-- What is read from the portions that have been taken is what the whole input begins with. -/
theorem ofInput_filled {i : Intake} (h : i.length ≠ 0) :
    Reading.ofInput i.filled.held = Reading.ofInput i.bytes := by
  have hbytes : i.bytes ≠ [] := by
    rw [← List.length_pos_iff, length_bytes]
    exact Nat.pos_of_ne_zero h
  rw [Reading.ofInput, Reading.ofInput, if_neg (held_filled_ne_nil h), if_neg hbytes,
    (front_filled i).1]

theorem length_eq_zero_iff {i : Intake} : i.length = 0 ↔ Line.bodies i.bytes = [] := by
  rw [Line.bodies_eq_nil_iff, ← List.length_eq_zero_iff, length_bytes]

end Intake

/-! ## What is read -/

namespace Reading

/-- How a dialogue ends behind what is read, if it does. -/
def ending? : Reading → Option Ending
  | line text => if text = exitLine then some .left else none
  | malformed => some .malformed
  | endOfInput => some .endOfInput

theorem line_of_ending?_eq_none {r : Reading} (h : r.ending? = none) :
    ∃ text, r = line text ∧ text ≠ exitLine := by
  cases r with
  | line text => exact ⟨text, rfl, fun hexit => by simp [ending?, hexit] at h⟩
  | malformed => cases h
  | endOfInput => cases h

end Reading

namespace Intake

end Intake

/-- The course of a dialogue: the lines that are evaluated, and how it ends. -/
structure Course where
  /-- The lines that do not leave the shell, up to the end. -/
  lines : List String
  /-- How the dialogue ends. -/
  ending : Ending
deriving DecidableEq, Repr

namespace Course

/-- The course of a dialogue in which some lines are read: up to the first one that leaves the shell
or is no text. -/
def ofBodies : List (List UInt8) → Course
  | [] => ⟨[], .endOfInput⟩
  | body :: bodies =>
    match Text.ofUtf8? body with
    | none => ⟨[], .malformed⟩
    | some text =>
      if text = exitLine then ⟨[], .left⟩
      else { ofBodies bodies with lines := text :: (ofBodies bodies).lines }

/-- The course of a dialogue over an input. -/
def ofInput (input : List UInt8) : Course :=
  ofBodies (Line.bodies input)

theorem ofInput_nil : ofInput [] = ⟨[], .endOfInput⟩ := rfl

/-- What is read first ends the dialogue. -/
theorem ofInput_of_ending? {input : List UInt8} {ending : Ending}
    (h : (Reading.ofInput input).ending? = some ending) : ofInput input = ⟨[], ending⟩ := by
  by_cases hinput : input = []
  · subst hinput
    cases h
    rfl
  · rw [Reading.ofInput, if_neg hinput, Line.text?] at h
    rw [ofInput, Line.bodies_eq_cons hinput, ofBodies]
    cases htext : Text.ofUtf8? (Line.strip (Line.front input)) with
    | none =>
        rw [htext] at h
        cases h
        rfl
    | some text =>
        rw [htext, Reading.ending?] at h
        dsimp only at h ⊢
        split at h
        · rename_i hexit
          rw [if_pos hexit]
          cases h
          rfl
        · cases h

/-- What is read first is the first line of the course. -/
theorem ofInput_of_line {input : List UInt8} {text : String}
    (h : Reading.ofInput input = .line text) (hexit : text ≠ exitLine) :
    ofInput input =
      { ofInput (Line.rest input) with lines := text :: (ofInput (Line.rest input)).lines } := by
  by_cases hinput : input = []
  · subst hinput
    cases h
  · rw [Reading.ofInput, if_neg hinput, Line.text?] at h
    rw [ofInput, Line.bodies_eq_cons hinput, ofBodies]
    cases htext : Text.ofUtf8? (Line.strip (Line.front input)) with
    | none =>
        rw [htext] at h
        cases h
    | some text' =>
        rw [htext] at h
        cases h
        exact if_neg hexit

/-- What is read behind the end of a dialogue does not change its course. -/
theorem ofBodies_append {bodies : List (List UInt8)} (h : (ofBodies bodies).ending ≠ .endOfInput)
    (more : List (List UInt8)) : ofBodies (bodies ++ more) = ofBodies bodies := by
  induction bodies with
  | nil => exact absurd rfl h
  | cons body bodies ih =>
      rw [List.cons_append]
      rw [ofBodies] at h ⊢
      rw [ofBodies]
      cases hbody : Text.ofUtf8? body with
      | none => rfl
      | some text =>
          simp only [hbody] at h ⊢
          split
          · rfl
          · rename_i hexit
            rw [if_neg hexit] at h
            rw [ih h]

/-- No byte behind the line that ends a dialogue changes its course. -/
theorem ofInput_append_feed {input : List UInt8}
    (h : (ofInput (input ++ [Line.feed])).ending ≠ .endOfInput) (more : List UInt8) :
    ofInput (input ++ Line.feed :: more) = ofInput (input ++ [Line.feed]) := by
  have hlast : Line.bodies (input ++ [Line.feed]) =
      (input.splitOn Line.feed).map Line.withoutReturn := by
    rw [Line.bodies_append_feed, Line.bodies_nil, List.append_nil]
  rw [ofInput, hlast] at h
  rw [ofInput, ofInput, Line.bodies_append_feed, hlast, ofBodies_append h]

end Course

end LineShell
