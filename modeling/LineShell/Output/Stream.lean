import LineShell.Output.Failure
import LineShell.Text.Utf8

/-!
# Output streams

A stream stands before file descriptor 1. A write takes some of the bytes it is given, or fails; a
flush pushes out whatever the stream still holds, or fails. In either, bytes may reach the
descriptor. Whole texts are written by repeating single writes.
-/

namespace LineShell

/-- What one operation of a stream does: the stream after it, the bytes that reached the descriptor
in it, and its answer. -/
structure Emission (σ α : Type) where
  /-- The stream after the operation. -/
  stream : σ
  /-- The bytes that reached the descriptor. -/
  emitted : List UInt8
  /-- The answer, or why there is none. -/
  answer : Except Failure α

/-- Streams of bytes that may take only a part of what they are given, and may fail. -/
class OutputStream (σ : Type) where
  /-- Offers bytes; answers how many of them, from the front, the stream took. -/
  write : σ → List UInt8 → Emission σ Nat
  /-- Pushes out what the stream holds. -/
  flush : σ → Emission σ Unit

namespace OutputStream

variable {σ : Type} [OutputStream σ]

/-- Offers the bytes that stand behind the first `taken` ones until the stream has taken them all,
each write from where the last one stopped. A failure ends it, and so does a write that takes
nothing. -/
def writeFrom : List UInt8 → Nat → σ → Emission σ Unit
  | [], _, s => ⟨s, [], .ok ()⟩
  | _ :: bs, taken + 1, s => writeFrom bs taken s
  | b :: bs, 0, s =>
    match write s (b :: bs) with
    | ⟨s, out, .error f⟩ => ⟨s, out, .error f⟩
    | ⟨s, out, .ok 0⟩ => ⟨s, out, .error .incomplete⟩
    | ⟨s, out, .ok (taken + 1)⟩ =>
      let rest := writeFrom bs taken s
      { rest with emitted := out ++ rest.emitted }

/-- Writes all of the bytes. -/
def writeAll (s : σ) (bs : List UInt8) : Emission σ Unit :=
  writeFrom bs 0 s

/-- Writes a text and then a line feed; a failure in the text leaves the line feed out. -/
def printLine (s : σ) (text : String) : Emission σ Unit :=
  match writeAll s (Text.utf8 text) with
  | ⟨s, out, .error f⟩ => ⟨s, out, .error f⟩
  | ⟨s, out, .ok ()⟩ =>
    let feed := writeAll s (Text.utf8 "\n")
    { feed with emitted := out ++ feed.emitted }

/-- A reader that went away is no failure. -/
def ignoreBrokenPipe : Except Failure Unit → Except Failure Unit
  | .error .brokenPipe => .ok ()
  | r => r

/-- Writes a text and then a line feed. A reader that went away is no failure. -/
def writeLine (s : σ) (text : String) : Emission σ Unit :=
  let line := printLine s text
  { line with answer := ignoreBrokenPipe line.answer }

theorem writeFrom_eq_writeAll_drop (bs : List UInt8) (n : Nat) (s : σ) :
    writeFrom bs n s = writeAll s (bs.drop n) := by
  induction bs generalizing n with
  | nil => simp [writeAll, writeFrom]
  | cons b bs ih =>
    cases n with
    | zero => rfl
    | succ n => simpa [writeFrom] using ih n

end OutputStream

end LineShell
