import LineShell.Proofs.Output.Accepting

/-!
# Streams that convey what they are given

A stream that works may take its bytes piece by piece and hold some of them back, but it loses none
and adds none: what has reached the descriptor, and behind it what the stream still holds, is all
that was written, in order. A flush leaves nothing held.
-/

namespace LineShell

/-- A way to see streams as working: which of them work, and what these still hold. All operations
keep a stream at work, nothing fails, and no byte is lost or added. -/
structure Conveyance (σ : Type) [OutputStream σ] where
  works : σ → Prop
  held : σ → List UInt8
  write : ∀ {s bytes}, works s → bytes ≠ [] → ∃ n,
    (OutputStream.write s bytes).answer = .ok (n + 1) ∧ works (OutputStream.write s bytes).stream ∧
      (OutputStream.write s bytes).emitted ++ held (OutputStream.write s bytes).stream =
        held s ++ bytes.take (n + 1)
  flush : ∀ {s}, works s → (OutputStream.flush s).WentThrough works ∧
    (OutputStream.flush s).emitted = held s ∧ held (OutputStream.flush s).stream = []

namespace Conveyance

variable {σ : Type} [OutputStream σ] {V : Conveyance σ} {s : σ}

/-- The stream works, and holds nothing back. -/
structure Clear (V : Conveyance σ) (s : σ) : Prop where
  works : V.works s
  held : V.held s = []

/-- An operation has gone through, and the bytes stand behind all that the stream held before. -/
structure Takes (V : Conveyance σ) (e : Emission σ Unit) (s : σ) (bytes : List UInt8) : Prop where
  wentThrough : e.WentThrough V.works
  emitted : e.emitted ++ V.held e.stream = V.held s ++ bytes

theorem takes_writeFrom (bytes : List UInt8) (n : Nat) (hs : V.works s) :
    V.Takes (OutputStream.writeFrom bytes n s) s (bytes.drop n) := by
  induction bytes generalizing n s with
  | nil =>
      rw [List.drop_nil]
      exact ⟨⟨rfl, hs⟩, (List.append_nil _).symm⟩
  | cons b bytes ih =>
      cases n with
      | succ n => exact ih n hs
      | zero =>
          obtain ⟨n, ha, hw, he⟩ := V.write hs (List.cons_ne_nil b bytes)
          rw [OutputStream.writeFrom]
          generalize OutputStream.write s (b :: bytes) = e at ha hw he
          obtain ⟨s', out, answer⟩ := e
          obtain rfl : answer = .ok (n + 1) := ha
          change out ++ V.held s' = V.held s ++ _ at he
          obtain ⟨hthrough, hrest⟩ := ih n hw
          refine ⟨hthrough, ?_⟩
          calc out ++ (OutputStream.writeFrom bytes n s').emitted ++
                V.held (OutputStream.writeFrom bytes n s').stream
              = out ++ V.held s' ++ bytes.drop n := by
                rw [List.append_assoc, hrest, List.append_assoc]
            _ = V.held s ++ b :: bytes := by
                rw [he, List.take_succ_cons, List.append_assoc, List.cons_append,
                  List.take_append_drop]

theorem takes_writeLine (text : String) (hs : V.works s) :
    V.Takes (OutputStream.writeLine s text) s (Text.utf8 (text ++ "\n")) := by
  rw [Text.utf8_append]
  obtain ⟨⟨ha, hw⟩, he⟩ := V.takes_writeFrom (Text.utf8 text) 0 hs
  rw [OutputStream.writeLine, OutputStream.printLine, OutputStream.writeAll]
  generalize OutputStream.writeFrom (Text.utf8 text) 0 s = e at ha hw he
  obtain ⟨s', out, answer⟩ := e
  obtain rfl : answer = .ok () := ha
  obtain ⟨⟨ha', hw'⟩, he'⟩ := V.takes_writeFrom (Text.utf8 "\n") 0 hw
  refine ⟨⟨congrArg OutputStream.ignoreBrokenPipe ha', hw'⟩, ?_⟩
  change out ++ (OutputStream.writeFrom (Text.utf8 "\n") 0 s').emitted ++
    V.held (OutputStream.writeFrom (Text.utf8 "\n") 0 s').stream = _
  change out ++ V.held s' = V.held s ++ Text.utf8 text at he
  rw [List.append_assoc, he', List.drop_zero, ← List.append_assoc, he, List.append_assoc]

end Conveyance

namespace Limited

/-- A stream with no limit on all writes together. -/
structure Roomy (s : Limited) : Prop where
  room : s.room = none
  chunk : s.chunk ≠ some 0
  flushFailure : s.flushFailure = none

theorem exists_write_of_roomy {s : Limited} (h : s.Roomy) (b : UInt8) (bytes : List UInt8) :
    ∃ n, OutputStream.write s (b :: bytes) = ⟨s, b :: bytes.take n, .ok (n + 1)⟩ := by
  obtain ⟨room, chunk, full, flushFailure⟩ := s
  obtain ⟨hroom, hchunk, -⟩ := h
  obtain rfl : room = none := hroom
  cases chunk with
  | none =>
      refine ⟨bytes.length, ?_⟩
      rw [List.take_length]
      rfl
  | some c =>
      obtain ⟨c, rfl⟩ := Nat.exists_eq_succ_of_ne_zero fun hc => hchunk (congrArg some hc)
      refine ⟨min c bytes.length, ?_⟩
      change (⟨_, b :: bytes.take c, .ok ((bytes.take c).length + 1)⟩ : Emission Limited Nat) = _
      rw [List.length_take, ← List.take_eq_take_min]
      rfl

/-- Such a stream works if it takes anything at all, and never holds anything back. -/
def conveyance : Conveyance Limited where
  works := Roomy
  held _ := []
  write := by
    intro s bytes hs hbytes
    obtain ⟨b, bytes, rfl⟩ := List.exists_cons_of_ne_nil hbytes
    obtain ⟨n, hwrite⟩ := exists_write_of_roomy hs b bytes
    rw [hwrite]
    exact ⟨n, rfl, hs, List.append_nil _⟩
  flush := by
    intro s hs
    refine ⟨⟨?_, hs⟩, rfl, rfl⟩
    change (match s.flushFailure with
      | none => Except.ok ()
      | some f => .error f) = _
    rw [hs.flushFailure]

end Limited

/-- A stream that takes all it is given into a buffer. Behind each write some of the first bytes in
the buffer reach the descriptor, as many as are listed for it. -/
structure Buffered where
  held : List UInt8
  drains : List Nat
deriving DecidableEq, Repr

namespace Buffered

def write (s : Buffered) (bytes : List UInt8) : Emission Buffered Nat :=
  let n := s.drains.headD 0
  ⟨⟨(s.held ++ bytes).drop n, s.drains.tail⟩, (s.held ++ bytes).take n, .ok bytes.length⟩

def flush (s : Buffered) : Emission Buffered Unit :=
  ⟨{ s with held := [] }, s.held, .ok ()⟩

instance : OutputStream Buffered where
  write := write
  flush := flush

/-- Such a stream always works. -/
def conveyance : Conveyance Buffered where
  works _ := True
  held := held
  write := by
    intro s bytes _ hbytes
    obtain ⟨b, bytes, rfl⟩ := List.exists_cons_of_ne_nil hbytes
    refine ⟨bytes.length, rfl, trivial, ?_⟩
    rw [← List.length_cons (a := b), List.take_length]
    exact List.take_append_drop _ _
  flush _ := ⟨⟨rfl, trivial⟩, rfl, rfl⟩

end Buffered

end LineShell
