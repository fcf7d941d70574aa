import LineShell.Output.Stream

/-!
# Limited streams

A limited stream passes bytes straight on to the descriptor. It takes at most so many bytes in one
write and so many in all; once it is full every write fails.
-/

namespace LineShell

/-- A stream with a limit on one write and a limit on all writes together. -/
structure Limited where
  /-- The number of bytes it still takes, or `none` for any number. -/
  room : Option Nat
  /-- The greatest number of bytes that one write takes, or `none` for any number. -/
  chunk : Option Nat
  /-- Why a write fails once there is no room. -/
  full : Failure
  /-- Why a flush fails, or `none` when it succeeds. -/
  flushFailure : Option Failure
deriving DecidableEq, Repr

namespace Limited

/-- A stream that takes everything. -/
def unlimited : Limited where
  room := none
  chunk := none
  full := .other
  flushFailure := none

/-- The bytes, from the front, that one write takes while there is room. -/
def portion (s : Limited) (bs : List UInt8) : List UInt8 :=
  cut s.room (cut s.chunk bs)
where
  /-- As many bytes as a limit allows. -/
  cut (limit : Option Nat) (bs : List UInt8) : List UInt8 :=
    match limit with
    | none => bs
    | some n => bs.take n

/-- A write passes on as many bytes as the limits allow. A full stream whose reason is that it
takes no more bytes answers that it took none; for any other reason it fails. -/
def write (s : Limited) (bs : List UInt8) : Emission Limited Nat :=
  if s.room = some 0 then
    ⟨s, [], if s.full = .writeZero then .ok 0 else .error s.full⟩
  else
    let out := s.portion bs
    ⟨{ s with room := s.room.map (· - out.length) }, out, .ok out.length⟩

/-- A flush has nothing to push out. -/
def flush (s : Limited) : Emission Limited Unit :=
  ⟨s, [], match s.flushFailure with
    | none => .ok ()
    | some f => .error f⟩

instance : OutputStream Limited where
  write := write
  flush := flush

end Limited

end LineShell
