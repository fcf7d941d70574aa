import LineShell.Proofs.Output.Accepting

/-!
# Streams that run full

A stream with a limit passes on the front of whatever it is offered, as far as there is room, in
however many writes that takes. What goes beyond the room is the only reason for a failure.
-/

namespace LineShell

/-- Why a whole text was not written if a write of it fails. A write that takes no byte goes
through, but leaves the text incomplete. -/
def Failure.ofText : Failure → Failure
  | writeZero => incomplete
  | f => f

namespace Limited

open LineShell.OutputStream (writeFrom writeAll printLine writeLine ignoreBrokenPipe)

/-- A stream that has room for so many bytes. -/
def holding (chunk : Option Nat) (full : Failure) (room : Nat) : Limited where
  room := some room
  chunk := chunk
  full := full
  flushFailure := none

/-- So many bytes are more than there is room for, and not for want of a reader. -/
def Overflows (full : Failure) (room length : Nat) : Prop :=
  full ≠ .brokenPipe ∧ room < length

instance (full : Failure) (room length : Nat) : Decidable (Overflows full room length) :=
  inferInstanceAs (Decidable (_ ∧ _))

variable {chunk : Option Nat} {full : Failure}

theorem not_overflows_zero (room : Nat) : ¬ Overflows full room 0 :=
  fun h => Nat.not_lt_zero room h.2

theorem Overflows.add_right {room m : Nat} (h : Overflows full room m) (n : Nat) :
    Overflows full room (m + n) :=
  ⟨h.1, Nat.lt_add_right n h.2⟩

/-- Where the first bytes do not overflow, the next ones do just if all of them do. -/
theorem overflows_add_iff {room m n : Nat} (h : ¬ Overflows full room m) :
    Overflows full room (m + n) ↔ Overflows full (room - m) n := by
  unfold Overflows at *
  refine and_congr_right fun hfull => ?_
  have hroom : ¬ room < m := fun hroom => h ⟨hfull, hroom⟩
  omega

theorem write_holding_zero (bs : List UInt8) :
    OutputStream.write (holding chunk full 0) bs =
      ⟨holding chunk full 0, [], if full = .writeZero then .ok 0 else .error full⟩ := rfl

theorem exists_portion_holding_succ (full : Failure) (hchunk : chunk ≠ some 0) (b : UInt8)
    (bs : List UInt8) (room : Nat) :
    ∃ n ≤ room, portion (holding chunk full (room + 1)) (b :: bs) = b :: bs.take n := by
  cases chunk with
  | none => exact ⟨room, Nat.le_refl _, rfl⟩
  | some c =>
      obtain ⟨c, rfl⟩ := Nat.exists_eq_succ_of_ne_zero fun h => hchunk (congrArg some h)
      refine ⟨min room c, Nat.min_le_left _ _, ?_⟩
      simp [portion, portion.cut, holding, List.take_take]

/-- While there is room a write takes at least one byte. -/
theorem exists_write_holding_succ (full : Failure) (hchunk : chunk ≠ some 0) (b : UInt8)
    (bs : List UInt8) (room : Nat) :
    ∃ n ≤ room, n ≤ bs.length ∧ OutputStream.write (holding chunk full (room + 1)) (b :: bs) =
      ⟨holding chunk full (room - n), b :: bs.take n, .ok (n + 1)⟩ := by
  obtain ⟨n, hn, hportion⟩ := exists_portion_holding_succ full hchunk b bs room
  refine ⟨(bs.take n).length, ?_, List.length_take_le' n bs, ?_⟩
  · exact Nat.le_trans (List.length_take_le n bs) hn
  · have htake : bs.take (bs.take n).length = bs.take n := by
      rw [List.length_take, ← List.take_eq_take_min]
    rw [htake]
    change write _ _ = _
    rw [write, if_neg (by simp [holding]), hportion]
    simp [holding]

theorem piped_holding (hchunk : chunk ≠ some 0) :
    OutputStream.Piped fun s => ∃ room, s = holding chunk .brokenPipe room where
  write := by
    rintro _ bs ⟨room, rfl⟩ hbs
    obtain ⟨b, bs, rfl⟩ := List.exists_cons_of_ne_nil hbs
    cases room with
    | zero => exact ⟨.inr ⟨_, rfl, rfl⟩, 0, rfl⟩
    | succ room =>
        obtain ⟨n, -, -, hwrite⟩ := exists_write_holding_succ .brokenPipe hchunk b bs room
        rw [hwrite]
        exact ⟨.inl ⟨n, rfl⟩, _, rfl⟩
  flush := by
    rintro _ ⟨room, rfl⟩
    exact ⟨rfl, room, rfl⟩

theorem writeFrom_holding (hchunk : chunk ≠ some 0) (bs : List UInt8) (n room : Nat) :
    writeFrom bs n (holding chunk full room) =
      ⟨holding chunk full (room - (bs.length - n)), (bs.drop n).take room,
        if bs.length - n ≤ room then .ok () else .error full.ofText⟩ := by
  induction bs generalizing n room with
  | nil => simp [writeFrom]
  | cons b bs ih =>
      cases n with
      | succ n => simpa [writeFrom] using ih n room
      | zero =>
          cases room with
          | zero =>
              rw [writeFrom, write_holding_zero]
              cases full <;> simp [Failure.ofText]
          | succ room =>
              obtain ⟨n, hn, hlength, hwrite⟩ := exists_write_holding_succ full hchunk b bs room
              -- What is left of the room after the write is what the rest of the bytes is cut at.
              have hrest : bs.take room = bs.take n ++ (bs.drop n).take (room - n) := by
                rw [← List.take_add, Nat.add_sub_cancel' hn]
              have hroom : room - n - (bs.length - n) = room - bs.length := by omega
              have hfits : bs.length - n ≤ room - n ↔ bs.length ≤ room := by omega
              rw [writeFrom, hwrite]
              simp only [ih, hroom, hfits, List.drop_zero, List.take_succ_cons, hrest,
                List.length_cons, Nat.add_le_add_iff_right, Nat.add_sub_add_right, Nat.sub_zero,
                List.cons_append]

/-- Of a text as much is passed on as there is room for. -/
theorem writeAll_holding (hchunk : chunk ≠ some 0) (bs : List UInt8) (room : Nat) :
    writeAll (holding chunk full room) bs =
      ⟨holding chunk full (room - bs.length), bs.take room,
        if bs.length ≤ room then .ok () else .error full.ofText⟩ :=
  writeFrom_holding hchunk bs 0 room

theorem ignoreBrokenPipe_ite (full : Failure) (length room : Nat) :
    ignoreBrokenPipe (if length ≤ room then .ok () else .error full.ofText) =
      if Overflows full room length then .error full.ofText else .ok () := by
  by_cases hlength : length ≤ room
  · rw [if_pos hlength, if_neg fun h => Nat.not_lt.mpr hlength h.2]
    rfl
  · rw [if_neg hlength]
    cases full <;> simp [Overflows, Nat.not_le.mp hlength, Failure.ofText, ignoreBrokenPipe]

/-- Of a line with its line feed as much is passed on as there is room for. -/
theorem writeLine_holding (hchunk : chunk ≠ some 0) (text : String) (room : Nat) :
    let line := Text.utf8 text ++ Text.utf8 "\n"
    writeLine (holding chunk full room) text =
      ⟨holding chunk full (room - line.length), line.take room,
        if Overflows full room line.length then .error full.ofText else .ok ()⟩ := by
  intro line
  have hlength : line.length = (Text.utf8 text).length + (Text.utf8 "\n").length :=
    List.length_append
  rw [writeLine, printLine, writeAll_holding hchunk]
  by_cases htext : (Text.utf8 text).length ≤ room
  · have hfits : ¬ Overflows full room (Text.utf8 text).length :=
      fun h => Nat.not_lt.mpr htext h.2
    rw [if_pos htext]
    simp only [writeAll_holding hchunk, ignoreBrokenPipe_ite, ← overflows_add_iff hfits, hlength,
      Nat.sub_sub, line, List.take_append]
  · -- The line feed is left out, and there is no room for it either.
    have hanswer := ignoreBrokenPipe_ite full (Text.utf8 text).length room
    have hoverflows : Overflows full room (Text.utf8 text).length ↔
        Overflows full room line.length := and_congr_right fun _ => by omega
    have hroom : room - (Text.utf8 text).length = room - line.length := by omega
    rw [if_neg htext] at hanswer ⊢
    simp only [hanswer, hoverflows, hroom, line,
      List.take_append_of_le_length (Nat.le_of_not_le htext)]

end Limited

end LineShell
