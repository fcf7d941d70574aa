import LineShell.Output.Limited

/-!
# Streams that accept whatever they are offered

A stream may hold bytes back, and a write may take only some of them; but if no write takes nothing
and nothing fails, every text is written in full. The stream without limits is such a stream.
-/

namespace LineShell

variable {σ : Type}

/-- An operation went through and left a stream with a property. -/
def Emission.WentThrough (W : σ → Prop) (e : Emission σ Unit) : Prop :=
  e.answer = .ok () ∧ W e.stream

namespace OutputStream

variable [OutputStream σ] {W : σ → Prop}

/-- Under a property of the stream, which writes keep, a write takes some of what it is offered or
fails for such a reason. -/
def Writes (F : Failure → Prop) (W : σ → Prop) : Prop :=
  ∀ {s bs}, W s → bs ≠ [] →
    ((∃ n, (write s bs).answer = .ok (n + 1)) ∨ ∃ f, F f ∧ (write s bs).answer = .error f) ∧
      W (write s bs).stream

theorem Writes.writeFrom {F : Failure → Prop} (hW : Writes F W) (bs : List UInt8) (n : Nat) {s : σ}
    (hs : W s) :
    ((writeFrom bs n s).answer = .ok () ∨ ∃ f, F f ∧ (writeFrom bs n s).answer = .error f) ∧
      W (writeFrom bs n s).stream := by
  induction bs generalizing n s with
  | nil => exact ⟨.inl rfl, hs⟩
  | cons b bs ih =>
      cases n with
      | succ n => exact ih n hs
      | zero =>
          obtain ⟨ha, hw⟩ := hW hs (List.cons_ne_nil b bs)
          rw [OutputStream.writeFrom]
          generalize OutputStream.write s (b :: bs) = e at ha hw
          obtain ⟨s', out, answer⟩ := e
          rcases ha with ⟨n, rfl⟩ | ⟨f, hf, rfl⟩
          · exact ih n hw
          · exact ⟨.inr ⟨f, hf, rfl⟩, hw⟩

/-- A property that writes and flushes keep, and under which none of them fails. -/
structure Accepting (W : σ → Prop) : Prop where
  write : ∀ {s bs}, W s → bs ≠ [] →
    (∃ n, (write s bs).answer = .ok (n + 1)) ∧ W (write s bs).stream
  flush : ∀ {s}, W s → (flush s).WentThrough W

theorem Accepting.writes (hW : Accepting W) : Writes (fun _ => False) W :=
  fun hs hbs => (hW.write hs hbs).imp_left .inl

theorem Accepting.writeAll (hW : Accepting W) (bs : List UInt8) {s : σ} (hs : W s) :
    (writeAll s bs).WentThrough W := by
  obtain ⟨ha | ⟨f, hf, -⟩, hw⟩ := Writes.writeFrom hW.writes bs 0 hs
  · exact ⟨ha, hw⟩
  · cases hf

/-- A property that writes and flushes keep, and under which nothing fails but writes for want of a
reader. -/
structure Piped (W : σ → Prop) : Prop where
  write : Writes (· = .brokenPipe) W
  flush : ∀ {s}, W s → (flush s).WentThrough W

theorem Accepting.piped (hW : Accepting W) : Piped W where
  write hs hbs := (hW.write hs hbs).imp_left .inl
  flush hs := hW.flush hs

theorem Writes.printLine {F : Failure → Prop} (hW : Writes F W) (text : String) {s : σ}
    (hs : W s) :
    ((printLine s text).answer = .ok () ∨ ∃ f, F f ∧ (printLine s text).answer = .error f) ∧
      W (printLine s text).stream := by
  obtain ⟨ha, hw⟩ := hW.writeFrom (Text.utf8 text) 0 hs
  rw [OutputStream.printLine, writeAll]
  generalize OutputStream.writeFrom (Text.utf8 text) 0 s = e at ha hw
  obtain ⟨s', out, answer⟩ := e
  rcases ha with rfl | ⟨f, hf, rfl⟩
  · exact hW.writeFrom (Text.utf8 "\n") 0 hw
  · exact ⟨.inr ⟨f, hf, rfl⟩, hw⟩

/-- A line that is cut for want of a reader has gone through. -/
theorem Writes.writeLine (hW : Writes (· = .brokenPipe) W) (text : String) {s : σ} (hs : W s) :
    (writeLine s text).WentThrough W := by
  obtain ⟨ha, hw⟩ := hW.printLine text hs
  refine ⟨?_, hw⟩
  change ignoreBrokenPipe (OutputStream.printLine s text).answer = .ok ()
  rcases ha with ha | ⟨f, rfl, ha⟩
  · rw [ha]
    rfl
  · rw [ha]
    rfl

theorem Accepting.printLine (hW : Accepting W) (text : String) {s : σ} (hs : W s) :
    (printLine s text).WentThrough W := by
  obtain ⟨ha | ⟨f, hf, -⟩, hw⟩ := Writes.printLine hW.writes text hs
  · exact ⟨ha, hw⟩
  · cases hf

theorem Accepting.writeLine (hW : Accepting W) (text : String) {s : σ} (hs : W s) :
    (writeLine s text).WentThrough W :=
  Writes.writeLine hW.piped.write text hs

end OutputStream

namespace Limited

theorem write_unlimited (bs : List UInt8) :
    OutputStream.write unlimited bs = ⟨unlimited, bs, .ok bs.length⟩ := rfl

theorem accepting_unlimited : OutputStream.Accepting (· = unlimited) where
  write := by
    rintro _ bs rfl hbs
    obtain ⟨b, bs, rfl⟩ := List.exists_cons_of_ne_nil hbs
    exact ⟨⟨bs.length, rfl⟩, rfl⟩
  flush := by
    rintro _ rfl
    exact ⟨rfl, rfl⟩

theorem writeAll_unlimited (bs : List UInt8) :
    OutputStream.writeAll unlimited bs = ⟨unlimited, bs, .ok ()⟩ := by
  cases bs with
  | nil => rfl
  | cons b bs =>
      rw [OutputStream.writeAll, OutputStream.writeFrom, write_unlimited]
      simp only [List.length_cons, OutputStream.writeFrom_eq_writeAll_drop, List.drop_length]
      rw [OutputStream.writeAll, OutputStream.writeFrom, List.append_nil]

theorem printLine_unlimited (text : String) :
    OutputStream.printLine unlimited text =
      ⟨unlimited, Text.utf8 text ++ Text.utf8 "\n", .ok ()⟩ := by
  simp only [OutputStream.printLine, writeAll_unlimited]

theorem writeLine_unlimited (text : String) :
    OutputStream.writeLine unlimited text =
      ⟨unlimited, Text.utf8 text ++ Text.utf8 "\n", .ok ()⟩ := by
  simp only [OutputStream.writeLine, printLine_unlimited]
  rfl

end Limited

end LineShell
