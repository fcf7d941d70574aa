import LineShell.Proofs.History.Log
import LineShell.Proofs.Shell.Recording

/-!
# Shells that evaluate lines

Whatever lines a shell evaluates, on whatever stream, and whatever becomes of its children
meanwhile: what its history holds could be typed again. It is short enough, it does not leave the
shell, it has a word to run, and it recalls nothing.
-/

namespace LineShell

open LineShell.Action

variable {σ : Type} [OutputStream σ] {settings : Settings} {s : Shell σ}

/-- A host whose programs write the words they are given. -/
def Host.echoing : Host where
  fork attempts _ := .ok (attempts + 1)
  exec argv := some { output := Text.utf8 (" ".intercalate argv) }

namespace Shell

/-- The shells that a new one becomes by evaluating lines within its limit and by collecting
children, while children end. -/
inductive Reachable (settings : Settings) : Shell σ → Prop where
  | new (stream : σ) : Reachable settings (ofSettings settings stream)
  | evaluate {s : Shell σ} (host : Host) (line : String) :
      Reachable settings s →
        Reachable settings ((Shell.evaluate host settings.lineLimit line).run s).shell
  | collect {s : Shell σ} : Reachable settings s → Reachable settings (Shell.collect.run s).shell
  | idle {s : Shell σ} (change : ChildTable → ChildTable) :
      Reachable settings s → Reachable settings ((Shell.idle change).run s).shell

/-- A shell after some lines have been evaluated in turn. -/
def evaluateAll (s : Shell σ) (host : Host) (limit : Nat) (lines : List String) : Shell σ :=
  lines.foldl (fun s line => ((Shell.evaluate host limit line).run s).shell) s

theorem Reachable.evaluateAll (h : Reachable settings s) (host : Host) (lines : List String) :
    Reachable settings (s.evaluateAll host settings.lineLimit lines) := by
  induction lines generalizing s with
  | nil => exact h
  | cons line lines ih => exact ih (h.evaluate host line)

/-- A text that a history can hold if a line may have so many bytes. -/
structure Keepable (limit : Nat) (text : String) : Prop where
  size_le : text.utf8ByteSize ≤ limit
  ne_exit : text ≠ exitLine
  runs : ∃ word words, (Command.ofLine text).argv = word :: words ∧ ¬ EventId.IsRecall word

theorem Keepable.argv_ne_nil {limit : Nat} {text : String} (h : Keepable limit text) :
    (Command.ofLine text).argv ≠ [] := by
  obtain ⟨word, words, hargv, -⟩ := h.runs
  rw [hargv]
  exact List.cons_ne_nil word words

/-! ## What is recorded can be kept -/

theorem keepable_historyLine {limit : Nat} (h : historyLine.utf8ByteSize ≤ limit) :
    Keepable limit historyLine where
  size_le := h
  ne_exit := by decide
  runs := ⟨historyLine, [], by decide, by decide⟩

omit [OutputStream σ] in
/-- If what the history holds can be kept, so can what a line puts into it. -/
theorem keepable_of_recordedBy? {limit : Nat} {line text : String}
    (hs : ∀ e, some e ∈ s.history.slots → Keepable limit e.text)
    (h : s.recordedBy? limit line = some text) : Keepable limit text := by
  rw [recordedBy?] at h
  split_ifs at h with hstop hline
  · rw [not_or, Nat.not_lt] at hstop
    obtain rfl : line = text := Option.some.inj h
    rw [hline] at hstop ⊢
    exact keepable_historyLine hstop.2
  rw [not_or, Nat.not_lt] at hstop
  split at h
  · cases h
  · rename_i word words hargv
    split_ifs at h with hrecall
    · rw [Option.bind_eq_some_iff] at h
      obtain ⟨e, hfind, he⟩ := h
      split_ifs at he with hblank
      obtain rfl : e.text = text := Option.some.inj he
      exact hs e (Ring.mem_slots_of_mem_toList (List.mem_of_find?_eq_some hfind))
    · obtain rfl : line = text := Option.some.inj h
      exact ⟨hstop.2, hstop.1, word, words, hargv, hrecall⟩

omit [OutputStream σ] in
/-- A line puts itself into the history, or a text that is there already. -/
theorem text_of_recordedBy? {limit : Nat} {line text : String}
    (h : s.recordedBy? limit line = some text) :
    text = line ∨ ∃ e, some e ∈ s.history.slots ∧ e.text = text := by
  rw [recordedBy?] at h
  split_ifs at h with hstop hline
  · exact .inl (Option.some.inj h).symm
  split at h
  · cases h
  · split_ifs at h with hrecall
    · rw [Option.bind_eq_some_iff] at h
      obtain ⟨e, hfind, he⟩ := h
      split_ifs at he with hblank
      have hslot := Ring.mem_slots_of_mem_toList (List.mem_of_find?_eq_some hfind)
      exact .inr ⟨e, hslot, Option.some.inj he⟩
    · exact .inl (Option.some.inj h).symm

/-- All texts in the history have a property. -/
def Stocks (P : String → Prop) (s : Shell σ) : Prop :=
  ∀ e, some e ∈ s.history.slots → P e.text

omit [OutputStream σ] in
theorem stocks_ofSettings {P : String → Prop} {stream : σ} :
    (ofSettings settings stream).Stocks P :=
  fun _ he => nomatch (Array.mem_replicate.mp he).2

/-- What holds of the texts in the history and of the one that a line puts there holds of all texts
afterwards. -/
theorem Stocks.evaluate {P : String → Prop} {limit : Nat} {host : Host} {line : String}
    (hs : s.Stocks P) (h : ∀ text, s.recordedBy? limit line = some text → P text) :
    ((Shell.evaluate host limit line).run s).shell.Stocks P := by
  intro e he
  cases htext : s.recordedBy? limit line with
  | none =>
      rw [history_evaluate_of_none htext] at he
      exact hs e he
  | some text =>
      rcases records_evaluate host htext with hh | ⟨hh, -⟩
      · rw [hh] at he
        rcases Ring.mem_slots_insert he with he | rfl
        · exact hs e he
        · exact h _ htext
      · rw [hh] at he
        exact hs e he

theorem Reachable.keepable_of_mem_slots (h : Reachable settings s) :
    s.Stocks (Keepable settings.lineLimit) := by
  induction h with
  | new stream => exact stocks_ofSettings
  | evaluate host line _ ih => exact ih.evaluate fun _ => keepable_of_recordedBy? ih
  | collect _ ih =>
      rw [Stocks, keepsHistory_collect]
      exact ih
  | idle change _ ih => exact ih

/-- A line puts at most one text into the history. -/
theorem exists_texts_evaluate {capacity : Nat}
    (h : ∃ texts, s.history = Ring.ofTexts capacity texts) (host : Host) (limit : Nat)
    (line : String) : ∃ texts, ((Shell.evaluate host limit line).run s).shell.history =
      Ring.ofTexts capacity texts := by
  obtain ⟨texts, h⟩ := h
  cases htext : s.recordedBy? limit line with
  | none => exact ⟨texts, (history_evaluate_of_none htext).trans h⟩
  | some text =>
      rcases records_evaluate host htext with hh | ⟨hh, -⟩
      · refine ⟨texts ++ [text], ?_⟩
        rw [hh, h, Ring.ofTexts, Ring.ofTexts, List.foldl_append]
        rfl
      · exact ⟨texts, hh.trans h⟩

/-- The history of such a shell is that of a new one into which lines have been put. -/
theorem Reachable.exists_texts (h : Reachable settings s) :
    ∃ texts, s.history = Ring.ofTexts settings.historyCapacity texts := by
  induction h with
  | new stream => exact ⟨[], rfl⟩
  | evaluate host line _ ih => exact exists_texts_evaluate ih host _ line
  | collect _ ih =>
      rw [keepsHistory_collect]
      exact ih
  | idle change _ ih =>
      rw [keepsHistory_idle]
      exact ih

/-- All that is stored can be kept. So a line that recalls something runs it, and what it runs is no
line that is too long, leaves the shell or recalls something in turn. -/
theorem Reachable.keepable_of_stored (h : Reachable settings s) :
    (∀ e, e ∈ s.history.toList ∨ some e ∈ s.history.slots →
      e.text.utf8ByteSize ≤ settings.lineLimit ∧ e.text ≠ exitLine ∧
        ∃ word words, (Command.ofLine e.text).argv = word :: words ∧ ¬ EventId.IsRecall word) ∧
    ∀ host id line e, s.history.find? id = some e →
      Keepable settings.lineLimit e.text ∧
      (replay host id line).run s =
        (note (.recalled id e.text) >>= fun _ =>
          execute host (Command.ofLine e.text).argv e.text
            (Command.ofLine e.text).background).run s := by
  refine ⟨?_, ?_⟩
  · intro e he
    have hslot : some e ∈ s.history.slots := he.elim Ring.mem_slots_of_mem_toList id
    obtain ⟨hsize, hexit, hruns⟩ := h.keepable_of_mem_slots e hslot
    exact ⟨hsize, hexit, hruns⟩
  · intro host id line e hfind
    have hkeep := h.keepable_of_mem_slots e
      (Ring.mem_slots_of_mem_toList (List.mem_of_find?_eq_some hfind))
    exact ⟨hkeep, by rw [run_replay_of_some hfind, if_neg hkeep.argv_ne_nil]⟩

/-- A shell that keeps two lines of at most seven bytes, after a listing and a recall. -/
theorem Reachable.keepable_of_stored_small :
    ∃ (settings : Settings) (s : Shell Limited), settings.lineLimit = 7 ∧ Reachable settings s ∧
      s.history.toList = [⟨2, "history"⟩, ⟨3, "true"⟩] ∧
      "history".utf8ByteSize ≤ settings.lineLimit ∧ "history" ≠ exitLine ∧
        ∃ word words, (Command.ofLine "history").argv = word :: words ∧
          ¬ EventId.IsRecall word := by
  let settings : Settings := { historyCapacity := 2, lineLimit := 7 }
  have hs := (Reachable.new Limited.unlimited : Reachable settings _).evaluateAll Host.echoing
    ["true", "history", "!1 x &"]
  refine ⟨settings, _, rfl, hs, by decide +kernel, ?_⟩
  exact (Reachable.keepable_of_stored hs).1 ⟨2, "history"⟩ (.inl (by decide +kernel))

end Shell

end LineShell
