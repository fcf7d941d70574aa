import LineShell.Proofs.Shell.Completion
import LineShell.Proofs.Shell.Reachable

/-!
# Recalling a line

A line that recalls a stored text does what that text would do if it were typed. The two differ only
in what is reported on the side.
-/

namespace LineShell

open LineShell.Action

/-- Whether an effect is a report on the side. -/
def Effect.isReport : Effect → Bool
  | noted _ => true
  | _ => false

/-- What happens apart from reports on the side: what is written, and which children are created and
collected. -/
def Trace.deeds (t : Trace) : Trace :=
  t.filter fun e => !e.isReport

variable {σ : Type} [OutputStream σ] {settings : Settings} {s : Shell σ} {host : Host}

namespace Shell

variable {limit : Nat} {line : String} {id : Nat} {e : Entry Nat}

theorem ne_exitLine_of_recalled? (h : (Command.ofLine line).recalled? = some id) :
    line ≠ exitLine := by
  rintro rfl
  have hnone : (Command.ofLine exitLine).recalled? = none := by decide
  rw [hnone] at h
  cases h

theorem ne_historyLine_of_recalled? (h : (Command.ofLine line).recalled? = some id) :
    line ≠ historyLine := by
  rintro rfl
  have hnone : (Command.ofLine historyLine).recalled? = none := by decide
  rw [hnone] at h
  cases h

theorem evaluate_of_recalled? (hsize : line.utf8ByteSize ≤ limit)
    (h : (Command.ofLine line).recalled? = some id) :
    (evaluate host limit line : Action σ Flow) =
      replay host id line >>= fun _ => pure .stay := by
  obtain ⟨word, words, hargv, hword, rfl⟩ := Command.recalled?_eq_some_iff.mp h
  rw [evaluate_of_ne_exit (ne_exitLine_of_recalled? h), if_neg (Nat.not_lt.mpr hsize), perform,
    if_neg (ne_historyLine_of_recalled? h)]
  simp only [hargv]
  rw [if_pos hword]

omit [OutputStream σ] in
/-- The text that a recall records is the recalled one. -/
theorem recordedBy?_of_recalled? (hsize : line.utf8ByteSize ≤ limit)
    (h : (Command.ofLine line).recalled? = some id) (hfind : s.history.find? id = some e)
    (he : Keepable limit e.text) : s.recordedBy? limit line = some e.text := by
  obtain ⟨word, words, hargv, hword, rfl⟩ := Command.recalled?_eq_some_iff.mp h
  have hstop : ¬ (line = exitLine ∨ limit < line.utf8ByteSize) :=
    not_or.mpr ⟨ne_exitLine_of_recalled? h, Nat.not_lt.mpr hsize⟩
  rw [recordedBy?, if_neg hstop, if_neg (ne_historyLine_of_recalled? h)]
  simp only [hargv]
  rw [if_pos hword, hfind, Option.bind_some, if_neg he.argv_ne_nil]

/-- A text that can be kept is run when it is typed. -/
theorem evaluate_of_keepable {text : String} (h : Keepable limit text) :
    (evaluate host limit text : Action σ Flow) =
      execute host (Command.ofLine text).argv text (Command.ofLine text).background >>=
        fun _ => pure .stay := by
  obtain ⟨word, words, hargv, hword⟩ := h.runs
  rw [evaluate_of_ne_exit h.ne_exit, if_neg (Nat.not_lt.mpr h.size_le), perform, execute]
  by_cases hhistory : text = historyLine
  · rw [if_pos hhistory, if_pos hhistory]
  · rw [if_neg hhistory, if_neg hhistory]
    simp only [hargv]
    rw [if_neg hword, execute, if_neg hhistory]

/-- A recall is reported, and is then what the recalled text would be. -/
theorem run_evaluate_of_recalled? (hsize : line.utf8ByteSize ≤ limit)
    (h : (Command.ofLine line).recalled? = some id) (hfind : s.history.find? id = some e)
    (he : Keepable limit e.text) :
    (evaluate host limit line).run s =
      { (evaluate host limit e.text).run s with
        trace := .noted (.recalled id e.text) ::
          ((evaluate host limit e.text).run s).trace } := by
  have hreplay : (replay host id line).run s =
      (note (.recalled id e.text) >>= fun _ =>
        execute host (Command.ofLine e.text).argv e.text
          (Command.ofLine e.text).background).run s := by
    rw [run_replay_of_some hfind, if_neg he.argv_ne_nil]
  rw [evaluate_of_recalled? hsize h, evaluate_of_keepable he, run_bind, hreplay, ← run_bind,
    bind_assoc]
  exact run_tell_bind _ _ _

/-- The last entries of a log and one more are the last ones of them all. -/
theorem rtake_rtake_append_singleton {α : Type} (as : List α) (a : α) {n : Nat} (hn : 0 < n) :
    (as.rtake n ++ [a]).rtake n = (as ++ [a]).rtake n := by
  obtain ⟨n, rfl⟩ := Nat.exists_eq_add_one.mpr hn
  rw [List.rtake_concat_succ, List.rtake_concat_succ, List.rtake_eq_reverse_take_reverse,
    List.rtake_eq_reverse_take_reverse, List.rtake_eq_reverse_take_reverse, List.reverse_reverse,
    List.take_take, Nat.min_eq_left (Nat.le_succ n)]

/-- Keeping a text adds it to the entries, of which only the last ones are shown. -/
theorem Reachable.toList_insert (hs : Reachable settings s) (text : String) :
    (s.history.insert text).toList =
      (s.history.toList ++ [(⟨s.history.nextId, text⟩ : Entry Nat)]).rtake
        settings.historyCapacity := by
  obtain ⟨texts, htexts⟩ := hs.exists_texts
  have hshows := Ring.shows_ofTexts settings.historyCapacity_pos texts
  rw [← htexts] at hshows
  rw [(hshows.insert settings.historyCapacity_pos text).toList, hshows.toList, hshows.nextId,
    log_append_singleton, rtake_rtake_append_singleton _ _ settings.historyCapacity_pos]

/-- To recall a stored text is to type it: the answer, the shell and all that is done are the same,
and the text is kept once more, under the next number. Nothing behind the first word of the line
that recalls it matters. -/
theorem Reachable.evaluate_recall (hs : Reachable settings s) (host : Host) {word : String}
    {words : List String} (hsize : line.utf8ByteSize ≤ settings.lineLimit)
    (hargv : (Command.ofLine line).argv = word :: words) (hword : EventId.IsRecall word)
    (hfind : s.history.find? (EventId.ofWord word) = some e) :
    let o := (Shell.evaluate host settings.lineLimit line).run s
    let p := (Shell.evaluate host settings.lineLimit e.text).run s
    o.answer = p.answer ∧ o.shell = p.shell ∧ o.trace.deeds = p.trace.deeds ∧
    o.Records s.history e.text ∧
    (s.history.insert e.text).nextId = s.history.nextId + 1 ∧
    (s.history.insert e.text).toList =
      (s.history.toList ++ [{ e with id := s.history.nextId }]).rtake settings.historyCapacity ∧
    (∀ W, OutputStream.Accepting W → W s.stream → host.Forks →
      o.answer = .ok .stay ∧ o.shell.history = s.history.insert e.text) ∧
    ∀ tail, (Lexer.empty.run line.toList).quoting = .bare → Lexer.IsSequel tail.toList →
      (line ++ tail).utf8ByteSize ≤ settings.lineLimit →
      (Shell.evaluate host settings.lineLimit (line ++ tail)).run s = o := by
  intro o p
  have hkeep : Keepable settings.lineLimit e.text :=
    hs.keepable_of_mem_slots e (Ring.mem_slots_of_mem_toList (List.mem_of_find?_eq_some hfind))
  have hrecalled : (Command.ofLine line).recalled? = some (EventId.ofWord word) := by
    rw [Command.recalled?, hargv, List.head?_cons, Option.bind_some, EventId.ofWord?, if_pos hword]
  have ho : o = { p with trace := .noted (.recalled (EventId.ofWord word) e.text) :: p.trace } :=
    run_evaluate_of_recalled? hsize hrecalled hfind hkeep
  have hrecords : o.Records s.history e.text :=
    records_evaluate host (recordedBy?_of_recalled? hsize hrecalled hfind hkeep)
  refine ⟨by rw [ho], by rw [ho], by rw [ho]; rfl, hrecords,
    Ring.nextId_insert _ _, hs.toList_insert e.text, ?_, ?_⟩
  · intro W hW hstream hforks
    have hstay : o.answer = .ok .stay :=
      answer_evaluate_of_ne_exit hW hforks hstream (ne_exitLine_of_recalled? hrecalled)
    refine ⟨hstay, hrecords.resolve_right ?_⟩
    rintro ⟨-, fault, hfault⟩
    rw [hstay] at hfault
    cases hfault
  · intro tail hquoting htail hlong
    have hlonger := Command.recalled?_ofLine_append hquoting htail hrecalled
    rw [run_evaluate_of_recalled? hlong hlonger hfind hkeep, ho]

/-- A shell that keeps one line runs that line once more, although this drops the entry which the
recall has found. -/
theorem Reachable.evaluate_recall_dropped :
    ∃ (settings : Settings) (s : Shell Limited), Reachable settings s ∧
      s.history.toList = [⟨1, "true x"⟩] ∧ s.history.find? 1 = some ⟨1, "true x"⟩ ∧
      let o := (Shell.evaluate Host.echoing settings.lineLimit "!1 more").run s
      let p := (Shell.evaluate Host.echoing settings.lineLimit "true x").run s
      o.answer = .ok .stay ∧ o.shell = p.shell ∧ o.trace.deeds = p.trace.deeds ∧
        o.shell.history.toList = [⟨2, "true x"⟩] ∧
        (Shell.evaluate Host.echoing settings.lineLimit ("!1 more" ++ " words &")).run s = o := by
  let settings : Settings := { historyCapacity := 1 }
  have hs := (Reachable.new Limited.unlimited : Reachable settings _).evaluateAll Host.echoing
    ["true x"]
  have hargv : (Command.ofLine "!1 more").argv = ["!1", "more"] := by decide
  obtain ⟨-, hshell, hdeeds, -, -, -, hlive, hsequel⟩ :=
    hs.evaluate_recall (e := ⟨1, "true x"⟩) Host.echoing (by decide) hargv (by decide)
      (by decide +kernel)
  dsimp only at hshell hdeeds
  obtain ⟨hstay, hkept⟩ := hlive _ Limited.accepting_unlimited rfl
    fun attempts _ => ⟨attempts + 1, rfl⟩
  have hmore := hsequel " words &" (by decide +kernel) (.inr ⟨' ', _, rfl, by decide⟩)
    (by decide +kernel)
  refine ⟨settings, _, hs, by decide +kernel, by decide +kernel, hstay, hshell, hdeeds, ?_, hmore⟩
  rw [hkept]
  decide +kernel

end Shell

end LineShell
