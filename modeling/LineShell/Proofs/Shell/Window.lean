import LineShell.Proofs.Shell.Delivery
import LineShell.Proofs.Shell.Recall

/-!
# Which numbers can be recalled

Whatever a shell serves, the texts that it records have the numbers one, two and so on. The numbers
that a recall finds are the latest of these, as many as there are entries.
-/

namespace LineShell

open LineShell.Action

namespace Ring

variable {r : History} {capacity : Nat} {texts : List String}

theorem getElem?_log_pred_eq_some_iff {id : Nat} (hid : 0 < id) {e : Entry Nat} :
    (log texts)[id - 1]? = some e ↔ e.id = id ∧ texts[id - 1]? = some e.text := by
  rw [getElem?_log, Option.map_eq_some_iff, Nat.sub_add_cancel hid]
  constructor
  · rintro ⟨text, htext, rfl⟩
    exact ⟨rfl, htext⟩
  · rintro ⟨rfl, htext⟩
    exact ⟨e.text, htext, rfl⟩

/-- The numbers that are found are the latest ones, as many as there are entries. -/
theorem Shows.find?_eq_some_iff_window (h : Shows r capacity texts) {id : Nat} {e : Entry Nat} :
    r.find? id = some e ↔
      (r.nextId - r.count ≤ id ∧ id < r.nextId) ∧ e.id = id ∧ texts[id - 1]? = some e.text := by
  have hnext := h.nextId
  have hcount := h.count
  rw [h.find?_eq_some_iff]
  constructor
  · rintro ⟨hlt, he⟩
    obtain ⟨hid, htext⟩ := (getElem?_log_pred_eq_some_iff (by omega)).mp he
    have := (List.getElem?_eq_some_iff.mp htext).1
    exact ⟨by omega, hid, htext⟩
  · rintro ⟨⟨hle, hlt⟩, hid, htext⟩
    exact ⟨by omega, (getElem?_log_pred_eq_some_iff (by omega)).mpr ⟨hid, htext⟩⟩

theorem Shows.find?_isSome_iff (h : Shows r capacity texts) {id : Nat} :
    (r.find? id).isSome ↔ r.nextId - r.count ≤ id ∧ id < r.nextId := by
  have hnext := h.nextId
  have hcount := h.count
  rw [Option.isSome_iff_exists]
  constructor
  · rintro ⟨e, he⟩
    exact (h.find?_eq_some_iff_window.mp he).1
  · rintro ⟨hle, hlt⟩
    have hlength : id - 1 < texts.length := by omega
    exact ⟨⟨id, texts[id - 1]⟩,
      h.find?_eq_some_iff_window.mpr ⟨⟨hle, hlt⟩, rfl, List.getElem?_eq_getElem hlength⟩⟩

/-- A text is found under its number until as many more have been put in as the ring has slots. -/
theorem Shows.find?_append (hc : 0 < capacity) {more : List String} {id : Nat} (hid : 0 < id)
    {text : String} (htext : texts[id - 1]? = some text)
    (h : Shows r capacity (texts ++ more)) :
    r.find? id =
      if (texts.drop id ++ more).length < capacity then some ⟨id, text⟩ else none := by
  have hlength := (List.getElem?_eq_some_iff.mp htext).1
  have hdrop : (texts.drop id ++ more).length = texts.length + more.length - id := by
    rw [List.length_append, List.length_drop]
    omega
  have hall : (texts ++ more).length = texts.length + more.length := List.length_append
  split
  · refine h.find?_eq_some_iff.mpr ⟨by omega, ?_⟩
    refine (getElem?_log_pred_eq_some_iff hid).mpr ⟨rfl, ?_⟩
    rw [List.getElem?_append_left hlength, htext]
  · exact h.find?_eq_none (by omega)

end Ring

variable {σ : Type} [OutputStream σ]

namespace Shell

variable {V : Conveyance σ} {P : Host → Prop} {settings : Settings} {stream : σ} {s s' : Shell σ}
  {t u : Trace}

theorem Serves.trans {s₀ : Shell σ} (h : Serves P s₀ s t) (hu : Serves P s s' u) :
    Serves P s₀ s' (t ++ u) := by
  induction hu with
  | refl =>
      rw [List.append_nil]
      exact h
  | step hhost limit r _ ih =>
      rw [← List.append_assoc]
      exact .step hhost limit r ih

theorem Serves.shows (h : Serves P (ofSettings settings stream) s t) :
    s.history.Shows settings.historyCapacity t.recorded := by
  rw [h.history_eq]
  exact Ring.shows_ofTexts settings.historyCapacity_pos t.recorded

/-! ## A recall reports first whether it finds its number -/

theorem run_evaluate_of_find?_none (host : Host) {limit id : Nat} {line : String}
    (hsize : line.utf8ByteSize ≤ limit) (hid : (Command.ofLine line).recalled? = some id)
    (hfind : s.history.find? id = none) :
    let o := ((Task.say (line ++ ": event not found")).action host).run s
    (evaluate host limit line).run s =
      ⟨o.shell, .noted (.notRecalled id) :: o.trace, o.answer.map fun _ => .stay⟩ := by
  intro o
  have hexit := ne_exitLine_of_recalled? hid
  rw [run_evaluate_task, Plan.ofLine_of_recalled? hexit hsize hid, Plan.ofRecall_of_none hfind,
    if_neg hexit]
  rfl

theorem run_evaluate_of_find?_some (host : Host) {limit id : Nat} {line : String} {e : Entry Nat}
    (hsize : line.utf8ByteSize ≤ limit) (hid : (Command.ofLine line).recalled? = some id)
    (hfind : s.history.find? id = some e) :
    let o := ((Task.ofText e.text).action host).run s
    (evaluate host limit line).run s =
      ⟨o.shell, .noted (.recalled id e.text) :: o.trace, o.answer.map fun _ => .stay⟩ := by
  intro o
  have hexit := ne_exitLine_of_recalled? hid
  rw [run_evaluate_task, Plan.ofLine_of_recalled? hexit hsize hid, Plan.ofRecall_of_some hfind,
    if_neg hexit]
  rfl

theorem head?_trace_evaluate (host : Host) {limit id : Nat} {line : String}
    (hsize : line.utf8ByteSize ≤ limit) (hid : (Command.ofLine line).recalled? = some id) :
    ((evaluate host limit line).run s).trace.head? =
      some (.noted (match s.history.find? id with
        | some e => .recalled id e.text
        | none => .notRecalled id)) := by
  cases hfind : s.history.find? id with
  | some e => rw [run_evaluate_of_find?_some host hsize hid hfind, List.head?_cons]
  | none => rw [run_evaluate_of_find?_none host hsize hid hfind, List.head?_cons]

/-- A recall finds its number if this is one of the latest, as many as there are entries. What it
finds is the text that was recorded under the number, and this is run. Otherwise the line that asked
for it is reported as it stands, and nothing else is done. A text is found until as many more have
been recorded as the history holds, and never again. -/
theorem Serves.recall_iff (hstream : V.Clear stream)
    (h : Serves P (ofSettings settings stream) s t) (host : Host) {limit : Nat} {line word : String}
    {words : List String} (hsize : line.utf8ByteSize ≤ limit)
    (hargv : (Command.ofLine line).argv = word :: words) (hword : EventId.IsRecall word) :
    let n := EventId.ofWord word
    let o := (evaluate host limit line).run s
    ((∃ text, o.trace.head? = some (.noted (.recalled n text))) ↔
      s.history.nextId - s.history.count ≤ n ∧ n < s.history.nextId) ∧
    (∀ text, o.trace.head? = some (.noted (.recalled n text)) →
      t.recorded[n - 1]? = some text ∧
      let q := ((Task.ofText text).action host).run s
      o.shell = q.shell ∧ o.trace.tail = q.trace ∧ o.answer = q.answer.map fun _ => .stay) ∧
    (¬ (s.history.nextId - s.history.count ≤ n ∧ n < s.history.nextId) →
      o.answer = .ok .stay ∧ o.trace.output = Text.utf8 (line ++ ": event not found" ++ "\n") ∧
      o.trace.beside = [.noted (.notRecalled n)] ∧ o.trace.launches = [] ∧
      o.shell = s.on o.shell.stream) ∧
    ∀ text, 0 < n → t.recorded[n - 1]? = some text → ∀ s' u, Serves P s s' u → ∀ host,
      ((evaluate host limit line).run s').trace.head? = some (.noted <|
        if (t.recorded.drop n ++ u.recorded).length < settings.historyCapacity
        then .recalled n text else .notRecalled n) := by
  intro n o
  have hrecalled : (Command.ofLine line).recalled? = some n := by
    rw [Command.recalled?_of_cons hargv, if_pos hword]
  have hshows := h.shows
  have hhead : o.trace.head? = _ := head?_trace_evaluate host hsize hrecalled
  -- The window is where the history finds the number, and the first report says whether it does.
  rw [← hshows.find?_isSome_iff, hhead]
  refine ⟨?_, ?_, ?_, ?_⟩
  · cases s.history.find? n with
    | some e => exact ⟨fun _ => rfl, fun _ => ⟨e.text, rfl⟩⟩
    | none => exact ⟨fun ⟨_, hfound⟩ => (nomatch hfound), nofun⟩
  · intro text hfound
    cases hfind : s.history.find? n with
    | some e =>
        rw [hfind] at hfound
        cases hfound
        have ho : o = _ := run_evaluate_of_find?_some host hsize hrecalled hfind
        rw [ho]
        exact ⟨(hshows.find?_eq_some_iff_window.mp hfind).2.2, rfl, rfl, rfl⟩
    | none =>
        rw [hfind] at hfound
        cases hfound
  · intro hnone
    have ho : o = _ :=
      run_evaluate_of_find?_none host hsize hrecalled (Option.not_isSome_iff_eq_none.mp hnone)
    obtain ⟨hshell, hbeside, -, houtput, hanswer⟩ :=
      Task.delivers_say (h.clear hstream) host (line ++ ": event not found")
    have hreport : o.trace.beside = [.noted (.notRecalled n)] := by
      rw [ho]
      exact congrArg (_ :: ·) hbeside
    refine ⟨?_, ?_, hreport, ?_, ?_⟩
    · rw [ho, hanswer]
      rfl
    · rw [ho]
      exact houtput
    · rw [← Trace.launches_beside, hreport]
      rfl
    · rw [ho]
      exact hshell
  · intro text hn htext s' u hu host
    have hshows' := (h.trans hu).shows
    rw [Trace.recorded_append] at hshows'
    rw [head?_trace_evaluate host hsize hrecalled,
      hshows'.find?_append settings.historyCapacity_pos hn htext]
    by_cases hlength : (t.recorded.drop n ++ u.recorded).length < settings.historyCapacity
    · rw [if_pos hlength, if_pos hlength]
    · rw [if_neg hlength, if_neg hlength]

/-- A shell that keeps two texts finds the first one after one more, and not after two more: the
recall has recorded the second of these itself. -/
theorem Serves.recall_iff_dropped :
    ∃ (settings : Settings) (stream : Limited) (s s' : Shell Limited) (t u : Trace),
      stream.Roomy ∧ Serves Host.Forks (ofSettings settings stream) s t ∧
      Serves Host.Forks s s' u ∧ t.recorded = ["true x", "ls"] ∧ u.recorded = ["true x"] ∧
      let o := (evaluate Host.echoing 12 "\"!\"1 more").run s
      let o' := (evaluate Host.echoing 12 "\"!\"1 more").run s'
      o.trace.head? = some (.noted (.recalled 1 "true x")) ∧
      o'.trace.head? = some (.noted (.notRecalled 1)) ∧ o'.trace.launches = [] ∧
      o'.trace.output = Text.utf8 "\"!\"1 more: event not found\n" := by
  let settings : Settings := { historyCapacity := 2 }
  let stream : Limited := ⟨none, some 3, .other, none⟩
  have hstream : stream.Roomy := ⟨rfl, by decide, rfl⟩
  have hclear : Limited.conveyance.Clear stream := ⟨hstream, rfl⟩
  have hs := ((Serves.refl (P := Host.Forks) (s := ofSettings settings stream)).step
    Host.forks_echoing 12 (.record "true x")).step Host.forks_echoing 12 (.evaluate "ls")
  have hu (s : Shell Limited) := (Serves.refl (P := Host.Forks) (s := s)).step
    Host.forks_echoing 12 (.evaluate "\"!\"1 more")
  have hsize : "\"!\"1 more".utf8ByteSize ≤ 12 := by decide
  have hargv : (Command.ofLine "\"!\"1 more").argv = ["!1", "more"] := by decide
  have hword : EventId.IsRecall "!1" := by decide
  obtain ⟨-, -, -, hfound⟩ := hs.recall_iff hclear Host.echoing hsize hargv hword
  obtain ⟨-, -, hmissed, -⟩ :=
    (hs.trans (hu _)).recall_iff hclear Host.echoing hsize hargv hword
  obtain ⟨-, houtput, -, hlaunches, -⟩ := hmissed (by decide +kernel)
  have hnow := hfound "true x" (by decide) (by decide +kernel) _ _ .refl Host.echoing
  have hlater := hfound "true x" (by decide) (by decide +kernel) _ _ (hu _) Host.echoing
  rw [if_pos (by decide +kernel)] at hnow
  rw [if_neg (by decide +kernel)] at hlater
  exact ⟨settings, stream, _, _, _, _, hstream, hs, hu _, by decide +kernel, by decide +kernel,
    hnow, hlater, hlaunches, houtput⟩

end Shell

end LineShell
