import LineShell.Numeral
import LineShell.Proofs.Shell.Delivery
import LineShell.Proofs.Shell.Recall

/-!
# Reading a listing back

A listing shows the entries of the history, one on a line. No line that the shell reads holds a
line feed, and so no text in the history does: the entries can be read back from the bytes of the
listing. Main statement: `Shell.AfterLines.list_faithful`.
-/

namespace LineShell

open LineShell.Action

/-! ## Lines of a listing -/

namespace Entry

/-- The entry that a line of a listing shows: behind seven characters stand the digits of its
number, and its text behind the first space after them. -/
def ofLine (line : List Char) : Entry Nat where
  id := Numeral.value ((line.drop 7).takeWhile (· ≠ ' '))
  text := String.ofList (((line.drop 7).dropWhile (· ≠ ' ')).drop 1)

/-- The entries that the lines of a listing show, if its bytes are a text. -/
def ofListing? (bytes : List UInt8) : Option (List (Entry Nat)) :=
  (Text.ofUtf8? bytes).map fun text => (text.toList.splitOn '\n').dropLast.map ofLine

theorem toList_line (e : Entry Nat) :
    e.line.toList = List.replicate 7 ' ' ++ (Nat.toDigits 10 e.id ++ ' ' :: e.text.toList) := by
  have hline : e.line = "       " ++ toString e.id ++ " " ++ e.text := rfl
  rw [hline, Nat.toString_eq_ofList_toDigits]
  simp only [String.toList_append, String.toList_ofList, List.append_assoc]
  rfl

/-- The line that shows an entry shows no other one. -/
theorem ofLine_toList_line (e : Entry Nat) : ofLine e.line.toList = e := by
  have hdigits : ∀ c ∈ Nat.toDigits 10 e.id, decide (c ≠ ' ') = true := by
    intro c hc
    refine decide_eq_true ?_
    rintro rfl
    exact absurd (Nat.isDigit_of_mem_toDigits (by decide) (by decide) hc) (by decide)
  have hdrop : e.line.toList.drop 7 = Nat.toDigits 10 e.id ++ ' ' :: e.text.toList := by
    rw [toList_line]
    exact List.drop_left' List.length_replicate
  have hvalue : Numeral.value (Nat.toDigits 10 e.id) = e.id := Numeral.value_decimal 0 e.id
  rw [ofLine, hdrop, List.takeWhile_append_of_pos hdigits, List.dropWhile_append_of_pos hdigits]
  simp [hvalue]

theorem feed_not_mem_line {e : Entry Nat} (h : '\n' ∉ e.text.toList) : '\n' ∉ e.line.toList := by
  rw [toList_line]
  simp only [List.mem_append, List.mem_cons, not_or]
  refine ⟨by decide, fun hdigit => ?_, by decide, h⟩
  exact absurd (Nat.isDigit_of_mem_toDigits (by decide) (by decide) hdigit) (by decide)

/-! ## Listings -/

variable {entries : List (Entry Nat)}

theorem listing_eq_utf8 (entries : List (Entry Nat)) :
    listing entries =
      Text.utf8 (String.ofList (entries.flatMap fun e => e.line.toList ++ ['\n'])) := by
  rw [listing, Text.utf8_eq_flatMap, String.toList_ofList, List.flatMap_assoc]
  refine List.flatMap_congr fun e _ => ?_
  rw [Text.utf8_eq_flatMap, String.toList_append]
  rfl

theorem splitOn_lines (h : ∀ e ∈ entries, '\n' ∉ e.text.toList) :
    (entries.flatMap fun e => e.line.toList ++ ['\n']).splitOn '\n' =
      entries.map (fun e => e.line.toList) ++ [[]] := by
  induction entries with
  | nil => rfl
  | cons e entries ih =>
      obtain ⟨he, hentries⟩ := List.forall_mem_cons.mp h
      rw [List.flatMap_cons, List.append_assoc, List.singleton_append,
        List.splitOn_append_cons_self, List.splitOn_eq_singleton (feed_not_mem_line he),
        ih hentries]
      rfl

/-- The entries can be read back from their listing if no text is broken. -/
theorem ofListing?_listing (h : ∀ e ∈ entries, '\n' ∉ e.text.toList) :
    ofListing? (listing entries) = some entries := by
  rw [ofListing?, listing_eq_utf8, Text.ofUtf8?_utf8, Option.map_some, String.toList_ofList,
    splitOn_lines h, List.dropLast_concat, List.map_map]
  simp only [Function.comp_def, ofLine_toList_line, List.map_id']

end Entry

/-! ## What a ring shows -/

namespace Ring

variable {r : History} {capacity : Nat} {texts : List String}

theorem map_id_log (texts : List String) :
    (log texts).map (·.id) = List.range' 1 texts.length := by
  refine List.ext_getElem? fun i => ?_
  rw [List.getElem?_map, getElem?_log]
  rcases Nat.lt_or_ge i texts.length with hi | hi
  · rw [List.getElem?_eq_getElem hi, List.getElem?_range' hi, Nat.one_mul, Nat.add_comm]
    rfl
  · rw [List.getElem?_eq_none hi, List.getElem?_eq_none (by rwa [List.length_range'])]
    rfl

/-- The numbers of the entries follow one another, up to the last one that was given. -/
theorem Shows.map_id_toList (h : Shows r capacity texts) :
    r.toList.map (·.id) = List.range' (r.nextId - r.count) r.count := by
  have hcount := h.count
  have hnext := h.nextId
  rw [h.toList, List.rtake, length_log, List.map_drop, map_id_log, List.drop_range',
    show 1 + (texts.length - capacity) * 1 = r.nextId - r.count by omega,
    show texts.length - (texts.length - capacity) = r.count by omega]

theorem Shows.length_toList (h : Shows r capacity texts) : r.toList.length = r.count := by
  rw [← List.length_map, h.map_id_toList, List.length_range']

/-- What is put in stands last. -/
theorem Shows.getLast?_toList_insert (h : Shows r capacity texts) (hc : 0 < capacity)
    (text : String) : (r.insert text).toList.getLast? = some ⟨r.nextId, text⟩ := by
  obtain ⟨n, rfl⟩ := Nat.exists_eq_add_one.mpr hc
  rw [(h.insert hc text).toList, log_append_singleton, List.rtake_concat_succ,
    List.getLast?_concat, h.nextId]

end Ring

/-! ## Three ways to a listing -/

namespace Shell

variable {σ : Type} [OutputStream σ] {s : Shell σ} {host : Host} {limit id : Nat} {line : String}

theorem run_evaluate_historyLine (host : Host) (hsize : historyLine.utf8ByteSize ≤ limit)
    (s : Shell σ) :
    (evaluate host limit historyLine).run s = (list >>= fun _ => pure Flow.stay).run s := by
  rw [evaluate_of_ne_exit (by decide), if_neg (Nat.not_lt.mpr hsize), perform, if_pos rfl]

theorem run_execute_historyLine (host : Host) (argv : List String) (background : Bool)
    (s : Shell σ) : (execute host argv historyLine background).run s = list.run s := by
  rw [execute, if_pos rfl]

theorem run_replay_historyLine (host : Host) {e : Entry Nat} (hfind : s.history.find? id = some e)
    (he : e.text = historyLine) (line : String) :
    (replay host id line).run s =
      { list.run s with trace := .noted (.recalled id historyLine) :: (list.run s).trace } := by
  rw [run_replay_of_some hfind, he, if_neg (by decide), execute, if_pos rfl]
  exact run_tell_bind _ _ s

/-! ## Shells that have read lines -/

/-- The shells that a new one becomes by evaluating lines without a line feed, within any limits,
and by collecting children, while children end. -/
inductive AfterLines (settings : Settings) (stream : σ) : Shell σ → Prop where
  | new : AfterLines settings stream (ofSettings settings stream)
  | evaluate {s : Shell σ} (host : Host) (limit : Nat) {line : String}
      (hline : '\n' ∉ line.toList) :
      AfterLines settings stream s →
        AfterLines settings stream ((Shell.evaluate host limit line).run s).shell
  | collect {s : Shell σ} :
      AfterLines settings stream s → AfterLines settings stream (Shell.collect.run s).shell
  | idle {s : Shell σ} (change : ChildTable → ChildTable) :
      AfterLines settings stream s → AfterLines settings stream ((Shell.idle change).run s).shell

namespace AfterLines

variable {settings : Settings} {stream : σ} {V : Conveyance σ}

theorem exists_shows (h : AfterLines settings stream s) :
    ∃ texts, s.history.Shows settings.historyCapacity texts := by
  suffices h : ∃ texts, s.history = Ring.ofTexts settings.historyCapacity texts by
    obtain ⟨texts, htexts⟩ := h
    rw [htexts]
    exact ⟨texts, Ring.shows_ofTexts settings.historyCapacity_pos texts⟩
  induction h with
  | new => exact ⟨[], rfl⟩
  | evaluate host limit hline _ ih => exact exists_texts_evaluate ih host limit _
  | collect _ ih =>
      rw [keepsHistory_collect]
      exact ih
  | idle change _ ih => exact ih

/-- No text in the history is broken. -/
theorem stocks (h : AfterLines settings stream s) : s.Stocks fun text => '\n' ∉ text.toList := by
  induction h with
  | new => exact stocks_ofSettings
  | evaluate host limit hline _ ih =>
      refine ih.evaluate fun text htext => ?_
      rcases text_of_recordedBy? htext with rfl | ⟨e, he, rfl⟩
      · exact hline
      · exact ih e he
  | collect _ ih =>
      rw [Stocks, keepsHistory_collect]
      exact ih
  | idle change _ ih => exact ih

theorem clear (hstream : V.Clear stream) (h : AfterLines settings stream s) :
    V.Clear s.stream := by
  induction h with
  | new => exact hstream
  | @evaluate s host limit line hline _ ih =>
      rw [run_evaluate]
      exact (Plan.keepsClear_action host (.ofLine s.history limit line)).bind
        (fun _ => keepsClear_pure _) s ih
  | collect _ ih => exact streamless_collect.keepsClear _ ih
  | idle change _ ih => exact (streamless_idle change).keepsClear _ ih

/-- A listing is read back as the entries of the history into which it has been recorded. -/
theorem ofListing?_list (h : AfterLines settings stream s) :
    Entry.ofListing? (Entry.listing (s.history.insert historyLine).toList) =
      some (s.history.insert historyLine).toList := by
  refine Entry.ofListing?_listing fun e he => ?_
  rcases Ring.mem_slots_insert (Ring.mem_slots_of_mem_toList he) with he | htext
  · exact h.stocks e he
  · rw [htext]
    decide

theorem exists_run_list (hstream : V.Clear stream) (h : AfterLines settings stream s) :
    let r := s.history.insert historyLine
    ∃ (stream' : σ) (t : Trace),
      list.run s =
        ⟨{ s with history := r, stream := stream' },
          .noted (.recorded s.history.nextId historyLine) ::
            .noted (.listing r.count r.slots.size) :: t,
          .ok ()⟩ ∧
      Trace.beside t = [] ∧ Trace.output t = Entry.listing r.toList := by
  intro r
  obtain ⟨o, ho, hrun⟩ := Task.exists_run_list (h.clear hstream) Host.echoing
  obtain ⟨s', t, answer⟩ := o
  obtain rfl : answer = .ok () := ho.answer
  obtain ⟨stream', rfl⟩ : ∃ stream', s' = { s with history := r, stream := stream' } :=
    ⟨_, ho.shell⟩
  exact ⟨stream', t, hrun, ho.beside, ho.output⟩

/-- To list the history is to record the listing and then to show all entries, each on a line of its
own: seven spaces, the number, a space and the text as it stands. There are as many as the history
holds, with numbers that follow one another up to that of the listing. The entries can be read back,
so that different entries never look the same. It makes no difference whether the listing is typed,
run or recalled. -/
theorem list_faithful (hstream : V.Clear stream) (h : AfterLines settings stream s) :
    let r := s.history.insert historyLine
    let o := (list : Action σ Unit).run s
    (o.answer = .ok () ∧ o.shell = { s with history := r, stream := o.shell.stream } ∧
      ∃ t, o.trace =
          .noted (.recorded s.history.nextId historyLine) ::
            .noted (.listing r.count r.slots.size) :: t ∧
        Trace.beside t = [] ∧
        Trace.output t = r.toList.flatMap fun e =>
          Text.utf8 ("       " ++ toString e.id ++ " " ++ e.text ++ "\n")) ∧
    (r.toList.length = min settings.historyCapacity (s.history.count + 1) ∧
      r.toList.map (·.id) =
        List.range' (s.history.nextId + 1 - r.toList.length) r.toList.length ∧
      r.toList.getLast? = some ⟨s.history.nextId, historyLine⟩) ∧
    Entry.ofListing? o.trace.output = some r.toList ∧
    (∀ (settings' : Settings) (stream' : σ) (V' : Conveyance σ) (s' : Shell σ), V'.Clear stream' →
      AfterLines settings' stream' s' → (s'.history.insert historyLine).toList ≠ r.toList →
        ((list : Action σ Unit).run s').trace.output ≠ o.trace.output) ∧
    (∀ host limit, historyLine.utf8ByteSize ≤ limit →
      (Shell.evaluate host limit historyLine).run s = ⟨o.shell, o.trace, .ok .stay⟩) ∧
    (∀ host argv background, (execute host argv historyLine background).run s = o) ∧
    ∀ id e, s.history.find? id = some e → e.text = historyLine →
      (∀ host line, (replay host id line).run s =
        ⟨o.shell, .noted (.recalled id historyLine) :: o.trace, .ok ()⟩) ∧
      ∀ host limit line, line.utf8ByteSize ≤ limit →
        (Command.ofLine line).recalled? = some id →
        (Shell.evaluate host limit line).run s =
          ⟨o.shell, .noted (.recalled id historyLine) :: o.trace, .ok .stay⟩ := by
  intro r o
  obtain ⟨stream', t, hrun, hbeside, houtput⟩ := h.exists_run_list hstream
  have ho : o = _ := hrun
  have hlisting : o.trace.output = Entry.listing r.toList := by
    rw [ho]
    exact houtput
  have hread : Entry.ofListing? o.trace.output = some r.toList := by
    rw [hlisting, h.ofListing?_list]
  refine ⟨?_, ?_, hread, ?_, ?_, fun host argv background => ?_, ?_⟩
  · rw [ho]
    exact ⟨rfl, rfl, t, rfl, hbeside, houtput⟩
  · obtain ⟨texts, hshows⟩ := h.exists_shows
    have hinsert := hshows.insert settings.historyCapacity_pos historyLine
    have hlength : r.toList.length = r.count := hinsert.length_toList
    have hcount := hshows.count
    have hcount' : r.count = _ := hinsert.count
    rw [List.length_append, List.length_singleton] at hcount'
    rw [hlength]
    refine ⟨by omega, ?_, ?_⟩
    · have hnext : r.nextId = s.history.nextId + 1 := Ring.nextId_insert _ _
      rw [← hnext]
      exact hinsert.map_id_toList
    · exact hshows.getLast?_toList_insert settings.historyCapacity_pos historyLine
  · intro settings' stream'' V' s' hstream' h' hne heq
    obtain ⟨_, _, hrun', -, houtput'⟩ := h'.exists_run_list hstream'
    have hlisting' : ((list : Action σ Unit).run s').trace.output = _ :=
      (congrArg (fun p => Trace.output p.trace) hrun').trans houtput'
    rw [← heq, hlisting', h'.ofListing?_list] at hread
    exact hne (Option.some.inj hread)
  · intro host limit hsize
    rw [run_evaluate_historyLine host hsize, run_bind_of_ok hrun, run_pure, List.append_nil, ho]
  · exact run_execute_historyLine host argv background s
  · intro id e hfind he
    have hreplay (host : Host) (line : String) : (replay host id line).run s =
        ⟨o.shell, .noted (.recalled id historyLine) :: o.trace, .ok ()⟩ := by
      rw [run_replay_historyLine host hfind he, hrun, ho]
    refine ⟨hreplay, fun host limit line hsize hid => ?_⟩
    rw [evaluate_of_recalled? hsize hid, run_bind_of_ok (hreplay host line), run_pure,
      List.append_nil]

/-- Of two lines, a shell that keeps two entries has dropped the first when it lists them. -/
theorem list_faithful_dropped :
    ∃ (settings : Settings) (stream : Limited) (s : Shell Limited),
      Limited.conveyance.Clear stream ∧ AfterLines settings stream s ∧
      s.history.toList = [⟨1, "true x"⟩, ⟨2, "history"⟩] ∧
      let o := (list : Action Limited Unit).run s
      Entry.ofListing? o.trace.output = some [⟨2, "history"⟩, ⟨3, "history"⟩] ∧
      ((Shell.evaluate Host.echoing 7 historyLine).run s).shell = o.shell ∧
      ((Shell.evaluate Host.echoing 7 "!2").run s).shell = o.shell := by
  let settings : Settings := { historyCapacity := 2 }
  let stream : Limited := ⟨none, some 3, .other, none⟩
  have hclear : Limited.conveyance.Clear stream := ⟨⟨rfl, by decide, rfl⟩, rfl⟩
  have hnew : AfterLines settings stream (ofSettings settings stream) := .new
  have h := (hnew.evaluate Host.echoing 12 (by decide : '\n' ∉ "true x".toList)).evaluate
    Host.echoing 12 (by decide : '\n' ∉ "history".toList)
  obtain ⟨-, -, hread, -, htyped, -, hrecall⟩ := h.list_faithful hclear
  have hrecalled := (hrecall 2 ⟨2, "history"⟩ (by decide +kernel) rfl).2 Host.echoing 7 "!2"
    (by decide) (by decide)
  refine ⟨settings, stream, _, hclear, h, by decide +kernel, ?_, ?_, ?_⟩
  · exact hread.trans (by decide +kernel)
  · rw [htyped Host.echoing 7 (by decide)]
  · rw [hrecalled]

end AfterLines

end Shell

end LineShell
