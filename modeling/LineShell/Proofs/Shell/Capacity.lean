import LineShell.Proofs.Shell.Delivery

/-!
# What the capacity of the history decides

Two shells that differ in the capacity of their histories do the same for the same lines, as long as
each recall finds its number in both histories or in neither. Both histories show the end of one
log, the greater one more of it, and this is seen in listings alone.
-/

namespace LineShell

open LineShell.Action

/-! ## Two rings of one log -/

theorem rtake_rtake {α : Type} (as : List α) {m n : Nat} (h : m ≤ n) :
    (as.rtake n).rtake m = as.rtake m := by
  rw [List.rtake, List.rtake, List.rtake, List.drop_drop, List.length_drop]
  congr 1
  omega

theorem rtake_min_length {α : Type} (as : List α) (n : Nat) :
    as.rtake (min n as.length) = as.rtake n := by
  rw [List.rtake, List.rtake]
  congr 1
  omega

namespace Ring

/-- Two rings show the end of one log. -/
def ShareLog (c c' : Nat) (r r' : History) : Prop :=
  ∃ texts, r = ofTexts c texts ∧ r' = ofTexts c' texts

namespace ShareLog

variable {c c' : Nat} {r r' : History}

theorem empty (c c' : Nat) : ShareLog c c' (empty c) (empty c') :=
  ⟨[], rfl, rfl⟩

theorem insert (h : ShareLog c c' r r') (text : String) :
    ShareLog c c' (r.insert text) (r'.insert text) := by
  obtain ⟨texts, rfl, rfl⟩ := h
  refine ⟨texts ++ [text], ?_, ?_⟩
  · rw [ofTexts, ofTexts, List.foldl_append]
    rfl
  · rw [ofTexts, ofTexts, List.foldl_append]
    rfl

theorem nextId (hc : 0 < c) (hc' : 0 < c') (h : ShareLog c c' r r') : r.nextId = r'.nextId := by
  obtain ⟨texts, rfl, rfl⟩ := h
  rw [(shows_ofTexts hc texts).nextId, (shows_ofTexts hc' texts).nextId]

/-- What is found in both is the same. -/
theorem find?_eq (hc : 0 < c) (hc' : 0 < c') (h : ShareLog c c' r r') {id : Nat}
    (hsome : (r.find? id).isSome ↔ (r'.find? id).isSome) : r.find? id = r'.find? id := by
  obtain ⟨texts, rfl, rfl⟩ := h
  cases hfind : (ofTexts c texts).find? id with
  | none =>
      rw [hfind] at hsome
      exact (Option.not_isSome_iff_eq_none.mp fun h => nomatch hsome.mpr h).symm
  | some e =>
      rw [hfind] at hsome
      obtain ⟨e', hfind'⟩ := Option.isSome_iff_exists.mp (hsome.mp rfl)
      have he := ((shows_ofTexts hc texts).find?_eq_some_iff.mp hfind).2
      have he' := ((shows_ofTexts hc' texts).find?_eq_some_iff.mp hfind').2
      rw [hfind', ← he, ← he']

theorem toList_eq (hc : 0 < c) (hle : c ≤ c') (h : ShareLog c c' r r') :
    r.toList = r'.toList.rtake c := by
  obtain ⟨texts, rfl, rfl⟩ := h
  rw [(shows_ofTexts hc texts).toList, (shows_ofTexts (by omega) texts).toList, rtake_rtake _ hle]

end ShareLog

end Ring

/-! ## Two shells of one log -/

variable {σ τ α : Type} {c c' : Nat} {s : Shell σ} {t : Shell τ}

namespace Shell

/-- Launching a program depends on nothing but the children. -/
theorem exists_run_launch_both (hroster : s.roster = t.roster) (hforks : s.forks = t.forks)
    (host : Host) (argv : List String) (line : String) (background : Bool) :
    ∃ roster forks u answer,
      (launch host argv line background).run s = ⟨{ s with roster, forks }, u, answer⟩ ∧
      (launch host argv line background).run t = ⟨{ t with roster, forks }, u, answer⟩ := by
  obtain ⟨history, roster, forks, stream⟩ := s
  obtain ⟨history', _, _, stream'⟩ := t
  cases hroster
  cases hforks
  by_cases hargv : IsPassable argv
  · cases hfork : host.fork forks roster.table with
    | error cause =>
        rw [run_launch_of_error hfork hargv, run_launch_of_error hfork hargv]
        exact ⟨_, _, _, _, rfl, rfl⟩
    | ok pid =>
        cases background with
        | true =>
            rw [run_launch_background hfork hargv, run_launch_background hfork hargv]
            exact ⟨_, _, _, _, rfl, rfl⟩
        | false =>
            rw [run_launch_foreground hfork hargv, run_launch_foreground hfork hargv]
            exact ⟨_, _, _, _, rfl, rfl⟩
  · rw [run_launch_of_not_isPassable hargv, run_launch_of_not_isPassable hargv]
    exact ⟨_, _, _, _, rfl, rfl⟩

end Shell

variable [OutputStream σ] [OutputStream τ] {V : Conveyance σ} {V' : Conveyance τ}

/-- Neither stream holds anything back, and the shells differ but in how much of one log their
histories show. -/
structure Shell.Paired (V : Conveyance σ) (V' : Conveyance τ) (c c' : Nat) (s : Shell σ)
    (t : Shell τ) : Prop where
  history : Ring.ShareLog c c' s.history t.history
  roster : s.roster = t.roster
  forks : s.forks = t.forks
  clear : V.Clear s.stream
  clear' : V'.Clear t.stream

/-- Two shells go on as a pair, after the same answer and with the same children. They have written
the same, unless they have listed their histories: then each has written what it holds. -/
structure Outcome.Pairs (V : Conveyance σ) (V' : Conveyance τ) (c c' : Nat) (lists : Prop)
    (o : Outcome σ α) (p : Outcome τ α) : Prop where
  shell : o.shell.Paired V V' c c' p.shell
  answer : o.answer = p.answer
  launches : o.trace.launches = p.trace.launches
  output : ¬ lists → o.trace.output = p.trace.output
  listing : lists → o.trace.output = Entry.listing o.shell.history.toList ∧
    p.trace.output = Entry.listing p.shell.history.toList

/-- What two shells say leaves them a pair. -/
theorem Outcome.Delivers.paired {o : Outcome σ Unit} {p : Outcome τ Unit}
    {bytes bytes' : List UInt8} (ho : o.Delivers V s bytes) (hp : p.Delivers V' t bytes')
    (h : s.Paired V V' c c' t) : o.shell.Paired V V' c c' p.shell := by
  have hclear := ho.clear
  have hclear' := hp.clear
  rw [ho.shell] at hclear ⊢
  rw [hp.shell] at hclear' ⊢
  exact ⟨h.history, h.roster, h.forks, hclear, hclear'⟩

theorem Task.pairs_action (h : s.Paired V V' c c' t) (host : Host) (task : Task) :
    ((task.action host).run s).Pairs V V' c c' (task = .list) ((task.action host).run t) := by
  cases task with
  | rest => exact ⟨h, rfl, rfl, fun _ => rfl, nofun⟩
  | say text =>
      have ho := delivers_say h.clear host text
      have hp := delivers_say h.clear' host text
      exact ⟨ho.paired hp h, ho.answer.trans hp.answer.symm, ho.launches.trans hp.launches.symm,
        fun _ => ho.output.trans hp.output.symm, nofun⟩
  | list =>
      -- Both have recorded the listing when they write what they hold.
      obtain ⟨o, ho, hrun⟩ := exists_run_list h.clear host
      obtain ⟨p, hp, hrun'⟩ := exists_run_list h.clear' host
      have hpaired := ho.paired hp
        ⟨h.history.insert historyLine, h.roster, h.forks, h.clear, h.clear'⟩
      rw [hrun, hrun']
      refine ⟨hpaired, ho.answer.trans hp.answer.symm, ho.launches.trans hp.launches.symm,
        fun hlist => (hlist rfl).elim, fun _ => ⟨?_, ?_⟩⟩
      · rw [Trace.output_append, Trace.output_noted, ho.output, ho.shell]
        rfl
      · rw [Trace.output_append, Trace.output_noted, hp.output, hp.shell]
        rfl
  | run argv line background =>
      -- Nothing is there to flush, and the launch looks at the children alone.
      obtain ⟨stream, hclear, hrun⟩ := exists_run_run h.clear host argv line background
      obtain ⟨stream', hclear', hrun'⟩ := exists_run_run h.clear' host argv line background
      obtain ⟨roster, forks, u, answer, hlaunch, hlaunch'⟩ :=
        Shell.exists_run_launch_both (s := s.on stream) (t := t.on stream') h.roster h.forks host
          argv line background
      rw [hrun, hrun']
      cases answer with
      | error e =>
          rw [run_bind_of_error hlaunch, run_bind_of_error hlaunch']
          exact ⟨⟨h.history, rfl, rfl, hclear, hclear'⟩, rfl, rfl, fun _ => rfl, nofun⟩
      | ok _ =>
          rw [run_bind_of_ok hlaunch, run_bind_of_ok hlaunch']
          refine ⟨⟨h.history.insert line, rfl, rfl, hclear, hclear'⟩, rfl, ?_, fun _ => ?_, nofun⟩
          · change Trace.launches (u ++ [_]) = Trace.launches (u ++ [_])
            rw [Trace.launches_append, Trace.launches_append]
            rfl
          · change Trace.output (u ++ [_]) = Trace.output (u ++ [_])
            rw [Trace.output_append, Trace.output_append]
            rfl

/-- What is recalled is found in both histories or in neither. -/
theorem Plan.ofLine_eq {r r' : History} {limit : Nat} {line : String} (hc : 0 < c) (hc' : 0 < c')
    (h : Ring.ShareLog c c' r r')
    (hrecall : line.utf8ByteSize ≤ limit → ∀ id ∈ (Command.ofLine line).recalled?,
      ((r.find? id).isSome ↔ (r'.find? id).isSome)) :
    ofLine r limit line = ofLine r' limit line := by
  by_cases hexit : line = exitLine
  · rw [hexit, ofLine_exit, ofLine_exit]
  rcases Nat.lt_or_ge limit line.utf8ByteSize with hsize | hsize
  · rw [ofLine_of_lt hexit hsize, ofLine_of_lt hexit hsize]
  cases hid : (Command.ofLine line).recalled? with
  | none => rw [ofLine_of_not_recalled? hexit hsize hid, ofLine_of_not_recalled? hexit hsize hid]
  | some id =>
      rw [ofLine_of_recalled? hexit hsize hid, ofLine_of_recalled? hexit hsize hid, ofRecall,
        ofRecall, h.find?_eq hc hc' (hrecall hsize id hid)]

namespace Shell

/-- A line lists the history if it comes to a listing, typed or recalled. -/
theorem stores_historyLine_iff {limit : Nat} {line : String} :
    s.Stores limit line historyLine ↔ (Plan.ofLine s.history limit line).task = .list := by
  rw [stores_iff]
  constructor
  · intro h
    rw [Plan.task_eq_of_stores h]
    decide
  · intro h
    rw [h]
    rfl

/-- Both shells answer a line alike, and are again a pair. -/
theorem Paired.evaluate (hc : 0 < c) (hc' : 0 < c') (h : s.Paired V V' c c' t) (host : Host)
    {limit : Nat} {line : String}
    (hrecall : line.utf8ByteSize ≤ limit → ∀ id ∈ (Command.ofLine line).recalled?,
      ((s.history.find? id).isSome ↔ (t.history.find? id).isSome)) :
    ((Shell.evaluate host limit line).run s).Pairs V V' c c' (s.Stores limit line historyLine)
      ((Shell.evaluate host limit line).run t) := by
  have hplan := Plan.ofLine_eq hc hc' h.history hrecall
  obtain ⟨hpaired, hanswer, hlaunches, houtput, hlisting⟩ :=
    Task.pairs_action h host (Plan.ofLine s.history limit line).task
  rw [run_evaluate_task, run_evaluate_task, ← hplan, stores_historyLine_iff]
  refine ⟨hpaired, congrArg (Except.map _) hanswer, ?_, ?_, ?_⟩
  · rw [Trace.launches_append, Trace.launches_append, hlaunches]
  · intro htask
    rw [Trace.output_append, Trace.output_append, houtput htask]
  · intro htask
    rw [Trace.output_append, Trace.output_append, Trace.output_noted, List.nil_append,
      List.nil_append]
    exact hlisting htask

/-! ## Lines one after another -/

/-- A line and its circumstances: how children have ended since the last line, and the host. -/
structure Turn where
  host : Host
  change : ChildTable → ChildTable := id
  line : String

def Turn.action (limit : Nat) (turn : Turn) : Action σ Flow := do
  idle turn.change
  Shell.evaluate turn.host limit turn.line

/-- A shell after its turns. -/
def afterTurns (limit : Nat) (s : Shell σ) (turns : List Turn) : Shell σ :=
  turns.foldl (fun s turn => ((turn.action limit).run s).shell) s

/-- Each recall on the way finds its number in both histories or in neither. -/
def RecallAlike (limit : Nat) : Shell σ → Shell τ → List Turn → Prop
  | _, _, [] => True
  | s, t, turn :: turns =>
    (turn.line.utf8ByteSize ≤ limit → ∀ id ∈ (Command.ofLine turn.line).recalled?,
      ((s.history.find? id).isSome ↔ (t.history.find? id).isSome)) ∧
    RecallAlike limit ((turn.action limit).run s).shell ((turn.action limit).run t).shell turns

instance decidableRecallAlike (limit : Nat) :
    (s : Shell σ) → (t : Shell τ) → (turns : List Turn) → Decidable (RecallAlike limit s t turns)
  | _, _, [] => inferInstanceAs (Decidable True)
  | s, t, turn :: turns =>
    have := decidableRecallAlike limit ((turn.action limit).run s).shell
      ((turn.action limit).run t).shell turns
    inferInstanceAs (Decidable (_ ∧ _))

theorem recallAlike_append {limit : Nat} {turns more : List Turn} :
    RecallAlike limit s t (turns ++ more) ↔
      RecallAlike limit s t turns ∧
        RecallAlike limit (s.afterTurns limit turns) (t.afterTurns limit turns) more := by
  induction turns generalizing s t with
  | nil => exact ⟨fun h => ⟨trivial, h⟩, And.right⟩
  | cons turn turns ih =>
      rw [List.cons_append, RecallAlike, RecallAlike, ih, and_assoc]
      rfl

/-- Children that end in both shells alike leave them a pair. -/
theorem Paired.turn (hc : 0 < c) (hc' : 0 < c') (h : s.Paired V V' c c' t) {limit : Nat}
    {turn : Turn}
    (hrecall : turn.line.utf8ByteSize ≤ limit → ∀ id ∈ (Command.ofLine turn.line).recalled?,
      ((s.history.find? id).isSome ↔ (t.history.find? id).isSome)) :
    ((turn.action limit).run s).Pairs V V' c c' (s.Stores limit turn.line historyLine)
      ((turn.action limit).run t) := by
  have hidle : Paired V V' c c' ((idle turn.change).run s).shell
      ((idle turn.change).run t).shell :=
    { h with roster := congrArg (fun r => { r with table := turn.change r.table }) h.roster }
  have hpairs := hidle.evaluate hc hc' turn.host hrecall
  -- What a line stores depends on the history and the stream, and these are those of before.
  rw [stores_historyLine_iff] at hpairs ⊢
  exact hpairs

theorem Paired.afterTurns (hc : 0 < c) (hc' : 0 < c') {limit : Nat} {turns : List Turn}
    (h : s.Paired V V' c c' t) (hrecall : RecallAlike limit s t turns) :
    (s.afterTurns limit turns).Paired V V' c c' (t.afterTurns limit turns) := by
  induction turns generalizing s t with
  | nil => exact h
  | cons turn turns ih => exact ih (h.turn hc hc' hrecall.1).shell hrecall.2

theorem paired_ofSettings {small large : Settings} {stream : σ} {stream' : τ}
    (hs : V.Clear stream) (ht : V'.Clear stream') :
    (ofSettings small stream).Paired V V' small.historyCapacity large.historyCapacity
      (ofSettings large stream') where
  history := .empty _ _
  roster := rfl
  forks := rfl
  clear := hs
  clear' := ht

/-- The capacity of the history decides nothing but how far back a shell shows and recalls. Of two
shells that differ in it, both do the same for each line, as long as each recall finds its number in
both histories or in neither. The smaller history holds the latest entries of the greater one. The
output is the same but for listings, of which the smaller shell writes the end. -/
theorem afterTurns_of_capacity_le {small large : Settings}
    (hle : small.historyCapacity ≤ large.historyCapacity) {stream : σ} {stream' : τ}
    (hs : V.Clear stream) (ht : V'.Clear stream') {limit : Nat} {turns : List Turn} {turn : Turn}
    (hrecall : RecallAlike limit (ofSettings small stream) (ofSettings large stream')
      (turns ++ [turn])) :
    let s := (ofSettings small stream).afterTurns limit turns
    let t := (ofSettings large stream').afterTurns limit turns
    let o := (turn.action limit).run s
    let p := (turn.action limit).run t
    o.shell.history.nextId = p.shell.history.nextId ∧ o.answer = p.answer ∧
    o.trace.launches = p.trace.launches ∧ o.shell.roster = p.shell.roster ∧
    o.shell.history.toList =
      p.shell.history.toList.rtake (min small.historyCapacity p.shell.history.toList.length) ∧
    (s.Stores limit turn.line historyLine ↔ t.Stores limit turn.line historyLine) ∧
    (¬ s.Stores limit turn.line historyLine → o.trace.output = p.trace.output) ∧
    (s.Stores limit turn.line historyLine → ∃ older,
      p.shell.history.toList = older ++ o.shell.history.toList ∧
      o.trace.output = Entry.listing o.shell.history.toList ∧
      p.trace.output = Entry.listing older ++ o.trace.output) := by
  intro s t o p
  have hc := small.historyCapacity_pos
  have hc' := large.historyCapacity_pos
  obtain ⟨hbefore, hline, -⟩ := recallAlike_append.mp hrecall
  have hpaired := (paired_ofSettings hs ht).afterTurns hc hc' hbefore
  obtain ⟨hafter, hanswer, hlaunches, houtput, hlisting⟩ := hpaired.turn hc hc' hline
  have hplan := Plan.ofLine_eq hc hc' hpaired.history hline
  have hstores : s.Stores limit turn.line historyLine ↔ t.Stores limit turn.line historyLine := by
    rw [stores_historyLine_iff, stores_historyLine_iff, hplan]
  have hlist := hafter.history.toList_eq hc hle
  refine ⟨hafter.history.nextId hc hc', hanswer, hlaunches, hafter.roster, ?_, hstores, houtput, ?_⟩
  · rw [rtake_min_length]
    exact hlist
  · intro hlists
    obtain ⟨ho, hp⟩ := hlisting hlists
    obtain ⟨older, hsplit⟩ : ∃ older, p.shell.history.toList = older ++ o.shell.history.toList := by
      rw [hlist]
      exact ⟨_, (List.take_append_drop ..).symm⟩
    refine ⟨older, hsplit, ho, ?_⟩
    rw [ho, hp, hsplit]
    exact List.flatMap_append

/-- Of two shells, one keeps two texts and one three. Both are asked for a text that they keep, for
one that neither keeps, and for a listing. The streams take different parts of it at a time. -/
theorem afterTurns_of_capacity_le_listed :
    ∃ (small large : Settings) (stream stream' : Limited) (turns : List Turn) (turn : Turn),
      small.historyCapacity = 2 ∧ large.historyCapacity = 3 ∧ stream.Roomy ∧ stream'.Roomy ∧
      (turns ++ [turn]).map Turn.line = ["ls", "true x", "sleep y &", "!2", "!9", "history"] ∧
      RecallAlike 9 (ofSettings small stream) (ofSettings large stream') (turns ++ [turn]) ∧
      let o := (turn.action 9).run ((ofSettings small stream).afterTurns 9 turns)
      let p := (turn.action 9).run ((ofSettings large stream').afterTurns 9 turns)
      o.shell.history.toList = [⟨4, "true x"⟩, ⟨5, "history"⟩] ∧
      o.shell.roster.tracked = [3] ∧ o.shell.roster = p.shell.roster ∧
      ∃ older, p.shell.history.toList = older ++ o.shell.history.toList ∧
        p.trace.output = Entry.listing older ++ o.trace.output := by
  let small : Settings := { historyCapacity := 2 }
  let large : Settings := { historyCapacity := 3 }
  let stream : Limited := ⟨none, some 3, .other, none⟩
  let turns : List Turn := ["ls", "true x", "sleep y &", "!2", "!9"].map (⟨Host.echoing, id, ·⟩)
  let turn : Turn := ⟨Host.echoing, ChildTable.finishAll, "history"⟩
  have hstream : stream.Roomy := ⟨rfl, by decide, rfl⟩
  have hunlimited : Limited.unlimited.Roomy := ⟨rfl, by decide, rfl⟩
  have hclear : Limited.conveyance.Clear stream := ⟨hstream, rfl⟩
  have hclear' : Limited.conveyance.Clear Limited.unlimited := ⟨hunlimited, rfl⟩
  have hrecall : RecallAlike 9 (ofSettings small stream) (ofSettings large Limited.unlimited)
      (turns ++ [turn]) := by decide +kernel
  obtain ⟨-, -, -, hroster, -, -, -, hlisted⟩ :=
    afterTurns_of_capacity_le (by decide) hclear hclear' hrecall
  have hstores : ((ofSettings small stream).afterTurns 9 turns).Stores 9 historyLine historyLine :=
    .listed (by decide) rfl
  obtain ⟨older, hsplit, -, houtput⟩ := hlisted hstores
  exact ⟨small, large, stream, .unlimited, turns, turn, rfl, rfl, hstream, hunlimited, rfl, hrecall,
    by decide +kernel, by decide +kernel, hroster, older, hsplit, houtput⟩

end Shell

end LineShell
