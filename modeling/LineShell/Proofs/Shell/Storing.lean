import LineShell.Proofs.Shell.Children
import LineShell.Proofs.Shell.Completion
import LineShell.Proofs.Shell.Plan
import LineShell.Proofs.Shell.Reachable
import LineShell.Proofs.Shell.Streamless

/-!
# What one line stores and launches

A line that is evaluated puts one text into the history or none, and launches one child or none; a
child is launched only for a text that is stored. Which it is can be said before, from the line, the
history and one flush of the stream.
-/

namespace LineShell

open LineShell.Action

/-- The children that are created, in their order. -/
def Trace.launches (t : Trace) : List Launch :=
  t.filterMap fun
    | .launched launch => some launch
    | _ => none

variable {σ α β : Type} {host : Host}

namespace Trace

@[simp] theorem launches_append (t u : Trace) :
    Trace.launches (t ++ u) = t.launches ++ u.launches :=
  List.filterMap_append

@[simp] theorem launches_collected (children : List Child) :
    Trace.launches (children.map .collected) = [] := by
  simp [launches]

@[simp] theorem launches_noted (ds : List Diagnostic) :
    Trace.launches (ds.map .noted) = [] := by
  simp [launches]

end Trace

/-! ## Outcomes that change nothing but the stream -/

/-- The history and the children are those of before, and no child has been created. -/
structure Outcome.Spares (o : Outcome σ α) (s : Shell σ) : Prop where
  history : o.shell.history = s.history
  roster : o.shell.roster = s.roster
  launches : o.trace.launches = []

/-- Whatever the shell is, it is spared. -/
def Action.Spares (x : Action σ α) : Prop :=
  ∀ s, (x.run s).Spares s

namespace Action

theorem Spares.bind {x : Action σ α} {f : α → Action σ β} (hx : Spares x)
    (hf : ∀ a, Spares (f a)) : Spares (x >>= f) := by
  intro s
  have hs := hx s
  rw [run_bind]
  generalize x.run s = o at hs
  obtain ⟨s', t, e | a⟩ := o
  · exact ⟨hs.history, hs.roster, hs.launches⟩
  · have hs' := hf a s'
    refine ⟨hs'.history.trans hs.history, hs'.roster.trans hs.roster, ?_⟩
    change Trace.launches (t ++ ((f a).run s').trace) = []
    rw [Trace.launches_append, hs'.launches, List.append_nil]
    exact hs.launches

theorem spares_pure (a : α) : Spares (pure a : Action σ α) := fun _ => ⟨rfl, rfl, rfl⟩

theorem spares_reports (ds : List Diagnostic) : Spares (tell (ds.map .noted) : Action σ Unit) :=
  fun _ => ⟨rfl, rfl, Trace.launches_noted ds⟩

theorem spares_emit (f : σ → Emission σ Unit) : Spares (emit f) := by
  intro s
  refine ⟨rfl, rfl, ?_⟩
  change Trace.launches (if (f s.stream).emitted = [] then [] else _) = []
  split <;> rfl

end Action

/-! ## Launching -/

theorem Host.forks_echoing : echoing.Forks := fun attempts _ => ⟨attempts + 1, rfl⟩

/-- For some words there is a child of each of the pids, tracked if it is to run in the
background. -/
structure Outcome.Launches (o : Outcome σ α) (s : Shell σ) (argv : List String)
    (background : Bool) (pids : List Pid) : Prop where
  launches : o.trace.launches = pids.map fun pid => ⟨pid, s.forks, argv, background⟩
  tracked : o.shell.roster.tracked = s.roster.tracked ++ if background then pids else []

namespace Shell

/-- A program is run in one child, and in none if the words cannot be handed to a program. -/
theorem exists_launches_launch (hf : host.Forks) (argv : List String) (line : String)
    (background : Bool) (s : Shell σ) :
    ∃ pids, pids.length = (if IsPassable argv then 1 else 0) ∧
      ((launch host argv line background).run s).Launches s argv background pids := by
  by_cases hargv : IsPassable argv
  · obtain ⟨pid, hpid⟩ := hf s.forks s.roster.table
    refine ⟨[pid], by rw [if_pos hargv]; rfl, ?_⟩
    cases background with
    | true =>
        rw [run_launch_background hpid hargv]
        exact ⟨rfl, rfl⟩
    | false =>
        rw [run_launch_foreground hpid hargv]
        refine ⟨?_, (List.append_nil _).symm⟩
        exact congrArg (_ :: ·) (Trace.launches_collected _)
  · refine ⟨[], by rw [if_neg hargv]; rfl, ?_⟩
    rw [run_launch_of_not_isPassable hargv]
    exact ⟨rfl, by cases background <;> exact (List.append_nil _).symm⟩

theorem exists_run_launch_of_forks (hf : host.Forks) (argv : List String) (line : String)
    (background : Bool) (s : Shell σ) :
    ∃ s' t, (launch host argv line background).run s = ⟨s', t, .ok ()⟩ := by
  obtain ⟨⟨⟨⟩, hanswer⟩, -⟩ :=
    completes_launch (W := fun _ => True) hf argv line background s trivial
  exact ⟨_, _, congrArg (Outcome.mk _ _) hanswer⟩

end Shell

/-! ## What a task does -/

variable [OutputStream σ]

namespace Task

/-- The text that a task puts into the history. No program is run after a flush that fails. -/
def Stores (stream : σ) : Task → String → Prop
  | rest, _ => False
  | say _, _ => False
  | list, text => text = historyLine
  | run _ line _, text => text = line ∧ (OutputStream.flush stream).answer = .ok ()

theorem spares_rest : Spares (rest.action host : Action σ Unit) := spares_pure ()

theorem spares_say (text : String) : Spares ((say text).action host : Action σ Unit) :=
  .bind (spares_emit _) fun _ => spares_emit _

theorem spares_writeEntries : Spares (Shell.writeEntries : Action σ Unit) := by
  intro s
  rw [Shell.writeEntries, run_state_bind]
  exact Spares.bind (spares_reports [_])
    (fun _ => .bind (forM_induction (spares_pure _) (fun hx hy => .bind hx fun _ => hy)
      (fun _ => spares_emit _) _) fun _ => spares_emit _) s

theorem launches_list (host : Host) (argv : List String) (background : Bool) (s : Shell σ) :
    ((list.action host).run s).shell.history = s.history.insert historyLine ∧
      ((list.action host).run s).Launches s argv background [] := by
  refine ⟨Shell.history_list s, ?_⟩
  obtain ⟨-, hroster, hlaunches⟩ :=
    spares_writeEntries { s with history := s.history.insert historyLine }
  constructor
  · exact hlaunches
  · rw [ite_self, List.append_nil]
    exact congrArg Roster.tracked hroster

section Flushing

variable {argv : List String} {line : String} {background : Bool} {s : Shell σ} {f : Failure}

theorem run_run_of_error (h : (OutputStream.flush s.stream).answer = .error f) :
    ((run argv line background).action host).run s =
      ⟨s.on (OutputStream.flush s.stream).stream, ((flush : Action σ Unit).run s).trace,
        .error (.output f)⟩ := by
  have hflush := run_flush s
  rw [h] at hflush
  exact run_bind_of_error hflush

theorem run_run_of_ok (h : (OutputStream.flush s.stream).answer = .ok ()) :
    let q := (Shell.launch host argv line background >>= fun _ => discard (Shell.record line)).run
      (s.on (OutputStream.flush s.stream).stream)
    ((run argv line background).action host).run s =
      { q with trace := ((flush : Action σ Unit).run s).trace ++ q.trace } := by
  have hflush := run_flush s
  rw [h] at hflush
  exact run_bind_of_ok hflush

/-- A flush is all that is done if it fails. -/
theorem spares_run_of_error (h : (OutputStream.flush s.stream).answer = .error f) :
    (((run argv line background).action host).run s).Spares s ∧
      (((run argv line background).action host).run s).answer = .error (.output f) := by
  obtain ⟨-, -, hlaunches⟩ := spares_emit OutputStream.flush s
  rw [run_run_of_error h]
  exact ⟨⟨rfl, rfl, hlaunches⟩, rfl⟩

theorem launches_run_of_ok (hf : host.Forks) (h : (OutputStream.flush s.stream).answer = .ok ()) :
    (((run argv line background).action host).run s).shell.history = s.history.insert line ∧
      ∃ pids, pids.length = (if IsPassable argv then 1 else 0) ∧
        (((run argv line background).action host).run s).Launches s argv background pids := by
  have hquiet := (spares_emit OutputStream.flush s).launches
  rw [run_run_of_ok h]
  generalize hs₁ : s.on (OutputStream.flush s.stream).stream = s₁
  obtain ⟨s₂, t, ht⟩ := Shell.exists_run_launch_of_forks hf argv line background s₁
  have hhistory := Shell.keepsHistory_launch host argv line background s₁
  obtain ⟨pids, hlength, hlaunches⟩ := Shell.exists_launches_launch hf argv line background s₁
  rw [ht] at hhistory hlaunches
  rw [run_bind_of_ok ht]
  subst hs₁
  refine ⟨congrArg (Ring.insert · line) hhistory, pids, hlength, ?_, hlaunches.tracked⟩
  change Trace.launches (((flush : Action σ Unit).run s).trace ++ (t ++ [_])) = _
  rw [Trace.launches_append, Trace.launches_append, flush, hquiet, List.nil_append]
  exact (List.append_nil _).trans hlaunches.launches

end Flushing

theorem spares_of_not_stores {t : Task} {s : Shell σ} (h : ∀ text, ¬ t.Stores s.stream text) :
    ((t.action host).run s).Spares s := by
  cases t with
  | rest => exact spares_rest s
  | say text => exact spares_say text s
  | list => exact absurd rfl (h historyLine)
  | run argv line background =>
      cases hflush : (OutputStream.flush s.stream).answer with
      | ok => exact absurd ⟨rfl, hflush⟩ (h line)
      | error f => exact (spares_run_of_error hflush).1

theorem stores_ofText_iff {stream : σ} {text stored : String} :
    (ofText text).Stores stream stored ↔
      stored = text ∧ (Command.ofLine text).argv ≠ [] ∧
        (text = historyLine ∨ (OutputStream.flush stream).answer = .ok ()) := by
  unfold ofText ofWords
  split_ifs with hargv hline
  · simp [Stores, hargv]
  · subst hline
    simp [Stores, hargv]
  · simp [Stores, hargv, hline]

/-- A text that is stored is run in a child of its own, unless it names a listing or holds words
that cannot be handed to a program. -/
theorem launches_ofText (hf : host.Forks) {text : String} {s : Shell σ}
    (h : (ofText text).Stores s.stream text) :
    let o := ((ofText text).action host).run s
    o.shell.history = s.history.insert text ∧
      ∃ pids,
        pids.length =
          (if text ≠ historyLine ∧ IsPassable (Command.ofLine text).argv then 1 else 0) ∧
        o.Launches s (Command.ofLine text).argv (Command.ofLine text).background pids := by
  obtain ⟨-, hargv, hflush⟩ := stores_ofText_iff.mp h
  by_cases hline : text = historyLine
  · have htask : ofText text = list := by
      rw [ofText, if_neg hargv, ofWords, if_pos hline]
    rw [htask, if_neg fun h => h.1 hline]
    obtain ⟨hhistory, hlaunches⟩ := launches_list host (Command.ofLine text).argv
      (Command.ofLine text).background s
    exact ⟨by rw [hhistory, hline], [], rfl, hlaunches⟩
  · have htask : ofText text =
        run (Command.ofLine text).argv text (Command.ofLine text).background := by
      rw [ofText, if_neg hargv, ofWords, if_neg hline]
    rw [htask]
    simp only [ne_eq, hline, not_false_eq_true, true_and]
    exact launches_run_of_ok hf (hflush.resolve_left hline)

end Task

/-- All that a line can store is a text that it comes to run. -/
theorem Plan.task_eq_of_stores {h : History} {limit : Nat} {line text : String} {stream : σ}
    (hstores : (ofLine h limit line).task.Stores stream text) :
    (ofLine h limit line).task = .ofText text := by
  rcases task_ofLine_cases h limit line with htask | ⟨said, htask⟩ | ⟨stored, htask, -⟩
  · rw [htask] at hstores
    cases hstores
  · rw [htask] at hstores
    cases hstores
  · rw [htask] at hstores ⊢
    rw [(Task.stores_ofText_iff.mp hstores).1]

/-! ## What a line stores -/

namespace Shell

/-- Evaluating the line puts the text into the history: the line names a listing, or it is run
itself, or it recalls a text that is run. -/
inductive Stores (s : Shell σ) (limit : Nat) (line : String) : String → Prop where
  | listed (hsize : line.utf8ByteSize ≤ limit) (hline : line = historyLine) :
      Stores s limit line historyLine
  | typed {word : String} {words : List String} (hexit : line ≠ exitLine)
      (hsize : line.utf8ByteSize ≤ limit) (hargv : (Command.ofLine line).argv = word :: words)
      (hword : ¬ EventId.IsRecall word)
      (hflush : (OutputStream.flush s.stream).answer = .ok ()) : Stores s limit line line
  | recalled {word : String} {words : List String} {e : Entry Nat} (hexit : line ≠ exitLine)
      (hsize : line.utf8ByteSize ≤ limit) (hargv : (Command.ofLine line).argv = word :: words)
      (hword : EventId.IsRecall word) (hfind : s.history.find? (EventId.ofWord word) = some e)
      (hruns : (Command.ofLine e.text).argv ≠ [])
      (hflush : e.text = historyLine ∨ (OutputStream.flush s.stream).answer = .ok ()) :
      Stores s limit line e.text

/-- What a line stores is decided by what it comes to. -/
theorem stores_iff {s : Shell σ} {limit : Nat} {line text : String} :
    s.Stores limit line text ↔ (Plan.ofLine s.history limit line).task.Stores s.stream text := by
  constructor
  · intro h
    cases h with
    | listed hsize hline =>
        have hrecalled : (Command.ofLine historyLine).recalled? = none := by decide
        subst hline
        rw [Plan.ofLine_of_not_recalled? (by decide) hsize hrecalled]
        exact Task.stores_ofText_iff.mpr ⟨rfl, by decide, .inl rfl⟩
    | typed hexit hsize hargv hword hflush =>
        have hrecalled := Command.recalled?_of_cons hargv
        rw [if_neg hword] at hrecalled
        rw [Plan.ofLine_of_not_recalled? hexit hsize hrecalled]
        exact Task.stores_ofText_iff.mpr ⟨rfl, by simp [hargv], .inr hflush⟩
    | recalled hexit hsize hargv hword hfind hruns hflush =>
        have hrecalled := Command.recalled?_of_cons hargv
        rw [if_pos hword] at hrecalled
        rw [Plan.ofLine_of_recalled? hexit hsize hrecalled, Plan.ofRecall_of_some hfind]
        exact Task.stores_ofText_iff.mpr ⟨rfl, hruns, hflush⟩
  · -- The cases are those of the decision; where nothing is run, nothing is stored.
    intro h
    by_cases hexit : line = exitLine
    · rw [hexit, Plan.ofLine_exit] at h
      cases h
    rcases Nat.lt_or_ge limit line.utf8ByteSize with hsize | hsize
    · rw [Plan.ofLine_of_lt hexit hsize] at h
      cases h
    cases hrecalled : (Command.ofLine line).recalled? with
    | none =>
        rw [Plan.ofLine_of_not_recalled? hexit hsize hrecalled] at h
        obtain ⟨rfl, hruns, hflush⟩ := Task.stores_ofText_iff.mp h
        by_cases hline : text = historyLine
        · subst hline
          exact .listed hsize rfl
        obtain ⟨word, words, hargv⟩ := List.exists_cons_of_ne_nil hruns
        have hword : ¬ EventId.IsRecall word := by
          intro hword
          rw [Command.recalled?_of_cons hargv, if_pos hword] at hrecalled
          cases hrecalled
        exact .typed hexit hsize hargv hword (hflush.resolve_left hline)
    | some id =>
        obtain ⟨word, words, hargv, hword, rfl⟩ := Command.recalled?_eq_some_iff.mp hrecalled
        rw [Plan.ofLine_of_recalled? hexit hsize hrecalled] at h
        cases hfind : s.history.find? (EventId.ofWord word) with
        | none =>
            rw [Plan.ofRecall_of_none hfind] at h
            cases h
        | some e =>
            rw [Plan.ofRecall_of_some hfind] at h
            obtain ⟨rfl, hruns, hflush⟩ := Task.stores_ofText_iff.mp h
            exact .recalled hexit hsize hargv hword hfind hruns hflush

end Shell

/-- Texts that are kept in a ring with a slot can be told apart there. -/
theorem Ring.insert_inj {r : History} (hr : 0 < r.slots.size) {text text' : String}
    (h : r.insert text = r.insert text') : text = text' := by
  have hslot : r.advance r.newest < r.slots.size := Nat.mod_lt _ hr
  have hslots := congrArg (fun r : History => r.slots[r.newest]?) h
  simp only [newest_insert, slots_insert, Array.getElem?_setIfInBounds_self_of_lt hslot,
    Option.some.injEq, Entry.mk.injEq, true_and] at hslots
  exact hslots

theorem Ring.insert_ne (r : History) (text : String) : r.insert text ≠ r := by
  intro h
  have hid : r.nextId + 1 = r.nextId := (nextId_insert r text).symm.trans (congrArg Ring.nextId h)
  omega

namespace Shell

variable {s : Shell σ} {limit : Nat} {line text : String}

theorem answer_evaluate_eq_leave_iff :
    ((evaluate host limit line).run s).answer = .ok .leave ↔ line = exitLine := by
  constructor
  · intro hanswer
    by_contra hexit
    rw [evaluate_of_ne_exit hexit, run_bind] at hanswer
    split at hanswer <;> cases hanswer
  · intro hexit
    rw [evaluate, if_pos hexit]
    rfl

/-- A line launches what its task launches. -/
theorem launches_evaluate (host : Host) (limit : Nat) (line : String) (s : Shell σ) :
    let q := ((Plan.ofLine s.history limit line).task.action host).run s
    ((evaluate host limit line).run s).shell = q.shell ∧
      ((evaluate host limit line).run s).trace.launches = q.trace.launches := by
  rw [run_evaluate_task]
  refine ⟨rfl, ?_⟩
  simp only [Trace.launches_append, Trace.launches_noted, List.nil_append]

theorem evaluate_of_stores (hf : host.Forks) (htext : s.Stores limit line text) :
    let o := (evaluate host limit line).run s
    o.shell.history = s.history.insert text ∧ ∃ pids,
      pids.length = (if text ≠ historyLine ∧ IsPassable (Command.ofLine text).argv then 1 else 0) ∧
      o.Launches s (Command.ofLine text).argv (Command.ofLine text).background pids := by
  have htask := stores_iff.mp htext
  obtain ⟨hshell, hlaunches⟩ := launches_evaluate host limit line s
  have hp := Plan.task_eq_of_stores htask
  rw [hp] at htask hshell hlaunches
  obtain ⟨hhistory, pids, hlength, hpids⟩ := Task.launches_ofText hf htask
  exact ⟨hshell ▸ hhistory, pids, hlength, hlaunches.trans hpids.launches, hshell ▸ hpids.tracked⟩

theorem spares_evaluate (host : Host) (hnone : ∀ text, ¬ s.Stores limit line text) :
    ((evaluate host limit line).run s).Spares s := by
  obtain ⟨hshell, hlaunches⟩ := launches_evaluate host limit line s
  obtain ⟨hhistory, hroster, hquiet⟩ : Outcome.Spares _ s :=
    Task.spares_of_not_stores fun text htext => hnone text (stores_iff.mpr htext)
  exact ⟨hshell ▸ hhistory, hshell ▸ hroster, hlaunches.trans hquiet⟩

/-- A line that is evaluated leaves the shell if it is the one that does so. It puts one text into
the history, of which it launches at most one child, or it changes nothing but the stream. -/
theorem evaluate_stores_once (hf : host.Forks) {s : Shell σ} (hs : 0 < s.history.slots.size)
    (limit : Nat) (line : String) :
    let o := (evaluate host limit line).run s
    (o.answer = .ok .leave ↔ line = exitLine) ∧
    (∀ text, o.shell.history = s.history.insert text ↔ s.Stores limit line text) ∧
    (∀ text, s.Stores limit line text → ∃ pids,
      pids.length = (if text ≠ historyLine ∧ IsPassable (Command.ofLine text).argv then 1 else 0) ∧
      o.Launches s (Command.ofLine text).argv (Command.ofLine text).background pids) ∧
    ((∀ text, ¬ s.Stores limit line text) → o.Spares s) := by
  refine ⟨answer_evaluate_eq_leave_iff, ?_, ?_, spares_evaluate host⟩
  · intro text
    refine ⟨fun hhistory => ?_, fun htext => (evaluate_of_stores hf htext).1⟩
    by_contra htext
    -- If another text is stored, or none, the history is another one than it is said to be.
    by_cases hother : ∃ other, s.Stores limit line other
    · obtain ⟨other, hother⟩ := hother
      have heq := Ring.insert_inj hs (hhistory.symm.trans (evaluate_of_stores hf hother).1)
      exact htext (heq ▸ hother)
    · have hnone := (spares_evaluate host fun other h => hother ⟨other, h⟩).history
      exact Ring.insert_ne s.history text (hhistory.symm.trans hnone)
  · intro text htext
    exact (evaluate_of_stores hf htext).2

/-- A shell that has run two lines does not wait for the second when it is recalled. -/
theorem evaluate_stores_recalled_background :
    let s : Shell Limited :=
      ⟨Ring.ofTexts 2 ["ls", "sleep 5 &"], Roster.empty, 0, .unlimited⟩
    let o := (evaluate Host.echoing 8 "!2 now").run s
    Host.echoing.Forks ∧ 0 < s.history.slots.size ∧
      o.answer ≠ .ok .leave ∧ o.shell.history = Ring.ofTexts 2 ["ls", "sleep 5 &", "sleep 5 &"] ∧
      ∃ pid, o.trace.launches = [⟨pid, 0, ["sleep", "5"], true⟩] ∧
        o.shell.roster.tracked = [pid] := by
  intro s o
  have hargv : (Command.ofLine "!2 now").argv = ["!2", "now"] := by decide
  have hfind : s.history.find? (EventId.ofWord "!2") = some ⟨2, "sleep 5 &"⟩ := by decide
  have hstores : s.Stores 8 "!2 now" "sleep 5 &" :=
    .recalled (by decide) (by decide) hargv (by decide) hfind (by decide) (.inr rfl)
  obtain ⟨hanswer, hhistory, hlaunches, -⟩ :=
    evaluate_stores_once Host.forks_echoing (s := s) (by decide) 8 "!2 now"
  obtain ⟨pids, hlength, hpids, htracked⟩ := hlaunches _ hstores
  have hcommand : Command.ofLine "sleep 5 &" = ⟨["sleep", "5"], true⟩ := by decide
  rw [hcommand] at hlength hpids htracked
  rw [if_pos (by decide)] at hlength
  obtain ⟨pid, rfl⟩ := List.length_eq_one_iff.mp hlength
  exact ⟨Host.forks_echoing, by decide, fun h => absurd (hanswer.mp h) (by decide),
    (hhistory _).mpr hstores, pid, hpids, htracked⟩

end Shell

end LineShell
