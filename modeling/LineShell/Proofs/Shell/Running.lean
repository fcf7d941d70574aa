import LineShell.Proofs.Shell.Delivery

/-!
# Running a line in either mode

What has been said is flushed before a line is run. A flush that fails is the end of it. Otherwise
the line is run in a child, or reported if its words cannot be handed to one, and is kept either
way. Whether the shell waits for the child shows in the tracked pids and nowhere else. Main
statement: `Shell.execute_modes`.
-/

namespace LineShell

open LineShell.Action

variable {σ : Type} {host : Host} {argv : List String} {line : String} {background : Bool}

theorem exists_eq_append_singleton_iff {α : Type} {as bs cs : List α} (h : bs = as ++ cs) :
    (∃ a, bs = as ++ [a]) ↔ cs.length = 1 := by
  subst h
  simp [List.length_eq_one_iff]

theorem Action.output_emit (f : σ → Emission σ Unit) (s : Shell σ) :
    ((emit f).run s).trace.output = (f s.stream).emitted := by
  rw [Trace.output_eq_streamed (speaks_emit f s).2, streamed_emit]

/-! ## What is written for a line -/

/-- What reaches the descriptor past the stream when a line is run: the output of its program, or
the report that there is none. -/
def Host.outputOf (host : Host) (argv : List String) (line : String) : List UInt8 :=
  if IsPassable argv then (host.writing argv line).output else Text.utf8 (notFound line)

/-- A host that creates children and has no program for them. -/
def Host.bare : Host where
  fork attempts _ := .ok (attempts + 1)
  exec _ := none

theorem Host.forks_bare : Host.bare.Forks := fun attempts _ => ⟨attempts + 1, rfl⟩

/-- Words that cannot be run are reported in one way, be it the child that does so or the shell. -/
theorem Host.outputOf_of_not_runs (h : ¬ IsPassable argv ∨ host.exec argv = none) :
    host.outputOf argv line = Text.utf8 (notFound line) := by
  rw [outputOf]
  split_ifs with hargv
  · rw [writing, h.resolve_left fun hnot => hnot hargv]
    rfl
  · rfl

theorem Shell.output_launch (hf : host.Forks) (argv : List String) (line : String)
    (background : Bool) (s : Shell σ) :
    ((launch host argv line background).run s).trace.output = host.outputOf argv line := by
  rw [Host.outputOf]
  split_ifs with hargv
  · obtain ⟨pid, hpid⟩ := hf s.forks s.roster.table
    obtain ⟨roster, children, hrun⟩ := exists_run_launch hpid hargv line background
    rw [hrun]
    change (host.writing argv line).output ++ Trace.output (children.map .collected) = _
    rw [(Trace.shows_collected children).1, List.append_nil]
  · rw [run_launch_of_not_isPassable hargv]
    exact List.append_nil _

variable [OutputStream σ] {s : Shell σ}

/-- A line is run once the flush has gone through, and what has been said before comes first. -/
theorem Task.output_run_of_ok (hf : host.Forks) (argv : List String) (line : String)
    (background : Bool) (h : (OutputStream.flush s.stream).answer = .ok ()) :
    let o := ((run argv line background).action host).run s
    o.answer = .ok () ∧
      o.trace.output = (OutputStream.flush s.stream).emitted ++ host.outputOf argv line := by
  obtain ⟨s', t, ht⟩ := Shell.exists_run_launch_of_forks hf argv line background
    (s.on (OutputStream.flush s.stream).stream)
  have houtput := Shell.output_launch hf argv line background
    (s.on (OutputStream.flush s.stream).stream)
  rw [ht] at houtput
  rw [run_run_of_ok h, run_bind_of_ok ht]
  refine ⟨rfl, ?_⟩
  change Trace.output (((flush : Action σ Unit).run s).trace ++ (t ++ [_])) = _
  rw [Trace.output_append, Trace.output_append, flush, output_emit]
  exact congrArg _ ((List.append_nil _).trans houtput)

/-! ## The two modes -/

namespace Shell

/-- A line that comes to a listing, or that a flush has kept from being run, has no mode. -/
theorem execute_background_eq (host : Host) (argv : List String)
    (h : ¬ (line ≠ historyLine ∧ (OutputStream.flush s.stream).answer = .ok ())) :
    (execute host argv line true).run s = (execute host argv line false).run s ∧
      ((execute host argv line false).run s).shell.roster = s.roster := by
  rw [execute_eq, execute_eq, Task.ofWords, Task.ofWords]
  split_ifs with hline
  · exact ⟨rfl,
      (Task.spares_writeEntries { s with history := s.history.insert historyLine }).roster⟩
  · cases hflush : (OutputStream.flush s.stream).answer with
    | ok => exact absurd ⟨hline, hflush⟩ h
    | error f =>
        rw [Task.run_run_of_error hflush, Task.run_run_of_error hflush]
        exact ⟨rfl, rfl⟩

theorem execute_of_flush (hf : host.Forks) (argv : List String) (hline : line ≠ historyLine)
    (hflush : (OutputStream.flush s.stream).answer = .ok ()) (background : Bool) :
    let q := (execute host argv line background).run s
    q.answer = .ok () ∧ q.shell.history = s.history.insert line ∧
      q.trace.output = (OutputStream.flush s.stream).emitted ++ host.outputOf argv line ∧
      ∃ pids, pids.length = (if IsPassable argv then 1 else 0) ∧
        q.Launches s argv background pids := by
  rw [execute_eq, Task.ofWords, if_neg hline]
  obtain ⟨hanswer, houtput⟩ := Task.output_run_of_ok hf argv line background hflush
  refine ⟨hanswer, ?_, houtput, ?_⟩
  · exact (Task.launches_run_of_ok hf hflush).1
  · exact (Task.launches_run_of_ok hf hflush).2

/-- Whether a line is run in the foreground or in the background makes no difference to the answer,
the history and the output. It makes one to the tracked pids just if a child is created, and then
one pid. Words that cannot be run are reported once, in either mode, and the line is kept. -/
theorem execute_modes (hf : host.Forks) (argv : List String) (line : String) (s : Shell σ) :
    let o := (execute host argv line true).run s
    let p := (execute host argv line false).run s
    (o.answer = p.answer ∧ o.shell.history = p.shell.history ∧ o.trace.output = p.trace.output) ∧
    p.shell.roster.tracked = s.roster.tracked ∧
    (∀ pid, o.shell.roster.tracked = p.shell.roster.tracked ++ [pid] →
      o.trace.launches = [⟨pid, s.forks, argv, true⟩]) ∧
    ((∃ pid, o.shell.roster.tracked = p.shell.roster.tracked ++ [pid]) ↔
      line ≠ historyLine ∧ (OutputStream.flush s.stream).answer = .ok () ∧ IsPassable argv) ∧
    (¬ (line ≠ historyLine ∧ (OutputStream.flush s.stream).answer = .ok () ∧ IsPassable argv) →
      o.shell.roster.tracked = p.shell.roster.tracked) ∧
    (line ≠ historyLine → (OutputStream.flush s.stream).answer = .ok () →
      ¬ IsPassable argv ∨ host.exec argv = none → ∀ background,
        let q := (execute host argv line background).run s
        q.answer = .ok () ∧ q.shell.history = s.history.insert line ∧
        q.trace.output =
          (OutputStream.flush s.stream).emitted ++ Text.utf8 (line ++ ": command not found\n")) := by
  intro o p
  by_cases hruns : line ≠ historyLine ∧ (OutputStream.flush s.stream).answer = .ok ()
  · -- One child in either mode, or none. Only its mode tells whether its pid is tracked.
    obtain ⟨hline, hflush⟩ := hruns
    have hran := execute_of_flush hf argv hline hflush
    obtain ⟨hanswer, hhistory, houtput, pids, hlength, hlaunches, htracked⟩ := hran true
    obtain ⟨hanswer', hhistory', houtput', _, -, -, htracked'⟩ := hran false
    rw [if_neg Bool.false_ne_true, List.append_nil] at htracked'
    rw [if_pos rfl, ← htracked'] at htracked
    have hone : (∃ pid, o.shell.roster.tracked = p.shell.roster.tracked ++ [pid]) ↔
        IsPassable argv := by
      rw [exists_eq_append_singleton_iff htracked, hlength]
      split_ifs with hargv <;> simp [hargv]
    refine ⟨⟨hanswer.trans hanswer'.symm, hhistory.trans hhistory'.symm,
      houtput.trans houtput'.symm⟩, htracked', ?_, ?_, ?_, ?_⟩
    · intro pid hpid
      obtain rfl : pids = [pid] := List.append_cancel_left (htracked.symm.trans hpid)
      exact hlaunches
    · exact hone.trans ⟨fun hargv => ⟨hline, hflush, hargv⟩, fun h => h.2.2⟩
    · intro hnone
      have hargv : ¬ IsPassable argv := fun hargv => hnone ⟨hline, hflush, hargv⟩
      rw [if_neg hargv] at hlength
      obtain rfl : pids = [] := List.length_eq_zero_iff.mp hlength
      rw [htracked, List.append_nil]
    · intro _ _ hnot background
      obtain ⟨hanswer, hhistory, houtput, -⟩ := hran background
      rw [Host.outputOf_of_not_runs hnot] at houtput
      exact ⟨hanswer, hhistory, houtput⟩
  · obtain ⟨heq, hroster⟩ := execute_background_eq host argv hruns
    have hop : o = p := heq
    have hnone : ¬ (line ≠ historyLine ∧ (OutputStream.flush s.stream).answer = .ok () ∧
        IsPassable argv) := fun h => hruns ⟨h.1, h.2.1⟩
    have hno (pid : Pid) : p.shell.roster.tracked ≠ p.shell.roster.tracked ++ [pid] := by simp
    rw [hop]
    exact ⟨⟨rfl, rfl, rfl⟩, congrArg Roster.tracked hroster, fun pid h => absurd h (hno pid),
      ⟨fun ⟨pid, h⟩ => absurd h (hno pid), fun h => absurd h hnone⟩, fun _ => rfl,
      fun hline hflush => absurd ⟨hline, hflush⟩ hruns⟩

/-- Words for which there is no program leave a child behind that is tracked in the background. All
words that cannot be run are reported with the same bytes. -/
theorem execute_modes_not_found :
    let s : Shell Limited := ofSettings {} .unlimited
    Host.bare.Forks ∧
    (∃ pid, ((execute Host.bare ["no"] "no &" true).run s).shell.roster.tracked =
      ((execute Host.bare ["no"] "no &" false).run s).shell.roster.tracked ++ [pid]) ∧
    ∀ argv ∈ [["no"], [], ["no", "\x00"]], ∀ background,
      ((execute Host.bare argv "no &" background).run s).trace.output =
        Text.utf8 "no &: command not found\n" := by
  intro s
  obtain ⟨-, -, -, htracked, -⟩ := execute_modes Host.forks_bare ["no"] "no &" s
  refine ⟨Host.forks_bare, htracked.mpr ⟨by decide, rfl, by decide⟩, fun argv _ background => ?_⟩
  obtain ⟨-, -, -, -, -, hnot⟩ := execute_modes Host.forks_bare argv "no &" s
  exact (hnot (by decide) rfl (.inr rfl) background).2.2

end Shell

end LineShell
