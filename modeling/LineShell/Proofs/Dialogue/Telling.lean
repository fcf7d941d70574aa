import LineShell.Proofs.Dialogue.Transcript
import LineShell.Proofs.Shell.Running

/-!
# What lines tell

On a stream that works, what a line writes is decided by the history, by the limit on lines and by
what the programs of the host write. So the output of a run over any lines is a function of these,
which needs no shell. Main statements: `Task.tells_action` and `Report.output_ofRun_eq_told`.
-/

namespace LineShell

open LineShell.Action

/-! ## Tasks -/

/-- What a task writes where this is the history, and the history behind it. -/
def Task.told (host : Host) (h : History) : Task → List UInt8 × History
  | rest => ([], h)
  | say text => (Text.utf8 (text ++ "\n"), h)
  | list => (Entry.listing (h.insert historyLine).toList, h.insert historyLine)
  | run argv line _ => (host.outputOf argv line, h.insert line)

variable {σ α : Type} [OutputStream σ] {V : Conveyance σ} {host : Host}

/-- What has been written and kept is what was told, and the stream holds nothing back. -/
structure Outcome.Tells (V : Conveyance σ) (o : Outcome σ α) (told : List UInt8 × History) :
    Prop where
  output : o.trace.output = told.1
  history : o.shell.history = told.2
  clear : V.Clear o.shell.stream

theorem Outcome.Delivers.tells {o : Outcome σ Unit} {s : Shell σ} {bytes : List UInt8}
    (h : o.Delivers V s bytes) : o.Tells V (bytes, s.history) where
  output := h.output
  history := by
    rw [h.shell]
    rfl
  clear := h.clear

theorem Task.tells_action (hf : host.Forks) (t : Task) {s : Shell σ} (hs : V.Clear s.stream) :
    ((t.action host).run s).Tells V (t.told host s.history) := by
  cases t with
  | rest => exact ⟨rfl, rfl, hs⟩
  | say text => exact (delivers_say hs host text).tells
  | list =>
      obtain ⟨o, hdelivers, hrun⟩ := exists_run_list hs host
      obtain ⟨houtput, hhistory, hclear⟩ := hdelivers.tells
      rw [hrun]
      refine ⟨?_, hhistory, hclear⟩
      rw [Trace.output_append, Trace.output_noted, houtput]
      rfl
  | run argv line background =>
      obtain ⟨⟨hanswer, -⟩, hemitted, -⟩ := V.flush hs.works
      obtain ⟨-, houtput⟩ := output_run_of_ok hf argv line background hanswer
      refine ⟨?_, (launches_run_of_ok hf hanswer).1, keepsClear_action host _ s hs⟩
      rw [houtput, hemitted, hs.held]
      rfl

theorem Shell.tells_evaluate (hf : host.Forks) (limit : Nat) (line : String) {s : Shell σ}
    (hs : V.Clear s.stream) :
    ((evaluate host limit line).run s).Tells V
      ((Plan.ofLine s.history limit line).task.told host s.history) := by
  obtain ⟨houtput, hhistory, hclear⟩ :=
    Task.tells_action hf (Plan.ofLine s.history limit line).task hs
  rw [run_evaluate_task]
  refine ⟨?_, hhistory, hclear⟩
  rw [Trace.output_append, Trace.output_noted, houtput]
  rfl

/-! ## Dialogues -/

/-- A line that asks for no more than that its own words be run. -/
structure RunsProgram (limit : Nat) (line : String) : Prop where
  notExit : line ≠ exitLine
  notHistory : line ≠ historyLine
  short : line.utf8ByteSize ≤ limit
  filled : (Command.ofLine line).argv ≠ []
  notRecalled : (Command.ofLine line).recalled? = none

theorem RunsProgram.task_eq {limit : Nat} {line : String} (hline : RunsProgram limit line)
    (h : History) : (Plan.ofLine h limit line).task =
      .run (Command.ofLine line).argv line (Command.ofLine line).background := by
  rw [Plan.ofLine_of_not_recalled? hline.notExit hline.short hline.notRecalled, Task.ofText,
    if_neg hline.filled, Task.ofWords, if_neg hline.notHistory]

namespace Dialogue

/-- What lines tell from a history on, each behind the prompt, and the last prompt. -/
def told (host : Host) (settings : Settings) : History → List String → List UInt8
  | _, [] => Text.utf8 settings.prompt
  | h, line :: lines =>
    let line := (Plan.ofLine h settings.lineLimit line).task.told host h
    Text.utf8 settings.prompt ++ (line.1 ++ told host settings line.2 lines)

theorem written_eq_told (hf : host.Forks) (settings : Settings) (lines : List String)
    {s : Shell σ} (hs : V.Clear s.stream) :
    written host settings s lines = told host settings s.history lines := by
  induction lines generalizing s with
  | nil => rfl
  | cons line lines ih =>
      obtain ⟨houtput, hhistory, hclear⟩ := Shell.tells_evaluate hf settings.lineLimit line hs
      rw [written, told, houtput, ih hclear, hhistory]

/-- Lines that only run programs tell what these write. -/
theorem told_of_programs {settings : Settings} {lines : List String}
    (h : ∀ line ∈ lines, RunsProgram settings.lineLimit line) (history : History) :
    told host settings history lines =
      (lines.flatMap fun line => Text.utf8 settings.prompt ++
        host.outputOf (Command.ofLine line).argv line) ++ Text.utf8 settings.prompt := by
  induction lines generalizing history with
  | nil => rfl
  | cons line lines ih =>
      obtain ⟨hline, hlines⟩ := List.forall_mem_cons.mp h
      rw [told, hline.task_eq, List.flatMap_cons, List.append_assoc, List.append_assoc]
      dsimp only [Task.told]
      rw [ih hlines]

end Dialogue

namespace Report

variable {host : Octets → Host} {lookup : String → Option String} {settings : Settings}
  {input : List UInt8}

/-- The output of a run is what the lines of its course tell to an empty history. -/
theorem output_ofRun_eq_told (hlookup : Settings.ofLookup lookup = .ok settings)
    (hforks : ∀ input, (host input).Forks)
    (hlines : ∀ line ∈ (Course.ofInput input).lines, Host.LeavesInput host line)
    (ended : Nat → List Pid) (logger : Logger) :
    (ofRun host ended lookup input logger).output =
      Dialogue.told (host []) settings (Ring.empty settings.historyCapacity)
        (Course.ofInput input).lines ++ (Course.ofInput input).ending.notice := by
  have hclear : Limited.conveyance.Clear Limited.unlimited := ⟨⟨rfl, nofun, rfl⟩, rfl⟩
  rw [ofRun_eq hlookup hforks hlines ended]
  refine (Dialogue.output_recital (hforks []) settings (Course.ofInput input) rfl).1.trans ?_
  rw [Dialogue.written_eq_told (hforks []) settings _ hclear]
  rfl

end Report

end LineShell
