import LineShell.Proofs.Dialogue.Recital
import LineShell.Proofs.Shell.Service

/-!
# What is said when a shell is left

The history of a new shell is that of the lines kept in the course of its dialogue, and a dialogue
that comes to its end reports the number before the next one.
-/

namespace LineShell

open LineShell.Action

variable {σ α : Type}

namespace Action

theorem Logs.attempt {x : Action σ α} (hx : Logs x) : Logs (attempt x) :=
  fun s => hx s

theorem Logs.observe {x : Action σ α} (hx : Logs x) : Logs (observe x) :=
  fun s => hx s

theorem logs_print [OutputStream σ] (text : String) : Logs (print text : Action σ Unit) := by
  refine .bind (logs_emit _).attempt fun answer => ?_
  cases answer with
  | ok => exact logs_pure _
  | error fault => exact .bind (logs_tell rfl) fun _ => logs_fail fault

end Action

variable [OutputStream σ]

theorem Shell.logs_evaluate (host : Host) (limit : Nat) (line : String) :
    Logs (evaluate host limit line : Action σ Flow) := by
  intro s
  rw [run_evaluate]
  exact (Plan.logs_action host (Plan.recorded_ofLine s.history limit line)).bind
    (fun _ => logs_pure _) s

namespace Dialogue

theorem logs_respond (host : Host) (settings : Settings) (reading : Reading) :
    Logs (respond host settings reading : Action σ (Option Ending)) := by
  cases reading with
  | line text =>
      refine (Shell.logs_evaluate host settings.lineLimit text).bind fun flow => ?_
      cases flow with
      | stay => exact logs_pure _
      | leave => exact logs_pure _
  | malformed => exact .bind (logs_print _) fun _ => logs_pure _
  | endOfInput => exact .bind (logs_tell rfl) fun _ => logs_pure _

theorem logs_turn (host : Host) (settings : Settings) (ended : List Pid) (input : List UInt8) :
    Logs (turn host settings ended input : Action σ (Option Ending)) := by
  rw [turn_eq]
  refine .bind (Shell.logs_idle _) fun _ =>
    .bind (.bind Shell.logs_collect fun _ => logs_pure _) fun _ =>
      .bind (Logs.attempt (.bind (logs_emit _) fun _ => .bind (logs_emit _) fun _ => logs_pure _))
        fun reading => ?_
  cases reading with
  | error cause => exact .bind (logs_print _) fun _ => logs_pure _
  | ok reading => exact logs_respond host settings reading

variable (host : Octets → Host) (settings : Settings) (ended : Nat → List Pid)

theorem logs_turns (n : Nat) (intake : Intake) :
    Logs (turns host settings ended n intake : Action σ Ending) := by
  induction n, intake using turns.induct with
  | case1 n intake hzero =>
      rw [turns, dif_pos hzero]
      exact (logs_turn _ _ _ _).bind fun _ => logs_pure _
  | case2 n intake hzero ih =>
      rw [turns, dif_neg hzero]
      refine (logs_turn _ _ _ _).observe.bind fun observed => ?_
      obtain ⟨_ | ending, trace⟩ := observed
      · exact ih trace
      · exact logs_pure _

theorem logs_run (input : List UInt8) :
    Logs (run host settings ended input : Action σ Ending) := by
  refine (logs_turns host settings ended 0 _).bind fun ending s => ?_
  rw [run_state_bind]
  exact (logs_tell rfl).bind (fun _ => logs_pure ending) s

/-- The history that a new shell is left with is that of the lines it has kept. -/
theorem history_run (input : List UInt8) (stream : σ) :
    let o := (run host settings ended input).run (Shell.ofSettings settings stream)
    o.shell.history = Ring.ofTexts settings.historyCapacity o.trace.recorded :=
  logs_run host settings ended input (Shell.ofSettings settings stream)

/-- The last thing that a dialogue does is to report the number before the next one. -/
theorem getLast?_trace_run (input : List UInt8) {s : Shell σ} {ending : Ending}
    (h : ((run host settings ended input).run s).answer = .ok ending) :
    let o := (run host settings ended input).run s
    o.trace.getLast? = some (.noted (.leaving (o.shell.history.nextId - 1))) := by
  rw [run, run_bind] at h ⊢
  generalize (turns host settings ended 0 (Intake.ofInput input)).run s = p at h ⊢
  obtain ⟨s', t, fault | ending'⟩ := p
  · cases h
  · exact List.getLast?_concat

end Dialogue

end LineShell
