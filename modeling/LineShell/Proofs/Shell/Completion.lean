import Mathlib.Tactic.SplitIfs
import LineShell.Proofs.Shell.Recording

/-!
# Evaluation without faults

Where every attempt to create a child succeeds and the stream accepts whatever it is offered, no
line ends in a fault.
-/

namespace LineShell

open LineShell.Action

/-- Every attempt to create a child succeeds. -/
def Host.Forks (host : Host) : Prop :=
  ∀ attempts table, ∃ pid, host.fork attempts table = .ok pid

variable {σ : Type} {W : σ → Prop} {host : Host}

namespace Shell

theorem completes_fork (hf : host.Forks) (argv : List String) (background : Bool) :
    Completes W (fork host argv background : Action σ Launch) := by
  refine .bind completes_state fun s => .bind (completes_modify fun _ => rfl) fun _ => ?_
  obtain ⟨pid, hpid⟩ := hf s.forks s.roster.table
  rw [hpid]
  exact .bind (completes_modify fun _ => rfl) fun _ =>
    .bind (completes_tell _) fun _ => completes_pure _

theorem completes_await (pid : Pid) : Completes W (await pid : Action σ Unit) := by
  refine .bind completes_state fun s => ?_
  split
  refine .bind (completes_modify fun _ => rfl) fun _ => ?_
  split
  · exact completes_tell _
  · exact completes_pure _

theorem completes_launch (hf : host.Forks) (argv : List String) (line : String)
    (background : Bool) : Completes W (launch host argv line background : Action σ Unit) := by
  rw [launch]
  split
  · refine .bind (completes_fork hf argv background) fun child =>
      .bind (completes_tell _) fun _ => ?_
    split
    · exact completes_modify fun _ => rfl
    · exact completes_await _
  · exact completes_tell _

theorem completes_record (text : String) : Completes W (record text : Action σ Nat) :=
  .bind completes_state fun _ => .bind (completes_modify fun _ => rfl) fun _ =>
    .bind (completes_tell _) fun _ => completes_pure _

variable [OutputStream σ]

theorem completes_sayAll (hW : OutputStream.Accepting W) (entries : List (Entry Nat)) :
    Completes W (entries.forM fun e => (say e.line : Action σ Unit)) :=
  forM_induction (completes_pure _) (fun hx hy => .bind hx fun _ => hy)
    (fun _ => completes_say hW _) entries

theorem completes_list (hW : OutputStream.Accepting W) : Completes W (list : Action σ Unit) := by
  rw [list_eq]
  exact .bind (completes_record historyLine) fun _ => .bind completes_state fun _ =>
    .bind (completes_tell _) fun _ => .bind (completes_sayAll hW _) fun _ => completes_flush hW

theorem completes_execute (hW : OutputStream.Accepting W) (hf : host.Forks) (argv : List String)
    (line : String) (background : Bool) :
    Completes W (execute host argv line background : Action σ Unit) := by
  rw [execute]
  split
  · exact completes_list hW
  · exact .bind (completes_flush hW) fun _ =>
      .bind (completes_launch hf argv line background) fun _ =>
        .bind (completes_record line) fun _ => completes_pure _

theorem completes_replay (hW : OutputStream.Accepting W) (hf : host.Forks) (id : Nat)
    (line : String) : Completes W (replay host id line : Action σ Unit) := by
  refine .bind completes_state fun s => ?_
  split
  · exact .bind (completes_tell _) fun _ => .bind (completes_say hW _) fun _ => completes_flush hW
  · refine .bind (completes_tell _) fun _ => ?_
    dsimp only
    split
    · exact completes_pure _
    · exact completes_execute hW hf _ _ _

theorem completes_refuse (hW : OutputStream.Accepting W) (line : String) (limit : Nat) :
    Completes W (refuse line limit : Action σ Unit) :=
  .bind (completes_tell _) fun _ => .bind (completes_say hW _) fun _ => completes_flush hW

theorem completes_perform (hW : OutputStream.Accepting W) (hf : host.Forks) (line : String) :
    Completes W (perform host line : Action σ Unit) := by
  rw [perform]
  split_ifs
  · exact completes_list hW
  dsimp only
  split
  · exact completes_pure _
  · split_ifs
    · exact completes_replay hW hf _ _
    · exact completes_execute hW hf _ _ _

/-- Evaluating a line gives an answer. -/
theorem completes_evaluate (hW : OutputStream.Accepting W) (hf : host.Forks) (limit : Nat)
    (line : String) : Completes W (evaluate host limit line : Action σ Flow) := by
  by_cases hexit : line = exitLine
  · rw [evaluate, if_pos hexit]
    exact completes_pure _
  rw [evaluate_of_ne_exit hexit]
  refine Completes.bind ?_ fun _ => completes_pure _
  split_ifs
  · exact completes_refuse hW line limit
  · exact completes_perform hW hf line

/-- Only the line that leaves the shell ends it. -/
theorem answer_evaluate_of_ne_exit (hW : OutputStream.Accepting W) (hf : host.Forks) {limit : Nat}
    {line : String} {s : Shell σ} (hs : W s.stream) (h : line ≠ exitLine) :
    ((evaluate host limit line).run s).answer = .ok .stay := by
  obtain ⟨⟨flow, hflow⟩, -⟩ := completes_evaluate hW hf limit line s hs
  rw [evaluate_of_ne_exit h, run_bind] at hflow ⊢
  split at hflow
  · cases hflow
  · rfl

end Shell

end LineShell
