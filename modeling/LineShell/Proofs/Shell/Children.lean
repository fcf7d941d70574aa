import LineShell.Proofs.Shell.Action
import LineShell.Shell.Launch

/-!
# The children of a shell

Where a child can be created, a program runs in one: it is created and writes, and is then tracked,
or waited for and collected. Those that are tracked are collected later.
-/

namespace LineShell

open LineShell.Action

variable {σ : Type} {host : Host}

namespace Shell

/-- The shell after an attempt to create a child, and with it if it has been created. -/
def forked (s : Shell σ) (pid : Pid) : Shell σ :=
  { s with
    forks := s.forks + 1
    roster := { s.roster with table := s.roster.table.start pid s.forks } }

/-- The shell after a child has been waited for. -/
def awaited (s : Shell σ) (pid : Pid) : Shell σ :=
  { s with roster := { s.roster with table := (s.roster.table.await pid).2 } }

/-- The child that is collected when it is waited for. -/
def reaped (s : Shell σ) (pid : Pid) : List Child :=
  match (s.roster.table.await pid).1 with
  | .collected child => [child]
  | _ => []

theorem run_fork_of_ok {s : Shell σ} {pid : Pid} (h : host.fork s.forks s.roster.table = .ok pid)
    (argv : List String) (background : Bool) :
    (fork host argv background).run s =
      ⟨s.forked pid, [.launched ⟨pid, s.forks, argv, background⟩],
        .ok ⟨pid, s.forks, argv, background⟩⟩ := by
  rw [fork, run_state_bind, run_modify_bind, h]
  rfl

theorem run_await (s : Shell σ) (pid : Pid) :
    (await pid).run s = ⟨s.awaited pid, (s.reaped pid).map .collected, .ok ()⟩ := by
  rw [await, run_state_bind, awaited, reaped]
  obtain ⟨answer, table⟩ := s.roster.table.await pid
  cases answer <;> rfl

theorem run_launch_background {s : Shell σ} {pid : Pid} {argv : List String}
    (h : host.fork s.forks s.roster.table = .ok pid) (hargv : IsPassable argv) (line : String) :
    (launch host argv line true).run s =
      ⟨{ s.forked pid with roster := (s.forked pid).roster.track pid },
        [.launched ⟨pid, s.forks, argv, true⟩, .childWrote s.forks (host.writing argv line)],
        .ok ()⟩ := by
  rw [launch, if_pos hargv, run_bind_of_ok (run_fork_of_ok h argv true)]
  rfl

theorem run_launch_foreground {s : Shell σ} {pid : Pid} {argv : List String}
    (h : host.fork s.forks s.roster.table = .ok pid) (hargv : IsPassable argv) (line : String) :
    (launch host argv line false).run s =
      ⟨(s.forked pid).awaited pid,
        .launched ⟨pid, s.forks, argv, false⟩ ::
          .childWrote s.forks (host.writing argv line) ::
            ((s.forked pid).reaped pid).map .collected,
        .ok ()⟩ := by
  rw [launch, if_pos hargv, run_bind_of_ok (run_fork_of_ok h argv false), run_tell_bind,
    if_neg Bool.false_ne_true, run_await]
  rfl

theorem run_launch_of_error {s : Shell σ} {cause : Errno} {argv : List String}
    (h : host.fork s.forks s.roster.table = .error cause) (hargv : IsPassable argv) (line : String)
    (background : Bool) :
    (launch host argv line background).run s =
      ⟨{ s with forks := s.forks + 1 }, [.noted (.forkFailed cause)], .error (.fork cause)⟩ := by
  have hfork : (fork host argv background).run s =
      ⟨{ s with forks := s.forks + 1 }, [.noted (.forkFailed cause)], .error (.fork cause)⟩ := by
    rw [fork, run_state_bind, run_modify_bind, h]
    rfl
  rw [launch, if_pos hargv, run_bind_of_error hfork]

/-- Whether the shell waits for a child or tracks it shows in the children alone. -/
theorem exists_run_launch {s : Shell σ} {pid : Pid} {argv : List String}
    (h : host.fork s.forks s.roster.table = .ok pid) (hargv : IsPassable argv) (line : String)
    (background : Bool) :
    ∃ (roster : Roster) (children : List Child), (launch host argv line background).run s =
      ⟨{ s with forks := s.forks + 1, roster },
        .launched ⟨pid, s.forks, argv, background⟩ ::
          .childWrote s.forks (host.writing argv line) :: children.map .collected,
        .ok ()⟩ := by
  cases background with
  | true => exact ⟨_, [], run_launch_background h hargv line⟩
  | false => exact ⟨_, _, run_launch_foreground h hargv line⟩

/-- Words that cannot be handed to a program are reported, and no child is created. -/
theorem run_launch_of_not_isPassable {argv : List String} (hargv : ¬ IsPassable argv)
    (line : String) (background : Bool) (s : Shell σ) :
    (launch host argv line background).run s =
      ⟨s, [.printed (Text.utf8 (notFound line))], .ok ()⟩ := by
  rw [launch, if_neg hargv]
  rfl

theorem run_collect (s : Shell σ) :
    collect.run s =
      ⟨{ s with roster := s.roster.collect }, s.roster.sweep.collected.map .collected,
        .ok s.roster.sweep.gone.length⟩ := by
  rw [collect, run_state_bind, run_modify_bind, run_tell_bind, run_pure, List.append_nil]

end Shell

end LineShell
