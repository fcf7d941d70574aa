import LineShell.Proofs.History.Log
import LineShell.Proofs.Shell.Children
import LineShell.Proofs.Shell.Plan
import LineShell.Proofs.Shell.Recording
import LineShell.Session

/-!
# Shells that serve requests

A shell serves requests of all kinds, whatever becomes of them. All that happens meanwhile makes one
trace, and the history can be read off it: it is what the trace records, put in one after the other.
-/

namespace LineShell

open LineShell.Action

variable {σ α β : Type}

/-- The texts that are recorded, in their order. -/
def Trace.recorded (t : Trace) : List String :=
  t.filterMap fun
    | .noted (.recorded _ text) => some text
    | _ => none

/-- A shell becomes another one by serving requests, on hosts with a property, and this happens
meanwhile. -/
inductive Shell.Serves [OutputStream σ] (P : Host → Prop) (s : Shell σ) :
    Shell σ → Trace → Prop where
  | refl : Serves P s s []
  | step {s' : Shell σ} {t : Trace} {host : Host} (hhost : P host) (limit : Nat) (r : Request) :
      Serves P s s' t →
        Serves P s ((r.action host limit).run s').shell (t ++ ((r.action host limit).run s').trace)

namespace Trace

@[simp] theorem recorded_append (t u : Trace) :
    Trace.recorded (t ++ u) = t.recorded ++ u.recorded :=
  List.filterMap_append

theorem recorded_collected (children : List Child) :
    Trace.recorded (children.map .collected) = [] := by
  simp [recorded]

end Trace

/-! ## Recordings -/

namespace Action

/-- What the history gains is what the trace records. -/
def Logs (x : Action σ α) : Prop :=
  ∀ s, (x.run s).shell.history = (x.run s).trace.recorded.foldl Ring.insert s.history

theorem Logs.bind {x : Action σ α} {f : α → Action σ β} (hx : Logs x) (hf : ∀ a, Logs (f a)) :
    Logs (x >>= f) := by
  intro s
  have hs := hx s
  rw [run_bind]
  generalize x.run s = o at hs
  obtain ⟨s', t, e | a⟩ := o
  · exact hs
  · change s'.history = t.recorded.foldl Ring.insert s.history at hs
    change ((f a).run s').shell.history =
      (Trace.recorded (t ++ ((f a).run s').trace)).foldl Ring.insert s.history
    rw [hf a s', hs, Trace.recorded_append, List.foldl_append]

theorem logs_pure (a : α) : Logs (pure a : Action σ α) := fun _ => rfl

theorem logs_fail (e : Fault) : Logs (fail e : Action σ α) := fun _ => rfl

theorem logs_tell {t : Trace} (h : t.recorded = []) : Logs (tell t : Action σ Unit) := by
  intro s
  change s.history = t.recorded.foldl _ _
  rw [h]
  rfl

theorem logs_emit (f : σ → Emission σ Unit) : Logs (emit f) := by
  intro s
  change s.history = (Trace.recorded (if (f s.stream).emitted = [] then [] else _)).foldl _ _
  split <;> rfl

end Action

namespace Shell

theorem logs_record (text : String) : Logs (record text : Action σ Nat) := fun _ => rfl

theorem logs_launch (host : Host) (argv : List String) (line : String) (background : Bool) :
    Logs (launch host argv line background : Action σ Unit) := by
  intro s
  by_cases hargv : IsPassable argv
  · cases hfork : host.fork s.forks s.roster.table with
    | error cause =>
        rw [run_launch_of_error hfork hargv]
        rfl
    | ok pid =>
        cases background with
        | true =>
            rw [run_launch_background hfork hargv]
            rfl
        | false =>
            rw [run_launch_foreground hfork hargv]
            change s.history = (Trace.recorded (((s.forked pid).reaped pid).map _)).foldl _ _
            rw [Trace.recorded_collected]
            rfl
  · rw [run_launch_of_not_isPassable hargv]
    rfl

theorem logs_collect : Logs (collect : Action σ Nat) := by
  intro s
  rw [run_collect]
  change s.history = (Trace.recorded _).foldl _ _
  rw [Trace.recorded_collected]
  rfl

theorem logs_idle (change : ChildTable → ChildTable) : Logs (idle change : Action σ Unit) :=
  fun _ => rfl

end Shell

/-- What is reported before a task is done records nothing. -/
theorem Plan.recorded_ofRecall (h : History) (id : Nat) (line : String) :
    Trace.recorded ((ofRecall h id line).reports.map .noted) = [] := by
  unfold ofRecall
  cases h.find? id <;> rfl

theorem Plan.recorded_ofLine (h : History) (limit : Nat) (line : String) :
    Trace.recorded ((ofLine h limit line).reports.map .noted) = [] := by
  unfold ofLine
  split
  · rfl
  · split
    · rfl
    · split
      · exact recorded_ofRecall h _ line
      · rfl

variable [OutputStream σ]

theorem Shell.logs_writeEntries : Logs (Shell.writeEntries : Action σ Unit) := by
  intro s
  rw [run_writeEntries]
  exact Logs.bind (logs_tell rfl) (fun _ =>
    .bind (forM_induction (logs_pure _) (fun hx hy => .bind hx fun _ => hy)
      (fun _ => logs_emit _) _) fun _ => logs_emit _) s

theorem Task.logs_action (host : Host) (t : Task) : Logs (t.action host : Action σ Unit) := by
  cases t with
  | rest => exact logs_pure ()
  | say text => exact .bind (logs_emit _) fun _ => logs_emit _
  | list =>
      exact .bind (.bind (Shell.logs_record _) fun _ => logs_pure _) fun _ =>
        Shell.logs_writeEntries
  | run argv line background =>
      exact .bind (logs_emit _) fun _ =>
        .bind (Shell.logs_launch host argv line background) fun _ =>
          .bind (Shell.logs_record line) fun _ => logs_pure _

theorem Plan.logs_action (host : Host) {p : Plan} (h : Trace.recorded (p.reports.map .noted) = []) :
    Logs (p.action host : Action σ Unit) :=
  .bind (logs_tell h) fun _ => p.task.logs_action host

namespace Request

/-- What a request for a line or a listing comes to, and the reply when that is done. -/
def plan? (h : History) (limit : Nat) : Request → Option (Plan × Reply)
  | evaluate line => some (.ofLine h limit line, .flow (if line = exitLine then .leave else .stay))
  | execute argv line background => some (⟨[], .ofWords argv line background⟩, .done)
  | replay id line => some (.ofRecall h id line, .done)
  | list => some (⟨[], .list⟩, .done)
  | _ => none

theorem run_action_of_plan? {host : Host} {limit : Nat} {r : Request} {s : Shell σ} {p : Plan}
    {reply : Reply} (h : r.plan? s.history limit = some (p, reply)) :
    (r.action host limit).run s = (p.action host >>= fun _ => pure reply).run s := by
  cases r with
  | evaluate line =>
      cases h
      rw [action, run_bind, Shell.run_evaluate, ← run_bind, Plan.evaluate, bind_assoc]
      rfl
  | execute argv line background =>
      cases h
      rw [action, Shell.execute_eq, Shell.action_of_task]
  | replay id line =>
      cases h
      rw [action, run_bind, Shell.run_replay, ← run_bind]
  | list =>
      cases h
      rw [Shell.action_of_task]
      rfl
  | _ => cases h

theorem recorded_of_plan? {h : History} {limit : Nat} {r : Request} {p : Plan} {reply : Reply}
    (hp : r.plan? h limit = some (p, reply)) :
    Trace.recorded (p.reports.map .noted) = [] := by
  cases r with
  | evaluate line =>
      cases hp
      exact Plan.recorded_ofLine h limit line
  | execute argv line background | list =>
      cases hp
      rfl
  | replay id line =>
      cases hp
      exact Plan.recorded_ofRecall h id line
  | _ => cases hp

/-- A request comes to a plan, or it only keeps a text or concerns children. -/
theorem exists_plan (host : Host) (limit : Nat) (r : Request) (s : Shell σ) :
    (∃ (p : Plan) (reply : Reply), Trace.recorded (p.reports.map .noted) = [] ∧
      (r.action host limit).run s = (p.action host >>= fun _ => pure reply).run s) ∨
    (∃ text, r = .record text) ∨ r = .collect ∨ (∃ pid, r = .finish pid) ∨ r = .settle := by
  cases hp : r.plan? s.history limit with
  | some plan => exact .inl ⟨plan.1, plan.2, recorded_of_plan? hp, run_action_of_plan? hp⟩
  | none =>
      cases r with
      | record text => exact .inr (.inl ⟨text, rfl⟩)
      | collect => exact .inr (.inr (.inl rfl))
      | finish pid => exact .inr (.inr (.inr (.inl ⟨pid, rfl⟩)))
      | settle => exact .inr (.inr (.inr (.inr rfl)))
      | _ => cases hp

end Request

theorem Request.logs_action (host : Host) (limit : Nat) (r : Request) :
    Logs (r.action host limit : Action σ Reply) := by
  intro s
  obtain ⟨p, reply, hp, hrun⟩ | ⟨text, rfl⟩ | rfl | ⟨pid, rfl⟩ | rfl := r.exists_plan host limit s
  · rw [hrun]
    exact (Plan.logs_action host hp).bind (fun _ => logs_pure _) s
  · exact (Shell.logs_record text).bind (fun _ => logs_pure _) s
  · exact Shell.logs_collect.bind (fun _ => logs_pure _) s
  · exact (Shell.logs_idle _).bind (fun _ => logs_pure _) s
  · exact (Shell.logs_idle _).bind (fun _ => Shell.logs_collect.bind fun _ => logs_pure _) s

/-- Whatever a shell serves, its history gains what is recorded meanwhile. -/
theorem Shell.Serves.history_eq {P : Host → Prop} {s s' : Shell σ} {t : Trace}
    (h : Serves P s s' t) : s'.history = t.recorded.foldl Ring.insert s.history := by
  induction h with
  | refl => rfl
  | step hhost limit r _ ih =>
      rw [Request.logs_action, ih, Trace.recorded_append, List.foldl_append]

end LineShell
