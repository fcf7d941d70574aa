import LineShell.Proofs.Shell.Running

/-!
# Faults come before anything is run

Where children can be created, only the stream can end a request in a fault, and it does so before a
program is run: nothing has been written past the stream, and nothing recorded but a listing that
was to be written. What is run is recorded. Main statement: `Request.fault_precedes_run`.
-/

namespace LineShell

open LineShell.Action

variable {σ α β : Type} {host : Host} {argv : List String} {text : String} {background : Bool}

/-! ## Effects past the stream -/

namespace Effect

/-- A child is created or writes, or the shell writes past its stream. -/
def isPastStream : Effect → Bool
  | printed _ | launched _ | childWrote _ _ => true
  | _ => false

/-- The effect is part of running the words for a text. -/
inductive Runs (host : Host) (argv : List String) (text : String) (background : Bool) :
    Effect → Prop where
  | launched (pid : Pid) (serial : Nat) :
      Runs host argv text background (.launched ⟨pid, serial, argv, background⟩)
  | childWrote (serial : Nat) :
      Runs host argv text background (.childWrote serial (host.writing argv text))
  | printed : Runs host argv text background (.printed (Text.utf8 (notFound text)))

end Effect

theorem Shell.runs_of_mem_launch (hf : host.Forks) (s : Shell σ) {e : Effect}
    (he : e ∈ ((launch host argv text background).run s).trace) (hpast : e.isPastStream = true) :
    e.Runs host argv text background := by
  by_cases hargv : IsPassable argv
  · obtain ⟨pid, hpid⟩ := hf s.forks s.roster.table
    obtain ⟨roster, children, hrun⟩ := exists_run_launch hpid hargv text background
    rw [hrun, List.mem_cons, List.mem_cons, List.mem_map] at he
    rcases he with rfl | rfl | ⟨child, -, rfl⟩
    · exact .launched pid s.forks
    · exact .childWrote s.forks
    · cases hpast
  · rw [run_launch_of_not_isPassable hargv, List.mem_singleton] at he
    subst he
    exact .printed

/-! ## Actions that use nothing but the stream -/

/-- The children are those of before, nothing has happened past the stream, and only the stream can
have failed. -/
structure Outcome.UsesStream (o : Outcome σ α) (s : Shell σ) : Prop where
  roster : o.shell.roster = s.roster
  trace : ∀ e ∈ o.trace, e.isPastStream = false
  fault : ∀ fault, o.answer = .error fault → ∃ f, fault = .output f

theorem Effect.isPastStream_of_mem_noted (ds : List Diagnostic) :
    ∀ e ∈ ds.map Effect.noted, e.isPastStream = false :=
  List.forall_mem_map.mpr fun _ _ => rfl

/-- Reports that come before change nothing about it. -/
theorem Outcome.UsesStream.reported {o : Outcome σ α} {s : Shell σ} (h : o.UsesStream s)
    (ds : List Diagnostic) (f : α → β) :
    Outcome.UsesStream ⟨o.shell, ds.map .noted ++ o.trace, o.answer.map f⟩ s := by
  obtain ⟨s', t, answer⟩ := o
  refine ⟨h.roster, List.forall_mem_append.mpr ⟨Effect.isPastStream_of_mem_noted ds, h.trace⟩, ?_⟩
  intro fault hfault
  cases answer with
  | error e => exact h.fault fault (by cases hfault; rfl)
  | ok a => cases hfault

namespace Action

def UsesStream (x : Action σ α) : Prop :=
  ∀ s, (x.run s).UsesStream s

theorem UsesStream.bind {x : Action σ α} {f : α → Action σ β} (hx : UsesStream x)
    (hf : ∀ a, UsesStream (f a)) : UsesStream (x >>= f) := by
  intro s
  obtain ⟨hroster, htrace, hfault⟩ := hx s
  rw [run_bind]
  generalize x.run s = o at hroster htrace hfault
  obtain ⟨s', t, e | a⟩ := o
  · exact ⟨hroster, htrace, fun fault h => hfault fault (by cases h; rfl)⟩
  · obtain ⟨hroster', htrace', hfault'⟩ := hf a s'
    refine ⟨hroster'.trans hroster, fun e he => ?_, hfault'⟩
    rcases List.mem_append.mp he with he | he
    · exact htrace e he
    · exact htrace' e he

theorem usesStream_pure (a : α) : UsesStream (pure a : Action σ α) :=
  fun _ => ⟨rfl, nofun, nofun⟩

theorem usesStream_reports (ds : List Diagnostic) :
    UsesStream (tell (ds.map .noted) : Action σ Unit) :=
  fun _ => ⟨rfl, Effect.isPastStream_of_mem_noted ds, nofun⟩

theorem usesStream_record (text : String) :
    UsesStream (discard (Shell.record text) : Action σ Unit) :=
  fun _ => ⟨rfl, List.forall_mem_singleton.mpr rfl, nofun⟩

theorem usesStream_emit (f : σ → Emission σ Unit) : UsesStream (emit f) := by
  intro s
  refine ⟨rfl, fun e he => ?_, fun fault h => ?_⟩
  · change e ∈ (if (f s.stream).emitted = [] then [] else [Effect.streamed _]) at he
    split at he
    · cases he
    · rw [List.mem_singleton] at he
      subst he
      rfl
  · rw [run_emit] at h
    cases hf : (f s.stream).answer with
    | ok =>
        rw [hf] at h
        cases h
    | error f =>
        rw [hf] at h
        exact ⟨f, (Except.error.inj h).symm⟩

end Action

variable [OutputStream σ]

theorem Shell.usesStream_writeEntries : UsesStream (Shell.writeEntries : Action σ Unit) := by
  intro s
  rw [run_writeEntries]
  exact UsesStream.bind (usesStream_reports [_]) (fun _ =>
    .bind (forM_induction (usesStream_pure _) (fun hx hy => .bind hx fun _ => hy)
      (fun _ => usesStream_emit _) _) fun _ => usesStream_emit _) s

namespace Task

theorem usesStream_action (host : Host) (t : Task)
    (ht : ∀ argv text background, t ≠ .run argv text background) :
    UsesStream (t.action host : Action σ Unit) := by
  cases t with
  | rest => exact usesStream_pure ()
  | say text => exact .bind (usesStream_emit _) fun _ => usesStream_emit _
  | list => exact .bind (usesStream_record _) fun _ => Shell.usesStream_writeEntries
  | run argv text background => exact absurd rfl (ht argv text background)

/-- Either a task uses nothing but the stream, and records at most a listing, or it runs a line and
records that. -/
theorem action_cases (hf : host.Forks) (t : Task) (s : Shell σ) :
    let o := (t.action host).run s
    (o.UsesStream s ∧ (t = .list → o.shell.history = s.history.insert historyLine) ∧
      (t ≠ .list → o.shell.history = s.history)) ∨
    ∃ argv text background, t = .run argv text background ∧ o.answer = .ok () ∧
      o.shell.history = s.history.insert text ∧
      ∀ e ∈ o.trace, e.isPastStream = true → e.Runs host argv text background := by
  cases t with
  | rest => exact .inl ⟨usesStream_action host rest nofun s, nofun, fun _ => rfl⟩
  | say text =>
      refine .inl ⟨usesStream_action host (say text) nofun s, nofun, fun _ => ?_⟩
      exact KeepsHistory.bind (keepsHistory_emit _) (fun _ => keepsHistory_emit _) s
  | list =>
      refine .inl ⟨usesStream_action host list nofun s, fun _ => ?_, fun h => absurd rfl h⟩
      exact Shell.history_list s
  | run argv text background =>
      have hflush := usesStream_emit OutputStream.flush s
      cases h : (OutputStream.flush s.stream).answer with
      | error f =>
          rw [run_run_of_error h]
          refine .inl ⟨⟨rfl, hflush.trace, ?_⟩, nofun, fun _ => rfl⟩
          exact fun fault hfault => ⟨f, (Except.error.inj hfault).symm⟩
      | ok =>
          have hanswer := (output_run_of_ok hf argv text background h).1
          have hhistory : (((run argv text background).action host).run s).shell.history =
              s.history.insert text := (launches_run_of_ok hf h).1
          refine .inr ⟨argv, text, background, rfl, hanswer, hhistory, fun e he hpast => ?_⟩
          obtain ⟨s', t, ht⟩ := Shell.exists_run_launch_of_forks hf argv text background
            (s.on (OutputStream.flush s.stream).stream)
          rw [run_run_of_ok h, run_bind_of_ok ht] at he
          rcases List.mem_append.mp he with he | he
          · exact absurd hpast (Bool.eq_false_iff.mp (hflush.trace e he))
          rcases List.mem_append.mp he with he | he
          · refine Shell.runs_of_mem_launch hf (s.on (OutputStream.flush s.stream).stream) ?_ hpast
            rw [ht]
            exact he
          · exact absurd hpast (Bool.eq_false_iff.mp ((usesStream_record text s').trace e he))

end Task

/-! ## Requests -/

namespace Request

/-- The task that a request comes to, unless it only keeps a text or concerns children. -/
def task? (h : History) (limit : Nat) (r : Request) : Option Task :=
  (r.plan? h limit).map fun plan => plan.1.task

/-- A request without a task is answered, whatever the stream is. -/
theorem answers_of_plan?_eq_none (host : Host) {limit : Nat} {r : Request} {s : Shell σ}
    (h : r.plan? s.history limit = none) :
    let o := (r.action host limit).run s
    (∃ reply, o.answer = .ok reply) ∧ ∀ e ∈ o.trace, e.isPastStream = false := by
  have hcollected (children : List Child) :
      ∀ e ∈ children.map Effect.collected ++ [], e.isPastStream = false := by
    rw [List.append_nil]
    exact List.forall_mem_map.mpr fun _ _ => rfl
  cases r with
  | record text => exact ⟨⟨_, rfl⟩, List.forall_mem_singleton.mpr rfl⟩
  | finish pid => exact ⟨⟨_, rfl⟩, nofun⟩
  | collect =>
      rw [action, run_bind_of_ok (Shell.run_collect s)]
      exact ⟨⟨_, rfl⟩, hcollected _⟩
  | settle =>
      rw [action, Shell.idle, run_modify_bind, run_bind_of_ok (Shell.run_collect _)]
      exact ⟨⟨_, rfl⟩, hcollected _⟩
  | _ => cases h

/-- A fault can only be one of the stream, and then no child has been created and nothing written
past the stream: the children are those of before, and so is the history, but for a listing that is
recorded before it is written. What is run, or reported as not found, is what the request comes to;
then the request is answered, and the text recorded. -/
theorem fault_precedes_run (hf : host.Forks) (limit : Nat) (r : Request) (s : Shell σ) :
    let o := (r.action host limit).run s
    (∀ fault, o.answer = .error fault →
      (∃ f, fault = .output f) ∧ (∀ e ∈ o.trace, e.isPastStream = false) ∧
      o.shell.roster = s.roster ∧
      o.shell.history =
        if r.task? s.history limit = some .list then s.history.insert historyLine
        else s.history) ∧
    (∀ e ∈ o.trace, e.isPastStream = true → ∃ argv text background,
      r.task? s.history limit = some (.run argv text background) ∧
      e.Runs host argv text background ∧
      (∃ reply, o.answer = .ok reply) ∧ o.shell.history = s.history.insert text) := by
  cases hp : r.plan? s.history limit with
  | none =>
      obtain ⟨⟨reply, hanswer⟩, htrace⟩ := answers_of_plan?_eq_none host hp
      refine ⟨fun fault hfault => ?_, fun e he hpast => ?_⟩
      · rw [hanswer] at hfault
        cases hfault
      · rw [htrace e he] at hpast
        cases hpast
  | some plan =>
      obtain ⟨p, reply⟩ := plan
      have htask : r.task? s.history limit = some p.task := by
        rw [task?, hp]
        rfl
      rw [run_action_of_plan? hp, Plan.run_action_bind_pure, htask]
      rcases p.task.action_cases hf s with ⟨huses, hlist, hother⟩ |
        ⟨argv, text, background, ht, hanswer, hhistory, hruns⟩
      · obtain ⟨hroster, htrace, hfault⟩ := huses.reported p.reports fun _ => reply
        refine ⟨fun fault h => ⟨hfault fault h, htrace, hroster, ?_⟩, fun e he hpast => ?_⟩
        · simp only [Option.some.injEq]
          split_ifs with hlisting
          · exact hlist hlisting
          · exact hother hlisting
        · rw [htrace e he] at hpast
          cases hpast
      · refine ⟨fun fault h => ?_, fun e he hpast => ?_⟩
        · rw [hanswer] at h
          cases h
        · refine ⟨argv, text, background, congrArg some ht, ?_, ⟨reply, by rw [hanswer]; rfl⟩,
            hhistory⟩
          rcases List.mem_append.mp he with he | he
          · rw [Effect.isPastStream_of_mem_noted _ e he] at hpast
            cases hpast
          · exact hruns e he hpast

/-- A listing that the stream cuts short has been recorded. -/
theorem fault_precedes_run_listing :
    let s : Shell Limited := .ofSettings {} { Limited.unlimited with room := some 5, full := .timedOut }
    let o := ((evaluate "history").action Host.bare 100).run s
    Host.bare.Forks ∧ o.answer = .error (.output .timedOut) ∧ o.shell.roster = s.roster ∧
      o.shell.history = s.history.insert historyLine := by
  intro s o
  have hanswer : o.answer = .error (.output .timedOut) := by decide +kernel
  have htask : (evaluate "history").task? s.history 100 = some .list := by decide
  obtain ⟨hfault, -⟩ := fault_precedes_run Host.forks_bare 100 (evaluate "history") s
  obtain ⟨-, -, hroster, hhistory⟩ := hfault _ hanswer
  rw [htask, if_pos rfl] at hhistory
  exact ⟨Host.forks_bare, hanswer, hroster, hhistory⟩

end Request

end LineShell
