import LineShell.Proofs.Shell.Faults
import LineShell.Proofs.Shell.Overflow

/-!
# Output on a stream that buffers

A stream that works may hold back what is said until it is flushed, and let go of it earlier piece
by piece. None of this shows between two steps of a session: each step that says something ends in a
flush, and a step that runs a line says nothing. So all that reaches the descriptor does so in the
order of a stream without a buffer. Main statement: `Session.run_on_buffered`.
-/

namespace LineShell

open LineShell.Action

variable {σ τ α β : Type} [OutputStream σ] [OutputStream τ]
  {V : Conveyance σ} {W : Conveyance τ} {s : Shell σ}

/-! ## One step on two streams -/

/-- The second outcome is the first one on another stream, and neither stream holds anything
back. -/
structure Outcome.Mirrors (V : Conveyance σ) (W : Conveyance τ) (o : Outcome σ α)
    (p : Outcome τ α) : Prop where
  shell : p.shell = o.shell.on p.shell.stream
  clear : V.Clear o.shell.stream
  clear' : W.Clear p.shell.stream
  output : o.trace.output = p.trace.output
  answer : o.answer = p.answer

namespace Outcome

theorem Mirrors.reported {o : Outcome σ α} {p : Outcome τ α} (h : o.Mirrors V W p)
    (ds : List Diagnostic) :
    Mirrors V W { o with trace := ds.map .noted ++ o.trace }
      { p with trace := ds.map .noted ++ p.trace } := by
  refine ⟨h.shell, h.clear, h.clear', ?_, h.answer⟩
  rw [Trace.output_append, Trace.output_append, h.output]

theorem Mirrors.map {o : Outcome σ α} {p : Outcome τ α} (h : o.Mirrors V W p) (f : α → β) :
    Mirrors V W ⟨o.shell, o.trace, o.answer.map f⟩ ⟨p.shell, p.trace, p.answer.map f⟩ :=
  ⟨h.shell, h.clear, h.clear', h.output, congrArg (Except.map f) h.answer⟩

theorem Delivers.mirrors {o : Outcome σ Unit} {p : Outcome τ Unit} {stream : τ}
    {bytes : List UInt8} (ho : o.Delivers V s bytes) (hp : p.Delivers W (s.on stream) bytes) :
    o.Mirrors V W p := by
  refine ⟨?_, ho.clear, hp.clear, ho.output.trans hp.output.symm, ho.answer.trans hp.answer.symm⟩
  rw [hp.shell, ho.shell]
  rfl

end Outcome

theorem Action.Streamless.mirrors {x : Action σ α} {y : Action τ α} (h : Streamless x y)
    (hs : V.Clear s.stream) {stream : τ} (ht : W.Clear stream) :
    (x.run s).Mirrors V W (y.run (s.on stream)) := by
  obtain ⟨hrun, hsilent⟩ := h s stream
  rw [hrun]
  exact ⟨rfl, hsilent.stream ▸ hs, ht, rfl, rfl⟩

theorem Task.mirrors_action (host : Host) (t : Task) (hs : V.Clear s.stream) {stream : τ}
    (ht : W.Clear stream) :
    ((t.action host).run s).Mirrors V W ((t.action host).run (s.on stream)) := by
  cases t with
  | rest => exact (streamless_pure ()).mirrors hs ht
  | say text => exact (delivers_say hs host text).mirrors (delivers_say ht host text)
  | list =>
      obtain ⟨o, ho, hrun⟩ := exists_run_list hs host
      obtain ⟨p, hp, hrun'⟩ := exists_run_list (s := s.on stream) ht host
      rw [hrun, hrun']
      exact (ho.mirrors hp).reported _
  | run argv line background =>
      obtain ⟨s₁, hs₁, hrun⟩ := exists_run_run hs host argv line background
      obtain ⟨t₁, ht₁, hrun'⟩ := exists_run_run (s := s.on stream) ht host argv line background
      rw [hrun, hrun', Shell.on_on, ← Shell.on_on s s₁ t₁]
      exact ((Shell.streamless_launch host argv line background).bind fun _ =>
        (Shell.streamless_record line).bind fun _ => streamless_pure _).mirrors hs₁ ht₁

theorem Request.mirrors_action (host : Host) (limit : Nat) (r : Request) (hs : V.Clear s.stream)
    {stream : τ} (ht : W.Clear stream) :
    ((r.action host limit).run s).Mirrors V W ((r.action host limit).run (s.on stream)) := by
  cases hp : r.plan? s.history limit with
  | none => exact (streamless_of_plan?_eq_none hp host).mirrors hs ht
  | some plan =>
      have hp' : r.plan? (s.on stream).history limit = some plan := hp
      rw [run_action_of_plan? hp, run_action_of_plan? hp', Plan.run_action_bind_pure,
        Plan.run_action_bind_pure]
      exact ((plan.1.task.mirrors_action host hs ht).reported plan.1.reports).map _

/-! ## Launches -/

/-- What happens past the stream is part of a launch. The shell flushes before, although nothing is
held back, and then nothing is held back. -/
def Outcome.LaunchesClear (V : Conveyance σ) (host : Host) (o : Outcome σ α) (s : Shell σ) : Prop :=
  ∀ e ∈ o.trace, e.isPastStream = true →
    ∃ (reports : List Diagnostic) (stream : σ) (argv : List String) (text : String)
      (background : Bool),
      let q := (Shell.launch host argv text background >>= fun _ =>
        discard (Shell.record text)).run (s.on stream)
      flush.run s = ⟨s.on stream, [], .ok ()⟩ ∧ V.held stream = [] ∧
      o.shell = q.shell ∧ o.trace = reports.map .noted ++ q.trace

theorem Request.launchesClear_action (host : Host) (limit : Nat) (r : Request)
    (hs : V.Clear s.stream) : ((r.action host limit).run s).LaunchesClear V host s := by
  intro e he hpast
  cases hp : r.plan? s.history limit with
  | none =>
      rw [(answers_of_plan?_eq_none host hp).2 e he] at hpast
      cases hpast
  | some plan =>
      rw [run_action_of_plan? hp, Plan.run_action_bind_pure] at he ⊢
      by_cases hrun : ∃ argv text background, plan.1.task = .run argv text background
      · obtain ⟨argv, text, background, htask⟩ := hrun
        obtain ⟨stream, hflush, hclear⟩ := exists_run_flush hs
        refine ⟨plan.1.reports, stream, argv, text, background, hflush, hclear.held, ?_⟩
        rw [htask, Task.action, run_bind_of_ok hflush]
        exact ⟨rfl, rfl⟩
      · have huses := Task.usesStream_action host plan.1.task
          (fun argv text background h => hrun ⟨argv, text, background, h⟩) s
        rw [(huses.reported plan.1.reports fun _ => plan.2).trace e he] at hpast
        cases hpast

/-! ## Sessions -/

namespace Session

/-- The bytes that reach the descriptor in some steps of a session. -/
def output (steps : List (Outcome σ Reply)) : List UInt8 :=
  steps.flatMap fun o => o.trace.output

/-- The shell that some steps of a session have come to. -/
def reached (s : Shell σ) (steps : List (Outcome σ Reply)) : Shell σ :=
  steps.foldl (fun _ o => o.shell) s

/-- Each step starts where nothing is held back, on either stream. -/
theorem mirrors_run (host : Host) (limit : Nat) (hs : V.Clear s.stream) {stream : τ}
    (ht : W.Clear stream) (requests : List Request) {i : Nat} {o : Outcome σ Reply}
    {p : Outcome τ Reply} (ho : (run host limit s requests)[i]? = some o)
    (hp : (run host limit (s.on stream) requests)[i]? = some p) :
    o.Mirrors V W p ∧
      o.LaunchesClear V host (reached s ((run host limit s requests).take i)) ∧
      output ((run host limit s requests).take (i + 1)) =
        output ((run host limit (s.on stream) requests).take (i + 1)) := by
  induction requests generalizing s stream i with
  | nil => cases ho
  | cons r rs ih =>
      have hstep := r.mirrors_action host limit hs ht
      have hlaunches := r.launchesClear_action host limit hs
      rw [run_cons] at ho hp ⊢
      rw [run_cons]
      generalize (r.action host limit).run s = o₁ at *
      generalize (r.action host limit).run (s.on stream) = p₁ at *
      cases i with
      | zero =>
          obtain rfl : o₁ = o := Option.some.inj ho
          obtain rfl : p₁ = p := Option.some.inj hp
          refine ⟨hstep, hlaunches, ?_⟩
          simpa [output] using hstep.output
      | succ i =>
          rw [List.getElem?_cons_succ] at ho hp
          rw [hstep.shell] at hp ⊢
          obtain ⟨hmirrors, hclear, houtput⟩ := ih hstep.clear hstep.clear' ho hp
          refine ⟨hmirrors, hclear, ?_⟩
          rw [List.take_succ_cons, List.take_succ_cons, output, output, List.flatMap_cons,
            List.flatMap_cons, hstep.output]
          exact congrArg _ houtput

/-- Whatever a stream holds back and for how long, at the end of each step all that the descriptor
has got is what it gets from a stream without a buffer. Nothing is held back when a step ends, nor
when a program is launched or reported as not found. -/
theorem run_on_buffered (V : Conveyance σ) (host : Host) (limit : Nat) (hs : V.Clear s.stream)
    (requests : List Request) :
    let os := run host limit s requests
    let ps := run host limit (s.on Limited.unlimited) requests
    os.length = requests.length ∧ ps.length = requests.length ∧
    ∀ i o p, os[i]? = some o → ps[i]? = some p →
      output (os.take (i + 1)) = output (ps.take (i + 1)) ∧
      o.LaunchesClear V host (reached s (os.take i)) ∧ V.held o.shell.stream = [] ∧
      o.answer = p.answer ∧ p.shell = o.shell.on p.shell.stream := by
  have hunlimited : Limited.conveyance.Clear Limited.unlimited := ⟨⟨rfl, by decide, rfl⟩, rfl⟩
  refine ⟨length_run .., length_run .., fun i o p ho hp => ?_⟩
  obtain ⟨hmirrors, hclear, houtput⟩ := mirrors_run host limit hs hunlimited requests ho hp
  exact ⟨houtput, hclear, hmirrors.clear.held, hmirrors.answer, hmirrors.shell⟩

/-- A listing leaves a buffer in other pieces than it leaves none, and all of it has left before the
first line is recalled and launches its program. -/
theorem run_on_buffered_listing :
    let s : Shell Buffered := .ofSettings {} ⟨[], [3, 0, 7]⟩
    let requests : List Request := [.execute ["echo", "hi"] "echo hi" false, .list, .evaluate "!1"]
    let os := run Host.echoing 8 s requests
    let ps := run Host.echoing 8 (s.on Limited.unlimited) requests
    Buffered.conveyance.Clear s.stream ∧ os.map Outcome.trace ≠ ps.map Outcome.trace ∧
    ∃ o, os[2]? = some o ∧ (∃ e ∈ o.trace, e.isPastStream = true) ∧
      (∃ stream : Buffered,
        flush.run (reached s (os.take 2)) = ⟨(reached s (os.take 2)).on stream, [], .ok ()⟩ ∧
        stream.held = []) ∧
      output (os.take 3) = output (ps.take 3) ∧ o.shell.stream.held = [] := by
  intro s requests os ps
  have hs : Buffered.conveyance.Clear s.stream := ⟨trivial, rfl⟩
  have htraces : os.map Outcome.trace ≠ ps.map Outcome.trace := by decide +kernel
  have hpast : os[2]?.map (fun o => o.trace.any Effect.isPastStream) = some true := by
    decide +kernel
  obtain ⟨o, ho, hany⟩ := Option.map_eq_some_iff.mp hpast
  obtain ⟨e, he, hpast⟩ := List.any_eq_true.mp hany
  obtain ⟨-, hps, hsteps⟩ := run_on_buffered Buffered.conveyance Host.echoing 8 hs requests
  have hlt : 2 < ps.length := by
    rw [hps]
    decide
  obtain ⟨p, hp⟩ : ∃ p, ps[2]? = some p := ⟨_, List.getElem?_eq_getElem hlt⟩
  obtain ⟨houtput, hclear, hheld, -⟩ := hsteps 2 o p ho hp
  obtain ⟨-, stream, -, -, -, hflush, hempty, -⟩ := hclear e he hpast
  exact ⟨hs, htraces, o, ho, ⟨e, he, hpast⟩, ⟨stream, hflush, hempty⟩, houtput, hheld⟩

end Session

end LineShell
