import LineShell.Proofs.Shell.Recording

/-!
# What a shell does beside its stream

Children are created, awaited and collected, and lines are kept, whatever the stream is. Such steps
are the same on every stream, and what the shell says there is all that can differ.
-/

namespace LineShell

open LineShell.Action

variable {σ τ α β : Type}

/-! ## One shell on two streams -/

namespace Shell

/-- The shell on another stream. -/
def on (s : Shell σ) (stream : τ) : Shell τ where
  history := s.history
  roster := s.roster
  forks := s.forks
  stream := stream

@[simp] theorem history_on (s : Shell σ) (t : τ) : (s.on t).history = s.history := rfl

@[simp] theorem roster_on (s : Shell σ) (t : τ) : (s.on t).roster = s.roster := rfl

@[simp] theorem forks_on (s : Shell σ) (t : τ) : (s.on t).forks = s.forks := rfl

@[simp] theorem stream_on (s : Shell σ) (t : τ) : (s.on t).stream = t := rfl

@[simp] theorem on_on {υ : Type} (s : Shell σ) (t : τ) (u : υ) : (s.on t).on u = s.on u := rfl

theorem on_eq_self {s : Shell σ} {t : σ} (h : s.stream = t) : s.on t = s := by
  subst h
  rfl

end Shell

/-- The same outcome for a shell on another stream. -/
def Outcome.on (o : Outcome σ α) (stream : τ) : Outcome τ α :=
  ⟨o.shell.on stream, o.trace, o.answer⟩

def Effect.isStreamed : Effect → Bool
  | streamed _ => true
  | _ => false

namespace Trace

/-- The bytes that reach the descriptor through the stream. -/
def streamed (t : Trace) : List UInt8 :=
  t.flatMap fun
    | .streamed bytes => bytes
    | _ => []

/-- All that happens but for the bytes of the stream. -/
def beside (t : Trace) : Trace :=
  t.filter fun e => !e.isStreamed

@[simp] theorem streamed_append (t u : Trace) :
    Trace.streamed (t ++ u) = t.streamed ++ u.streamed :=
  List.flatMap_append

theorem length_streamed_append (t u : Trace) :
    (Trace.streamed (t ++ u)).length = t.streamed.length + u.streamed.length := by
  rw [streamed_append, List.length_append]

@[simp] theorem beside_append (t u : Trace) : Trace.beside (t ++ u) = t.beside ++ u.beside :=
  List.filter_append ..

theorem streamed_collected (children : List Child) :
    Trace.streamed (children.map .collected) = [] := by
  induction children with
  | nil => rfl
  | cons child children ih => exact ih

theorem streamed_noted (ds : List Diagnostic) : Trace.streamed (ds.map .noted) = [] := by
  induction ds with
  | nil => rfl
  | cons d ds ih => exact ih

end Trace

/-- No fault of the stream is the answer. -/
def Outcome.Unfailing (o : Outcome σ α) : Prop :=
  ∀ f, o.answer ≠ .error (.output f)

/-- A fault that ends a step ends what would follow it. -/
theorem Outcome.Unfailing.of_error {s s' : Shell σ} {t t' : Trace} {e : Fault}
    (h : Outcome.Unfailing ⟨s, t, (.error e : Except Fault α)⟩) :
    Outcome.Unfailing ⟨s', t', (.error e : Except Fault β)⟩ := by
  intro f hf
  obtain rfl : e = .output f := Except.error.inj hf
  exact h f rfl

/-- Nothing is passed on to the stream, and no fault of it is the answer. -/
structure Outcome.Silent (o : Outcome σ α) (s : Shell σ) : Prop where
  stream : o.shell.stream = s.stream
  streamed : o.trace.streamed = []
  unfailing : o.Unfailing

namespace Action

/-! ## Actions that only speak -/

/-- Nothing but the stream is changed, and nothing is done but on it. -/
def Speaks (x : Action σ α) : Prop :=
  ∀ s, (x.run s).shell = s.on (x.run s).shell.stream ∧ (x.run s).trace.beside = []

theorem Speaks.bind {x : Action σ α} {f : α → Action σ β} (hx : Speaks x)
    (hf : ∀ a, Speaks (f a)) : Speaks (x >>= f) := by
  intro s
  obtain ⟨hshell, hbeside⟩ := hx s
  rw [run_bind]
  generalize x.run s = o at hshell hbeside
  obtain ⟨s', t, e | a⟩ := o
  · exact ⟨hshell, hbeside⟩
  · change s' = s.on s'.stream at hshell
    obtain ⟨hshell', hbeside'⟩ := hf a s'
    constructor
    · change ((f a).run s').shell = s.on ((f a).run s').shell.stream
      rw [hshell', hshell]
      rfl
    · change Trace.beside (t ++ ((f a).run s').trace) = []
      rw [Trace.beside_append, hbeside']
      exact (List.append_nil _).trans hbeside

theorem speaks_pure (a : α) : Speaks (pure a : Action σ α) := fun _ => ⟨rfl, rfl⟩

theorem speaks_emit (f : σ → Emission σ Unit) : Speaks (emit f) := by
  intro s
  refine ⟨rfl, ?_⟩
  change Trace.beside (if (f s.stream).emitted = [] then [] else _) = []
  split <;> rfl

theorem streamed_emit (f : σ → Emission σ Unit) (s : Shell σ) :
    ((emit f).run s).trace.streamed = (f s.stream).emitted := by
  change Trace.streamed (if (f s.stream).emitted = [] then [] else _) = _
  split
  · rename_i h
    exact h.symm
  · exact List.append_nil _

theorem run_emit (f : σ → Emission σ Unit) (s : Shell σ) :
    (emit f).run s =
      ⟨s.on (f s.stream).stream, ((emit f).run s).trace,
        (f s.stream).answer.mapError .output⟩ := by
  refine congrArg (Outcome.mk _ _) ?_
  cases (f s.stream).answer <;> rfl

theorem run_flush [OutputStream σ] (s : Shell σ) :
    (flush : Action σ Unit).run s =
      ⟨s.on (OutputStream.flush s.stream).stream, ((flush : Action σ Unit).run s).trace,
        (OutputStream.flush s.stream).answer.mapError .output⟩ :=
  run_emit OutputStream.flush s

/-! ## Actions without a stream -/

/-- Two actions are one that does not know its stream. -/
def Streamless (x : Action σ α) (y : Action τ α) : Prop :=
  ∀ s t, y.run (s.on t) = (x.run s).on t ∧ (x.run s).Silent s

theorem Streamless.bind {x : Action σ α} {y : Action τ α} {f : α → Action σ β}
    {g : α → Action τ β} (h : Streamless x y) (hfg : ∀ a, Streamless (f a) (g a)) :
    Streamless (x >>= f) (y >>= g) := by
  intro s t
  obtain ⟨hrun, hsilent⟩ := h s t
  rw [run_bind, run_bind, hrun]
  generalize x.run s = o at hsilent
  obtain ⟨s', u, e | a⟩ := o
  · exact ⟨rfl, hsilent.stream, hsilent.streamed, hsilent.unfailing.of_error⟩
  · obtain ⟨hrun', hstream, hstreamed, hunfailing⟩ := hfg a s' t
    refine ⟨by simp only [Outcome.on, hrun'], hstream.trans hsilent.stream, ?_, hunfailing⟩
    change Trace.streamed (u ++ ((f a).run s').trace) = []
    rw [Trace.streamed_append, hstreamed]
    exact (List.append_nil _).trans hsilent.streamed

theorem streamless_state_bind {f : Shell σ → Action σ β} {g : Shell τ → Action τ β}
    (h : ∀ s t, Streamless (f s) (g (s.on t))) : Streamless (state >>= f) (state >>= g) := by
  intro s t
  rw [run_state_bind, run_state_bind]
  exact h s t s t

theorem streamless_pure (a : α) : Streamless (pure a : Action σ α) (pure a : Action τ α) :=
  fun _ _ => ⟨rfl, rfl, rfl, fun _ h => by cases h⟩

theorem streamless_fail {e : Fault} (he : ∀ f, e ≠ .output f) :
    Streamless (fail e : Action σ α) (fail e : Action τ α) :=
  fun _ _ => ⟨rfl, rfl, rfl, fun f h => he f (Except.error.inj h)⟩

theorem streamless_tell {t : Trace} (h : t.streamed = []) :
    Streamless (tell t : Action σ Unit) (tell t : Action τ Unit) :=
  fun _ _ => ⟨rfl, rfl, h, fun _ h => by cases h⟩

theorem streamless_note (d : Diagnostic) :
    Streamless (note d : Action σ Unit) (note d : Action τ Unit) := streamless_tell rfl

theorem streamless_modify {f : Shell σ → Shell σ} {g : Shell τ → Shell τ}
    (hstream : ∀ s, (f s).stream = s.stream) (hfg : ∀ s t, g (s.on t) = (f s).on t) :
    Streamless (modify f) (modify g) :=
  fun s t => ⟨congrArg (Outcome.mk · [] (.ok ())) (hfg s t), hstream s, rfl, fun _ h => by cases h⟩

end Action

namespace Shell

theorem streamless_fork (host : Host) (argv : List String) (background : Bool) :
    Streamless (fork host argv background : Action σ Launch)
      (fork host argv background : Action τ Launch) := by
  refine streamless_state_bind fun s t => .bind (streamless_modify (fun _ => rfl) fun _ _ => rfl)
    fun _ => ?_
  dsimp only [forks_on, roster_on]
  split
  · exact .bind (streamless_note _) fun _ => streamless_fail nofun
  · exact .bind (streamless_modify (fun _ => rfl) fun _ _ => rfl) fun _ =>
      .bind (streamless_tell rfl) fun _ => streamless_pure _

theorem streamless_await (pid : Pid) :
    Streamless (await pid : Action σ Unit) (await pid : Action τ Unit) := by
  refine streamless_state_bind fun s t => ?_
  dsimp only [roster_on]
  cases (s.roster.table.await pid).1 with
  | collected child =>
      exact .bind (streamless_modify (fun _ => rfl) fun _ _ => rfl) fun _ => streamless_tell rfl
  | running | absent =>
      exact .bind (streamless_modify (fun _ => rfl) fun _ _ => rfl) fun _ => streamless_pure _

theorem streamless_launch (host : Host) (argv : List String) (line : String) (background : Bool) :
    Streamless (launch host argv line background : Action σ Unit)
      (launch host argv line background : Action τ Unit) := by
  rw [launch, launch]
  split
  · refine .bind (streamless_fork host argv background) fun child =>
      .bind (streamless_tell rfl) fun _ => ?_
    split
    · exact streamless_modify (fun _ => rfl) fun _ _ => rfl
    · exact streamless_await _
  · exact streamless_tell rfl

theorem streamless_record (text : String) :
    Streamless (record text : Action σ Nat) (record text : Action τ Nat) :=
  streamless_state_bind fun _ _ => .bind (streamless_modify (fun _ => rfl) fun _ _ => rfl)
    fun _ => .bind (streamless_note _) fun _ => streamless_pure _

theorem streamless_collect : Streamless (collect : Action σ Nat) (collect : Action τ Nat) :=
  streamless_state_bind fun _ _ => .bind (streamless_modify (fun _ => rfl) fun _ _ => rfl)
    fun _ => .bind (streamless_tell (Trace.streamed_collected _)) fun _ => streamless_pure _

theorem streamless_idle (change : ChildTable → ChildTable) :
    Streamless (idle change : Action σ Unit) (idle change : Action τ Unit) :=
  streamless_modify (fun _ => rfl) fun _ _ => rfl

end Shell

end LineShell
