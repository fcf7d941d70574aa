import LineShell.Proofs.Output.Conveying
import LineShell.Proofs.Shell.Agreement
import LineShell.Proofs.Shell.Service
import LineShell.Proofs.Shell.Storing
import LineShell.Proofs.Shell.Streamless

/-!
# What a shell says on a stream that works

Whatever a shell says is flushed before it does anything else. So between two requests a stream that
works holds nothing back, and what a request says reaches the descriptor while it is served.
-/

namespace LineShell

open LineShell.Action

namespace Trace

theorem launches_beside (t : Trace) : t.beside.launches = t.launches := by
  rw [launches, beside, List.filterMap_filter]
  refine List.filterMap_congr fun e _ => ?_
  cases e <;> rfl

theorem output_eq_streamed {t : Trace} (h : t.beside = []) : t.output = t.streamed := by
  induction t with
  | nil => rfl
  | cons e t ih =>
      cases e with
      | streamed bytes => exact congrArg (bytes ++ ·) (ih h)
      | _ => cases h

theorem output_noted (ds : List Diagnostic) : Trace.output (ds.map .noted) = [] := by
  induction ds with
  | nil => rfl
  | cons d ds ih => exact ih

end Trace

variable {σ α : Type} [OutputStream σ] {V : Conveyance σ} {s : Shell σ} {bytes : List UInt8}

/-- The bytes stand behind all that the stream held before, and nothing else has been done. -/
structure Outcome.Conveys (V : Conveyance σ) (o : Outcome σ Unit) (s : Shell σ)
    (bytes : List UInt8) : Prop where
  shell : o.shell = s.on o.shell.stream
  beside : o.trace.beside = []
  works : V.works o.shell.stream
  streamed : o.trace.streamed ++ V.held o.shell.stream = V.held s.stream ++ bytes
  answer : o.answer = .ok ()

/-- The bytes have reached the descriptor, and nothing else has been done. -/
structure Outcome.Delivers (V : Conveyance σ) (o : Outcome σ Unit) (s : Shell σ)
    (bytes : List UInt8) : Prop where
  shell : o.shell = s.on o.shell.stream
  beside : o.trace.beside = []
  clear : V.Clear o.shell.stream
  output : o.trace.output = bytes
  answer : o.answer = .ok ()

theorem Outcome.Delivers.launches {o : Outcome σ Unit} (h : o.Delivers V s bytes) :
    o.trace.launches = [] := by
  rw [← Trace.launches_beside, h.beside]
  rfl

namespace Action

/-! ## Actions that only say something -/

/-- On a stream that works the action says the bytes. -/
def Conveys (V : Conveyance σ) (x : Action σ Unit) (bytes : List UInt8) : Prop :=
  ∀ s : Shell σ, V.works s.stream → (x.run s).Conveys V s bytes

theorem Conveys.bind {x y : Action σ Unit} {bytes' : List UInt8} (hx : Conveys V x bytes)
    (hy : Conveys V y bytes') : Conveys V (x >>= fun _ => y) (bytes ++ bytes') := by
  intro s hs
  obtain ⟨hshell, hbeside, hworks, hstreamed, hanswer⟩ := hx s hs
  rw [run_bind]
  generalize x.run s = o at hshell hbeside hworks hstreamed hanswer
  obtain ⟨s', t, answer⟩ := o
  obtain rfl : answer = .ok () := hanswer
  obtain ⟨hshell', hbeside', hworks', hstreamed', hanswer'⟩ := hy s' hworks
  change s' = s.on s'.stream at hshell
  refine ⟨?_, ?_, hworks', ?_, hanswer'⟩
  · change (y.run s').shell = s.on (y.run s').shell.stream
    rw [hshell', hshell]
    rfl
  · change Trace.beside (t ++ (y.run s').trace) = []
    rw [Trace.beside_append, hbeside', List.append_nil]
    exact hbeside
  · change Trace.streamed (t ++ (y.run s').trace) ++ V.held (y.run s').shell.stream = _
    rw [Trace.streamed_append, List.append_assoc, hstreamed', ← List.append_assoc,
      ← List.append_assoc]
    exact congrArg (· ++ bytes') hstreamed

theorem conveys_pure : Conveys V (pure () : Action σ Unit) [] :=
  fun _ hs => ⟨rfl, rfl, hs, (List.append_nil _).symm, rfl⟩

theorem conveys_emit {f : σ → Emission σ Unit} (h : ∀ s, V.works s → V.Takes (f s) s bytes) :
    Conveys V (emit f) bytes := by
  intro s hs
  obtain ⟨⟨hanswer, hworks⟩, hemitted⟩ := h s.stream hs
  obtain ⟨hshell, hbeside⟩ := speaks_emit f s
  refine ⟨hshell, hbeside, hworks, ?_, ?_⟩
  · rw [streamed_emit]
    exact hemitted
  · simp only [emit, hanswer]

theorem conveys_say (text : String) : Conveys V (say text) (Text.utf8 (text ++ "\n")) :=
  conveys_emit fun _ hs => V.takes_writeLine text hs

theorem conveys_sayAll (entries : List (Entry Nat)) :
    Conveys V (entries.forM fun e => (say e.line : Action σ Unit))
      (entries.flatMap fun e => Text.utf8 (e.line ++ "\n")) := by
  induction entries with
  | nil => exact conveys_pure
  | cons e entries ih => exact (conveys_say e.line).bind ih

/-- What is said is delivered by a flush. -/
theorem Conveys.bind_flush {x : Action σ Unit} (hx : Conveys V x bytes) (hs : V.Clear s.stream) :
    ((x >>= fun _ => flush).run s).Delivers V s bytes := by
  obtain ⟨hshell, hbeside, hworks, hstreamed, hanswer⟩ := hx s hs.works
  rw [run_bind]
  generalize x.run s = o at hshell hbeside hworks hstreamed hanswer
  obtain ⟨s', t, answer⟩ := o
  obtain rfl : answer = .ok () := hanswer
  change s' = s.on s'.stream at hshell
  change t.streamed ++ V.held s'.stream = V.held s.stream ++ bytes at hstreamed
  obtain ⟨⟨hanswer', hworks'⟩, hemitted, hheld⟩ := V.flush hworks
  obtain ⟨hshell', hbeside'⟩ := speaks_emit OutputStream.flush s'
  have hall : Trace.beside (t ++ (flush.run s').trace) = [] := by
    rw [Trace.beside_append, show (flush.run s').trace.beside = [] from hbeside', List.append_nil]
    exact hbeside
  refine ⟨?_, hall, ⟨hworks', hheld⟩, ?_, ?_⟩
  · change (flush.run s').shell = s.on (flush.run s').shell.stream
    rw [show (flush.run s').shell = _ from hshell', hshell]
    rfl
  · rw [Trace.output_eq_streamed hall, Trace.streamed_append]
    rw [show (flush.run s').trace.streamed = V.held s'.stream from
      (streamed_emit OutputStream.flush s').trans hemitted, hstreamed, hs.held, List.nil_append]
  · simp only [flush, emit, hanswer']

/-- Where nothing is held back, a flush does nothing. -/
theorem exists_run_flush (hs : V.Clear s.stream) :
    ∃ stream, flush.run s = ⟨s.on stream, [], .ok ()⟩ ∧ V.Clear stream := by
  obtain ⟨⟨hanswer, hworks⟩, hemitted, hheld⟩ := V.flush hs.works
  refine ⟨(OutputStream.flush s.stream).stream, ?_, hworks, hheld⟩
  rw [flush, emit]
  simp only [hemitted, hs.held, hanswer, if_pos]
  rfl

end Action

/-! ## What tasks say -/

/-- The bytes of a listing of entries. -/
def Entry.listing (entries : List (Entry Nat)) : List UInt8 :=
  entries.flatMap fun e => Text.utf8 (e.line ++ "\n")

namespace Task

theorem delivers_say (hs : V.Clear s.stream) (host : Host) (text : String) :
    (((say text).action host).run s).Delivers V s (Text.utf8 (text ++ "\n")) :=
  (conveys_say text).bind_flush hs

theorem exists_run_list (hs : V.Clear s.stream) (host : Host) :
    let recorded : Shell σ := { s with history := s.history.insert historyLine }
    ∃ o : Outcome σ Unit,
      o.Delivers V recorded (Entry.listing recorded.history.toList) ∧
      (list.action host).run s =
        { o with
          trace :=
            [Diagnostic.recorded s.history.nextId historyLine,
              .listing recorded.history.count recorded.history.slots.size].map .noted ++
                o.trace } := by
  intro recorded
  exact ⟨_, (conveys_sayAll recorded.history.toList).bind_flush (s := recorded) hs, rfl⟩

theorem exists_run_run (hs : V.Clear s.stream) (host : Host) (argv : List String) (line : String)
    (background : Bool) :
    ∃ stream, V.Clear stream ∧
      ((run argv line background).action host).run s =
        (Shell.launch host argv line background >>= fun _ => discard (Shell.record line)).run
          (s.on stream) := by
  obtain ⟨stream, hflush, hclear⟩ := exists_run_flush hs
  refine ⟨stream, hclear, ?_⟩
  rw [action, run_bind_of_ok hflush]
  rfl

end Task

/-! ## Between two requests -/

namespace Action

/-- If nothing is held back before, nothing is afterwards. -/
def KeepsClear (V : Conveyance σ) (x : Action σ α) : Prop :=
  ∀ s : Shell σ, V.Clear s.stream → V.Clear (x.run s).shell.stream

theorem KeepsClear.bind {β : Type} {x : Action σ α} {f : α → Action σ β} (hx : KeepsClear V x)
    (hf : ∀ a, KeepsClear V (f a)) : KeepsClear V (x >>= f) := by
  intro s hs
  have hclear := hx s hs
  rw [run_bind]
  generalize x.run s = o at hclear
  obtain ⟨s', t, e | a⟩ := o
  · exact hclear
  · exact hf a s' hclear

theorem Streamless.keepsClear {x y : Action σ α} (h : Streamless x y) : KeepsClear V x := by
  intro s hs
  obtain ⟨-, hsilent⟩ := h s s.stream
  exact ⟨hsilent.stream ▸ hs.works, hsilent.stream ▸ hs.held⟩

theorem keepsClear_pure (a : α) : KeepsClear V (pure a : Action σ α) := fun _ hs => hs

end Action

theorem Task.keepsClear_action (host : Host) (t : Task) :
    KeepsClear V (t.action host : Action σ Unit) := by
  intro s hs
  cases t with
  | rest => exact hs
  | say text => exact (delivers_say hs host text).clear
  | list =>
      obtain ⟨o, ho, hrun⟩ := exists_run_list hs host
      rw [hrun]
      exact ho.clear
  | run argv line background =>
      obtain ⟨stream, hclear, hrun⟩ := exists_run_run hs host argv line background
      rw [hrun]
      exact (Shell.streamless_launch host argv line background).keepsClear.bind (fun _ =>
        (Shell.streamless_record line).keepsClear.bind fun _ => keepsClear_pure _) _ hclear

theorem Plan.keepsClear_action (host : Host) (p : Plan) :
    KeepsClear V (p.action host : Action σ Unit) :=
  .bind (fun _ hs => hs) fun _ => p.task.keepsClear_action host

/-- A request that comes to no plan does not know the stream. -/
theorem Request.streamless_of_plan?_eq_none {τ : Type} [OutputStream τ] {h : History}
    {limit : Nat} {r : Request} (hr : r.plan? h limit = none) (host : Host) :
    Streamless (r.action host limit : Action σ Reply) (r.action host limit : Action τ Reply) := by
  cases r with
  | record text => exact (Shell.streamless_record text).bind fun _ => streamless_pure _
  | collect => exact Shell.streamless_collect.bind fun _ => streamless_pure _
  | finish pid => exact (Shell.streamless_idle _).bind fun _ => streamless_pure _
  | settle =>
      exact (Shell.streamless_idle _).bind fun _ =>
        Shell.streamless_collect.bind fun _ => streamless_pure _
  | _ => cases hr

theorem Request.keepsClear_action (host : Host) (limit : Nat) (r : Request) :
    KeepsClear V (r.action host limit : Action σ Reply) := by
  intro s
  cases hp : r.plan? s.history limit with
  | none => exact (streamless_of_plan?_eq_none hp host).keepsClear s
  | some plan =>
      rw [run_action_of_plan? hp]
      exact (plan.1.keepsClear_action host).bind (fun _ => keepsClear_pure _) s

/-- Whatever a shell serves, nothing is held back afterwards. -/
theorem Shell.Serves.clear {P : Host → Prop} {s' : Shell σ} {t : Trace} (h : Serves P s s' t)
    (hs : V.Clear s.stream) : V.Clear s'.stream := by
  induction h with
  | refl => exact hs
  | step hhost limit r _ ih => exact Request.keepsClear_action _ limit r _ ih

end LineShell
