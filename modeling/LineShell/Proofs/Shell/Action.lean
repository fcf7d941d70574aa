import LineShell.Proofs.Output.Accepting
import LineShell.Shell.Basic

/-!
# Reasoning about actions

An action is followed step by step: what holds of its first step, and of the rest after every
answer, holds of the whole.
-/

namespace LineShell.Action

variable {σ α β : Type}

/-! ## Runs of composite actions -/

theorem run_bind (x : Action σ α) (f : α → Action σ β) (s : Shell σ) :
    (x >>= f).run s =
      match x.run s with
      | ⟨s', t, .error e⟩ => ⟨s', t, .error e⟩
      | ⟨s', t, .ok a⟩ => { (f a).run s' with trace := t ++ ((f a).run s').trace } := rfl

@[simp] theorem run_state_bind (f : Shell σ → Action σ β) (s : Shell σ) :
    (state >>= f).run s = (f s).run s := by
  rw [run_bind_of_ok (x := state) rfl]
  rfl

@[simp] theorem run_modify_bind (g : Shell σ → Shell σ) (f : Unit → Action σ β) (s : Shell σ) :
    (modify g >>= f).run s = (f ()).run (g s) := by
  rw [run_bind_of_ok (x := modify g) rfl]
  rfl

@[simp] theorem run_tell_bind (t : Trace) (f : Unit → Action σ β) (s : Shell σ) :
    (tell t >>= f).run s = { (f ()).run s with trace := t ++ ((f ()).run s).trace } :=
  run_bind_of_ok (x := tell t) rfl

/-- To print a line that goes through is to write it. -/
theorem run_print_of_ok [OutputStream σ] {text : String} {s : Shell σ}
    (h : (OutputStream.printLine s.stream text).answer = .ok ()) :
    (print text).run s = (emit (OutputStream.printLine · text)).run s := by
  have hanswer : ((emit (OutputStream.printLine · text)).run s).answer = .ok () := by
    simp only [emit, h]
  have hattempt : (attempt (emit (OutputStream.printLine · text))).run s =
      ⟨_, _, .ok (.ok ())⟩ := congrArg (Outcome.mk _ _) (congrArg Except.ok hanswer)
  rw [print, run_bind_of_ok hattempt, run_pure, List.append_nil]
  exact congrArg (Outcome.mk _ _) hanswer.symm

/-- What a step passes on reaches the descriptor. -/
theorem run_emit_of_ok {f : σ → Emission σ Unit} {s : Shell σ} {out : List UInt8}
    (h : f s.stream = ⟨s.stream, out, .ok ()⟩) :
    ∃ t, (emit f).run s = ⟨s, t, .ok ()⟩ ∧ Trace.output t = out := by
  refine ⟨if out = [] then [] else [.streamed out], ?_, ?_⟩
  · simp only [emit, h]
  · split
    · rename_i hout
      exact hout.symm
    · exact List.append_nil out

theorem run_attempt (x : Action σ α) (s : Shell σ) :
    (attempt x).run s = ⟨(x.run s).shell, (x.run s).trace, .ok (x.run s).answer⟩ := rfl

theorem run_observe (x : Action σ α) (s : Shell σ) :
    (observe x).run s =
      ⟨(x.run s).shell, (x.run s).trace, (x.run s).answer.map (·, (x.run s).trace)⟩ := rfl

theorem discard_eq (x : Action σ α) : discard x = x >>= fun _ => pure () := rfl

theorem ext_run {x y : Action σ α} (h : ∀ s, x.run s = y.run s) : x = y := by
  obtain ⟨f⟩ := x
  obtain ⟨g⟩ := y
  exact congrArg mk (funext h)

theorem bind_pure_eq (x : Action σ α) : x >>= pure = x := by
  refine ext_run fun s => ?_
  rw [run_bind]
  rcases x.run s with ⟨s', t, e | a⟩
  · rfl
  · simp only [run_pure, List.append_nil]

theorem bind_bind_eq {γ : Type} (x : Action σ α) (f : α → Action σ β) (g : β → Action σ γ) :
    (x >>= f) >>= g = x >>= fun a => f a >>= g := by
  refine ext_run fun s => ?_
  rw [run_bind, run_bind, run_bind]
  rcases x.run s with ⟨s', t, e | a⟩
  · rfl
  · dsimp only
    rw [run_bind]
    rcases (f a).run s' with ⟨s'', t', e | b⟩
    · rfl
    · simp only [List.append_assoc]

instance : LawfulMonad (Action σ) :=
  LawfulMonad.mk' (Action σ) bind_pure_eq (fun _ _ => rfl) bind_bind_eq

/-- What holds of actions one after another, and of each item's action, holds of all of them. -/
theorem forM_induction {P : Action σ PUnit → Prop} (hpure : P (pure ⟨⟩))
    (hbind : ∀ {x y : Action σ PUnit}, P x → P y → P (x >>= fun _ => y)) {ι : Type}
    {f : ι → Action σ PUnit} (hf : ∀ i, P (f i)) (is : List ι) : P (is.forM f) := by
  induction is with
  | nil => exact hpure
  | cons i is ih => exact hbind (hf i) ih

/-! ## Actions that leave the history alone -/

/-- The history is the same afterwards, be the answer a fault or not. -/
def KeepsHistory (x : Action σ α) : Prop :=
  ∀ s, (x.run s).shell.history = s.history

theorem history_bind_of_keepsHistory (x : Action σ α) {f : α → Action σ β}
    (hf : ∀ a, KeepsHistory (f a)) (s : Shell σ) :
    ((x >>= f).run s).shell.history = (x.run s).shell.history := by
  rw [run_bind]
  rcases x.run s with ⟨s', t, e | a⟩
  · rfl
  · exact hf a s'

theorem KeepsHistory.bind {x : Action σ α} {f : α → Action σ β} (hx : KeepsHistory x)
    (hf : ∀ a, KeepsHistory (f a)) : KeepsHistory (x >>= f) :=
  fun s => (history_bind_of_keepsHistory x hf s).trans (hx s)

theorem keepsHistory_state_bind {f : Shell σ → Action σ β} (hf : ∀ s, KeepsHistory (f s)) :
    KeepsHistory (state >>= f) := by
  intro s
  rw [run_state_bind]
  exact hf s s

theorem keepsHistory_pure (a : α) : KeepsHistory (pure a : Action σ α) := fun _ => rfl

theorem keepsHistory_tell (t : Trace) : KeepsHistory (tell t : Action σ Unit) := fun _ => rfl

theorem keepsHistory_note (d : Diagnostic) : KeepsHistory (note d : Action σ Unit) := fun _ => rfl

theorem keepsHistory_fail (e : Fault) : KeepsHistory (fail e : Action σ α) := fun _ => rfl

theorem keepsHistory_emit (f : σ → Emission σ Unit) : KeepsHistory (emit f) := fun _ => rfl

theorem keepsHistory_modify {f : Shell σ → Shell σ} (hf : ∀ s, (f s).history = s.history) :
    KeepsHistory (modify f) := hf

/-! ## Actions that come to their end -/

/-- No fault ends the action while the stream has a property, and the stream keeps it. -/
def Completes (W : σ → Prop) (x : Action σ α) : Prop :=
  ∀ s, W s.stream → (∃ a, (x.run s).answer = .ok a) ∧ W (x.run s).shell.stream

variable {W : σ → Prop}

theorem Completes.bind {x : Action σ α} {f : α → Action σ β} (hx : Completes W x)
    (hf : ∀ a, Completes W (f a)) : Completes W (x >>= f) := by
  intro s hs
  obtain ⟨⟨a, ha⟩, hw⟩ := hx s hs
  rw [run_bind]
  generalize x.run s = o at ha hw
  obtain ⟨s', t, answer⟩ := o
  obtain rfl : answer = .ok a := ha
  exact hf a s' hw

/-- What follows a step that comes to its end decides the answer. -/
theorem answer_bind_of_completes {x : Action σ α} {f : α → Action σ β} {answer : Except Fault β}
    (hx : Completes W x) (hf : ∀ a s, W s.stream → ((f a).run s).answer = answer) (s : Shell σ)
    (hs : W s.stream) : ((x >>= f).run s).answer = answer := by
  obtain ⟨⟨a, ha⟩, hw⟩ := hx s hs
  rw [run_bind]
  generalize x.run s = o at ha hw
  obtain ⟨s', t, answer'⟩ := o
  obtain rfl : answer' = .ok a := ha
  exact hf a s' hw

theorem completes_pure (a : α) : Completes W (pure a : Action σ α) := fun _ hs => ⟨⟨a, rfl⟩, hs⟩

theorem completes_state : Completes W (state : Action σ (Shell σ)) := fun s hs => ⟨⟨s, rfl⟩, hs⟩

theorem completes_tell (t : Trace) : Completes W (tell t : Action σ Unit) :=
  fun _ hs => ⟨⟨(), rfl⟩, hs⟩

theorem completes_modify {f : Shell σ → Shell σ} (hf : ∀ s, (f s).stream = s.stream) :
    Completes W (modify f) :=
  fun s hs => ⟨⟨(), rfl⟩, (congrArg W (hf s)).mpr hs⟩

theorem completes_emit {f : σ → Emission σ Unit} (hf : ∀ s, W s → (f s).WentThrough W) :
    Completes W (emit f) := by
  intro s hs
  obtain ⟨ha, hw⟩ := hf s.stream hs
  refine ⟨⟨(), ?_⟩, hw⟩
  simp only [emit, ha]

variable [OutputStream σ]

theorem completes_say (hW : OutputStream.Accepting W) (text : String) : Completes W (say text) :=
  completes_emit fun _ hs => hW.writeLine text hs

theorem completes_print (hW : OutputStream.Accepting W) (text : String) :
    Completes W (print text) := by
  have hemit : Completes W (emit (OutputStream.printLine · text)) :=
    completes_emit fun _ hs => hW.printLine text hs
  intro s hs
  rw [run_print_of_ok (hW.printLine text hs).1]
  exact hemit s hs

theorem completes_flush (hW : OutputStream.Accepting W) : Completes W (flush : Action σ Unit) :=
  completes_emit fun _ hs => hW.flush hs

end LineShell.Action
