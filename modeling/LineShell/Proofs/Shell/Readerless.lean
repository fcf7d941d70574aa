import LineShell.Proofs.Output.Limit
import LineShell.Proofs.Shell.Storing
import LineShell.Proofs.Shell.Streamless

/-!
# When nobody reads the stream

A shell whose stream lacks a reader does all that it does on a working one, as long as only writes
find this out. A flush that finds it out is a fault, and nothing is run after it.
-/

namespace LineShell

open LineShell.Action

variable {σ τ α β : Type} {W : σ → Prop} {V : τ → Prop}

/-! ## The same shell on two streams -/

/-- Beside their streams, which keep a property each, two outcomes are the same. -/
structure Outcome.Matches (W : σ → Prop) (V : τ → Prop) (o : Outcome σ α) (p : Outcome τ α) :
    Prop where
  shell : p.shell = o.shell.on p.shell.stream
  left : W o.shell.stream
  right : V p.shell.stream
  beside : p.trace.beside = o.trace.beside
  answer : p.answer = o.answer

namespace Action

/-- A shell does the same on streams with a property each. -/
def Matches (W : σ → Prop) (V : τ → Prop) (x : Action σ α) (y : Action τ α) : Prop :=
  ∀ s t, W s.stream → V t → (x.run s).Matches W V (y.run (s.on t))

theorem Matches.bind {x : Action σ α} {y : Action τ α} {f : α → Action σ β} {g : α → Action τ β}
    (h : Matches W V x y) (hfg : ∀ a, Matches W V (f a) (g a)) :
    Matches W V (x >>= f) (y >>= g) := by
  intro s t hs ht
  obtain ⟨hshell, hleft, hright, hbeside, hanswer⟩ := h s t hs ht
  rw [run_bind, run_bind]
  generalize x.run s = o at *
  generalize y.run (s.on t) = p at *
  obtain ⟨s', u, answer⟩ := o
  obtain ⟨s'', v, answer'⟩ := p
  obtain rfl : answer' = answer := hanswer
  cases answer' with
  | error e => exact ⟨hshell, hleft, hright, hbeside, rfl⟩
  | ok a =>
      obtain ⟨hshell', hleft', hright', hbeside', hanswer'⟩ := hfg a s' s''.stream hleft hright
      rw [← hshell] at *
      refine ⟨hshell', hleft', hright', ?_, hanswer'⟩
      simp only [Trace.beside_append, hbeside, hbeside']

theorem matches_of_streamless {x : Action σ α} {y : Action τ α} (h : Streamless x y) :
    Matches W V x y := by
  intro s t hs ht
  obtain ⟨hrun, hsilent⟩ := h s t
  rw [hrun]
  exact ⟨rfl, hsilent.stream.symm ▸ hs, ht, rfl, rfl⟩

theorem matches_pure (a : α) : Matches W V (pure a) (pure a) :=
  matches_of_streamless (streamless_pure a)

theorem matches_emit {f : σ → Emission σ Unit} {g : τ → Emission τ Unit}
    (hf : ∀ s, W s → (f s).WentThrough W) (hg : ∀ t, V t → (g t).WentThrough V) :
    Matches W V (emit f) (emit g) := by
  intro s t hs ht
  obtain ⟨ha, hw⟩ := hf s.stream hs
  obtain ⟨ha', hv⟩ := hg t ht
  refine ⟨rfl, hw, hv, (speaks_emit g _).2.trans (speaks_emit f s).2.symm, ?_⟩
  simp only [emit, Shell.stream_on, ha, ha']

/-- What the actions are to do may depend on the history. -/
theorem matches_of_history {x : Action σ α} {y : Action τ α} (f : History → Action σ α)
    (g : History → Action τ α) (hx : ∀ s, x.run s = (f s.history).run s)
    (hy : ∀ s, y.run s = (g s.history).run s) (h : ∀ h, Matches W V (f h) (g h)) :
    Matches W V x y := by
  intro s t hs ht
  rw [hx, hy]
  exact h s.history s t hs ht

end Action

/-! ## Lines on a stream without a reader -/

variable [OutputStream σ] [OutputStream τ] {host : Host}

namespace Shell

section Piped

variable (hW : OutputStream.Piped W) (hV : OutputStream.Piped V)

include hW hV

theorem matches_say (text : String) : Matches W V (say text) (say text) :=
  matches_emit (fun _ hs => OutputStream.Writes.writeLine hW.write text hs)
    fun _ ht => OutputStream.Writes.writeLine hV.write text ht

theorem matches_flush : Matches W V flush flush :=
  matches_emit (fun _ hs => hW.flush hs) fun _ ht => hV.flush ht

theorem matches_sayAll (entries : List (Entry Nat)) :
    Matches W V (entries.forM fun e => say e.line) (entries.forM fun e => say e.line) := by
  induction entries with
  | nil => exact matches_pure _
  | cons e entries ih => exact .bind (matches_say hW hV _) fun _ => ih

theorem matches_writeEntries : Matches W V writeEntries writeEntries :=
  matches_of_history listing listing run_writeEntries run_writeEntries fun _ =>
    .bind (matches_of_streamless (streamless_note _)) fun _ =>
      .bind (matches_sayAll hW hV _) fun _ => matches_flush hW hV

theorem matches_task (t : Task) : Matches W V (t.action host) (t.action host) := by
  cases t with
  | rest => exact matches_pure ()
  | say text => exact .bind (matches_say hW hV text) fun _ => matches_flush hW hV
  | list =>
      exact .bind (matches_of_streamless ((streamless_record historyLine).bind fun _ =>
        streamless_pure ())) fun _ => matches_writeEntries hW hV
  | run argv line background =>
      refine .bind (matches_flush hW hV) fun _ => matches_of_streamless ?_
      exact .bind (streamless_launch host argv line background) fun _ =>
        .bind (streamless_record line) fun _ => streamless_pure ()

theorem matches_evaluate (limit : Nat) (line : String) :
    Matches W V (evaluate host limit line) (evaluate host limit line) :=
  matches_of_history (Plan.evaluate host limit line) (Plan.evaluate host limit line)
    (run_evaluate host limit line) (run_evaluate host limit line) fun _ =>
    .bind (.bind (matches_of_streamless (streamless_tell (Trace.streamed_noted _))) fun _ =>
      matches_task hW hV _) fun _ => matches_pure _

end Piped

/-- Where writes alone fail, and for want of a reader, a line is answered, kept and run as on any
stream that accepts whatever it is offered. -/
theorem evaluate_of_piped (hW : OutputStream.Piped W) (hV : OutputStream.Accepting V)
    (hf : host.Forks) (limit : Nat) (line : String) {s : Shell σ} (hs : W s.stream) {t : τ}
    (ht : V t) :
    let o := (evaluate host limit line).run s
    let p := (evaluate host limit line).run (s.on t)
    o.answer = .ok (if line = exitLine then .leave else .stay) ∧
      o.shell.history = p.shell.history ∧ o.shell.roster = p.shell.roster ∧
      o.shell.forks = p.shell.forks ∧ o.trace.beside = p.trace.beside := by
  have hmatches : Matches W V (evaluate host limit line) (evaluate host limit line) :=
    matches_evaluate hW hV.piped limit line
  obtain ⟨hshell, -, -, hbeside, hanswer⟩ := hmatches s t hs ht
  refine ⟨?_, ?_, ?_, ?_, hbeside.symm⟩
  · rw [← hanswer]
    split_ifs with hexit
    · rw [evaluate, if_pos hexit]
      rfl
    · exact answer_evaluate_of_ne_exit hV hf ht hexit
  · rw [hshell, history_on]
  · rw [hshell, roster_on]
  · rw [hshell, forks_on]

/-- A listing of which five bytes are read is kept in the history. -/
theorem evaluate_of_piped_listing :
    let W : Limited → Prop := fun t => ∃ room, t = Limited.holding (some 1) .brokenPipe room
    let s : Shell Limited := Shell.ofSettings {} (Limited.holding (some 1) .brokenPipe 5)
    let o := (evaluate Host.echoing 8 "history").run s
    let p := (evaluate Host.echoing 8 "history").run (s.on Limited.unlimited)
    OutputStream.Piped W ∧ W s.stream ∧ OutputStream.Accepting (· = Limited.unlimited) ∧
      Host.echoing.Forks ∧ o.trace.streamed ≠ p.trace.streamed ∧
      o.answer = .ok .stay ∧ o.shell.history = p.shell.history ∧
      p.shell.history.toList = [⟨1, "history"⟩] ∧ o.trace.beside = p.trace.beside := by
  have hchunk : (some 1 : Option Nat) ≠ some 0 := by decide
  have hpiped := Limited.piped_holding hchunk
  obtain ⟨hanswer, hhistory, -, -, hbeside⟩ :=
    evaluate_of_piped hpiped Limited.accepting_unlimited Host.forks_echoing 8 "history"
      (s := Shell.ofSettings {} (Limited.holding (some 1) .brokenPipe 5)) ⟨5, rfl⟩ rfl
  rw [if_neg (by decide)] at hanswer
  exact ⟨hpiped, ⟨5, rfl⟩, Limited.accepting_unlimited, Host.forks_echoing, by decide +kernel,
    hanswer, hhistory, by decide +kernel, hbeside⟩

end Shell

/-! ## Flushes that fail -/

section Flushing

variable {f : Failure} (hwrite : OutputStream.Writes (· = .brokenPipe) W)
  (hflush : ∀ {s}, W s → (OutputStream.flush s).answer = .error f)

include hwrite hflush

/-- Whatever there is to do, it ends in a flush or starts with one. -/
theorem Task.answer_of_flush {t : Task} (ht : t ≠ .rest) (s : Shell σ) (hs : W s.stream) :
    ((t.action host).run s).answer = .error (.output f) := by
  have hsay (text : String) : Completes W (Action.say text) :=
    completes_emit fun _ hs => OutputStream.Writes.writeLine hwrite text hs
  have hend (s : Shell σ) (hs : W s.stream) : (Action.flush.run s).answer = .error (.output f) := by
    simp only [Action.flush, emit, hflush hs]
  cases t with
  | rest => exact absurd rfl ht
  | say text => exact answer_bind_of_completes (hsay text) (fun _ => hend) s hs
  | list =>
      -- All entries are written before the flush, and none of them fails.
      refine answer_bind_of_completes (.bind (Shell.completes_record _) fun _ => completes_pure _)
        (fun _ s hs => ?_) s hs
      change (Shell.writeEntries.run s).answer = _
      rw [Shell.run_writeEntries]
      have hsayAll (entries : List (Entry Nat)) :
          Completes W (entries.forM fun e => (Action.say e.line : Action σ Unit)) :=
        forM_induction (completes_pure _) (fun hx hy => .bind hx fun _ => hy) (fun _ => hsay _) _
      exact answer_bind_of_completes (completes_tell _)
        (fun _ => answer_bind_of_completes (hsayAll _) fun _ => hend) s hs
  | run argv line background => exact (spares_run_of_error (hflush hs)).2

/-- Every line that asks for something ends in the fault of a flush. -/
theorem Shell.answer_evaluate_of_flush {limit : Nat} {line : String} {s : Shell σ}
    (hs : W s.stream) (htask : (Plan.ofLine s.history limit line).task ≠ .rest) :
    ((evaluate host limit line).run s).answer = .error (.output f) := by
  rw [run_evaluate_task]
  simp only [Task.answer_of_flush hwrite hflush htask s hs]
  rfl

end Flushing

/-- A stream of which nothing is read, as every write and every flush finds out. A program that
would run on a working stream does not run. -/
theorem Shell.evaluate_not_run_of_broken_flush :
    let gone : Limited := ⟨some 0, none, .brokenPipe, some .brokenPipe⟩
    let s : Shell Limited := Shell.ofSettings {} gone
    let o := (evaluate Host.echoing 8 "true").run s
    let p := (evaluate Host.echoing 8 "true").run (s.on Limited.unlimited)
    (∀ bs, OutputStream.write gone bs = ⟨gone, [], .error .brokenPipe⟩) ∧
      OutputStream.flush gone = ⟨gone, [], .error .brokenPipe⟩ ∧
      o.answer = .error (.output .brokenPipe) ∧ o.shell.history.toList = [] ∧
      o.trace.launches = [] ∧
      p.answer = .ok .stay ∧ p.shell.history.toList = [⟨1, "true"⟩] ∧
      p.trace.launches = [⟨1, 0, ["true"], false⟩] := by
  refine ⟨fun _ => rfl, rfl, ?_, by decide +kernel, by decide +kernel, ?_, by decide +kernel,
    by decide +kernel⟩
  · refine answer_evaluate_of_flush (W := (· = ⟨some 0, none, .brokenPipe, some .brokenPipe⟩))
      ?_ ?_ rfl ?_
    · rintro _ bs rfl -
      exact ⟨.inr ⟨_, rfl, rfl⟩, rfl⟩
    · rintro _ rfl
      rfl
    · decide
  · exact answer_evaluate_of_ne_exit Limited.accepting_unlimited Host.forks_echoing rfl (by decide)

end LineShell
