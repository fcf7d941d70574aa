import Mathlib.Tactic.SplitIfs
import LineShell.Proofs.Output.Limit
import LineShell.Proofs.Shell.Plan
import LineShell.Proofs.Shell.Reachable
import LineShell.Proofs.Shell.Streamless
import LineShell.Session

/-!
# What a full stream changes

A shell does the same whether its stream takes everything or runs full. Only the bytes that go
beyond the room are missing, and a step that has more to say than there is room for ends in a fault,
unless it is for want of a reader.
-/

namespace LineShell

open LineShell.Action
open LineShell.Limited (holding Overflows overflows_add_iff not_overflows_zero)

variable {α β : Type} {chunk : Option Nat} {full : Failure}

/-! ## Outcomes that are cut -/

/-- On a stream with so much room comes the second outcome where without a limit comes the first. -/
structure Outcome.IsCut (chunk : Option Nat) (full : Failure) (room : Nat)
    (o p : Outcome Limited α) : Prop where
  stream : o.shell.stream = .unlimited
  shell : p.shell = o.shell.on (holding chunk full (room - o.trace.streamed.length))
  beside : p.trace.beside = o.trace.beside
  streamed : p.trace.streamed = o.trace.streamed.take room
  unfailing : o.Unfailing
  answer : p.answer =
    if Overflows full room o.trace.streamed.length then .error (.output full.ofText) else o.answer

namespace Outcome

variable {room : Nat} {t u : Trace} {o p : Outcome Limited α}

/-- What comes after something that fits has the room that is left. -/
theorem IsCut.prepend (hbeside : u.beside = t.beside)
    (hstreamed : u.streamed = t.streamed.take room)
    (hfits : ¬ Overflows full room t.streamed.length)
    (h : o.IsCut chunk full (room - t.streamed.length) p) :
    IsCut chunk full room { o with trace := t ++ o.trace } { p with trace := u ++ p.trace } where
  stream := h.stream
  shell := by
    rw [Trace.length_streamed_append, ← Nat.sub_sub]
    exact h.shell
  beside := by simp only [Trace.beside_append, hbeside, h.beside]
  streamed := by simp only [Trace.streamed_append, hstreamed, h.streamed, List.take_append]
  unfailing := h.unfailing
  answer := by
    simp only [Trace.length_streamed_append, overflows_add_iff hfits]
    exact h.answer

/-- What comes after something that does not fit is left out, so it must do nothing but speak. -/
theorem isCut_of_overflows {s : Shell Limited} (hbeside : u.beside = t.beside)
    (hstreamed : u.streamed = t.streamed.take room) (hfull : Overflows full room t.streamed.length)
    (hstream : o.shell.stream = .unlimited) (hunfailing : o.Unfailing)
    (hspeaks : o.shell = s.on o.shell.stream ∧ o.trace.beside = []) :
    IsCut chunk full room { o with trace := t ++ o.trace }
      ⟨s.on (holding chunk full (room - t.streamed.length)), u, .error (.output full.ofText)⟩ where
  stream := hstream
  shell := by
    have hroom : room - t.streamed.length =
        room - (t.streamed.length + o.trace.streamed.length) := by
      have := hfull.2
      omega
    rw [Trace.length_streamed_append, ← hroom]
    change s.on _ = o.shell.on _
    rw [hspeaks.1, Shell.on_on]
  beside := by simp only [Trace.beside_append, hbeside, hspeaks.2, List.append_nil]
  streamed := by
    rw [hstreamed, Trace.streamed_append, List.take_append_of_le_length (Nat.le_of_lt hfull.2)]
  unfailing := hunfailing
  answer := by simp only [Trace.length_streamed_append, if_pos (hfull.add_right _)]

end Outcome

namespace Action

/-- Whatever the room is, the action does the same but for what goes beyond it. -/
def IsCut (chunk : Option Nat) (full : Failure) (x : Action Limited α) : Prop :=
  ∀ (s : Shell Limited) room,
    (x.run (s.on .unlimited)).IsCut chunk full room (x.run (s.on (holding chunk full room)))

/-- Nothing is written to a stream that takes everything. -/
def Silent (x : Action Limited α) : Prop :=
  ∀ s : Shell Limited, (x.run (s.on .unlimited)).trace.streamed = []

/-- Either the first step cannot be cut, or what follows it does nothing but speak. -/
theorem IsCut.bind {x : Action Limited α} {f : α → Action Limited β} (hx : IsCut chunk full x)
    (hf : ∀ a, IsCut chunk full (f a)) (h : Silent x ∨ ∀ a, Speaks (f a)) :
    IsCut chunk full (x >>= f) := by
  intro s room
  have hsilent := h.imp_left fun h => h s
  obtain ⟨hstream, hshell, hbeside, hstreamed, hunfailing, hanswer⟩ := hx s room
  rw [run_bind, run_bind]
  generalize x.run (s.on .unlimited) = o at *
  generalize x.run (s.on (holding chunk full room)) = p at *
  obtain ⟨s', t, answer⟩ := o
  obtain ⟨s'', u, answer'⟩ := p
  dsimp only at *
  subst hshell hanswer
  by_cases hfull : Overflows full room t.streamed.length
  · rw [if_pos hfull]
    cases answer with
    | error e => exact ⟨hstream, rfl, hbeside, hstreamed, hunfailing.of_error, (if_pos hfull).symm⟩
    | ok a =>
        -- Only without a limit is there a rest. A silent first step would not have overflowed.
        have hspeaks : Speaks (f a) := by
          refine (hsilent.resolve_left fun h => ?_) a
          rw [h] at hfull
          exact not_overflows_zero room hfull
        have hrest := hf a s' 0
        rw [Shell.on_eq_self hstream] at hrest
        exact Outcome.isCut_of_overflows hbeside hstreamed hfull hrest.stream hrest.unfailing
          (hspeaks s')
  · rw [if_neg hfull]
    cases answer with
    | error e => exact ⟨hstream, rfl, hbeside, hstreamed, hunfailing.of_error, (if_neg hfull).symm⟩
    | ok a =>
        have hrest := hf a s' (room - t.streamed.length)
        rw [Shell.on_eq_self hstream] at hrest
        exact hrest.prepend hbeside hstreamed hfull

theorem isCut_pure (a : α) : IsCut chunk full (pure a) := fun _ _ =>
  ⟨rfl, rfl, rfl, List.take_nil.symm, nofun, (if_neg (not_overflows_zero _)).symm⟩

theorem IsCut.of_streamless {x : Action Limited α} (h : Streamless x x) : IsCut chunk full x := by
  intro s room
  obtain ⟨hrun, hstream, hstreamed, hunfailing⟩ :=
    h (s.on .unlimited) (holding chunk full room)
  rw [Shell.on_on] at hrun
  rw [hrun]
  refine ⟨hstream, ?_, rfl, ?_, hunfailing, ?_⟩
  · rw [hstreamed]
    rfl
  · exact hstreamed.trans (by rw [hstreamed, List.take_nil])
  · rw [hstreamed]
    exact (if_neg (not_overflows_zero _)).symm

theorem Silent.of_streamless {x : Action Limited α} (h : Streamless x x) : Silent x :=
  fun s => (h (s.on .unlimited) .unlimited).2.streamed

/-- What the action is to do may depend on the history. -/
theorem isCut_of_history {x : Action Limited α} (f : History → Action Limited α)
    (hx : ∀ s, x.run s = (f s.history).run s) (hf : ∀ h, IsCut chunk full (f h)) :
    IsCut chunk full x := by
  intro s room
  rw [hx, hx]
  exact hf s.history s room

/-! ## What the shell says -/

theorem isCut_emit {f : Limited → Emission Limited Unit} (bytes : List UInt8)
    (hall : f .unlimited = ⟨.unlimited, bytes, .ok ()⟩)
    (hcut : ∀ room, f (holding chunk full room) =
      ⟨holding chunk full (room - bytes.length), bytes.take room,
        if Overflows full room bytes.length then .error full.ofText else .ok ()⟩) :
    IsCut chunk full (emit f) := by
  intro s room
  have hstreamed : ((emit f).run (s.on .unlimited)).trace.streamed = bytes :=
    (streamed_emit f _).trans (congrArg Emission.emitted hall)
  have hanswer : ((emit f).run (s.on .unlimited)).answer = .ok () := by
    simp only [emit, Shell.stream_on, hall]
  constructor
  · exact congrArg Emission.stream hall
  · rw [hstreamed]
    exact congrArg (fun e => s.on e.stream) (hcut room)
  · exact (speaks_emit f _).2.trans (speaks_emit f _).2.symm
  · rw [hstreamed]
    exact (streamed_emit f _).trans (congrArg Emission.emitted (hcut room))
  · intro f h
    rw [hanswer] at h
    cases h
  · rw [hstreamed, hanswer]
    simp only [emit, Shell.stream_on, hcut]
    split_ifs <;> rfl

theorem silent_flush : Silent flush := fun _ => rfl

theorem isCut_flush : IsCut chunk full flush := by
  refine isCut_emit [] rfl fun room => ?_
  rw [List.take_nil, List.length_nil, if_neg (not_overflows_zero room)]
  rfl

theorem isCut_say (hchunk : chunk ≠ some 0) (text : String) : IsCut chunk full (say text) :=
  isCut_emit _ (Limited.writeLine_unlimited text) (Limited.writeLine_holding hchunk text)

theorem isCut_sayAll (hchunk : chunk ≠ some 0) (entries : List (Entry Nat)) :
    IsCut chunk full (entries.forM fun e => (say e.line : Action Limited Unit)) := by
  refine (forM_induction (P := fun x => IsCut chunk full x ∧ Speaks x) ⟨isCut_pure _, speaks_pure _⟩
    ?_ (fun e => ⟨isCut_say hchunk _, speaks_emit _⟩) entries).1
  rintro x y ⟨hx, hspeaks⟩ ⟨hy, hspeaks'⟩
  exact ⟨.bind hx (fun _ => hy) (.inr fun _ => hspeaks'), .bind hspeaks fun _ => hspeaks'⟩

end Action

namespace Shell

theorem isCut_writeEntries (hchunk : chunk ≠ some 0) :
    IsCut chunk full (writeEntries : Action Limited Unit) := by
  refine isCut_of_history listing run_writeEntries fun h => ?_
  have hnote := streamless_note (σ := Limited) (τ := Limited) (.listing h.count h.slots.size)
  exact .bind (.of_streamless hnote)
    (fun _ => .bind (isCut_sayAll hchunk _) (fun _ => isCut_flush) (.inr fun _ => speaks_emit _))
    (.inl (.of_streamless hnote))

variable (host : Host)

theorem isCut_task (hchunk : chunk ≠ some 0) (t : Task) :
    IsCut chunk full (t.action host : Action Limited Unit) := by
  cases t with
  | rest => exact isCut_pure ()
  | say text =>
      exact .bind (isCut_say hchunk text) (fun _ => isCut_flush) (.inr fun _ => speaks_emit _)
  | list =>
      have hrecord := (streamless_record (σ := Limited) (τ := Limited) historyLine).bind
        fun _ => streamless_pure ()
      exact .bind (.of_streamless hrecord) (fun _ => isCut_writeEntries hchunk)
        (.inl (.of_streamless hrecord))
  | run argv line background =>
      have hrun := (streamless_launch (σ := Limited) (τ := Limited) host argv line background).bind
        fun _ => (streamless_record line).bind fun _ => streamless_pure ()
      exact .bind isCut_flush (fun _ => .of_streamless hrun) (.inl silent_flush)

theorem isCut_plan (hchunk : chunk ≠ some 0) (p : Plan) :
    IsCut chunk full (p.action host : Action Limited Unit) :=
  have hreports := streamless_tell (σ := Limited) (τ := Limited) (Trace.streamed_noted p.reports)
  .bind (.of_streamless hreports) (fun _ => isCut_task host hchunk p.task)
    (.inl (.of_streamless hreports))

theorem isCut_evaluate (hchunk : chunk ≠ some 0) (limit : Nat) (line : String) :
    IsCut chunk full (evaluate host limit line : Action Limited Flow) :=
  isCut_of_history (Plan.evaluate host limit line) (run_evaluate host limit line) fun _ =>
    .bind (isCut_plan host hchunk _) (fun _ => isCut_pure _) (.inr fun _ => speaks_pure _)

end Shell

/-! ## Sessions -/

/-- Whatever is asked of a shell, it does the same on a stream that runs full. -/
theorem Request.isCut_action (host : Host) (limit : Nat) (hchunk : chunk ≠ some 0) (r : Request) :
    IsCut chunk full (r.action host limit : Action Limited Reply) := by
  have hreply {α : Type} {x : Action Limited α} {f : α → Reply} (hx : IsCut chunk full x) :
      IsCut chunk full (x >>= fun a => pure (f a)) :=
    hx.bind (fun _ => isCut_pure _) (.inr fun _ => speaks_pure _)
  cases r with
  | evaluate line => exact hreply (Shell.isCut_evaluate host hchunk limit line)
  | execute argv line background =>
      refine hreply ?_
      rw [Shell.execute_eq]
      exact Shell.isCut_task host hchunk _
  | replay id line =>
      exact hreply (isCut_of_history (fun h => (Plan.ofRecall h id line).action host)
        (Shell.run_replay host id line) fun _ => Shell.isCut_plan host hchunk _)
  | list => exact hreply (Shell.isCut_task host hchunk .list)
  | record text => exact hreply (.of_streamless (Shell.streamless_record text))
  | collect => exact hreply (.of_streamless Shell.streamless_collect)
  | finish pid => exact hreply (.of_streamless (Shell.streamless_idle _))
  | settle =>
      exact .of_streamless ((Shell.streamless_idle _).bind fun _ =>
        Shell.streamless_collect.bind fun _ => streamless_pure _)

namespace Session

/-- The bytes that go through the stream in some steps of a session. -/
def streamed {σ : Type} (steps : List (Outcome σ Reply)) : List UInt8 :=
  steps.flatMap fun o => o.trace.streamed

theorem streamed_cons {σ : Type} (o : Outcome σ Reply) (os : List (Outcome σ Reply)) :
    streamed (o :: os) = o.trace.streamed ++ streamed os :=
  List.flatMap_cons ..

theorem run_cons {σ : Type} [OutputStream σ] (host : Host) (limit : Nat) (s : Shell σ) (r : Request)
    (rs : List Request) :
    run host limit s (r :: rs) =
      (r.action host limit).run s :: run host limit ((r.action host limit).run s).shell rs := rfl

/-- Each step has the room that the steps before it have left. -/
theorem isCut_run (host : Host) (limit : Nat) (hchunk : chunk ≠ some 0) (room : Nat)
    (s : Shell Limited) (requests : List Request) {i : Nat} {o p : Outcome Limited Reply}
    (ho : (run host limit (s.on Limited.unlimited) requests)[i]? = some o)
    (hp : (run host limit (s.on (holding chunk full room)) requests)[i]? = some p) :
    o.IsCut chunk full
        (room - (streamed ((run host limit (s.on Limited.unlimited) requests).take i)).length) p ∧
      streamed ((run host limit (s.on (holding chunk full room)) requests).take (i + 1)) =
        (streamed ((run host limit (s.on Limited.unlimited) requests).take (i + 1))).take room := by
  -- The first step leaves the rest of the session a shell that differs in its stream alone, and the
  -- room that it has not used.
  induction requests generalizing s room i with
  | nil => cases ho
  | cons r rs ih =>
      have hstep : Outcome.IsCut chunk full room _ _ := r.isCut_action host limit hchunk s room
      rw [run_cons] at ho hp ⊢
      rw [run_cons]
      generalize (r.action host limit).run (s.on Limited.unlimited) = o₁ at *
      generalize (r.action host limit).run (s.on (holding chunk full room)) = p₁ at *
      cases i with
      | zero =>
          obtain rfl : o₁ = o := Option.some.inj ho
          obtain rfl : p₁ = p := Option.some.inj hp
          refine ⟨hstep, ?_⟩
          simpa [streamed] using hstep.streamed
      | succ i =>
          rw [List.getElem?_cons_succ] at ho hp
          rw [hstep.shell] at hp ⊢
          have hself := Shell.on_eq_self hstep.stream
          obtain ⟨hcut, hbytes⟩ := ih (room - o₁.trace.streamed.length) o₁.shell (by rwa [hself]) hp
          rw [hself] at hcut hbytes
          simp only [List.take_succ_cons, streamed_cons, List.length_append, ← Nat.sub_sub,
            hstep.streamed, List.take_append]
          exact ⟨hcut, congrArg _ hbytes⟩

theorem length_run {σ : Type} [OutputStream σ] (host : Host) (limit : Nat) (s : Shell σ)
    (requests : List Request) : (run host limit s requests).length = requests.length := by
  induction requests generalizing s with
  | nil => rfl
  | cons r rs ih => exact congrArg Nat.succ (ih _)

/-- Step by step a session is the same on a stream that runs full, which takes the front of all that
is written, however few bytes it takes at once. A step ends in a fault of the stream just if it has
more to write than there is room left for, unless it is for want of a reader. -/
theorem run_on_holding (host : Host) (limit : Nat) (hchunk : chunk ≠ some 0) (full : Failure)
    (room : Nat) (s : Shell Limited) (requests : List Request) :
    let os := run host limit (s.on Limited.unlimited) requests
    let ps := run host limit (s.on (holding chunk full room)) requests
    os.length = requests.length ∧ ps.length = requests.length ∧
    ∀ i o p, os[i]? = some o → ps[i]? = some p →
      let left := room - (streamed (os.take i)).length
      (p.shell.history = o.shell.history ∧ p.shell.roster = o.shell.roster ∧
        p.shell.forks = o.shell.forks ∧ p.trace.beside = o.trace.beside) ∧
      streamed (ps.take (i + 1)) = (streamed (os.take (i + 1))).take room ∧
      ((∃ f, p.answer = .error (.output f)) ↔
        full ≠ .brokenPipe ∧ left < o.trace.streamed.length) ∧
      (¬ (full ≠ .brokenPipe ∧ left < o.trace.streamed.length) → p.answer = o.answer) := by
  refine ⟨length_run .., length_run .., fun i o p ho hp => ?_⟩
  obtain ⟨⟨-, hshell, hbeside, -, hunfailing, hanswer⟩, hbytes⟩ :=
    isCut_run host limit hchunk room s requests ho hp
  refine ⟨⟨?_, ?_, ?_, hbeside⟩, hbytes, ⟨?_, ?_⟩, ?_⟩
  · rw [hshell, Shell.history_on]
  · rw [hshell, Shell.roster_on]
  · rw [hshell, Shell.forks_on]
  · rintro ⟨f, hf⟩
    refine Decidable.byContradiction fun hfits => hunfailing f ?_
    exact (hanswer.trans (if_neg hfits)).symm.trans hf
  · intro hoverflows
    exact ⟨full.ofText, hanswer.trans (if_pos hoverflows)⟩
  · intro hfits
    exact hanswer.trans (if_neg hfits)

/-- A stream that takes one byte at once and twenty in all has room for one listing. The second one
fails, and is kept in the history nevertheless. -/
theorem run_on_holding_second_listing :
    let s : Shell Limited := Shell.ofSettings { historyCapacity := 2 } .unlimited
    let os := run Host.echoing 8 (s.on Limited.unlimited) [.list, .list]
    let ps := run Host.echoing 8 (s.on (holding (some 1) .permissionDenied 20)) [.list, .list]
    (some 1 : Option Nat) ≠ some 0 ∧
    ∃ o p, os[1]? = some o ∧ ps[1]? = some p ∧ p.shell.history = o.shell.history ∧
      o.shell.history.toList = [⟨1, "history"⟩, ⟨2, "history"⟩] ∧
      streamed (ps.take 2) = (streamed (os.take 2)).take 20 ∧
      ∃ f, p.answer = .error (.output f) := by
  intro s os ps
  have hchunk : (some 1 : Option Nat) ≠ some 0 := by decide
  obtain ⟨-, hps, hsteps⟩ :=
    run_on_holding Host.echoing 8 hchunk .permissionDenied 20 s [.list, .list]
  have hlist : os[1]?.map (fun o => (o.shell.history.toList, o.trace.streamed.length)) =
      some ([⟨1, "history"⟩, ⟨2, "history"⟩], 34) := by decide +kernel
  have hfirst : (streamed (os.take 1)).length = 17 := by decide +kernel
  obtain ⟨o, ho, hlist⟩ := Option.map_eq_some_iff.mp hlist
  have hlt : 1 < ps.length := by
    rw [hps]
    exact Nat.one_lt_two
  obtain ⟨p, hp⟩ : ∃ p, ps[1]? = some p := ⟨_, List.getElem?_eq_getElem hlt⟩
  obtain ⟨⟨hhistory, -⟩, hbytes, hfails, -⟩ := hsteps 1 o p ho hp
  obtain ⟨hentries, hlength⟩ := Prod.mk.inj hlist
  refine ⟨hchunk, o, p, ho, hp, hhistory, hentries, hbytes, hfails.mpr ⟨by decide, ?_⟩⟩
  rw [hfirst, hlength]
  decide

end Session

end LineShell
