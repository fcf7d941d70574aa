import Mathlib.Tactic.SplitIfs
import LineShell.Proofs.Command.FirstWord
import LineShell.Proofs.Shell.Action
import LineShell.Shell.Evaluate

/-!
# What a line puts into the history

Evaluating a line puts one text into the history or none. Which text that would be can be said
before: it depends on the line and on the entries alone. A fault can keep it out.
-/

namespace LineShell

open LineShell.Action

variable {σ α β : Type}

/-- The history after an action is the one from before with one text put into it, or the same if a
fault has ended the action. -/
def Outcome.Records (o : Outcome σ α) (h : History) (text : String) : Prop :=
  o.shell.history = h.insert text ∨ o.shell.history = h ∧ ∃ e, o.answer = .error e

namespace Shell

/-! ## Steps that leave the history alone -/

theorem keepsHistory_fork (host : Host) (argv : List String) (background : Bool) :
    KeepsHistory (fork host argv background : Action σ Launch) := by
  refine keepsHistory_state_bind fun s => .bind (keepsHistory_modify fun _ => rfl) fun _ => ?_
  split
  · exact .bind (keepsHistory_note _) fun _ => keepsHistory_fail _
  · exact .bind (keepsHistory_modify fun _ => rfl) fun _ =>
      .bind (keepsHistory_tell _) fun _ => keepsHistory_pure _

theorem keepsHistory_await (pid : Pid) : KeepsHistory (await pid : Action σ Unit) := by
  refine keepsHistory_state_bind fun s => ?_
  split
  refine .bind (keepsHistory_modify fun _ => rfl) fun _ => ?_
  split
  · exact keepsHistory_tell _
  · exact keepsHistory_pure _

theorem keepsHistory_launch (host : Host) (argv : List String) (line : String)
    (background : Bool) : KeepsHistory (launch host argv line background : Action σ Unit) := by
  rw [launch]
  split
  · refine .bind (keepsHistory_fork host argv background) fun child =>
      .bind (keepsHistory_tell _) fun _ => ?_
    split
    · exact keepsHistory_modify fun _ => rfl
    · exact keepsHistory_await _
  · exact keepsHistory_tell _

theorem keepsHistory_collect : KeepsHistory (collect : Action σ Nat) :=
  keepsHistory_state_bind fun _ => .bind (keepsHistory_modify fun _ => rfl) fun _ =>
    .bind (keepsHistory_tell _) fun _ => keepsHistory_pure _

theorem keepsHistory_idle (change : ChildTable → ChildTable) :
    KeepsHistory (idle change : Action σ Unit) :=
  keepsHistory_modify fun _ => rfl

theorem run_record (text : String) (s : Shell σ) :
    (record text).run s =
      ⟨{ s with history := s.history.insert text }, [.noted (.recorded s.history.nextId text)],
        .ok s.history.nextId⟩ := rfl

variable [OutputStream σ]

theorem keepsHistory_say (text : String) : KeepsHistory (say text : Action σ Unit) :=
  keepsHistory_emit _

theorem keepsHistory_flush : KeepsHistory (flush : Action σ Unit) :=
  keepsHistory_emit _

theorem keepsHistory_sayAll (entries : List (Entry Nat)) :
    KeepsHistory (entries.forM fun e => (say e.line : Action σ Unit)) :=
  forM_induction (keepsHistory_pure _) (fun hx hy => .bind hx fun _ => hy)
    (fun _ => keepsHistory_say _) entries

theorem keepsHistory_refuse (line : String) (limit : Nat) :
    KeepsHistory (refuse line limit : Action σ Unit) :=
  .bind (keepsHistory_note _) fun _ => .bind (keepsHistory_say _) fun _ => keepsHistory_flush

/-! ## Steps that record -/

/-- The part of a listing behind the record of it. -/
def writeEntries : Action σ Unit := do
  let s ← state
  note (.listing s.history.count s.history.slots.size)
  s.history.toList.forM fun e => say e.line
  flush

/-- The same where this is the history. -/
def listing (h : History) : Action σ Unit := do
  note (.listing h.count h.slots.size)
  h.toList.forM fun e => say e.line
  flush

theorem run_writeEntries (s : Shell σ) : writeEntries.run s = (listing s.history).run s :=
  run_state_bind _ s

theorem list_eq : (list : Action σ Unit) = record historyLine >>= fun _ => writeEntries := rfl

theorem keepsHistory_writeEntries : KeepsHistory (writeEntries : Action σ Unit) :=
  keepsHistory_state_bind fun _ => .bind (keepsHistory_note _) fun _ =>
    .bind (keepsHistory_sayAll _) fun _ => keepsHistory_flush

/-- A listing is recorded whatever becomes of its output. -/
theorem history_list (s : Shell σ) :
    ((list : Action σ Unit).run s).shell.history = s.history.insert historyLine := by
  rw [list_eq, history_bind_of_keepsHistory _ fun _ => keepsHistory_writeEntries, run_record]

omit [OutputStream σ] in
theorem records_bind {x : Action σ α} {f : α → Action σ β} {text : String} (hx : KeepsHistory x)
    (hf : ∀ a s, ((f a).run s).Records s.history text) (s : Shell σ) :
    ((x >>= f).run s).Records s.history text := by
  have hs := hx s
  rw [run_bind]
  generalize x.run s = o at hs
  obtain ⟨s', t, e | a⟩ := o
  · exact .inr ⟨hs, e, rfl⟩
  · change s'.history = s.history at hs
    rw [← hs]
    exact hf a s'

omit [OutputStream σ] in
theorem records_bind_keepsHistory {x : Action σ α} {f : α → Action σ β} {s : Shell σ} {h : History}
    {text : String} (hx : (x.run s).Records h text) (hf : ∀ a, KeepsHistory (f a)) :
    ((x >>= f).run s).Records h text := by
  rw [run_bind]
  generalize x.run s = o at hx
  obtain ⟨s', t, e | a⟩ := o
  · rcases hx with hx | ⟨hx, -⟩
    · exact .inl hx
    · exact .inr ⟨hx, e, rfl⟩
  · rcases hx with hx | ⟨-, e, he⟩
    · exact .inl ((hf a s').trans hx)
    · cases he

/-- Running a line records it, unless a fault comes before. -/
theorem records_execute (host : Host) (argv : List String) (line : String) (background : Bool)
    (s : Shell σ) : ((execute host argv line background).run s).Records s.history line := by
  rw [execute]
  split
  · rename_i hline
    rw [hline]
    exact .inl (history_list s)
  · exact records_bind keepsHistory_flush
      (fun _ => records_bind (keepsHistory_launch host argv line background)
        fun _ _ => .inl rfl) s

/-! ## The text that a line records -/

/-- The text that evaluating a line puts into the history if no fault comes before. -/
def recordedBy? (s : Shell σ) (limit : Nat) (line : String) : Option String :=
  if line = exitLine ∨ limit < line.utf8ByteSize then none
  else if line = historyLine then some line
  else
    match (Command.ofLine line).argv with
    | [] => none
    | word :: _ =>
      if EventId.IsRecall word then
        (s.history.find? (EventId.ofWord word)).bind fun e =>
          if (Command.ofLine e.text).argv = [] then none else some e.text
      else some line

theorem run_replay_of_some {host : Host} {id : Nat} {line : String} {s : Shell σ}
    {e : Entry Nat} (h : s.history.find? id = some e) :
    (replay host id line).run s =
      (note (.recalled id e.text) >>= fun _ =>
        if (Command.ofLine e.text).argv = [] then pure ()
        else execute host (Command.ofLine e.text).argv e.text
          (Command.ofLine e.text).background).run s := by
  rw [replay, run_state_bind, h]

theorem run_replay_of_none {host : Host} {id : Nat} {line : String} {s : Shell σ}
    (h : s.history.find? id = none) :
    (replay host id line).run s =
      (note (.notRecalled id) >>= fun _ => say (line ++ ": event not found") >>= fun _ =>
        flush).run s := by
  rw [replay, run_state_bind, h]

theorem history_replay_of_none {host : Host} {id : Nat} {line : String} {s : Shell σ}
    (h : s.history.find? id = none) :
    ((replay host id line).run s).shell.history = s.history := by
  rw [run_replay_of_none h]
  exact KeepsHistory.bind (keepsHistory_note _)
    (fun _ => .bind (keepsHistory_say _) fun _ => keepsHistory_flush) s

theorem history_replay_of_blank {host : Host} {id : Nat} {line : String} {s : Shell σ}
    {e : Entry Nat} (h : s.history.find? id = some e) (he : (Command.ofLine e.text).argv = []) :
    ((replay host id line).run s).shell.history = s.history := by
  rw [run_replay_of_some h, if_pos he]
  rfl

theorem records_replay {host : Host} {id : Nat} {line : String} {s : Shell σ} {e : Entry Nat}
    (h : s.history.find? id = some e) (he : (Command.ofLine e.text).argv ≠ []) :
    ((replay host id line).run s).Records s.history e.text := by
  rw [run_replay_of_some h, if_neg he]
  exact records_bind (keepsHistory_note _) (fun _ => records_execute host _ _ _) s

theorem evaluate_of_ne_exit {host : Host} {limit : Nat} {line : String} (h : line ≠ exitLine) :
    (evaluate host limit line : Action σ Flow) =
      (if limit < line.utf8ByteSize then refuse line limit else perform host line) >>=
        fun _ => pure .stay := by
  rw [evaluate, if_neg h]
  split <;> rfl

/-- A line that records nothing leaves the history as it is. -/
theorem history_evaluate_of_none {host : Host} {limit : Nat} {line : String} {s : Shell σ}
    (h : s.recordedBy? limit line = none) :
    ((evaluate host limit line).run s).shell.history = s.history := by
  by_cases hexit : line = exitLine
  · rw [evaluate, if_pos hexit]
    rfl
  rw [evaluate_of_ne_exit hexit, history_bind_of_keepsHistory _ fun _ => keepsHistory_pure _]
  rw [recordedBy?] at h
  split_ifs with hsize
  · exact keepsHistory_refuse line limit s
  rw [if_neg (by simp [hexit, hsize])] at h
  rw [perform]
  split_ifs at h ⊢ with hline
  cases hargv : (Command.ofLine line).argv with
  | nil => simp only [hargv, run_pure]
  | cons word words =>
      simp only [hargv] at h ⊢
      split_ifs at h ⊢
      cases hfind : s.history.find? (EventId.ofWord word) with
      | none => exact history_replay_of_none hfind
      | some e =>
          rw [hfind, Option.bind_some] at h
          split_ifs at h with hblank
          exact history_replay_of_blank hfind hblank

/-- A line that records a text puts it into the history, unless a fault comes before. -/
theorem records_evaluate (host : Host) {limit : Nat} {line text : String} {s : Shell σ}
    (h : s.recordedBy? limit line = some text) :
    ((evaluate host limit line).run s).Records s.history text := by
  have hexit : line ≠ exitLine := by
    rintro rfl
    simp [recordedBy?] at h
  have hsize : ¬ limit < line.utf8ByteSize := by
    intro hlt
    simp [recordedBy?, hlt] at h
  rw [evaluate_of_ne_exit hexit, if_neg hsize]
  refine records_bind_keepsHistory ?_ fun _ => keepsHistory_pure _
  rw [recordedBy?, if_neg (by simp [hexit, hsize])] at h
  rw [perform]
  split_ifs at h ⊢ with hline
  · obtain rfl : line = text := Option.some.inj h
    rw [hline]
    exact .inl (history_list s)
  cases hargv : (Command.ofLine line).argv with
  | nil =>
      rw [hargv] at h
      cases h
  | cons word words =>
      simp only [hargv] at h ⊢
      split_ifs at h ⊢
      · rw [Option.bind_eq_some_iff] at h
        obtain ⟨e, hfind, he⟩ := h
        split_ifs at he with hblank
        obtain rfl : e.text = text := Option.some.inj he
        exact records_replay hfind hblank
      · obtain rfl : line = text := Option.some.inj h
        exact records_execute host _ line _ s

end Shell

end LineShell
