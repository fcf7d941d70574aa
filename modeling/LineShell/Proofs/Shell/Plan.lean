import Mathlib.Tactic.SplitIfs
import LineShell.Proofs.Command.FirstWord
import LineShell.Proofs.Shell.Action
import LineShell.Shell.Evaluate

/-!
# What a line comes to

Before anything is done for a line, the line and the history decide what it will be: nothing, one
line that is said, a listing, or a run. All that is decided is reported, and then it is done.
-/

namespace LineShell

open LineShell.Action

/-- What there is to do. -/
inductive Task where
  | rest
  | say (text : String)
  | list
  | run (argv : List String) (line : String) (background : Bool)
deriving DecidableEq, Repr

/-- What there is to do, and what is reported about it before. -/
structure Plan where
  reports : List Diagnostic
  task : Task
deriving DecidableEq, Repr

namespace Task

/-- The task of running the words of a line. One line names a listing. -/
def ofWords (argv : List String) (line : String) (background : Bool) : Task :=
  if line = historyLine then list else run argv line background

/-- The task of running a text as it stands, if it has any words. -/
def ofText (text : String) : Task :=
  if (Command.ofLine text).argv = [] then rest
  else ofWords (Command.ofLine text).argv text (Command.ofLine text).background

end Task

namespace Plan

def ofRecall (h : History) (id : Nat) (line : String) : Plan :=
  match h.find? id with
  | none => ⟨[.notRecalled id], .say (line ++ ": event not found")⟩
  | some e => ⟨[.recalled id e.text], .ofText e.text⟩

def ofLine (h : History) (limit : Nat) (line : String) : Plan :=
  if line = exitLine then ⟨[], .rest⟩
  else if limit < line.utf8ByteSize then
    ⟨[.oversized line.utf8ByteSize limit],
      .say (Fault.lineTooLong line.utf8ByteSize limit).message⟩
  else
    match (Command.ofLine line).recalled? with
    | some id => ofRecall h id line
    | none => ⟨[], .ofText line⟩

variable {h : History} {limit id : Nat} {line : String}

theorem ofRecall_of_none (hfind : h.find? id = none) :
    ofRecall h id line = ⟨[.notRecalled id], .say (line ++ ": event not found")⟩ := by
  unfold ofRecall
  rw [hfind]

theorem ofRecall_of_some {e : Entry Nat} (hfind : h.find? id = some e) :
    ofRecall h id line = ⟨[.recalled id e.text], .ofText e.text⟩ := by
  unfold ofRecall
  rw [hfind]

theorem ofLine_exit (h : History) (limit : Nat) : ofLine h limit exitLine = ⟨[], .rest⟩ := by
  unfold ofLine
  rw [if_pos rfl]

theorem ofLine_of_lt (hexit : line ≠ exitLine) (hsize : limit < line.utf8ByteSize) :
    ofLine h limit line =
      ⟨[.oversized line.utf8ByteSize limit],
        .say (Fault.lineTooLong line.utf8ByteSize limit).message⟩ := by
  unfold ofLine
  rw [if_neg hexit, if_pos hsize]

theorem ofLine_of_recalled? (hexit : line ≠ exitLine) (hsize : line.utf8ByteSize ≤ limit)
    (hid : (Command.ofLine line).recalled? = some id) :
    ofLine h limit line = ofRecall h id line := by
  unfold ofLine
  rw [if_neg hexit, if_neg (Nat.not_lt.mpr hsize), hid]

theorem ofLine_of_not_recalled? (hexit : line ≠ exitLine) (hsize : line.utf8ByteSize ≤ limit)
    (hid : (Command.ofLine line).recalled? = none) :
    ofLine h limit line = ⟨[], .ofText line⟩ := by
  unfold ofLine
  rw [if_neg hexit, if_neg (Nat.not_lt.mpr hsize), hid]

/-- A line comes to nothing, to one line that is said, or to a text that is run: its own, or one
that the history holds. -/
theorem task_ofLine_cases (h : History) (limit : Nat) (line : String) :
    (ofLine h limit line).task = .rest ∨ (∃ text, (ofLine h limit line).task = .say text) ∨
      ∃ text, (ofLine h limit line).task = .ofText text ∧
        (text = line ∨ ∃ e ∈ h.toList, e.text = text) := by
  by_cases hexit : line = exitLine
  · rw [hexit, ofLine_exit]
    exact .inl rfl
  rcases Nat.lt_or_ge limit line.utf8ByteSize with hsize | hsize
  · rw [ofLine_of_lt hexit hsize]
    exact .inr (.inl ⟨_, rfl⟩)
  cases hrecalled : (Command.ofLine line).recalled? with
  | none =>
      rw [ofLine_of_not_recalled? hexit hsize hrecalled]
      exact .inr (.inr ⟨line, rfl, .inl rfl⟩)
  | some id =>
      rw [ofLine_of_recalled? hexit hsize hrecalled]
      cases hfind : h.find? id with
      | none =>
          rw [ofRecall_of_none hfind]
          exact .inr (.inl ⟨_, rfl⟩)
      | some e =>
          rw [ofRecall_of_some hfind]
          exact .inr (.inr ⟨e.text, rfl, .inr ⟨e, List.mem_of_find?_eq_some hfind, rfl⟩⟩)

end Plan

variable {σ : Type} [OutputStream σ]

namespace Task

def action (host : Host) : Task → Action σ Unit
  | rest => pure ()
  | say text => do
    Action.say text
    Action.flush
  | list => Shell.list
  | run argv line background => do
    Action.flush
    Shell.launch host argv line background
    discard <| Shell.record line

end Task

namespace Plan

def action (host : Host) (p : Plan) : Action σ Unit := do
  Action.tell (p.reports.map .noted)
  p.task.action host

theorem run_action_bind_pure {α : Type} (host : Host) (p : Plan) (a : α) (s : Shell σ) :
    let o := (p.task.action host).run s
    (p.action host >>= fun _ => pure a).run s =
      ⟨o.shell, p.reports.map .noted ++ o.trace, o.answer.map fun _ => a⟩ := by
  intro o
  have hp : (p.action host).run s = { o with trace := p.reports.map .noted ++ o.trace } :=
    run_tell_bind _ _ s
  rw [run_bind, hp]
  obtain ⟨s', t, e | a⟩ := o
  · rfl
  · simp only [run_pure, List.append_nil]
    rfl

/-- Does what a line comes to where this is the history. -/
def evaluate (host : Host) (limit : Nat) (line : String) (h : History) : Action σ Flow := do
  (ofLine h limit line).action host
  return if line = exitLine then .leave else .stay

end Plan

namespace Shell

theorem execute_eq (host : Host) (argv : List String) (line : String) (background : Bool) :
    (execute host argv line background : Action σ Unit) =
      (Task.ofWords argv line background).action host := by
  unfold execute Task.ofWords
  split <;> rfl

theorem ofText_eq (host : Host) (text : String) :
    (if (Command.ofLine text).argv = [] then pure ()
      else execute host (Command.ofLine text).argv text (Command.ofLine text).background :
        Action σ Unit) = (Task.ofText text).action host := by
  unfold Task.ofText
  split
  · rfl
  · exact execute_eq host _ _ _

theorem run_replay (host : Host) (id : Nat) (line : String) (s : Shell σ) :
    (replay host id line).run s = ((Plan.ofRecall s.history id line).action host).run s := by
  rw [replay, run_state_bind]
  unfold Plan.ofRecall
  cases s.history.find? id with
  | none => rfl
  | some e =>
      dsimp only
      rw [ofText_eq]
      rfl

/-- A plan without a report is its task. -/
theorem action_of_task (host : Host) (t : Task) :
    (Plan.action host ⟨[], t⟩ : Action σ Unit) = t.action host :=
  ext_run fun _ => rfl

theorem run_perform (host : Host) {limit : Nat} {line : String} (hexit : line ≠ exitLine)
    (hsize : line.utf8ByteSize ≤ limit) (s : Shell σ) :
    (perform host line).run s = ((Plan.ofLine s.history limit line).action host).run s := by
  unfold perform
  split_ifs with hline
  · have hrecalled : (Command.ofLine historyLine).recalled? = none := by decide
    subst hline
    rw [Plan.ofLine_of_not_recalled? hexit hsize hrecalled, action_of_task, Task.ofText,
      if_neg (by decide)]
    rfl
  cases hargv : (Command.ofLine line).argv with
  | nil =>
      have hrecalled : (Command.ofLine line).recalled? = none := by simp [Command.recalled?, hargv]
      rw [Plan.ofLine_of_not_recalled? hexit hsize hrecalled, action_of_task, Task.ofText,
        if_pos hargv]
      simp only [hargv]
      rfl
  | cons word words =>
      have hrecalled := Command.recalled?_of_cons hargv
      simp only [hargv]
      split_ifs at hrecalled ⊢
      · rw [Plan.ofLine_of_recalled? hexit hsize hrecalled, run_replay]
      · rw [Plan.ofLine_of_not_recalled? hexit hsize hrecalled, action_of_task, Task.ofText,
          if_neg (by simp [hargv]), execute_eq, hargv]

/-- Evaluating a line is doing what it comes to. -/
theorem run_evaluate (host : Host) (limit : Nat) (line : String) (s : Shell σ) :
    (evaluate host limit line).run s = (Plan.evaluate host limit line s.history).run s := by
  unfold evaluate Plan.evaluate
  split_ifs with hexit hsize
  · rw [hexit, Plan.ofLine_exit]
    rfl
  · rw [Plan.ofLine_of_lt hexit hsize]
    rfl
  · rw [run_bind, run_bind, run_perform host hexit (Nat.not_lt.mp hsize)]

/-- The flow that evaluating a line answers unless a fault ends it. -/
theorem run_evaluate_task (host : Host) (limit : Nat) (line : String) (s : Shell σ) :
    let p := Plan.ofLine s.history limit line
    let o := (p.task.action host).run s
    (evaluate host limit line).run s =
      ⟨o.shell, p.reports.map .noted ++ o.trace,
        o.answer.map fun _ => if line = exitLine then .leave else .stay⟩ := by
  intro p o
  rw [run_evaluate, Plan.evaluate]
  exact Plan.run_action_bind_pure host p _ s

end Shell

end LineShell
