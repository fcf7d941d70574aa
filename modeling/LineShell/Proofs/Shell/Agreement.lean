import LineShell.Proofs.History.Log
import LineShell.Proofs.Shell.Completion
import LineShell.Proofs.Shell.Children
import LineShell.Text.Octets

/-!
# What a shell does depends on its history and its stream

Two shells with the same history and the same stream do the same for a line, whatever their children
are: they give the same answer, write the same, and are again two such shells. This holds across
hosts, too, if programs do the same on both.
-/

namespace LineShell

open LineShell.Action

/-! ## Traces that show the same -/

namespace Trace

@[simp] theorem output_append (t u : Trace) : Trace.output (t ++ u) = t.output ++ u.output :=
  List.flatMap_append

@[simp] theorem errors_append (log : Diagnostic → List UInt8) (t u : Trace) :
    Trace.errors log (t ++ u) = t.errors log ++ u.errors log :=
  List.flatMap_append

@[simp] theorem taken_append (t u : Trace) : Trace.taken (t ++ u) = t.taken + u.taken := by
  induction t with
  | nil => exact (Nat.zero_add _).symm
  | cons e t ih =>
      cases e with
      | childWrote serial writing =>
          change writing.taken + Trace.taken (t ++ u) = writing.taken + Trace.taken t + u.taken
          rw [ih, Nat.add_assoc]
      | _ => exact ih

/-- Two traces show the same on both descriptors, and nothing is taken from the input in the first
one. -/
structure Alike (t u : Trace) : Prop where
  output : t.output = u.output
  errors : ∀ log, t.errors log = u.errors log
  taken : t.taken = 0

theorem Alike.append {t u t' u' : Trace} (h : Alike t u) (h' : Alike t' u') :
    Alike (t ++ t') (u ++ u') where
  output := by rw [output_append, output_append, h.output, h'.output]
  errors log := by rw [errors_append, errors_append, h.errors, h'.errors]
  taken := by rw [taken_append, h.taken, h'.taken]

theorem alike_refl {t : Trace} (h : t.taken = 0) : Alike t t := ⟨rfl, fun _ => rfl, h⟩

theorem alike_nil : Alike [] [] := alike_refl rfl

theorem shows_collected (children : List Child) :
    Trace.output (children.map .collected) = [] ∧
      (∀ log, Trace.errors log (children.map .collected) = []) ∧
        Trace.taken (children.map .collected) = 0 := by
  induction children with
  | nil => exact ⟨rfl, fun _ => rfl, rfl⟩
  | cons child children ih => exact ih

/-- Which children are collected is not seen. -/
theorem alike_collected (children children' : List Child) :
    Alike (children.map .collected) (children'.map .collected) := by
  obtain ⟨houtput, herrors, htaken⟩ := shows_collected children
  obtain ⟨houtput', herrors', -⟩ := shows_collected children'
  exact ⟨houtput.trans houtput'.symm, fun log => (herrors log).trans (herrors' log).symm,
    htaken⟩

end Trace

/-! ## Actions that agree -/

variable {σ τ α β : Type}

/-- Two outcomes agree: the answers are the same, the traces show the same, and the shells are
related. -/
structure Outcome.Agrees (R : Shell σ → Shell τ → Prop) (o : Outcome σ α) (p : Outcome τ α) :
    Prop where
  shell : R o.shell p.shell
  trace : o.trace.Alike p.trace
  answer : o.answer = p.answer

namespace Action

/-- Two actions agree: related shells come to outcomes that agree. -/
def Agrees (R : Shell σ → Shell τ → Prop) (x : Action σ α) (y : Action τ α) : Prop :=
  ∀ s t, R s t → (x.run s).Agrees R (y.run t)

variable {R : Shell σ → Shell τ → Prop} {W : σ → Prop}

/-- Outcomes agree if the first steps do, and what follows them does. -/
theorem agrees_run_bind {x : Action σ α} {y : Action τ α} {f : α → Action σ β}
    {g : α → Action τ β} {s : Shell σ} {t : Shell τ} (h : (x.run s).Agrees R (y.run t))
    (hfg : ∀ a, Agrees R (f a) (g a)) : ((x >>= f).run s).Agrees R ((y >>= g).run t) := by
  obtain ⟨hshell, htrace, hanswer⟩ := h
  rw [run_bind, run_bind]
  generalize x.run s = o at hshell htrace hanswer
  generalize y.run t = p at hshell htrace hanswer
  obtain ⟨s', u, answer⟩ := o
  obtain ⟨t', v, answer'⟩ := p
  obtain rfl : answer = answer' := hanswer
  cases answer with
  | error fault => exact ⟨hshell, htrace, rfl⟩
  | ok a =>
      have h' := hfg a s' t' hshell
      exact ⟨h'.shell, htrace.append h'.trace, h'.answer⟩

theorem Agrees.bind {x : Action σ α} {y : Action τ α} {f : α → Action σ β} {g : α → Action τ β}
    (h : Agrees R x y) (hfg : ∀ a, Agrees R (f a) (g a)) : Agrees R (x >>= f) (y >>= g) :=
  fun s t hR => agrees_run_bind (h s t hR) hfg

theorem agrees_state_bind {f : Shell σ → Action σ β} {g : Shell τ → Action τ β}
    (h : ∀ s t, R s t → Agrees R (f s) (g t)) : Agrees R (state >>= f) (state >>= g) := by
  intro s t hR
  rw [run_state_bind, run_state_bind]
  exact h s t hR s t hR

theorem agrees_pure (a : α) : Agrees R (pure a) (pure a) := fun _ _ hR =>
  ⟨hR, Trace.alike_nil, rfl⟩

theorem agrees_tell {u : Trace} (h : u.taken = 0) : Agrees R (tell u) (tell u) := fun _ _ hR =>
  ⟨hR, Trace.alike_refl h, rfl⟩

theorem agrees_note (d : Diagnostic) : Agrees R (note d) (note d) :=
  agrees_tell rfl

theorem agrees_fail (e : Fault) : Agrees R (fail e : Action σ α) (fail e : Action τ α) :=
  fun _ _ hR => ⟨hR, Trace.alike_nil, rfl⟩

/-- An action that agrees with another one, and comes to its end, keeps the stream as it keeps the
relation. -/
theorem Agrees.and_completes {x : Action σ α} {y : Action τ α} (h : Agrees R x y)
    (hx : Completes W x) : Agrees (fun s t => R s t ∧ W s.stream) x y := by
  rintro s t ⟨hR, hs⟩
  obtain ⟨hshell, htrace, hanswer⟩ := h s t hR
  exact ⟨⟨hshell, (hx s hs).2⟩, htrace, hanswer⟩

/-- A first step of one side alone that shows nothing. -/
theorem agrees_bind_left {x : Action σ α} {f : α → Action σ β} {y : Action τ β}
    (hx : ∀ s t, R s t → ∃ a, (x.run s).Agrees R ((pure a : Action τ α).run t))
    (hf : ∀ a, Agrees R (f a) y) : Agrees R (x >>= f) y := by
  intro s t hR
  obtain ⟨a, ha⟩ := hx s t hR
  exact agrees_run_bind (g := fun _ => y) ha hf

theorem Agrees.attempt {x : Action σ α} {y : Action τ α} (h : Agrees R x y) :
    Agrees R (attempt x) (attempt y) := by
  intro s t hR
  obtain ⟨hshell, htrace, hanswer⟩ := h s t hR
  exact ⟨hshell, htrace, congrArg Except.ok hanswer⟩

/-- What is observed of a step says that it takes nothing. -/
theorem Agrees.observe_bind {x : Action σ α} {y : Action τ Unit} {a : α}
    {f : α × Trace → Action σ β} {g : Action τ β} (h : Agrees R x (y >>= fun _ => pure a))
    (hfg : ∀ u, Trace.taken u = 0 → Agrees R (f (a, u)) g) :
    Agrees R (observe x >>= f) (y >>= fun _ => g) := by
  intro s t hR
  have hx := h s t hR
  rw [run_bind] at hx ⊢
  rw [run_bind, run_observe]
  generalize x.run s = o at hx
  generalize y.run t = p at hx
  obtain ⟨s', u, answer⟩ := o
  obtain ⟨t', v, answer'⟩ := p
  cases answer' with
  | error e =>
      obtain ⟨hshell, htrace, hanswer⟩ := hx
      obtain rfl : answer = .error e := hanswer
      exact ⟨hshell, htrace, rfl⟩
  | ok _ =>
      obtain ⟨hshell, htrace, hanswer⟩ := hx
      obtain rfl : answer = .ok a := hanswer
      have huv : Trace.Alike u v := by simpa using htrace
      have hrest := hfg u huv.taken s' t' hshell
      exact ⟨hrest.shell, huv.append hrest.trace, hrest.answer⟩

end Action

/-! ## Shells that are alike -/

/-- Two shells have the same history and the same stream, and what their history holds has a
property. -/
structure Shell.Alike (P : String → Prop) (s t : Shell σ) : Prop where
  history : s.history = t.history
  stream : s.stream = t.stream
  texts : ∀ e, some e ∈ s.history.slots → P e.text

/-- The program of a line does the same whatever there is for it to read, and takes none of it. -/
def Host.LeavesInput (host : Octets → Host) (line : String) : Prop :=
  ∀ input,
    (host input).exec (Command.ofLine line).argv = (host []).exec (Command.ofLine line).argv ∧
    ∀ writing ∈ (host input).exec (Command.ofLine line).argv, writing.taken = 0

theorem Host.LeavesInput.writing_eq {host : Octets → Host} {line : String}
    (h : Host.LeavesInput host line) (input : Octets) :
    (host input).writing (Command.ofLine line).argv line =
      (host []).writing (Command.ofLine line).argv line := by
  rw [Host.writing, Host.writing, (h input).1]

theorem Host.LeavesInput.taken_writing {host : Octets → Host} {line : String}
    (h : Host.LeavesInput host line) :
    ((host []).writing (Command.ofLine line).argv line).taken = 0 := by
  rw [Host.writing]
  cases hexec : (host []).exec (Command.ofLine line).argv with
  | none => rfl
  | some writing => exact (h []).2 writing hexec

variable {P : String → Prop}

namespace Action

theorem agrees_emit (f : σ → Emission σ Unit) : Agrees (Shell.Alike P) (emit f) (emit f) := by
  rintro ⟨history, roster, forks, stream⟩ ⟨_, roster', forks', _⟩ ⟨rfl, rfl, htexts⟩
  refine ⟨⟨rfl, rfl, htexts⟩, Trace.alike_refl ?_, rfl⟩
  simp only [emit]
  split <;> rfl

theorem agrees_print [OutputStream σ] (text : String) :
    Agrees (Shell.Alike P) (print text : Action σ Unit) (print text) := by
  refine .bind (agrees_emit _).attempt fun answer => ?_
  cases answer with
  | ok => exact agrees_pure _
  | error fault => exact .bind (agrees_tell rfl) fun _ => agrees_fail fault

end Action

namespace Shell

theorem agrees_record {text : String} (h : P text) :
    Agrees (Shell.Alike P) (record text : Action σ Nat) (record text) := by
  intro s t hR
  rw [run_record, run_record, hR.history]
  refine ⟨⟨rfl, hR.stream, ?_⟩, Trace.alike_refl rfl, rfl⟩
  intro e he
  rcases Ring.mem_slots_insert he with he | rfl
  · exact hR.texts e (hR.history ▸ he)
  · exact h

/-- What a program writes is the same for both, and whether it is waited for or not is not seen. -/
theorem agrees_launch {host : Octets → Host} (hforks : ∀ input, (host input).Forks)
    {line : String} (h : Host.LeavesInput host line) (input : Octets) (background : Bool) :
    Agrees (Shell.Alike P)
      (launch (host input) (Command.ofLine line).argv line background : Action σ Unit)
      (launch (host []) (Command.ofLine line).argv line background) := by
  intro s t hR
  by_cases hargv : IsPassable (Command.ofLine line).argv
  · obtain ⟨pid, hpid⟩ := hforks input s.forks s.roster.table
    obtain ⟨pid', hpid'⟩ := hforks [] t.forks t.roster.table
    obtain ⟨roster, children, hrun⟩ := exists_run_launch hpid hargv line background
    obtain ⟨roster', children', hrun'⟩ := exists_run_launch hpid' hargv line background
    rw [hrun, hrun', h.writing_eq input]
    refine ⟨⟨hR.history, hR.stream, hR.texts⟩, ?_, rfl⟩
    refine Trace.Alike.append (t := [_]) (u := [_]) ⟨rfl, fun _ => rfl, rfl⟩ ?_
    refine Trace.Alike.append (t := [_]) (u := [_]) ⟨rfl, fun _ => rfl, h.taken_writing⟩ ?_
    exact Trace.alike_collected children children'
  · rw [run_launch_of_not_isPassable hargv, run_launch_of_not_isPassable hargv]
    exact ⟨hR, Trace.alike_refl rfl, rfl⟩

variable [OutputStream σ]

theorem agrees_sayAll (entries : List (Entry Nat)) :
    Agrees (Shell.Alike P) (entries.forM fun e => (say e.line : Action σ Unit))
      (entries.forM fun e => say e.line) :=
  forM_induction (P := fun x => Agrees (Shell.Alike P) x x) (agrees_pure _)
    (fun hx hy => .bind hx fun _ => hy) (fun _ => agrees_emit _) entries

theorem agrees_list (h : P historyLine) :
    Agrees (Shell.Alike P) (list : Action σ Unit) list := by
  rw [list_eq]
  refine .bind (agrees_record h) fun _ => agrees_state_bind fun s t hR => ?_
  rw [hR.history]
  exact .bind (agrees_note _) fun _ => .bind (agrees_sayAll _) fun _ => agrees_emit _

variable {host : Octets → Host} {line : String}

theorem agrees_execute (hforks : ∀ input, (host input).Forks)
    (hP : ∀ line, P line → Host.LeavesInput host line) (h : P line) (input : Octets) :
    Agrees (Shell.Alike P)
      (execute (host input) (Command.ofLine line).argv line (Command.ofLine line).background :
        Action σ Unit)
      (execute (host []) (Command.ofLine line).argv line (Command.ofLine line).background) := by
  rw [execute, execute]
  split
  · rename_i hline
    exact agrees_list (hline ▸ h)
  · exact .bind (agrees_emit _) fun _ =>
      .bind (agrees_launch hforks (hP line h) input _) fun _ =>
        .bind (agrees_record h) fun _ => agrees_pure _

theorem agrees_replay (hforks : ∀ input, (host input).Forks)
    (hP : ∀ line, P line → Host.LeavesInput host line) (input : Octets) (id : Nat)
    (line : String) :
    Agrees (Shell.Alike P) (replay (host input) id line : Action σ Unit)
      (replay (host []) id line) := by
  refine agrees_state_bind fun s t hR => ?_
  rw [hR.history]
  cases hfind : t.history.find? id with
  | none =>
      exact .bind (agrees_note _) fun _ => .bind (agrees_emit _) fun _ => agrees_emit _
  | some e =>
      have hslot := Ring.mem_slots_of_mem_toList (List.mem_of_find?_eq_some hfind)
      refine .bind (agrees_note _) fun _ => ?_
      dsimp only
      split
      · exact agrees_pure _
      · exact agrees_execute hforks hP (hR.texts e (hR.history ▸ hslot)) input

theorem agrees_perform (hforks : ∀ input, (host input).Forks)
    (hP : ∀ line, P line → Host.LeavesInput host line) (h : P line) (input : Octets) :
    Agrees (Shell.Alike P) (perform (host input) line : Action σ Unit)
      (perform (host []) line) := by
  rw [perform, perform]
  split
  · rename_i hline
    exact agrees_list (hline ▸ h)
  dsimp only
  split
  · exact agrees_pure _
  · split
    · exact agrees_replay hforks hP input _ line
    · exact agrees_execute hforks hP h input

/-- Evaluating a line on a shell comes to the same as evaluating it on one that is alike, if
whatever may run for it leaves the input. -/
theorem agrees_evaluate (hforks : ∀ input, (host input).Forks)
    (hP : ∀ line, P line → Host.LeavesInput host line) (h : P line) (input : Octets) (limit : Nat) :
    Agrees (Shell.Alike P) (evaluate (host input) limit line : Action σ Flow)
      (evaluate (host []) limit line) := by
  by_cases hexit : line = exitLine
  · rw [evaluate, evaluate, if_pos hexit, if_pos hexit]
    exact agrees_pure _
  rw [evaluate_of_ne_exit hexit, evaluate_of_ne_exit hexit]
  refine .bind ?_ fun _ => agrees_pure _
  split
  · exact .bind (agrees_note _) fun _ => .bind (agrees_emit _) fun _ => agrees_emit _
  · exact agrees_perform hforks hP h input

end Shell

end LineShell
