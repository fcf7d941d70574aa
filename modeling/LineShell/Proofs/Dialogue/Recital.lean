import LineShell.Proofs.Dialogue.Lines
import LineShell.Proofs.Shell.Agreement

/-!
# Dialogues with lines known beforehand

A dialogue takes its lines from the input while it goes on, and children end and are collected
meanwhile. It does the same as one in which the lines are known beforehand and nothing is collected.
-/

namespace LineShell

open LineShell.Action

variable {σ : Type}

namespace Dialogue

variable [OutputStream σ]

/-! ## Dialogues with lines known beforehand -/

/-- Writes the prompt. -/
def prompt (text : String) : Action σ Unit := do
  emit (OutputStream.writeAll · (Text.utf8 text))
  flush

/-- What the shell does once the dialogue is to end. -/
def close : Ending → Action σ Unit
  | .endOfInput => note .endOfInput
  | .malformed => print malformedLine
  | .unprompted cause => print (unpromptedLine cause)
  | .left => pure ()

/-- A dialogue over lines that are known beforehand, and its end. -/
def recite (host : Host) (settings : Settings) (ending : Ending) :
    List String → Action σ Ending
  | [] => do
    prompt settings.prompt
    close ending
    return ending
  | line :: lines => do
    prompt settings.prompt
    discard <| Shell.evaluate host settings.lineLimit line
    recite host settings ending lines

/-- What the shell does with what it has read. -/
def respond (host : Host) (settings : Settings) : Reading → Action σ (Option Ending)
  | .endOfInput => do
    note .endOfInput
    return some .endOfInput
  | .malformed => do
    print malformedLine
    return some .malformed
  | .line text => do
    match ← Shell.evaluate host settings.lineLimit text with
    | .leave => return some .left
    | .stay => return none

theorem ask_eq (text : String) (input : List UInt8) :
    (ask text input : Action σ Reading) =
      prompt text >>= fun _ => pure (Reading.ofInput input) :=
  (bind_assoc ..).symm

theorem turn_eq (host : Host) (settings : Settings) (ended : List Pid) (input : List UInt8) :
    (turn host settings ended input : Action σ (Option Ending)) =
      Shell.idle (ended.foldl ChildTable.finish) >>= fun _ =>
        discard Shell.collect >>= fun _ =>
          attempt (ask settings.prompt input) >>= fun reading =>
            match reading with
            | .error cause => close (.unprompted cause) >>= fun _ => pure (some (.unprompted cause))
            | .ok reading => respond host settings reading := by
  rw [turn]
  refine congrArg _ (funext fun _ => congrArg _ (funext fun _ => congrArg _ ?_))
  funext reading
  rcases reading with cause | text | _ | _ <;> rfl

theorem respond_of_ending? (host : Host) (settings : Settings) {reading : Reading}
    {ending : Ending} (h : reading.ending? = some ending) :
    (respond host settings reading : Action σ (Option Ending)) =
      close ending >>= fun _ => pure (some ending) := by
  cases reading with
  | line text =>
      rw [Reading.ending?] at h
      split at h
      · rename_i hexit
        cases h
        rw [hexit]
        rfl
      · cases h
  | malformed =>
      cases h
      rfl
  | endOfInput =>
      cases h
      rfl

theorem respond_line (host : Host) (settings : Settings) {text : String} (h : text ≠ exitLine) :
    (respond host settings (.line text) : Action σ (Option Ending)) =
      discard (Shell.evaluate host settings.lineLimit text) >>= fun _ => pure none := by
  rw [respond, Shell.evaluate_of_ne_exit h, discard_eq]
  simp only [bind_assoc, pure_bind]

/-! ## Dialogues agree with what they recite -/

variable {W : σ → Prop} {P : String → Prop} {settings : Settings}

/-- Two shells are alike, and their stream accepts whatever it is offered. -/
def AlikeOn (W : σ → Prop) (P : String → Prop) (s t : Shell σ) : Prop :=
  Shell.Alike P s t ∧ W s.stream

theorem completes_prompt (hW : OutputStream.Accepting W) (text : String) :
    Completes W (prompt text) :=
  .bind (completes_emit fun _ hs => hW.writeAll _ hs) fun _ => completes_flush hW

theorem agrees_prompt (hW : OutputStream.Accepting W) (text : String) :
    Agrees (AlikeOn W P) (prompt text) (prompt text) :=
  Agrees.and_completes (.bind (agrees_emit _) fun _ => agrees_emit _) (completes_prompt hW text)

theorem agrees_close (hW : OutputStream.Accepting W) (ending : Ending) :
    Agrees (AlikeOn W P) (close ending) (close ending) := by
  cases ending with
  | endOfInput => exact agrees_note _
  | malformed => exact .and_completes (agrees_print _) (completes_print hW _)
  | unprompted cause => exact .and_completes (agrees_print _) (completes_print hW _)
  | left => exact agrees_pure _

omit [OutputStream σ] in
theorem agrees_idle (change : ChildTable → ChildTable) (s t : Shell σ) (h : AlikeOn W P s t) :
    ((Shell.idle change).run s).Agrees (AlikeOn W P) ((pure () : Action σ Unit).run t) :=
  ⟨⟨⟨h.1.history, h.1.stream, h.1.texts⟩, h.2⟩, Trace.alike_nil, rfl⟩

omit [OutputStream σ] in
theorem agrees_collect (s t : Shell σ) (h : AlikeOn W P s t) :
    ((discard Shell.collect : Action σ Unit).run s).Agrees (AlikeOn W P)
      ((pure () : Action σ Unit).run t) := by
  rw [discard_eq, run_bind_of_ok (Shell.run_collect s), run_pure, List.append_nil]
  exact ⟨⟨⟨h.1.history, h.1.stream, h.1.texts⟩, h.2⟩, Trace.alike_collected _ [], rfl⟩

theorem run_attempt_ask {text : String} {s s' : Shell σ} {u : Trace}
    (h : (prompt text).run s = ⟨s', u, .ok ()⟩) (input : List UInt8) :
    (attempt (ask text input)).run s = ⟨s', u, .ok (.ok (Reading.ofInput input))⟩ := by
  have hask : (ask text input).run s = ⟨s', u, .ok (Reading.ofInput input)⟩ := by
    rw [ask_eq, run_bind_of_ok h, run_pure, List.append_nil]
  rw [run_attempt, hask]

/-- A turn agrees with a prompt and what follows it. -/
theorem agrees_turn (hW : OutputStream.Accepting W) {host : Host} {ended : List Pid}
    {input : List UInt8} {y : Action σ (Option Ending)}
    (h : Agrees (AlikeOn W P) (respond host settings (Reading.ofInput input)) y) :
    Agrees (AlikeOn W P) (turn host settings ended input)
      (prompt settings.prompt >>= fun _ => y) := by
  rw [turn_eq]
  refine agrees_bind_left (fun s t h => ⟨(), agrees_idle _ s t h⟩) fun _ => ?_
  refine agrees_bind_left (fun s t h => ⟨(), agrees_collect s t h⟩) fun _ => ?_
  intro s t hst
  -- The stream accepts the prompt, so that a line is read.
  obtain ⟨⟨_, hanswer⟩, -⟩ := completes_prompt hW settings.prompt s hst.2
  obtain ⟨hshell, htrace, hsame⟩ := agrees_prompt hW settings.prompt s t hst
  rw [hanswer] at hsame
  have hs : (prompt settings.prompt).run s = ⟨_, _, .ok ()⟩ := congrArg (Outcome.mk _ _) hanswer
  have ht : (prompt settings.prompt).run t = ⟨_, _, .ok ()⟩ := congrArg (Outcome.mk _ _) hsame.symm
  rw [run_bind_of_ok (run_attempt_ask hs input), run_bind_of_ok ht]
  obtain ⟨hshell', htrace', hsame'⟩ := h _ _ hshell
  exact ⟨hshell', htrace.append htrace', hsame'⟩

variable {host : Octets → Host}

theorem agrees_respond (hW : OutputStream.Accepting W) (hforks : ∀ input, (host input).Forks)
    (hP : ∀ line, P line → Host.LeavesInput host line) (input : Octets) {text : String}
    (h : P text) :
    Agrees (AlikeOn W P) (respond (host input) settings (.line text) : Action σ (Option Ending))
      (respond (host []) settings (.line text)) := by
  have hevaluate : Agrees (AlikeOn W P)
      (Shell.evaluate (host input) settings.lineLimit text : Action σ Flow)
      (Shell.evaluate (host []) settings.lineLimit text) :=
    (Shell.agrees_evaluate hforks hP h input settings.lineLimit).and_completes
      (Shell.completes_evaluate hW (hforks input) settings.lineLimit text)
  refine .bind hevaluate fun flow => ?_
  cases flow with
  | stay => exact agrees_pure _
  | leave => exact agrees_pure _

/-- A turn that ends the dialogue. -/
theorem agrees_turn_close (hW : OutputStream.Accepting W) {host : Host} {ended : List Pid}
    {input : List UInt8} {ending : Ending}
    (h : (Reading.ofInput input).ending? = some ending) :
    Agrees (AlikeOn W P) (turn host settings ended input)
      ((prompt settings.prompt >>= fun _ => close ending) >>= fun _ => pure (some ending)) := by
  rw [bind_assoc]
  refine agrees_turn hW ?_
  rw [respond_of_ending? host settings h]
  exact .bind (agrees_close hW ending) fun _ => agrees_pure _

/-- A turn that evaluates a line and goes on. -/
theorem agrees_turn_line (hW : OutputStream.Accepting W) (hforks : ∀ input, (host input).Forks)
    (hP : ∀ line, P line → Host.LeavesInput host line) {open_ : Octets} {ended : List Pid}
    {input : List UInt8} {text : String} (hread : Reading.ofInput input = .line text)
    (hexit : text ≠ exitLine) (h : P text) :
    Agrees (AlikeOn W P) (turn (host open_) settings ended input)
      ((prompt settings.prompt >>= fun _ =>
        discard (Shell.evaluate (host []) settings.lineLimit text)) >>= fun _ => pure none) := by
  rw [bind_assoc, ← respond_line _ _ hexit]
  refine agrees_turn hW ?_
  rw [hread]
  exact agrees_respond hW hforks hP open_ h

theorem recite_nil (host : Host) (settings : Settings) (ending : Ending) :
    (recite host settings ending [] : Action σ Ending) =
      (prompt settings.prompt >>= fun _ => close ending) >>= fun _ => pure ending :=
  (bind_assoc ..).symm

theorem recite_cons (host : Host) (settings : Settings) (ending : Ending) (line : String)
    (lines : List String) :
    (recite host settings ending (line :: lines) : Action σ Ending) =
      (prompt settings.prompt >>= fun _ =>
        discard (Shell.evaluate host settings.lineLimit line)) >>= fun _ =>
          recite host settings ending lines :=
  (bind_assoc ..).symm

/-- The turns of a dialogue over an input agree with the dialogue over the lines of the input. -/
theorem agrees_turns (hW : OutputStream.Accepting W) (hforks : ∀ input, (host input).Forks)
    (hP : ∀ line, P line → Host.LeavesInput host line) (ended : Nat → List Pid) (n : Nat)
    (intake : Intake) (hlines : ∀ line ∈ (Course.ofInput intake.bytes).lines, P line) :
    Agrees (AlikeOn W P) (turns host settings ended n intake)
      (recite (host []) settings (Course.ofInput intake.bytes).ending
        (Course.ofInput intake.bytes).lines) := by
  induction hlength : intake.length using Nat.strong_induction_on generalizing n intake with
  | _ length ih =>
      rw [turns]
      split
      · rename_i hzero
        have hbytes : intake.bytes = [] :=
          List.eq_nil_of_length_eq_zero (intake.length_bytes.trans hzero)
        have hturn : Agrees (AlikeOn W P) (turn (host []) settings (ended n) [])
            ((prompt settings.prompt >>= fun _ => close .endOfInput) >>= fun _ =>
              pure (some .endOfInput)) :=
          agrees_turn_close hW rfl
        have hturns := hturn.bind fun ending => agrees_pure (ending.getD .endOfInput)
        rw [bind_assoc] at hturns
        rw [hbytes, Course.ofInput_nil, recite_nil]
        exact hturns
      · rename_i hzero
        dsimp only
        have hread := Intake.ofInput_filled hzero
        cases hending : (Reading.ofInput intake.bytes).ending? with
        | some ending =>
            rw [Course.ofInput_of_ending? hending, recite_nil]
            rw [← hread] at hending
            exact (agrees_turn_close hW hending).observe_bind fun _ _ => agrees_pure _
        | none =>
            obtain ⟨text, hreading, hexit⟩ := Reading.line_of_ending?_eq_none hending
            have hrest := (Intake.front_filled intake).2
            rw [Course.ofInput_of_line hreading hexit, ← hrest] at hlines ⊢
            obtain ⟨htext, hlines⟩ := List.forall_mem_cons.mp hlines
            rw [recite_cons]
            refine (agrees_turn_line hW hforks hP (hread.trans hreading) hexit htext).observe_bind
              fun u hu => ?_
            rw [hu]
            exact ih _ (hlength ▸ Intake.length_rest_lt hzero 0) (n + 1) _ hlines rfl

/-- A whole dialogue of a known course. -/
def recital (host : Host) (settings : Settings) (course : Course) : Action σ Ending := do
  let ending ← recite host settings course.ending course.lines
  let s ← state
  note (.leaving (s.history.nextId - 1))
  return ending

/-- The dialogue over an input agrees with the one of its course. -/
theorem agrees_run (hW : OutputStream.Accepting W) (hforks : ∀ input, (host input).Forks)
    (settings : Settings) {input : List UInt8}
    (hlines : ∀ line ∈ (Course.ofInput input).lines, Host.LeavesInput host line)
    (ended : Nat → List Pid) :
    Agrees (AlikeOn W (Host.LeavesInput host)) (run host settings ended input)
      (recital (host []) settings (Course.ofInput input)) := by
  rw [← Intake.bytes_ofInput input] at hlines
  have hturns : Agrees (AlikeOn W (Host.LeavesInput host)) (turns host settings ended 0 _) _ :=
    agrees_turns hW hforks (fun _ => id) ended 0 (Intake.ofInput input) hlines
  rw [Intake.bytes_ofInput] at hturns
  refine hturns.bind fun ending => agrees_state_bind fun s t h => ?_
  rw [h.1.history]
  exact .bind (agrees_note _) fun _ => agrees_pure _

end Dialogue

end LineShell
