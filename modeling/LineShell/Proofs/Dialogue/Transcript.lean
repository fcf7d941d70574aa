import LineShell.Program.Catalogue
import LineShell.Proofs.Dialogue.Completion

/-!
# The transcript of a dialogue

What a run writes is what its lines write, one after the other, each behind a prompt, and a last
prompt.
-/

namespace LineShell

open LineShell.Action

/-! ## What is written -/

/-- What is written once the dialogue is to end. -/
def Ending.notice : Ending → List UInt8
  | malformed => Text.utf8 (Dialogue.malformedLine ++ "\n")
  | unprompted cause => Text.utf8 (Dialogue.unpromptedLine cause ++ "\n")
  | _ => []

namespace Dialogue

/-- What a dialogue writes over lines: for each the prompt and what the line writes on the shell
that the lines before it have left, and then the last prompt. -/
def written {σ : Type} [OutputStream σ] (host : Host) (settings : Settings) :
    Shell σ → List String → List UInt8
  | _, [] => Text.utf8 settings.prompt
  | s, line :: lines =>
    let o := (Shell.evaluate host settings.lineLimit line).run s
    Text.utf8 settings.prompt ++ (o.trace.output ++ written host settings o.shell lines)

theorem run_prompt_unlimited (text : String) {s : Shell Limited} (hs : s.stream = .unlimited) :
    ∃ t, (prompt text).run s = ⟨s, t, .ok ()⟩ ∧ Trace.output t = Text.utf8 text := by
  have hwrite : OutputStream.writeAll s.stream (Text.utf8 text) =
      ⟨s.stream, Text.utf8 text, .ok ()⟩ := by
    rw [hs, Limited.writeAll_unlimited]
  have hflush : OutputStream.flush s.stream = ⟨s.stream, [], .ok ()⟩ := by
    rw [hs]
    rfl
  obtain ⟨t, ht, hout⟩ := run_emit_of_ok (f := (OutputStream.writeAll · (Text.utf8 text))) hwrite
  obtain ⟨u, hu, hnone⟩ := run_emit_of_ok hflush
  refine ⟨t ++ u, ?_, ?_⟩
  · rw [prompt, run_bind_of_ok ht, flush, hu]
  · rw [Trace.output_append, hout, hnone, List.append_nil]

theorem run_print_unlimited (text : String) {s : Shell Limited} (hs : s.stream = .unlimited) :
    ∃ t, (print text).run s = ⟨s, t, .ok ()⟩ ∧ Trace.output t = Text.utf8 (text ++ "\n") := by
  have hprint : OutputStream.printLine s.stream text =
      ⟨s.stream, Text.utf8 text ++ Text.utf8 "\n", .ok ()⟩ := by
    rw [hs, Limited.printLine_unlimited]
  obtain ⟨t, ht, hout⟩ := run_emit_of_ok (f := (OutputStream.printLine · text)) hprint
  refine ⟨t, ?_, ?_⟩
  · rw [run_print_of_ok (by rw [hprint]), ht]
  · rw [hout, Text.utf8_append]

theorem run_close_unlimited (ending : Ending) {s : Shell Limited} (hs : s.stream = .unlimited) :
    ∃ t, (close ending).run s = ⟨s, t, .ok ()⟩ ∧ Trace.output t = ending.notice := by
  cases ending with
  | malformed => exact run_print_unlimited _ hs
  | unprompted cause => exact run_print_unlimited _ hs
  | endOfInput => exact ⟨_, rfl, rfl⟩
  | left => exact ⟨_, rfl, rfl⟩

/-- Where the stream takes everything, the end of a dialogue is its course's, and so is what it
writes. -/
theorem output_recite {host : Host} (hf : host.Forks) (settings : Settings) (ending : Ending)
    (lines : List String) {s : Shell Limited} (hs : s.stream = .unlimited) :
    ((recite host settings ending lines).run s).trace.output =
        written host settings s lines ++ ending.notice ∧
      ((recite host settings ending lines).run s).answer = .ok ending := by
  obtain ⟨t, hprompt, ht⟩ := run_prompt_unlimited settings.prompt hs
  induction lines generalizing s t with
  | nil =>
      obtain ⟨u, hclose, hu⟩ := run_close_unlimited ending hs
      rw [recite, run_bind_of_ok hprompt, run_bind_of_ok hclose, run_pure, List.append_nil]
      refine ⟨?_, rfl⟩
      rw [Trace.output_append, ht, hu, written]
  | cons line lines ih =>
      obtain ⟨⟨flow, hflow⟩, hstream⟩ :=
        Shell.completes_evaluate Limited.accepting_unlimited hf settings.lineLimit line s hs
      obtain ⟨t', hprompt', ht'⟩ := run_prompt_unlimited settings.prompt hstream
      obtain ⟨houtput, hanswer⟩ := ih hstream t' hprompt' ht'
      have hevaluate : (discard (Shell.evaluate host settings.lineLimit line)).run s =
          { (Shell.evaluate host settings.lineLimit line).run s with answer := .ok () } := by
        rw [discard_eq, run_bind_of_ok (congrArg (Outcome.mk _ _) hflow), run_pure,
          List.append_nil]
      rw [recite, run_bind_of_ok hprompt, run_bind_of_ok hevaluate]
      refine ⟨?_, hanswer⟩
      rw [Trace.output_append, Trace.output_append, ht, houtput, written, List.append_assoc,
        List.append_assoc]

theorem output_recital {host : Host} (hf : host.Forks) (settings : Settings) (course : Course)
    {s : Shell Limited} (hs : s.stream = .unlimited) :
    ((recital host settings course).run s).trace.output =
        written host settings s course.lines ++ course.ending.notice ∧
      ((recital host settings course).run s).answer = .ok course.ending := by
  obtain ⟨houtput, hanswer⟩ := output_recite hf settings course.ending course.lines hs
  rw [recital, run_bind_of_ok (congrArg (Outcome.mk _ _) hanswer), run_state_bind]
  refine ⟨?_, rfl⟩
  rw [Trace.output_append, houtput]
  exact List.append_nil _

end Dialogue

/-! ## The report of a run -/

namespace Report

variable {host : Octets → Host} {lookup : String → Option String} {settings : Settings}
  {input : List UInt8}

/-- The report is that of the course of the input alone, and not of when children end. -/
theorem ofRun_eq (hlookup : Settings.ofLookup lookup = .ok settings)
    (hforks : ∀ input, (host input).Forks)
    (hlines : ∀ line ∈ (Course.ofInput input).lines, Host.LeavesInput host line)
    (ended : Nat → List Pid) (logger : Logger) :
    let asked := lookup Logger.environmentVariable
    let t := ((Dialogue.recital (host []) settings (Course.ofInput input)).run
      (Shell.ofSettings settings Limited.unlimited)).trace
    ofRun host ended lookup input logger =
      ⟨0, t.output, logger.opening asked ++ t.errors (logger.write asked)⟩ := by
  intro asked t
  have hstart : Dialogue.AlikeOn (· = Limited.unlimited) (Host.LeavesInput host)
      (Shell.ofSettings settings Limited.unlimited)
      (Shell.ofSettings settings Limited.unlimited) :=
    ⟨⟨rfl, rfl, fun e he => nomatch (Array.mem_replicate.mp he).2⟩, rfl⟩
  obtain ⟨-, htrace, -⟩ :=
    Dialogue.agrees_run Limited.accepting_unlimited hforks settings hlines ended _ _ hstart
  rw [ofRun_of_forks hlookup hforks, htrace.output, htrace.errors]

/-- A run writes, for the lines of its input up to the one that ends it, the prompt and what the
line writes on the shell that the lines before it have left, and then a last prompt; if a line is no
text, it says so as well. No byte behind the line that ends it matters. Its status is zero. None of
this depends on the logger. -/
theorem ofRun_output (hlookup : Settings.ofLookup lookup = .ok settings)
    (hforks : ∀ input, (host input).Forks)
    (hlines : ∀ line ∈ (Course.ofInput input).lines, Host.LeavesInput host line)
    (ended : Nat → List Pid) (logger : Logger) :
    (ofRun host ended lookup input logger).status = 0 ∧
    (ofRun host ended lookup input logger).output =
      Dialogue.written (host []) settings (Shell.ofSettings settings Limited.unlimited)
        (Course.ofInput input).lines ++ (Course.ofInput input).ending.notice ∧
    ∀ front rest, input = front ++ Line.feed :: rest →
      (Course.ofInput (front ++ [Line.feed])).ending ≠ .endOfInput →
        ∀ ended' rest', ofRun host ended' lookup (front ++ Line.feed :: rest') logger =
          ofRun host ended lookup input logger := by
  refine ⟨?_, ?_, ?_⟩
  · rw [ofRun_eq hlookup hforks hlines ended]
  · rw [ofRun_eq hlookup hforks hlines ended]
    exact (Dialogue.output_recital (hforks []) settings (Course.ofInput input) rfl).1
  · rintro front rest rfl hending ended' rest'
    have hcourse : Course.ofInput (front ++ Line.feed :: rest') =
        Course.ofInput (front ++ Line.feed :: rest) :=
      (Course.ofInput_append_feed hending rest').trans
        (Course.ofInput_append_feed hending rest).symm
    rw [ofRun_eq hlookup hforks hlines ended, ofRun_eq hlookup hforks (hcourse ▸ hlines) ended',
      hcourse]

/-- Two lines are evaluated, a third one leaves the shell, and a byte behind it is no text. -/
theorem ofRun_output_until_exit :
    let front := Text.utf8 "echo hi\r\n!1 x\nexit"
    let report :=
      ofRun (Program.host []) (fun _ => []) (fun _ => none) (front ++ Line.feed :: [255])
    report.status = 0 ∧ report.output = Text.utf8 "rashell> hi\nrashell> hi\nrashell> " ∧
      ofRun (Program.host []) (fun _ => [1]) (fun _ => none) (front ++ Line.feed :: []) =
        report := by
  intro front report
  have hlookup : Settings.ofLookup (fun _ => none) = .ok {} := rfl
  have hcourse : Course.ofInput (front ++ Line.feed :: [255]) = ⟨["echo hi", "!1 x"], .left⟩ := by
    decide +kernel
  have hlines : ∀ line ∈ (Course.ofInput (front ++ Line.feed :: [255])).lines,
      Host.LeavesInput (Program.host []) line := by
    rw [hcourse]
    intro line hline
    rcases List.mem_pair.mp hline with rfl | rfl
    · have hecho : ∀ input, (Program.host [] input).exec (Command.ofLine "echo hi").argv =
          some { output := Text.utf8 "hi\n" } := fun _ => rfl
      intro input
      rw [hecho, hecho]
      exact ⟨rfl, fun writing hwriting => Option.some.inj hwriting ▸ rfl⟩
    · have hnone : ∀ input, (Program.host [] input).exec (Command.ofLine "!1 x").argv = none :=
        fun _ => rfl
      intro input
      rw [hnone, hnone]
      exact ⟨rfl, fun writing hwriting => nomatch hwriting⟩
  obtain ⟨hstatus, houtput, hbehind⟩ :=
    ofRun_output hlookup (fun _ attempts _ => ⟨attempts + 1, rfl⟩) hlines (fun _ => []) .levels
  refine ⟨hstatus, houtput.trans ?_, hbehind front [255] rfl (by decide +kernel) _ []⟩
  rw [hcourse]
  decide +kernel

end Report

end LineShell
