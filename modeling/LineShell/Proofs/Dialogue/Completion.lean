import LineShell.Dialogue.Report
import LineShell.Proofs.Dialogue.Recital

/-!
# Dialogues that come to their end

Where every child can be created and the stream accepts whatever it is offered, a dialogue comes to
its end, whatever its lines are and whatever children take of the input. So a run with good settings
has the status zero, and its report is what has happened in the dialogue.
-/

namespace LineShell

open LineShell.Action

variable {σ α : Type} {W : σ → Prop}

namespace Action

theorem Completes.attempt {x : Action σ α} (hx : Completes W x) : Completes W (attempt x) :=
  fun s hs => ⟨⟨_, rfl⟩, (hx s hs).2⟩

theorem Completes.observe {x : Action σ α} (hx : Completes W x) : Completes W (observe x) := by
  intro s hs
  obtain ⟨⟨a, ha⟩, hw⟩ := hx s hs
  rw [run_observe, ha]
  exact ⟨⟨_, rfl⟩, hw⟩

end Action

namespace Dialogue

variable [OutputStream σ] {settings : Settings}

theorem completes_close (hW : OutputStream.Accepting W) (ending : Ending) :
    Completes W (close ending) := by
  cases ending with
  | left => exact completes_pure _
  | endOfInput => exact completes_tell _
  | malformed => exact completes_print hW _
  | unprompted cause => exact completes_print hW _

theorem completes_respond (hW : OutputStream.Accepting W) {host : Host} (hf : host.Forks)
    (reading : Reading) : Completes W (respond host settings reading) := by
  cases hending : reading.ending? with
  | some ending =>
      rw [respond_of_ending? _ _ hending]
      exact .bind (completes_close hW ending) fun _ => completes_pure _
  | none =>
      obtain ⟨text, rfl, hexit⟩ := Reading.line_of_ending?_eq_none hending
      rw [respond_line _ _ hexit]
      exact .bind (.bind (Shell.completes_evaluate hW hf _ text) fun _ => completes_pure _)
        fun _ => completes_pure _

theorem completes_turn (hW : OutputStream.Accepting W) {host : Host} (hf : host.Forks)
    (ended : List Pid) (input : List UInt8) : Completes W (turn host settings ended input) := by
  have hcollect : Completes W (Shell.collect : Action σ Nat) :=
    .bind completes_state fun _ => .bind (completes_modify fun _ => rfl) fun _ =>
      .bind (completes_tell _) fun _ => completes_pure _
  have hask : Completes W (ask settings.prompt input) := by
    rw [ask_eq]
    exact .bind (completes_prompt hW _) fun _ => completes_pure _
  rw [turn_eq]
  refine .bind (completes_modify fun _ => rfl) fun _ =>
    .bind (.bind hcollect fun _ => completes_pure _) fun _ => .bind hask.attempt fun reading => ?_
  cases reading with
  | error cause => exact .bind (completes_close hW _) fun _ => completes_pure _
  | ok reading => exact completes_respond hW hf reading

variable {host : Octets → Host}

theorem completes_turns (hW : OutputStream.Accepting W) (hforks : ∀ input, (host input).Forks)
    (ended : Nat → List Pid) (n : Nat) (intake : Intake) :
    Completes W (turns host settings ended n intake) := by
  induction n, intake using turns.induct with
  | case1 n intake hzero =>
      rw [turns, dif_pos hzero]
      exact .bind (completes_turn hW (hforks []) _ _) fun _ => completes_pure _
  | case2 n intake hzero ih =>
      rw [turns, dif_neg hzero]
      refine .bind (completes_turn hW (hforks _) _ _).observe fun observed => ?_
      obtain ⟨_ | ending, trace⟩ := observed
      · exact ih trace
      · exact completes_pure _

/-- A dialogue over any input comes to its end. -/
theorem completes_run (settings : Settings) (hW : OutputStream.Accepting W)
    (hforks : ∀ input, (host input).Forks) (ended : Nat → List Pid) (input : List UInt8) :
    Completes W (run host settings ended input) :=
  .bind (completes_turns hW hforks ended 0 _) fun _ => .bind completes_state fun _ =>
    .bind (completes_tell _) fun _ => completes_pure _

end Dialogue

namespace Report

/-- The report of a run is what has happened in the dialogue, with status zero. -/
theorem ofRun_of_forks {host : Octets → Host} {lookup : String → Option String}
    {settings : Settings} (hlookup : Settings.ofLookup lookup = .ok settings)
    (hforks : ∀ input, (host input).Forks) (ended : Nat → List Pid) (input : List UInt8)
    (logger : Logger) :
    let asked := lookup Logger.environmentVariable
    let t := ((Dialogue.run host settings ended input).run
      (Shell.ofSettings settings Limited.unlimited)).trace
    ofRun host ended lookup input logger =
      ⟨0, t.output, logger.opening asked ++ t.errors (logger.write asked)⟩ := by
  intro asked t
  obtain ⟨⟨ending, hending⟩, -⟩ :=
    Dialogue.completes_run settings Limited.accepting_unlimited hforks ended input
      (Shell.ofSettings settings Limited.unlimited) rfl
  rw [ofRun, hlookup]
  simp only [ofOutcome, hending]
  rfl

end Report

end LineShell
