import LineShell.Main
import LineShell.Proofs.Dialogue.Telling
import LineShell.Proofs.Program.Echo

/-!
# The program as a whole

What the command line reports, in any environment with good settings and over any input. Main
statements: `report_status`, `output_report_eq_told` and `output_report_of_repeats`.
-/

namespace LineShell.Main

variable {environment : List (String × String)} {settings : Settings} {input : List UInt8}

/-- Whatever the lines of the input are, and whatever the programs do that they run, the status is
zero. -/
theorem report_status (hsettings : Settings.ofLookup (List.lookup · environment) = .ok settings)
    (input : List UInt8) : (report environment input).status = 0 := by
  rw [report, Report.ofRun_of_forks hsettings (Program.forks_host _)]

/-- A line whose words lead to no program that may read. -/
def LeavesInput (environment : List (String × String)) (line : String) : Prop :=
  ∀ name ∈ Program.found? (exported environment) ((Command.ofLine line).argv.map Octets.ofText),
    name ∉ Program.readers

/-- Where no line runs a program that may read, the output is what the lines tell. -/
theorem output_report_eq_told
    (hsettings : Settings.ofLookup (List.lookup · environment) = .ok settings)
    (hlines : ∀ line ∈ (Course.ofInput input).lines, LeavesInput environment line) :
    (report environment input).output =
      Dialogue.told (Program.host (exported environment) []) settings
          (Ring.empty settings.historyCapacity) (Course.ofInput input).lines ++
        (Course.ofInput input).ending.notice :=
  Report.output_ofRun_eq_told hsettings (Program.forks_host _)
    (fun line hline => Program.leavesInput_host (hlines line hline)) _ _

/-! ## Words that are repeated -/

theorem lookup_exported {name : String} (h : environment.lookup name = none) :
    (exported environment).lookup (Octets.ofText name) = none := by
  rw [List.lookup_eq_none_iff] at h ⊢
  intro entry hentry
  obtain ⟨⟨name', value⟩, hmem, rfl⟩ := List.mem_map.mp hentry
  have hne := h _ hmem
  rw [bne_iff_ne] at hne ⊢
  exact fun hname => hne (Octets.ofText_injective hname)

/-- A line has some words repeated that can be handed to a program, and no escape is read. -/
structure Repeats (environment : List (String × String)) (limit : Nat) (line : String)
    (args : List String) : Prop where
  short : line.utf8ByteSize ≤ limit
  argv : (Command.ofLine line).argv = "echo" :: args
  passable : IsPassable ("echo" :: args)
  fits : Program.arePassable (("echo" :: args).map Octets.ofText) (exported environment)
  notAsking : args ≠ ["--help"] ∧ args ≠ ["--version"]
  verbatim : Program.Echo.Verbatim (args.map Octets.ofText)

namespace Repeats

variable {limit : Nat} {line : String} {args : List String}

theorem runsProgram (h : Repeats environment limit line args) : RunsProgram limit line where
  notExit := by
    rintro rfl
    have hhead : (Command.ofLine exitLine).argv.head? = some "echo" := congrArg List.head? h.argv
    exact absurd hhead (by decide)
  notHistory := by
    rintro rfl
    have hhead : (Command.ofLine historyLine).argv.head? = some "echo" := congrArg List.head? h.argv
    exact absurd hhead (by decide)
  short := h.short
  filled := by
    rw [h.argv]
    exact List.cons_ne_nil _ _
  notRecalled := by
    rw [Command.recalled?_of_cons h.argv]
    exact if_neg (by decide)

theorem leavesInput (h : Repeats environment limit line args)
    (hsearch : environment.lookup "PATH" = none) : LeavesInput environment line := by
  intro name hname
  rw [h.argv] at hname
  have hmem : "echo".toList ∈ Files.programs := by decide
  have hecho := Program.found?_of_mem hmem (lookup_exported hsearch) h.fits
  obtain rfl : "echo".toList = name := Option.some.inj (hecho.symm.trans hname)
  decide

theorem outputOf (h : Repeats environment limit line args)
    (hsearch : environment.lookup "PATH" = none)
    (hstandard : environment.lookup "POSIXLY_CORRECT" = none) :
    (Program.host (exported environment) []).outputOf (Command.ofLine line).argv line =
      Octets.toBytes (Program.Echo.repeated (args.map Octets.ofText)) := by
  have hexec := Program.exec_echo [] (lookup_exported hsearch) (lookup_exported hstandard) h.fits
    h.notAsking h.verbatim
  rw [h.argv, Host.outputOf, if_pos h.passable, Host.writing, hexec]
  rfl

end Repeats

/-- Where the lines have words repeated, the output is these, each behind a prompt. -/
theorem output_report_of_repeats
    (hsettings : Settings.ofLookup (List.lookup · environment) = .ok settings)
    (hsearch : environment.lookup "PATH" = none)
    (hstandard : environment.lookup "POSIXLY_CORRECT" = none) {args : String → List String}
    (hlines : ∀ line ∈ (Course.ofInput input).lines,
      Repeats environment settings.lineLimit line (args line)) :
    (report environment input).output =
      ((Course.ofInput input).lines.flatMap fun line => Text.utf8 settings.prompt ++
          Octets.toBytes (Program.Echo.repeated ((args line).map Octets.ofText))) ++
        Text.utf8 settings.prompt ++ (Course.ofInput input).ending.notice := by
  rw [output_report_eq_told hsettings fun line hline => (hlines line hline).leavesInput hsearch,
    Dialogue.told_of_programs fun line hline => (hlines line hline).runsProgram]
  refine congrArg (· ++ _ ++ _) (List.flatMap_congr fun line hline => ?_)
  rw [(hlines line hline).outputOf hsearch hstandard]

example : (report [] (Text.utf8 "echo hi\necho -n there")).output =
    Text.utf8 "rashell> hi\nrashell> thererashell> " := by
  have hsettings : Settings.ofLookup (List.lookup · []) = .ok {} := rfl
  have hcourse : Course.ofInput (Text.utf8 "echo hi\necho -n there") =
      ⟨["echo hi", "echo -n there"], .endOfInput⟩ := by decide +kernel
  have hlines : ∀ line ∈ (Course.ofInput (Text.utf8 "echo hi\necho -n there")).lines,
      Repeats [] 1000 line (Command.ofLine line).argv.tail := by
    rw [hcourse]
    intro line hline
    rcases List.mem_pair.mp hline with rfl | rfl
    · exact ⟨by decide, by decide, by decide, by decide, by decide, by decide⟩
    · exact ⟨by decide, by decide, by decide, by decide, by decide, by decide⟩
  rw [output_report_of_repeats hsettings rfl rfl hlines, hcourse]
  decide +kernel

end LineShell.Main
