import LineShell.Program.Catalogue
import LineShell.Proofs.Shell.Agreement
import LineShell.Proofs.Shell.Completion
import LineShell.Proofs.System.Search

/-!
# The programs of a host

Children can always be created, and whatever the search for a program finds can be run. Most
programs leave what they could read alone, so that a command does the same whatever the shell has
read before it. Main statements: `forks_host`, `run_isSome_iff` and `leavesInput_host`.
-/

namespace LineShell.Program

theorem forks_host (environment : List (Octets × Octets)) (input : Octets) :
    (host environment input).Forks :=
  fun attempts _ => ⟨attempts + 1, rfl⟩

/-! ## Finding programs -/

variable {environment : List (Octets × Octets)} {words : List Octets} {name : Octets}
  {program : Start → Finish}

theorem mem_programs_of_found? (h : found? environment words = some name) :
    name ∈ Files.programs := by
  rw [found?] at h
  split at h
  · cases hsearch : Files.searchProgram {} workingDirectory
        ((environment.lookup "PATH".toList).getD usualSearch) (words.headD []) with
    | error t =>
        rw [hsearch] at h
        cases h
    | ok found =>
        rw [hsearch] at h
        obtain rfl : found = name := Option.some.inj h
        exact Files.mem_programs_of_searchProgram hsearch
  · cases h

theorem ofName?_isSome (h : name ∈ Files.programs) : (ofName? name).isSome := by
  have hall : ∀ name ∈ Files.programs, (ofName? name).isSome := by decide
  exact hall name h

theorem run_of_found?_eq_none {argv : List String}
    (h : found? environment (argv.map Octets.ofText) = none) (input : Octets) :
    run environment input argv = none := by
  rw [run, h]
  rfl

theorem run_of_found? {argv : List String}
    (hfound : found? environment (argv.map Octets.ofText) = some name)
    (hprogram : ofName? name = some program) (input : Octets) :
    run environment input argv =
      some (writingOf (program (startOf environment input (argv.map Octets.ofText)))) := by
  rw [run, hfound, Option.bind_some, hprogram]
  rfl

/-- A command runs if and only if its words lead to a program. -/
theorem run_isSome_iff (environment : List (Octets × Octets)) (input : Octets)
    (argv : List String) : (run environment input argv).isSome =
      (found? environment (argv.map Octets.ofText)).isSome := by
  cases hfound : found? environment (argv.map Octets.ofText) with
  | none => rw [run_of_found?_eq_none hfound, Option.isSome_none, Option.isSome_none]
  | some name =>
      obtain ⟨program, hprogram⟩ :=
        Option.isSome_iff_exists.mp (ofName?_isSome (mem_programs_of_found? hfound))
      rw [run_of_found? hfound hprogram, Option.isSome_some, Option.isSome_some]

/-! ## Programs that read nothing -/

/-- A program that does the same whatever there is for it to read, and takes none of it. -/
structure LeavesInput (program : Start → Finish) : Prop where
  same : ∀ (s : Start) (input : Octets), program { s with input } = program s
  taken : ∀ s, (program s).taken = 0

theorem LeavesInput.closing (h : LeavesInput program) :
    LeavesInput fun s => s.closing (program s) where
  same s input := by rw [h.same]; rfl
  taken s := by
    rw [Start.closing]
    split
    · exact h.taken s
    · split
      · exact h.taken s
      · exact h.taken s

theorem leavesInput_silent (status : Nat) : LeavesInput (silent status) :=
  ⟨fun _ _ => rfl, fun _ => rfl⟩

theorem leavesInput_echo : LeavesInput Echo.run where
  same _ _ := rfl
  taken s := by
    rw [Echo.run]
    split <;> rfl

theorem leavesInput_format : LeavesInput Format.run where
  same _ _ := rfl
  taken s := by
    rw [Format.run]
    split <;> rfl

theorem leavesInput_sleep : LeavesInput Sleep.run where
  same _ _ := rfl
  taken s := by
    rw [Sleep.run]
    split
    · rfl
    · rfl
    · split
      · rfl
      · split <;> rfl

theorem leavesInput_condition (inBrackets : Bool) : LeavesInput (Condition.run inBrackets) where
  same _ _ := rfl
  taken s := by
    rw [Condition.run]
    split <;> rfl

/-- The programs that may read. -/
def readers : List Octets :=
  ["cat", "dash"].map String.toList

theorem leavesInput_of_ofName? (hname : name ∈ Files.programs) (hreaders : name ∉ readers)
    (h : ofName? name = some program) : LeavesInput program := by
  simp only [Files.programs, List.map_cons, List.map_nil, List.mem_cons, List.not_mem_nil,
    or_false] at hname
  rcases hname with rfl | rfl | rfl | rfl | rfl | rfl | rfl | rfl | rfl
  · exact Option.some.inj h ▸ leavesInput_condition true
  · exact absurd (by decide) hreaders
  · exact absurd (by decide) hreaders
  · exact Option.some.inj h ▸ leavesInput_echo.closing
  · exact Option.some.inj h ▸ leavesInput_silent 1
  · exact Option.some.inj h ▸ leavesInput_format.closing
  · exact Option.some.inj h ▸ leavesInput_sleep
  · exact Option.some.inj h ▸ leavesInput_condition false
  · exact Option.some.inj h ▸ leavesInput_silent 0

/-- A command whose words lead to no program that may read does the same whatever the shell has read
before it. -/
theorem leavesInput_host {line : String}
    (h : ∀ name ∈ found? environment ((Command.ofLine line).argv.map Octets.ofText),
      name ∉ readers) :
    Host.LeavesInput (host environment) line := by
  intro input
  change run environment input _ = run environment [] _ ∧
    ∀ writing ∈ run environment input _, writing.taken = 0
  cases hfound : found? environment ((Command.ofLine line).argv.map Octets.ofText) with
  | none =>
      rw [run_of_found?_eq_none hfound, run_of_found?_eq_none hfound]
      exact ⟨rfl, fun _ hnone => nomatch hnone⟩
  | some name =>
      have hname := mem_programs_of_found? hfound
      obtain ⟨program, hprogram⟩ := Option.isSome_iff_exists.mp (ofName?_isSome hname)
      have hleaves := leavesInput_of_ofName? hname (h name hfound) hprogram
      rw [run_of_found? hfound hprogram, run_of_found? hfound hprogram]
      refine ⟨congrArg (some ∘ writingOf) (hleaves.same (startOf environment [] _) input), ?_⟩
      rintro _ ⟨⟩
      exact hleaves.taken _

/-! ## Copying the input -/

end LineShell.Program
