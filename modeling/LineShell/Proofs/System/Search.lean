import LineShell.System.Files

/-!
# Paths and the search for programs

A path is followed name by name, so what holds of a path and of the one that a name leads to holds
of every path that is reached. Main statements: `Reached.of_resolve`, `searchProgram_go_eq` and
`mem_programs_of_searchProgram`.
-/

namespace LineShell.Files

variable {files : Files} {directory path : Path} {name : Octets} {names : List Octets}

/-! ## Following a path -/

/-- A name that stands in a directory. -/
structure IsName (name : Octets) : Prop where
  filled : name ≠ []
  notSame : name ≠ ['.']
  notAbove : name ≠ ['.', '.']
  length_le : name.length ≤ longestName

/-- A path that can be reached leads through names, and all but the last one to a directory. -/
structure Reached (files : Files) (path : Path) : Prop where
  isName : ∀ name ∈ path, IsName name
  above : files.kind? path.dropLast = some .directory

theorem kind?_eq_directory_iff : files.kind? path = some .directory ↔ path ∈ directories := by
  rw [kind?]
  constructor
  · intro h
    split at h
    · rename_i hmem
      exact List.contains_iff_mem.mp hmem
    · split at h
      · cases h
      · split at h
        · cases h
        · split at h
          · cases h
          · split at h <;> cases h
  · intro h
    rw [if_pos (List.contains_iff_mem.mpr h)]

theorem dropLast_mem_directories (h : path ∈ directories) : path.dropLast ∈ directories := by
  have hall : ∀ p ∈ directories, p.dropLast ∈ directories := by decide +kernel
  exact hall path h

/-- What a second path stands for can be reached as well. -/
theorem reached_of_link {link : Path} (h : links.lookup link = some path) :
    files.Reached path := by
  have hall : ∀ l ∈ links, l.2.dropLast ∈ directories ∧
      ∀ name ∈ l.2, name ≠ [] ∧ name ≠ ['.'] ∧ name ≠ ['.', '.'] ∧ name.length ≤ longestName := by
    decide +kernel
  obtain ⟨front, rest, hlinks, -⟩ := List.lookup_eq_some_iff.mp h
  have hmem : (link, path) ∈ links := by
    rw [hlinks]
    exact List.mem_append_right front List.mem_cons_self
  obtain ⟨habove, hnames⟩ := hall (link, path) hmem
  exact ⟨fun name hname =>
    let ⟨hfilled, hsame, hup, hlen⟩ := hnames name hname
    ⟨hfilled, hsame, hup, hlen⟩, kind?_eq_directory_iff.mpr habove⟩

theorem Reached.dropLast (h : files.Reached path) : files.Reached path.dropLast where
  isName name hname := h.isName name (List.dropLast_subset path hname)
  above := kind?_eq_directory_iff.mpr (dropLast_mem_directories (kind?_eq_directory_iff.mp h.above))

/-- One more name leads from a directory to something that can be reached. -/
theorem Reached.step (h : files.Reached path) (hkind : files.kind? path = some .directory)
    (hname : IsName name) :
    files.Reached ((links.lookup (path ++ [name])).getD (path ++ [name])) := by
  cases hlink : links.lookup (path ++ [name]) with
  | some target => exact reached_of_link hlink
  | none =>
      refine ⟨fun n hn => ?_, ?_⟩
      · rcases List.mem_append.mp hn with hn | hn
        · exact h.isName n hn
        · rwa [List.mem_singleton.mp hn]
      · rwa [Option.getD_none, List.dropLast_concat]

theorem Reached.walk {target : Path} (h : files.Reached path)
    (hwalk : files.walk path names = .ok target) : files.Reached target := by
  induction names generalizing path with
  | nil =>
      obtain rfl : path = target := Except.ok.inj hwalk
      exact h
  | cons name names ih =>
      rw [Files.walk] at hwalk
      split at hwalk
      · cases hwalk
      · rename_i hkind
        split at hwalk
        · exact ih h hwalk
        · rename_i hsame
          split at hwalk
          · exact ih h.dropLast hwalk
          · rename_i hup
            split at hwalk
            · cases hwalk
            · rename_i hlen
              obtain ⟨hfilled, hdot⟩ := not_or.mp hsame
              exact ih (h.step hkind ⟨hfilled, hdot, hup, Nat.le_of_not_lt hlen⟩) hwalk
      · cases hwalk

theorem reached_root : files.Reached [] where
  isName _ h := absurd h List.not_mem_nil
  above := kind?_eq_directory_iff.mpr List.mem_cons_self

/-- What a text leads to from a path that can be reached can be reached too. -/
theorem Reached.of_resolve {text : Octets} {target : Path} (h : files.Reached directory)
    (hresolve : files.resolve directory text = .ok target) : files.Reached target := by
  rw [resolve] at hresolve
  split at hresolve
  · cases hresolve
  · split at hresolve
    · cases hresolve
    · split at hresolve
      · exact reached_root.walk hresolve
      · exact h.walk hresolve

/-! ## The search for a program -/

theorem mem_programs_of_kind? (h : files.kind? path = some (.program name)) :
    name ∈ programs ∧ programDirectory ++ [name] = path := by
  rw [kind?] at h
  split at h
  · cases h
  · split at h
    · cases h
    · split at h
      · cases h
      · split at h
        · rename_i hfound
          obtain rfl : _ = name := FileKind.program.inj (Option.some.inj h)
          have hpath := List.find?_some hfound
          exact ⟨List.mem_of_find?_eq_some hfound, of_decide_eq_true hpath⟩
        · split at h <;> cases h

/-- A text that leads to a program leads to where that program stands. -/
theorem resolve_of_findProgram {text : Octets} (h : files.findProgram directory text = .ok name) :
    name ∈ programs ∧ files.resolve directory text = .ok (programDirectory ++ [name]) := by
  rw [findProgram, find] at h
  cases hpath : files.resolve directory text with
  | error trouble =>
      rw [hpath] at h
      cases h
  | ok path =>
      cases hkind : files.kind? path with
      | none =>
          simp only [hpath, bind, Except.bind, hkind, throw, throwThe, MonadExceptOf.throw] at h
          cases h
      | some kind =>
          simp only [hpath, bind, Except.bind, hkind, pure, Except.pure] at h
          cases kind with
          | program found =>
              obtain rfl : found = name := Except.ok.inj h
              obtain ⟨hmem, rfl⟩ := mem_programs_of_kind? hkind
              exact ⟨hmem, rfl⟩
          | _ => cases h

/-- What a directory of a search says about the program, if that ends the search. -/
def verdict? (files : Files) (directory : Path) (word place : Octets) :
    Option (Except FileTrouble Octets) :=
  match files.findProgram directory (candidate word place) with
  | .ok name => some (.ok name)
  | .error .tooLong => some (.error .tooLong)
  | .error _ => none

theorem findProgram_of_verdict? {word place : Octets}
    (h : files.verdict? directory word place = some (.ok name)) :
    files.findProgram directory (candidate word place) = .ok name := by
  rw [verdict?] at h
  split at h
  · rename_i found hfound
    obtain rfl : found = name := Except.ok.inj (Option.some.inj h)
    exact hfound
  · cases h
  · cases h

/-- Whether the program may not be run that a directory of a search has. -/
def isDenied (files : Files) (directory : Path) (word place : Octets) : Bool :=
  match files.findProgram directory (candidate word place) with
  | .error .denied => true
  | _ => false

/-- The first directory that ends a search says what it finds. If none does, the search finds
nothing, and reports whether something was found that may not be run. -/
theorem searchProgram_go_eq (word : Octets) (places : List Octets) (trouble : FileTrouble) :
    searchProgram.go files directory word places trouble =
      (places.findSome? (files.verdict? directory word)).getD
        (.error (if places.any (files.isDenied directory word) then .denied else trouble)) := by
  induction places generalizing trouble with
  | nil => rfl
  | cons place places ih =>
      rw [searchProgram.go, List.findSome?_cons, List.any_cons, verdict?, isDenied]
      cases files.findProgram directory (candidate word place) with
      | ok name => rfl
      | error t => cases t <;> simp [ih]

/-- What is found is one of the programs. -/
theorem mem_programs_of_searchProgram {search word : Octets}
    (h : files.searchProgram directory search word = .ok name) : name ∈ programs := by
  rw [searchProgram] at h
  split at h
  · cases h
  · split at h
    · exact (resolve_of_findProgram h).1
    · split at h
      · cases h
      · rw [searchProgram_go_eq] at h
        cases hfirst : (Octets.split ':' search).findSome? (files.verdict? directory word) with
        | none =>
            rw [hfirst] at h
            cases h
        | some answer =>
            obtain ⟨place, -, hplace⟩ := List.exists_of_findSome?_eq_some hfirst
            rw [hfirst, Option.getD_some] at h
            rw [h] at hplace
            exact (resolve_of_findProgram (findProgram_of_verdict? hplace)).1

end LineShell.Files
