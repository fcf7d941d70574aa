import LineShell.Proofs.Program.Catalogue

/-!
# What is repeated

Whatever bytes there are can be written with escapes, which are undone when they are read. Options
are taken off the front of the arguments, and the others are repeated as they stand where no escape
is read. Main statements: `expand_escaped`, `Echo.run_eq` and `exec_echo`.
-/

namespace LineShell.Program

variable {c : Char} {cs : Octets} {style : EscapeStyle}

/-! ## Escapes -/

theorem expand_cons (hc : c ≠ '\\') (style : EscapeStyle) (cs : Octets) :
    expand style (c :: cs) = (c :: (expand style cs).1, (expand style cs).2) := by
  rw [expand, if_neg hc]

theorem expand_escape {text rest : Octets} (h : readEscape style cs = .text text rest) :
    expand style ('\\' :: cs) = (text ++ (expand style rest).1, (expand style rest).2) := by
  rw [expand, if_pos rfl]
  split
  · rename_i hstop
    rw [h] at hstop
    cases hstop
  · rename_i hwrong
    rw [h] at hwrong
    cases hwrong
  · rename_i htext
    rw [h] at htext
    cases htext
    rfl

/-- A text without backslashes stands for itself. -/
theorem expand_of_not_mem (h : '\\' ∉ cs) (style : EscapeStyle) :
    expand style cs = (cs, .atEnd) := by
  induction cs with
  | nil => rw [expand]
  | cons c cs ih =>
      obtain ⟨hc, hcs⟩ := not_or.mp (mt List.mem_cons.mpr h)
      rw [expand_cons (Ne.symm hc), ih hcs]

theorem digitIn?_octal (n : Nat) :
    digitIn? 8 (Char.ofNat ('0'.toNat + n % 8)) = some (n % 8) := by
  have hall : ∀ d < 8, digitIn? 8 (Char.ofNat ('0'.toNat + d)) = some d := by decide
  exact hall (n % 8) (Nat.mod_lt n (by decide))

/-- Three octal digits are read back as the number of a byte. -/
theorem readDigits_octal {n : Nat} (hn : n < 512) (rest : Octets) :
    let digit n := Char.ofNat ('0'.toNat + n % 8)
    readDigits 8 3 (digit (n / 64) :: digit (n / 8) :: digit n :: rest) = (3, n, rest) := by
  intro digit
  have hvalue : 8 * (8 * (8 * 0 + n / 64 % 8) + n / 8 % 8) + n % 8 = n := by omega
  simp only [digit, readDigits, readDigits.go, digitIn?_octal, hvalue]

/-- An escape that is written is a letter or three octal digits. -/
theorem escape_cases (c : Char) :
    (∃ letter ∈ "abfnrtv".toList, control? letter = some c ∧
      ShellWord.escape c = ['\\', letter]) ∨
    ShellWord.escape c = ['\\', Char.ofNat ('0'.toNat + c.toNat / 64 % 8),
      Char.ofNat ('0'.toNat + c.toNat / 8 % 8), Char.ofNat ('0'.toNat + c.toNat % 8)] := by
  rw [ShellWord.escape]
  split
  · rename_i letter hletter
    have hcontrol := List.find?_some hletter
    exact .inl ⟨letter, List.mem_of_find?_eq_some hletter, of_decide_eq_true hcontrol, rfl⟩
  · exact .inr rfl

theorem readEscape_escape (hc : c.toNat < 256) (rest : Octets) :
    readEscape .format ((ShellWord.escape c).tail ++ rest) = .text [c] rest := by
  rcases escape_cases c with ⟨letter, hletter, hcontrol, h⟩ | h
  · have hstop : letter ≠ 'c' := by
      rintro rfl
      exact absurd hletter (by decide)
    have hquote : letter ≠ '"' := by
      rintro rfl
      exact absurd hletter (by decide)
    rw [h]
    change readEscape .format (letter :: rest) = _
    rw [readEscape, if_neg hstop, if_neg fun h => hquote h.1, hcontrol]
  · have hplain : ∀ d < 8, let c := Char.ofNat ('0'.toNat + d)
        c ≠ 'c' ∧ c ≠ '"' ∧ control? c = none ∧ c ≠ 'x' ∧ (digitIn? 8 c).isSome := by decide
    obtain ⟨hstop, hquote, hcontrol, hhex, hdigit⟩ :=
      hplain (c.toNat / 64 % 8) (Nat.mod_lt _ (by decide))
    have hread := readDigits_octal (show c.toNat < 512 by omega) rest
    rw [h]
    change readEscape .format (_ :: _ :: _ :: rest) = _
    rw [readEscape, if_neg hstop, if_neg fun h => hquote h.1, hcontrol]
    dsimp only
    rw [if_neg hhex, if_pos hdigit, if_neg fun h => h.2 rfl, hread]
    dsimp only
    rw [Octets.octet, Nat.mod_eq_of_lt hc, Char.ofNat_toNat]

/-- The bytes of a text, each as an escape, are read back. -/
theorem expand_escaped (hcs : ∀ c ∈ cs, c.toNat < 256) :
    expand .format (cs.flatMap ShellWord.escape) = (cs, .atEnd) := by
  induction cs with
  | nil => rw [List.flatMap_nil, expand]
  | cons c cs ih =>
      obtain ⟨hc, hcs⟩ := List.forall_mem_cons.mp hcs
      have hslash : ShellWord.escape c = '\\' :: (ShellWord.escape c).tail := by
        rcases escape_cases c with ⟨letter, -, -, h⟩ | h <;> rw [h, List.tail_cons]
      rw [List.flatMap_cons, hslash, List.cons_append, expand_escape (readEscape_escape hc _),
        ih hcs]
      rfl

/-! ## Options -/

namespace Echo

/-- Whether a word holds options. -/
def isOption : Octets → Bool
  | '-' :: c :: cs => (c :: cs).all "neE".toList.contains
  | _ => false

variable {o : Options} {word : Octets} {words : List Octets}

/-- What a letter asks for. -/
theorem letter?_cases {o' : Options} (h : o.letter? c = some o') :
    c = 'n' ∧ o' = { o with newline := false } ∨ c = 'e' ∧ o' = { o with escapes := true } ∨
      c = 'E' ∧ o' = { o with escapes := false } := by
  rw [Options.letter?.eq_def] at h
  split at h
  · exact .inl ⟨rfl, (Option.some.inj h).symm⟩
  · exact .inr (.inl ⟨rfl, (Option.some.inj h).symm⟩)
  · exact .inr (.inr ⟨rfl, (Option.some.inj h).symm⟩)
  · cases h

theorem letter?_isSome (o : Options) (c : Char) :
    (o.letter? c).isSome = "neE".toList.contains c := by
  rw [Options.letter?.eq_def]
  split
  · rfl
  · rfl
  · rfl
  · rename_i hn he hE
    have hletters : c ∉ "neE".toList := by simpa using ⟨hn, he, hE⟩
    exact (Bool.eq_false_iff.mpr (mt List.contains_iff_mem.mp hletters)).symm

theorem foldlM_letter?_isSome (o : Options) (cs : Octets) :
    (cs.foldlM Options.letter? o).isSome = cs.all "neE".toList.contains := by
  induction cs generalizing o with
  | nil => rfl
  | cons c cs ih =>
      rw [List.foldlM_cons, List.all_cons, ← letter?_isSome o]
      cases o.letter? c with
      | none => rfl
      | some o => exact (ih o).trans (Bool.true_and _).symm

theorem word?_eq (o : Options) (word : Octets) :
    o.word? word = if isOption word then word.tail.foldlM Options.letter? o else none := by
  by_cases h : ∃ c cs, word = '-' :: c :: cs
  · obtain ⟨c, cs, rfl⟩ := h
    change _ = if (c :: cs).all "neE".toList.contains = true then
      (c :: cs).foldlM Options.letter? o else none
    rw [← foldlM_letter?_isSome o]
    change (c :: cs).foldlM Options.letter? o = _
    cases (c :: cs).foldlM Options.letter? o <;> rfl
  · have hnone : o.word? word = none := by
      rw [Options.word?.eq_def]
      split
      · exact (h ⟨_, _, rfl⟩).elim
      · rfl
    have hoption : isOption word = false := by
      rw [isOption.eq_def]
      split
      · exact (h ⟨_, _, rfl⟩).elim
      · rfl
    rw [hnone, hoption, if_neg Bool.false_ne_true]

theorem foldlM_tail_isSome (o : Options) (h : isOption word = true) :
    (word.tail.foldlM Options.letter? o).isSome := by
  rw [foldlM_letter?_isSome]
  rw [isOption.eq_def] at h
  split at h
  · exact h
  · cases h

/-- The letters of the options at the front of the arguments. -/
def letters (words : List Octets) : Octets :=
  (words.takeWhile isOption).flatMap List.tail

/-- The options are what their letters ask for one after the other, and the arguments begin behind
them. -/
theorem read_eq (o : Options) (words : List Octets) :
    (letters words).foldlM Options.letter? o = some (o.read words).1 ∧
      (o.read words).2 = words.dropWhile isOption := by
  induction words generalizing o with
  | nil => exact ⟨rfl, rfl⟩
  | cons word words ih =>
      rw [Options.read, letters, List.takeWhile_cons, List.dropWhile_cons, word?_eq]
      cases hword : isOption word with
      | false => exact ⟨rfl, rfl⟩
      | true =>
          obtain ⟨o', ho⟩ := Option.isSome_iff_exists.mp (foldlM_tail_isSome o hword)
          obtain ⟨hletters, hrest⟩ := ih o'
          simp only [if_true, ho]
          refine ⟨?_, hrest⟩
          rw [List.flatMap_cons, List.foldlM_append, ho]
          exact hletters

theorem newline_of_foldlM {o' : Options} (h : cs.foldlM Options.letter? o = some o') :
    o'.newline = (o.newline && !cs.contains 'n') := by
  induction cs generalizing o with
  | nil =>
      obtain rfl : o = o' := Option.some.inj h
      exact (Bool.and_true _).symm
  | cons c cs ih =>
      rw [List.foldlM_cons] at h
      obtain ⟨o₁, hc, hcs⟩ := Option.bind_eq_some_iff.mp h
      rw [ih hcs]
      rcases letter?_cases hc with ⟨rfl, rfl⟩ | ⟨rfl, rfl⟩ | ⟨rfl, rfl⟩ <;> simp

theorem escapes_of_foldlM {o' : Options} (h : cs.foldlM Options.letter? o = some o')
    (hcs : 'e' ∉ cs) (ho : o.escapes = false) : o'.escapes = false := by
  induction cs generalizing o with
  | nil =>
      obtain rfl : o = o' := Option.some.inj h
      exact ho
  | cons c cs ih =>
      rw [List.foldlM_cons] at h
      obtain ⟨o₁, hc, hrest⟩ := Option.bind_eq_some_iff.mp h
      obtain ⟨hne, hcs⟩ := not_or.mp (mt List.mem_cons.mpr hcs)
      refine ih hrest hcs ?_
      rcases letter?_cases hc with ⟨rfl, rfl⟩ | ⟨rfl, rfl⟩ | ⟨rfl, rfl⟩
      · exact ho
      · exact absurd rfl hne
      · rfl

/-- What stands behind the options, with spaces between and a line feed at the end unless an option
asks for none. -/
def repeated (words : List Octets) : Octets :=
  [' '].intercalate (words.dropWhile isOption) ++
    if (letters words).contains 'n' then [] else ['\n']

/-- No escape is read: no option asks for that, or there is none. -/
def Verbatim (words : List Octets) : Prop :=
  'e' ∉ letters words ∨ '\\' ∉ [' '].intercalate (words.dropWhile isOption)

instance : DecidablePred Verbatim :=
  fun _ => inferInstanceAs (Decidable (_ ∨ _))

theorem run_eq {s : Start} (hstandard : s.isToTheLetter = false)
    (hasks : s.asksAboutItself = false) (hverbatim : Verbatim s.args) :
    run s = { written := [.output (repeated s.args)] } := by
  obtain ⟨hletters, hrest⟩ := read_eq {} s.args
  have hnewline := newline_of_foldlM hletters
  have hargs : Options.ofArgs s.isToTheLetter s.args = Options.read {} s.args := by
    rw [hstandard]
    rfl
  have hexpand : (if (Options.read {} s.args).1.escapes then
      expand .repeated ([' '].intercalate (s.args.dropWhile isOption))
        else ([' '].intercalate (s.args.dropWhile isOption), .atEnd)) =
      ([' '].intercalate (s.args.dropWhile isOption), .atEnd) := by
    rcases hverbatim with hescapes | hslash
    · rw [escapes_of_foldlM hletters hescapes rfl, if_neg Bool.false_ne_true]
    · rw [expand_of_not_mem hslash, ite_self]
  have houtput : output (Options.read {} s.args).1 (Options.read {} s.args).2 =
      repeated s.args := by
    rw [output, hrest, hexpand, repeated]
    simp only [hnewline, Bool.true_and]
    cases (letters s.args).contains 'n' with
    | true => simp
    | false => simp
  rw [run, hasks, Bool.and_false, if_neg Bool.false_ne_true, hargs]
  exact congrArg (fun text => ({ written := [.output text] } : Finish)) houtput

end Echo

/-! ## On a host -/

/-- The programs of a host are found by their names where the environment does not say where to
search. -/
theorem found?_of_mem {environment : List (Octets × Octets)} {name : Octets} {args : List Octets}
    (hname : name ∈ Files.programs) (hsearch : environment.lookup "PATH".toList = none)
    (hpass : arePassable (name :: args) environment) :
    found? environment (name :: args) = some name := by
  have hall : ∀ name ∈ Files.programs,
      (Files.searchProgram {} workingDirectory usualSearch name).toOption = some name := by
    decide +kernel
  rw [found?, if_pos hpass, hsearch]
  exact hall name hname

/-- On a host, the arguments of `echo` are repeated. -/
theorem exec_echo {environment : List (Octets × Octets)} (input : Octets) {args : List String}
    (hsearch : environment.lookup "PATH".toList = none)
    (hstandard : environment.lookup Start.standardVariable = none)
    (hpass : arePassable (("echo" :: args).map Octets.ofText) environment)
    (hasks : args ≠ ["--help"] ∧ args ≠ ["--version"])
    (hverbatim : Echo.Verbatim (args.map Octets.ofText)) :
    (host environment input).exec ("echo" :: args) =
      some { output := Octets.toBytes (Echo.repeated (args.map Octets.ofText)) } := by
  have hecho : ("echo" :: args).map Octets.ofText = "echo".toList :: args.map Octets.ofText := rfl
  have hself : (startOf environment input (("echo" :: args).map Octets.ofText)).asksAboutItself =
      false := by
    have hmap {t : String} (h : args ≠ [t]) : args.map Octets.ofText ≠ [Octets.ofText t] :=
      fun hargs => h ((List.map_inj_right fun _ _ => Octets.ofText_injective).mp hargs)
    exact Bool.or_eq_false_iff.mpr ⟨decide_eq_false (hmap hasks.1), decide_eq_false (hmap hasks.2)⟩
  have hfree : (startOf environment input (("echo" :: args).map Octets.ofText)).isToTheLetter =
      false := congrArg Option.isSome hstandard
  rw [hecho] at hpass hself hfree
  have hfound := found?_of_mem (by decide) hsearch hpass
  have hrun := Echo.run_eq hfree hself hverbatim
  have hexec : run environment input ("echo" :: args) = _ := run_of_found? hfound rfl input
  rw [hecho] at hexec
  refine hexec.trans ?_
  rw [hrun]
  exact congrArg (fun text => some (Writing.mk (Octets.toBytes text) [] 0)) (List.append_nil _)

end LineShell.Program
