import LineShell.Proofs.Command.Marker

/-!
# Commands written as lines

A word is quoted in one of three ways, and may hold any characters then. Quoted words with blanks
between them, and a marker behind them for the background, make a line that is read as these words.
So every command is what some line asks for. Main statement: `Typed.ofLine_line`.
-/

namespace LineShell

open Grammar

/-! ## Quoted words -/

/-- A way of quoting a word: between quotes of one kind or the other, or each character behind a
backslash. -/
inductive Quoted.Style where
  | single
  | double
  | escaped
deriving DecidableEq, Repr

/-- A word and the way it is quoted. Without quotes an empty word would not be there at all. -/
structure Quoted where
  word : String
  style : Quoted.Style
  visible : style = .escaped → word ≠ ""

namespace Quoted

/-- What is typed for a character between single quotes. Nothing can be escaped there, so a single
quote stands behind a backslash outside: the quotes are closed for it and opened again. -/
def inSingle (c : Char) : List Char :=
  if c = '\'' then ['\'', '\\', '\'', '\''] else [c]

/-- What is typed for a character between double quotes. -/
def inDouble (c : Char) : List Char :=
  if c ∈ escapable then ['\\', c] else [c]

def render (q : Quoted) : List Char :=
  match q.style with
  | .single => '\'' :: (q.word.toList.flatMap inSingle ++ ['\''])
  | .double => '"' :: (q.word.toList.flatMap inDouble ++ ['"'])
  | .escaped => q.word.toList.flatMap fun c => ['\\', c]

end Quoted

/-! ## Lines of quoted words -/

abbrev Space :=
  { gap : Gap // gap.val ≠ [] }

/-- Words as they are typed: none, or one and any number of others, each behind blanks. -/
inductive TypedWords where
  | none
  | words (first : Quoted) (rest : List (Space × Quoted))

namespace TypedWords

def render : TypedWords → List Char
  | none => []
  | words first rest => first.render ++ rest.flatMap fun r => r.1.val.val ++ r.2.render

def argv : TypedWords → List String
  | none => []
  | words first rest => first.word :: rest.map fun r => r.2.word

end TypedWords

/-- A command as it is typed. -/
structure Typed where
  words : TypedWords
  background : Bool

namespace Typed

def line (t : Typed) : String :=
  String.ofList t.words.render ++ if t.background then " &" else ""

def command (t : Typed) : Command where
  argv := t.words.argv
  background := t.background

end Typed

/-! ## How they are read -/

namespace Lexer

variable {done : List (List Char)} {w : List Char} {word : Option (List Char)} {m : Bool}

/-- If what is typed for a character adds that character, what is typed for some adds them all. -/
theorem run_flatMap {q : Quoting} {f : Char → List Char}
    (hf : ∀ c w, run ⟨done, some w, q, m⟩ (f c) = ⟨done, some (c :: w), q, m⟩) (cs : List Char) :
    run ⟨done, some w, q, m⟩ (cs.flatMap f) = ⟨done, some (cs.reverse ++ w), q, m⟩ := by
  induction cs generalizing w with
  | nil => rfl
  | cons c cs ih =>
      rw [List.flatMap_cons, run_append, hf, ih, List.reverse_cons, List.append_assoc,
        List.singleton_append]

theorem run_inSingle (c : Char) (w : List Char) :
    run ⟨done, some w, .single, false⟩ (Quoted.inSingle c) =
      ⟨done, some (c :: w), .single, false⟩ := by
  rw [Quoted.inSingle]
  split
  · rename_i hquote
    rw [hquote]
    rfl
  · rename_i hquote
    exact run_single (by simpa using Ne.symm hquote)

theorem run_inDouble (c : Char) (w : List Char) :
    run ⟨done, some w, .double, m⟩ (Quoted.inDouble c) = ⟨done, some (c :: w), .double, m⟩ := by
  rw [Quoted.inDouble]
  split
  · rename_i hescapable
    simp [step, push, isDoubleEscapable_iff.mpr hescapable]
  · rename_i hescapable
    have hquote : c ≠ '"' := by
      rintro rfl
      exact hescapable (by decide)
    have hbackslash : c ≠ '\\' := by
      rintro rfl
      exact hescapable (by decide)
    simp [step, push, hquote, hbackslash]

theorem run_escaped (c : Char) :
    run ⟨done, word, .bare, m⟩ ['\\', c] = ⟨done, some (c :: word.getD []), .bare, false⟩ := rfl

/-- Behind a quoted word the reader stands outside quotes, with the word and without a mark. -/
theorem run_quoted (q : Quoted) :
    run ⟨done, none, .bare, m⟩ q.render = ⟨done, some q.word.toList.reverse, .bare, false⟩ := by
  obtain ⟨text, style, hvisible⟩ := q
  cases style with
  | single =>
      have hopen : step ⟨done, none, .bare, m⟩ '\'' = ⟨done, some [], .single, false⟩ := rfl
      rw [Quoted.render, run_cons, hopen, run_append, run_flatMap run_inSingle, List.append_nil]
      rfl
  | double =>
      have hopen : step ⟨done, none, .bare, m⟩ '"' = ⟨done, some [], .double, false⟩ := rfl
      rw [Quoted.render, run_cons, hopen, run_append, run_flatMap run_inDouble, List.append_nil]
      rfl
  | escaped =>
      obtain ⟨c, cs, htext⟩ := List.exists_cons_of_ne_nil
        (mt String.toList_eq_nil_iff.mp (hvisible rfl))
      simp only [Quoted.render, htext]
      rw [List.flatMap_cons, run_append, run_escaped, run_flatMap fun c w => run_escaped c,
        List.reverse_cons]
      rfl

theorem run_space (space : Space) :
    run ⟨done, some w, .bare, m⟩ space.val.val = ⟨w :: done, none, .bare, m⟩ :=
  run_gap_some space.property

/-- Behind a word come others, each of which ends the one before it. -/
theorem endWord_run_rest (rest : List (Space × Quoted)) :
    (run ⟨done, some w, .bare, false⟩ (rest.flatMap fun r => r.1.val.val ++ r.2.render)).endWord =
      ⟨(rest.map fun r => r.2.word.toList.reverse).reverse ++ w :: done, none, .bare, false⟩ := by
  induction rest generalizing done w with
  | nil => rfl
  | cons r rest ih =>
      rw [List.flatMap_cons, run_append, run_append, run_space, run_quoted, ih, List.map_cons,
        List.reverse_cons, List.append_assoc, List.singleton_append]

/-- All words have been read once the last one has ended, and nothing is marked. -/
theorem endWord_run_typedWords (ws : TypedWords) :
    (empty.run ws.render).endWord =
      ⟨((ws.argv.map String.toList).map List.reverse).reverse, none, .bare, false⟩ := by
  cases ws with
  | none => rfl
  | words first rest =>
      rw [TypedWords.render, run_append, empty, run_quoted, endWord_run_rest]
      simp [TypedWords.argv]

end Lexer

namespace Typed

/-- Every command can be typed. In whichever way each of its words is quoted, and whatever blanks
stand between them, the line asks for that command. -/
theorem ofLine_line :
    (∀ c : Command, ∃ t : Typed, t.command = c) ∧
    ∀ t : Typed, Command.ofLine t.line = t.command := by
  constructor
  · rintro ⟨argv, background⟩
    cases argv with
    | nil => exact ⟨⟨.none, background⟩, rfl⟩
    | cons first rest =>
        let quote (word : String) : Quoted := ⟨word, .single, nofun⟩
        let space : Space := ⟨⟨[' '], List.forall_mem_singleton.mpr rfl⟩, List.cons_ne_nil _ _⟩
        refine ⟨⟨.words (quote first) (rest.map fun word => (space, quote word)), background⟩, ?_⟩
        simp [command, TypedWords.argv, quote, Function.comp_def]
  · intro t
    have hend := Lexer.endWord_run_typedWords t.words
    have hbare : (Lexer.empty.run t.words.render).quoting = .bare := by
      rw [← Lexer.quoting_endWord, hend]
    have htexts : (t.words.argv.map String.toList).map String.ofList = t.words.argv := by
      simp
    rw [Command.ofLine, line, command, String.toList_append, String.toList_ofList, Lexer.run_append]
    cases t.background with
    | false =>
        change (Lexer.empty.run t.words.render).command = _
        rw [← Lexer.command_endWord _ hbare, hend, Lexer.command_of_not_marked, htexts]
    | true =>
        -- The blank ends the last word, so that the marker is a word of its own and goes with it.
        change (((Lexer.empty.run t.words.render).step ' ').step '&').command = _
        rw [Lexer.step_space hbare, hend, Lexer.command_step_ampersand rfl]
        exact congrArg (Command.mk · true) ((Lexer.texts_reverse _).trans htexts)

/-- Of two arguments, the first one has each kind of quote in it and the second one is empty. -/
example :
    let tab : Space := ⟨⟨['\t'], List.forall_mem_singleton.mpr rfl⟩, by decide⟩
    let words : TypedWords :=
      .words ⟨"echo", .escaped, by decide⟩
        [(tab, ⟨"it's \"$\"", .single, nofun⟩), (tab, ⟨"", .double, nofun⟩)]
    line ⟨words, true⟩ = "\\e\\c\\h\\o\t'it'\\''s \"$\"'\t\"\" &" := by
  decide

end Typed

end LineShell
