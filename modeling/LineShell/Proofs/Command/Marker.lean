import LineShell.Proofs.Command.FirstWord
import LineShell.Proofs.Command.Reading

/-!
# Lines with a background marker behind them

A line that ends outside quotes is put into the background by a marker behind it. Behind a blank the
marker is a word of its own, and goes with it. Without the blank it joins the last word, unless that
has ended; and when it goes, a word with nothing else in it goes as well, even one that quotes had
begun. Main statement: `Command.ofLine_append_marker`.
-/

namespace LineShell

namespace Lexer

/-! ## Empty words at the end of a line -/

/-- Between quotes there is a word, which may be empty so far. -/
def QuotesBegin (l : Lexer) : Prop :=
  l.quoting = .bare ∨ l.quoting = .escaped ∨ ∃ w, l.word = some w

theorem quotesBegin_empty : QuotesBegin empty := .inl rfl

theorem QuotesBegin.step {l : Lexer} (h : QuotesBegin l) (c : Char) : QuotesBegin (l.step c) := by
  rw [Lexer.step]
  split
  · rename_i hq
    rw [bare]
    split_ifs
    · exact .inr (.inr ⟨_, rfl⟩)
    · exact .inr (.inr ⟨_, rfl⟩)
    · exact .inr (.inl rfl)
    · exact .inl ((quoting_endWord l).trans hq)
    · exact .inl hq
  · exact .inl rfl
  · split
    · exact .inl rfl
    · exact .inr (.inr ⟨_, rfl⟩)
  · rename_i hq
    have hword : ∃ w, l.word = some w := by simpa [QuotesBegin, hq] using h
    split_ifs
    · exact .inl rfl
    · exact .inr (.inr hword)
    · exact .inr (.inr ⟨_, rfl⟩)
  · dsimp only
    split <;> exact .inr (.inr ⟨_, rfl⟩)

theorem QuotesBegin.run {l : Lexer} (h : QuotesBegin l) (cs : List Char) :
    QuotesBegin (l.run cs) := by
  induction cs generalizing l with
  | nil => exact h
  | cons c cs ih => exact ih (h.step c)

/-- A character behind which the reader stands outside quotes has ended a word, or is its last one,
or is the closing quote. -/
theorem step_cases_of_bare {l : Lexer} {c : Char} (hq : (l.step c).quoting = .bare) :
    (Text.isBlank c = true ∧ (l.step c).word = none) ∨ (∃ w, (l.step c).word = some (c :: w)) ∨
      Text.isBlank c = false ∧ (l.quoting = .single ∨ l.quoting = .double) ∧
        (l.step c).word = l.word := by
  obtain ⟨words, word, quoting, marked⟩ := l
  cases quoting with
  | bare =>
      by_cases hsingle : c = '\''
      · subst hsingle
        cases hq
      by_cases hdouble : c = '"'
      · subst hdouble
        cases hq
      by_cases hbackslash : c = '\\'
      · subst hbackslash
        cases hq
      by_cases hblank : Text.isBlank c = true
      · rw [step_blank hblank]
        cases word <;> exact .inl ⟨hblank, rfl⟩
      · rw [step_bare ⟨hsingle, hdouble, hbackslash, Bool.eq_false_iff.mpr hblank⟩]
        exact .inr (.inl ⟨_, rfl⟩)
  | escaped => exact .inr (.inl ⟨_, rfl⟩)
  | single =>
      by_cases hquote : c = '\''
      · subst hquote
        exact .inr (.inr ⟨by decide, .inl rfl, rfl⟩)
      · simp [step, hquote, push] at hq
  | double =>
      by_cases hquote : c = '"'
      · subst hquote
        exact .inr (.inr ⟨by decide, .inr rfl, rfl⟩)
      · by_cases hbackslash : c = '\\' <;> simp [step, hquote, hbackslash, push] at hq
  | doubleEscaped => by_cases hc : isDoubleEscapable c <;> simp [step, hc, push] at hq

/-- An empty word that has not ended is the last one, and no blank is the last character. -/
theorem word_step_eq_nil_iff {l : Lexer} (h : QuotesBegin l) {c : Char}
    (hq : (l.step c).quoting = .bare) :
    (l.step c).word = some [] ↔
      (l.step c).finish.head? = some [] ∧ Text.isBlank c = false := by
  rw [finish_of_bare hq, endWord]
  rcases step_cases_of_bare hq with ⟨hblank, hword⟩ | ⟨w, hword⟩ | ⟨hblank, hquoted, hword⟩
  · simp [hword, hblank]
  · simp [hword]
  · obtain ⟨w, hw⟩ : ∃ w, l.word = some w := by
      rcases h with hbare | hescaped | hword
      · simp [hbare] at hquoted
      · simp [hescaped] at hquoted
      · exact hword
    simp [hword, hw, hblank]

/-! ## The marker -/

theorem background_command {l : Lexer} (h : MarkStands l) : l.command.background = l.marked := by
  cases hm : l.marked with
  | false => rw [command, hm]
  | true =>
      obtain ⟨w, ws, hfinish⟩ := h.finish hm
      rw [command, hm, hfinish]
      cases w <;> rfl

theorem argv_command {l : Lexer} (hm : l.marked = false) : l.command.argv = texts l.finish := by
  rw [command, hm]

theorem step_space {l : Lexer} (hq : l.quoting = .bare) : l.step ' ' = l.endWord := by
  obtain ⟨words, word, quoting, marked⟩ := l
  obtain rfl : quoting = .bare := hq
  exact step_blank (by decide)

theorem step_ampersand {l : Lexer} (hq : l.quoting = .bare) :
    l.step '&' = { l.push '&' with marked := true } := by
  rw [step, hq]
  rfl

/-- The marker goes, and so does the word that it stands in if nothing else is in that. -/
theorem command_step_ampersand {l : Lexer} (hq : l.quoting = .bare) :
    (l.step '&').command =
      { argv := texts (if l.word.getD [] = [] then l.words else l.word.getD [] :: l.words)
        background := true } := by
  have hfinish : ({ l.push '&' with marked := true } : Lexer).finish =
      ('&' :: l.word.getD []) :: l.words := by
    rw [finish_of_bare (by exact hq)]
    rfl
  rw [step_ampersand hq, command, hfinish]
  cases l.word.getD [] <;> rfl

theorem texts_cons (w : List Char) (ws : List (List Char)) :
    texts (w :: ws) = texts ws ++ [String.ofList w.reverse] := by
  rw [texts, texts, List.map_cons, List.reverse_cons]

theorem getLast?_texts_eq_empty_iff {ws : List (List Char)} :
    (texts ws).getLast? = some "" ↔ ws.head? = some [] := by
  cases ws with
  | nil => simp [texts]
  | cons w ws => simp [texts_cons]

end Lexer

namespace Command

open Lexer

/-- The line ends outside quotes, and not behind a backslash that would escape a character. -/
def EndsBare (line : String) : Prop :=
  (empty.run line.toList).quoting = .bare

/-- The last word of the line is empty, and no blank stands behind it. -/
def EndsInEmptyWord (line : String) : Prop :=
  (ofLine line).argv.getLast? = some "" ∧ line.toList.getLast?.any Text.isBlank = false

instance (line : String) : Decidable (EndsBare line) :=
  inferInstanceAs (Decidable (_ = _))

instance (line : String) : Decidable (EndsInEmptyWord line) :=
  inferInstanceAs (Decidable (_ ∧ _))

/-- The reader of a line holds an empty word at its end if there is one. -/
theorem endsInEmptyWord_iff {line : String} (hq : EndsBare line)
    (hm : (empty.run line.toList).marked = false) :
    EndsInEmptyWord line ↔ (empty.run line.toList).word = some [] := by
  rw [EndsInEmptyWord, ofLine, argv_command hm, getLast?_texts_eq_empty_iff]
  unfold EndsBare at hq
  rcases List.eq_nil_or_concat line.toList with hline | ⟨cs, c, hline⟩
  · rw [hline]
    simp [finish, empty, endWord]
  · rw [List.concat_eq_append] at hline
    rw [hline, run_append] at hq ⊢
    rw [run_cons, run_nil, word_step_eq_nil_iff (quotesBegin_empty.run cs) hq]
    simp

/-- A marker behind a line puts it into the background and changes none of its words, but for one
that is lost: an empty word that the marker joins. -/
theorem ofLine_append_marker {line : String} (hq : EndsBare line)
    (hb : (ofLine line).background = false) :
    ofLine (line ++ " &") = { argv := (ofLine line).argv, background := true } ∧
    (ofLine (line ++ "&")).background = true ∧
    ((ofLine (line ++ "&")).argv = (ofLine line).argv ↔ ¬ EndsInEmptyWord line) ∧
    (EndsInEmptyWord line → (ofLine line).argv = (ofLine (line ++ "&")).argv ++ [""]) := by
  have hm : (empty.run line.toList).marked = false := by
    rw [← background_command (markStands_empty.run _)]
    exact hb
  have hempty := endsInEmptyWord_iff hq hm
  have hargv : (ofLine line).argv = texts (empty.run line.toList).endWord.words := by
    rw [ofLine, argv_command hm, finish_of_bare hq]
  have hspaced : ofLine (line ++ " &") = ((empty.run line.toList).endWord.step '&').command := by
    rw [ofLine, String.toList_append, run_append, ← step_space hq]
    rfl
  have hattached : ofLine (line ++ "&") = ((empty.run line.toList).step '&').command := by
    rw [ofLine, String.toList_append, run_append]
    rfl
  rw [hspaced, hattached, hargv, hempty, command_step_ampersand hq,
    command_step_ampersand ((quoting_endWord _).trans hq)]
  generalize empty.run line.toList = l
  obtain ⟨words, word, quoting, marked⟩ := l
  cases word with
  | none => simp [endWord]
  | some w =>
      by_cases hw : w = []
      · subst hw
        simp [endWord, texts_cons]
      · simp [endWord, hw]

/-- An empty word between quotes is lost to a marker that joins it, and kept from one behind a
blank. -/
theorem ofLine_append_ampersand_drops :
    EndsBare "echo ''" ∧ ofLine "echo ''" = { argv := ["echo", ""], background := false } ∧
      ofLine ("echo ''" ++ "&") = { argv := ["echo"], background := true } ∧
      ofLine ("echo ''" ++ " &") = { argv := ["echo", ""], background := true } ∧
      (ofLine ("echo ''" ++ "&")).argv ≠ (ofLine "echo ''").argv := by
  decide

/-- Empty words that are not at the end of the line, or that a blank has ended, are kept. -/
theorem ofLine_append_marker_kept :
    EndsBare "echo '' \\& \"\" " ∧ (ofLine "echo '' \\& \"\" ").background = false ∧
      (ofLine ("echo '' \\& \"\" " ++ "&")).argv = ["echo", "", "&", ""] := by
  have hq : EndsBare "echo '' \\& \"\" " := by decide
  have hb : (ofLine "echo '' \\& \"\" ").background = false := by decide
  obtain ⟨-, -, hargv, -⟩ := ofLine_append_marker hq hb
  refine ⟨hq, hb, ?_⟩
  rw [hargv.mpr (by decide)]
  decide

end Command

end LineShell
