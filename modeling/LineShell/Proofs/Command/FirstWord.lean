import Mathlib.Tactic.SplitIfs
import LineShell.Command.EventId
import LineShell.Command.Lexer

/-!
# The first word of a line

Whether a line recalls an earlier one, and which, is decided by its first word alone. What follows
that word on the line, a background marker included, does not change the answer.
-/

namespace LineShell

namespace Lexer

/-! ## Words that have ended -/

@[simp] theorem marked_endWord (l : Lexer) : l.endWord.marked = l.marked := by
  cases l with
  | mk words word quoting marked => cases word <;> rfl

@[simp] theorem quoting_endWord (l : Lexer) : l.endWord.quoting = l.quoting := by
  cases l with
  | mk words word quoting marked => cases word <;> rfl

@[simp] theorem endWord_endWord (l : Lexer) : l.endWord.endWord = l.endWord := by
  cases l with
  | mk words word quoting marked => cases word <;> rfl

@[simp] theorem words_endWord_quoting (l : Lexer) (q : Quoting) :
    ({ l with quoting := q } : Lexer).endWord.words = l.endWord.words := by
  cases l with
  | mk words word quoting marked => cases word <;> rfl

theorem words_suffix_endWord (l : Lexer) : l.words <:+ l.endWord.words := by
  rw [endWord]
  split
  · exact List.suffix_rfl
  · exact List.suffix_cons _ _

theorem words_suffix_step (l : Lexer) (c : Char) : l.words <:+ (l.step c).words := by
  rw [step]
  split
  · rw [bare]
    split_ifs
    · exact List.suffix_rfl
    · exact List.suffix_rfl
    · exact List.suffix_rfl
    · exact words_suffix_endWord l
    · exact List.suffix_rfl
  · exact List.suffix_rfl
  · split <;> exact List.suffix_rfl
  · split_ifs <;> exact List.suffix_rfl
  · dsimp only
    split <;> exact List.suffix_rfl

/-- A word that has ended stays what it is, whatever is read after it. -/
theorem words_suffix_run (l : Lexer) (cs : List Char) : l.words <:+ (l.run cs).words := by
  induction cs generalizing l with
  | nil => exact List.suffix_rfl
  | cons c cs ih => exact (words_suffix_step l c).trans (ih _)

theorem words_suffix_finish (l : Lexer) : l.words <:+ l.finish := by
  simp only [finish]
  split
  · exact words_suffix_endWord (l.push '\\')
  · exact words_suffix_endWord l

theorem finish_of_bare {l : Lexer} (h : l.quoting = .bare) : l.finish = l.endWord.words := by
  simp [finish, h]

/-! ## The mark -/

/-- A mark stands for an ampersand that was added last. -/
def MarkStands (l : Lexer) : Prop :=
  l.marked = true → (l.quoting = .bare ∨ l.quoting = .escaped) ∧
    ∃ w ws, l.endWord.words = ('&' :: w) :: ws

theorem markStands_empty : MarkStands empty := nofun

theorem MarkStands.bare {l : Lexer} (h : MarkStands l) (hq : l.quoting = .bare) (c : Char) :
    MarkStands (l.bare c) := by
  rw [Lexer.bare]
  split_ifs with _ _ _ hblank
  · exact nofun
  · exact nofun
  · intro hm
    exact ⟨.inr rfl, by simpa using (h hm).2⟩
  · intro hm
    rw [marked_endWord] at hm
    rw [quoting_endWord, endWord_endWord]
    exact h hm
  · intro hm
    obtain rfl : c = '&' := of_decide_eq_true hm
    exact ⟨.inl hq, l.word.getD [], l.words, rfl⟩

theorem MarkStands.step {l : Lexer} (h : MarkStands l) (c : Char) : MarkStands (l.step c) := by
  -- Between quotes there is no mark: the quote that was opened has cleared it.
  have hquoted : ∀ l' : Lexer, l'.marked = l.marked → l.quoting ≠ .bare → l.quoting ≠ .escaped →
      MarkStands l' := by
    intro l' hl hb he hm
    rcases (h (hl ▸ hm)).1 with hq | hq
    · exact absurd hq hb
    · exact absurd hq he
  rw [Lexer.step]
  split
  · rename_i hq
    exact h.bare hq c
  · exact nofun
  · rename_i hq
    split_ifs <;> exact hquoted _ rfl (by simp [hq]) (by simp [hq])
  · rename_i hq
    split_ifs <;> exact hquoted _ rfl (by simp [hq]) (by simp [hq])
  · rename_i hq
    dsimp only
    split_ifs <;> exact hquoted _ rfl (by simp [hq]) (by simp [hq])

theorem MarkStands.run {l : Lexer} (h : MarkStands l) (cs : List Char) : MarkStands (l.run cs) := by
  induction cs generalizing l with
  | nil => exact h
  | cons c cs ih => exact ih (h.step c)

theorem MarkStands.finish {l : Lexer} (h : MarkStands l) (hm : l.marked = true) :
    ∃ w ws, l.finish = ('&' :: w) :: ws := by
  obtain ⟨hq, hw⟩ := h hm
  rcases hq with hq | hq <;> simpa [Lexer.finish, hq] using hw

end Lexer

/-! ## The number that a line recalls -/

/-- The number that a word recalls, if it does. -/
def EventId.ofWord? (word : String) : Option Nat :=
  if IsRecall word then some (ofWord word) else none

/-- The number that a command recalls, if its first word does. -/
def Command.recalled? (c : Command) : Option Nat :=
  c.argv.head?.bind EventId.ofWord?

theorem Command.recalled?_of_cons {c : Command} {word : String} {words : List String}
    (h : c.argv = word :: words) :
    c.recalled? = if EventId.IsRecall word then some (EventId.ofWord word) else none := by
  rw [recalled?, h, List.head?_cons, Option.bind_some, EventId.ofWord?]

theorem Command.recalled?_eq_some_iff {c : Command} {n : Nat} :
    c.recalled? = some n ↔
      ∃ word words, c.argv = word :: words ∧ EventId.IsRecall word ∧ EventId.ofWord word = n := by
  cases hargv : c.argv with
  | nil => simp [recalled?, hargv]
  | cons word words => simp [recalled?_of_cons hargv]

namespace EventId

theorem dropWhile_append_singleton {p : Char → Bool} {a : Char} (ha : p a = false)
    (cs : List Char) : (cs ++ [a]).dropWhile p = cs.dropWhile p ++ [a] := by
  induction cs with
  | nil => simp [ha]
  | cons c cs ih =>
      rw [List.cons_append, List.dropWhile_cons, List.dropWhile_cons]
      split
      · exact ih
      · rfl

theorem takeWhile_append_singleton {p : Char → Bool} {a : Char} (ha : p a = false)
    (cs : List Char) : (cs ++ [a]).takeWhile p = cs.takeWhile p := by
  induction cs with
  | nil => simp [ha]
  | cons c cs ih =>
      rw [List.cons_append, List.takeWhile_cons, List.takeWhile_cons, ih]

theorem skipPlus_append_ampersand (cs : List Char) :
    Numeral.skipPlus (cs ++ ['&']) = Numeral.skipPlus cs ++ ['&'] := by
  cases cs with
  | nil => rfl
  | cons c cs =>
      rw [List.cons_append]
      by_cases hc : c = '+'
      · subst hc
        rfl
      · simp [Numeral.skipPlus, hc]

theorem skipSigil_append_ampersand (cs : List Char) :
    skipSigil (cs ++ ['&']) = skipSigil cs ++ ['&'] := by
  cases cs with
  | nil => rfl
  | cons c cs =>
      rw [List.cons_append, skipSigil, skipSigil]
      split <;> rfl

/-- An ampersand behind a word is no part of its number. -/
theorem ofWord?_append_ampersand (cs : List Char) :
    ofWord? (String.ofList (cs ++ ['&'])) = ofWord? (String.ofList cs) := by
  have hrecall : IsRecall (String.ofList (cs ++ ['&'])) ↔ IsRecall (String.ofList cs) := by
    rw [IsRecall, IsRecall, String.toList_ofList, String.toList_ofList]
    cases cs with
    | nil => decide
    | cons c cs => rfl
  have hnumber : ofWord (String.ofList (cs ++ ['&'])) = ofWord (String.ofList cs) := by
    rw [ofWord, ofWord, String.toList_ofList, String.toList_ofList, skipSigil_append_ampersand,
      Text.trimStart, Text.trimStart, dropWhile_append_singleton (by decide),
      skipPlus_append_ampersand, takeWhile_append_singleton (by decide)]
  rw [ofWord?, ofWord?, hnumber]
  simp only [hrecall]

end EventId

namespace Lexer

/-- The number that the first of some words recalls. -/
def recalledBy? (ws : List (List Char)) : Option Nat :=
  ws.getLast?.bind fun w => EventId.ofWord? (String.ofList w.reverse)

theorem recalled?_texts (ws : List (List Char)) (background : Bool) :
    Command.recalled? { argv := texts ws, background } = recalledBy? ws := by
  rw [Command.recalled?, texts, List.head?_reverse, List.getLast?_map, Option.bind_map]
  rfl

theorem recalledBy?_cons_ampersand (w : List Char) (ws : List (List Char)) :
    recalledBy? (('&' :: w) :: ws) = recalledBy? (w :: ws) := by
  cases ws with
  | nil =>
      change EventId.ofWord? (String.ofList ('&' :: w).reverse) = _
      rw [List.reverse_cons, EventId.ofWord?_append_ampersand]
      rfl
  | cons v ws => rw [recalledBy?, recalledBy?, List.getLast?_cons_cons, List.getLast?_cons_cons]

theorem recalledBy?_nil_cons (ws : List (List Char)) : recalledBy? ([] :: ws) = recalledBy? ws := by
  cases ws with
  | nil => decide
  | cons v ws => rw [recalledBy?, recalledBy?, List.getLast?_cons_cons]

/-- Words that are read behind the first one do not change what is recalled. -/
theorem recalledBy?_append_of_ne_nil {ws : List (List Char)} (hws : ws ≠ [])
    (more : List (List Char)) : recalledBy? (more ++ ws) = recalledBy? ws := by
  rw [recalledBy?, recalledBy?, List.getLast?_append, List.getLast?_eq_some_getLast hws,
    Option.some_or]

/-- A marking ampersand that leaves the last word does not change what is recalled. -/
theorem recalled?_command {l : Lexer} (h : MarkStands l) :
    l.command.recalled? = recalledBy? l.finish := by
  rw [command]
  split
  · rename_i c ws hm hf
    obtain ⟨w', ws', hf'⟩ := h.finish hm
    cases hf.symm.trans hf'
    rw [recalled?_texts, hf, recalledBy?_cons_ampersand, recalledBy?_nil_cons]
  · rename_i c w ws _ hm hf
    obtain ⟨w', ws', hf'⟩ := h.finish hm
    cases hf.symm.trans hf'
    rw [recalled?_texts, hf, recalledBy?_cons_ampersand]
  · exact recalled?_texts _ _

theorem finish_ne_nil_of_recalledBy? {ws : List (List Char)} {n : Nat}
    (h : recalledBy? ws = some n) : ws ≠ [] := by
  rintro rfl
  cases h

/-! ## Lines that go on -/

/-- What may follow a line without changing the words it has: a blank and anything behind it, or a
background marker. -/
def IsSequel (tail : List Char) : Prop :=
  tail = ['&'] ∨ ∃ b cs, tail = b :: cs ∧ Text.isBlank b = true

theorem recalledBy?_run_blank {l : Lexer} (hq : l.quoting = .bare) (hne : l.finish ≠ []) {b : Char}
    (hb : Text.isBlank b = true) (cs : List Char) :
    recalledBy? (l.run (b :: cs)).finish = recalledBy? l.finish := by
  have hstep : l.step b = l.endWord := by
    have hquote : ∀ q : Char, Text.isBlank q = false → b ≠ q := by
      rintro q hq rfl
      rw [hb] at hq
      cases hq
    rw [step, hq]
    simp [bare, hquote '\'' (by decide), hquote '"' (by decide), hquote '\\' (by decide), hb]
  obtain ⟨more, hmore⟩ : l.finish <:+ (l.run (b :: cs)).finish := by
    rw [run_cons, hstep, finish_of_bare hq]
    exact (words_suffix_run _ cs).trans (words_suffix_finish _)
  rw [← hmore, recalledBy?_append_of_ne_nil hne]

theorem recalledBy?_run_ampersand {l : Lexer} (hq : l.quoting = .bare) :
    recalledBy? (l.run ['&']).finish = recalledBy? l.finish := by
  have hrun : (l.run ['&']).finish = ('&' :: l.word.getD []) :: l.words := by
    have hstep : l.step '&' = { l.push '&' with marked := true } := by
      rw [step, hq]
      rfl
    have hbare : (l.step '&').quoting = .bare := by
      rw [hstep]
      exact hq
    rw [run_cons, run_nil, finish_of_bare hbare, hstep]
    rfl
  rw [hrun, recalledBy?_cons_ampersand, finish_of_bare hq, endWord]
  cases l.word with
  | none => exact recalledBy?_nil_cons _
  | some w => rfl

end Lexer

/-- A line that ends outside quotes recalls what it recalls whatever words follow, and with a
background marker behind it. -/
theorem Command.recalled?_ofLine_append {line tail : String} {n : Nat}
    (hq : (Lexer.empty.run line.toList).quoting = .bare) (ht : Lexer.IsSequel tail.toList)
    (h : (ofLine line).recalled? = some n) : (ofLine (line ++ tail)).recalled? = some n := by
  have hstands : ∀ cs, Lexer.MarkStands (Lexer.empty.run cs) := Lexer.markStands_empty.run
  rw [ofLine, Lexer.recalled?_command (hstands _)] at h ⊢
  rw [String.toList_append, Lexer.run_append]
  rcases ht with ht | ⟨b, cs, ht, hb⟩
  · rw [ht, Lexer.recalledBy?_run_ampersand hq, h]
  · rw [ht, Lexer.recalledBy?_run_blank hq (Lexer.finish_ne_nil_of_recalledBy? h) hb, h]

end LineShell
