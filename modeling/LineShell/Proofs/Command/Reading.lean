import LineShell.Command.Lexer
import LineShell.Proofs.Command.Grammar

/-!
# Lines and their trees

Every line has a tree, and whatever tree it has, it is read as the tree says: the words are the
values of the words of the tree, and an ampersand that ends the last of them asks for the
background.
-/

namespace LineShell

open Grammar

namespace Lexer

variable {done : List (List Char)} {w : List Char} {word : Option (List Char)} {m : Bool}

/-! ## Single characters -/

theorem isDoubleEscapable_iff {c : Char} : isDoubleEscapable c = true ↔ c ∈ escapable := by
  simp [isDoubleEscapable, escapable, or_assoc]

theorem isDoubleEscapable_eq_false {c : Char} (h : c ∉ escapable) :
    isDoubleEscapable c = false := by
  rw [Bool.eq_false_iff]
  exact fun hc => h (isDoubleEscapable_iff.mp hc)

theorem step_bare {c : Char} (h : IsBare c) :
    step ⟨done, word, .bare, m⟩ c = ⟨done, some (c :: word.getD []), .bare, c = '&'⟩ := by
  simp [step, Lexer.bare, push, h.ne_single, h.ne_double, h.ne_backslash, h.not_blank]

theorem step_blank {b : Char} (h : Text.isBlank b = true) :
    step ⟨done, word, .bare, m⟩ b = endWord ⟨done, word, .bare, m⟩ := by
  have hne : ∀ q : Char, Text.isBlank q = false → b ≠ q := by
    rintro q hq rfl
    rw [h] at hq
    cases hq
  simp [step, Lexer.bare, hne '\'' (by decide), hne '"' (by decide), hne '\\' (by decide), h]

/-! ## Bodies between quotes -/

theorem run_single {body : List Char} (h : '\'' ∉ body) :
    run ⟨done, some w, .single, m⟩ body = ⟨done, some (body.reverse ++ w), .single, m⟩ := by
  induction body generalizing w with
  | nil => rfl
  | cons c body ih =>
      rw [List.mem_cons, not_or] at h
      have hstep : step ⟨done, some w, .single, m⟩ c = ⟨done, some (c :: w), .single, m⟩ := by
        simp [step, push, Ne.symm h.1]
      rw [run_cons, hstep, ih h.2, List.reverse_cons, List.append_assoc, List.singleton_append]

/-- A backslash that comes before nothing it could escape stands for itself. At the end of the line
this shows only in the command: the reader still waits for what comes behind the backslash. -/
theorem command_run_backslash (cs : List Char) (h : ∀ c ∈ cs.head?, c ∉ escapable) :
    (run ⟨done, some w, .double, m⟩ ('\\' :: cs)).command =
      (run ⟨done, some ('\\' :: w), .double, m⟩ cs).command := by
  cases cs with
  | nil => rfl
  | cons c cs =>
      have hc : c ∉ escapable := h c rfl
      have hquote : c ≠ '"' := by
        rintro rfl
        exact hc (by decide)
      have hbackslash : c ≠ '\\' := by
        rintro rfl
        exact hc (by decide)
      have hescaped : step ⟨done, some w, .doubleEscaped, m⟩ c =
          ⟨done, some (c :: '\\' :: w), .double, m⟩ := by
        simp [step, push, isDoubleEscapable_eq_false hc]
      have hplain : step ⟨done, some ('\\' :: w), .double, m⟩ c =
          ⟨done, some (c :: '\\' :: w), .double, m⟩ := by
        simp [step, push, hquote, hbackslash]
      rw [run_cons, run_cons, run_cons, hplain]
      exact congrArg (fun l => (run l cs).command) hescaped

theorem command_run_items {next : Option Char} {is : List Item} {cs : List Char}
    (h : Item.Separate next is) (hnext : cs.head? = next) :
    (run ⟨done, some w, .double, m⟩ (is.flatMap Item.render ++ cs)).command =
      (run ⟨done, some ((is.flatMap Item.value).reverse ++ w), .double, m⟩ cs).command := by
  induction is generalizing w with
  | nil => rfl
  | cons i is ih =>
      rw [List.flatMap_cons, List.flatMap_cons, List.append_assoc, List.reverse_append,
        List.append_assoc]
      cases i with
      | plain c hc =>
          have hstep : step ⟨done, some w, .double, m⟩ c = ⟨done, some (c :: w), .double, m⟩ := by
            simp [step, push, hc.1, hc.2]
          rw [← ih h]
          exact congrArg (fun l => (run l (is.flatMap Item.render ++ cs)).command) hstep
      | escaped c hc =>
          have hstep : step ⟨done, some w, .doubleEscaped, m⟩ c =
              ⟨done, some (c :: w), .double, m⟩ := by
            simp [step, push, isDoubleEscapable_iff.mpr hc]
          rw [← ih h]
          exact congrArg (fun l => (run l (is.flatMap Item.render ++ cs)).command) hstep
      | backslash =>
          rw [← ih h.2]
          refine command_run_backslash (is.flatMap Item.render ++ cs) ?_
          rw [List.head?_append, hnext]
          exact h.1

/-! ## Pieces -/

theorem command_run_piece (p : Piece) (cs : List Char) :
    (run ⟨done, word, .bare, m⟩ (p.render ++ cs)).command =
      (run ⟨done, some (p.value.reverse ++ word.getD []), .bare, p.isMark⟩ cs).command := by
  cases p with
  | bare c h =>
      exact congrArg (fun l => (run l cs).command) (step_bare h)
  | escaped c => rfl
  | single body h =>
      have hrun : run ⟨done, word, .bare, m⟩ ((Piece.single body h).render ++ cs) =
          run (run ⟨done, some (word.getD []), .single, false⟩ body) ('\'' :: cs) := by
        rw [← run_append, Piece.render, List.cons_append, List.append_assoc]
        rfl
      rw [hrun, run_single h]
      rfl
  | double body =>
      have hrun : run ⟨done, word, .bare, m⟩ ((Piece.double body).render ++ cs) =
          run ⟨done, some (word.getD []), .double, false⟩
            (body.items.flatMap Item.render ++ '"' :: cs) := by
        rw [Piece.render, List.cons_append, List.append_assoc]
        rfl
      rw [hrun, command_run_items body.separate rfl]
      rfl

theorem command_run_openPiece (p : OpenPiece) :
    (run ⟨done, word, .bare, m⟩ p.render).command =
      command ⟨done, some (p.value.reverse ++ word.getD []), .bare, false⟩ := by
  cases p with
  | single body h =>
      have hrun : run ⟨done, word, .bare, m⟩ (OpenPiece.single body h).render =
          run ⟨done, some (word.getD []), .single, false⟩ body := rfl
      rw [hrun, run_single h]
      rfl
  | double body =>
      have hrun : run ⟨done, word, .bare, m⟩ (OpenPiece.double body).render =
          run ⟨done, some (word.getD []), .double, false⟩
            (body.items.flatMap Item.render ++ []) := by
        rw [List.append_nil]
        rfl
      rw [hrun, command_run_items body.separate rfl]
      rfl

/-! ## Words -/

/-- Pieces add to the word that has begun, or begin one. What follows them asks only for the
characters that the word has by then. -/
theorem exists_command_run_front (front : List Piece) (cs : List Char)
    (word : Option (List Char)) (m : Bool) :
    ∃ word' m', word'.getD [] = (front.flatMap Piece.value).reverse ++ word.getD [] ∧
      (run ⟨done, word, .bare, m⟩ (front.flatMap Piece.render ++ cs)).command =
        (run ⟨done, word', .bare, m'⟩ cs).command := by
  induction front generalizing word m with
  | nil => exact ⟨word, m, rfl, rfl⟩
  | cons p front ih =>
      obtain ⟨word', m', hword, hrun⟩ := ih (some (p.value.reverse ++ word.getD [])) p.isMark
      refine ⟨word', m', ?_, ?_⟩
      · rw [hword, List.flatMap_cons, List.reverse_append, List.append_assoc]
        rfl
      · rw [List.flatMap_cons, List.append_assoc, command_run_piece, hrun]

theorem command_run_word (front : List Piece) (p : Piece) (cs : List Char) :
    (run ⟨done, none, .bare, m⟩ (front.flatMap Piece.render ++ (p.render ++ cs))).command =
      (run ⟨done, some (front.flatMap Piece.value ++ p.value).reverse, .bare, p.isMark⟩
        cs).command := by
  obtain ⟨word, m', hword, hrun⟩ := exists_command_run_front front (p.render ++ cs) none m
  rw [hrun, command_run_piece, hword, Option.getD_none, List.append_nil, List.reverse_append]

theorem command_run_unclosed (front : List Piece) (p : OpenPiece) :
    (run ⟨done, none, .bare, m⟩ (front.flatMap Piece.render ++ p.render)).command =
      command ⟨done, some (front.flatMap Piece.value ++ p.value).reverse, .bare, false⟩ := by
  obtain ⟨word, m', hword, hrun⟩ := exists_command_run_front front p.render none m
  rw [hrun, command_run_openPiece, hword, Option.getD_none, List.append_nil, List.reverse_append]

theorem run_gap_none (gap : Gap) : run ⟨done, none, .bare, m⟩ gap.val = ⟨done, none, .bare, m⟩ := by
  obtain ⟨bs, hbs⟩ := gap
  induction bs with
  | nil => rfl
  | cons b bs ih =>
      rw [run_cons, step_blank (hbs b List.mem_cons_self)]
      exact ih fun b hb => hbs b (List.mem_cons_of_mem _ hb)

theorem run_gap_some {gap : Gap} (h : gap.val ≠ []) :
    run ⟨done, some w, .bare, m⟩ gap.val = ⟨w :: done, none, .bare, m⟩ := by
  obtain ⟨bs, hbs⟩ := gap
  cases bs with
  | nil => exact absurd rfl h
  | cons b bs =>
      rw [run_cons, step_blank (hbs b List.mem_cons_self)]
      exact run_gap_none ⟨bs, fun b hb => hbs b (List.mem_cons_of_mem _ hb)⟩

theorem command_run_ending (backslash : Bool) :
    (run ⟨done, word, .bare, m⟩ (ending backslash)).command = command ⟨done, word, .bare, m⟩ := by
  cases backslash with
  | true => cases word <;> rfl
  | false => rfl

theorem command_endWord (l : Lexer) (h : l.quoting = .bare) : l.endWord.command = l.command := by
  obtain ⟨done, word, quoting, m⟩ := l
  obtain rfl : quoting = .bare := h
  cases word <;> rfl

theorem command_run_last (gap : Gap) (backslash : Bool) :
    (run ⟨done, some w, .bare, m⟩ (gap.val ++ ending backslash)).command =
      command ⟨w :: done, none, .bare, m⟩ := by
  rw [run_append]
  by_cases h : gap.val = []
  · rw [h, run_nil, command_run_ending]
    exact (command_endWord ⟨done, some w, .bare, m⟩ rfl).symm
  · rw [run_gap_some h, command_run_ending]

/-- The words that are read are the values of the words of the line, latest first. -/
theorem command_run_words (ws : Words) :
    (run ⟨done, none, .bare, m⟩ ws.render).command =
      command ⟨(ws.values.map List.reverse).reverse ++ done, none, .bare, ws.isMarked⟩ := by
  induction ws generalizing done m with
  | last front p gap backslash =>
      rw [Words.render, command_run_word, command_run_last]
      rfl
  | unclosed front p =>
      rw [Words.render, command_run_unclosed]
      rfl
  | cons front p gap h rest ih =>
      rw [Words.render, command_run_word, run_append, run_gap_some h, ih, Words.values,
        List.map_cons, List.reverse_cons, List.append_assoc]
      rfl

/-! ## Lines -/

theorem texts_reverse (vs : List (List Char)) :
    texts (vs.map List.reverse).reverse = vs.map String.ofList := by
  simp [texts]

theorem command_of_not_marked (vs : List (List Char)) :
    command ⟨(vs.map List.reverse).reverse, none, .bare, false⟩ =
      { argv := vs.map String.ofList, background := false } := by
  rw [← texts_reverse]
  rfl

theorem command_of_marked (vs : List (List Char)) (v : List Char) :
    command ⟨('&' :: v.reverse) :: (vs.map List.reverse).reverse, none, .bare, true⟩ =
      { argv := (if v = [] then vs else vs ++ [v]).map String.ofList, background := true } := by
  by_cases h : v = []
  · rw [if_pos h, h, ← texts_reverse]
    rfl
  · -- A word that is more than its ampersand is told from one that is not by its first character.
    obtain ⟨c, w, hw⟩ := List.exists_cons_of_ne_nil (mt List.reverse_eq_nil_iff.mp h)
    have htexts : texts (v.reverse :: (vs.map List.reverse).reverse) =
        (vs ++ [v]).map String.ofList := by
      rw [← texts_reverse, List.map_append, List.reverse_append]
      rfl
    rw [if_neg h, ← htexts, hw]
    rfl

end Lexer

namespace Grammar

/-- An ampersand that marks a line is the last character of its last word. -/
theorem Words.exists_values_of_isMarked {ws : Words} (h : ws.isMarked = true) :
    ∃ vs v, ws.values = vs ++ [v ++ ['&']] := by
  induction ws with
  | last front p gap backslash =>
      cases p with
      | bare c hc =>
          obtain rfl : c = '&' := of_decide_eq_true h
          exact ⟨[], front.flatMap Piece.value, rfl⟩
      | escaped c => cases h
      | single body hbody => cases h
      | double body => cases h
  | unclosed front p => cases h
  | cons front p gap hgap rest ih =>
      obtain ⟨vs, v, hv⟩ := ih h
      exact ⟨(front.flatMap Piece.value ++ p.value) :: vs, v, by rw [Words.values, hv]; rfl⟩

theorem Tree.exists_values_of_isMarked {t : Tree} (h : t.isMarked = true) :
    ∃ vs v, t.values = vs ++ [v ++ ['&']] := by
  cases t with
  | blank gap backslash => cases h
  | words gap ws => exact Words.exists_values_of_isMarked h

theorem unmark_append_ampersand (vs : List (List Char)) (v : List Char) :
    unmark (vs ++ [v ++ ['&']]) = if v = [] then vs else vs ++ [v] := by
  by_cases h : v = [] <;> simp [unmark, h]

/-- A line is read as its tree says. -/
theorem Tree.ofLine_render (t : Tree) : Command.ofLine (String.ofList t.render) = t.command := by
  rw [Command.ofLine, String.toList_ofList]
  cases t with
  | blank gap backslash =>
      rw [Tree.render, Lexer.run_append, Lexer.empty, Lexer.run_gap_none, Lexer.command_run_ending]
      rfl
  | words gap ws =>
      rw [Tree.render, Lexer.run_append, Lexer.empty, Lexer.run_gap_none, Lexer.command_run_words,
        List.append_nil, Tree.command, Tree.isMarked, Tree.values]
      cases hmark : ws.isMarked with
      | false => exact Lexer.command_of_not_marked ws.values
      | true =>
          obtain ⟨vs, v, hv⟩ := Words.exists_values_of_isMarked hmark
          have hreverse : (ws.values.map List.reverse).reverse =
              ('&' :: v.reverse) :: (vs.map List.reverse).reverse := by
            simp [hv]
          rw [hreverse, Lexer.command_of_marked, if_pos rfl, hv, unmark_append_ampersand]

/-- Every line has a tree. Whichever tree it is, the line is read as the words of the tree, and runs
in the background if the last piece of the last word is a bare ampersand; that ampersand is then no
part of its word, which goes with it if nothing else is in it. -/
theorem ofLine_tree :
    (∀ line : String, ∃ t : Tree, t.render = line.toList) ∧
    ∀ t : Tree,
      let c := Command.ofLine (String.ofList t.render)
      c.background = t.isMarked ∧
      (t.isMarked = false → c.argv = t.values.map String.ofList) ∧
      (t.isMarked = true → ∃ vs v, t.values = vs ++ [v ++ ['&']] ∧
        c.argv = (if v = [] then vs else vs ++ [v]).map String.ofList) := by
  refine ⟨fun line => exists_tree line.toList, fun t => ?_⟩
  intro c
  have hc : c = t.command := t.ofLine_render
  refine ⟨?_, ?_, ?_⟩
  · rw [hc]
    rfl
  · intro hmark
    rw [hc, Tree.command, hmark]
    rfl
  · intro hmark
    obtain ⟨vs, v, hv⟩ := Tree.exists_values_of_isMarked hmark
    refine ⟨vs, v, hv, ?_⟩
    rw [hc, Tree.command, hmark, if_pos rfl, hv, unmark_append_ampersand]

end Grammar

end LineShell
