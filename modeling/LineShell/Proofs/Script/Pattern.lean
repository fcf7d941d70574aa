import LineShell.Script.Field

/-!
# What a pattern fits

A pattern is run over a text with a mark for each part at its front, which says whether that part
fits what has been read. So the marks agree with what it means for a pattern to fit a text piece by
piece, and a value is cut where that says. Main statements: `fits_iff`, `cut?_front_eq_some_iff`,
`cut?_back_eq_some_iff` and `fits_quoted_iff`.
-/

namespace LineShell.Script

namespace Glob

/-- Each piece of a pattern means one character of the text, in order, and an asterisk any part of
it. -/
inductive Fits : List Glob → Octets → Prop where
  | nil : Fits [] []
  | many {ps : List Glob} {cs : Octets} (part : Octets) :
      Fits ps cs → Fits (many :: ps) (part ++ cs)
  | one {p : Glob} {ps : List Glob} {c : Char} {cs : Octets} :
      p ≠ many → p.holds c = true → Fits ps cs → Fits (p :: ps) (c :: cs)

variable {p : Glob} {ps qs : List Glob} {cs ds : Octets} {c : Char}

/-! ## Parts of patterns and texts -/

theorem fits_nil_iff : Fits [] cs ↔ cs = [] := by
  constructor
  · rintro ⟨⟩
    rfl
  · rintro rfl
    exact .nil

theorem fits_many : Fits [many] cs := by
  have h := Fits.many cs .nil
  rwa [List.append_nil] at h

theorem fits_one_iff (hp : p ≠ many) : Fits [p] cs ↔ ∃ c, cs = [c] ∧ p.holds c = true := by
  constructor
  · intro h
    cases h with
    | many => exact absurd rfl hp
    | one _ hc h =>
        obtain rfl := fits_nil_iff.mp h
        exact ⟨_, rfl, hc⟩
  · rintro ⟨c, rfl, hc⟩
    exact .one hp hc .nil

theorem Fits.append (h : Fits ps cs) (h' : Fits qs ds) : Fits (ps ++ qs) (cs ++ ds) := by
  induction h with
  | nil => exact h'
  | many part _ ih =>
      rw [List.append_assoc]
      exact .many part ih
  | one hp hc _ ih => exact .one hp hc ih

/-- The parts of a pattern fit parts of the text. -/
theorem fits_append_iff :
    Fits (ps ++ qs) cs ↔ ∃ ds es, cs = ds ++ es ∧ Fits ps ds ∧ Fits qs es := by
  constructor
  · intro h
    induction ps generalizing cs with
    | nil => exact ⟨[], cs, rfl, .nil, h⟩
    | cons p ps ih =>
        cases h with
        | many part h =>
            obtain ⟨ds, es, rfl, hds, hes⟩ := ih h
            exact ⟨part ++ ds, es, (List.append_assoc ..).symm, .many part hds, hes⟩
        | one hp hc h =>
            obtain ⟨ds, es, rfl, hds, hes⟩ := ih h
            exact ⟨_ :: ds, es, rfl, .one hp hc hds, hes⟩
  · rintro ⟨ds, es, rfl, hds, hes⟩
    exact hds.append hes

theorem fits_concat_many_iff : Fits (ps ++ [many]) cs ↔ ∃ ds, ds <+: cs ∧ Fits ps ds := by
  rw [fits_append_iff]
  constructor
  · rintro ⟨ds, es, rfl, hds, -⟩
    exact ⟨ds, List.prefix_append ds es, hds⟩
  · rintro ⟨ds, ⟨es, rfl⟩, hds⟩
    exact ⟨ds, es, rfl, hds, fits_many⟩

theorem fits_concat_one_iff (hp : p ≠ many) :
    Fits (ps ++ [p]) cs ↔ ∃ ds c, cs = ds ++ [c] ∧ Fits ps ds ∧ p.holds c = true := by
  rw [fits_append_iff]
  constructor
  · rintro ⟨ds, es, rfl, hds, hes⟩
    obtain ⟨c, rfl, hc⟩ := (fits_one_iff hp).mp hes
    exact ⟨ds, c, rfl, hds, hc⟩
  · rintro ⟨ds, c, rfl, hds, hc⟩
    exact ⟨ds, [c], rfl, hds, (fits_one_iff hp).mpr ⟨c, rfl, hc⟩⟩

/-- With one more character an asterisk at the end means all that it meant before and that one, or
nothing. -/
theorem fits_concat_many_concat_iff :
    Fits (ps ++ [many]) (cs ++ [c]) ↔ Fits ps (cs ++ [c]) ∨ Fits (ps ++ [many]) cs := by
  simp only [fits_concat_many_iff, List.prefix_concat_iff, or_and_right, exists_or,
    exists_eq_left]

theorem fits_concat_one_concat_iff (hp : p ≠ many) :
    Fits (ps ++ [p]) (cs ++ [c]) ↔ Fits ps cs ∧ p.holds c = true := by
  rw [fits_concat_one_iff hp]
  constructor
  · rintro ⟨ds, d, h, hds, hd⟩
    obtain ⟨rfl, hcd⟩ := List.append_inj' h rfl
    obtain rfl := (List.cons.inj hcd).1
    exact ⟨hds, hd⟩
  · rintro ⟨hcs, hc⟩
    exact ⟨cs, c, rfl, hcs, hc⟩

/-- A pattern that fits a text from the back means the same as the pattern itself. -/
theorem Fits.reverse (h : Fits ps cs) : Fits ps.reverse cs.reverse := by
  induction h with
  | nil => exact .nil
  | many part _ ih =>
      rw [List.reverse_cons, List.reverse_append]
      exact ih.append fits_many
  | one hp hc _ ih =>
      rw [List.reverse_cons, List.reverse_cons]
      exact ih.append ((fits_one_iff hp).mpr ⟨_, rfl, hc⟩)

theorem fits_reverse_iff : Fits ps.reverse cs.reverse ↔ Fits ps cs := by
  refine ⟨fun h => ?_, Fits.reverse⟩
  have h' := h.reverse
  rwa [List.reverse_reverse, List.reverse_reverse] at h'

/-- What a pattern fits begins with what some part at its front fits. -/
theorem Fits.exists_front (h : Fits ps (cs ++ ds)) : ∃ front, front <+: ps ∧ Fits front cs := by
  generalize htext : cs ++ ds = text at h
  induction h generalizing cs with
  | nil =>
      obtain ⟨rfl, -⟩ := List.append_eq_nil_iff.mp htext
      exact ⟨[], List.nil_prefix, .nil⟩
  | @many ps es part _ ih =>
      rcases List.append_eq_append_iff.mp htext with ⟨rest, rfl, -⟩ | ⟨rest, rfl, hrest⟩
      · exact ⟨[.many], List.prefix_append [.many] ps, fits_many⟩
      · obtain ⟨front, hfront, hfits⟩ := ih hrest.symm
        exact ⟨.many :: front, List.cons_prefix_cons.mpr ⟨rfl, hfront⟩, .many part hfits⟩
  | @one _ _ e es hp hc _ ih =>
      cases cs with
      | nil => exact ⟨[], List.nil_prefix, .nil⟩
      | cons d cs =>
          obtain ⟨rfl, hrest⟩ : d = e ∧ cs ++ ds = es := List.cons.inj htext
          obtain ⟨front, hfront, hfits⟩ := ih hrest
          exact ⟨_ :: front, List.cons_prefix_cons.mpr ⟨rfl, hfront⟩, .one hp hc hfits⟩

/-! ## Marks -/

/-- The marks of the parts behind a first one say which of them fit the text. -/
inductive MarksBehind (cs : Octets) : List Glob → List Glob → List Bool → Prop where
  | nil {front : List Glob} : MarksBehind cs front [] []
  | cons {front ps : List Glob} {p : Glob} {mark : Bool} {marks : List Bool} :
      (mark = true ↔ Fits (front ++ [p]) cs) → MarksBehind cs (front ++ [p]) ps marks →
        MarksBehind cs front (p :: ps) (mark :: marks)

/-- The marks of a first part and of those behind it. -/
inductive Marks (cs : Octets) (front ps : List Glob) : List Bool → Prop where
  | intro {mark : Bool} {marks : List Bool} : (mark = true ↔ Fits front cs) →
      MarksBehind cs front ps marks → Marks cs front ps (mark :: marks)

variable {front : List Glob} {mark before : Bool} {marks : List Bool}

theorem startBehind_many (ps : List Glob) (before : Bool) :
    startBehind (many :: ps) before = before :: startBehind ps before := rfl

theorem startBehind_one (hp : p ≠ many) (ps : List Glob) (before : Bool) :
    startBehind (p :: ps) before = false :: startBehind ps false := by
  cases p with
  | many => exact absurd rfl hp
  | _ => rfl

theorem marksBehind_startBehind (hbefore : before = true ↔ Fits front []) :
    MarksBehind [] front ps (startBehind ps before) := by
  induction ps generalizing front before with
  | nil => exact .nil
  | cons p ps ih =>
      by_cases hp : p = many
      · subst hp
        have hmany : before = true ↔ Fits (front ++ [many]) [] := by
          rw [fits_concat_many_iff, hbefore]
          simp only [List.prefix_nil, exists_eq_left]
        rw [startBehind_many]
        exact .cons hmany (ih hmany)
      · have hone : false = true ↔ Fits (front ++ [p]) [] := by
          rw [fits_concat_one_iff hp]
          simp
        rw [startBehind_one hp]
        exact .cons hone (ih hone)

theorem marks_start (pattern : List Glob) : Marks [] [] pattern (start pattern) := by
  have hnil : (true = true) ↔ Fits [] [] := iff_of_true rfl .nil
  exact .intro hnil (marksBehind_startBehind hnil)

theorem nextBehind_many (c : Char) (ps : List Glob) (mark mark' : Bool) (marks : List Bool)
    (before : Bool) : nextBehind c (many :: ps) (mark :: mark' :: marks) before =
      (before || mark') :: nextBehind c ps (mark' :: marks) (before || mark') := rfl

theorem nextBehind_one (c : Char) (hp : p ≠ many) (ps : List Glob) (mark : Bool)
    (marks : List Bool) (before : Bool) : nextBehind c (p :: ps) (mark :: marks) before =
      (mark && p.holds c) :: nextBehind c ps marks (mark && p.holds c) := by
  cases p with
  | many => exact absurd rfl hp
  | _ => rfl

theorem marksBehind_nextBehind (h : Marks cs front ps marks)
    (hbefore : before = true ↔ Fits front (cs ++ [c])) :
    MarksBehind (cs ++ [c]) front ps (nextBehind c ps marks before) := by
  induction ps generalizing front marks before with
  | nil =>
      obtain ⟨-, ⟨⟩⟩ := h
      exact .nil
  | cons p ps ih =>
      obtain @⟨mark, _, hmark, h⟩ := h
      cases h with
      | @cons _ _ _ mark' marks hnext hrest =>
          by_cases hp : p = many
          · subst hp
            have hmany : (before || mark') = true ↔ Fits (front ++ [many]) (cs ++ [c]) := by
              rw [Bool.or_eq_true, hbefore, hnext, fits_concat_many_concat_iff]
            rw [nextBehind_many]
            exact .cons hmany (ih (.intro hnext hrest) hmany)
          · have hone : (mark && p.holds c) = true ↔ Fits (front ++ [p]) (cs ++ [c]) := by
              rw [Bool.and_eq_true, hmark, fits_concat_one_concat_iff hp]
            rw [nextBehind_one c hp]
            exact .cons hone (ih (.intro hnext hrest) hone)

theorem marks_next {pattern : List Glob} (h : Marks cs [] pattern marks) (c : Char) :
    Marks (cs ++ [c]) [] pattern (next pattern marks c) := by
  have hnil : (false = true) ↔ Fits [] (cs ++ [c]) := by simp [fits_nil_iff]
  exact .intro hnil (marksBehind_nextBehind h hnil)

theorem marks_foldl {pattern : List Glob} (h : Marks cs [] pattern marks) (ds : Octets) :
    Marks (cs ++ ds) [] pattern (ds.foldl (next pattern) marks) := by
  induction ds generalizing cs marks with
  | nil =>
      rw [List.append_nil]
      exact h
  | cons d ds ih =>
      have hds := ih (marks_next h d)
      rwa [List.append_assoc] at hds

/-- The last mark is that of the whole pattern. -/
theorem Marks.getLastD_iff (h : Marks cs front ps marks) :
    marks.getLastD false = true ↔ Fits (front ++ ps) cs := by
  induction ps generalizing front marks with
  | nil =>
      obtain ⟨hmark, ⟨⟩⟩ := h
      rwa [List.append_nil]
  | cons p ps ih =>
      obtain ⟨-, h⟩ := h
      cases h with
      | cons hnext hrest =>
          have hlast := ih (.intro hnext hrest)
          rwa [List.append_assoc] at hlast

/-- A part at the front of the pattern that fits the text has a mark. -/
theorem Marks.any_of_fits (h : Marks cs front ps marks) (hqs : qs <+: ps)
    (hfits : Fits (front ++ qs) cs) : marks.any id = true := by
  induction ps generalizing front marks qs with
  | nil =>
      obtain ⟨hmark, -⟩ := h
      rw [List.prefix_nil.mp hqs, List.append_nil] at hfits
      simp [hmark.mpr hfits]
  | cons p ps ih =>
      obtain ⟨hmark, h⟩ := h
      cases h with
      | cons hnext hrest =>
          rcases List.prefix_cons_iff.mp hqs with rfl | ⟨rs, rfl, hrs⟩
          · rw [List.append_nil] at hfits
            simp [hmark.mpr hfits]
          · have hany := ih (.intro hnext hrest) hrs (by rwa [List.append_assoc])
            rw [List.any_cons, hany, Bool.or_true]

/-- Whether a pattern fits a text is found by running it. -/
theorem fits_iff (pattern : List Glob) (cs : Octets) : fits pattern cs = true ↔ Fits pattern cs :=
  (marks_foldl (marks_start pattern) cs).getLastD_iff

/-! ## Cutting -/

variable {pattern : List Glob}

theorem mem_here_iff (h : Marks cs [] pattern marks) (n k : Nat) :
    (k ∈ if marks.getLastD false then [n] else []) ↔ k = n ∧ Fits pattern cs := by
  have hlast := h.getLastD_iff
  rw [List.nil_append] at hlast
  rw [← hlast]
  split
  · rename_i hmark
    rw [List.mem_singleton, and_iff_left hmark]
  · rename_i hmark
    exact iff_of_false List.not_mem_nil fun hk => hmark hk.2

/-- The lengths that are found are those of the parts at the front that the pattern fits. -/
theorem mem_frontLengths_iff (h : Marks cs [] pattern marks) (n : Nat) (ds : Octets) (k : Nat) :
    k ∈ frontLengths pattern marks n ds ↔
      ∃ m ≤ ds.length, k = n + m ∧ Fits pattern (cs ++ ds.take m) := by
  induction ds generalizing cs marks n with
  | nil =>
      rw [frontLengths]
      rw [mem_here_iff h]
      simp
  | cons d ds ih =>
      have hcases : (∃ m ≤ (d :: ds).length, k = n + m ∧ Fits pattern (cs ++ (d :: ds).take m)) ↔
          (k = n ∧ Fits pattern cs) ∨
            ∃ m ≤ ds.length, k = n + 1 + m ∧ Fits pattern (cs ++ [d] ++ ds.take m) := by
        constructor
        · rintro ⟨_ | m, hm, rfl, hfits⟩
          · rw [List.take_zero, List.append_nil] at hfits
            exact .inl ⟨rfl, hfits⟩
          · rw [List.take_succ_cons, List.append_cons] at hfits
            exact .inr ⟨m, Nat.le_of_succ_le_succ hm, by omega, hfits⟩
        · rintro (⟨rfl, hfits⟩ | ⟨m, hm, rfl, hfits⟩)
          · refine ⟨0, Nat.zero_le _, rfl, ?_⟩
            rwa [List.take_zero, List.append_nil]
          · refine ⟨m + 1, Nat.succ_le_succ hm, by omega, ?_⟩
            rwa [List.take_succ_cons, List.append_cons]
      rw [frontLengths]
      split
      · rw [List.mem_append, mem_here_iff h, ih (marks_next h d), hcases]
      · -- No part fits what has been read, so that no longer text is fitted either.
        rename_i hnone
        have hstuck : ∀ es, ¬ Fits pattern (cs ++ es) := by
          intro es hfits
          obtain ⟨front, hfront, hcs⟩ := hfits.exists_front
          exact hnone (h.any_of_fits hfront hcs)
        rw [mem_here_iff h]
        refine iff_of_false (fun hk => hstuck [] ?_) fun ⟨m, _, _, hfits⟩ => hstuck _ hfits
        rw [List.append_nil]
        exact hk.2

theorem pairwise_frontLengths (h : Marks cs [] pattern marks) (n : Nat) (ds : Octets) :
    (frontLengths pattern marks n ds).Pairwise (· < ·) := by
  have hhere : (if marks.getLastD false then [n] else []).Pairwise (· < ·) := by
    split
    · exact List.pairwise_singleton _ n
    · exact .nil
  induction ds generalizing cs marks n with
  | nil => exact hhere
  | cons d ds ih =>
      rw [frontLengths]
      split
      · refine List.pairwise_append.mpr ⟨hhere, ih (marks_next h d) (n + 1) ?_, ?_⟩
        · split
          · exact List.pairwise_singleton _ _
          · exact .nil
        · intro k hk l hl
          obtain ⟨rfl, -⟩ := (mem_here_iff h n k).mp hk
          obtain ⟨m, -, rfl, -⟩ := (mem_frontLengths_iff (marks_next h d) (k + 1) ds l).mp hl
          omega
      · exact hhere

theorem head?_eq_some_iff_of_pairwise {l : List Nat} (h : l.Pairwise (· < ·)) (n : Nat) :
    l.head? = some n ↔ n ∈ l ∧ ∀ m ∈ l, n ≤ m := by
  cases l with
  | nil => simp
  | cons k l =>
      obtain ⟨hk, -⟩ := List.pairwise_cons.mp h
      constructor
      · rintro ⟨⟩
        exact ⟨List.mem_cons_self, List.forall_mem_cons.mpr
          ⟨Nat.le_refl _, fun m hm => Nat.le_of_lt (hk m hm)⟩⟩
      · rintro ⟨hn, hleast⟩
        rcases List.mem_cons.mp hn with rfl | hn
        · rfl
        · exact absurd (hk n hn) (Nat.not_lt.mpr (hleast k List.mem_cons_self))

theorem getLast?_eq_some_iff_of_pairwise {l : List Nat} (h : l.Pairwise (· < ·)) (n : Nat) :
    l.getLast? = some n ↔ n ∈ l ∧ ∀ m ∈ l, m ≤ n := by
  rcases List.eq_nil_or_concat l with rfl | ⟨l, k, rfl⟩
  · simp
  · rw [List.concat_eq_append] at h ⊢
    obtain ⟨-, -, hk⟩ := List.pairwise_append.mp h
    have hlast := List.mem_append_right l (List.mem_singleton_self k)
    rw [List.getLast?_concat]
    constructor
    · rintro ⟨⟩
      refine ⟨hlast, fun m hm => ?_⟩
      rcases List.mem_append.mp hm with hm | hm
      · exact Nat.le_of_lt (hk m hm _ (List.mem_singleton_self _))
      · exact Nat.le_of_eq (List.mem_singleton.mp hm)
    · rintro ⟨hn, hgreatest⟩
      rcases List.mem_append.mp hn with hn | hn
      · exact absurd (hk n hn k (List.mem_singleton_self _)) (Nat.not_lt.mpr (hgreatest k hlast))
      · rw [List.mem_singleton.mp hn]

/-- The lengths of the parts at the front of a text that a pattern fits. -/
theorem mem_frontLengths_start_iff (pattern : List Glob) (cs : Octets) (n : Nat) :
    n ∈ frontLengths pattern (start pattern) 0 cs ↔ n ≤ cs.length ∧ Fits pattern (cs.take n) := by
  rw [mem_frontLengths_iff (marks_start pattern)]
  constructor
  · rintro ⟨m, hm, rfl, hfits⟩
    rw [Nat.zero_add]
    exact ⟨hm, hfits⟩
  · rintro ⟨hn, hfits⟩
    exact ⟨n, hn, (Nat.zero_add n).symm, hfits⟩

/-- A text is cut behind the shortest or the longest part at its front that a pattern fits, if there
is one. -/
theorem cut?_front_eq_some_iff (longest : Bool) (pattern : List Glob) (cs : Octets) (n : Nat) :
    cut? true longest pattern cs = some n ↔
      (n ≤ cs.length ∧ Fits pattern (cs.take n)) ∧
        ∀ m, m ≤ cs.length ∧ Fits pattern (cs.take m) → if longest then m ≤ n else n ≤ m := by
  have hpairwise := pairwise_frontLengths (marks_start pattern) 0 cs
  cases longest with
  | true =>
      change (frontLengths pattern (start pattern) 0 cs).getLast? = some n ↔ _
      rw [getLast?_eq_some_iff_of_pairwise hpairwise]
      simp only [mem_frontLengths_start_iff]
      rfl
  | false =>
      change (frontLengths pattern (start pattern) 0 cs).head? = some n ↔ _
      rw [head?_eq_some_iff_of_pairwise hpairwise]
      simp only [mem_frontLengths_start_iff]
      rfl

theorem fits_reverse_take_iff {m : Nat} :
    Fits pattern.reverse (cs.reverse.take m) ↔ Fits pattern (cs.drop (cs.length - m)) := by
  rw [List.take_reverse, fits_reverse_iff]

/-- From the back, a text is cut before the shortest or the longest part at its end that a pattern
fits, if there is one. -/
theorem cut?_back_eq_some_iff (longest : Bool) (pattern : List Glob) (cs : Octets) (n : Nat) :
    cut? false longest pattern cs = some n ↔
      (n ≤ cs.length ∧ Fits pattern (cs.drop n)) ∧
        ∀ m, m ≤ cs.length ∧ Fits pattern (cs.drop m) → if longest then n ≤ m else m ≤ n := by
  have hcut : cut? false longest pattern cs =
      (cut? true longest pattern.reverse cs.reverse).map (cs.length - ·) := rfl
  simp only [hcut, Option.map_eq_some_iff, cut?_front_eq_some_iff, fits_reverse_take_iff,
    List.length_reverse]
  constructor
  · rintro ⟨k, ⟨⟨hk, hfits⟩, hbound⟩, rfl⟩
    refine ⟨⟨Nat.sub_le _ _, hfits⟩, fun m ⟨hm, hm'⟩ => ?_⟩
    have h := hbound (cs.length - m) ⟨Nat.sub_le _ _, by rwa [Nat.sub_sub_self hm]⟩
    cases longest <;> simp only [if_true, Bool.false_eq_true, if_false] at h ⊢ <;> omega
  · rintro ⟨⟨hn, hfits⟩, hbound⟩
    refine ⟨cs.length - n, ⟨⟨Nat.sub_le _ _, by rwa [Nat.sub_sub_self hn]⟩, ?_⟩,
      Nat.sub_sub_self hn⟩
    intro m ⟨hm, hm'⟩
    have h := hbound (cs.length - m) ⟨Nat.sub_le _ _, hm'⟩
    cases longest <;> simp only [if_true, Bool.false_eq_true, if_false] at h ⊢ <;> omega

end Glob

/-! ## Quoted patterns -/

theorem Glob.fits_map_char_iff {cs ds : Octets} : Fits (cs.map char) ds ↔ ds = cs := by
  induction cs generalizing ds with
  | nil => exact fits_nil_iff
  | cons c cs ih =>
      constructor
      · intro h
        cases h with
        | one _ hc h => rw [ih.mp h, of_decide_eq_true hc]
      · rintro rfl
        exact .one nofun (decide_eq_true rfl) (ih.mpr rfl)

namespace Cell

/-- A character between quotes as it stands in a pattern. -/
def quotedText (c : Char) : Octets :=
  if needsGuard c then ['\\', c] else [c]

theorem patternText_ofText (cs : Octets) :
    patternText (ofText true cs) = cs.flatMap quotedText := by
  rw [patternText]
  induction cs with
  | nil => rfl
  | cons c cs ih =>
      rw [List.flatMap_cons, ← ih, quotedText, ofText, List.map_cons, ← ofText, ofChar]
      by_cases hc : needsGuard c = true
      · simp only [hc, if_true]
        rfl
      · have hplain : c ≠ '\\' := by
          rintro rfl
          exact hc (by decide)
        simp only [hc, if_true, Bool.false_eq_true, if_false]
        rw [patternText.go, decide_eq_true hplain]
        rfl

end Cell

namespace Glob

theorem ofTerminated_escaped {c : Char} (hc : c ≠ terminator) (steps : Nat) (cs : Octets) :
    ofTerminated (steps + 1) ('\\' :: c :: cs) = char c :: ofTerminated steps cs := by
  rw [ofTerminated, if_neg (by decide), if_neg (by decide), if_neg (by decide), if_pos rfl]
  exact if_neg hc

/-- A character that is not guarded between quotes has no meaning of its own. -/
theorem ofTerminated_unguarded {c : Char} (hterm : c ≠ terminator) (hc : ¬ Cell.needsGuard c)
    (steps : Nat) (cs : Octets) :
    ofTerminated (steps + 1) (c :: cs) = char c :: ofTerminated steps cs := by
  have hguarded : ∀ d, Cell.needsGuard d = true → c ≠ d := by
    rintro _ hd rfl
    exact hc hd
  rw [ofTerminated.eq_def]
  simp only
  rw [if_neg hterm, if_neg (hguarded '*' (by decide)),
    if_neg (hguarded '?' (by decide)), if_neg (hguarded '\\' (by decide)),
    if_neg (hguarded '[' (by decide))]

/-- With a step for each character, a quoted text is read as its characters. -/
theorem ofTerminated_quoted {cs : Octets} (hcs : terminator ∉ cs) (behind : Octets) {steps : Nat}
    (hsteps : (cs.flatMap Cell.quotedText).length < steps) :
    ofTerminated steps (cs.flatMap Cell.quotedText ++ terminator :: behind) = cs.map char := by
  obtain ⟨steps, rfl⟩ := Nat.exists_eq_succ_of_ne_zero (Nat.ne_zero_of_lt hsteps)
  induction cs generalizing steps with
  | nil => rfl
  | cons c cs ih =>
      obtain ⟨hc, hcs⟩ := not_or.mp (mt List.mem_cons.mpr hcs)
      rw [List.flatMap_cons, List.length_append] at hsteps
      rw [List.flatMap_cons, List.append_assoc, List.map_cons]
      have hc := Ne.symm hc
      by_cases hguard : Cell.needsGuard c = true
      · have htext : Cell.quotedText c = ['\\', c] := if_pos hguard
        rw [htext, List.length_cons, List.length_singleton] at hsteps
        obtain ⟨steps, rfl⟩ := Nat.exists_eq_add_of_le' (show 1 ≤ steps by omega)
        rw [htext]
        exact (ofTerminated_escaped hc _ _).trans (congrArg _ (ih hcs steps (by omega)))
      · have htext : Cell.quotedText c = [c] := if_neg hguard
        rw [htext, List.length_singleton] at hsteps
        obtain ⟨steps, rfl⟩ := Nat.exists_eq_add_of_le' (show 1 ≤ steps by omega)
        rw [htext]
        exact (ofTerminated_unguarded hc hguard _ _).trans (congrArg _ (ih hcs steps (by omega)))

/-- A quoted text is a pattern of itself alone. -/
theorem fits_quoted_iff {cs : Octets} (hcs : terminator ∉ cs) (ds : Octets) :
    fits (Cell.pattern (Cell.ofText true cs)) ds = true ↔ ds = cs := by
  have hquoted : Cell.pattern (Cell.ofText true cs) = cs.map char := by
    rw [Cell.pattern, Cell.patternText_ofText, ofText, ofTerminated_quoted hcs]
    simp
  rw [fits_iff, hquoted, fits_map_char_iff]

end Glob

end LineShell.Script
