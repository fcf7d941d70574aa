import LineShell.Proofs.Number.Digits
import LineShell.Script.Arithmetic

/-!
# The pieces of a calculation are found in its text

The pieces of a calculation may be written with a space behind each. Main statements:
`piece_token`, `Place.piece_of_cons`.
-/

namespace LineShell.Script.Calculation

/-! ## Texts and their pieces -/

/-- A name of a variable. -/
structure Name where
  text : Octets
  isName : isName text = true

/-- A piece that can be written. -/
inductive Token where
  | number (n : Nat)
  | name (x : Name)
  | sign (text : String) (mem : text ∈ signs)

/-- The word that a number stands for: itself or, if it is too great, the greatest one. -/
def word (n : Nat) : Int64 :=
  Int64.ofInt (min n Number.Leading.greatest : Nat)

namespace Token

def text : Token → Octets
  | number n => Octets.decimal n
  | name x => x.text
  | sign text _ => text.toList

def piece : Token → Piece
  | number n => .number (word n)
  | name x => .name x.text
  | sign text _ => .sign text

def opening : Token :=
  .sign "(" (by decide)

def closing : Token :=
  .sign ")" (by decide)

def conjunction : Token :=
  .sign "&&" (by decide)

def alternative : Token :=
  .sign "||" (by decide)

def question : Token :=
  .sign "?" (by decide)

def colon : Token :=
  .sign ":" (by decide)

end Token

/-- The text of pieces, with a space behind each. -/
def write (ts : List Token) : Octets :=
  ts.flatMap fun t => t.text ++ [' ']

variable {c : Char} {cs rest : Octets}

/-- A blank between pieces. -/
def isBlank (c : Char) : Bool :=
  c = ' ' || c = '\t' || c = '\n'

theorem piece_cons (hblank : isBlank c = false) (cs : Octets) :
    piece (c :: cs) =
      if isNameStart c then
        (.name ((c :: cs).takeWhile isNameChar), cs.dropWhile isNameChar)
      else match if c.isDigit then Number.leading? (c :: cs) else none with
        | some n => (.number (Int64.ofInt n.signed), n.rest)
        | none =>
          match signs.find? fun sign => sign.toList.isPrefixOf (c :: cs) with
          | some sign => (.sign sign, (c :: cs).drop sign.length)
          | none => (.other, c :: cs) := by
  have hfront : (c :: cs).dropWhile isBlank = c :: cs := by
    rw [List.dropWhile_cons, hblank, if_neg Bool.false_ne_true]
  rw [piece.eq_def]
  split
  · rename_i hend
    cases hfront.symm.trans hend
  · rename_i c' cs' hcons
    obtain ⟨rfl, rfl⟩ := List.cons.inj (hfront.symm.trans hcons)
    rfl

theorem isNameChar_of_isNameStart (h : isNameStart c = true) : isNameChar c = true := by
  rw [isNameStart, Bool.or_eq_true] at h
  rw [isNameChar, Char.isAlphanum, Bool.or_eq_true, Bool.or_eq_true]
  exact h.imp_left .inl

theorem isBlank_of_isNameStart (h : isNameStart c = true) : isBlank c = false := by
  rw [Bool.eq_false_iff, isBlank]
  intro hblank
  simp only [Bool.or_eq_true, decide_eq_true_eq] at hblank
  rcases hblank with (rfl | rfl) | rfl <;> exact absurd h (by decide)

theorem piece_name (x : Name) (rest : Octets) :
    piece (x.text ++ ' ' :: rest) = (.name x.text, ' ' :: rest) := by
  obtain ⟨text, hname⟩ := x
  cases text with
  | nil => cases hname
  | cons c cs =>
      obtain ⟨hstart, hchars⟩ := Bool.and_eq_true_iff.mp hname
      have hall : ∀ d ∈ c :: cs, isNameChar d = true :=
        List.forall_mem_cons.mpr ⟨isNameChar_of_isNameStart hstart, List.all_eq_true.mp hchars⟩
      have htake : (c :: cs ++ ' ' :: rest).takeWhile isNameChar = c :: cs := by
        rw [List.takeWhile_append_of_pos hall]
        exact List.append_nil _
      have hdrop : (cs ++ ' ' :: rest).dropWhile isNameChar = ' ' :: rest :=
        List.dropWhile_append_of_pos (List.all_eq_true.mp hchars)
      change piece (c :: (cs ++ ' ' :: rest)) = _
      rw [piece_cons (isBlank_of_isNameStart hstart), if_pos hstart, hdrop]
      exact congrArg (fun text => (Piece.name text, ' ' :: rest)) htake

theorem exists_eq_ofNat_of_isDigit (h : c.isDigit = true) : ∃ d < 10, c = Char.ofNat (48 + d) := by
  obtain ⟨hlow, hhigh⟩ := toNat_of_isDigit h
  refine ⟨c.toNat - 48, by omega, ?_⟩
  rw [Nat.add_sub_cancel' hlow, Char.ofNat_toNat]

theorem piece_number (n : Nat) (rest : Octets) :
    piece (Octets.decimal n ++ ' ' :: rest) = (.number (word n), ' ' :: rest) := by
  have hends : Number.Ends (' ' :: rest) :=
    ⟨fun _ h => Option.some.inj h ▸ rfl, fun _ h => Option.some.inj h ▸ by decide⟩
  have hread := Number.leading?_toString n hends
  have hdigits := Number.isDigit_of_mem_decimal (n := n)
  rw [Number.toList_toString_natCast] at hread
  cases hds : Octets.decimal n with
  | nil => exact absurd hds Nat.toDigits_ne_nil
  | cons d ds =>
      rw [hds] at hdigits hread
      have hdigit := hdigits d List.mem_cons_self
      obtain ⟨k, hk, hd⟩ := exists_eq_ofNat_of_isDigit hdigit
      have hplain : ∀ k < 10, isBlank (Char.ofNat (48 + k)) = false ∧
          isNameStart (Char.ofNat (48 + k)) = false := by decide
      obtain ⟨hblank, hstart⟩ := hd ▸ hplain k hk
      rw [List.cons_append] at hread ⊢
      rw [piece_cons hblank, if_neg (Bool.eq_false_iff.mp hstart), if_pos hdigit, hread,
        decide_eq_false (Int.not_lt.mpr (Int.natCast_nonneg n))]
      rfl

theorem isPrefixOf_append_space {text : Octets} (h : ' ' ∉ cs) :
    cs.isPrefixOf (text ++ ' ' :: rest) = cs.isPrefixOf text := by
  induction cs generalizing text with
  | nil => rfl
  | cons c cs ih =>
      obtain ⟨hc, hcs⟩ := not_or.mp (mt List.mem_cons.mpr h)
      cases text with
      | nil =>
          rw [List.nil_append, List.isPrefixOf_cons_cons, beq_false_of_ne (Ne.symm hc)]
          rfl
      | cons d text =>
          rw [List.cons_append, List.isPrefixOf_cons_cons, List.isPrefixOf_cons_cons, ih hcs]

theorem piece_sign {text : String} (h : text ∈ signs) (rest : Octets) :
    piece (text.toList ++ ' ' :: rest) = (.sign text, ' ' :: rest) := by
  have hall : ∀ text ∈ signs, ' ' ∉ text.toList ∧ text.toList ≠ [] ∧
      text.toList.head?.all (fun c => !isBlank c && !isNameStart c && !c.isDigit) ∧
        signs.find? (fun sign => sign.toList.isPrefixOf text.toList) = some text := by
    decide +kernel
  obtain ⟨-, hne, hfront, hfind⟩ := hall text h
  obtain ⟨c, cs, hcs⟩ := List.exists_cons_of_ne_nil hne
  rw [hcs] at hfront hfind
  simp only [List.head?_cons, Option.all_some, Bool.and_eq_true, Bool.not_eq_true'] at hfront
  obtain ⟨⟨hblank, hstart⟩, hdigit⟩ := hfront
  have hfound : signs.find? (fun sign => sign.toList.isPrefixOf (c :: cs ++ ' ' :: rest)) =
      some text := by
    rw [← hfind, ← List.head?_filter, ← List.head?_filter]
    exact congrArg List.head? (List.filter_congr fun sign hsign =>
      isPrefixOf_append_space (hall sign hsign).1)
  have hlength : text.length = (c :: cs).length := by rw [← hcs, String.length_toList]
  rw [List.cons_append] at hfound
  rw [hcs, List.cons_append, piece_cons hblank, if_neg (Bool.eq_false_iff.mp hstart),
    if_neg (Bool.eq_false_iff.mp hdigit)]
  dsimp only
  rw [hfound]
  dsimp only
  rw [hlength]
  exact congrArg (Piece.sign text, ·) (List.drop_left' rfl)

/-- A piece that is written is read. -/
theorem piece_token (t : Token) (rest : Octets) :
    piece (t.text ++ ' ' :: rest) = (t.piece, ' ' :: rest) := by
  cases t with
  | number n => exact piece_number n rest
  | name x => exact piece_name x rest
  | sign text mem => exact piece_sign mem rest

/-- The place at the front of pieces. -/
def Place.of (ts : List Token) : Place :=
  Place.ofText (write ts)

theorem Place.piece_of_cons (t : Token) (ts : List Token) :
    (Place.of (t :: ts)).piece = t.piece ∧ (Place.of (t :: ts)).next = Place.of ts := by
  have htoken : Calculation.piece (write (t :: ts)) = (t.piece, ' ' :: write ts) := by
    rw [write, List.flatMap_cons, List.append_assoc]
    exact piece_token t (write ts)
  constructor
  · exact congrArg Prod.fst htoken
  · change Place.ofText (Calculation.piece (write (t :: ts))).2 = _
    rw [htoken]
    rfl

end LineShell.Script.Calculation
