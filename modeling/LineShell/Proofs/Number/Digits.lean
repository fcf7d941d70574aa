import Mathlib.Tactic.SplitIfs
import LineShell.Number.Digits

/-!
# Integers are read back

An integer that is written in decimal digits is what programs read at the front of a text, whatever
stands behind it that does not go on with it. Main statement: `Number.leading?_toString`.
-/

namespace LineShell

/-! ## Digits -/

theorem toNat_of_isDigit {c : Char} (h : c.isDigit = true) : 48 ≤ c.toNat ∧ c.toNat ≤ 57 := by
  rw [Char.isDigit, Bool.and_eq_true, decide_eq_true_eq, decide_eq_true_eq] at h
  exact h

theorem digitIn?_ten_of_isDigit {c : Char} (h : c.isDigit = true) :
    digitIn? 10 c = some (c.toNat - '0'.toNat) := by
  have hlt : c.toNat - 48 < 10 := by
    have := toNat_of_isDigit h
    omega
  rw [digitIn?, if_pos h]
  exact if_pos hlt

theorem digitIn?_eq_none {base : Nat} {c : Char} (hbase : base ≤ 10) (h : c.isDigit = false) :
    digitIn? base c = none := by
  rw [digitIn?, if_neg (Bool.eq_false_iff.mp h)]
  refine if_neg ?_
  split_ifs <;> omega

/-- No digit stands at the front of a text. -/
def NoDigit (cs : List Char) : Prop :=
  ∀ c ∈ cs.head?, c.isDigit = false

theorem noDigit_nil : NoDigit [] :=
  fun _ h => nomatch h

variable {ds rest : List Char} {seen value most : Nat}

theorem readDigits_go_of_noDigit {base : Nat} (hbase : base ≤ 10) (hrest : NoDigit rest) :
    readDigits.go base seen value most rest = (seen, value, rest) := by
  cases rest with
  | nil => cases most <;> rfl
  | cons c rest =>
      cases most with
      | zero => rfl
      | succ most => rw [readDigits.go, digitIn?_eq_none hbase (hrest c rfl)]

/-- Decimal digits are read up to their end. -/
theorem readDigits_go_append (hds : ∀ d ∈ ds, d.isDigit = true) (hrest : NoDigit rest)
    (hmost : ds.length ≤ most) :
    readDigits.go 10 seen value most (ds ++ rest) =
      (seen + ds.length, Nat.ofDigitChars 10 ds value, rest) := by
  induction ds generalizing seen value most with
  | nil => exact readDigits_go_of_noDigit (Nat.le_refl 10) hrest
  | cons d ds ih =>
      obtain ⟨hd, hds⟩ := List.forall_mem_cons.mp hds
      obtain ⟨most, rfl⟩ := Nat.exists_eq_add_of_le' (Nat.le_trans (Nat.le_add_left 1 _) hmost)
      rw [List.cons_append, readDigits.go, digitIn?_ten_of_isDigit hd]
      dsimp only
      rw [ih hds (Nat.le_of_succ_le_succ hmost), Nat.ofDigitChars_cons, List.length_cons,
        Nat.add_assoc, Nat.add_comm 1]

namespace Number

theorem isDigit_of_mem_decimal {n : Nat} : ∀ d ∈ Octets.decimal n, d.isDigit = true :=
  fun _ hd => Nat.isDigit_of_mem_toDigits (by decide) (by decide) hd

theorem readDigits_decimal (n : Nat) (hrest : NoDigit rest) :
    readDigits 10 (Octets.decimal n ++ rest).length (Octets.decimal n ++ rest) =
      ((Octets.decimal n).length, n, rest) := by
  rw [readDigits, readDigits_go_append isDigit_of_mem_decimal hrest
    (List.length_append ▸ Nat.le_add_right _ _), Nat.zero_add, Octets.decimal,
    Nat.ofDigitChars_ten_toDigits]

theorem head?_decimal_ne_zero {n : Nat} (hn : n ≠ 0) : (Octets.decimal n).head? ≠ some '0' := by
  induction n using Nat.strongRecOn with
  | ind n ih =>
      rw [Octets.decimal]
      rcases Nat.lt_or_ge n 10 with hlt | hge
      · have hall : ∀ d < 10, d ≠ 0 → [Nat.digitChar d].head? ≠ some '0' := by decide
        rw [Nat.toDigits_of_lt_base hlt]
        exact hall n hlt hn
      · have hfront := ih (n / 10) (by omega) (by omega)
        rw [Octets.decimal] at hfront
        rw [Nat.toDigits_of_base_le (by decide) hge]
        cases hds : Nat.toDigits 10 (n / 10) with
        | nil => exact absurd hds Nat.toDigits_ne_nil
        | cons d ds =>
            rw [hds] at hfront
            exact hfront

/-- What stands behind an integer does not go on with it, and makes no other one of it. -/
structure Ends (rest : Octets) : Prop where
  noDigit : NoDigit rest
  noMark : ∀ c ∈ rest.head?, c ≠ 'x' ∧ c ≠ 'X'

theorem Ends.nil : Ends [] where
  noDigit := noDigit_nil
  noMark _ h := nomatch h

theorem isHexadecimal_of_head?_ne {cs : Octets} (h : cs.head? ≠ some '0') :
    isHexadecimal cs = false := by
  rw [isHexadecimal.eq_def]
  split
  · exact absurd rfl h
  · rfl

theorem isHexadecimal_zero {rest : Octets} (hrest : Ends rest) :
    isHexadecimal ('0' :: rest) = false := by
  rw [isHexadecimal.eq_def]
  split
  · rename_i x d ds heq
    obtain rfl := (List.cons.inj heq).2
    obtain ⟨hlower, hupper⟩ := hrest.noMark x rfl
    rw [decide_eq_false hlower, decide_eq_false hupper]
    rfl
  · rfl

/-- The digits of a number are read as that number, the one zero in another base. -/
theorem readDigits_splitBase_decimal (n : Nat) {rest : Octets} (hrest : Ends rest) :
    let base := splitBase (Octets.decimal n ++ rest)
    readDigits base.1 base.2.length base.2 = ((Octets.decimal n).length, n, rest) := by
  intro base
  by_cases hn : n = 0
  · subst hn
    have hbase : base = (8, '0' :: rest) := by
      change splitBase ('0' :: rest) = _
      rw [splitBase, isHexadecimal_zero hrest]
      rfl
    rw [hbase]
    exact readDigits_go_of_noDigit (Nat.le_add_right 8 2) hrest.noDigit
  · have hhead : (Octets.decimal n ++ rest).head? ≠ some '0' := by
      have hzero := head?_decimal_ne_zero hn
      cases hds : Octets.decimal n with
      | nil => exact absurd hds Nat.toDigits_ne_nil
      | cons d ds =>
          rw [hds] at hzero
          exact hzero
    have hbase : base = (10, Octets.decimal n ++ rest) := by
      change splitBase _ = _
      rw [splitBase, isHexadecimal_of_head?_ne hhead, if_neg Bool.false_ne_true, if_neg hhead]
    rw [hbase]
    exact readDigits_decimal n hrest.noDigit

theorem toList_toString_natCast (n : Nat) : (toString (n : Int)).toList = Octets.decimal n := by
  change (toString n).toList = _
  rw [Nat.toString_eq_ofList_toDigits, String.toList_ofList, Octets.decimal]

theorem toList_toString_negSucc (n : Nat) :
    (toString (Int.negSucc n)).toList = '-' :: Octets.decimal (n + 1) := by
  change ("-" ++ toString (n + 1)).toList = _
  rw [String.toList_append, Nat.toString_eq_ofList_toDigits, String.toList_ofList,
    String.toList_ofList, Octets.decimal, List.singleton_append]

/-- No blank and no sign stands before the digits of a number. -/
theorem splitSign_decimal (n : Nat) (rest : Octets) :
    splitSign ((Octets.decimal n ++ rest).dropWhile isSpace) =
      (false, Octets.decimal n ++ rest) := by
  have hdigits := isDigit_of_mem_decimal (n := n)
  cases hds : Octets.decimal n with
  | nil => exact absurd hds Nat.toDigits_ne_nil
  | cons d ds =>
      rw [hds] at hdigits
      have hd := hdigits d List.mem_cons_self
      have hspace : isSpace d = false := by
        have hbounds := toNat_of_isDigit hd
        have hblank : d ≠ ' ' := by
          rintro rfl
          exact absurd hd (by decide)
        rw [isSpace, decide_eq_false hblank, Bool.false_or, decide_eq_true (by omega : 9 ≤ d.toNat),
          decide_eq_false (by omega : ¬ d.toNat ≤ 13)]
        rfl
      rw [List.cons_append, List.dropWhile_cons, hspace, if_neg Bool.false_ne_true,
        splitSign.eq_def]
      split
      · rename_i heq
        rw [(List.cons.inj heq).1] at hd
        exact absurd hd (by decide)
      · rename_i heq
        rw [(List.cons.inj heq).1] at hd
        exact absurd hd (by decide)
      · rfl

/-- The sign of an integer comes before its digits. -/
theorem splitSign_toString (i : Int) (rest : Octets) :
    splitSign (((toString i).toList ++ rest).dropWhile isSpace) =
      (decide (i < 0), Octets.decimal i.natAbs ++ rest) := by
  cases i with
  | ofNat n =>
      have hsign : decide (Int.ofNat n < 0) = false := decide_eq_false (by simp)
      rw [hsign, Int.ofNat_eq_natCast, toList_toString_natCast]
      exact splitSign_decimal n rest
  | negSucc n =>
      have hsign : decide (Int.negSucc n < 0) = true := decide_eq_true (Int.negSucc_lt_zero n)
      rw [hsign, toList_toString_negSucc]
      rfl

theorem exists_length_decimal (n : Nat) : ∃ count, (Octets.decimal n).length = count + 1 :=
  Nat.exists_eq_add_of_le' Nat.length_toDigits_pos

/-- An integer is read with its sign. -/
theorem leading?_toString (i : Int) {rest : Octets} (hrest : Ends rest) :
    leading? ((toString i).toList ++ rest) =
      some { negative := i < 0, size := i.natAbs, rest } := by
  obtain ⟨count, hcount⟩ := exists_length_decimal i.natAbs
  have hread := readDigits_splitBase_decimal i.natAbs hrest
  rw [hcount] at hread
  rw [leading?, splitSign_toString]
  dsimp only at hread ⊢
  rw [hread]
  rfl

/-- The text of an integer holds its digits behind the sign, and nothing else. -/
theorem exists_readDigits_toString (i : Int) : ∃ count,
    splitSign ((toString i).toList.dropWhile isSpace) =
      (decide (i < 0), Octets.decimal i.natAbs) ∧
    readDigits 10 (Octets.decimal i.natAbs).length (Octets.decimal i.natAbs) =
      (count + 1, i.natAbs, []) := by
  obtain ⟨count, hcount⟩ := exists_length_decimal i.natAbs
  have hsign := splitSign_toString i []
  have hread := readDigits_decimal i.natAbs noDigit_nil
  rw [List.append_nil, List.append_nil] at hsign
  rw [List.append_nil] at hread
  exact ⟨count, hsign, hcount ▸ hread⟩

/-- An integer is a signed word. -/
def Leading.IsSigned (i : Int) : Prop :=
  -leastSize ≤ i ∧ i < leastSize

/-- A signed word is the word that is nearest to it. -/
theorem Leading.signed_eq {i : Int} (hi : IsSigned i) (rest : Octets) :
    let n : Leading := { negative := i < 0, size := i.natAbs, rest }
    n.signed = i ∧ n.exceedsSigned = false := by
  intro n
  obtain ⟨hlow, hhigh⟩ := hi
  have hgreatest : greatest + 1 = leastSize := rfl
  rw [signed, exceedsSigned]
  by_cases hi : i < 0
  · have hnegative : n.negative = true := decide_eq_true hi
    rw [hnegative, if_pos rfl, if_pos rfl]
    constructor
    · change -((min i.natAbs leastSize : Nat) : Int) = i
      omega
    · exact decide_eq_false (show ¬ leastSize < i.natAbs by omega)
  · have hnegative : n.negative = false := decide_eq_false hi
    rw [hnegative, if_neg Bool.false_ne_true, if_neg Bool.false_ne_true]
    constructor
    · change ((min i.natAbs greatest : Nat) : Int) = i
      omega
    · exact decide_eq_false (show ¬ greatest < i.natAbs by omega)

/-- A signed word is read back from the digits that write it. -/
theorem decimal?_toString {i : Int} (hi : Leading.IsSigned i) :
    decimal? (toString i).toList = some i := by
  obtain ⟨count, hsign, hread⟩ := exists_readDigits_toString i
  obtain ⟨hsigned, hexceeds⟩ := Leading.signed_eq hi []
  rw [decimal?, hsign]
  dsimp only
  rw [hread]
  change (if Leading.exceedsSigned _ || !List.all [] isSpace then none else some _) = _
  rw [hexceeds, hsigned]
  rfl

end Number

end LineShell
