import LineShell.Program.Condition
import LineShell.Proofs.Number.Digits
import LineShell.Script.Condition

/-!
# Integers are compared as integers

The program and the builtin that judge conditions read integers back from the digits that write them
and compare them as such; the builtin has room for signed words only. Main statements:
`Program.Condition.judge_comparison`, `Script.Condition.holds_comparison`.
-/

namespace LineShell

/-- A way to compare two integers. -/
inductive Comparison where
  | eq
  | ne
  | lt
  | le
  | gt
  | ge

namespace Comparison

def operator : Comparison → Octets
  | eq => "-eq".toList
  | ne => "-ne".toList
  | lt => "-lt".toList
  | le => "-le".toList
  | gt => "-gt".toList
  | ge => "-ge".toList

def holds : Comparison → Int → Int → Bool
  | eq, i, k => i = k
  | ne, i, k => i ≠ k
  | lt, i, k => i < k
  | le, i, k => i ≤ k
  | gt, i, k => k < i
  | ge, i, k => k ≤ i

end Comparison

variable (inquiry : Inquiry)

namespace Program.Condition

theorem integer_toString (i : Int) : integer (toString i).toList = .ok i := by
  obtain ⟨count, hsign, hread⟩ := Number.exists_readDigits_toString i
  rw [integer, hsign]
  dsimp only
  rw [hread]
  have hsigned : (if decide (i < 0) then -(i.natAbs : Int) else i.natAbs) = i := by
    by_cases hi : i < 0
    · rw [decide_eq_true hi, if_pos rfl]
      omega
    · rw [decide_eq_false hi, if_neg Bool.false_ne_true]
      omega
  exact congrArg Except.ok hsigned

/-- What compares two integers is judged by them, whatever stands behind it. -/
theorem judge_comparison (behind : Option Octets) (c : Comparison) (i k : Int) :
    judge inquiry behind [(toString i).toList, c.operator, (toString k).toList] =
      .ok (c.holds i k) := by
  have hbinary : isBinary c.operator = true := by
    cases c <;> decide
  have hthree : counted inquiry behind 40 3
      [(toString i).toList, c.operator, (toString k).toList] =
        binary inquiry false [(toString i).toList, c.operator, (toString k).toList] :=
    if_pos hbinary
  have hjudged : binary inquiry false [(toString i).toList, c.operator, (toString k).toList] =
      .ok (c.holds i k, []) := by
    rw [binary.eq_def]
    simp only [if_neg Bool.false_ne_true, integer_toString]
    cases c <;> rfl
  change (counted inquiry behind 40 3 _ >>= _) = _
  rw [hthree, hjudged]
  rfl

end Program.Condition

namespace Script.Condition

theorem number_toString {i : Int} (hi : Number.Leading.IsSigned i) :
    number (toString i).toList = .ok i := by
  rw [number, Number.decimal?_toString hi]

theorem holds_comparison (steps : Nat) (c : Comparison) {i k : Int}
    (hi : Number.Leading.IsSigned i) (hk : Number.Leading.IsSigned k) :
    holds inquiry (steps + 1) [(toString i).toList, c.operator, (toString k).toList] =
      .ok (c.holds i k) := by
  have hbinary : isBinary c.operator = true := by
    cases c <;> decide
  have hforced : holds.whole inquiry [(toString i).toList, c.operator, (toString k).toList] =
      testBinary inquiry (String.ofList c.operator) (toString i).toList (toString k).toList := by
    rw [holds.whole]
    simp only [hbinary, if_true]
  have hnot : (toString i).toList ≠ ['!'] := by
    intro h
    obtain ⟨count, hsign, -⟩ := Number.exists_readDigits_toString i
    rw [h] at hsign
    have hdigits : ['!'] = Octets.decimal i.natAbs := congrArg Prod.snd hsign
    have hmark := Number.isDigit_of_mem_decimal '!' (hdigits ▸ List.mem_cons_self)
    exact absurd hmark (by decide)
  rw [holds.eq_def]
  dsimp only
  split
  · rename_i h
    cases h
  · rename_i h
    exact (hnot (List.cons.inj h).1).elim
  · rename_i h
    obtain ⟨rfl, rfl, rfl⟩ : _ ∧ _ ∧ _ := by simpa using h
    rw [if_neg fun h => h.2.2 hbinary, hforced, testBinary.eq_def]
    simp only [number_toString hi, number_toString hk]
    cases c <;> rfl
  · rename_i h
    cases h
  · rename_i h _
    exact (h _ _ _ rfl).elim

end Script.Condition

end LineShell
