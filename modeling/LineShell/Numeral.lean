/-!
# Decimal numerals

Numbers are typed in decimal. A number has to fit a machine word of 64 bits; one that does not fit
is no number at all, so nothing wraps and nothing is cut off at the top.
-/

namespace LineShell.Numeral

/-- The greatest number of a machine word. -/
def wordMax : Nat :=
  UInt64.size - 1

/-- The value of a digit. -/
def digitValue (c : Char) : Nat :=
  c.toNat - '0'.toNat

/-- The value of a run of digits, the most significant first. -/
def value (ds : List Char) : Nat :=
  ds.foldl (fun n d => 10 * n + digitValue d) 0

/-- The number that a run of digits writes, if there is a digit and the number fits a word. -/
def word? (ds : List Char) : Option Nat :=
  if ds ≠ [] ∧ ds.all Char.isDigit ∧ value ds ≤ wordMax then some (value ds) else none

/-- The text without one plus sign at its front. -/
def skipPlus : List Char → List Char
  | '+' :: cs => cs
  | cs => cs

theorem word?_eq_some_iff {ds : List Char} {n : Nat} :
    word? ds = some n ↔
      (ds ≠ [] ∧ (∀ d ∈ ds, d.isDigit = true) ∧ value ds ≤ wordMax) ∧ value ds = n := by
  rw [word?, ← List.all_eq_true]
  split
  · rename_i h
    exact ⟨fun hn => ⟨h, Option.some.inj hn⟩, fun hn => congrArg some hn.2⟩
  · rename_i h
    exact ⟨fun hn => (nomatch hn), fun hn => absurd hn.1 h⟩

theorem value_eq_ofDigitChars (ds : List Char) : value ds = Nat.ofDigitChars 10 ds 0 :=
  Nat.ofDigitChars_eq_foldl.symm

theorem word?_of_isDigit {ds : List Char} (h : ∀ d ∈ ds, d.isDigit = true) :
    word? ds = if ds ≠ [] ∧ value ds ≤ wordMax then some (value ds) else none := by
  simp only [word?, List.all_eq_true.mpr h, true_and]

theorem isDigit_of_mem_decimal {zeros n : Nat} :
    ∀ d ∈ List.replicate zeros '0' ++ Nat.toDigits 10 n, d.isDigit = true := by
  intro d hd
  rcases List.mem_append.mp hd with hd | hd
  · rw [List.eq_of_mem_replicate hd]
    rfl
  · exact Nat.isDigit_of_mem_toDigits (by decide) (by decide) hd

/-- Zeros before a number in decimal do not change its value. -/
theorem value_decimal (zeros n : Nat) :
    value (List.replicate zeros '0' ++ Nat.toDigits 10 n) = n := by
  rw [value_eq_ofDigitChars, Nat.ofDigitChars_append, Nat.ofDigitChars_replicate_zero,
    Nat.mul_zero, Nat.ofDigitChars_ten_toDigits]

end LineShell.Numeral
