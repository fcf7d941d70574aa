/-!
# Ranges of code points

Character properties are given as lists of closed ranges of code points.
-/

namespace LineShell.Text

/-- A closed range of code points. -/
structure CodeRange where
  /-- The least code point of the range. -/
  first : Nat
  /-- The greatest code point of the range. -/
  last : Nat
deriving DecidableEq, Repr

/-- A character lies in a range when its code point lies between the ends, both included. -/
instance : Membership Char CodeRange where
  mem r c := r.first ≤ c.toNat ∧ c.toNat ≤ r.last

instance (c : Char) (r : CodeRange) : Decidable (c ∈ r) :=
  inferInstanceAs (Decidable (r.first ≤ c.toNat ∧ c.toNat ≤ r.last))

/-- Whether some range of the list holds the character. -/
def covers (rs : List CodeRange) (c : Char) : Bool :=
  rs.any fun r => c ∈ r

theorem covers_eq_true_iff {rs : List CodeRange} {c : Char} :
    covers rs c = true ↔ ∃ r ∈ rs, c ∈ r := by
  simp [covers]

end LineShell.Text
