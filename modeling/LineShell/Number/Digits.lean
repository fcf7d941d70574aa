import LineShell.Text.Octets

/-!
# Digits and integers

Programs read numbers at the front of a text. An integer has blanks and a sign in front, and a
base: hexadecimal behind `0x`, octal behind a zero, decimal otherwise.
-/

namespace LineShell

/-- The value of a digit in a base up to sixteen. -/
def digitIn? (base : Nat) (c : Char) : Option Nat :=
  let d :=
    if c.isDigit then c.toNat - '0'.toNat
    else if 'a' ≤ c ∧ c ≤ 'f' then c.toNat - 'a'.toNat + 10
    else if 'A' ≤ c ∧ c ≤ 'F' then c.toNat - 'A'.toNat + 10
    else base
  if d < base then some d else none

/-- Reads at most so many digits: their number, their value, and what stands behind them. -/
def readDigits (base : Nat) : Nat → List Char → Nat × Nat × List Char
  | most, cs => go 0 0 most cs
where
  /-- Goes on behind some digits of a known value. -/
  go (seen value : Nat) : Nat → List Char → Nat × Nat × List Char
    | most + 1, c :: cs =>
      match digitIn? base c with
      | some d => go (seen + 1) (base * value + d) most cs
      | none => (seen, value, c :: cs)
    | _, cs => (seen, value, cs)

theorem length_readDigits_go_le (base seen value most : Nat) (cs : List Char) :
    (readDigits.go base seen value most cs).2.2.length ≤ cs.length := by
  induction cs generalizing seen value most with
  | nil => cases most <;> simp [readDigits.go]
  | cons c cs ih =>
    cases most with
    | zero => simp [readDigits.go]
    | succ most =>
      simp only [readDigits.go]
      split
      · exact Nat.le_succ_of_le (ih _ _ _)
      · simp

/-- Reading digits leaves no more than there was. -/
theorem length_readDigits_le (base most : Nat) (cs : List Char) :
    (readDigits base most cs).2.2.length ≤ cs.length :=
  length_readDigits_go_le base 0 0 most cs

namespace Number

/-- Blanks that may stand before a number. -/
def isSpace (c : Char) : Bool :=
  c = ' ' || (9 ≤ c.toNat && c.toNat ≤ 13)

/-- Whether a number is negative by its sign, and what stands behind that. -/
def splitSign : Octets → Bool × Octets
  | '-' :: cs => (true, cs)
  | '+' :: cs => (false, cs)
  | cs => (false, cs)

/-- Whether a hexadecimal number begins here, by its mark and a digit. -/
def isHexadecimal : Octets → Bool
  | '0' :: x :: d :: _ => (x = 'x' || x = 'X') && (digitIn? 16 d).isSome
  | _ => false

/-- The base of an integer, and its digits. -/
def splitBase (cs : Octets) : Nat × Octets :=
  if isHexadecimal cs then (16, cs.drop 2)
  else if cs.head? = some '0' then (8, cs)
  else (10, cs)

/-- An integer at the front of a text. -/
structure Leading where
  /-- Whether a minus stands before it. -/
  negative : Bool
  /-- Its size. -/
  size : Nat
  /-- What stands behind it. -/
  rest : Octets
deriving DecidableEq, Repr

/-- The integer at the front of a text, if there is one. -/
def leading? (cs : Octets) : Option Leading :=
  let (negative, ds) := splitSign (cs.dropWhile isSpace)
  let (base, ds) := splitBase ds
  match readDigits base ds.length ds with
  | (0, _, _) => none
  | (_, size, rest) => some { negative, size, rest }

namespace Leading

/-- The size of the least signed word. -/
def leastSize : Nat :=
  UInt64.size / 2

/-- The greatest signed word. -/
def greatest : Nat :=
  leastSize - 1

/-- The integer, or the signed word that is nearest to it. -/
def signed (n : Leading) : Int :=
  if n.negative then -(min n.size leastSize : Nat) else (min n.size greatest : Nat)

/-- Whether no signed word is the integer. -/
def exceedsSigned (n : Leading) : Bool :=
  if n.negative then leastSize < n.size else greatest < n.size

/-- The integer as an unsigned word. A negative one wraps around; one that does not fit is the
greatest. -/
def unsigned (n : Leading) : Nat :=
  if UInt64.size ≤ n.size then UInt64.size - 1
  else if n.negative then (UInt64.size - n.size) % UInt64.size
  else n.size

/-- Whether the size of the integer is no unsigned word. -/
def exceedsUnsigned (n : Leading) : Bool :=
  UInt64.size ≤ n.size

end Leading

/-- The signed word that a text writes in decimal digits, with blanks around it. -/
def decimal? (cs : Octets) : Option Int :=
  let (negative, ds) := splitSign (cs.dropWhile isSpace)
  match readDigits 10 ds.length ds with
  | (0, _, _) => none
  | (_, size, rest) =>
    let n : Leading := { negative, size, rest }
    if n.exceedsSigned || !rest.all isSpace then none else some n.signed

end Number

end LineShell
