import LineShell.Number.Digits

/-!
# Binary fractions

A fraction that a program reads is kept with so many binary digits as its format has: the nearest
one, and of two that are equally near the even one. One that is too great is infinite, and one that
is too small is zero.
-/

namespace LineShell.Number

/-- A format of binary fractions. -/
structure Format where
  /-- The number of binary digits. -/
  precision : Nat
  /-- The number of these that stand before the point when the fraction is written in hexadecimal
  digits. -/
  leading : Nat
  /-- The power of two that no number reaches. -/
  limit : Int
  /-- The power of two that divides every number. -/
  grain : Int
deriving DecidableEq, Repr

/-- The format with 53 digits. -/
def Format.double : Format where
  precision := 53
  leading := 1
  limit := 1024
  grain := -1074

/-- The format with 64 digits. -/
def Format.extended : Format where
  precision := 64
  leading := 4
  limit := 16384
  grain := -16445

/-- A number of a format. -/
inductive Real where
  /-- A mantissa times a power of two. -/
  | finite (negative : Bool) (mantissa : Nat) (exponent : Int)
  /-- Greater than all others, or less than all others. -/
  | infinite (negative : Bool)
  /-- No number. -/
  | undefined (negative : Bool)
deriving DecidableEq, Repr

/-- The quotient, rounded to the nearest integer, and to the even one of two. -/
def roundDiv (n d : Nat) : Nat :=
  let q := n / d
  let r := n % d
  if d < 2 * r ∨ (2 * r = d ∧ q % 2 = 1) then q + 1 else q

/-- A base raised to the positive part of an exponent. -/
def power (base : Nat) (e : Int) : Nat :=
  base.pow e.toNat

/-- Two raised to the positive part of an exponent. -/
def twoTo (e : Int) : Nat :=
  power 2 e

/-- The number of a format that is nearest to a quotient, and whether it is out of the format's
range. -/
def Format.round (f : Format) (negative : Bool) (n d : Nat) : Real × Bool :=
  if n = 0 ∨ d = 0 then (.finite negative 0 0, false)
  else
    let e : Int := (Nat.log2 n : Int) - Nat.log2 d - f.precision
    let small := n * twoTo (-e) < d * twoTo e * twoTo f.precision
    let exponent := max (if small then e else e + 1) f.grain
    let scaled := n * twoTo (-exponent)
    let whole := d * twoTo exponent
    let rounded := roundDiv scaled whole
    let (mantissa, exponent) :=
      if rounded = twoTo f.precision then (rounded / 2, exponent + 1) else (rounded, exponent)
    if f.limit ≤ (Nat.log2 mantissa : Int) + exponent then (.infinite negative, true)
    else
      let lossy := scaled % whole ≠ 0 && mantissa < twoTo (f.precision - 1)
      (.finite negative mantissa exponent, lossy)

/-- A number at the front of a text. -/
structure LeadingReal where
  /-- The number. -/
  value : Real
  /-- Whether it was out of range. -/
  outOfRange : Bool
  /-- What stands behind it. -/
  rest : Octets
deriving DecidableEq, Repr

/-- What stands behind a word at the front of a text, in either case. -/
def dropWord? (word : String) (cs : Octets) : Option Octets :=
  let n := word.toList.length
  if (cs.take n).map Char.toLower = word.toList then some (cs.drop n) else none

/-- What stands behind the remark in parentheses that may follow an undefined number. -/
def dropRemark : Octets → Octets
  | '(' :: cs =>
    match cs.dropWhile fun c => c.isAlphanum || c = '_' with
    | ')' :: rest => rest
    | _ => '(' :: cs
  | cs => cs

/-- Digits with a point among them: their number, their value without the point, how many stand
behind the point, and what stands behind them all. -/
def readFraction (base : Nat) (cs : Octets) : Nat × Nat × Nat × Octets :=
  let (before, value, rest) := readDigits base cs.length cs
  match rest with
  | '.' :: ds =>
    let (behind, value, rest') := readDigits.go base 0 value ds.length ds
    if before + behind = 0 then (0, 0, 0, cs) else (before + behind, value, behind, rest')
  | _ => (before, value, 0, rest)

/-- The exponent behind its letter, if there is one, and what stands behind it. -/
def readExponent (letter : Char) (cs : Octets) : Int × Octets :=
  match cs with
  | c :: ds =>
    if c.toLower = letter then
      let (negative, digits) := splitSign ds
      match readDigits 10 digits.length digits with
      | (0, _, _) => (0, cs)
      | (_, n, rest) => (if negative then -n else n, rest)
    else (0, cs)
  | [] => (0, cs)

/-- A power of two behind which every number of every format is infinite, and whose inverse is
behind all that are not zero. -/
def farAway : Int :=
  20000

/-- The number of a format that is nearest to a value times a power of two or of ten. Far beyond the
range of the format no exact power is needed. -/
def Format.scale (f : Format) (negative : Bool) (base value : Nat) (exponent : Int) : Real × Bool :=
  let place := Nat.log2 value + exponent * Nat.log2 base
  if value = 0 then (.finite negative 0 0, false)
  else if 0 ≤ exponent ∧ farAway < place then (.infinite negative, true)
  else if exponent < 0 ∧ place < -farAway then (.finite negative 0 0, true)
  else f.round negative (value * power base exponent) (power base (-exponent))

/-- The number at the front of a text, if there is one. -/
def Format.leading? (f : Format) (cs : Octets) : Option LeadingReal :=
  let (negative, cs) := splitSign (cs.dropWhile isSpace)
  if let some rest := dropWord? "infinity" cs then
    some ⟨.infinite negative, false, rest⟩
  else if let some rest := dropWord? "inf" cs then
    some ⟨.infinite negative, false, rest⟩
  else if let some rest := dropWord? "nan" cs then
    some ⟨.undefined negative, false, dropRemark rest⟩
  else if isHexadecimal cs || (cs[2]? = some '.' && isHexadecimal (cs.take 2 ++ cs.drop 3)) then
    let (_, value, behind, rest) := readFraction 16 (cs.drop 2)
    let (power, rest) := readExponent 'p' rest
    let (x, out) := f.scale negative 2 value (power - 4 * behind)
    some ⟨x, out, rest⟩
  else
    match readFraction 10 cs with
    | (0, _, _, _) => none
    | (_, value, behind, rest) =>
      let (power, rest) := readExponent 'e' rest
      let (x, out) := f.scale negative 10 value (power - behind)
      some ⟨x, out, rest⟩

end LineShell.Number
