import LineShell.Number.Real

/-!
# Laying out numbers and texts

A layout says in how many columns a number or a text is written, how it is filled up, and which sign
stands before a number. Fractions are written exactly, then rounded to the digits asked for, a half
going to the even neighbour.
-/

namespace LineShell.Number

/-- How something is laid out. -/
structure Layout where
  /-- Whether it stands at the left of its width. -/
  left : Bool := false
  /-- Whether a plus stands before a number that is not negative. -/
  plus : Bool := false
  /-- Whether a space stands there if no plus does. -/
  space : Bool := false
  /-- Whether zeros fill up the width behind the sign. -/
  zeros : Bool := false
  /-- Whether the base is marked, and a point is always written. -/
  alternate : Bool := false
  /-- The least number of columns. -/
  width : Nat := 0
  /-- The greatest number of bytes of a text, the least number of digits of an integer, or the
  number of digits behind the point. -/
  precision : Option Nat := none
deriving DecidableEq, Repr

namespace Layout

/-- Fills a text up to the width with spaces. -/
def pad (l : Layout) (cs : Octets) : Octets :=
  let fill := List.replicate (l.width - cs.length) ' '
  if l.left then cs ++ fill else fill ++ cs

/-- A text. -/
def text (l : Layout) (cs : Octets) : Octets :=
  l.pad (match l.precision with
    | none => cs
    | some n => cs.take n)

/-- What stands before a number. -/
def sign (l : Layout) (negative : Bool) : Octets :=
  if negative then ['-'] else if l.plus then ['+'] else if l.space then [' '] else []

/-- A number from its sign and its digits, filled up with zeros between them if that is asked
for. -/
def signed (l : Layout) (zeros : Bool) (sign digits : Octets) : Octets :=
  let fill :=
    if zeros && l.zeros && !l.left then
      List.replicate (l.width - (sign.length + digits.length)) '0'
    else []
  l.pad (sign ++ fill ++ digits)

/-! ## Integers -/

/-- The digits of an integer, at least as many as the precision asks for. Zero has none if it asks
for none. -/
def digits (l : Layout) (base n : Nat) : Octets :=
  let ds := if l.precision = some 0 ∧ n = 0 then [] else Nat.toDigits base n
  List.replicate (l.precision.getD 1 - ds.length) '0' ++ ds

/-- An integer with its sign. -/
def integer (l : Layout) (n : Int) : Octets :=
  l.signed l.precision.isNone (l.sign (n < 0)) (l.digits 10 n.natAbs)

/-- An integer without a sign in a base, as a letter asks for it. The octal mark is a zero in front;
the hexadecimal one is left out before zero. -/
def natural (l : Layout) (letter : Char) (n : Nat) : Octets :=
  let base := if letter = 'o' then 8 else if letter = 'u' then 10 else 16
  let ds := l.digits base n
  let ds := if letter = 'X' then ds.map Char.toUpper else ds
  let ds := if l.alternate && base = 8 && ds.head? ≠ some '0' then '0' :: ds else ds
  let mark := if l.alternate && base = 16 && n ≠ 0 then ['0', letter] else []
  l.signed l.precision.isNone mark ds

/-! ## Fractions -/

/-- A mantissa times a power of two times a power of ten, rounded to an integer. -/
def scaled (m : Nat) (e k : Int) : Nat :=
  roundDiv (m * twoTo e * power 10 k) (twoTo (-e) * power 10 (-k))

/-- The power of ten at the first digit of a mantissa times a power of two. -/
def magnitude (m : Nat) (e : Int) : Int :=
  let n := m * twoTo e
  let d := twoTo (-e)
  let k : Int := (Nat.toDigits 10 n).length - (Nat.toDigits 10 d).length
  if d * power 10 k ≤ n * power 10 (-k) then k else k - 1

/-- The power of ten at the first digit after rounding to so many digits behind it, and these digits
as an integer. -/
def rounded (m : Nat) (e : Int) (places : Nat) : Int × Nat :=
  if m = 0 then (0, 0)
  else
    let k := magnitude m e
    let n := scaled m e (places - k)
    if power 10 (places + 1) ≤ n then (k + 1, scaled m e (places - (k + 1))) else (k, n)

/-- Digits with a point before the last ones. Without digits behind it the point is written only if
that is asked for. -/
def withPoint (point : Bool) (places n : Nat) : Octets :=
  let ds := Nat.toDigits 10 n
  let ds := List.replicate (places + 1 - ds.length) '0' ++ ds
  let mark := if places = 0 ∧ ¬ point then [] else ['.']
  ds.take (ds.length - places) ++ mark ++ ds.drop (ds.length - places)

/-- An exponent behind its letter, with a sign and at least so many digits. -/
def exponent (letter : Char) (least : Nat) (k : Int) : Octets :=
  let ds := Octets.decimal k.natAbs
  letter :: (if k < 0 then '-' else '+') :: (List.replicate (least - ds.length) '0' ++ ds)

/-- Digits with a point, without the zeros at the end and without a point at the end. -/
def dropZeros (cs : Octets) : Octets :=
  if cs.contains '.' then
    ((cs.reverse.dropWhile (· = '0')).dropWhile (· = '.')).reverse
  else cs

/-- A fraction in positional form. -/
def positional (l : Layout) (m : Nat) (e : Int) (places : Nat) : Octets :=
  withPoint l.alternate places (scaled m e places)

/-- A fraction with an exponent. -/
def scientific (l : Layout) (m : Nat) (e : Int) (places : Nat) : Octets :=
  let (k, n) := rounded m e places
  withPoint l.alternate places n ++ exponent 'e' 2 k

/-- A fraction in the form that suits its size, without zeros at the end. -/
def general (l : Layout) (m : Nat) (e : Int) (precision : Nat) : Octets :=
  let places := (if precision = 0 then 1 else precision) - 1
  let (k, n) := rounded m e places
  let strip := if l.alternate then id else dropZeros
  if -4 ≤ k ∧ k ≤ places then
    let places := ((places : Int) - k).toNat
    strip (withPoint l.alternate places (scaled m e places))
  else strip (withPoint l.alternate places n) ++ exponent 'e' 2 k

/-- A fraction in hexadecimal digits, of which the first holds the leading bits of the format. The
power of two behind them is that of the first digit's last bit. -/
def hexadecimal (l : Layout) (f : Format) (m : Nat) (e : Int) : Octets :=
  let bits := f.precision - f.leading
  let e := if m = 0 then 0 else e + bits
  let all := bits / 4
  let places := l.precision.getD all
  let n := if places < all then roundDiv m (power 16 (all - places)) else m
  let kept := min places all
  let first := n / power 16 kept
  let (first, e) := if first = 16 then (1, e + 4) else (first, e)
  let ds := Nat.toDigits 16 (n % power 16 kept)
  let ds := List.replicate (kept - ds.length) '0' ++ ds.take kept
  let ds :=
    if l.precision.isNone then (ds.reverse.dropWhile (· = '0')).reverse
    else ds ++ List.replicate (places - all) '0'
  let mark := if ds = [] ∧ ¬ l.alternate then [] else ['.']
  Nat.toDigits 16 first ++ mark ++ ds ++ exponent 'p' 1 e

/-- A number, as a letter asks for it; in upper case if the letter is. -/
def real (l : Layout) (f : Format) (letter : Char) (x : Real) : Octets :=
  let case := if letter.isUpper then List.map Char.toUpper else id
  match x with
  | .infinite negative => l.pad (l.sign negative ++ case "inf".toList)
  | .undefined negative => l.pad (l.sign negative ++ case "nan".toList)
  | .finite negative m e =>
    let sign := l.sign negative
    let places := l.precision.getD 6
    match letter.toLower with
    | 'a' => l.signed true (sign ++ case "0x".toList) (case (l.hexadecimal f m e))
    | 'e' => l.signed true sign (case (l.scientific m e places))
    | 'g' => l.signed true sign (case (l.general m e places))
    | _ => l.signed true sign (l.positional m e places)

end Layout

end LineShell.Number
