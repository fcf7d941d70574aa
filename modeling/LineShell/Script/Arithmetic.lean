import LineShell.Number.Digits
import LineShell.Script.Tree

/-!
# Calculations

A calculation is made with signed words of 64 bits, which wrap around. Its variables are those of
the script; assignments in it change them. It is made while it is read, so what comes before a
mistake is done. Parts that are not needed are only read.
-/

namespace LineShell.Script

/-- An operation on two numbers. -/
inductive Operation where
  /-- The product. -/
  | mul
  /-- The quotient, cut off towards zero. -/
  | div
  /-- What a division leaves, with the sign of the first number. -/
  | rem
  /-- The sum. -/
  | add
  /-- The difference. -/
  | sub
  /-- Bits moved to the left. -/
  | shiftLeft
  /-- Bits moved to the right, keeping the sign. -/
  | shiftRight
  /-- Whether the first number is less. -/
  | lt
  /-- Whether it is not greater. -/
  | le
  /-- Whether it is greater. -/
  | gt
  /-- Whether it is not less. -/
  | ge
  /-- Whether the numbers are equal. -/
  | eq
  /-- Whether they differ. -/
  | ne
  /-- The bits that both have. -/
  | bitAnd
  /-- The bits that only one of them has. -/
  | bitXor
  /-- The bits that one of them has. -/
  | bitOr
deriving DecidableEq, Repr

namespace Operation

/-- How closely an operation binds; the closer, the greater. -/
def rank : Operation → Nat
  | mul | div | rem => 8
  | add | sub => 7
  | shiftLeft | shiftRight => 6
  | lt | le | gt | ge => 5
  | eq | ne => 4
  | bitAnd => 3
  | bitXor => 2
  | bitOr => 1

/-- The number that says whether something holds. -/
def truth (b : Bool) : Int64 :=
  if b then 1 else 0

/-- The result, unless there is a division by zero. -/
def result? (op : Operation) (a b : Int64) : Option Int64 :=
  match op with
  | mul => some (a * b)
  | div => if b = 0 then none else some (a / b)
  | rem => if b = 0 then none else some (a % b)
  | add => some (a + b)
  | sub => some (a - b)
  | shiftLeft => some (a <<< b)
  | shiftRight => some (a >>> b)
  | lt => some (truth (a < b))
  | le => some (truth (a ≤ b))
  | gt => some (truth (b < a))
  | ge => some (truth (b ≤ a))
  | eq => some (truth (a = b))
  | ne => some (truth (a ≠ b))
  | bitAnd => some (a &&& b)
  | bitXor => some (a ^^^ b)
  | bitOr => some (a ||| b)

end Operation

/-- An operation on one number. -/
inductive Change where
  /-- The number with the other sign. -/
  | negate
  /-- Whether it is zero. -/
  | not
  /-- All bits that it does not have. -/
  | complement
deriving DecidableEq, Repr

/-- The result of an operation on one number. -/
def Change.apply : Change → Int64 → Int64
  | negate, a => -a
  | not, a => Operation.truth (a = 0)
  | complement, a => ~~~a

/-! ## Pieces -/

namespace Calculation

/-- A piece of the text of a calculation. -/
inductive Piece where
  /-- The end of the text. -/
  | atEnd
  /-- A number. -/
  | number (n : Int64)
  /-- A name. -/
  | name (text : Octets)
  /-- A sign. -/
  | sign (text : String)
  /-- A character that is part of nothing else. -/
  | other
deriving DecidableEq, Repr

/-- The signs, the longer before the shorter. -/
def signs : List String :=
  ["<<=", ">>=", "||", "&&", "==", "!=", "<=", ">=", "<<", ">>", "*=", "/=", "%=", "+=", "-=", "&=",
    "^=", "|=", "=", "<", ">", "!", "|", "^", "&", "+", "-", "*", "/", "%", "~", "(", ")", "?", ":"]

/-- The piece at the front of a text, and what stands behind it. Nothing stands behind a character
that is part of nothing else: it is found again and again. -/
def piece (cs : Octets) : Piece × Octets :=
  match cs.dropWhile fun c => c = ' ' || c = '\t' || c = '\n' with
  | [] => (.atEnd, [])
  | c :: cs =>
    if isNameStart c then
      (.name ((c :: cs).takeWhile isNameChar), cs.dropWhile isNameChar)
    else match if c.isDigit then Number.leading? (c :: cs) else none with
      | some n => (.number (Int64.ofInt n.signed), n.rest)
      | none =>
        match signs.find? fun sign => sign.toList.isPrefixOf (c :: cs) with
        | some sign => (.sign sign, (c :: cs).drop sign.length)
        | none => (.other, c :: cs)

/-- The operation of a sign between two numbers. -/
def operation? : Piece → Option Operation
  | .sign "*" => some .mul
  | .sign "/" => some .div
  | .sign "%" => some .rem
  | .sign "+" => some .add
  | .sign "-" => some .sub
  | .sign "<<" => some .shiftLeft
  | .sign ">>" => some .shiftRight
  | .sign "<" => some .lt
  | .sign "<=" => some .le
  | .sign ">" => some .gt
  | .sign ">=" => some .ge
  | .sign "==" => some .eq
  | .sign "!=" => some .ne
  | .sign "&" => some .bitAnd
  | .sign "^" => some .bitXor
  | .sign "|" => some .bitOr
  | _ => none

/-- The operation of a sign that assigns, if it has one. -/
def assigning? : Piece → Option (Option Operation)
  | .sign "=" => some none
  | .sign "*=" => some (some .mul)
  | .sign "/=" => some (some .div)
  | .sign "%=" => some (some .rem)
  | .sign "+=" => some (some .add)
  | .sign "-=" => some (some .sub)
  | .sign "<<=" => some (some .shiftLeft)
  | .sign ">>=" => some (some .shiftRight)
  | .sign "&=" => some (some .bitAnd)
  | .sign "^=" => some (some .bitXor)
  | .sign "|=" => some (some .bitOr)
  | _ => none

/-! ## Making calculations -/

/-- What a calculation asks of the script. -/
structure Surroundings (m : Type → Type) where
  /-- The value of a variable. -/
  read : Octets → m Int64
  /-- Gives a variable a value. -/
  write : Octets → Int64 → m Unit
  /-- Ends the calculation with a complaint. -/
  wrong : String → m Int64

/-- The place in a calculation: the piece at hand, and the text behind it. -/
structure Place where
  /-- The piece at hand. -/
  piece : Piece
  /-- What stands behind it. -/
  rest : Octets

/-- The place at the front of a text. -/
def Place.ofText (cs : Octets) : Place where
  piece := (Calculation.piece cs).1
  rest := (Calculation.piece cs).2

/-- The place behind the piece at hand. -/
def Place.next (p : Place) : Place :=
  Place.ofText p.rest

variable {m : Type → Type} [Monad m] (outside : Surroundings m)

/-- The result of an operation, unless the calculation is only read. -/
def operate (idle : Bool) (op : Operation) (a b : Int64) : m Int64 :=
  if idle then pure b
  else match op.result? a b with
    | some result => pure result
    | none => outside.wrong "division by zero"

mutual

/-- An assignment, or a calculation without one, from a place on; its value, and the place behind
it. -/
def whole : Nat → Bool → Place → m (Int64 × Place)
  | 0, _, p => return (← outside.wrong "expecting primary", p)
  | steps + 1, idle, p => do
    match p.piece, assigning? p.next.piece with
    | .name name, some op =>
      let (b, q) ← whole steps idle p.next.next
      if idle then return (b, q)
      let result ←
        match op with
        | none => pure b
        | some op => do operate outside false op (← outside.read name) b
      outside.write name result
      return (result, q)
    | _, _ => choosing steps idle p

/-- A choice, or a calculation without one. -/
def choosing : Nat → Bool → Place → m (Int64 × Place)
  | 0, _, p => return (← outside.wrong "expecting primary", p)
  | steps + 1, idle, p => do
    let (test, p) ← either steps idle p
    if p.piece ≠ .sign "?" then return (test, p)
    let (first, p) ← whole steps (idle || test = 0) p.next
    if p.piece ≠ .sign ":" then return (← outside.wrong "expecting ':'", p)
    let (second, p) ← choosing steps (idle || test ≠ 0) p.next
    return (if test ≠ 0 then first else second, p)

/-- Alternatives. -/
def either : Nat → Bool → Place → m (Int64 × Place)
  | 0, _, p => return (← outside.wrong "expecting primary", p)
  | steps + 1, idle, p => do
    let (first, p) ← both steps idle p
    if p.piece ≠ .sign "||" then return (first, p)
    let (second, p) ← either steps (idle || first ≠ 0) p.next
    return (Operation.truth (first ≠ 0 || second ≠ 0), p)

/-- Conditions that have to hold together. -/
def both : Nat → Bool → Place → m (Int64 × Place)
  | 0, _, p => return (← outside.wrong "expecting primary", p)
  | steps + 1, idle, p => do
    let (first, p) ← operand steps idle p
    let (first, p) ← operations steps idle 0 first p
    if p.piece ≠ .sign "&&" then return (first, p)
    let (second, p) ← both steps (idle || first = 0) p.next
    return (Operation.truth (first ≠ 0 && second ≠ 0), p)

/-- Goes on behind a number with operations that bind more closely than a rank. -/
def operations : Nat → Bool → Nat → Int64 → Place → m (Int64 × Place)
  | 0, _, _, _, p => return (← outside.wrong "expecting primary", p)
  | steps + 1, idle, rank, first, p => do
    match operation? p.piece with
    | none => return (first, p)
    | some op =>
      if op.rank ≤ rank then return (first, p)
      let (second, p) ← operand steps idle p.next
      let (second, p) ← operations steps idle op.rank second p
      operations steps idle rank (← operate outside idle op first second) p

/-- A number, a variable, or a calculation in parentheses, with operations on it. -/
def operand : Nat → Bool → Place → m (Int64 × Place)
  | 0, _, p => return (← outside.wrong "expecting primary", p)
  | steps + 1, idle, p => do
    match p.piece with
    | .number n => return (n, p.next)
    | .name name => return (← if idle then pure 0 else outside.read name, p.next)
    | .sign "(" =>
      let (inner, p) ← whole steps idle p.next
      if p.piece = .sign ")" then return (inner, p.next)
      else return (← outside.wrong "expecting ')'", p)
    | .sign "+" => operand steps idle p.next
    | .sign "-" => changed steps idle .negate p.next
    | .sign "!" => changed steps idle .not p.next
    | .sign "~" => changed steps idle .complement p.next
    | _ => return (← outside.wrong "expecting primary", p)

/-- An operand with an operation on it. -/
def changed : Nat → Bool → Change → Place → m (Int64 × Place)
  | 0, _, _, p => return (← outside.wrong "expecting primary", p)
  | steps + 1, idle, how, p => do
    let (inner, p) ← operand steps idle p
    return (how.apply inner, p)

end

/-- The result of the calculation that a text writes. Each piece is reached in few steps down the
grammar, so their number is enough many times over. -/
def result (cs : Octets) : m Int64 := do
  let (n, p) ← whole outside (10 * (cs.length + 1)) false (Place.ofText cs)
  if p.piece = .atEnd then return n else outside.wrong "expecting EOF"

end Calculation

end LineShell.Script
