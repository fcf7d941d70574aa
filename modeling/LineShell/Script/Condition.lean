import LineShell.Number.Digits
import LineShell.System.Inquiry

/-!
# Conditions

A condition is given by words: operands, and operators with one operand or with two. Which of them a
word is depends on the words around it, and for few words on their number alone.
-/

namespace LineShell.Script.Condition

/-- What a word is by itself. -/
inductive Operator where
  /-- Stands before its operand. -/
  | unary (text : String)
  /-- Stands between its operands. -/
  | binary (text : String)
  /-- Joins conditions that have to hold together. -/
  | both
  /-- Joins conditions of which one has to hold. -/
  | either
  /-- Turns a condition into its opposite. -/
  | opposite
  /-- Opens parentheses. -/
  | opening
  /-- Closes them. -/
  | closing
deriving DecidableEq, Repr

/-- The operators with one operand. -/
def unaries : List String :=
  ["-r", "-w", "-x", "-e", "-f", "-d", "-c", "-b", "-p", "-u", "-g", "-k", "-s", "-t", "-z", "-n",
    "-h", "-O", "-G", "-L", "-S"]

/-- The operators with two operands. -/
def binaries : List String :=
  ["=", "!=", "<", ">", "-eq", "-ne", "-ge", "-gt", "-le", "-lt", "-nt", "-ot", "-ef"]

/-- The operator that a word is by itself, if it is one. -/
def operator? (word : Octets) : Option Operator :=
  let text := String.ofList word
  if unaries.contains text then some (.unary text)
  else if binaries.contains text then some (.binary text)
  else match text with
    | "-a" => some .both
    | "-o" => some .either
    | "!" => some .opposite
    | "(" => some .opening
    | ")" => some .closing
    | _ => none

/-- Whether a word is an operator between two others. -/
def isBinary (word : Octets) : Bool :=
  match operator? word with
  | some (.binary _) => true
  | _ => false

/-- What the first of some words is. -/
inductive Role where
  /-- There is no word. -/
  | missing
  /-- An operand. -/
  | operand
  /-- An operator. -/
  | operator (op : Operator)
deriving DecidableEq, Repr

/-- What the first of some words is among them: an operator with one operand is none if it has no
operand, or stands before one with two; and so is a parenthesis at the end. -/
def role : List Octets → Role
  | [] => .missing
  | word :: words =>
    match operator? word with
    | none => .operand
    | some (.unary text) =>
      match words with
      | [] => .operand
      | [_] => .operator (.unary text)
      | next :: _ => if isBinary next then .operand else .operator (.unary text)
    | some .opening => if words = [] then .operand else .operator .opening
    | some op => .operator op

/-- The number that a text writes in decimal digits, with blanks around it. -/
def number (text : Octets) : Except Octets Int :=
  match Number.decimal? text with
  | some n => .ok n
  | none => .error ("Illegal number: ".toList ++ text)

/-- Whether an operator with one operand holds. -/
def testUnary (inquiry : Inquiry) (op : String) (word : Octets) : Except Octets Bool :=
  match op with
  | "-z" => .ok (word = [])
  | "-n" => .ok (word ≠ [])
  | "-t" => do
    discard <| number word
    return false
  | _ => .ok (inquiry.holds (op.toList.getLastD ' ') word)

/-- Whether an operator with two operands holds. -/
def testBinary (inquiry : Inquiry) (op : String) (a b : Octets) : Except Octets Bool := do
  match op with
  | "=" => return a = b
  | "!=" => return a ≠ b
  | "<" => return a < b
  | ">" => return b < a
  | "-eq" => return (← number a) = (← number b)
  | "-ne" => return (← number a) ≠ (← number b)
  | "-ge" => return (← number b) ≤ (← number a)
  | "-gt" => return (← number b) < (← number a)
  | "-le" => return (← number a) ≤ (← number b)
  | "-lt" => return (← number a) < (← number b)
  | "-ef" => return inquiry.areSame a b
  | _ => return false

/-- Whether a condition holds, and the words from its last one on; or what is wrong with it. -/
abbrev Tested := Except Octets (Bool × List Octets)

mutual

/-- Conditions of which one has to hold, from the first of some words on. -/
def any (inquiry : Inquiry) : Nat → List Octets → Tested
  | 0, _ => .error []
  | steps + 1, words => do
    let (first, words) ← all inquiry steps words
    if role words.tail = .operator .either then
      let (second, words) ← any inquiry steps (words.drop 2)
      return (first || second, words)
    else return (first, words)

/-- Conditions that have to hold together. -/
def all (inquiry : Inquiry) : Nat → List Octets → Tested
  | 0, _ => .error []
  | steps + 1, words => do
    let (first, words) ← one inquiry steps words
    if role words.tail = .operator .both then
      let (second, words) ← all inquiry steps (words.drop 2)
      return (first && second, words)
    else return (first, words)

/-- A condition or its opposite. -/
def one (inquiry : Inquiry) : Nat → List Octets → Tested
  | 0, _ => .error []
  | steps + 1, words => do
    if role words = .operator .opposite then
      if words.tail = [] then
        return (true, words)
      let (b, words) ← one inquiry steps words.tail
      return (!b, words)
    else simple inquiry steps words

/-- A single condition, or one in parentheses. -/
def simple (inquiry : Inquiry) : Nat → List Octets → Tested
  | 0, _ => .error []
  | steps + 1, words => do
    match role words, words with
    | .missing, _ => return (false, words)
    | .operator .opening, _ :: inner =>
      if role inner = .operator .closing then return (false, inner)
      let (b, inner) ← any inquiry steps inner
      if role inner.tail = .operator .closing then return (b, inner.tail)
      else throw "closing paren expected".toList
    | .operator (.unary op), _ :: rest =>
      match rest with
      | [] => throw (op.toList ++ ": argument expected".toList)
      | word :: _ => return (← testUnary inquiry op word, rest)
    | _, a :: rest =>
      match role rest, rest with
      | .operator (.binary op), _ :: rest =>
        match rest with
        | [] => throw (op.toList ++ ": argument expected".toList)
        | b :: _ => return (← testBinary inquiry op a b, rest)
      | _, _ => return (a ≠ [], words)
    | _, [] => return (false, [])

end

/-- Whether a condition holds, judged by its words alone and by how many they are. -/
def holds (inquiry : Inquiry) : Nat → List Octets → Except Octets Bool
  | 0, _ => .error []
  | steps + 1, words => do
    match words with
    | [] => return false
    | ['!'] :: rest =>
      if rest.length = 3 ∨ (rest.length = 2 ∧ ¬ rest.head?.any isBinary) then
        return !(← holds inquiry steps rest)
      else whole words
    | [a, op, b] =>
      if a = ['('] ∧ b = [')'] ∧ ¬ isBinary op then whole [op]
      else whole words
    | [a, x, y, b] => if a = ['('] ∧ b = [')'] then whole [x, y] else whole words
    | _ => whole words
where
  /-- Judges all of the words as one condition. -/
  whole (words : List Octets) : Except Octets Bool := do
    let forced :=
      match words with
      | [a, op, b] => if isBinary op then some (a, String.ofList op, b) else none
      | _ => none
    match forced with
    | some (a, op, b) => testBinary inquiry op a b
    | none =>
      let (b, left) ← any inquiry (10 * (words.length + 1)) words
      match left with
      | [] :: _ :: _ => throw "unexpected operator".toList
      | word :: _ :: _ => throw (word ++ ": unexpected operator".toList)
      | _ => return b

end LineShell.Script.Condition
