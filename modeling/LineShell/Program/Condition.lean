import LineShell.Number.Digits
import LineShell.Program.ShellWord
import LineShell.System.Program

/-!
# Judging a condition

The arguments are the words of a condition. Up to four words are read by their number, as the
standard asks for; more of them are conditions joined by operators, each of which is judged
whatever the others say.
-/

namespace LineShell.Program.Condition

/-- What may be wrong with the words of a condition. -/
inductive Fault where
  /-- The last word asks for another one. -/
  | missing
  /-- A word is no operator with two operands. -/
  | notBinary (word : Octets)
  /-- A word is no operator with one operand. -/
  | notUnary (word : Octets)
  /-- A word is no integer. -/
  | notInteger (word : Octets)
  /-- An operator does not take the length of a word. -/
  | unmeasured (word : Octets)
  /-- A parenthesis is not closed where a word stands, or where there is none. -/
  | unclosed (found : Option Octets)
  /-- A word stands behind the condition. -/
  | extra (word : Octets)
  /-- The bracket is not closed. -/
  | noBracket
deriving DecidableEq, Repr

/-- The words for a fault, given the last word of the condition. -/
def Fault.description (last : Octets) (fault : Fault) : String :=
  let quoted (word : Octets) := String.ofList (ShellWord.mention word)
  match fault with
  | .missing => "missing argument after " ++ quoted last
  | .notBinary word => quoted word ++ ": binary operator expected"
  | .notUnary word => quoted word ++ ": unary operator expected"
  | .notInteger word => "invalid integer " ++ quoted word
  | .unmeasured word => String.ofList word ++ " does not accept -l"
  | .unclosed none => quoted [')'] ++ " expected"
  | .unclosed (some word) => quoted [')'] ++ " expected, found " ++ quoted word
  | .extra word => "extra argument " ++ quoted word
  | .noBracket => "missing " ++ quoted [']']

/-- The operators with two operands. -/
def binaries : List String :=
  ["=", "!=", "==", "-nt", "-ot", "-ef", "-eq", "-ne", "-lt", "-le", "-gt", "-ge"]

/-- Whether a word is an operator with two operands. -/
def isBinary (word : Octets) : Bool :=
  binaries.contains (String.ofList word)

/-- The word in front of one whose length is meant. -/
def measure : Octets :=
  "-l".toList

/-- The integer that a text writes in decimal digits, with blanks around it. -/
def integer (text : Octets) : Except Fault Int :=
  let (negative, ds) := Number.splitSign (text.dropWhile Number.isSpace)
  match readDigits 10 ds.length ds with
  | (0, _, _) => .error (.notInteger text)
  | (_, size, rest) =>
    if rest.all Number.isSpace then .ok (if negative then -size else size)
    else .error (.notInteger text)

/-- Whether a condition holds, and the words behind it. -/
abbrev Judged := Except Fault (Bool × List Octets)

/-- Judges an operator with two operands that stands behind the first word. Each operand may be
measured; the first is if that is said. Where the second one is, the operator itself takes the place
of the first in a comparison of texts. -/
def binary (inquiry : Inquiry) (measured : Bool) (words : List Octets) : Judged := do
  match words with
  | a :: op :: rest =>
    let (measured', b, rest) :=
      match rest with
      | first :: second :: rest' =>
        if first = measure then (true, second, rest') else (false, first, second :: rest')
      | first :: rest' => (false, first, rest')
      | [] => (false, [], [])
    let amounts : Except Fault (Int × Int) := do
      let n ← if measured then pure (a.length : Int) else integer a
      let k ← if measured' then pure (b.length : Int) else integer b
      return (n, k)
    let file (b : Bool) : Judged :=
      if measured || measured' then .error (.unmeasured op) else .ok (b, rest)
    let a' := if measured' then op else a
    match String.ofList op with
    | "-eq" => return ((fun (n, k) => n = k) (← amounts), rest)
    | "-ne" => return ((fun (n, k) => n ≠ k) (← amounts), rest)
    | "-lt" => return ((fun (n, k) => n < k) (← amounts), rest)
    | "-le" => return ((fun (n, k) => n ≤ k) (← amounts), rest)
    | "-gt" => return ((fun (n, k) => k < n) (← amounts), rest)
    | "-ge" => return ((fun (n, k) => k ≤ n) (← amounts), rest)
    | "-nt" => file (inquiry.isThere a && !inquiry.isThere b)
    | "-ot" => file (inquiry.isThere b && !inquiry.isThere a)
    | "-ef" => file (inquiry.areSame a b)
    | "!=" => return (a' ≠ b, rest)
    | _ => return (a' = b, rest)
  | _ => throw .missing

/-- The letters of the operators with one operand. -/
def unaryLetters : List Char :=
  "aerwxNOGfdsScbpLhugktnz".toList

/-- Whether a word is a hyphen and one byte. -/
def isSwitch (word : Octets) : Bool :=
  word.length = 2 && word.head? = some '-'

/-- Judges an operator with one operand that is the first word. No descriptor is a terminal, and no
file was changed after it had been read. -/
def unary (inquiry : Inquiry) (words : List Octets) : Judged := do
  match words with
  | (_ :: [c]) :: rest =>
    if ¬ unaryLetters.contains c then throw (.notUnary ['-', c])
    match rest with
    | [] => throw .missing
    | word :: rest =>
      match c with
      | 'n' => return (word ≠ [], rest)
      | 'z' => return (word = [], rest)
      | 't' => do
        discard <| integer word
        return (false, rest)
      | 'a' => return (inquiry.isThere word, rest)
      | _ => return (inquiry.holds c word, rest)
  | _ => throw .missing

/-- Judges a word by whether there is something in it. -/
def filled : List Octets → Judged
  | [] => .error .missing
  | word :: rest => .ok (word ≠ [], rest)

/-- Turns a judgement into its opposite. -/
def opposite (judged : Judged) : Judged :=
  judged.map fun (b, rest) => (!b, rest)

/-- Judges what is read as two words. -/
def two (inquiry : Inquiry) (words : List Octets) : Judged :=
  if words.head? = some ['!'] then opposite (filled words.tail)
  else if words.head?.any isSwitch then unary inquiry words
  else .error .missing

/-- How many words stand in parentheses, given what stands behind the first of them: as many as come
before the end if that are at most four, or else all. The first word does not end them. -/
def inside (words : List Octets) : Nat :=
  let n := (words.tail.takeWhile (· ≠ [')'])).length + 1
  if n ≤ 4 then n else words.length

variable (inquiry : Inquiry) (behind : Option Octets)

mutual

/-- Judges conditions of which one has to hold. -/
def either : Nat → List Octets → Judged
  | 0, words => .ok (false, words)
  | steps + 1, words => do
    let (first, words) ← both steps words
    if words.head? = some "-o".toList then
      let (second, words) ← either steps words.tail
      return (first || second, words)
    else return (first, words)

/-- Judges conditions that have to hold together. -/
def both : Nat → List Octets → Judged
  | 0, words => .ok (false, words)
  | steps + 1, words => do
    let (first, words) ← single steps words
    if words.head? = some "-a".toList then
      let (second, words) ← both steps words.tail
      return (first && second, words)
    else return (first, words)

/-- Judges a single condition, or one in parentheses. -/
def single : Nat → List Octets → Judged
  | 0, words => .ok (false, words)
  | steps + 1, words => do
    match words with
    | [] => throw .missing
    | ['!'] :: rest => opposite (single steps rest)
    | ['('] :: rest =>
      if rest = [] then throw .missing
      let (b, rest) ← counted steps (inside rest) rest
      match rest with
      | [')'] :: rest => return (b, rest)
      | word :: _ => throw (.unclosed (some word))
      | [] => throw (.unclosed behind)
    | word :: rest =>
      if word = measure ∧ 4 ≤ words.length ∧ words[2]?.any isBinary then binary inquiry true rest
      else if 3 ≤ words.length ∧ rest.head?.any isBinary then binary inquiry false words
      else if isSwitch word then unary inquiry words
      else filled words

/-- Judges what is read as three words. -/
def three : Nat → List Octets → Judged
  | 0, words => .ok (false, words)
  | steps + 1, words => do
    match words with
    | a :: b :: rest =>
      if isBinary b then binary inquiry false words
      else if a = ['!'] then opposite (two inquiry (b :: rest))
      else if a = ['('] ∧ rest.head? = some [')'] then return (b ≠ [], rest.tail)
      else if b = "-a".toList ∨ b = "-o".toList then either steps words
      else throw (.notBinary b)
    | _ => throw .missing

/-- Judges what is read as so many words. -/
def counted : Nat → Nat → List Octets → Judged
  | 0, _, words => .ok (false, words)
  | steps + 1, count, words =>
    match count with
    | 1 => filled words
    | 2 => two inquiry words
    | 3 => three steps words
    | 4 =>
      if words.head? = some ['!'] then opposite (three steps words.tail)
      else if words.head? = some ['('] ∧ words[3]? = some [')'] then
        (two inquiry words.tail).map fun (b, rest) => (b, rest.tail)
      else either steps words
    | _ => either steps words

end

/-- Judges the words of a condition as a whole, given what stands behind them. -/
def judge (words : List Octets) : Except Fault Bool := do
  if words = [] then return false
  let (b, rest) ← counted inquiry behind (10 * (words.length + 1)) words.length words
  match rest with
  | [] => return b
  | word :: _ => throw (.extra word)

/-- Judges the condition that the arguments are. In brackets, it has to end with one, unless the
program is asked about itself, where it has nothing to tell. -/
def run (inBrackets : Bool) (s : Start) : Finish :=
  let words := if inBrackets then s.args.dropLast else s.args
  let judged :=
    if inBrackets && s.asksAboutItself then .ok true
    else if inBrackets ∧ s.args.getLast? ≠ some [']'] then .error .noBracket
    else judge s.inquiry (if inBrackets then some [']'] else none) words
  match judged with
  | .ok b => { written := [], status := if b then 0 else 1 }
  | .error fault =>
    { written := [s.complaint (fault.description (words.getLastD s.name))]
      status := 2 }

end LineShell.Program.Condition
