import LineShell.Text.Octets

/-!
# Patterns

An asterisk fits any text, a question mark any character, and brackets one of some characters. A
backslash takes the meaning of the character behind it away. Whether a pattern fits is found by
going once through the text, for all parts at the front of the pattern at a time.
-/

namespace LineShell.Script

/-- An element of brackets in a pattern. -/
inductive Member where
  /-- The characters from one to another. -/
  | range (first last : Char)
  /-- The characters of a class. -/
  | class_ (holds : Char → Bool)

/-- The place of a byte in the order of signed bytes, in which the second half of them comes
first. -/
def signedRank (c : Char) : Nat :=
  (c.toNat + 128) % 256

/-- Whether a character is meant by an element. -/
def Member.holds (c : Char) : Member → Bool
  | range first last => signedRank first ≤ signedRank c && signedRank c ≤ signedRank last
  | class_ holds => holds c

/-- A piece of a pattern. -/
inductive Glob where
  /-- Any text. -/
  | many
  /-- Any character. -/
  | any
  /-- A character. -/
  | char (c : Char)
  /-- One of some characters, or none of them. -/
  | set (negated : Bool) (members : List Member)

namespace Glob

/-! ## Reading patterns -/

/-- The classes of characters, by their names. -/
def classes : List (String × (Char → Bool)) := [
  ("alnum", Char.isAlphanum),
  ("alpha", Char.isAlpha),
  ("blank", fun c => c = ' ' || c = '\t'),
  ("cntrl", fun c => c < ' ' || c = '\x7f'),
  ("digit", Char.isDigit),
  ("graph", fun c => ' ' < c && c < '\x7f'),
  ("lower", Char.isLower),
  ("print", fun c => ' ' ≤ c && c < '\x7f'),
  ("punct", fun c => ' ' < c && c < '\x7f' && !c.isAlphanum),
  ("space", fun c => c = ' ' || (9 ≤ c.toNat && c.toNat ≤ 13)),
  ("upper", Char.isUpper),
  ("xdigit", fun c => c.isDigit || "abcdefABCDEF".toList.contains c)]

/-- The class whose name stands behind a bracket, and what stands behind that. -/
def class? (cs : Octets) : Option ((Char → Bool) × Octets) :=
  classes.findSome? fun (name, holds) =>
    let text := ':' :: name.toList ++ [':', ']']
    if text.isPrefixOf cs then some (holds, cs.drop text.length) else none

/-- The character that ends a pattern. -/
def terminator : Char :=
  '\x00'

/-- The elements up to the closing bracket, and what stands behind it. The bracket may stand first
without closing. A range reaches over the end of the pattern. -/
def members? : Nat → Octets → Option (List Member × Octets)
  | 0, _ => none
  | _, [] => none
  | steps + 1, c :: cs =>
    if c = terminator then none
    else
      let (member, cs) :=
        match if c = '[' then class? cs else none with
        | some (holds, cs) => (Member.class_ holds, cs)
        | none =>
          let (c, cs) := if c = '\\' then (cs.headD terminator, cs.tail) else (c, cs)
          match cs with
          | '-' :: d :: rest =>
            if d = ']' then (.range c c, cs)
            else
              let (d, rest) :=
                if d = '\\' then (rest.headD terminator, rest.tail) else (d, rest)
              (.range c d, rest)
          | _ => (.range c c, cs)
      match cs with
      | ']' :: rest => some ([member], rest)
      | cs => (members? steps cs).map fun (ms, rest) => (member :: ms, rest)

/-- The pattern that a text writes up to its terminator. A bracket that is not closed stands for
itself. -/
def ofTerminated : Nat → Octets → List Glob
  | 0, _ => []
  | _, [] => []
  | steps + 1, c :: cs =>
    if c = terminator then []
    else if c = '*' then many :: ofTerminated steps cs
    else if c = '?' then any :: ofTerminated steps cs
    else if c = '\\' then
      match cs with
      | [] => [char c]
      | d :: rest => if d = terminator then [char c] else char d :: ofTerminated steps rest
    else if c = '[' then
      let (negated, inner) :=
        match cs with
        | '!' :: inner => (true, inner)
        | _ => (false, cs)
      match members? (inner.length + 1) inner with
      | some (ms, rest) => set negated ms :: ofTerminated steps rest
      | none => char c :: ofTerminated steps cs
    else char c :: ofTerminated steps cs

/-- The pattern that a text writes, given the characters that are found behind it. -/
def ofText (text : Octets) (behind : Octets) : List Glob :=
  let cs := text ++ terminator :: behind
  ofTerminated cs.length cs

/-- Whether a pattern may fit a text that is not its own. -/
def isActive (pattern : List Glob) : Bool :=
  pattern.any fun
    | char _ => false
    | _ => true

/-! ## Fitting -/

/-- Whether a piece means a character. -/
def holds (c : Char) : Glob → Bool
  | many => true
  | any => true
  | char d => c = d
  | set negated ms => ms.any (Member.holds c) != negated

/-- For each part at the front of a pattern behind the first piece, whether it fits the empty text,
given whether the part before it does. -/
def startBehind : List Glob → Bool → List Bool
  | [], _ => []
  | many :: ps, before => before :: startBehind ps before
  | _ :: ps, _ => false :: startBehind ps false

/-- For each part at the front of a pattern, the shortest first, whether it fits the empty text. -/
def start (pattern : List Glob) : List Bool :=
  true :: startBehind pattern true

/-- Goes on from whether parts fit a text to whether they fit it with one more character, given
whether the part before them does so. -/
def nextBehind (c : Char) : List Glob → List Bool → Bool → List Bool
  | p :: ps, fit :: fits, before =>
    let here :=
      match p with
      | many => before || fits.headD false
      | p => fit && p.holds c
    here :: nextBehind c ps fits here
  | _, _, _ => []

/-- For each part at the front of a pattern, whether it fits a text with one more character, given
whether it fits the text. -/
def next (pattern : List Glob) (fits : List Bool) (c : Char) : List Bool :=
  false :: nextBehind c pattern fits false

/-- Whether a pattern fits a text. -/
def fits (pattern : List Glob) (cs : Octets) : Bool :=
  (cs.foldl (next pattern) (start pattern)).getLastD false

/-- The lengths of the parts at the front of a text that a pattern fits, the shortest first, given
how much of the text has been read. -/
def frontLengths (pattern : List Glob) : List Bool → Nat → Octets → List Nat
  | fits, n, cs =>
    let here := if fits.getLastD false then [n] else []
    match cs with
    | [] => here
    | c :: cs =>
      if fits.any id then here ++ frontLengths pattern (next pattern fits c) (n + 1) cs else here

/-- How much of a text comes before the place where it is cut: behind the shortest or the longest
part at its front that a pattern fits, or before the one at its end. -/
def cut? (front longest : Bool) (pattern : List Glob) (cs : Octets) : Option Nat :=
  let (pattern, text) := if front then (pattern, cs) else (pattern.reverse, cs.reverse)
  let lengths := frontLengths pattern (start pattern) 0 text
  let found := if longest then lengths.getLast? else lengths.head?
  if front then found else found.map (cs.length - ·)

end Glob

end LineShell.Script
