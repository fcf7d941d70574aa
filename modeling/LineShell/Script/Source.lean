import LineShell.Script.Tree

/-!
# Reading a script

A script is read from the front, token by token. The text of a document, which a redirection
announces, stands behind the line on which it is announced. A word may be replaced by the text it is
an alias for.
-/

namespace LineShell.Script

/-- Where a redirection leads, before its word has been read. -/
inductive Arrow where
  /-- To a file. -/
  | file (use : FileUse)
  /-- To another descriptor. -/
  | descriptor
  /-- To a document, whose lines may be indented with tabulators. -/
  | document (indented : Bool)
deriving DecidableEq, Repr

/-- The smallest pieces of a script that have a meaning. -/
inductive Token where
  /-- There is no more. -/
  | endOfInput
  /-- The end of a line. -/
  | newline
  /-- The beginning of a redirection of a descriptor. -/
  | redirection (descriptor : Nat) (arrow : Arrow)
  /-- A word. -/
  | word (word : Word)
  /-- A word of the language. -/
  | keyword (text : String)
  /-- A sign of the language. -/
  | sign (text : String)

/-- The last line of a document. -/
structure Mark where
  /-- Its text. A document without one ends with the script. -/
  text : Option Octets
  /-- Whether tabulators at the front of lines do not count. -/
  indented : Bool

/-- A document that has been announced. -/
structure Waiting where
  /-- Its number. -/
  number : Nat
  /-- Its last line. -/
  mark : Mark
  /-- Whether nothing in it is replaced. -/
  verbatim : Bool

/-- An alias whose text is being read. -/
structure Replaced where
  /-- The word it stands for. -/
  word : Octets
  /-- How many characters stand behind its text. -/
  behind : Nat
  /-- Whether its text ends in a blank, so the word behind it may be an alias, too. -/
  goesOn : Bool

/-- A script that is being read. -/
structure Source where
  /-- What has not been read. -/
  rest : Octets
  /-- The number of the line. -/
  line : Nat := 1
  /-- A token that was put back. -/
  pushed : Option Token := none
  /-- The word that was read last. -/
  latest : Word := []
  /-- Whether a word is read that ends a document, in which nothing is replaced. -/
  naming : Bool := false
  /-- Documents whose text has not been reached. -/
  waiting : List Waiting := []
  /-- Documents that have been read, each with its number. -/
  documents : List (Nat × List Part) := []
  /-- The number of the next document. -/
  nextDocument : Nat := 0
  /-- The words that stand for other texts. -/
  aliases : List (Octets × Octets) := []
  /-- The aliases whose text is being read. -/
  replacing : List Replaced := []
  /-- Words that are being replaced around this text. -/
  frozen : List Octets := []

/-- The aliases whose text has not been read to its end. -/
def Source.inUse (s : Source) : List Replaced :=
  s.replacing.filter fun r => r.behind ≤ s.rest.length

/-- Whether the end was read and put back. -/
def Source.isEndAhead (s : Source) : Bool :=
  match s.pushed with
  | some .endOfInput => true
  | _ => false

/-- The words that are not replaced, because they already are. -/
def Source.wordsInUse (s : Source) : List Octets :=
  s.inUse.map Replaced.word ++ s.frozen

/-- Whether, from one place in a script to a later one, a text of an alias ends that goes on. -/
def Source.goesOn (before after : Source) : Bool :=
  before.inUse.any fun r => r.goesOn && after.rest.length < r.behind

/-- Why a script cannot be read. -/
inductive Misreading where
  /-- It breaks the rules of the language, on a line of a number. -/
  | malformed (line : Nat) (text : String)
  /-- It is nested too deeply. -/
  | tooDeep

/-- A step of reading. -/
abbrev Read := EStateM Misreading Source

namespace Read

/-- Ends with a complaint about the script. -/
def fail {α : Type} (text : String) : Read α := do
  throw (.malformed (← get).line text)

/-- What has not been read, without lines that are continued at once. -/
def ahead : Read Octets := do
  let s ← get
  let (rest, lines) := joined s.rest 0
  if lines = 0 then return s.rest
  set { s with rest, line := s.line + lines }
  return rest
where
  /-- Drops continued lines and counts them. -/
  joined : Octets → Nat → Octets × Nat
    | '\\' :: '\n' :: cs, n => joined cs (n + 1)
    | cs, n => (cs, n)

/-- Goes on with what stands behind some characters that are no ends of lines. -/
def goOn (rest : Octets) : Read Unit :=
  modify fun s => { s with rest }

/-- Goes on with what stands behind the end of a line. -/
def goOnLine (rest : Octets) : Read Unit :=
  modify fun s => { s with rest, line := s.line + 1 }

/-- Takes the characters at the front that have a property, also over the ends of continued lines.
Each step takes one at least. -/
def takeFront (has : Char → Bool) : Nat → Read Octets
  | 0 => return []
  | steps + 1 => do
    let rest ← ahead
    match rest.takeWhile has with
    | [] => return []
    | front =>
      goOn (rest.dropWhile has)
      return front ++ (← takeFront has steps)

/-- At the front of a line of a document: passes over what indents it, and over the whole line if it
is the last one; answers whether it is. -/
def passMark (mark : Mark) : Read Bool := do
  let s ← get
  let rest := if mark.indented then s.rest.dropWhile (· = '\t') else s.rest
  let behind? :=
    match mark.text with
    | some text => if text.isPrefixOf rest then some (rest.drop text.length) else none
    | none => none
  match behind? with
  | some [] =>
    goOnLine []
    return true
  | some ('\n' :: behind) =>
    goOnLine behind
    return true
  | _ =>
    goOn rest
    return false

/-- Puts a token back. -/
def push (t : Token) : Read Unit :=
  modify fun s => { s with pushed := some t }

end Read

/-! ## Texts of tokens -/

/-- The words of the language. -/
def keywords : List String :=
  ["!", "case", "do", "done", "elif", "else", "esac", "fi", "for", "if", "in", "then", "until",
    "while", "\x7b", "\x7d"]

/-- The words and signs at which a list of commands ends. -/
def closers : List String :=
  ["do", "done", "elif", "else", "esac", "fi", "then", "\x7d", ")", ";;"]

namespace Token

/-- Whether a list of commands ends at the token. -/
def isCloser : Token → Bool
  | keyword text => closers.contains text
  | sign text => closers.contains text
  | endOfInput => true
  | _ => false

/-- The token in a complaint. -/
def description : Token → String
  | endOfInput => "end of file"
  | newline => "newline"
  | redirection .. => "redirection"
  | word _ => "word"
  | keyword text => "\"" ++ text ++ "\""
  | sign text => "\"" ++ text ++ "\""

end Token

/-- Complains about a token, and says what should stand in its place, if it is known. -/
def Read.unexpected {α : Type} (t : Token) (instead : Option String) : Read α :=
  Read.fail (t.description ++ " unexpected" ++
    match instead with
    | none => ""
    | some text => " (expecting " ++ text ++ ")")

end LineShell.Script
