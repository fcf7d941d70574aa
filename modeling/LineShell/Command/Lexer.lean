import LineShell.Command.Basic
import LineShell.Text.Blank

/-!
# Reading a command from a line

Words are separated by blanks. A single quote keeps everything up to the next single quote, a
double quote keeps everything up to the next double quote but lets a backslash take away the
meaning of a backslash, a double quote or a dollar sign, and outside quotes a backslash does so for
any character. The end of the line closes an open quote. A line whose last bare character is an
ampersand runs in the background, and that ampersand is not part of its last word.

The line is read in one pass, so the state after a longer line is the state after its beginning,
carried on over the rest.
-/

namespace LineShell

/-- Where in the quoting of a line the reader stands. -/
inductive Quoting where
  /-- Outside quotes. -/
  | bare
  /-- Outside quotes, behind a backslash. -/
  | escaped
  /-- Between single quotes. -/
  | single
  /-- Between double quotes. -/
  | double
  /-- Between double quotes, behind a backslash. -/
  | doubleEscaped
deriving DecidableEq, Repr

/-- What has been read of a line. Words, and the characters of each word, stand latest first. -/
structure Lexer where
  /-- The words that are complete. -/
  words : List (List Char)
  /-- The word being read, if one has begun; quotes begin a word without adding a character. -/
  word : Option (List Char)
  /-- Where the reader stands. -/
  quoting : Quoting
  /-- Whether the last character added to a word was a bare ampersand. -/
  marked : Bool
deriving DecidableEq, Repr

namespace Lexer

/-- The reader before a line. -/
def empty : Lexer where
  words := []
  word := none
  quoting := .bare
  marked := false

/-- Begins a word if none has begun, at an opening quote. -/
def openQuote (l : Lexer) (q : Quoting) : Lexer :=
  { l with word := some (l.word.getD []), quoting := q, marked := false }

/-- Adds a character to the word being read. -/
def push (l : Lexer) (c : Char) : Lexer :=
  { l with word := some (c :: l.word.getD []) }

/-- Ends the word being read. The mark of an ampersand stays with the word that has ended. -/
def endWord (l : Lexer) : Lexer :=
  match l.word with
  | none => l
  | some w => { l with words := w :: l.words, word := none }

/-- The characters that lose their meaning behind a backslash between double quotes. -/
def isDoubleEscapable (c : Char) : Bool :=
  c = '\\' || c = '"' || c = '$'

/-- Reads a character outside quotes. -/
def bare (l : Lexer) (c : Char) : Lexer :=
  if c = '\'' then l.openQuote .single
  else if c = '"' then l.openQuote .double
  else if c = '\\' then { l with quoting := .escaped }
  else if Text.isBlank c then l.endWord
  else { l.push c with marked := c = '&' }

/-- Reads one character. -/
def step (l : Lexer) (c : Char) : Lexer :=
  match l.quoting with
  | .bare => l.bare c
  | .escaped => { l.push c with quoting := .bare, marked := false }
  | .single => if c = '\'' then { l with quoting := .bare } else l.push c
  | .double =>
    if c = '"' then { l with quoting := .bare }
    else if c = '\\' then { l with quoting := .doubleEscaped }
    else l.push c
  | .doubleEscaped =>
    let l := { l with quoting := .double }
    if isDoubleEscapable c then l.push c else (l.push '\\').push c

/-- Reads characters in turn. -/
def run (l : Lexer) (cs : List Char) : Lexer :=
  cs.foldl step l

/-- All words once the line has ended, the last one included. A backslash that ends the line stands
for itself between double quotes and for nothing outside quotes. -/
def finish (l : Lexer) : List (List Char) :=
  let l := if l.quoting = .doubleEscaped then l.push '\\' else l
  l.endWord.words

/-- Words read latest first, as texts in the order of the line. -/
def texts (ws : List (List Char)) : List String :=
  (ws.map fun w => String.ofList w.reverse).reverse

/-- The command that the line asked for. A marking ampersand leaves the last word, and the last
word itself goes if nothing else was in it. -/
def command (l : Lexer) : Command :=
  match l.marked, l.finish with
  | true, (_ :: []) :: ws => { argv := texts ws, background := true }
  | true, (_ :: w) :: ws => { argv := texts (w :: ws), background := true }
  | _, ws => { argv := texts ws, background := false }

@[simp] theorem run_nil (l : Lexer) : l.run [] = l := rfl

@[simp] theorem run_cons (l : Lexer) (c : Char) (cs : List Char) :
    l.run (c :: cs) = (l.step c).run cs := rfl

theorem run_append (l : Lexer) (cs ds : List Char) : l.run (cs ++ ds) = (l.run cs).run ds :=
  List.foldl_append

end Lexer

namespace Command

/-- The command that a line asks for. -/
def ofLine (line : String) : Command :=
  (Lexer.empty.run line.toList).command

end Command

end LineShell
