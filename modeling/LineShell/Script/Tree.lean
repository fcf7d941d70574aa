import LineShell.Text.Octets

/-!
# Scripts as trees

A script is a list of commands. A word of a command is a list of parts: texts with and without
quotes, parameters, the output of other commands, and the results of calculations.
-/

namespace LineShell.Script

/-- What stands in for the value of a parameter. -/
inductive Substitute where
  /-- A word, if there is no value. -/
  | fallback
  /-- A word, which becomes the value, if there is none. -/
  | assigned
  /-- Nothing: the script ends with a complaint if there is no value. -/
  | demanded
  /-- A word, if there is a value. -/
  | alternative
deriving DecidableEq, Repr

/-- What a redirection does with a file. -/
inductive FileUse where
  /-- Reads it. -/
  | read
  /-- Makes it, or empties it. -/
  | write
  /-- Makes it, or empties it even if files are protected. -/
  | overwrite
  /-- Makes it, or writes at its end. -/
  | append
  /-- Makes it, or reads and writes it. -/
  | both
deriving DecidableEq, Repr

mutual

/-- A part of a word. -/
inductive Part where
  /-- A text without quotes. -/
  | plain (text : Octets)
  /-- A text behind backslashes. -/
  | escaped (text : Octets)
  /-- A text between single quotes. -/
  | quoted (text : Octets)
  /-- Parts between double quotes. -/
  | double (parts : List Part)
  /-- A parameter. -/
  | parameter (name : Octets) (use : Use)
  /-- The output of commands. -/
  | output (body : List Node)
  /-- The result of a calculation. -/
  | calculation (parts : List Part)
  /-- The end of the word, whatever stands behind it. -/
  | ending

/-- What a parameter is used for. -/
inductive Use where
  /-- Its value, where an empty one may count as none. -/
  | value (orEmpty : Bool)
  /-- The length of its value. -/
  | length
  /-- Its value or a word, where an empty value may count as none. -/
  | substitute (how : Substitute) (orEmpty : Bool) (word : List Part)
  /-- Its value without the shortest or longest part at its front or at its end that a pattern
  fits. -/
  | strip (front longest : Bool) (pattern : List Part)
  /-- Nothing that there is. -/
  | malformed

/-- What a descriptor is redirected to. -/
inductive Target where
  /-- A file. -/
  | file (use : FileUse) (name : List Part)
  /-- What another descriptor is connected to, or nothing. -/
  | descriptor (word : List Part)
  /-- A text that is part of the script, by its number. -/
  | document (number : Nat)

/-- A redirection of a descriptor. -/
inductive Redirection where
  /-- The descriptor, and what it is redirected to. -/
  | mk (descriptor : Nat) (target : Target)

/-- A command. -/
inductive Node where
  /-- Assignments, words and redirections, on a line of a number. -/
  | simple (line : Nat) (assignments : List (Octets × List Part)) (words : List (List Part))
    (redirections : List Redirection)
  /-- Commands of which each reads what the one before writes, which the script waits for or not. -/
  | pipeline (awaited : Bool) (stages : List Node)
  /-- A command whose success is failure. -/
  | negation (body : Node)
  /-- A second command if the first succeeds. -/
  | and (first second : Node)
  /-- A second command if the first fails. -/
  | or (first second : Node)
  /-- A command that is not waited for. -/
  | background (body : Node)
  /-- Commands one after another. -/
  | group (body : List Node)
  /-- A command with redirections, on a line of a number. -/
  | redirected (line : Nat) (body : Node) (redirections : List Redirection)
  /-- Commands in a process of their own, on a line of a number. -/
  | subshell (line : Nat) (body : List Node)
  /-- Commands if others succeed, and commands if they fail. -/
  | conditional (test body otherwise : List Node)
  /-- Commands as long as others succeed, or as long as they fail. -/
  | loop (whileSuccess : Bool) (test body : List Node)
  /-- Commands for each of some words, or for each parameter, on a line of a number. -/
  | each (line : Nat) (name : Octets) (words : Option (List (List Part))) (body : List Node)
  /-- The commands behind the first pattern that fits a word, on a line of a number. -/
  | selection (line : Nat) (word : List Part) (cases : List (List (List Part) × List Node))
  /-- The definition of a function. -/
  | definition (name : Octets) (body : Node)

end

/-- A word of a command. -/
abbrev Word := List Part

instance : Inhabited Part := ⟨.plain []⟩

instance : Inhabited Node := ⟨.group []⟩

/-- Commands one after another as one command. -/
def Node.grouped : List Node → Node
  | [node] => node
  | body => .group body

/-- A command with redirections behind it. They take the place of those that commands in a process
of their own already have. -/
def Node.withRedirections (line : Nat) (rs : List Redirection) : Node → Node
  | .redirected _ (.subshell first body) _ => .redirected line (.subshell first body) rs
  | node => .redirected line node rs

/-- The text of a word in which nothing is quoted and nothing is replaced. -/
def Word.plain? : Word → Option Octets
  | [] => some []
  | .plain text :: parts => (text ++ ·) <$> Word.plain? parts
  | _ => none

/-- The text of a word in which nothing is replaced, without its quotes. -/
def Word.literal (word : Word) : Octets :=
  word.flatMap fun
    | .plain text => text
    | .escaped text => text
    | .quoted text => text
    | .double parts => parts.flatMap fun
      | .plain text => text
      | .escaped text => text
      | _ => []
    | _ => []

/-- Whether a character is one of those that words hold between their parts. They have no meaning
for a reader, but hide the word from those who compare its text. -/
def isControl (c : Char) : Bool :=
  '\x81' ≤ c && c ≤ '\x88'

/-- Whether a character may begin a name. -/
def isNameStart (c : Char) : Bool :=
  c.isAlpha || c = '_'

/-- Whether a character may stand in a name. -/
def isNameChar (c : Char) : Bool :=
  c.isAlphanum || c = '_'

/-- Whether a text is a name. -/
def isName : Octets → Bool
  | [] => false
  | c :: cs => isNameStart c && cs.all isNameChar

/-- The name and the value of an assignment, if a word is one: a name and an equals sign stand at
its front, without quotes. -/
def Word.assignment? : Word → Option (Octets × Word)
  | .plain text :: parts =>
    match text.dropWhile isNameChar with
    | '=' :: rest =>
      let name := text.takeWhile isNameChar
      if isName name then some (name, if rest = [] then parts else .plain rest :: parts) else none
    | _ => none
  | _ => none

/-- The commands that are part of the language: errors in them end a script. -/
def specialCommands : List Octets :=
  [".", ":", "break", "continue", "eval", "exec", "exit", "export", "local", "readonly", "return",
    "set", "shift", "times", "trap", "unset"].map String.toList

end LineShell.Script
