import LineShell.Text.Printable

/-!
# Quoted text

Texts inside diagnostics are quoted, so that they show on one line and nothing in them can be
mistaken for its surroundings. Inside the double quotes a quote, a backslash, a line feed, a
carriage return, a tab and the null character have an escape of two characters; every other
character that does not show, or that would join the one before it, is given by its code point.
-/

namespace LineShell.Text

/-- The letter of the two-character escape, for the characters that have one. -/
def escapeLetter? : Char → Option Char
  | '"' => some '"'
  | '\\' => some '\\'
  | '\n' => some 'n'
  | '\r' => some 'r'
  | '\t' => some 't'
  | '\x00' => some '0'
  | _ => none

/-- The escape by code point: lower-case hexadecimal digits between braces. -/
def codePointEscape (c : Char) : List Char :=
  '\\' :: 'u' :: '\x7b' :: Nat.toDigits 16 c.toNat ++ ['\x7d']

/-- The form of one character inside the quotes. -/
def quotedChar (c : Char) : List Char :=
  match escapeLetter? c with
  | some l => ['\\', l]
  | none => if isExtender c || !isPrintable c then codePointEscape c else [c]

/-- The text in double quotes. -/
def quote (s : String) : String :=
  String.ofList ('"' :: s.toList.flatMap quotedChar ++ ['"'])

end LineShell.Text
