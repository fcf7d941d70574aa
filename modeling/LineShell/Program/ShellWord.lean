import LineShell.Program.Escape

/-!
# Quoting words for a shell

A text is written such that a shell reads it back as one word: as it stands if that is safe, and
otherwise between quotes. Between single quotes all stands for itself, apart from bytes that cannot
be shown, which are escaped between quotes of their own.
-/

namespace LineShell.Program.ShellWord

/-- Whether a byte cannot be shown. -/
def isHidden (c : Char) : Bool :=
  c < ' ' || '\x7f' ≤ c

/-- Whether a byte means something to a shell wherever it stands. -/
def isSpecial (c : Char) : Bool :=
  " !\"$&()*;<=>?[\\^`|'".toList.contains c

/-- Whether the first byte of a text means something to a shell because it is the first, or the only
one. -/
def isSpecialAtFront : Octets → Bool
  | [c] => c = '\x7b' || c = '\x7d' || c = '#' || c = '~'
  | c :: _ => c = '#' || c = '~'
  | [] => true

/-- Whether a shell reads the text as it stands as one word. -/
def isSafe (cs : Octets) : Bool :=
  !isSpecialAtFront cs && cs.all fun c => !isHidden c && !isSpecial c

/-- Whether a byte stands for itself between double quotes and needs no other attention. -/
def isPlain (c : Char) : Bool :=
  c.isAlphanum || " '%+,-./:]_@".toList.contains c

/-- Whether the text can stand between double quotes. -/
def isPlainText : Octets → Bool
  | [] => true
  | c :: cs => (isPlain c || isSpecialAtFront (c :: cs)) && cs.all isPlain

/-- The escape of a byte that cannot be shown: the letter of a control character, or three octal
digits. -/
def escape (c : Char) : Octets :=
  match "abfnrtv".toList.find? fun letter => control? letter = some c with
  | some letter => ['\\', letter]
  | none =>
    let digit n := Char.ofNat ('0'.toNat + n % 8)
    ['\\', digit (c.toNat / 64), digit (c.toNat / 8), digit c.toNat]

/-- The text between single quotes, given whether escapes are being written. -/
def body (escaping : Bool) : Octets → Octets
  | [] => []
  | c :: cs =>
    if isHidden c then
      (if escaping then [] else "'$'".toList) ++ escape c ++ body true cs
    else if c = '\'' then "'\\''".toList ++ body false cs
    else (if escaping then "''".toList else []) ++ c :: body false cs

/-- The text as a word for a shell. Double quotes are used for a text with a single quote in it if
nothing else is special. -/
def quote (cs : Octets) : Octets :=
  if isSafe cs then cs
  else if cs.contains '\'' && isPlainText cs then '"' :: cs ++ ['"']
  else '\'' :: body false cs ++ ['\'']

/-- The name of a file as a word for a shell, in a complaint. A colon is set apart from those of the
complaint. -/
def quoteName (cs : Octets) : Octets :=
  if isSafe cs && cs.contains ':' then '\'' :: cs ++ ['\''] else quote cs

/-- The text between single quotes in a complaint: bytes that cannot be shown are escaped, and so
are quotes and backslashes. -/
def mention (cs : Octets) : Octets :=
  '\'' :: cs.flatMap (fun c =>
    if isHidden c then escape c else if c = '\'' ∨ c = '\\' then ['\\', c] else [c]) ++ ['\'']

end LineShell.Program.ShellWord
