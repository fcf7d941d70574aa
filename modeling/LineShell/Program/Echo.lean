import LineShell.Program.Escape
import LineShell.System.Program

/-!
# Repeating arguments

The arguments are written with a space between any two and a line feed at the end. Options may stand
before them: `n` leaves the line feed out, `e` has escapes read, and `E` has them not read. By the
letter of the standard, escapes are always read.
-/

namespace LineShell.Program.Echo

/-- What the options ask for. -/
structure Options where
  /-- Whether a line feed ends the output. -/
  newline : Bool := true
  /-- Whether escapes are read. -/
  escapes : Bool := false
deriving DecidableEq, Repr

/-- The options after one more letter, if it is one. -/
def Options.letter? (o : Options) : Char → Option Options
  | 'n' => some { o with newline := false }
  | 'e' => some { o with escapes := true }
  | 'E' => some { o with escapes := false }
  | _ => none

/-- The options after a word of them. A word holds options only if all of its letters are, and
there is one. -/
def Options.word? (o : Options) : Octets → Option Options
  | '-' :: c :: cs => (c :: cs).foldlM Options.letter? o
  | _ => none

/-- The options at the front of the arguments, and the arguments behind them. -/
def Options.read (o : Options) : List Octets → Options × List Octets
  | [] => (o, [])
  | word :: words =>
    match o.word? word with
    | some o => o.read words
    | none => (o, word :: words)

/-- The options that hold, and the arguments behind those at the front. By the letter of the
standard there are none, and escapes are read; but options may follow a first one that stands for
itself. -/
def Options.ofArgs (toTheLetter : Bool) (args : List Octets) : Options × List Octets :=
  if ¬ toTheLetter then read {} args
  else if args.head? = some "-n".toList then
    let (o, words) := read {} args
    ({ o with escapes := true }, words)
  else ({ escapes := true }, args)

/-- The output for arguments without options. -/
def output (o : Options) (words : List Octets) : Octets :=
  let text := [' '].intercalate words
  let (text, close) := if o.escapes then expand .repeated text else (text, .atEnd)
  if o.newline ∧ close = .atEnd then text ++ ['\n'] else text

/-- Repeats the arguments. Asked about itself, which it cannot be by the letter of the standard, the
program has nothing to tell. -/
def run (s : Start) : Finish :=
  if !s.isToTheLetter && s.asksAboutItself then { written := [] }
  else
    let (o, words) := Options.ofArgs s.isToTheLetter s.args
    { written := [.output (output o words)] }

end LineShell.Program.Echo
