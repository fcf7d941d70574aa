import LineShell.Number.Layout
import LineShell.Program.ShellWord
import LineShell.System.Program

/-!
# Formatted output

A format is written as it stands, apart from escapes and directives. A directive writes one argument
as a text, a character or a number. The format is used again while arguments are left, and a
directive without an argument takes an empty one. A number that is not well formed is complained
about, and what could be read of it is written.
-/

namespace LineShell.Program.Format

/-! ## What is written on the way -/

/-- What has been written so far, and what is left to write. -/
structure Sheet where
  /-- The word by which the program is called. -/
  name : Octets
  /-- What has been written, the latest first. -/
  written : List Written := []
  /-- Whether what follows a byte behind a quote is passed over in silence. -/
  toTheLetter : Bool := false
  /-- Whether a complaint makes the program fail. -/
  failed : Bool := false
  /-- The arguments left. -/
  args : List Octets

/-- Why nothing more is written. -/
inductive Halt where
  /-- An escape asks for that. -/
  | stopped
  /-- Something is wrong. -/
  | wrong (complaint : Octets)

/-- A step of the program. -/
abbrev Print := EStateM Halt Sheet

/-- Writes a text. -/
def write (cs : Octets) : Print Unit :=
  modify fun s => { s with written := .output cs :: s.written }

/-- A line for descriptor 2 that begins with the word by which the program is called. -/
def Sheet.line (s : Sheet) (text : Octets) : Written :=
  .errors (s.name ++ ": ".toList ++ text ++ ['\n'])

/-- Complains, and goes on. -/
def warn (text : Octets) : Print Unit :=
  modify fun s => { s with written := s.line text :: s.written }

/-- Complains, which makes the program fail, and goes on. -/
def complain (text : Octets) : Print Unit := do
  warn text
  modify fun s => { s with failed := true }

/-- Takes the next argument, if there is one. -/
def next? : Print (Option Octets) := do
  let s ← get
  set { s with args := s.args.tail }
  return s.args.head?

/-- Takes the next argument, or an empty one. -/
def next : Print Octets :=
  return (← next?).getD []

/-- Ends as an escape does. -/
def close : Close → Print Unit
  | .atEnd => pure ()
  | .stopped => throw .stopped
  | .wrong text => throw (.wrong text.toList)

/-! ## Numbers in arguments -/

/-- Behind a quote, a byte stands for its number. -/
def constant? : Octets → Option (Nat × Octets)
  | q :: c :: cs => if q = '\'' ∨ q = '"' then some (c.toNat, cs) else none
  | _ => none

/-- Complains about a number that was not read to its end, or was out of range. -/
def check (arg rest : Octets) (outOfRange : Bool) : Print Unit :=
  if outOfRange then
    complain (ShellWord.mention arg ++ ": Numerical result out of range".toList)
  else if rest = [] then pure ()
  else if rest.length = arg.length then
    complain (ShellWord.mention arg ++ ": expected a numeric value".toList)
  else complain (ShellWord.mention arg ++ ": value not completely converted".toList)

/-- The number of an argument: that of a byte behind a quote, or one that is read. -/
def number {α : Type} (ofByte : Nat → α) (read : Octets → Print α) (arg : Octets) : Print α := do
  match constant? arg with
  | some (n, rest) =>
    if rest ≠ [] ∧ ¬ (← get).toTheLetter then
      warn ("warning: ".toList ++ rest ++
        ": character(s) following character constant have been ignored".toList)
    return ofByte n
  | none => read arg

/-- The integer of an argument, as a signed word. -/
def signed : Octets → Print Int :=
  number Int.ofNat fun arg => do
    match Number.leading? arg with
    | none => check arg arg false; return 0
    | some n => check arg n.rest n.exceedsSigned; return n.signed

/-- The integer of an argument, as an unsigned word. -/
def unsigned : Octets → Print Nat :=
  number id fun arg => do
    match Number.leading? arg with
    | none => check arg arg false; return 0
    | some n => check arg n.rest n.exceedsUnsigned; return n.unsigned

/-- The fraction of an argument. -/
def fraction : Octets → Print Number.Real :=
  number (fun n => (Number.Format.extended.round false n 1).1) fun arg => do
    match Number.Format.extended.leading? arg with
    | none => check arg arg false; return .finite false 0 0
    | some n => check arg n.rest n.outOfRange; return n.value

/-! ## Directives -/

/-- The greatest width and the greatest precision. -/
def greatestCount : Nat :=
  UInt32.size / 2 - 1

/-- The letters that a directive with these flags, and with or without a precision, may have. -/
def lettersFor (flags : Octets) (precise : Bool) : Octets :=
  "aAcdeEfFgGiosuxX".toList.filter fun letter =>
    !((flags.contains '\'' || flags.contains 'I') && "aAceEosxX".toList.contains letter)
      && !(flags.contains '#' && "cdisu".toList.contains letter)
      && !(flags.contains '0' && "cs".toList.contains letter)
      && !(precise && letter = 'c')

/-- Whether a character is a flag. -/
def isFlag (c : Char) : Bool :=
  "-+ #0'I".toList.contains c

/-- A count in a directive: digits, or an asterisk, which takes it from the arguments; and what
stands behind it. -/
def readCount (name : String) (cs : Octets) : Print (Int × Octets) := do
  match cs with
  | '*' :: cs =>
    match ← next? with
    | none => return (0, cs)
    | some arg =>
      let n ← signed arg
      if (greatestCount : Int) < n ∨ (n < -(greatestCount : Int) - 1 ∧ name = "field width") then
        throw (.wrong ("invalid ".toList ++ name.toList ++ ": ".toList ++ ShellWord.mention arg))
      return (n, cs)
  | cs => return (Nat.ofDigitChars 10 (cs.takeWhile Char.isDigit) 0, cs.dropWhile Char.isDigit)

/-- Writes an argument as a letter asks for it. -/
def convert (l : Number.Layout) (letter : Char) (arg : Octets) : Print Unit := do
  if greatestCount < l.width ∨ greatestCount < l.precision.getD 0 then
    throw (.wrong
      "cannot perform formatted output: Value too large for defined data type".toList)
  match letter with
  | 's' => write (l.text arg)
  | 'c' => write (l.pad [arg.headD '\x00'])
  | 'd' => write (l.integer (← signed arg))
  | 'i' => write (l.integer (← signed arg))
  | _ =>
    if "ouxX".toList.contains letter then write (l.natural letter (← unsigned arg))
    else write (l.real .extended letter (← fraction arg))

/-- Reads the precision of a directive, if there is one, and what stands behind it. A negative one
counts as none. -/
def readPrecision (cs : Octets) : Print (Bool × Option Nat × Octets) := do
  match cs with
  | '.' :: cs =>
    let (n, cs) ← readCount "precision" cs
    return (true, if n < 0 then none else some n.toNat, cs)
  | cs => return (false, none, cs)

/-- Carries a directive out, given what stands behind its percent sign, and answers what stands
behind the directive. -/
def directive (start : Octets) : Print Octets := do
  let flags := start.takeWhile isFlag
  let (width, cs) ← readCount "field width" (start.dropWhile isFlag)
  let (precise, precision, cs) ← readPrecision cs
  let cs := cs.dropWhile ("lLhjtz".toList.contains ·)
  let wrong (cs : Octets) : Print Octets :=
    throw (.wrong ('%' :: start.take (start.length - cs.length) ++
      ": invalid conversion specification".toList))
  match cs with
  | [] => wrong []
  | letter :: cs =>
    if (lettersFor flags precise).contains letter then
      let layout : Number.Layout := {
        left := flags.contains '-' || width < 0
        plus := flags.contains '+'
        space := flags.contains ' '
        zeros := flags.contains '0'
        alternate := flags.contains '#'
        width := width.natAbs
        precision }
      convert layout letter (← next)
      return cs
    else wrong cs

/-! ## Formats -/

/-- Goes once through a format. A step leaves less of the format than there was, so as many steps as
it has characters suffice. -/
def pass : Nat → Octets → Print Unit
  | 0, _ => pure ()
  | _, [] => pure ()
  | steps + 1, '%' :: '%' :: cs => do
    write ['%']
    pass steps cs
  | steps + 1, '%' :: 'b' :: cs => do
    let (text, ending) := expand .argument (← next)
    write text
    close ending
    pass steps cs
  | steps + 1, '%' :: 'q' :: cs => do
    if let some arg ← next? then write (ShellWord.quote arg)
    pass steps cs
  | steps + 1, '%' :: cs => do
    pass steps (← directive cs)
  | steps + 1, '\\' :: cs =>
    match readEscape .format cs with
    | .stop => throw .stopped
    | .wrong text => throw (.wrong text.toList)
    | .text text cs => do
      write text
      pass steps cs
  | steps + 1, c :: cs => do
    write [c]
    pass steps cs

/-- Goes through a format while that uses arguments up and some are left. -/
def passes (format : Octets) : Nat → Print Unit
  | 0 => pure ()
  | times + 1 => do
    let before := (← get).args.length
    pass format.length format
    let after := (← get).args.length
    if 0 < after ∧ after < before then passes format times

/-- Writes the arguments behind a format as it asks for, and complains about those that it does not
ask for. -/
def print (format : Octets) : Print Unit := do
  passes format ((← get).args.length + 1)
  if let arg :: _ := (← get).args then
    warn ("warning: ignoring excess arguments, starting with ".toList ++ ShellWord.mention arg)

/-- Uses the first argument as the format of the others. Asked about itself, the program has nothing
to tell. -/
def run (s : Start) : Finish :=
  let args := if s.args.head? = some "--".toList then s.args.tail else s.args
  match s.asksAboutItself, args with
  | true, _ => { written := [] }
  | false, [] => s.misuse ["missing operand"]
  | false, format :: args =>
    let (sheet, failed) :=
      match print format |>.run { name := s.name, toTheLetter := s.isToTheLetter, args } with
      | .ok _ sheet => (sheet, sheet.failed)
      | .error .stopped sheet => (sheet, false)
      | .error (.wrong text) sheet =>
        ({ sheet with written := sheet.line text :: sheet.written }, true)
    { written := sheet.written.reverse
      status := if failed then 1 else 0 }

end LineShell.Program.Format
