import LineShell.Number.Layout
import LineShell.Script.Machine

/-!
# Writing texts from a script

Two commands of the language write texts: one repeats its arguments, the other writes them as a
format asks for. Both read escapes, and an escape may end all output.
-/

namespace LineShell.Script.Print

/-! ## Escapes -/

/-- The control character of a letter. -/
def control? : Char → Option Char
  | '\\' => some '\\'
  | 'a' => some '\x07'
  | 'b' => some '\x08'
  | 'e' => some '\x1b'
  | 'f' => some '\x0c'
  | 'n' => some '\n'
  | 'r' => some '\r'
  | 't' => some '\t'
  | 'v' => some '\x0b'
  | _ => none

/-- What an escape stands for, given what stands behind its backslash, and what stands behind the
escape. What is no escape stands for itself, so only its backslash is taken. -/
def readEscape (cs : Octets) : Char × Octets :=
  match cs with
  | [] => ('\\', [])
  | c :: rest =>
    match control? c with
    | some d => (d, rest)
    | none =>
      match readDigits 8 3 cs with
      | (0, _, _) => ('\\', cs)
      | (_, n, rest) => (Octets.octet n, rest)

/-- A text with its escapes read, and whether one of them ends all output. A zero before octal
digits does not count as one. Each step reads a character at least. -/
def unescape : Nat → Octets → Octets × Bool
  | 0, _ => ([], false)
  | _, [] => ([], false)
  | _ + 1, '\\' :: 'c' :: _ => ([], true)
  | steps + 1, '\\' :: cs =>
    let cs :=
      match cs with
      | '0' :: d :: rest => if (digitIn? 8 d).isSome then d :: rest else cs
      | _ => cs
    let (c, rest) := readEscape cs
    let (text, stopped) := unescape steps rest
    (c :: text, stopped)
  | steps + 1, c :: cs =>
    let (text, stopped) := unescape steps cs
    (c :: text, stopped)

/-! ## Repeating arguments -/

/-- The arguments with spaces between them and a line feed behind them, unless an option leaves that
out. -/
def echo (args : List Octets) : Octets :=
  let (words, ending) := if args.head? = some "-n".toList then (args.tail, []) else (args, ['\n'])
  let text := [' '].intercalate words
  let (text, stopped) := unescape text.length text
  if stopped then text else text ++ ending

/-! ## Formats -/

/-- What has been written so far, and what is left to write. -/
structure Sheet where
  /-- The pieces of the output, the latest first. -/
  output : List Octets := []
  /-- Whether a number was not well formed. -/
  failed : Bool := false
  /-- The arguments left. -/
  args : List Octets

/-- Why nothing more is written. -/
inductive Halt where
  /-- An escape asks for that. -/
  | stopped
  /-- Something is wrong. -/
  | wrong (complaint : Octets)

/-- A step of the command. Complaints are kept in order. -/
abbrev Step := ExceptT Halt (StateM (Sheet × List Octets))

/-- Writes a text. -/
def write (cs : Octets) : Step Unit :=
  modify fun (s, complaints) => ({ s with output := cs :: s.output }, complaints)

/-- Takes the next argument, if there is one. -/
def next? : Step (Option Octets) := do
  let (s, complaints) ← get
  set ({ s with args := s.args.tail }, complaints)
  return s.args.head?

/-- Complains about a number that was not read to its end, or was out of range. -/
def check (arg rest : Octets) (outOfRange : Bool) : Step Unit :=
  let text :=
    if rest.length = arg.length ∧ rest ≠ [] then ": expected numeric value"
    else if rest ≠ [] then ": not completely converted"
    else if outOfRange then ": Numerical result out of range"
    else ""
  if text = "" then pure ()
  else modify fun (s, complaints) =>
    ({ s with failed := true }, (arg ++ text.toList) :: complaints)

/-- The number of the next argument: that of a byte behind a quote, one that is read, or zero if
there is no argument. -/
def number {α : Type} (ofByte : Nat → α) (read : Octets → Step α) : Step α := do
  match ← next? with
  | none => return ofByte 0
  | some (q :: cs) =>
    if q = '"' ∨ q = '\'' then return ofByte (cs.headD '\x00').toNat else read (q :: cs)
  | some [] => read []

/-- The integer of the next argument, as a signed word. -/
def signed : Step Int :=
  number Int.ofNat fun arg => do
    match Number.leading? arg with
    | none => check arg arg false; return 0
    | some n => check arg n.rest n.exceedsSigned; return n.signed

/-- The integer of the next argument, as an unsigned word. -/
def unsigned : Step Nat :=
  number id fun arg => do
    match Number.leading? arg with
    | none => check arg arg false; return 0
    | some n => check arg n.rest n.exceedsUnsigned; return n.unsigned

/-- The fraction of the next argument. -/
def fraction : Step Number.Real :=
  number (fun n => (Number.Format.double.round false n 1).1) fun arg => do
    match Number.Format.double.leading? arg with
    | none => check arg arg false; return .finite false 0 0
    | some n => check arg n.rest n.outOfRange; return n.value

/-- A count in a directive: digits, or an asterisk, which takes it from the arguments; and what
stands behind it. -/
def readCount (cs : Octets) : Step (Int × Octets) := do
  match cs with
  | '*' :: cs => return (Int.bmod (← signed) UInt32.size, cs)
  | cs => return (Nat.ofDigitChars 10 (cs.takeWhile Char.isDigit) 0, cs.dropWhile Char.isDigit)

/-- The greatest width and the greatest precision. -/
def greatestCount : Nat :=
  UInt32.size / 2 - 1

/-- Writes the next argument as a letter asks for it. -/
def convert (l : Number.Layout) (letter : Char) : Step Unit := do
  if greatestCount < l.width ∨ greatestCount < l.precision.getD 0 then
    throw (.wrong "xvsnprintf failed".toList)
  match letter with
  | 'b' =>
    let arg := (← next?).getD []
    let (text, stopped) := unescape arg.length arg
    write (l.text text)
    if stopped then throw .stopped
  | 's' => write (l.text ((← next?).getD []))
  | 'c' => write (l.pad [((← next?).getD []).headD '\x00'])
  | 'd' => write (l.integer (← signed))
  | 'i' => write (l.integer (← signed))
  | _ =>
    if "ouxX".toList.contains letter then write (l.natural letter (← unsigned))
    else write (l.real .double letter (← fraction))

/-- Carries a directive out, given what stands behind its percent sign, and answers what stands
behind the directive. -/
def directive (start : Octets) : Step Octets := do
  let isFlag (c : Char) : Bool := "#-+ 0".toList.contains c
  let flags := start.takeWhile isFlag
  let (width, cs) ← readCount (start.dropWhile isFlag)
  let (precision, cs) ←
    match cs with
    | '.' :: cs => do
      let (n, cs) ← readCount cs
      pure (if n < 0 then none else some n.toNat, cs)
    | cs => pure (none, cs)
  match cs with
  | [] => throw (.wrong "missing format character".toList)
  | letter :: rest =>
    if "bcsdiouxXaAeEfFgG".toList.contains letter then
      let layout : Number.Layout := {
        left := flags.contains '-' || width < 0
        plus := flags.contains '+'
        space := flags.contains ' '
        zeros := flags.contains '0'
        alternate := flags.contains '#'
        width := width.natAbs
        precision }
      convert layout letter
      return rest
    else
      throw (.wrong ('%' :: start.take (start.length - rest.length) ++
        ": invalid directive".toList))

/-- Goes once through a format. A step leaves less of the format than there was, so as many steps as
it has characters suffice. -/
def pass : Nat → Octets → Step Unit
  | 0, _ => pure ()
  | _, [] => pure ()
  | steps + 1, '%' :: '%' :: cs => do
    write ['%']
    pass steps cs
  | steps + 1, '%' :: cs => do
    pass steps (← directive cs)
  | steps + 1, '\\' :: cs => do
    let (c, rest) := readEscape cs
    write [c]
    pass steps rest
  | steps + 1, c :: cs => do
    write [c]
    pass steps cs

/-- Goes through a format while that uses arguments up and some are left. -/
def passes (format : Octets) : Nat → Step Unit
  | 0 => pure ()
  | times + 1 => do
    let before := (← get).1.args.length
    pass format.length format
    let after := (← get).1.args.length
    if 0 < after ∧ after < before then passes format times

/-- What a format makes of arguments. -/
structure Printed where
  /-- The output. -/
  output : Octets
  /-- The complaints, in order. -/
  complaints : List Octets
  /-- Whether a complaint ended the command. -/
  broken : Bool
  /-- Whether a number was not well formed. -/
  failed : Bool

/-- Writes arguments as a format asks for it. -/
def printf (format : Octets) (args : List Octets) : Printed :=
  let (halt, sheet, complaints) := (passes format (args.length + 1)).run.run ({ args }, [])
  let output := sheet.output.reverse.flatten
  match halt with
  | .error (.wrong text) => ⟨output, (text :: complaints).reverse, true, sheet.failed⟩
  | _ => ⟨output, complaints.reverse, false, sheet.failed⟩

end LineShell.Script.Print
