import LineShell.Program.ShellWord
import LineShell.Program.Spelling
import LineShell.System.Program

/-!
# Writing files one after another

The content of the files named by the arguments is written in their order; a lone hyphen, or no
name at all, means the input. Options have the lines numbered, empty lines dropped behind another
one, and bytes that cannot be shown written in a form that can.
-/

namespace LineShell.Program.Concatenate

/-- What the options ask for. -/
structure Options where
  /-- Whether lines are numbered. -/
  number : Bool := false
  /-- Whether only lines that are not empty are numbered. -/
  numberFilled : Bool := false
  /-- Whether an empty line behind another one is dropped. -/
  squeeze : Bool := false
  /-- Whether the end of a line is marked. -/
  showEnds : Bool := false
  /-- Whether tabulators are shown. -/
  showTabs : Bool := false
  /-- Whether other bytes that cannot be shown are. -/
  showHidden : Bool := false
deriving DecidableEq, Repr

namespace Options

/-- The options after one more letter, if it is one. -/
def letter? (o : Options) : Char → Option Options
  | 'A' => some { o with showHidden := true, showEnds := true, showTabs := true }
  | 'b' => some { o with numberFilled := true }
  | 'e' => some { o with showHidden := true, showEnds := true }
  | 'E' => some { o with showEnds := true }
  | 'n' => some { o with number := true }
  | 's' => some { o with squeeze := true }
  | 't' => some { o with showHidden := true, showTabs := true }
  | 'T' => some { o with showTabs := true }
  | 'u' => some o
  | 'v' => some { o with showHidden := true }
  | _ => none

/-- The letters of the options that are written out. -/
def words : List (String × Char) :=
  [("number-nonblank", 'b'), ("number", 'n'), ("squeeze-blank", 's'), ("show-nonprinting", 'v'),
    ("show-ends", 'E'), ("show-tabs", 'T'), ("show-all", 'A')]

/-- The options after one more that is written out. There are none if it asks the program about
itself. -/
def spelled (o : Options) (word : Octets) : Except String (Option Options) := do
  let name ← Spelling.read (words.map Prod.fst ++ Spelling.standard) word
  return (words.lookup name).bind o.letter?

/-- The options after more letters. A letter that is none is reported. -/
def letters (o : Options) : Octets → Except String Options
  | [] => .ok o
  | c :: cs =>
    match o.letter? c with
    | some o => o.letters cs
    | none => .error (Spelling.unknownLetter c)

/-- Reads options and the names of files. They may stand in any order up to a double hyphen, but not
by the letter of the standard. An option that there is not is reported. Nothing is read behind one
that asks the program about itself. -/
def read (toTheLetter : Bool) (o : Options) :
    List Octets → Except String (Option (Options × List Octets))
  | [] => .ok (some (o, []))
  | ['-', '-'] :: names => .ok (some (o, names))
  | ('-' :: '-' :: word) :: rest => do
    match ← o.spelled word with
    | some o => o.read toTheLetter rest
    | none => return none
  | ('-' :: c :: cs) :: rest => do
    let o ← o.letters (c :: cs)
    o.read toTheLetter rest
  | name :: rest =>
    if toTheLetter then .ok (some (o, name :: rest))
    else return (← o.read toTheLetter rest).map fun (o, names) => (o, name :: names)

/-- Whether the content is written as it stands. -/
def isPlain (o : Options) : Bool :=
  o = {}

/-- A byte in the form that can be shown. -/
def shown (o : Options) (c : Char) : Octets :=
  if c = '\t' then (if o.showTabs then "^I".toList else [c])
  else if ¬ o.showHidden then [c]
  else
    let low (c : Char) : Octets :=
      if c < ' ' then ['^', Char.ofNat (c.toNat + 64)]
      else if c = '\x7f' then "^?".toList
      else [c]
    if c.toNat < 128 then low c else "M-".toList ++ low (Char.ofNat (c.toNat - 128))

end Options

/-- Where in a line the writing stands. -/
structure Place where
  /-- Whether a line begins. -/
  atFront : Bool := true
  /-- Whether the line before was empty. -/
  behindEmpty : Bool := false
  /-- The number of the last line that was numbered. -/
  line : Nat := 0
deriving DecidableEq, Repr

/-- The number of the next line in six columns, with a tabulator behind it. -/
def Place.label (p : Place) : Octets :=
  let ds := Octets.decimal (p.line + 1)
  List.replicate (6 - ds.length) ' ' ++ ds ++ ['\t']

/-- Writes a content from a place on, and answers the place behind it. -/
def present (o : Options) (p : Place) : Octets → Octets × Place
  | [] => ([], p)
  | c :: cs =>
    if c = '\n' then
      if p.atFront ∧ p.behindEmpty ∧ o.squeeze then present o p cs
      else
        let numbered := p.atFront ∧ o.number ∧ ¬ o.numberFilled
        let front := if numbered then p.label else []
        let mark := if o.showEnds then ['$'] else []
        let next : Place := {
          atFront := true
          behindEmpty := p.atFront
          line := if numbered then p.line + 1 else p.line }
        let (text, place) := present o next cs
        (front ++ mark ++ '\n' :: text, place)
    else
      let numbered := p.atFront ∧ (o.number ∨ o.numberFilled)
      let front := if numbered then p.label else []
      let next : Place := {
        atFront := false
        behindEmpty := false
        line := if numbered then p.line + 1 else p.line }
      let shown := if o.showEnds ∧ c = '\r' ∧ cs.head? = some '\n' then "^M".toList else o.shown c
      let (text, place) := present o next cs
      (front ++ shown ++ text, place)

/-- A content in the form that the options ask for, and the place behind it. -/
def render (o : Options) (p : Place) (cs : Octets) : Octets × Place :=
  if o.isPlain then (cs, p) else present o p cs

/-- The content that a name means: a hyphen means the input. -/
def contentOf (s : Start) (input name : Octets) : Except FileTrouble Octets :=
  if name = ['-'] then
    match s.inputTrouble with
    | some trouble => .error trouble
    | none => .ok input
  else s.content name

/-- Writes the files from a place on. Files that cannot be read are complained about; when something
cannot be written, that is the end. The input is used up by the first name that means it. Answers as
well whether something went wrong, and whether the input was used. -/
def files (s : Start) (o : Options) (p : Place) (input : Octets) :
    List Octets → List Written × Bool × Bool
  | [] => ([], false, false)
  | name :: names =>
    let isInput := name = ['-']
    let left := if isInput then [] else input
    match contentOf s input name, s.outputTrouble with
    | .error trouble, _ =>
      let (rest, _, used) := files s o p left names
      let text := String.ofList (ShellWord.quoteName name) ++ ": " ++ trouble.description
      (s.complaint text :: rest, true, isInput || used)
    | .ok (_ :: _), some trouble =>
      ([s.complaint ("write error: " ++ trouble.description)], true, isInput)
    | .ok content, _ =>
      let (text, p) := render o p content
      let (rest, failed, used) := files s o p left names
      (.output text :: rest, failed, isInput || used)

/-- Writes the files that the arguments name. Asked about itself, the program has nothing to
tell. -/
def run (s : Start) : Finish :=
  match Options.read s.isToTheLetter {} s.args with
  | .error text => s.misuse [text]
  | .ok none => { written := [] }
  | .ok (some (o, names)) =>
    let names := if names = [] then [['-']] else names
    let trouble := FileTrouble.closed
    if s.outputTrouble = some trouble then
      { written := [s.complaint ("standard output: " ++ trouble.description)]
        status := 1 }
    else
      let (written, failed, used) := files s o {} s.input names
      let last :=
        if names.contains ['-'] ∧ s.inputTrouble = some trouble then
          [s.complaint ("closing standard input: " ++ trouble.description)]
        else []
      { written := written ++ last
        status := if failed then 1 else 0
        taken := if used then s.input.length else 0 }

end LineShell.Program.Concatenate
