import LineShell.Script.Builtin.Basic

/-!
# Commands of the language: variables and parameters

These commands give variables values and properties, change the parameters and the options of the
script, and read lines of input and options of arguments into variables.
-/

namespace LineShell.Script.Builtin

open Run

/-- The name and the value of an argument that assigns, or the argument and no value. -/
def splitAssignment (arg : Octets) : Octets × Option Octets :=
  match arg.dropWhile (· ≠ '=') with
  | '=' :: value => (arg.takeWhile (· ≠ '='), some value)
  | _ => (arg, none)

/-- Writes the variables that have a property, in the order of their names. -/
def list (before : String) (has : Variable → Bool) : Run Nat := do
  let chosen := (← process).bindings.toList.filter fun x => has x.2
  say <| chosen.flatMap fun (name, v) =>
    before.toList ++ name ++ ((v.value.map fun value => '=' :: quoted value).getD []) ++ ['\n']
  return 0

/-- Gives variables a property, and values if there are some. -/
def mark (before : String) (has : Variable → Bool) (give : Variable → Variable)
    (args : List Octets) : Run Nat := do
  let (option, args) ← firstOption "p" args
  if args = [] ∨ option.isSome then list before has
  else
    args.forM fun arg => do
      match splitAssignment arg, ← lookup? arg with
      | (_, none), some v => replaceVariable arg (some (give v))
      | (_, none), none => replaceVariable (← nameOf arg) (some (give {}))
      | (_, some value), _ => assignWith (← nameOf arg) value give
    return 0

/-- Lets programs see variables. -/
def export_ : List Octets → Run Nat :=
  mark "export " Variable.exported fun v => { v with exported := true }

/-- Protects the values of variables. -/
def readonly : List Octets → Run Nat :=
  mark "readonly " Variable.constant fun v => { v with constant := true }

/-- Makes variables, or the options, a function's own: they get back what they have now when it
ends. -/
def local_ (args : List Octets) : Run Nat := do
  if (← process).scopes.isEmpty then fail "not in a function".toList
  args.forM fun arg => do
    if arg = ['-'] then
      update fun p =>
        match p.scopes with
        | [] => p
        | scope :: scopes =>
          { p with scopes := { scope with options := scope.options.or (some p.options) } :: scopes }
    else
      let (name, value) := splitAssignment arg
      makeOwn name value id
  return 0

/-- Takes a variable away. -/
def unsetVariable (arg : Octets) : Run Unit := do
  let name ← nameOf arg
  if let some v ← lookup? name then
    if v.constant then failConstant name
    heed name []
    let exportAll := (← process).options.exportAll
    replaceVariable name <|
      if v.lasting || exportAll then
        some { v with value := none, exported := v.exported || exportAll }
      else none

/-- Takes variables or functions away. -/
def unset (args : List Octets) : Run Nat := do
  let (os, args) ← readOptions "vf" args
  let functions := os.getLast?.any fun o => o.1 = 'f'
  args.forM fun name => do
    if functions then
      update fun p => { p with functions := p.functions.filter fun f => f.1 ≠ name }
    else unsetVariable name
  return 0

/-- Takes parameters away from the front. -/
def shift (args : List Octets) : Run Nat := do
  let n ← match args.head? with
    | none => pure 1
    | some arg => number arg
  if (← process).params.length < n then fail "can't shift that many".toList
  update fun p => { p with params := p.params.drop n, optionPlace := {} }
  return 0

/-- Lets go of an option that cannot be had: jobs have no groups without a keyboard. -/
def settleOptions : Run Unit := do
  let p ← process
  if p.options.monitor && p.number = p.rootNumber then
    complain "can't access tty; job control turned off".toList
    update fun p => { p with options := { p.options with monitor := false } }

/-- Writes the options and their values. Those that nobody has set yet may count as set. -/
def listOptions (fresh asCommands : Bool) : Run Unit := do
  let options := (← process).options
  let isSet (row : Options.Row) : Bool := fresh || row.isSet options
  if asCommands then
    say <| Options.table.flatMap fun row =>
      (if isSet row then "set -o " else "set +o ").toList ++ row.name.toList ++ ['\n']
  else
    say <| "Current option settings\n".toList ++ Options.table.flatMap fun row =>
      row.name.toList ++ List.replicate (16 - row.name.length) ' '
        ++ (if isSet row then "on\n" else "off\n").toList

/-- Sets options as the letters of an argument say, where one letter takes a name from the next
argument, or else lists the options. -/
def setLetters (fresh on : Bool) : Octets → List Octets → Run (List Octets)
  | [], args => return args
  | 'o' :: cs, [] => do
    listOptions fresh !on
    setLetters fresh on cs []
  | 'o' :: cs, name :: args => do
    match (← process).options.setName? name on with
    | some options => update fun p => { p with options }
    | none => fail ("Illegal option -o ".toList ++ name)
    setLetters fresh on cs args
  | c :: cs, args => do
    match (← process).options.setLetter? c on with
    | some options => update fun p => { p with options }
    | none => fail ("Illegal option -".toList ++ [c])
    setLetters fresh on cs args

/-- Sets options and parameters. Each step reads an argument at least. -/
def setAll : Nat → List Octets → Run Nat
  | 0, _ => return 0
  | _, [] => return 0
  | steps + 1, arg :: args => do
    match arg with
    | ['-'] => do
      update fun p => { p with options := { p.options with trace := false, verbose := false } }
      parameters false args
    | ['-', '-'] => parameters true args
    | '-' :: cs => setAll steps (← setLetters false true cs args)
    | '+' :: cs => setAll steps (← setLetters false false cs args)
    | _ => parameters false (arg :: args)
where
  /-- Sets the parameters, to none only if that is meant. -/
  parameters (toNone : Bool) (args : List Octets) : Run Nat := do
    if args ≠ [] ∨ toNone then update fun p => { p with params := args, optionPlace := {} }
    return 0

/-- Sets options and parameters, or writes the variables. -/
def set (args : List Octets) : Run Nat :=
  if args = [] then list "" fun v => v.value.isSome
  else do
    let status ← setAll (args.length + 1) args
    settleOptions
    return status

/-! ## Reading -/

/-- A line at the front of a text: its characters, whether it is complete, and how many characters
it took. Unless that is switched off, a backslash takes the meaning of a character away, which is
then no separator, and continues the line at its end. -/
def readLine (raw : Bool) (text : Octets) : Draft × Bool × Nat :=
  go {} 0 none 0 text
where
  /-- Goes on with a draft, given where the region at hand begins, where a backslash stands that has
  taken a meaning away, and how many characters came before. -/
  go (d : Draft) (start : Nat) (slash : Option Nat) (n : Nat) : Octets → Draft × Bool × Nat
    | [] => (d.divide start false, false, n)
    | c :: cs =>
      let written := d.push (Cell.ofChar false c)
      if c = '\x00' then go d start slash (n + 1) cs
      else match slash with
        | some place =>
          let region : Region := { start, stop := place, parametersOnly := false }
          let d := if c = '\n' then d else written
          go { d with regions := d.regions.push region } d.size none (n + 1) cs
        | none =>
          if c = '\\' ∧ ¬ raw then go d start (some d.size) (n + 1) cs
          else if c = '\n' then (d.divide start false, true, n + 1)
          else go written start none (n + 1) cs

/-- Reads a line of input into variables. -/
def read (args : List Octets) : Run Nat := do
  let (os, names) ← readOptions "p:r" args
  if names = [] then fail "arg count".toList
  let raw := os.any fun o => o.1 = 'r'
  let (line, complete, n) := readLine raw (← input 0)
  skip 0 n
  let texts := line.lineFields (← separators) names.length
  names.zipIdx.forM fun (name, i) => do
    assign (← nameOf name) (texts.getD i [])
  return if complete then 0 else 1

/-! ## Options of arguments -/

/-- What stands behind a letter in a table of options, if it is there. A colon behind another letter
is part of that. -/
def behindLetter? (letter : Char) : Octets → Option Octets
  | [] => none
  | c :: cs =>
    if c = letter then some cs
    else match cs with
      | ':' :: rest => behindLetter? letter rest
      | cs => behindLetter? letter cs

/-- The letters that are left of an argument with options, and the number of the next argument,
given where options have been read up to. There are no letters at the end of the options. -/
def lettersAt (words : List Octets) (place : OptionPlace) : Octets × Nat :=
  let current :=
    match place.offset with
    | some offset =>
      if place.index ≤ 1 then [] else (words.getD (place.index - 2) []).drop offset
    | none => []
  if current ≠ [] then (current, place.index)
  else match words[place.index - 1]? with
    | some ['-', '-'] => ([], place.index + 1)
    | some ('-' :: c :: cs) => (c :: cs, place.index + 1)
    | _ => ([], place.index)

/-- What an option comes to. -/
structure OptionFound where
  /-- The letter that is answered for it. -/
  letter : Char
  /-- The number of the next argument. -/
  next : Nat
  /-- The letters left of its argument, if options go on there. -/
  left : Option Octets := none

/-- Reads the option of a letter, and gives its argument to a variable. -/
def readOption (quiet : Bool) (table : Octets) (words : List Octets) (letter : Char) (left : Octets)
    (next : Nat) : Run OptionFound := do
  let argument (text : Octets) : Run Unit := assign "OPTARG".toList text
  match behindLetter? letter table with
  | none =>
    if quiet then argument [letter]
    else
      discard <| write? 2 ("Illegal option -".toList ++ [letter, '\n'])
      unsetVariable "OPTARG".toList
    return { letter := '?', next, left }
  | some (':' :: _) =>
    match left, words[next - 1]? with
    | [], none =>
      if quiet then
        argument [letter]
        return { letter := ':', next }
      else
        discard <| write? 2 ("No arg for -".toList ++ letter :: " option\n".toList)
        unsetVariable "OPTARG".toList
        return { letter := '?', next }
    | [], some word =>
      argument word
      return { letter, next := next + 1 }
    | left, _ =>
      argument left
      return { letter, next }
  | some _ =>
    argument []
    return { letter, next, left }

/-- A number that no argument has. -/
def nowhere : Nat :=
  UInt32.size - 1

/-- The next option among arguments. -/
def getopts (args : List Octets) : Run Nat := do
  match args with
  | table :: name :: rest =>
    let p ← process
    let words := if rest = [] then p.params else rest
    let place := if words.length + 1 < p.optionPlace.index then {} else p.optionPlace
    update fun p => { p with optionPlace := { index := nowhere } }
    let quiet := table.head? = some ':'
    let found ←
      match lettersAt words place with
      | ([], next) => pure { letter := '?', next : OptionFound }
      | (c :: cs, next) => readOption quiet table words c cs next
    store "OPTIND".toList (Octets.decimal found.next) id
    assign (← nameOf name) [found.letter]
    let offset := found.left.map fun left =>
      (words.getD (found.next - 2) []).length - left.length
    update fun p => { p with optionPlace := { index := found.next, offset } }
    return if (lettersAt words place).1 = [] then 1 else 0
  | _ => fail "Usage: getopts optstring var [arg...]".toList

end LineShell.Script.Builtin
