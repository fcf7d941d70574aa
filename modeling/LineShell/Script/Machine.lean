import LineShell.Number.Digits
import LineShell.Script.Field
import LineShell.System.Program
import LineShell.System.Signal
import Std.Data.TreeMap.Basic

/-!
# The machine that runs scripts

A script runs in a process, which has variables, parameters and descriptors of its own. Processes
that it starts begin with a copy of these. All processes share the files and what has been written,
and each runs until it ends before the one that started it goes on; one that is not waited for is
kept until somebody does.
-/

namespace LineShell.Script

/-- A variable. -/
structure Variable where
  /-- Its value, if it has one. -/
  value : Option Octets := none
  /-- Whether programs see it. -/
  exported : Bool := false
  /-- Whether its value may not change. -/
  constant : Bool := false
  /-- Whether it keeps its properties when its value is taken away. -/
  lasting : Bool := false
deriving DecidableEq, Repr

/-- The options of a script. -/
structure Options where
  /-- A failure ends the script. -/
  failFast : Bool := false
  /-- No pattern is replaced by files. -/
  noFiles : Bool := false
  /-- Nothing is run. -/
  noRun : Bool := false
  /-- Variables without a value may not be used. -/
  noUnset : Bool := false
  /-- Commands are shown before they are run. -/
  trace : Bool := false
  /-- The script is shown while it is read. -/
  verbose : Bool := false
  /-- Variables are exported when they are assigned. -/
  exportAll : Bool := false
  /-- Redirections do not empty files. -/
  noClobber : Bool := false
  /-- Jobs have groups of their own. -/
  monitor : Bool := false
  /-- The ends of jobs are told at once. -/
  notify : Bool := false
  /-- The end of the input does not end the script. -/
  ignoreEnd : Bool := false
  /-- The script is read from the input. -/
  fromInput : Bool := false
  /-- A person gives the commands. -/
  interactive : Bool := false
  /-- The names of other options that are set, which change nothing. -/
  others : List String := []
deriving DecidableEq, Repr

namespace Options

/-- An option: its name, the letter for it if there is one, whether it is set, and how to set it. -/
structure Row where
  /-- Its name. -/
  name : String
  /-- The letter for it. -/
  letter : Option Char
  /-- Whether it is set. -/
  isSet : Options → Bool
  /-- The options with this one set or not. -/
  change : Options → Bool → Options

/-- An option that changes nothing. -/
def Row.other (name : String) (letter : Option Char) : Row where
  name
  letter
  isSet o := o.others.contains name
  change o on :=
    let others := o.others.filter (· ≠ name)
    { o with others := if on then name :: others else others }

/-- The options in the order in which they are shown. -/
def table : List Row := [
  ⟨"errexit", some 'e', failFast, fun o b => { o with failFast := b }⟩,
  ⟨"noglob", some 'f', noFiles, fun o b => { o with noFiles := b }⟩,
  ⟨"ignoreeof", some 'I', ignoreEnd, fun o b => { o with ignoreEnd := b }⟩,
  ⟨"interactive", some 'i', interactive, fun o b => { o with interactive := b }⟩,
  ⟨"monitor", some 'm', monitor, fun o b => { o with monitor := b }⟩,
  ⟨"noexec", some 'n', noRun, fun o b => { o with noRun := b }⟩,
  ⟨"stdin", some 's', fromInput, fun o b => { o with fromInput := b }⟩,
  ⟨"xtrace", some 'x', trace, fun o b => { o with trace := b }⟩,
  ⟨"verbose", some 'v', verbose, fun o b => { o with verbose := b }⟩,
  Row.other "vi" (some 'V'),
  Row.other "emacs" (some 'E'),
  ⟨"noclobber", some 'C', noClobber, fun o b => { o with noClobber := b }⟩,
  ⟨"allexport", some 'a', exportAll, fun o b => { o with exportAll := b }⟩,
  ⟨"notify", some 'b', notify, fun o b => { o with notify := b }⟩,
  ⟨"nounset", some 'u', noUnset, fun o b => { o with noUnset := b }⟩,
  Row.other "privileged" (some 'p'),
  Row.other "nolog" none,
  Row.other "debug" none]

/-- The options with the one of a letter set, if there is one. -/
def setLetter? (o : Options) (letter : Char) (on : Bool) : Option Options :=
  (table.find? fun row => row.letter = some letter).map fun row => row.change o on

/-- The options with the one of a name set, if there is one. -/
def setName? (o : Options) (name : Octets) (on : Bool) : Option Options :=
  (table.find? fun row => row.name.toList = name).map fun row => row.change o on

/-- The letters of the options that are set, the last first. -/
def letters (o : Options) : Octets :=
  (table.filterMap fun row => if row.isSet o then row.letter else none).reverse

end Options

/-- A file that a descriptor is connected to. Descriptors that are copies of one another share the
place where it is read and written. -/
structure Opened where
  /-- The number of the content, or none for a device that holds nothing. -/
  content : Option Nat
  /-- How much of the content comes before the place. -/
  place : Nat := 0
  /-- Whether everything is written at the end. -/
  atEnd : Bool := false
  /-- Whether it may be read. -/
  readable : Bool := false
  /-- Whether it may be written. -/
  writable : Bool := false
  /-- Why it cannot be read or written though it could be opened, if so. -/
  trouble : Option FileTrouble := none

/-- What a command or a function changes for itself alone, and how it was before. -/
structure Scope where
  /-- The variables, the latest first. One that there was not before has no value to get back. -/
  bindings : List (Octets × Option Variable) := []
  /-- The options, if they have been made its own. -/
  options : Option Options := none

/-- Where the program of a name was found before. -/
structure Remembered where
  /-- How many directories of the search path come before its own. -/
  index : Nat
  /-- Whether the script has gone to another directory since. -/
  stale : Bool := false
deriving DecidableEq, Repr

/-- How far the options of arguments have been read. -/
structure OptionPlace where
  /-- The number of the next argument. -/
  index : Nat := 1
  /-- How many characters of the argument before it have been read, if some are left. -/
  offset : Option Nat := none
deriving DecidableEq, Repr

/-- A limit on what a process may use: the one that holds, and the greatest that it may be. -/
structure Limit where
  /-- The limit that holds. -/
  soft : Nat
  /-- The greatest one. -/
  hard : Nat
deriving DecidableEq, Repr

/-- A process. -/
structure Process where
  /-- Its number. -/
  number : Nat
  /-- The number of the process in which the script began. -/
  rootNumber : Nat
  /-- The name of the script. -/
  name : Octets
  /-- The parameters. -/
  params : List Octets := []
  /-- The variables by their names. -/
  bindings : Std.TreeMap Octets Variable := ∅
  /-- The functions, each with its name. -/
  functions : List (Octets × Node) := []
  /-- The words that stand for other texts, in the order in which they were first used. -/
  aliases : List (Octets × Octets) := []
  /-- The programs that have been found, in the order in which they were. -/
  remembered : List (Octets × Remembered) := []
  /-- The options. -/
  options : Options := {}
  /-- How far options have been read from the parameters. -/
  optionPlace : OptionPlace := {}
  /-- The directory where paths begin. -/
  directory : Path
  /-- The text that leads there, as the script knows it. -/
  here : Octets
  /-- The permissions that new files do not have. -/
  mask : Nat := 18
  /-- The limits that are not the usual ones, by their letters. -/
  limits : List (Char × Limit) := []
  /-- The descriptors, each with the number of its opened file. -/
  descriptors : List (Nat × Nat) := []
  /-- What is done on a signal, or, as if that were signal zero, at the end. An empty text means
  that nothing is. -/
  traps : List (Signal × Octets) := []
  /-- The signals that did nothing when the script began, and cannot do more. -/
  immune : List Signal := []
  /-- The status of the last command. -/
  status : Nat := 0
  /-- The status with which the process ends if no other is given for that: the one from before what
  is being done on a signal or at the end. -/
  saved : Option Nat := none
  /-- The status of the last command whose output was taken. -/
  outputStatus : Nat := 0
  /-- The number of the last process that was not waited for. -/
  background : Option Nat := none
  /-- What the commands at hand have changed for themselves, the innermost first. -/
  scopes : List Scope := []
  /-- The number of functions around. -/
  depth : Nat := 0
  /-- The number of repeated commands around. -/
  loops : Nat := 0
  /-- The line of the command at hand. -/
  line : Nat := 1
  /-- The line up to which the script has been read. -/
  lineRead : Nat := 1
  /-- That line of the file or input that is the script itself, which stays 1 if the script is
  neither. -/
  baseLine : Nat := 1
  /-- The command of the language that is being run. -/
  command : Option Octets := none
  /-- What that command has written and what has not reached descriptor 1, the latest first. -/
  unwritten : List Octets := []
  /-- Whether the script has been read to its end and what is read next comes upon that end
  first. -/
  endAhead : Bool := false
  /-- Whether what stands in front of a command that is shown is being replaced. -/
  inPrompt : Bool := false

/-- How a process ends. -/
inductive Ending where
  /-- With a status. -/
  | status (n : Nat)
  /-- By a signal. -/
  | signal (s : Signal)
deriving DecidableEq, Repr

/-- The status that another process sees. -/
def Ending.code : Ending → Nat
  | status n => n % 256
  | signal s => 128 + s.number

/-- A process that is not waited for. -/
structure Job where
  /-- The number of the process that started it. -/
  owner : Nat
  /-- Its number among the jobs of that process. -/
  slot : Nat
  /-- The process, before it has begun. -/
  process : Process
  /-- What it does. -/
  body : Node
  /-- How it has ended. -/
  ending : Option Ending := none
  /-- Whether its owner knows that it has ended. -/
  noticed : Bool := false
  /-- Whether its owner has waited for it. -/
  waited : Bool := false

/-- The machine. -/
structure Machine where
  /-- The process at hand. -/
  process : Process
  /-- The contents of files, of pipes and of what is written, by their numbers. -/
  contents : Array (Array Char) := #[]
  /-- The opened files, by their numbers. -/
  opened : Array Opened := #[]
  /-- The files. -/
  files : Files := {}
  /-- The processes that are not waited for, the latest first. -/
  jobs : List Job := []
  /-- The signals that have been sent and not been taken, each with the number of its process. -/
  signals : List (Nat × Signal) := []
  /-- The processes that are waiting for the one at hand, the innermost first. -/
  ancestors : List Nat := []
  /-- The number of the next process. -/
  nextProcess : Nat
  /-- The texts that are parts of scripts, by their numbers. -/
  documents : List (Nat × List Part) := []
  /-- The number of the next such text. -/
  nextDocument : Nat := 0

/-- Why a command does not end in the usual way. -/
inductive Stop where
  /-- So many repeated commands end. -/
  | leave (levels : Nat)
  /-- So many repeated commands, less one, end; the last goes on with its next round. -/
  | again (levels : Nat)
  /-- A function, or a script of its own, ends, with the last status or one that is given. -/
  | back (given : Bool)
  /-- The process ends. -/
  | exit
  /-- The process ends because of an error. -/
  | error
  /-- The process has become another program, which has ended like this. -/
  | replaced (ending : Ending)
  /-- A signal ends the process. -/
  | killed (signal : Signal)
  /-- Commands are nested too deeply, or repeated too often. -/
  | exhausted
deriving DecidableEq, Repr

/-- What a machine does. -/
abbrev Run := EStateM Stop Machine

namespace Run

/-- The process at hand. -/
def process : Run Process :=
  return (← get).process

/-- Changes the process at hand. -/
def update (f : Process → Process) : Run Unit :=
  modify fun m => { m with process := f m.process }

/-- Sets the status of the last command. -/
def setStatus (n : Nat) : Run Unit :=
  update fun p => { p with status := n }

/-! ## Descriptors -/

/-- A content of its own. -/
def newContent (text : Octets) : Run Nat := do
  let m ← get
  set { m with contents := m.contents.push text.toArray }
  return m.contents.size

/-- A file that has been opened. -/
def open_ (file : Opened) : Run Nat := do
  let m ← get
  set { m with opened := m.opened.push file }
  return m.opened.size

/-- Connects a descriptor. -/
def connect (descriptor number : Nat) : Run Unit :=
  update fun p =>
    { p with
      descriptors := (descriptor, number) :: p.descriptors.filter fun d => d.1 ≠ descriptor }

/-- Disconnects a descriptor. -/
def disconnect (descriptor : Nat) : Run Unit :=
  update fun p => { p with descriptors := p.descriptors.filter fun d => d.1 ≠ descriptor }

/-- What a descriptor is connected to, with its number. -/
def connected? (descriptor : Nat) : Run (Option (Nat × Opened)) := do
  let m ← get
  match m.process.descriptors.lookup descriptor with
  | none => return none
  | some number => return m.opened[number]?.map (number, ·)

/-- Writes a text over what stands at a place of a content. -/
def overwrite (content : Array Char) (place : Nat) (text : Octets) : Array Char :=
  let gap := (List.replicate (place - content.size) '\x00').toArray
  content.extract 0 place ++ gap ++ text.toArray
    ++ content.extract (place + text.length) content.size

/-- Writes a text to an opened file, if it can take that. -/
def writeOpened? (number : Nat) (text : Octets) : Run (Option FileTrouble) := do
  match (← get).opened[number]? with
  | none => return some .closed
  | some file =>
    if text = [] then return none
    else if ¬ file.writable then return some .closed
    else if let some trouble := file.trouble then return some trouble
    else match file.content with
      | none => return none
      | some content =>
        modify fun m =>
          let size := (m.contents.getD content #[]).size
          let place := if file.atEnd then size else file.place
          { m with
            contents := m.contents.modify content fun c =>
              if place = size then c.appendList text else overwrite c place text
            opened := m.opened.modify number fun f => { f with place := place + text.length } }
        return none

/-- Writes a text to a descriptor, if it can take that. -/
def write? (descriptor : Nat) (text : Octets) : Run (Option FileTrouble) := do
  match (← process).descriptors.lookup descriptor with
  | none => return some .closed
  | some number => writeOpened? number text

/-- What can be read from an opened file. -/
def remaining (number : Nat) : Run Octets := do
  let m ← get
  match m.opened[number]? with
  | some { content := some content, readable := true, place, .. } =>
    let text := m.contents.getD content #[]
    return (text.extract place text.size).toList
  | _ => return []

/-- Takes so much from what can be read from an opened file. -/
def advance (number count : Nat) : Run Unit :=
  modify fun m =>
    { m with opened := m.opened.modify number fun f => { f with place := f.place + count } }

/-- What can be read from an opened file, which is taken. -/
def wholeInput (number : Nat) : Run Octets := do
  let text ← remaining number
  advance number text.length
  return text

/-- What can be read from a descriptor. -/
def input (descriptor : Nat) : Run Octets := do
  match ← connected? descriptor with
  | some (number, _) => remaining number
  | none => return []

/-- Why nothing can be read from a descriptor, if so. -/
def inputTrouble? (descriptor : Nat) : Run (Option FileTrouble) := do
  match ← connected? descriptor with
  | none => return some .closed
  | some (_, file) =>
    if ¬ file.readable then return some .closed
    else return file.trouble.filter (· = .isDirectory)

/-- Why nothing can be written to a descriptor, if so. -/
def outputTrouble? (descriptor : Nat) : Run (Option FileTrouble) := do
  match ← connected? descriptor with
  | none => return some .closed
  | some (_, file) => if file.writable then return file.trouble else return some .closed

/-- What answers questions about files from the directory of the process. -/
def inquiry : Run Inquiry := do
  let m ← get
  return .about m.files m.process.directory fun content =>
    (m.contents.getD content #[]).size ≠ 0

/-- Takes so much from what can be read from a descriptor. -/
def skip (descriptor count : Nat) : Run Unit := do
  match ← connected? descriptor with
  | some (number, _) => advance number count
  | none => return

/-- Has a text written to descriptor 1 when the command at hand ends. -/
def say (text : Octets) : Run Unit :=
  update fun p => { p with unwritten := text :: p.unwritten }

/-- Writes what has to be written to descriptor 1, and answers whether that is possible. -/
def flush : Run Bool := do
  match (← process).unwritten with
  | [] => return true
  | texts =>
    update fun p => { p with unwritten := [] }
    return (← write? 1 texts.reverse.flatten).isNone

/-- Complains, with the name of the script and the number of the line in front. -/
def complain (text : Octets) : Run Unit := do
  let p ← process
  let command :=
    match p.command with
    | some name => name ++ ": ".toList
    | none => []
  discard <| write? 2
    (p.name ++ ": ".toList ++ Octets.decimal p.line ++ ": ".toList ++ command ++ text ++ ['\n'])

/-- Complains, and ends what is being done. -/
def fail {α : Type} (text : Octets) : Run α := do
  complain text
  discard flush
  setStatus 2
  throw .error

/-- Complains about the script where it has been read up to, and ends what is being done. -/
def failReading {α : Type} (text : Octets) : Run α := do
  update fun p => { p with line := p.lineRead }
  fail ("Syntax error: ".toList ++ text)

/-- The number that a text writes in decimal digits. -/
def number (text : Octets) : Run Nat := do
  match Number.decimal? text with
  | some (.ofNat n) => if n < UInt32.size / 2 then return n else bad
  | _ => bad
where
  /-- Complains about the text. -/
  bad : Run Nat := fail ("Illegal number: ".toList ++ text)

/-! ## Variables -/

/-- A variable, if there is one of the name. -/
def lookup? (name : Octets) : Run (Option Variable) :=
  return (← process).bindings[name]?

/-- The value of a variable, if it has one. -/
def value? (name : Octets) : Run (Option Octets) :=
  return (← lookup? name).bind Variable.value

/-- The value of a variable, or a usual one. -/
def valueOr (name : String) (usual : Octets) : Run Octets :=
  return (← value? name.toList).getD usual

/-- Puts a variable in the place of the one of its name, or takes that away. -/
def replaceVariable (name : Octets) (v : Option Variable) : Run Unit :=
  update fun p =>
    { p with
      bindings :=
        match v with
        | some v => p.bindings.insert name v
        | none => p.bindings.erase name }

/-- Does what follows from a new value of a variable: programs are searched for elsewhere, and
options are read from another argument. -/
def heed (name value : Octets) : Run Unit := do
  if name = "PATH".toList then update fun p => { p with remembered := [] }
  else if name = "OPTIND".toList then
    let index := max 1 (← number value)
    update fun p => { p with optionPlace := { index } }

/-- Complains about a variable whose value may not change. -/
def failConstant {α : Type} (name : Octets) : Run α :=
  fail (name ++ ": is read only".toList)

/-- Gives a variable a value and perhaps more, but nothing follows from that. -/
def store (name value : Octets) (more : Variable → Variable) : Run Unit := do
  let v := (← lookup? name).getD {}
  if v.constant then failConstant name
  let exportAll := (← process).options.exportAll
  replaceVariable name <| some <|
    more { v with value := some value, exported := v.exported || exportAll }

/-- Gives a variable a value and perhaps more. -/
def assignWith (name value : Octets) (more : Variable → Variable) : Run Unit := do
  if ((← lookup? name).map Variable.constant).getD false then failConstant name
  heed name value
  store name value more

/-- Gives a variable a value. -/
def assign (name value : Octets) : Run Unit :=
  assignWith name value id

/-- The name of a variable at the front of a text, up to an equals sign. -/
def nameOf (text : Octets) : Run Octets := do
  let name := text.takeWhile (· ≠ '=')
  if isName name then return name else fail (name ++ ": bad variable name".toList)

/-- The characters that separate fields. -/
def separators : Run Octets :=
  valueOr "IFS" blanks

/-- The environment of programs. -/
def environment : Run (List (Octets × Octets)) := do
  return (← process).bindings.toList.filterMap fun (name, v) =>
    if v.exported then v.value.map (name, ·) else none

/-- The directories in which programs are searched for. -/
def searchPath : Run Octets :=
  valueOr "PATH" []

/-! ## Scopes -/

/-- Gives a variable back what it was. One that there was not is taken away. -/
def restoreVariable (name : Octets) (before : Option Variable) : Run Unit := do
  match before with
  | none => discard <| nameOf name
  | some v => heed name (v.value.getD [])
  replaceVariable name before

/-- Gives what the innermost command has changed for itself back what it was. -/
def closeScope : Run Unit := do
  match (← process).scopes with
  | [] => return
  | scope :: scopes =>
    update fun p => { p with scopes }
    scope.bindings.forM fun (name, before) => restoreVariable name before
    if let some options := scope.options then update fun p => { p with options }

/-- Does so for the commands inside of so many others. -/
def closeScopes (level : Nat) : Run Unit := do
  (List.range ((← process).scopes.length - level)).forM fun _ => closeScope

/-- Keeps a variable as it is now, to give it that back when the innermost command ends. -/
def keepVariable (name : Octets) (before : Option Variable) : Run Unit :=
  update fun p =>
    match p.scopes with
    | [] => p
    | scope :: scopes =>
      { p with scopes := { scope with bindings := (name, before) :: scope.bindings } :: scopes }

/-- Makes a variable the innermost command's own, and gives it a value if there is one. -/
def makeOwn (name : Octets) (value : Option Octets) (more : Variable → Variable) : Run Unit := do
  let before ← lookup? name
  let lasting (v : Variable) : Variable := { v with lasting := true }
  match value with
  | some value =>
    if (before.map Variable.constant).getD false then failConstant name
    heed name value
    keepVariable name before
    store name value fun v => more (lasting v)
  | none =>
    if before.isNone then discard <| nameOf name
    keepVariable name before
    replaceVariable name (some (lasting (before.getD {})))

/-! ## Parameters -/

/-- The number of the parameter that digits name. It wraps around behind the greatest signed
word. -/
def parameterNumber (digits : Octets) : Int :=
  Int.bmod (min (Nat.ofDigitChars 10 digits 0) Number.Leading.greatest) UInt32.size

/-- The value of a parameter other than all of them together, if it has one. -/
def parameter? (name : Octets) : Run (Option Octets) := do
  let p ← process
  match name with
  | ['#'] => return some (Octets.decimal p.params.length)
  | ['?'] => return some (Octets.decimal p.status)
  | ['$'] => return some (Octets.decimal p.rootNumber)
  | ['!'] => return p.background.map Octets.decimal
  | ['-'] => return some p.options.letters
  | _ =>
    if name.all Char.isDigit then
      match parameterNumber name with
      | .ofNat 0 => return some p.name
      | .ofNat (n + 1) => return p.params[n]?
      | .negSucc _ => return none
    else value? name

end Run

end LineShell.Script
