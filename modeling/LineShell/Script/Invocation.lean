import LineShell.Program.Simple
import LineShell.Script.Builtin.Directory
import LineShell.Script.Builtin.Lookup
import LineShell.Script.Builtin.Resource

/-!
# Interpreters and programs

A process may turn into a program. If that is an interpreter, the process gets a new script, and
begins anew with what it finds in its environment.
-/

namespace LineShell.Script

open Run

variable (self : Evaluator) (fuel : Nat)

/-! ## Interpreters -/

/-- Reads the options on the command line of an interpreter, and answers whether the script is an
argument, and what stands behind the options. -/
def readInvocation : Nat → Bool → List Octets → Run (Bool × List Octets)
  | 0, scripted, args => return (scripted, args)
  | _, scripted, [] => return (scripted, [])
  | steps + 1, scripted, arg :: args => do
    match arg with
    | ['-'] => return (scripted, args)
    | ['-', '-'] => return (scripted, args)
    | '-' :: cs => do
      let args ← Builtin.setLetters true true (cs.filter fun c => c ≠ 'c' && c ≠ 'l') args
      readInvocation steps (scripted || cs.contains 'c') args
    | '+' :: cs => do
      let args ← Builtin.setLetters true false (cs.filter fun c => c ≠ 'c' && c ≠ 'l') args
      readInvocation steps (scripted || cs.contains 'c') args
    | _ => return (scripted, arg :: args)

/-- Has options read from the first argument on. What the environment says about that has to be a
number, but does not count. The script has no name yet. -/
def resetOptions : Run Unit := do
  let name := (← process).name
  update fun p => { p with name := "sh".toList }
  heed "OPTIND".toList (← valueOr "OPTIND" [])
  update fun p => { p with name }
  assign "OPTIND".toList ['1']

/-- Runs the script that the arguments of an interpreter name: one of them, the file that one of
them names, or the input. -/
def interpret (args : List Octets) : Run Nat := do
  resetOptions
  let (scripted, args) ← readInvocation (args.length + 1) false args
  discard flush
  let begin_ (args : List Octets) : Run Unit := do
    update fun p => { p with params := args }
    if (← process).options.interactive then
      update fun p => { p with options := { p.options with monitor := true } }
    Builtin.settleOptions
    update fun p => { p with line := 1 }
  match scripted, args with
  | true, [] => fail "-c requires an argument".toList
  | true, script :: args =>
    match args with
    | [] => begin_ []
    | name :: args =>
      update fun p => { p with name }
      begin_ args
    text self false .made script
  | false, [] =>
    update fun p => { p with options := { p.options with fromInput := true } }
    begin_ []
    inputScript self false
  | false, name :: args =>
    if (← process).options.fromInput then
      begin_ (name :: args)
      inputScript self false
    else
      match ← Connection.openFile .read name with
      | .error t =>
        let what := Connection.trouble true t
        fail ("cannot open ".toList ++ name ++ ": ".toList ++ what.toList)
      | .ok number =>
        let script ← wholeInput number
        update fun p => { p with name }
        begin_ args
        text self false .script script

/-- The variables of a process at its beginning, given those of its environment. -/
def firstVariables (environment : List (Octets × Octets)) (parent : Nat) (here : Octets) :
    Std.TreeMap Octets Variable :=
  let given := environment.foldl (fun vs (name, value) =>
    if isName name then vs.insert name { value := some value, exported := true } else vs)
    (∅ : Std.TreeMap Octets Variable)
  let always (vs : Std.TreeMap Octets Variable) (name : String) (value : Octets) (lasting : Bool) :
      Std.TreeMap Octets Variable :=
    vs.insert name.toList
      { value := some value, exported := vs.contains name.toList, lasting }
  let usually (vs : Std.TreeMap Octets Variable) (name : String) (value : Octets) :
      Std.TreeMap Octets Variable :=
    let v := (vs[name.toList]?).getD { value := some value }
    vs.insert name.toList { v with lasting := true }
  let vs := always given "IFS" blanks true
  let vs := usually vs "OPTIND" ['1']
  let vs := always vs "PPID" (Octets.decimal parent) false
  let vs := usually vs "PS1" "# ".toList
  let vs := usually vs "PS2" "> ".toList
  let vs := usually vs "PS4" "+ ".toList
  let vs := usually vs "PATH" usualPath
  vs.insert "PWD".toList { value := some here, exported := true }

/-- A process for a script, with what it finds in its environment. The text that leads to its
directory is taken from there if it does so. -/
def newProcess (files : Files) (number parent : Nat) (name : Octets)
    (environment : List (Octets × Octets)) (directory : Path) : Process :=
  let here :=
    match environment.lookup "PWD".toList with
    | some text =>
      let leadsHere :=
        match files.resolve directory text with
        | .ok path => path = directory
        | .error _ => false
      if text.head? = some '/' && leadsHere then text else Builtin.pathText directory
    | none => Builtin.pathText directory
  { number
    rootNumber := number
    name
    directory
    here
    line := 0
    immune := [.pipe]
    bindings := firstVariables environment parent here }

/-! ## Programs -/

/-- The content of the file that a text leads to, for a program. -/
def contentOf (m : Machine) (name : Octets) : Except FileTrouble Octets := do
  match ← m.files.find m.process.directory name with
  | .directory => throw .isDirectory
  | .made content => return (m.contents.getD content #[]).toList
  | .device (.descriptor n) =>
    match (m.process.descriptors.lookup n).bind fun number => m.opened[number]? with
    | none => throw .missing
    | some { content := some content, place, .. } =>
      let text := m.contents.getD content #[]
      return (text.extract place text.size).toList
    | some _ => return []
  | .device .terminal => throw .noDevice
  | _ => return []

/-- Runs a program in place of the process at hand. -/
def become (name : Octets) (words : List Octets) : Run Nat := do
  let called := words.headD []
  let args := words.tail
  if name = "sh".toList ∨ name = "dash".toList then
    let m ← get
    let parent := m.ancestors.headD 1
    let next :=
      newProcess m.files m.process.number parent called (← environment) m.process.directory
    update fun p =>
      { next with
        descriptors := p.descriptors
        immune := next.immune ++ p.immune ++ (p.traps.filter fun t => t.2 = []).map Prod.fst }
    interpret self args
  else
    match Program.simple? name with
    | none => return 0
    | some program =>
      if name = "sleep".toList then runJobs self fuel
      let start : Start := {
        name := called
        args
        environment := ← environment
        directory := (← process).directory
        input := ← input 0
        inputTrouble := ← inputTrouble? 0
        outputTrouble := ← outputTrouble? 1
        content := contentOf (← get)
        inquiry := ← inquiry }
      let finish := program start
      finish.written.forM fun
        | .output text => do discard <| write? 1 text
        | .errors text => do discard <| write? 2 text
      skip 0 finish.taken
      return finish.status

/-- The status of a command whose program could not be started. -/
def notStarted : FileTrouble → Nat
  | .missing | .notDirectory | .tooLong => 127
  | _ => 126

/-- Complains about a program that could not be started, and answers the status of that. -/
def refuse (word : Octets) (t : FileTrouble) : Run Nat := do
  complain (word ++ ": ".toList ++ noProgram t)
  return notStarted t

/-- Drops arrangements for signals, apart from those that nothing is done. -/
def forgetTraps : Run Unit :=
  update fun p => { p with traps := p.traps.filter fun t => t.2 = [] }

/-- Turns the process at hand into a program, given which directories of a search path come before
it. If that is not possible, the answer is the status of that. -/
def turnInto (path : Octets) (index : Option Nat) (words : List Octets) : Run Nat := do
  let word := words.headD []
  match ← programOf path word index with
  | .error t => refuse word t
  | .ok name =>
    throw <| .replaced <| ← conclude self do
      forgetTraps
      become self fuel name words

/-- Runs a program in a process of its own, given which directories of a search path come before
it. -/
def runProgram (path : Octets) (index : Option Nat) (words : List Octets) : Run Nat := do
  let word := words.headD []
  let found ← programOf path word index
  if found.toOption = some "sleep".toList then runJobs self fuel
  subprocess self fuel do
    match found with
    | .error t => refuse word t
    | .ok name =>
      forgetTraps
      become self fuel name words

/-- Turns the process into a program, or does nothing if there is no word. -/
def exec (words : List Octets) : Run Nat := do
  match words with
  | [] => return 0
  | word :: _ =>
    let index := if word.contains '/' then none else some 0
    let status ← turnInto self fuel (← searchPath) index words
    update fun p => { p with status, saved := none }
    throw .exit

end LineShell.Script
