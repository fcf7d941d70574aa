import LineShell.Script.Builtin.Control

/-!
# Commands of the language: what words mean

A word that names a command means a function, a command of the language, or a program, in this
order. Where a program has been found is remembered until the search path changes. Some commands
tell what words mean, and some change that.
-/

namespace LineShell.Script

/-- The commands of the language that are not special. -/
def regularCommands : List Octets :=
  ["[", "alias", "bg", "cd", "chdir", "command", "echo", "false", "fg", "getopts", "hash", "jobs",
    "kill", "printf", "pwd", "read", "test", "true", "type", "ulimit", "umask", "unalias",
    "wait"].map String.toList

/-- The commands of the language whose arguments are assignments. -/
def assigningCommands : List Octets :=
  ["alias", "export", "local", "readonly"].map String.toList

/-- The search path that finds the usual programs. -/
def usualPath : Octets :=
  "/usr/local/sbin:/usr/local/bin:/usr/sbin:/usr/bin:/sbin:/bin".toList

/-- What a word that names a command means. -/
inductive Meaning where
  /-- A function. -/
  | function (body : Node)
  /-- A command of the language. -/
  | builtin (special : Bool)
  /-- A program in the directory of a number in the search path, or at the path that the word is. -/
  | program (index : Option Nat)
  /-- Nothing, and why. -/
  | unknown (trouble : FileTrouble)

/-- The words for why there is no program. -/
def noProgram : FileTrouble → Octets
  | .missing | .notDirectory => "not found".toList
  | t => t.description.toList

/-- The texts that lead from the directories of a search path to a name in them. -/
def candidates (path word : Octets) : List Octets :=
  (Octets.split ':' path).map (Files.candidate word)

namespace Run

/-- The number of the first directory that has a file of a name, given the texts that lead there,
the number of the first of them, and the trouble to report. If the file has been found before,
directories that do not depend on the one at hand are not looked at again. -/
def searchFile (before : Option Nat) :
    List Octets → Nat → FileTrouble → Run (Except FileTrouble Nat)
  | [], _, t => return .error t
  | text :: texts, index, t => do
    if text.head? = some '/' && before.any (index ≤ ·) then
      if before = some index then return .ok index else searchFile before texts (index + 1) t
    else
      let m ← get
      match m.files.find m.process.directory text with
      | .error .missing => searchFile before texts (index + 1) t
      | .error .notDirectory => searchFile before texts (index + 1) t
      | .error other => searchFile before texts (index + 1) other
      | .ok .directory => searchFile before texts (index + 1) .denied
      | .ok (.device _) => searchFile before texts (index + 1) .denied
      | .ok _ => return .ok index

/-- Remembers where the program of a name is, or that there is none. -/
def remember (word : Octets) (index : Option Nat) : Run Unit :=
  update fun p =>
    let others := p.remembered
    { p with
      remembered :=
        match index with
        | none => others.filter fun x => x.1 ≠ word
        | some index =>
          if (others.lookup word).isSome then
            others.map fun x => if x.1 = word then (word, { index }) else x
          else others ++ [(word, { index })] }

/-- What a word means, given whether functions count, and whether programs are searched for where
the usual ones are. -/
def meaning (plain standard : Bool) (word : Octets) : Run Meaning := do
  if word.contains '/' then return .program none
  let p ← process
  let body := p.functions.lookup word
  let tracked := !standard && body.isNone
  let known := if tracked then p.remembered.lookup word else none
  match if plain then body else none, known with
  | some body, _ => return .function body
  | none, some { index, stale := false } => return .program (some index)
  | none, known =>
    if specialCommands.contains word then return .builtin true
    else if regularCommands.contains word then return .builtin false
    else
      let path ← if standard then pure usualPath else searchPath
      match ← searchFile (known.map Remembered.index) (candidates path word) 0 .missing with
      | .ok index =>
        if tracked then remember word (some index)
        return .program (some index)
      | .error t =>
        if tracked then remember word none
        return .unknown t

/-- The program that is started for a word: the first from a number on in the directories of a
search path that can be, or the one at the path that the word is. -/
def programOf (path word : Octets) (index : Option Nat) : Run (Except FileTrouble Octets) := do
  let m ← get
  let texts :=
    match index with
    | none => [word]
    | some index => (candidates path word).drop index
  let try_ (found : Except FileTrouble Octets) (text : Octets) : Except FileTrouble Octets :=
    match found with
    | .ok name => .ok name
    | .error t =>
      match m.files.findProgram m.process.directory text with
      | .ok name => .ok name
      | .error .missing => .error t
      | .error .notDirectory => .error t
      | .error other => .error other
  return texts.foldl try_ (.error .missing)

end Run

/-- Which of so many groups a name belongs to, in whose order lists of names are written. -/
def group (groups : Nat) (name : Octets) : Nat :=
  let sum := name.foldl (fun n c => n + c.toNat) (16 * (name.headD '\x00').toNat)
  sum % (UInt16.size / 2) % groups

/-- A list with names in the order of their groups. -/
def inGroups {α : Type} (groups : Nat) (xs : List (Octets × α)) : List (Octets × α) :=
  xs.mergeSort fun a b => group groups a.1 ≤ group groups b.1

namespace Builtin

open Run

/-- Tells what a word means, in a sentence or by what stands for it. -/
def describe (sentence standard : Bool) (word : Octets) : Run Nat := do
  let tell (text : String) (short : Octets) : Run Nat := do
    say ((if sentence then word ++ text.toList else short) ++ ['\n'])
    return 0
  let m ← get
  let p := m.process
  if keywords.contains (String.ofList word) then tell " is a shell keyword" word
  else if let some value := p.aliases.lookup word then
    tell (" is an alias for " ++ String.ofList value)
      ("alias ".toList ++ word ++ '=' :: quoted value)
  else
    let path ← if standard then pure usualPath else searchPath
    let text (index : Nat) : Octets := (candidates path word).getD index []
    let known := if standard then none else p.remembered.lookup word
    let meant ← if known.isSome then pure (.unknown .missing) else meaning true standard word
    match known, meant with
    | some { index, .. }, _ =>
      tell (" is a tracked alias for " ++ String.ofList (text index)) (text index)
    | none, .function _ => tell " is a shell function" word
    | none, .builtin true => tell " is a special shell builtin" word
    | none, .builtin false => tell " is a shell builtin" word
    | none, .program (some index) => tell (" is " ++ String.ofList (text index)) (text index)
    | none, .program none =>
      match m.files.find p.directory word with
      | .ok _ => tell (" is " ++ String.ofList word) word
      | .error _ => notFound
    | none, .unknown _ => notFound
where
  /-- Tells that a word means nothing. -/
  notFound : Run Nat := do
    if sentence then say (word ++ ": not found\n".toList)
    return 127

/-- Tells what words mean. -/
def type (args : List Octets) : Run Nat :=
  args.foldlM (fun status word => return max status (← describe true false word)) 0

/-- Tells what a word means if that is asked for, and nothing else. -/
def command (args : List Octets) : Run Nat := do
  let (os, args) ← readOptions "pvV" args
  let asks (letter : Char) : Bool := os.any fun o => o.1 = letter
  match args with
  | word :: _ =>
    if asks 'v' || asks 'V' then describe (asks 'V') (asks 'p') word else return 0
  | [] => return 0

/-- The name and the value of an argument that makes a word stand for a text, or the argument and no
value. An equals sign may stand at the front of a name. -/
def splitAlias : Octets → Octets × Option Octets
  | [] => ([], none)
  | c :: cs =>
    match splitAssignment cs with
    | (name, value) => (c :: name, value)

/-- The number of groups in which the words that stand for others are listed. -/
def aliasGroups : Nat :=
  39

/-- Makes words stand for texts, or writes what they stand for. -/
def alias_ (args : List Octets) : Run Nat := do
  let write (name value : Octets) : Run Unit := say (name ++ '=' :: quoted value ++ ['\n'])
  if args = [] then
    (inGroups aliasGroups (← process).aliases).forM fun (name, value) => write name value
    return 0
  args.foldlM (fun status arg => do
    let known := (← process).aliases
    match splitAlias arg with
    | (name, some value) =>
      update fun p =>
        { p with
          aliases :=
            if (known.lookup name).isSome then
              known.map fun a => if a.1 = name then (name, value) else a
            else known ++ [(name, value)] }
      return status
    | (name, none) =>
      match known.lookup name with
      | some value =>
        write name value
        return status
      | none =>
        discard <| write? 2 ("alias: ".toList ++ name ++ " not found\n".toList)
        return 1) 0

/-- Lets words stand for themselves again. -/
def unalias (args : List Octets) : Run Nat := do
  let (os, args) ← readOptions "a" args
  if os ≠ [] then
    update fun p => { p with aliases := [] }
    return 0
  args.foldlM (fun status name => do
    if ((← process).aliases.lookup name).isSome then
      update fun p => { p with aliases := p.aliases.filter fun a => a.1 ≠ name }
      return status
    else
      discard <| write? 2 ("unalias: ".toList ++ name ++ " not found\n".toList)
      return 1) 0

/-- The number of groups in which programs are listed. -/
def programGroups : Nat :=
  31

/-- Writes the programs that are remembered. Those that have to be looked for again are marked. -/
def listRemembered : Run Unit := do
  let p ← process
  let path ← searchPath
  (inGroups programGroups p.remembered).forM fun (name, r) =>
    say ((candidates path name).getD r.index [] ++ (if r.stale then ['*'] else []) ++ ['\n'])

/-- Remembers where programs are, forgets all that, or lists it. -/
def hash (args : List Octets) : Run Nat := do
  let (os, args) ← readOptions "r" args
  if os ≠ [] then
    update fun p => { p with remembered := [] }
    return 0
  if args = [] then
    listRemembered
    return 0
  args.foldlM (fun status word => do
    remember word none
    match ← meaning true false word with
    | .unknown t =>
      complain (word ++ ": ".toList ++ noProgram t)
      return 1
    | _ => return status) 0

/-- Writes how much time has been used, which is none. -/
def times (_ : List Octets) : Run Nat := do
  say "0m0.00s 0m0.00s\n0m0.00s 0m0.00s\n".toList
  return 0

end Builtin

end LineShell.Script
