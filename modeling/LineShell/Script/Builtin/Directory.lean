import LineShell.Script.Builtin.Basic

/-!
# Commands of the language: directories

A script is in a directory, and knows a text that leads there. Going up from it takes the last name
of that text away, whatever directory that leads to, unless the directory itself is asked for.
-/

namespace LineShell.Script.Builtin

open Run

/-- The text of a path. -/
def pathText (path : Path) : Octets :=
  if path = [] then ['/'] else path.flatMap ('/' :: ·)

/-- Whether a text begins with two slashes and no third, which are kept. -/
def hasTwoSlashes : Octets → Bool
  | '/' :: '/' :: cs => cs.head? ≠ some '/'
  | _ => false

/-- The text that leads from one place, given by a text, to another: without dots, empty names, and
names that are followed by two dots. -/
def joinText (here goal : Octets) : Octets :=
  let isWhole := goal.head? = some '/'
  let texts := if isWhole then goal else here ++ '/' :: goal
  let names := (Octets.split '/' texts).foldl (fun path name =>
    if name = [] ∨ name = ['.'] then path
    else if name = ['.', '.'] then path.dropLast
    else path ++ [name]) []
  let front := if hasTwoSlashes (if isWhole then goal else here) then ['/', '/'] else ['/']
  front ++ ['/'].intercalate names

/-- Gives an exported variable a value. -/
def assignExported (name : String) (value : Octets) : Run Unit := do
  assign name.toList value
  replaceVariable name.toList
    ((← lookup? name.toList).map fun v => { v with exported := true })

/-- Whether a text leads to a directory. -/
def leadsToDirectory (text : Octets) : Run Bool := do
  let m ← get
  match m.files.find m.process.directory text with
  | .ok .directory => return true
  | _ => return false

/-- Goes where a text leads, and answers whether that is a directory. -/
def goTo (physical : Bool) (goal : Octets) : Run Bool := do
  let m ← get
  let here := m.process.here
  let text := if physical then goal else joinText here goal
  match m.files.resolve m.process.directory text with
  | .error _ => return false
  | .ok path =>
    if m.files.kind? path ≠ some .directory then return false
    update fun p =>
      { p with
        directory := path
        remembered := p.remembered.map fun (name, r) => (name, { r with stale := true }) }
    assignExported "OLDPWD" here
    let text := if physical then pathText path else text
    update fun p => { p with here := text }
    assignExported "PWD" text
    return true

/-- Whether a text says by itself where it begins. -/
def isAnchored (text : Octets) : Bool :=
  text.head? = some '/' || [['.'], ['.', '.']].contains (text.takeWhile (· ≠ '/'))

/-- The place where a text leads if it begins in one of the directories listed for that, and whether
that is not the directory at hand. -/
def searchDirectory (goal : Octets) : Run (Octets × Bool) := do
  match ← value? "CDPATH".toList with
  | none => return (goal, false)
  | some list => go (Octets.split ':' list)
where
  /-- Goes through the directories. -/
  go : List Octets → Run (Octets × Bool)
    | [] => return (goal, false)
    | place :: places => do
      let text := Files.candidate goal place
      if ← leadsToDirectory text then return (text, place ≠ []) else go places

/-- Whether the options of a command ask for the directory itself and not for the text that leads
there. -/
def isPhysical (os : List (Char × Octets)) : Bool :=
  os.getLast?.any fun o => o.1 = 'P'

/-- Goes to another directory: the one named, the one where the script was before, or the one of the
person who runs the script. -/
def changeDirectory (args : List Octets) : Run Nat := do
  let (os, args) ← readOptions "LP" args
  let back := args.head? = some ['-']
  let goal ←
    match args.head? with
    | none => valueOr "HOME" []
    | some ['-'] => valueOr "OLDPWD" []
    | some goal => pure goal
  let anchored := isAnchored goal
  let goal := if goal = [] then ['.'] else goal
  let (place, found) ← if anchored then pure (goal, false) else searchDirectory goal
  if ← goTo (isPhysical os) place then
    if back || found then say ((← process).here ++ ['\n'])
    return 0
  else fail ("can't cd to ".toList ++ goal)

/-- Writes the directory. -/
def printDirectory (args : List Octets) : Run Nat := do
  let (os, _) ← readOptions "LP" args
  let p ← process
  say ((if isPhysical os then pathText p.directory else p.here) ++ ['\n'])
  return 0

end LineShell.Script.Builtin
