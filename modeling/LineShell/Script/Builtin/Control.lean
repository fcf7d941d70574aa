import LineShell.Script.Builtin.Variables
import LineShell.Script.Redirect

/-!
# Commands of the language: the course of a script

These commands end functions, repeated commands and the script itself, arrange for signals and send
them, and wait for processes.
-/

namespace LineShell.Script.Builtin

open Run

/-! ## Ends -/

/-- Ends as many repeated commands as an argument says, or lets the last of them go on. -/
def leave (again : Bool) (args : List Octets) : Run Nat := do
  let n ← match args.head? with
    | none => pure 1
    | some arg => number arg
  if n = 0 then fail ("Illegal number: ".toList ++ args.headD [])
  match min n (← process).loops with
  | 0 => return 0
  | levels =>
    setStatus 0
    throw (if again then .again levels else .leave levels)

/-- Ends a function, or a script of its own. -/
def back (args : List Octets) : Run Nat := do
  if let some arg := args.head? then setStatus (← number arg)
  throw (.back (args ≠ []))

/-- Ends the script. -/
def exit (args : List Octets) : Run Nat := do
  if let some arg := args.head? then
    let status ← number arg
    update fun p => { p with saved := some status }
  throw .exit

/-! ## Signals -/

/-- Writes the arrangements for signals. -/
def listTraps : Run Nat := do
  let p ← process
  let traps := p.traps.mergeSort fun a b => a.1.number ≤ b.1.number
  say <| traps.flatMap fun (s, action) =>
    "trap -- ".toList ++ quoted action ++ ' ' :: s.name ++ ['\n']
  return 0

/-- Arranges for signals: a first argument that is no number is what is done when one arrives. -/
def trap (args : List Octets) : Run Nat := do
  let (_, args) ← readOptions "" args
  match args with
  | [] => listTraps
  | first :: rest =>
    let (action, names) :=
      if rest = [] ∨ (Signal.ofNumber? first).isSome then (none, args)
      else (if first = ['-'] then none else some first, rest)
    arrange action names
where
  /-- Arranges for the signals of some names. -/
  arrange (action : Option Octets) : List Octets → Run Nat
    | [] => return 0
    | name :: names => do
      match Signal.ofText? 0 name with
      | none =>
        discard <| write? 2 ("trap: ".toList ++ name ++ ": bad trap\n".toList)
        return 1
      | some s =>
        update fun p =>
          let others := p.traps.filter fun t => t.1 ≠ s
          { p with
            traps :=
              match action with
              | some action => (s, action) :: others
              | none => others }
        arrange action names

/-- Sends a signal to the process of a number, and answers whether there is one. A process that has
not begun is ended by it. -/
def send (s : Signal) (number : Nat) : Run Bool := do
  let m ← get
  let isIdle (j : Job) : Bool := j.process.number = number && j.ending.isNone
  if m.process.number = number ∨ m.ancestors.contains number then
    modify fun m => { m with signals := m.signals ++ [(number, s)] }
    return true
  else if m.jobs.any isIdle then
    changeJob number fun j =>
      if isDeadly j.process s then { j with ending := some (.signal s) } else j
    return true
  else return false

/-- The usage of the command that sends signals. -/
def killUsage : Octets :=
  ("Usage: kill [-s sigspec | -signum | -sigspec] [pid | job]... or\n" ++
    "kill -l [exitstatus]").toList

/-- The job that a text names. -/
def jobNamed (text : Octets) : Run Job := do
  let jobs ← jobs
  let named (jobs : List Job) : Run Job :=
    match jobs with
    | [j] => return j
    | [] => fail ("No such job: ".toList ++ text)
    | _ => fail (text ++ ": ambiguous".toList)
  match text with
  | ['%'] | ['%', '+'] | ['%', '%'] =>
    match jobs with
    | j :: _ => return j
    | [] => fail "No current job".toList
  | ['%', '-'] =>
    match jobs with
    | _ :: j :: _ => return j
    | _ => fail "No previous job".toList
  | ['%', '?'] => named jobs
  | '%' :: digits => named (jobs.filter fun j => Octets.decimal j.slot = digits.dropWhile (· = '0'))
  | _ => named []

/-- Sends a signal to processes. A job has no group of processes of its own to send it to. -/
def sendAll (s : Signal) (targets : List Octets) : Run Nat :=
  targets.foldlM (fun status target => do
    let found ←
      match target with
      | '%' :: _ => do
        discard <| jobNamed target
        pure false
      | '-' :: digits => do
        discard <| number digits
        pure false
      | _ => send s (← number target)
    if found then return status
    complain "No such process\n".toList
    return 1) 0

/-- Writes the names of signals. -/
def listSignals (args : List Octets) : Run Nat := do
  match args with
  | [] =>
    say ('0' :: '\n' :: ((List.range Signal.bound).drop 1).flatMap fun n =>
      (Signal.mk n).name ++ ['\n'])
    return 0
  | arg :: _ =>
    let n ← number arg
    let n := if 128 < n then n - 128 else n
    if n = 0 ∨ Signal.bound ≤ n then
      fail ("invalid signal number or exit status: ".toList ++ arg)
    say ((Signal.mk n).name ++ ['\n'])
    return 0

/-- Sends signals, or writes their names. -/
def kill (args : List Octets) : Run Nat := do
  match args with
  | [] => fail killUsage
  | ('-' :: cs) :: rest =>
    match Signal.ofText? 1 cs with
    | some s => if rest = [] then fail killUsage else sendAll s rest
    | none =>
      let (os, rest) ← readOptions "ls:" args
      if os.any fun o => o.1 = 'l' then listSignals rest
      else
        let s ←
          match os.lookup 's' with
          | none => pure Signal.term
          | some name =>
            match Signal.ofText? 1 name with
            | some s => pure s
            | none => fail ("invalid signal number or name: ".toList ++ name)
        if rest = [] then fail killUsage else sendAll s rest
  | _ => sendAll .term args

/-! ## Processes -/

variable (self : Evaluator) (fuel : Nat)

/-- The status of waiting that is broken off by a signal, if one has arrived for which something is
arranged. That a process has ended is what is waited for. -/
def brokenOff? : Run (Option Nat) := do
  let m ← get
  let p := m.process
  let breaks (s : Signal) : Bool := s ≠ .child && ((p.traps.lookup s).getD []) ≠ []
  let latest := m.signals.reverse.find? fun x => x.1 = p.number && breaks x.2
  return latest.map fun x => 128 + x.2.number

/-- Waits for a job, and answers its status, or that of being broken off. A signal that has ended
the job is told unless its end was known before. -/
def waitForJob (j : Job) : Run (Except Nat Nat) := do
  let number := j.process.number
  if j.ending.isNone then
    runJob self j
    if let some status ← brokenOff? then return .error status
  match (← jobs).find? fun j => j.process.number = number with
  | none => return .ok 127
  | some j =>
    let ending := j.ending.getD (.status 0)
    if ¬ j.noticed then report ending
    notice
    changeJob number fun j => { j with waited := true }
    return .ok ending.code

/-- Waits for the jobs that arguments name, given the status so far. -/
def waitForEach (status : Nat) : List Octets → Run Nat
  | [] => return status
  | arg :: args => do
    let job? ←
      match arg with
      | '%' :: _ => pure (some (← jobNamed arg))
      | _ =>
        let number ← number arg
        pure ((← jobs).find? fun j => j.process.number = number)
    match job? with
    | none => waitForEach 127 args
    | some j =>
      match ← waitForJob self j with
      | .ok status => waitForEach status args
      | .error status => return status

/-- Waits for processes that the script has started. -/
def wait (args : List Octets) : Run Nat := do
  let (_, args) ← readOptions "" args
  if args ≠ [] then waitForEach self 127 args
  else
    let idle := (← jobs).any fun j => j.ending.isNone
    runJobs self fuel
    if idle then
      if let some status ← brokenOff? then return status
    notice
    (← jobs).forM fun j => changeJob j.process.number fun j => { j with waited := true }
    return 0

/-- The state of a job in a list of jobs. -/
def stateText (j : Job) : Octets :=
  match j.ending with
  | none => "Running".toList
  | some (.status 0) => "Done".toList
  | some (.status n) => "Done(".toList ++ Octets.decimal (n % 256) ++ [')']
  | some (.signal s) => s.description

/-- Writes a line about a job, and forgets it if it has ended. -/
def listJob (form : Option Char) (j : Job) : Run Unit := do
  let number := Octets.decimal j.process.number
  let mark :=
    match (← jobs).findIdx? fun k => k.slot = j.slot with
    | some 0 => '+'
    | some 1 => '-'
    | _ => ' '
  let head := '[' :: Octets.decimal j.slot ++ [']', ' ', mark, ' ']
  let head := if form = some 'l' then head ++ number ++ [' '] else head
  let head := head ++ stateText j
  let stages :=
    match j.body with
    | .pipeline _ stages => stages.length
    | _ => 1
  let line := head ++ List.replicate (max 1 (33 - head.length)) ' ' ++
    (List.replicate (stages - 1) " | ".toList).flatten
  if form = some 'p' then say (number ++ ['\n'])
  else
    say (line ++ ['\n'])
    if j.ending.isSome then forgetJob j.process.number

/-- Writes a list of the jobs. -/
def listJobs (args : List Octets) : Run Nat := do
  let (os, args) ← readOptions "lp" args
  let form := os.getLast?.map Prod.fst
  let chosen ← if args = [] then jobs else args.mapM jobNamed
  chosen.forM (listJob form)
  return 0

/-- Moves a job to or from the keyboard, which none can be moved to. -/
def moveJob (args : List Octets) : Run Nat := do
  let (_, args) ← readOptions "" args
  discard <| jobNamed (args.headD ['%'])
  let name :=
    match args with
    | [] => "(null)".toList
    | name :: _ => name
  fail ("job ".toList ++ name ++ " not created under job control".toList)

/-! ## Scripts in scripts -/

/-- Runs the arguments as a script. -/
def eval (tested : Bool) (args : List Octets) : Run Nat := do
  let command := (← process).command
  if args = [] then return 0
  let status ← text self tested .made ([' '].intercalate args)
  update fun p => { p with command }
  return status

/-- The place of a script that a name means. A name without a slash is searched for. -/
def scriptPlace (name : Octets) : Run Octets := do
  if name.contains '/' then return name
  let m ← get
  let isFile (place : Octets) : Bool :=
    match m.files.find m.process.directory place with
    | .ok (.made _) => true
    | .ok (.program _) => true
    | _ => false
  match ((Octets.split ':' (← searchPath)).map (Files.candidate name)).find? isFile with
  | some place => return place
  | none => fail (name ++ ": not found".toList)

/-- Runs the script in a file. It ends alone where it would end a function. -/
def dot (tested : Bool) (args : List Octets) : Run Nat := do
  let (_, args) ← readOptions "" args
  match args with
  | [] => return 0
  | name :: _ =>
    let place ← scriptPlace name
    match ← Connection.openFile .read place with
    | .error t =>
      fail ("cannot open ".toList ++ place ++ ": ".toList ++ (Connection.trouble true t).toList)
    | .ok number =>
      let script ← wholeInput number
      update fun p => { p with command := some place }
      match ← caught (text self tested .file script) with
      | .ok status => return status
      | .error (.back _) => return (← process).status
      | .error stop => throw stop

end LineShell.Script.Builtin
