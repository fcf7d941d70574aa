import LineShell.Script.Expansion
import LineShell.Script.Reader

/-!
# Processes of a script

A script is run line by line. Some commands run in a process of their own, which begins with a copy
of what the one that starts it has, and leaves only its status. A signal that was sent to a process
is taken between two commands.

How a single command is run is left open here: everything takes an evaluator, which does that.
-/

namespace LineShell.Script

/-- What follows on a command. -/
structure Sequel where
  /-- Whether somebody looks at its failure. -/
  tested : Bool := false
  /-- Whether its process ends with it. -/
  last : Bool := false
deriving DecidableEq, Repr

/-- What follows on a command behind which others stand. -/
def Sequel.between (s : Sequel) : Sequel :=
  { s with last := false }

/-- Runs a command, given what follows on it, and answers its status. -/
abbrev Evaluator := Sequel → Node → Run Nat

namespace Run

/-- What something comes to, also if it does not end in the usual way. -/
def caught {α : Type} (x : Run α) : Run (Except Stop α) :=
  tryCatch (return .ok (← x)) fun stop => return .error stop

/-- Does something at last, however what comes before ends. -/
def finally_ {α : Type} (x : Run α) (last : Run Unit) : Run α := do
  match ← caught x with
  | .ok a =>
    last
    return a
  | .error stop =>
    last
    throw stop

variable (self : Evaluator) (fuel : Nat)

/-- Runs commands one after another. -/
def all (sequel : Sequel) : List Node → Run Nat
  | [] => return 0
  | [node] => self sequel node
  | node :: nodes => do
    discard <| self sequel.between node
    all sequel nodes

/-! ## Lines -/

/-- Where a text with commands comes from. -/
inductive Origin where
  /-- The script has made it. -/
  | made
  /-- It is a file that the script names. -/
  | file
  /-- It is the file or the input that is the script. -/
  | script
deriving DecidableEq, Repr

/-- What reading a line of a script comes to. -/
structure Attempt where
  /-- The commands on the line, none at the end of the script, or what is wrong with it. -/
  commands : Except Octets (Option (List Node))
  /-- The number of the next line. -/
  line : Nat
  /-- What stands behind the line. -/
  rest : Octets

/-- Lets the process know the line up to which a text has been read. -/
def reach (origin : Origin) (line : Nat) : Run Unit :=
  update fun p =>
    { p with lineRead := line, baseLine := if origin = .script then line else p.baseLine }

/-- Reads a line of a text, given the steps that suffice for that. -/
def readLine (origin : Origin) (steps line : Nat) (rest : Octets) : Run Attempt := do
  let m ← get
  let source : Source := {
    rest, line, aliases := m.process.aliases, nextDocument := m.nextDocument }
  match (Reader.line steps).run source with
  | .error .tooDeep _ => throw .exhausted
  | .error (.malformed line text) source =>
    reach origin line
    return { commands := .error text.toList, line, rest := source.rest }
  | .ok commands source =>
    reach origin source.line
    update fun p => { p with endAhead := source.isEndAhead }
    modify fun m =>
      { m with
        documents := source.documents ++ m.documents
        nextDocument := source.nextDocument }
    return { commands := .ok commands, line := source.line, rest := source.rest }

/-- Shows the lines that have been read, if that is wanted. -/
def showLines (before : Octets) (a : Attempt) : Run Unit := do
  if (← process).options.verbose then
    let lines := before.take (before.length - a.rest.length)
    let complete :=
      match a.commands with
      | .ok _ => []
      | .error _ =>
        if lines = [] ∨ lines.getLast? = some '\n' then []
        else a.rest.takeWhile (· ≠ '\n') ++ (a.rest.dropWhile (· ≠ '\n')).take 1
    discard <| write? 2 (lines ++ complete)

/-- Runs the commands of a line, given the status so far. -/
def runLine (tested : Bool) (status : Nat) (commands : List Node) : Run Nat := do
  let now ← all self { tested } commands
  return if commands.isEmpty then status else now

/-- Runs the lines of a text, each before the next one is read, given the steps of reading that
suffice for each line, the number of the first line, and the status so far. -/
def runLines (tested : Bool) (origin : Origin) (reading : Nat) :
    Nat → Nat → Nat → Octets → Run Nat
  | 0, _, status, _ => return status
  | steps + 1, line, status, text => do
    let a ← readLine origin reading line text
    if origin ≠ .made then showLines text a
    match a.commands with
    | .error complaint => failReading complaint
    | .ok none => return status
    | .ok (some commands) =>
      let status ← runLine self tested status commands
      runLines tested origin reading steps a.line status a.rest

/-- Runs a text. One of a file may hold characters that do not count. -/
def text (tested : Bool) (origin : Origin) (source : Octets) : Run Nat := do
  let source := if origin = .made then source else source.filter (· ≠ '\x00')
  let lineRead := (← process).lineRead
  let steps := Reader.stepsFor source.length
  finally_ (runLines self tested origin steps (source.length + 1) 1 0 source)
    (update fun p => { p with lineRead })

/-! ## The input as a script -/

/-- A script that is read from descriptor 0. -/
structure InputScript where
  /-- What has not been run: first what has been taken from the descriptor, and then what can be
  taken. -/
  text : Octets
  /-- How much has been taken. -/
  taken : Nat
  /-- Where the descriptor reads, and how much there is, so that changes are seen. -/
  place : Option (Nat × Nat × Nat)

/-- The number of characters that are taken from the input at once. -/
def portion : Nat :=
  8192

/-- Where descriptor 0 reads: its opened file, the place in that, and the size of the content. -/
def inputPlace : Run (Option (Nat × Nat × Nat)) := do
  let m ← get
  return (← connected? 0).map fun (number, file) =>
    (number, file.place, (file.content.map fun c => (m.contents.getD c #[]).size).getD 0)

/-- The characters that count among those that can be read. -/
def inputText : Run Octets :=
  return (← input 0).filter (· ≠ '\x00')

/-- The script as it is now, if others have read from the descriptor or connected it anew. -/
def InputScript.renewed (s : InputScript) : Run InputScript := do
  let place ← inputPlace
  if place = s.place then return s
  return { s with text := s.text.take s.taken ++ (← inputText), place }

/-- Takes portions of the input until so much has been taken, given how much has been so far. -/
def takePortions (needed : Nat) : Nat → Nat → Run Nat
  | 0, taken => return taken
  | portions + 1, taken => do
    if needed ≤ taken then return taken
    match ← connected? 0 with
    | none => return taken
    | some (number, _) =>
      match ← portionOf number with
      | [] => return taken
      | cs =>
        advance number cs.length
        takePortions needed portions (taken + (cs.filter (· ≠ '\x00')).length)
where
  /-- The next portion of an opened file. -/
  portionOf (number : Nat) : Run Octets := do
    let m ← get
    match m.opened[number]? with
    | some { content := some content, readable := true, place, .. } =>
      return ((m.contents.getD content #[]).extract place (place + portion)).toList
    | _ => return []

/-- The number of lines behind which a script is given up. -/
def mostLines : Nat :=
  10000000

/-- Runs the lines that can be read from descriptor 0, each before the next one is read. -/
def runInputLines (tested : Bool) : Nat → Nat → Nat → InputScript → Run Nat
  | 0, _, _, _ => throw .exhausted
  | steps + 1, line, status, s => do
    let s ← s.renewed
    let a ← readLine .script (Reader.stepsFor s.text.length) line s.text
    let needed := s.text.length - a.rest.length
    let taken ← takePortions needed (s.text.length + 1) s.taken
    showLines s.text a
    let s := { s with text := a.rest, taken := taken - needed, place := ← inputPlace }
    match a.commands with
    | .error complaint => failReading complaint
    | .ok none => return status
    | .ok (some commands) =>
      let status ← runLine self tested status commands
      runInputLines tested steps a.line status s

/-- Runs the script that can be read from descriptor 0. -/
def inputScript (tested : Bool) : Run Nat := do
  let text ← inputText
  runInputLines self tested mostLines 1 0 { text, taken := 0, place := ← inputPlace }

/-! ## Signals -/

/-- Whether a signal ends a process: nothing is arranged for it. -/
def isDeadly (p : Process) (s : Signal) : Bool :=
  let arranged := p.immune.contains s || (p.traps.lookup s).isSome
  !s.isHarmless && !(s.isManageable && arranged)

/-- Takes a signal that does not end the process: what the script has arranged for it is done. The
status stays as it was before, unless a function around is made to end with another one. -/
def takeSignal (s : Signal) : Run Unit := do
  let p ← process
  if p.immune.contains s then return
  match (p.traps.lookup s).getD [] with
  | [] => return
  | action =>
    let status := p.saved.getD p.status
    update fun p => { p with saved := some status }
    let ended ← caught (text self false .made action)
    let resume (status : Nat) : Run Unit :=
      update fun q => { q with status, saved := p.saved }
    match ended with
    | .ok _ => resume status
    | .error stop =>
      match stop with
      | .leave _ | .again _ | .back false => resume status
      | .back true => resume (← process).status
      | _ => pure ()
      throw stop

/-- Ends the process at hand if a signal has been sent to it that does so. -/
def takeDeadly : Run Unit := do
  let m ← get
  for (number, s) in m.signals do
    if number = m.process.number && isDeadly m.process s then throw (.killed s)

/-- Takes the signals that have been sent to the process at hand, in the order of their numbers. One
that has been sent twice is taken once. -/
def takeSignals : Run Unit := do
  takeDeadly
  let m ← get
  let mine := m.signals.filter fun x => x.1 = m.process.number
  if mine.isEmpty then return
  set { m with signals := m.signals.filter fun x => x.1 ≠ m.process.number }
  ((mine.map Prod.snd).eraseDups.mergeSort fun a b => a.number ≤ b.number).forM (takeSignal self)

/-! ## Processes -/

/-- The status with which the process ends when it is told to. -/
def lastStatus : Run Nat := do
  let p ← process
  return p.saved.getD p.status

/-- What a process does at its end, given its status. That is still its status behind it, unless it
is told another one, or something goes wrong. -/
def farewell (status : Nat) : Run Ending := do
  match (← process).traps.lookup ⟨0⟩ with
  | none => return .status status
  | some [] => return .status status
  | some action =>
    update fun p =>
      { p with status, saved := some status, traps := p.traps.filter fun t => t.1 ≠ ⟨0⟩ }
    match ← caught (text self false .made action) with
    | .error (.killed s) => return .signal s
    | .error .exhausted => return .signal ⟨11⟩
    | .error (.replaced ending) => return ending
    | .error .exit => return .status (← lastStatus)
    | .error .error => return .status (← process).status
    | _ => return .status status

/-- Runs a process to its end. -/
def conclude (body : Run Nat) : Run Ending := do
  match ← caught body with
  | .ok status => farewell self status
  | .error (.killed s) => return .signal s
  | .error .exhausted => return .signal ⟨11⟩
  | .error (.replaced ending) => return ending
  | .error .exit => farewell self (← lastStatus)
  | .error _ => farewell self (← process).status

/-- The process at hand as one that it starts: arrangements for signals are dropped, apart from
those that nothing is done, and of the texts that are being read only the script itself is
left. -/
def heir (p : Process) (number : Nat) : Process :=
  { p with number, lineRead := p.baseLine, traps := p.traps.filter fun t => t.2 = [] }

/-- Runs something in another process, and goes on with the process at hand. -/
def within (other : Process) (body : Run Ending) : Run Ending := do
  let m ← get
  set { m with process := other, ancestors := m.process.number :: m.ancestors }
  let ending ← body
  modify fun after => { after with process := m.process, ancestors := m.ancestors }
  return ending

/-- The processes that the one at hand has started and not waited for, the latest first. -/
def jobs : Run (List Job) := do
  let m ← get
  return m.jobs.filter fun j => j.owner = m.process.number

/-- Changes a job. -/
def changeJob (number : Nat) (change : Job → Job) : Run Unit :=
  modify fun m =>
    { m with jobs := m.jobs.map fun j => if j.process.number = number then change j else j }

/-- Forgets a job. -/
def forgetJob (number : Nat) : Run Unit :=
  modify fun m => { m with jobs := m.jobs.filter fun j => j.process.number ≠ number }

/-- The number of a new job: the least one that no other has. A job that has been waited for gives
its number up. -/
def claimSlot : Run Nat := do
  let jobs ← jobs
  let (gone, kept) := jobs.partition fun j => j.waited && j.ending.isSome
  let slots := (List.range (kept.length + 1)).map (· + 1)
  let slot := (slots.find? fun n => kept.all fun j => j.slot ≠ n).getD 1
  if let some j := gone.find? fun j => j.slot = slot then forgetJob j.process.number
  return slot

/-- Runs a process that is not waited for. -/
def runJob (j : Job) : Run Unit := do
  let number := j.process.number
  changeJob number fun j => { j with ending := some (.status 0) }
  let ending ← within j.process (conclude self (self { last := true } j.body))
  changeJob number fun j => { j with ending := some ending }

/-- Runs the processes that the one at hand has started and has not waited for, and then those that
they have started in turn. -/
def runJobs : Nat → Run Unit
  | 0 => return
  | rounds + 1 => do
    let idle := (← jobs).reverse.filter fun j => j.ending.isNone
    if idle.isEmpty then return
    idle.forM fun j => do
      runJob self j
      discard <| within j.process (do runJobs rounds; return .status 0)

/-- A new process number. -/
def newNumber : Run Nat := do
  let m ← get
  set { m with nextProcess := m.nextProcess + 1 }
  return m.nextProcess

/-- Runs something in a new process, and answers how that ends. What it has started and not waited
for is run behind it. -/
def child (prepare : Process → Process) (body : Run Nat) : Run Ending := do
  let number ← newNumber
  let p ← process
  within (prepare (heir p number)) do
    let ending ← conclude self body
    runJobs self fuel
    return ending

/-- Complains about a signal that ended a process that was waited for. Those of the keyboard and of
pipes are no news. -/
def report : Ending → Run Unit
  | .status _ => return
  | .signal s => do
    if s ≠ .interrupt ∧ s ≠ .pipe then discard <| write? 2 (s.description ++ ['\n'])

/-- Lets the process at hand know that processes it has started have ended. -/
def notice : Run Unit :=
  modify fun m =>
    let knows (j : Job) : Job :=
      if j.owner = m.process.number && j.ending.isSome then { j with noticed := true } else j
    let p := m.process
    { m with
      jobs := m.jobs.map knows
      signals :=
        if (p.traps.lookup .child).isSome then m.signals ++ [(p.number, .child)] else m.signals }

/-- Does what follows when a process that was waited for has ended, and answers its status. -/
def settle (ending : Ending) : Run Nat := do
  report ending
  notice
  takeDeadly
  return ending.code

/-- Runs something in a new process, waits for that, and answers its status. -/
def subprocess (body : Run Nat) : Run Nat := do
  discard claimSlot
  settle (← child self fuel id body)

/-- The output of commands, without line feeds at its end. -/
def capture (body : List Node) : Run Octets := do
  let content ← newContent []
  let number ← open_ { content := some content, atEnd := true, writable := true }
  let status ← subprocess self fuel do
    connect 1 number
    all self { last := true } body
  update fun p => { p with outputStatus := status }
  let text := ((← get).contents.getD content #[]).toList.filter (· ≠ '\x00')
  return (text.reverse.dropWhile (· = '\n')).reverse

/-- A command as a process of its own that is not waited for. It makes its redirections itself. -/
def inBackground : Node → Node
  | .pipeline _ stages => .pipeline false stages
  | .redirected line (.subshell first body) rs => .redirected line (.subshell first body) rs
  | .redirected line body rs => .redirected line (.subshell line [body]) rs
  | body => body

/-- Starts a process that is not waited for. It has no input, and the keyboard does not end it. -/
def startJob (body : Node) : Run Unit := do
  let slot ← claimSlot
  let number ← newNumber
  let p ← process
  let input ← open_ { content := none, readable := true }
  let heir := heir p number
  let process : Process := {
    heir with
    immune := ⟨2⟩ :: ⟨3⟩ :: heir.immune
    descriptors := (0, input) :: heir.descriptors.filter fun d => d.1 ≠ 0 }
  let job : Job := { owner := p.number, slot, process, body := inBackground body }
  modify fun m => { m with jobs := job :: m.jobs }
  update fun p => { p with background := some number }

end Run

end LineShell.Script
