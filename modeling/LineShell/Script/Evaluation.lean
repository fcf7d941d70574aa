import LineShell.Script.Invocation

/-!
# Running commands

One step of running a command is defined with the evaluator of the commands inside it left open. The
evaluator itself makes as many steps, one inside another, as it is given; a script that needs more
comes to an end as if it had been killed. Main definition: `eval`.
-/

namespace LineShell.Script

open Run

variable (self : Evaluator) (fuel : Nat)

/-! ## Commands of the language -/

/-- The command of the language of a name. -/
def builtin? (tested : Bool) (name : Octets) : Option (List Octets → Run Nat) :=
  match String.ofList name with
  | "." => some (Builtin.dot self tested)
  | ":" => some fun _ => return 0
  | "[" => some (Builtin.test name)
  | "alias" => some Builtin.alias_
  | "bg" => some Builtin.moveJob
  | "break" => some (Builtin.leave false)
  | "cd" => some Builtin.changeDirectory
  | "chdir" => some Builtin.changeDirectory
  | "command" => some Builtin.command
  | "continue" => some (Builtin.leave true)
  | "echo" => some Builtin.echo
  | "eval" => some (Builtin.eval self tested)
  | "exec" => some (exec self fuel)
  | "exit" => some Builtin.exit
  | "export" => some Builtin.export_
  | "false" => some fun _ => return 1
  | "fg" => some Builtin.moveJob
  | "getopts" => some Builtin.getopts
  | "hash" => some Builtin.hash
  | "jobs" => some Builtin.listJobs
  | "kill" => some Builtin.kill
  | "local" => some Builtin.local_
  | "printf" => some Builtin.printf
  | "pwd" => some Builtin.printDirectory
  | "read" => some Builtin.read
  | "readonly" => some Builtin.readonly
  | "return" => some Builtin.back
  | "set" => some Builtin.set
  | "shift" => some Builtin.shift
  | "test" => some (Builtin.test name)
  | "times" => some Builtin.times
  | "trap" => some Builtin.trap
  | "true" => some fun _ => return 0
  | "type" => some Builtin.type
  | "ulimit" => some Builtin.ulimit
  | "umask" => some Builtin.umask
  | "unalias" => some Builtin.unalias
  | "unset" => some Builtin.unset
  | "wait" => some (Builtin.wait self fuel)
  | _ => none

/-- Runs a command of the language. An error in one that is not special is only a failure. What it
has to write is written at its end. -/
def runBuiltin (tested special : Bool) (name : Octets) (args : List Octets) : Run Nat := do
  let outer := (← process).command
  update fun p => { p with command := some name }
  let ending ← caught do
    let status ←
      match builtin? self fuel tested name with
      | some run => run args
      | none => pure 0
    if ← flush then return status
    complain (name ++ ": I/O error".toList)
    return status ||| 1
  update fun p => { p with command := outer, unwritten := [] }
  match ending with
  | .ok status => return status
  | .error .error => if special then throw .error else return (← process).status
  | .error stop => throw stop

/-! ## Functions -/

/-- How many functions may be inside one another. -/
def deepestFunction : Nat :=
  1000

/-- Runs a function with parameters of its own. -/
def runFunction (tested : Bool) (body : Node) (args : List Octets) : Run Nat := do
  let p ← process
  if deepestFunction ≤ p.depth then
    fail ("Maximum function recursion depth (".toList ++ Octets.decimal deepestFunction
      ++ ") reached".toList)
  update fun p => { p with params := args, loops := 0, depth := p.depth + 1, optionPlace := {} }
  let ending ← caught (self { tested } body)
  update fun after =>
    { after with
      params := p.params
      loops := p.loops
      depth := p.depth
      optionPlace := p.optionPlace }
  match ending with
  | .ok status => return status
  | .error (.back _) => return (← process).status
  | .error stop => throw stop

/-! ## What is called -/

/-- What the words of a command come down to. -/
structure Call where
  /-- The fields so far. -/
  fields : Array Octets := #[]
  /-- The words whose fields are not among them yet. -/
  left : List Word
  /-- How many fields come before the name of what is called. -/
  start : Nat := 0
  /-- Whether functions count. -/
  plain : Bool := true
  /-- Whether programs are searched for where the usual ones are. -/
  standard : Bool := false
  /-- Whether the first command of the language that was named is special, if one was. -/
  special : Option Bool := none
  /-- The command of the language that is called, if one is. -/
  builtin : Option Octets := none

namespace Call

/-- The name of what is called, and the arguments. -/
def words (c : Call) : List Octets :=
  (c.fields.extract c.start c.fields.size).toList

/-- Replaces words up to the first that has a field. -/
def firstFields (capture : Capture) : List Word → Run (List Octets × List Word)
  | [] => return ([], [])
  | word :: words => do
    match ← Expansion.fields capture word with
    | [] => firstFields capture words
    | fields => return (fields, words)

/-- The field of a number, if there are as many. -/
def field? (capture : Capture) (c : Call) (i : Nat) : Run (Option Octets × Call) := do
  match c.fields[i]? with
  | some field => return (some field, c)
  | none =>
    let (fields, left) ← firstFields capture c.left
    return (fields.head?, { c with fields := c.fields.appendList fields, left })

/-- Whether a word is a command of the language and, if so, whether that is special. -/
def builtin? (c : Call) (word : Octets) : Run (Option Bool) := do
  let isFunction := c.plain && ((← process).functions.lookup word).isSome
  if isFunction then return none
  else if specialCommands.contains word then return some true
  else if regularCommands.contains word then return some false
  else return none

/-- What is called by the words from a number on, which stand behind the word that asks for
commands of the language and programs alone; and whether that word does not do something itself. -/
def behindCommand (capture : Capture) (whole : Call) : Nat → Call → Nat → Run (Call × Bool)
  | 0, _, _ => throw .exhausted
  | steps + 1, c, i => do
    let (field, c) ← c.field? capture i
    let itself : Call := { whole with fields := c.fields, left := c.left }
    match field with
    | none => return (itself, false)
    | some ['-', '-'] =>
      let (field, c) ← c.field? capture (i + 1)
      if field.isSome then return ({ c with start := i + 1, plain := false }, true)
      else return ({ itself with fields := c.fields, left := c.left }, false)
    | some ('-' :: o :: os) =>
      if (o :: os).all (· = 'p') then
        behindCommand capture whole steps { c with standard := true } (i + 1)
      else return (itself, false)
    | some _ => return ({ c with start := i, plain := false }, true)

/-- What is called by fields, given that there is one. -/
def settled (capture : Capture) : Nat → Call → Run Call
  | 0, _ => throw .exhausted
  | steps + 1, c => do
    let word := c.fields.getD c.start []
    match ← c.builtin? word with
    | none => return { c with builtin := none }
    | some special =>
      let c := { c with special := c.special.or (some special), builtin := some word }
      if word ≠ "command".toList then return c
      match ← behindCommand capture c steps c (c.start + 1) with
      | (c, false) => return c
      | (c, true) => settled capture steps c

/-- Replaces the words that are left. Behind a command whose arguments are assignments, a word
that is one is not divided. -/
def completed (capture : Capture) (c : Call) : Run Call := do
  let assigning := c.builtin.any assigningCommands.contains
  let fields ← c.left.foldlM (fun (fields : Array Octets) word => do
    match if assigning then Word.assignment? word else none with
    | some (name, value) =>
      return fields.push (name ++ '=' :: (← Expansion.value capture value))
    | none => return fields.appendList (← Expansion.fields capture word)) c.fields
  return { c with fields, left := [] }

/-- What the words of a command come down to. -/
def ofWords (capture : Capture) (words : List Word) : Run Call := do
  let (fields, left) ← firstFields capture words
  let c : Call := { fields := fields.toArray, left }
  if fields = [] then return c
  (← c.settled capture fuel).completed capture

end Call

/-! ## Simple commands -/

/-- Replaces a text that is read as a document. A complaint about how it reads counts its lines. -/
def replaceText (capture : Capture) (cs : Octets) : Run Octets := do
  let (answer, endAhead) := Reader.text (← process).endAhead cs
  update fun p => { p with endAhead }
  match answer with
  | .ok parts => Expansion.document capture parts
  | .error .tooDeep => throw .exhausted
  | .error (.malformed line text) =>
    update fun p => { p with line }
    fail ("Syntax error: ".toList ++ text.toList)

/-- What stands in front of a command that is shown. If something in it cannot be replaced, nothing
is. -/
def tracePrompt (capture : Capture) : Run Octets := do
  let prompt ← valueOr "PS4" []
  update fun p => { p with inPrompt := true }
  let answer ← caught (replaceText capture prompt)
  update fun p => { p with inPrompt := false }
  match answer with
  | .ok shown => return shown
  | .error .error => return prompt
  | .error stop => throw stop

/-- Shows a command before it is run, where complaints went before its redirections. -/
def showCommand (capture : Capture) (before : List (Nat × Nat))
    (assignments : List (Octets × Octets)) (words : List Octets) : Run Unit := do
  let p ← process
  if p.options.trace && !p.inPrompt then
    let texts := assignments.map (fun (name, value) => name ++ '=' :: value) ++ words
    let prompt ← tracePrompt capture
    if let some number := (before.lookup 2).or ((← process).descriptors.lookup 2) then
      discard <| writeOpened? number (prompt ++ [' '].intercalate texts ++ ['\n'])

/-- Assigns, and answers the values. Assignments before a command that is not special are its
own. -/
def assignAll (capture : Capture) (own exported : Bool) (assignments : List (Octets × Word)) :
    Run (List (Octets × Octets)) := do
  let more (v : Variable) : Variable := { v with exported := v.exported || exported }
  assignments.mapM fun (name, word) => do
    let value ← Expansion.value capture word
    if own then makeOwn name (some value) more else assignWith name value more
    return (name, value)

/-- Whether the process at hand does something on a signal or at its end. Otherwise it can take the
place of one that would be the last it starts. -/
def hasTraps : Run Bool :=
  return (← process).traps.any fun t => t.2 ≠ []

/-- Runs what is called. -/
def runCall (sequel : Sequel) (c : Call) : Run Nat := do
  match c.words, c.builtin with
  | [], _ => return (← process).outputStatus
  | _ :: args, some name => runBuiltin self fuel sequel.tested (c.special = some true) name args
  | word :: args, none =>
    match ← meaning c.plain c.standard word with
    | .function body => runFunction self sequel.tested body args
    | .builtin _ => runBuiltin self fuel sequel.tested false word args
    | .program index =>
      let path ← if c.standard then pure usualPath else searchPath
      if sequel.last && !(← hasTraps) then turnInto self fuel path index (word :: args)
      else runProgram self fuel path index (word :: args)
    | .unknown t =>
      discard <| refuse word t
      return 127

/-- Runs a command of assignments, words and redirections. -/
def simple (sequel : Sequel) (assignments : List (Octets × Word)) (words : List Word)
    (rs : List Redirection) : Run Nat := do
  let capture := capture self fuel
  let c ← Call.ofWords fuel capture words
  let isEmpty := c.fields.isEmpty
  let special := c.special = some true
  let isExec := c.builtin = some "exec".toList
  let own := !isEmpty && !special
  if own then update fun p => { p with scopes := {} :: p.scopes }
  let answer ← redirected capture isExec rs fun before => do
    let exported := own || (isExec && c.words.length > 1)
    let assigned ← assignAll capture own exported assignments
    showCommand capture before assigned c.fields.toList
    runCall self fuel sequel c
  match answer with
  | some status => return status
  | none =>
    setStatus 2
    if special then throw .error else return 2

/-- Whether what is being done goes on around a command that does not end in the usual way. -/
def Stop.goesOn : Stop → Bool
  | leave _ | again _ | back _ => true
  | _ => false

/-- Runs a command on a line. If the process ends, what it has changed for itself stays. -/
def runSimple (sequel : Sequel) (line : Nat) (assignments : List (Octets × Word))
    (words : List Word) (rs : List Redirection) : Run Nat := do
  let level := (← process).scopes.length
  update fun p => { p with line, outputStatus := 0 }
  match ← caught (simple self fuel sequel assignments words rs) with
  | .ok status =>
    closeScopes level
    return status
  | .error stop =>
    if stop.goesOn then closeScopes level
    throw stop

/-! ## Pipelines -/

/-- Finds the program that a command of a pipeline names, so that it is known to the script. -/
def foresee : Node → Run Unit
  | .simple _ _ (word :: _) _ => do
    if let some name := (Word.plain? word).filter isName then discard <| meaning true false name
  | _ => return

/-- Runs the commands of a pipeline, each in a process of its own that reads what the one before has
written, and answers how these end. -/
def stages (tested : Bool) : Option Nat → List Node → Run (List Ending)
  | _, [] => return []
  | input, stage :: next => do
    foresee stage
    let content ← newContent []
    let output ← open_ { content := some content, atEnd := true, writable := true }
    let ending ← child self fuel id do
      if let some number := input then connect 0 number
      if ¬ next.isEmpty then connect 1 output
      self { tested, last := true } stage
    let input ← open_ { content := some content, readable := true }
    return ending :: (← stages tested (some input) next)

/-- Runs a pipeline. If it is not waited for, the process at hand ends as the last command does. -/
def pipeline (tested awaited : Bool) (commands : List Node) : Run Nat := do
  let endings ← stages self fuel tested none commands
  let last := endings.getLast?.getD (.status 0)
  if awaited then
    endings.forM report
    notice
    takeDeadly
  else if let .signal s := last then throw (.killed s)
  return last.code

/-! ## Repeated commands -/

/-- Whether a round of a repeated command is followed by another one, given how it ended; what ends
more than this command is passed on. -/
def roundEnds {α : Type} : Except Stop α → Run (Option α × Bool)
  | .ok a => return (some a, false)
  | .error (.leave (n + 2)) => throw (.leave (n + 1))
  | .error (.leave _) => return (none, true)
  | .error (.again (n + 2)) => throw (.again (n + 1))
  | .error (.again _) => return (none, false)
  | .error stop => throw stop

/-- Runs commands as long as others succeed, or as long as they fail. -/
def rounds (whileSuccess tested : Bool) (test body : List Node) : Nat → Nat → Run Nat
  | 0, _ => throw .exhausted
  | steps + 1, status => do
    match ← roundEnds (← caught (all self { tested := true } test)) with
    | (_, true) => return 0
    | (none, false) => rounds whileSuccess tested test body steps status
    | (some result, false) =>
      if (result == 0) != whileSuccess then return status
      match ← roundEnds (← caught (all self { tested } body)) with
      | (_, true) => return 0
      | (status, false) => rounds whileSuccess tested test body steps (status.getD 0)

/-- Runs commands for each of some words. -/
def roundsFor (tested : Bool) (name : Octets) (body : List Node) : List Octets → Nat → Run Nat
  | [], status => return status
  | word :: words, _ => do
    assign name word
    match ← roundEnds (← caught (all self { tested } body)) with
    | (_, true) => return 0
    | (status, false) => roundsFor tested name body words (status.getD 0)

/-- Runs a repeated command, which others inside it may end. -/
def inLoop (body : Run Nat) : Run Nat := do
  let loops := (← process).loops
  update fun p => { p with loops := loops + 1 }
  finally_ body (update fun p => { p with loops })

/-- The number of rounds behind which a repeated command is given up. -/
def mostRounds : Nat :=
  10000000

/-! ## Commands -/

/-- The commands behind the first pattern that fits a text. -/
def select (capture : Capture) (subject : Octets) :
    List (List Word × List Node) → Run (Option (List Node))
  | [] => return none
  | (patterns, body) :: cases => do
    if ← fitsOne patterns then return some body else select capture subject cases
where
  /-- Whether one of some patterns fits. -/
  fitsOne : List Word → Run Bool
    | [] => return false
    | word :: words => do
      let pattern ← Expansion.pattern capture word
      if Glob.fits pattern subject then return true else fitsOne words

/-- Runs commands in a process of their own, which makes its redirections itself. -/
def subshell (sequel : Sequel) (rs : List Redirection) (body : List Node) : Run Nat := do
  let capture := capture self fuel
  let connections ← rs.mapM (Connection.ofRedirection capture)
  let own : Run Nat := do
    if ← Connection.performAll capture false [] connections then
      all self { sequel with last := true } body
    else return 2
  if sequel.last && !(← hasTraps) then
    update fun p => heir p p.number
    own
  else subprocess self fuel own

/-- Ends a script that ends with the first failure, if nobody looks at the one that has just
been. -/
def failFast (sequel : Sequel) : Run Unit := do
  if !sequel.tested && (← process).options.failFast then
    update fun p => { p with saved := none }
    throw .exit

/-- Runs a command, apart from what follows from its status. -/
def perform (sequel : Sequel) : Node → Run Nat
  | .simple line assignments words rs => runSimple self fuel sequel line assignments words rs
  | .pipeline awaited stages => pipeline self fuel sequel.tested awaited stages
  | .negation body => do
    let status ← self { tested := true } body
    return if status = 0 then 1 else 0
  | .and first second => do
    let status ← self { tested := true } first
    if status = 0 then self sequel second else return status
  | .or first second => do
    let status ← self { tested := true } first
    if status = 0 then return status else self sequel second
  | .background body => do
    if let .pipeline _ stages := body then stages.forM foresee
    startJob body
    return 0
  | .group body => all self sequel body
  | .redirected line (.subshell _ body) rs => do
    update fun p => { p with line }
    subshell self fuel sequel rs body
  | .redirected line body rs => do
    update fun p => { p with line }
    let answer ← redirected (capture self fuel) false rs fun _ => self sequel.between body
    match answer with
    | some status => return status
    | none =>
      setStatus 2
      failFast sequel
      return 2
  | .subshell line body => do
    update fun p => { p with line }
    subshell self fuel sequel [] body
  | .conditional test body otherwise => do
    let status ← all self { tested := true } test
    if status = 0 then all self sequel body else all self sequel otherwise
  | .loop whileSuccess test body =>
    inLoop (rounds self whileSuccess sequel.tested test body mostRounds 0)
  | .each line name words body => do
    update fun p => { p with line }
    let words ←
      match words with
      | none => pure (← process).params
      | some words => do
        let fields ← words.mapM (Expansion.fields (capture self fuel))
        pure fields.flatten
    inLoop (roundsFor self sequel.tested name body words 0)
  | .selection line word cases => do
    update fun p => { p with line }
    let capture := capture self fuel
    let subject ← Expansion.text capture word
    match ← select capture subject cases with
    | none => return 0
    | some body => all self sequel body
  | .definition name body => do
    remember name none
    update fun p => { p with functions := (name, body) :: p.functions.filter fun f => f.1 ≠ name }
    return 0

/-- Whether a failure of a command ends a script that ends with the first failure. Commands around
others leave that to those inside. -/
def mayFailFast : Node → Bool
  | .simple .. => true
  | .pipeline .. => true
  | .subshell .. => true
  | .redirected _ (.subshell ..) _ => true
  | _ => false

/-- One step of running a command, unless nothing is run: signals are taken behind it, and a failure
that nobody looks at may end the script. -/
def step (sequel : Sequel) (node : Node) : Run Nat := do
  if (← process).options.noRun then return 0
  let status ← perform self fuel sequel node
  setStatus status
  takeSignals self
  if status ≠ 0 && mayFailFast node then failFast sequel
  return status

/-- Runs a command, with at most so many commands inside one another. -/
def eval : Nat → Evaluator
  | 0 => fun _ _ => throw .exhausted
  | fuel + 1 => step (eval fuel) fuel

end LineShell.Script
