import LineShell.Script.Children

/-!
# Redirections

The words of all redirections of a command are replaced first, and then the descriptors are
connected one after another. A document is replaced when its turn comes. What cannot be connected
is complained about.
-/

namespace LineShell.Script

/-- A redirection whose words have been replaced. -/
inductive Connection where
  /-- To the file that a text leads to. -/
  | file (descriptor : Nat) (use : FileUse) (name : Octets)
  /-- To what another descriptor is connected to. -/
  | copy (descriptor source : Nat)
  /-- To nothing. -/
  | close (descriptor : Nat)
  /-- To a document. -/
  | document (descriptor : Nat) (parts : List Part)

namespace Connection

open Run

/-- Replaces the words of a redirection. -/
def ofRedirection (capture : Capture) : Redirection → Run Connection
  | .mk descriptor target => do
    match target with
    | .file use name => return .file descriptor use (← Expansion.text capture name)
    | .descriptor word =>
      match ← Expansion.text capture word with
      | ['-'] => return .close descriptor
      | [d] =>
        if d.isDigit then return .copy descriptor (d.toNat - '0'.toNat)
        else failReading "Bad fd number".toList
      | _ => failReading "Bad fd number".toList
    | .document number =>
      let parts := ((← get).documents.lookup number).getD []
      return .document descriptor parts

/-- Why a file cannot be used, in the words of the language. -/
def trouble (toRead : Bool) (t : FileTrouble) : String :=
  match toRead, t with
  | true, .missing => "No such file"
  | true, .notDirectory => "No such file"
  | false, .missing => "Directory nonexistent"
  | false, .notDirectory => "Directory nonexistent"
  | _, t => t.description

/-- A new file at a path. -/
def create (path : Path) : Run Nat := do
  let content ← newContent []
  modify fun m => { m with files := { m.files with made := (path, content) :: m.files.made } }
  return content

/-- Opens a file, and answers the number of the opened file. -/
def openFile (use : FileUse) (name : Octets) : Run (Except FileTrouble Nat) := do
  let m ← get
  let usual : Opened := {
    content := none
    atEnd := use = .append
    readable := use = .read || use = .both
    writable := use ≠ .read }
  let new (content : Nat) : Run (Except FileTrouble Nat) :=
    return .ok (← open_ { usual with content := some content })
  if use ≠ .read ∧ name.getLast? = some '/' then
    return .error (m.files.slashTrouble m.process.directory name)
  match m.files.resolve m.process.directory name with
  | .error t => return .error t
  | .ok path =>
    match m.files.kind? path with
    | none => if use = .read then return .error .missing else new (← create path)
    | some .directory =>
      if use = .read then return .ok (← open_ { usual with trouble := some .isDirectory })
      else return .error .isDirectory
    | some .plain => return .ok (← open_ usual)
    | some (.program _) => return .ok (← open_ usual)
    | some (.device .null) => return .ok (← open_ usual)
    | some (.device .full) => return .ok (← open_ { usual with trouble := some .full })
    | some (.device .terminal) => return .error .noDevice
    | some (.device (.descriptor n)) =>
      match m.process.descriptors.lookup n with
      | some number => return .ok number
      | none => return .error .missing
    | some (.made content) =>
      if use = .write && m.process.options.noClobber then return .error .present
      if use = .write ∨ use = .overwrite then
        modify fun m => { m with contents := m.contents.setIfInBounds content #[] }
      new content

/-- The descriptor that is connected. -/
def descriptor : Connection → Nat
  | file descriptor _ _ => descriptor
  | copy descriptor _ => descriptor
  | close descriptor => descriptor
  | document descriptor _ => descriptor

/-- Connects a descriptor, and answers whether that was possible. If what it was connected to is put
aside for that, a complaint about another descriptor finds it closed. -/
def perform (capture : Capture) (aside : Bool) : Connection → Run Bool
  | close descriptor => do
    disconnect descriptor
    return true
  | document descriptor parts => do
    match ← caught (Expansion.document capture parts) with
    | .ok body =>
      let content ← newContent body
      connect descriptor (← open_ { content := some content, readable := true })
      return true
    | .error .error => return false
    | .error stop => throw stop
  | copy descriptor source => do
    match (← process).descriptors.lookup source with
    | some number =>
      connect descriptor number
      return true
    | none =>
      if descriptor = source then return true
      if aside then disconnect descriptor
      complain (Octets.decimal source ++ ": Bad file descriptor".toList)
      return false
  | file descriptor use name => do
    match ← openFile use name with
    | .ok number =>
      connect descriptor number
      return true
    | .error t =>
      let what := if use = .read then "cannot open " else "cannot create "
      complain (what.toList ++ name ++ ": ".toList ++ (trouble (use = .read) t).toList)
      return false

/-- Connects descriptors up to the first that cannot be, and answers whether all were, given whether
each is put aside when it is connected for the first time, and those that have been. -/
def performAll (capture : Capture) (aside : Bool) : List Nat → List Connection → Run Bool
  | _, [] => return true
  | before, c :: cs => do
    if ← c.perform capture (aside && !before.contains c.descriptor) then
      performAll capture aside (c.descriptor :: before) cs
    else return false

end Connection

/-- Runs something with redirections, given what descriptors were connected to before. If they are
not possible, it is not run, and there is no answer. -/
def Run.redirected {α : Type} (capture : Capture) (keep : Bool) (rs : List Redirection)
    (body : List (Nat × Nat) → Run α) : Run (Option α) := do
  let connections ← rs.mapM (Connection.ofRedirection capture)
  let before := (← process).descriptors
  let restore := connections.forM fun c =>
    match before.lookup c.descriptor with
    | some number => connect c.descriptor number
    | none => disconnect c.descriptor
  if ← Connection.performAll capture true [] connections then
    if keep then return some (← body before) else return some (← finally_ (body before) restore)
  else
    restore
    return none

end LineShell.Script
