import LineShell.Host
import LineShell.Program.Simple
import LineShell.Script.Interpreter

/-!
# The programs of a host

Which programs there are, where they are found, and what they write. They are started in one
directory, with an environment and an input.
-/

namespace LineShell.Program

/-- The program of a name. -/
def ofName? (name : Octets) : Option (Start → Finish) :=
  match simple? name with
  | some program => some program
  | none =>
    match String.ofList name with
    | "dash" => some Script.run
    | "sh" => some Script.run
    | _ => none

/-- The number of bytes in the longest word that can be handed to a program. -/
def longestWord : Nat :=
  131071

/-- The number of bytes that all words and variables together can have, where each needs a place in
two tables as well. -/
def roomForWords : Nat :=
  0x200000

/-- Whether words and variables can be handed to a program. -/
def arePassable (words : List Octets) (environment : List (Octets × Octets)) : Bool :=
  let texts := words ++ environment.map fun (name, value) => name ++ '=' :: value
  texts.all (fun text => text.length ≤ longestWord)
    && texts.foldl (fun n text => n + text.length + 1 + 8) 0 ≤ roomForWords

/-- The directory where programs are started. -/
def workingDirectory : Path :=
  Files.pathOf "root"

/-- The directories in which programs are searched for if the environment does not say it. -/
def usualSearch : Octets :=
  "/bin:/usr/bin".toList

/-- The name of the program that the words of a command lead to, if there is one and they can be
handed to it. -/
def found? (environment : List (Octets × Octets)) (words : List Octets) : Option Octets :=
  let search := (environment.lookup "PATH".toList).getD usualSearch
  if arePassable words environment then
    (Files.searchProgram {} workingDirectory search (words.headD [])).toOption
  else none

/-- What a program is started with for the words of a command. -/
def startOf (environment : List (Octets × Octets)) (input : Octets) (words : List Octets) :
    Start where
  name := words.headD []
  args := words.tail
  environment
  directory := workingDirectory
  input
  content := fun name =>
    match Files.find {} workingDirectory name with
    | .ok .directory => .error .isDirectory
    | .ok (.device .terminal) => .error .noDevice
    | .ok _ => .ok []
    | .error t => .error t
  inquiry := .about {} workingDirectory fun _ => false

/-- What is seen of a program from outside. -/
def writingOf (finish : Finish) : Writing where
  output := Octets.toBytes finish.output
  errors := Octets.toBytes finish.errors
  taken := finish.taken

/-- What the program of an argument list writes, if there is one and it can take the arguments. -/
def run (environment : List (Octets × Octets)) (input : Octets) (argv : List String) :
    Option Writing := do
  let words := argv.map Octets.ofText
  let program ← (found? environment words).bind ofName?
  return writingOf (program (startOf environment input words))

/-- A host with these programs, on which every attempt to create a child succeeds, given what
children can read. The pids of its children count up from one. -/
def host (environment : List (Octets × Octets)) (input : Octets) : Host where
  fork attempts _ := .ok (attempts + 1)
  exec := run environment input

end LineShell.Program
