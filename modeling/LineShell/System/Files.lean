import LineShell.Text.Octets

/-!
# The files of a host

A path leads through directories to a file. The directories and programs of a host are fixed; a
script may make files beside them. Some directories are known by a second path.
-/

namespace LineShell

/-- The names that lead from the root to a file, outermost first. -/
abbrev Path := List Octets

/-- Why a path leads to nothing that can be used. -/
inductive FileTrouble where
  /-- There is nothing of that name. -/
  | missing
  /-- A name behind it shows that it should be a directory. -/
  | notDirectory
  /-- It is a directory. -/
  | isDirectory
  /-- The path, or a name in it, has too many bytes. -/
  | tooLong
  /-- It may not be used that way. -/
  | denied
  /-- It is there already. -/
  | present
  /-- There is no device behind it. -/
  | noDevice
  /-- There is no room left. -/
  | full
  /-- The descriptor is not connected. -/
  | closed
deriving DecidableEq, Repr

/-- The words for a trouble. -/
def FileTrouble.description : FileTrouble → String
  | missing => "No such file or directory"
  | notDirectory => "Not a directory"
  | isDirectory => "Is a directory"
  | tooLong => "File name too long"
  | denied => "Permission denied"
  | present => "File exists"
  | noDevice => "No such device or address"
  | full => "No space left on device"
  | closed => "Bad file descriptor"

/-- A device. -/
inductive Device where
  /-- Takes everything and holds nothing. -/
  | null
  /-- Has no room. -/
  | full
  /-- Stands for a descriptor of the program that opens it. -/
  | descriptor (n : Nat)
  /-- The terminal, which programs started by the shell do not have. -/
  | terminal
deriving DecidableEq, Repr

/-- What stands at a path. -/
inductive FileKind where
  /-- A directory. -/
  | directory
  /-- A program of a name. -/
  | program (name : Octets)
  /-- A device. -/
  | device (device : Device)
  /-- A file whose content does not matter. -/
  | plain
  /-- A file that was made, with the number of its content. -/
  | made (content : Nat)
deriving DecidableEq, Repr

/-- The files of a host. -/
structure Files where
  /-- The files that were made, each with the number of its content, the latest first. -/
  made : List (Path × Nat) := []
deriving Repr

namespace Files

/-- A path from its text without the slash in front. -/
def pathOf (text : String) : Path :=
  Octets.split '/' text.toList

/-- The directories. -/
def directories : List Path :=
  [] :: ["boot", "dev", "dev/pts", "dev/shm", "etc", "home", "media", "mnt", "opt", "proc", "root",
    "run", "proc/self", "proc/self/fd", "run/lock", "srv", "sys", "tmp", "usr", "usr/bin",
    "usr/games", "usr/include", "usr/lib", "usr/lib64", "usr/libexec", "usr/local",
    "usr/local/bin", "usr/local/etc", "usr/local/games", "usr/local/include", "usr/local/lib",
    "usr/local/sbin", "usr/local/share", "usr/local/src", "usr/sbin", "usr/share", "usr/src",
    "var", "var/cache", "var/lib", "var/local", "var/log", "var/mail", "var/opt", "var/spool",
    "var/tmp"].map pathOf

/-- Second paths, each with the path that it stands for. -/
def links : List (Path × Path) :=
  [("bin", "usr/bin"), ("lib", "usr/lib"), ("lib64", "usr/lib64"), ("sbin", "usr/sbin"),
    ("usr/bin/sh", "usr/bin/dash"), ("var/lock", "run/lock"), ("var/run", "run"),
    ("dev/fd", "proc/self/fd"), ("dev/stdin", "proc/self/fd/0"), ("dev/stdout", "proc/self/fd/1"),
    ("dev/stderr", "proc/self/fd/2")].map
    fun (link, path) => (pathOf link, pathOf path)

/-- The names of the programs. -/
def programs : List Octets :=
  ["[", "cat", "dash", "echo", "false", "printf", "sleep", "test", "true"].map String.toList

/-- The directory of the programs. -/
def programDirectory : Path :=
  pathOf "usr/bin"

/-- The devices, and the descriptors as devices. -/
def devices : List (Path × Device) :=
  [("dev/null", Device.null), ("dev/zero", .null), ("dev/random", .null), ("dev/urandom", .null),
    ("dev/full", .full), ("dev/tty", .terminal)].map (fun (path, device) => (pathOf path, device))
    ++ (List.range 10).map fun n =>
      (pathOf "proc/self/fd" ++ [Octets.decimal n], Device.descriptor n)

/-- Other files. -/
def plainFiles : List Path :=
  ["etc/environment", "etc/fstab", "etc/group", "etc/hostname", "etc/hosts", "etc/passwd",
    "etc/profile", "etc/resolv.conf", "etc/shadow", "etc/shells"].map pathOf

/-- What stands at a path, if something does. -/
def kind? (files : Files) (path : Path) : Option FileKind :=
  if directories.contains path then some .directory
  else match files.made.lookup path with
    | some content => some (.made content)
    | none =>
      match devices.lookup path with
      | some device => some (.device device)
      | none =>
        match programs.find? fun name => programDirectory ++ [name] = path with
        | some name => some (.program name)
        | none => if plainFiles.contains path then some .plain else none

/-- The names that stand in a directory. -/
def names (files : Files) (directory : Path) : List Octets :=
  let paths := directories ++ links.map Prod.fst ++ devices.map Prod.fst ++ plainFiles
    ++ programs.map (fun name => programDirectory ++ [name]) ++ files.made.map Prod.fst
  (paths.filterMap fun path => if path.dropLast = directory then path.getLast? else none).eraseDups

/-- The greatest number of bytes in a name. -/
def longestName : Nat :=
  255

/-- The greatest number of bytes in a path. -/
def longestPath : Nat :=
  4095

/-- Follows names from a path. What the last name leads to need not be there; what the others lead
to has to be a directory. -/
def walk (files : Files) (path : Path) : List Octets → Except FileTrouble Path
  | [] => .ok path
  | name :: names =>
    match files.kind? path with
    | none => .error .missing
    | some .directory =>
      if name = [] ∨ name = ['.'] then walk files path names
      else if name = ['.', '.'] then walk files path.dropLast names
      else if name.length > longestName then .error .tooLong
      else walk files ((links.lookup (path ++ [name])).getD (path ++ [name])) names
    | some _ => .error .notDirectory

/-- The path that a text leads to from a directory. -/
def resolve (files : Files) (directory : Path) (text : Octets) : Except FileTrouble Path :=
  if text = [] then .error .missing
  else if text.length > longestPath then .error .tooLong
  else
    match Octets.split '/' text with
    | [] :: names => walk files [] names
    | names => walk files directory names

/-- What a text leads to from a directory. -/
def find (files : Files) (directory : Path) (text : Octets) : Except FileTrouble FileKind := do
  match files.kind? (← files.resolve directory text) with
  | some kind => return kind
  | none => throw .missing

/-- The text that leads to the directory of a name, which stands behind the last slash of a text. -/
def front (text : Octets) : Octets :=
  let names := Octets.split '/' text
  if names.length = 1 then ['.'] else ['/'].intercalate (names.dropLast ++ [[]])

/-- What keeps a file from being made whose text ends with a slash: if nothing is wrong before, that
only a directory could be there. -/
def slashTrouble (files : Files) (directory : Path) (text : Octets) : FileTrouble :=
  let name := (text.reverse.dropWhile (· = '/')).reverse
  match files.find directory (front name) with
  | .error t => t
  | .ok .directory => .isDirectory
  | .ok _ => .notDirectory

/-- Whether a text leads from a directory to the second path of something. -/
def isLink (files : Files) (directory : Path) (text : Octets) : Bool :=
  let names := Octets.split '/' text
  match files.resolve directory (front text) with
  | .ok path => (links.lookup (path ++ [names.getLastD []])).isSome
  | .error _ => false

/-- The program that a text leads to from a directory. Nothing else may be run. -/
def findProgram (files : Files) (directory : Path) (text : Octets) :
    Except FileTrouble Octets := do
  match ← files.find directory text with
  | .program name => return name
  | _ => throw .denied

/-- The text that leads from one of the directories that a search path lists to a name in it. An
empty directory is the one where the search begins. -/
def candidate (name directory : Octets) : Octets :=
  if directory = [] then name else directory ++ '/' :: name

/-- The program that a word means. A word with a slash is a path. Any other is searched for in the
directories of a search path, where trouble in one of them is passed over. -/
def searchProgram (files : Files) (directory : Path) (search word : Octets) :
    Except FileTrouble Octets :=
  if word = [] then .error .missing
  else if word.contains '/' then files.findProgram directory word
  else if word.length > longestName then .error .tooLong
  else go (Octets.split ':' search) .missing
where
  /-- Goes through the directories, given the trouble to report if none has the program. -/
  go : List Octets → FileTrouble → Except FileTrouble Octets
    | [], trouble => .error trouble
    | place :: places, trouble =>
      match files.findProgram directory (candidate word place) with
      | .ok name => .ok name
      | .error .denied => go places .denied
      | .error .tooLong => .error .tooLong
      | .error _ => go places trouble

end Files

end LineShell
