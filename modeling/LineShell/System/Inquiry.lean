import LineShell.System.Files

/-!
# Questions about files

What can be asked about the file that a text leads to: whether it is there, of what kind it is, and
whether it can be used in some way.
-/

namespace LineShell

/-- What answers questions about the files of a host, asked from some directory. -/
structure Inquiry where
  /-- What a text leads to. -/
  find : Octets → Except FileTrouble FileKind
  /-- Whether a file that was made holds something. -/
  isFilled : Nat → Bool
  /-- Where a text leads. -/
  path : Octets → Except FileTrouble Path
  /-- Whether a text is the second path of something. -/
  isLink : Octets → Bool

namespace Inquiry

/-- The inquiry about some files from a directory, given which of those that were made hold
something. -/
def about (files : Files) (directory : Path) (isFilled : Nat → Bool) : Inquiry where
  find := files.find directory
  isFilled := isFilled
  path := files.resolve directory
  isLink := files.isLink directory

/-- Whether a text leads to a file. -/
def isThere (inquiry : Inquiry) (name : Octets) : Bool :=
  (inquiry.find name).toOption.isSome

/-- Whether a file is as a letter asks. The user owns all files, and may read and write them; what
can be run are programs, and what can be searched are directories. -/
def holds (inquiry : Inquiry) (letter : Char) (name : Octets) : Bool :=
  if letter = 'h' ∨ letter = 'L' then inquiry.isLink name
  else
    match inquiry.find name with
    | .error _ => false
    | .ok kind =>
      match letter, kind with
      | 'f', .program _ => true
      | 'f', .made _ => true
      | 'f', .plain => true
      | 'd', .directory => true
      | 'c', .device _ => true
      | 'x', .directory => true
      | 'x', .program _ => true
      | 's', .made content => inquiry.isFilled content
      | 's', .device _ => false
      | _, _ => "erwsOG".toList.contains letter

/-- Whether two texts lead to the same file. -/
def areSame (inquiry : Inquiry) (a b : Octets) : Bool :=
  match inquiry.path a, inquiry.path b with
  | .ok p, .ok q => p = q && inquiry.isThere a
  | _, _ => false

end Inquiry

end LineShell
