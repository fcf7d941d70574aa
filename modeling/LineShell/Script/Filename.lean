import LineShell.Script.Pattern
import LineShell.System.Files

/-!
# Paths that patterns fit

A pattern of paths has components between slashes. Each that is a pattern itself is fitted to the
names in a directory; the others lead to what they name.
-/

namespace LineShell.Script.Filename

/-- The components of a pattern of paths. A slash behind a backslash is one, too. -/
def components : Octets → List Octets
  | [] => [[]]
  | '/' :: cs => [] :: components cs
  | '\\' :: '/' :: cs => [] :: components cs
  | '\\' :: c :: cs => extend ['\\', c] (components cs)
  | c :: cs => extend [c] (components cs)
where
  /-- Puts characters in front of the first component. -/
  extend (cs : Octets) : List Octets → List Octets
    | [] => [cs]
    | component :: rest => (cs ++ component) :: rest

/-- The text that a component means if it is no pattern. -/
def literal : Octets → Octets
  | '\\' :: c :: cs => c :: literal cs
  | c :: cs => c :: literal cs
  | [] => []

/-- The names in a directory that a component fits, given the text that leads to it. Names that
begin with a dot are fitted only by patterns that do. -/
def namesFitting (files : Files) (directory : Path) (before component : Octets) : List Octets :=
  match files.resolve directory (if before = [] then ['.'] else before) with
  | .error _ => []
  | .ok path =>
    if files.kind? path = some .directory then
      let dotted := (literal component).head? = some '.'
      let names := (if dotted then [['.'], ['.', '.']] else []) ++ files.names path
      names.filter fun name =>
        (dotted || name.head? ≠ some '.') && Glob.fits (Glob.ofText component []) name
    else []

/-- The paths that components fit behind a text that leads to a directory. -/
def fittingFrom (files : Files) (directory : Path) : Octets → List Octets → List Octets
  | _, [] => []
  | before, component :: rest =>
    if Glob.isActive (Glob.ofText component []) then
      let names := namesFitting files directory before component
      match rest with
      | [] => names.map (before ++ ·)
      | _ => names.flatMap fun name => fittingFrom files directory (before ++ name ++ ['/']) rest
    else
      let text := before ++ literal component
      match rest with
      | [] =>
        match files.find directory text with
        | .ok _ => [text]
        | .error _ => if files.isLink directory text then [text] else []
      | _ => fittingFrom files directory (text ++ ['/']) rest

/-- The paths that a pattern fits, in order. A text that is no pattern fits none. -/
def fitting (files : Files) (directory : Path) (pattern : Octets) : List Octets :=
  let parts := components pattern
  if parts.any fun component => Glob.isActive (Glob.ofText component []) then
    (fittingFrom files directory [] parts).mergeSort fun a b => !(b < a)
  else []

end LineShell.Script.Filename
