import LineShell.Script.Pattern
import LineShell.Script.Tree

/-!
# What words stand for, and their fields

What the parts of a word stand for is written on a draft. Some characters on it are guarded: in a
pattern they stand for themselves. Only in some regions of a draft, which came from replaced
parts, is it divided into fields: at separators, and where one parameter of the script ends and
the next one begins.
-/

namespace LineShell.Script

/-- A piece of what a word stands for. -/
inductive Cell where
  /-- A character, and whether it is guarded. -/
  | char (c : Char) (guarded : Bool)
  /-- A quote, which makes a field even if nothing else is there. -/
  | quote
deriving DecidableEq, Repr

/-- The character between two parameters of the script. -/
def betweenParameters : Char :=
  '\x00'

namespace Cell

/-- The character of a cell. -/
def char? : Cell → Option Char
  | char c _ => some c
  | quote => none

/-- The text of cells. -/
def text (cells : List Cell) : Octets :=
  cells.filterMap char?

/-- Whether a character needs a guard between quotes. -/
def needsGuard (c : Char) : Bool :=
  "!*?[=~:/-]\\".toList.contains c || isControl c

/-- The cell of a character, given whether it is between quotes. -/
def ofChar (quoted : Bool) (c : Char) : Cell :=
  char c (if quoted then needsGuard c else isControl c)

/-- The cells of a text. -/
def ofText (quoted : Bool) (cs : Octets) : List Cell :=
  cs.map (ofChar quoted)

/-- Whether a cell is guarded. -/
def isGuarded : Cell → Bool
  | char _ guarded => guarded
  | quote => false

/-- The text of cells with a mark before each guarded character. -/
def markedText (cells : List Cell) : Octets :=
  cells.flatMap fun
    | char c guarded => if guarded then ['\x81', c] else [c]
    | quote => []

/-- The text of a pattern: a backslash stands before each guarded character, unless a backslash that
is not guarded does so already. -/
def patternText (cells : List Cell) : Octets :=
  go true cells
where
  /-- Goes on, given whether guards are still to be written. -/
  go (guards : Bool) : List Cell → Octets
    | [] => []
    | quote :: cells => go true cells
    | char c true :: cells => if guards then '\\' :: c :: go true cells else c :: go true cells
    | char c false :: cells => c :: go (c ≠ '\\') cells

/-- The pattern of cells. -/
def pattern (cells : List Cell) : List Glob :=
  Glob.ofText (patternText cells) []

end Cell

/-- A part of a draft that is divided into fields. -/
structure Region where
  /-- Where it begins. -/
  start : Nat
  /-- Where it ends. -/
  stop : Nat
  /-- Whether it is divided between the parameters of the script alone. -/
  parametersOnly : Bool
deriving DecidableEq, Repr

/-- What a word stands for, so far. -/
structure Draft where
  /-- Its pieces. -/
  cells : Array Cell := #[]
  /-- The regions that are divided into fields, in order. -/
  regions : Array Region := #[]

namespace Draft

/-- How much there is. -/
def size (d : Draft) : Nat :=
  d.cells.size

/-- Writes one more piece. -/
def push (d : Draft) (cell : Cell) : Draft :=
  { d with cells := d.cells.push cell }

/-- Writes more pieces. -/
def append (d : Draft) (cells : List Cell) : Draft :=
  { d with cells := d.cells.appendList cells }

/-- The pieces from a place on. -/
def behind (d : Draft) (start : Nat) : List Cell :=
  (d.cells.extract start d.size).toList

/-- The draft up to a place. -/
def upTo (d : Draft) (stop : Nat) : Draft where
  cells := d.cells.extract 0 stop
  regions := d.regions.filter fun r => r.stop ≤ stop

/-- Notes that fields are divided from a place on. -/
def divide (d : Draft) (start : Nat) (parametersOnly : Bool) : Draft :=
  { d with regions := d.regions.push { start, stop := d.size, parametersOnly } }

/-- The text of a draft. -/
def text (d : Draft) : Octets :=
  Cell.text d.cells.toList

end Draft

/-! ## Fields -/

/-- The characters that separate fields if nothing else is said. -/
def blanks : Octets :=
  [' ', '\t', '\n']

/-- Fields that are being divided. -/
structure Division where
  /-- The pieces of the draft. -/
  cells : Array Cell
  /-- The finished fields, the latest first. -/
  fields : List (List Cell) := []
  /-- Where the field at hand begins. -/
  start : Nat := 0
  /-- How many more fields there may be, if that is limited. The last one holds all that is left. -/
  room : Option Nat := none
  /-- Where the end of the last field is cut off, if it is. -/
  cutAt : Option Nat := none
  /-- Whether blanks have ended a field, so that one more separator may follow them. -/
  behindBlanks : Bool := false

namespace Division

/-- Takes one more character at a place, given the separators, and whether blanks count once here.
Blanks that separate count once, also together with another separator, and make no empty field. -/
def step (separators : Octets) (blanksCount : Bool) (d : Division) (place : Nat) (c : Char) :
    Division :=
  let separates := c = betweenParameters || separators.contains c
  let isBlank := separates && (c = betweenParameters || blanks.contains c)
  if d.room = some 0 then
    if isBlank then { d with cutAt := d.cutAt.or (some place) }
    else
      { d with
        cutAt := if separates && d.behindBlanks then d.cutAt else none
        behindBlanks := false }
  else if d.behindBlanks then
    let d := { d with start := if separates then place + 1 else place }
    if isBlank then d else { d with behindBlanks := false }
  else if separates then
    let d := { d with behindBlanks := if blanksCount then isBlank else d.behindBlanks }
    if place = d.start && d.behindBlanks then { d with start := place + 1, behindBlanks := false }
    else if d.room = some 1 then { d with room := some 0, cutAt := some place }
    else
      { d with
        fields := (d.cells.extract d.start place).toList :: d.fields
        start := place + 1
        room := d.room.map (· - 1) }
  else { d with behindBlanks := false }

/-- Goes through a region. -/
def region (separators : Octets) (behindParameters : Bool) (d : Division) (r : Region) : Division :=
  let separators := if r.parametersOnly then [] else separators
  let blanksCount := !(behindParameters || r.parametersOnly)
  let visit (d : Division) (place : Nat) : Division :=
    match d.cells[place]? with
    | some (.char c _) => d.step separators blanksCount place c
    | _ => d
  (List.range' r.start (r.stop - r.start)).foldl visit { d with behindBlanks := false }

/-- Goes through regions, and answers as well whether the last one is divided between parameters
alone. -/
def regions (separators : Octets) (d : Division) (rs : List Region) : Division × Bool :=
  rs.foldl (fun (d, behindParameters) r =>
    (d.region separators behindParameters r, r.parametersOnly)) (d, false)

/-- The fields, with what is left as the last one. -/
def finish (d : Division) (always : Bool) : List (List Cell) :=
  let last := (d.cells.extract d.start (d.cutAt.getD d.cells.size)).toList
  (if last.isEmpty && !always then d.fields else last :: d.fields).reverse

end Division

/-- The fields that a draft is divided into. -/
def Draft.fields (separators : Octets) (d : Draft) : List (List Cell) :=
  let (division, always) := Division.regions separators { cells := d.cells } d.regions.toList
  division.finish always

/-- The texts that a line is divided into, at most so many, of which the last holds all that is
left. -/
def Draft.lineFields (separators : Octets) (count : Nat) (d : Draft) : List Octets :=
  let (division, _) :=
    Division.regions separators { cells := d.cells, room := some count } d.regions.toList
  (division.finish false).map Cell.text

/-! ## Values without a part -/

/-- How much of a value comes before the place where it is cut, where parameters of the script stand
in it one behind another. What is looked at is a copy of the value: the marks of guards count in it,
unless a character of the first parameter is guarded. In that case the copy is of this parameter
alone, has no marks, and stands behind the pattern. -/
def cutBetween? (front longest : Bool) (pattern : Octets) (value copy : Octets) : Option Nat :=
  let fits (pattern text : Octets) : Bool :=
    Glob.fits (Glob.ofText pattern []) (text.takeWhile (· ≠ betweenParameters))
  let fitsBack (back : Nat) : Bool :=
    if back ≤ copy.length then
      let place := copy.length - back
      fits pattern (if front then copy.take place else copy.drop place)
    else
      let place := pattern.length - (back - copy.length - 1)
      back ≤ copy.length + 1 + pattern.length &&
        (if front then fits (pattern.take place) copy else fits pattern (pattern.drop place))
  if front = longest then
    ((List.range (value.length + 1)).find? fitsBack).map (value.length - ·)
  else
    (List.range ((value.takeWhile (· ≠ betweenParameters)).length + 1)).find? fun place =>
      fits pattern (if front then copy.take place else copy.drop place)

/-- A value without the shortest or the longest part at its front or at its end that a pattern fits,
if there is one. Where guards are kept, the text of a value that has some is found behind the
pattern. -/
def stripped (front longest guards : Bool) (pattern value : List Cell) : List Cell :=
  let text := Cell.text value
  let first := value.takeWhile (· ≠ .char betweenParameters false)
  let isCopied := guards && first.any Cell.isGuarded
  let pattern := Cell.patternText pattern
  let seen :=
    if isCopied then Cell.text first else if guards then Cell.markedText value else text
  let place? :=
    if first.length = value.length then
      Glob.cut? front longest (Glob.ofText pattern (if isCopied then text ++ ['\x00'] else [])) text
    else cutBetween? front longest pattern text seen
  match place? with
  | some place => if front then value.drop place else value.take place
  | none => value

end LineShell.Script
