import LineShell.Script.Arithmetic
import LineShell.Script.Filename
import LineShell.Script.Machine
import LineShell.System.Account

/-!
# What words stand for

Parameters, the output of commands and calculations are replaced by their texts, from the left to
the right. What is not quoted is then divided into fields, and a field that is a pattern is
replaced by the paths that it fits. How the output of commands is taken is left open here.
-/

namespace LineShell.Script

/-- How the parts of a word are taken. -/
structure Manner where
  /-- Whether they stand between double quotes. -/
  quoted : Bool := false
  /-- Whether the word is divided into fields. -/
  divided : Bool := false
  /-- Whether the word is a pattern that a text is compared with. -/
  asPattern : Bool := false
  /-- Whether a tilde may stand for a directory at the front. -/
  tilde : Bool := false
  /-- Whether one may stand for a directory behind a colon, too. -/
  colons : Bool := false
  /-- Whether the parts are the word of a parameter, where texts without quotes are divided into
  fields like values. -/
  inner : Bool := false

/-- Whether characters that stand for themselves are kept apart from others. -/
def Manner.guards (m : Manner) : Bool :=
  m.divided || m.asPattern

/-- How the output of commands is taken. -/
abbrev Capture := List Node → Run Octets

namespace Expansion

open Run

/-! ## Texts -/

/-- The directory that a tilde and a name stand for: that of the account of this name or, if there
is no name, that of the person who runs the script. -/
def home? (name : Octets) : Run (Option Octets) :=
  if name = [] then value? "HOME".toList else return accounts.lookup name

/-- Writes a text without quotes. -/
def bare (m : Manner) (d : Draft) (text : Octets) : Draft :=
  let start := d.size
  let d := d.append (Cell.ofText false text)
  if m.inner && text ≠ [] then d.divide start false else d

/-- Writes a text without quotes that may begin with a tilde, given whether it is the last part of
the word. The name behind the tilde ends with a slash, or with the word. -/
def tilded (m : Manner) (last : Bool) (d : Draft) (text : Octets) : Run Draft := do
  match text with
  | '~' :: rest =>
    let behind := rest.dropWhile (· ≠ '/')
    if behind = [] ∧ ¬ last then return bare m d text
    match ← home? (rest.takeWhile (· ≠ '/')) with
    | some directory => return bare m (d.append (Cell.ofText true directory)) behind
    | none => return bare m d text
  | text => return bare m d text

/-- Writes texts that stood between colons, the first of which has been written. -/
def behindColons (m : Manner) (last : Bool) (d : Draft) : List Octets → Run Draft
  | [] => return d
  | text :: texts => do
    behindColons m last (← tilded m (last || texts ≠ []) (bare m d [':']) text) texts

/-- Writes a text without quotes, given whether it is the last part of the word. -/
def plain (m : Manner) (last : Bool) (d : Draft) (text : Octets) : Run Draft := do
  let front (last : Bool) (text : Octets) : Run Draft :=
    if m.tilde then tilded m last d text else return bare m d text
  if ¬ m.colons then front last text
  else
    match Octets.split ':' text with
    | [] => return d
    | text :: texts => behindColons m last (← front (last || texts ≠ []) text) texts

/-! ## Calculations -/

/-- The number that a text writes, with blanks around it; an empty one is zero. -/
def integer (text : Octets) : Run Int := do
  let bad : Run Int := fail ("Illegal number: ".toList ++ text)
  match Number.leading? text with
  | none => if text.all Number.isSpace then return 0 else bad
  | some n =>
    if n.exceedsSigned || !n.rest.all Number.isSpace then bad else return n.signed

/-- What a calculation asks of the script that its text stands in. A variable without a value is
zero. -/
def surroundings (text : Octets) : Calculation.Surroundings Run where
  read name := do return Int64.ofInt (← integer ((← value? name).getD []))
  write name n := assign name (toString n.toInt).toList
  wrong what :=
    fail ("arithmetic expression: ".toList ++ what.toList ++ ": \"".toList ++ text ++ ['"'])

/-- The text of the result of a calculation. -/
def calculate (text : Octets) : Run Octets := do
  return (toString (← Calculation.result (surroundings text) text).toInt).toList

/-- The text of a calculation in a word whose characters are kept apart: it loses those that are
held between the parts of words, apart from the ones behind the first of these. -/
def withoutMarks : Octets → Octets
  | [] => []
  | '\x81' :: c :: cs => c :: withoutMarks cs
  | c :: cs => if c = '\x81' ∨ c = '\x88' then withoutMarks cs else c :: withoutMarks cs

/-! ## Parameters -/

/-- What stands between all parameters: if they are kept apart, the sign for that; else the first
separator. -/
def joint (m : Manner) (apart : Bool) : Run Octets := do
  let ifs ← value? "IFS".toList
  if m.quoted && m.divided && apart then return [betweenParameters]
  match ifs with
  | none => return [' ']
  | some separators =>
    if m.divided && !m.quoted then return [betweenParameters] else return separators.take 1

/-- The value of a parameter as pieces, if it has one. -/
def valueCells? (m : Manner) (name : Octets) : Run (Option (List Cell)) := do
  if name = ['@'] ∨ name = ['*'] then
    let between ← joint m (name = ['@'])
    return some (Cell.ofText m.quoted (between.intercalate (← process).params))
  else
    return (← parameter? name).map (Cell.ofText m.quoted)

/-- Notes that a draft holds the value of a parameter from a place on. -/
def noted (m : Manner) (name : Octets) (start : Nat) (d : Draft) : Run Draft := do
  if ¬ m.quoted then return d.divide start false
  else if name = ['@'] ∧ (← process).params ≠ [] then return d.divide start true
  else return d

/-- Complains about a parameter that has no value. -/
def failUnset {α : Type} (name text : Octets) : Run α :=
  fail (name ++ ": ".toList ++ text)

/-- Complains about a parameter that has no value if such may not be used. -/
def demandSet (name : Octets) : Run Unit := do
  if (← process).options.noUnset then failUnset name "parameter not set".toList

/-! ## Parts of words -/

mutual

/-- Writes what parts of a word stand for. -/
def parts (capture : Capture) (m : Manner) (d : Draft) : List Part → Run Draft
  | [] => return d
  | p :: ps => do
    let d ← part capture m ps.isEmpty d p
    parts capture { m with tilde := false } d ps

/-- Writes what a part of a word stands for, given whether it is the last one. -/
def part (capture : Capture) (m : Manner) (last : Bool) (d : Draft) : Part → Run Draft
  | .plain text =>
    if m.quoted then return d.append (Cell.ofText true text) else plain m last d text
  | .escaped text => return d.append (text.map fun c => .char c true)
  | .quoted text => return ((d.push .quote).append (Cell.ofText true text)).push .quote
  | .double inner => do
    let marked :=
      match inner with
      | [.parameter ['@'] (.value false)] => false
      | _ => true
    let d := if marked then d.push .quote else d
    let d ← parts capture { m with quoted := true, tilde := false } d inner
    return if marked then d.push .quote else d
  | .parameter name use => parameter capture m d name use
  | .output body => do
    let start := d.size
    let d := d.append (Cell.ofText m.quoted (← capture body))
    return if m.quoted then d else d.divide start false
  | .calculation inner => do
    let start := d.size
    let d ← parts capture {} d inner
    let text := Cell.text (d.behind start)
    let result ← calculate (if m.guards then withoutMarks text else text)
    let d := (d.upTo start).append (Cell.ofText m.quoted result)
    return if m.quoted then d else d.divide start false
  | .ending => return d

/-- Writes what a parameter stands for. -/
def parameter (capture : Capture) (m : Manner) (d : Draft) (name : Octets) : Use → Run Draft
  | .malformed => fail "Bad substitution".toList
  | .value orEmpty => do
    match ← valueCells? m name with
    | some value =>
      if orEmpty && value.isEmpty then
        demandSet name
        return d
      else noted m name d.size (d.append value)
    | none =>
      demandSet name
      return d
  | .length => do
    let value ← valueCells? {} name
    if value.isNone then demandSet name
    let length := Octets.decimal (value.getD []).length
    noted m name d.size (d.append (Cell.ofText m.quoted length))
  | .strip front longest pattern => do
    match ← valueCells? m name with
    | none =>
      demandSet name
      return d
    | some value =>
      let pattern ← parts capture { tilde := true, asPattern := true } {} pattern
      let value := stripped front longest m.guards pattern.cells.toList value
      noted m name d.size ((d.upTo d.size).append value)
  | .substitute how orEmpty word => do
    let start := d.size
    let value := (← valueCells? m name).filter fun cells => !(orEmpty && cells.isEmpty)
    match how, value with
    | .alternative, some _ => parts capture { m with tilde := true, inner := true } d word
    | .alternative, none => noted m name start d
    | .fallback, none => parts capture { m with tilde := true, inner := true } d word
    | .assigned, none =>
      let d ← parts capture { quoted := m.quoted, tilde := true } d word
      if ¬ isName name then fail (name ++ ": bad variable name".toList)
      assign name (Cell.text (d.behind start))
      let value := (← valueCells? m name).getD []
      noted m name start ((d.upTo start).append value)
    | .demanded, none =>
      let d ← parts capture { quoted := m.quoted, tilde := true } d word
      let usual := if orEmpty then "parameter not set or null" else "parameter not set"
      failUnset name (if word.isEmpty then usual.toList else Cell.text (d.behind start))
    | _, some value => noted m name start (d.append value)

end

/-! ## Words -/

/-- The texts of a field: the paths it fits if it is a pattern, and otherwise the field itself. -/
def fieldTexts (field : List Cell) : Run (List Octets) := do
  let m ← get
  let found :=
    if m.process.options.noFiles then []
    else Filename.fitting m.files m.process.directory (Cell.patternText field)
  return if found = [] then [Cell.text field] else found

/-- The fields of a word. -/
def fields (capture : Capture) (word : Word) : Run (List Octets) := do
  let d ← parts capture { divided := true, tilde := true } {} word
  return (← (d.fields (← separators)).mapM fieldTexts).flatten

/-- The text of a word that is not divided. -/
def text (capture : Capture) (word : Word) : Run Octets :=
  return (← parts capture { tilde := true } {} word).text

/-- The text of the value of an assignment. -/
def value (capture : Capture) (word : Word) : Run Octets :=
  return (← parts capture { tilde := true, colons := true } {} word).text

/-- The pattern of a word. -/
def pattern (capture : Capture) (word : Word) : Run (List Glob) :=
  return Cell.pattern (← parts capture { tilde := true, asPattern := true } {} word).cells.toList

/-- The text of a document. -/
def document (capture : Capture) (parts : List Part) : Run Octets := do
  return (← Expansion.parts capture { quoted := true } {} parts).text

end Expansion

end LineShell.Script
