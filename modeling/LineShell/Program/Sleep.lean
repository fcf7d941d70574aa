import LineShell.Number.Real
import LineShell.Program.ShellWord
import LineShell.Program.Spelling
import LineShell.System.Program

/-!
# Waiting

The arguments are times, which are waited for one after another. How long that takes shows nowhere;
that each argument has to be a time does.
-/

namespace LineShell.Program.Sleep

/-- Whether a text is a time: a number that is not negative, and a letter for its unit. -/
def isTime (text : Octets) : Bool :=
  match Number.Format.double.leading? text with
  | none => false
  | some x =>
    let isLong :=
      match x.value with
      | .finite negative mantissa _ => !negative || mantissa = 0
      | .infinite negative => !negative
      | .undefined _ => false
    let isUnit :=
      match x.rest with
      | [] => true
      | [c] => "smhd".toList.contains c
      | _ => false
    isLong && isUnit

/-- What the arguments ask for. -/
inductive Request where
  /-- To wait for some times. -/
  | times (texts : List Octets)
  /-- To tell about the program itself. -/
  | standard
deriving DecidableEq, Repr

/-- Reads options and times, which may stand in any order up to a double hyphen, but not by the
letter of the standard. -/
def read (toTheLetter : Bool) : List Octets → Except String Request
  | [] => .ok (.times [])
  | ['-', '-'] :: texts => .ok (.times texts)
  | ('-' :: '-' :: word) :: _ => do
    discard <| Spelling.read Spelling.standard word
    return .standard
  | ('-' :: c :: _) :: _ => .error (Spelling.unknownLetter c)
  | text :: rest => do
    if toTheLetter then return .times (text :: rest)
    match ← read toTheLetter rest with
    | .times texts => return .times (text :: texts)
    | .standard => return .standard

/-- Waits for the times that the arguments tell. -/
def run (s : Start) : Finish :=
  match read s.isToTheLetter s.args with
  | .error text => s.misuse [text]
  | .ok .standard => { written := [] }
  | .ok (.times texts) =>
    if s.args = [] then s.misuse ["missing operand"]
    else
      match texts.filter fun text => !isTime text with
      | [] => { written := [] }
      | wrong =>
        s.misuse <| wrong.map fun text =>
          "invalid time interval " ++ String.ofList (ShellWord.mention text)

end LineShell.Program.Sleep
