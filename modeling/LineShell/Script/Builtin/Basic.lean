import LineShell.Script.Condition
import LineShell.Script.Expansion
import LineShell.Script.Print

/-!
# Commands of the language: texts and conditions

A command of the language runs in the process of the script, so it can change that. It takes its
arguments and answers a status.
-/

namespace LineShell.Script.Builtin

open Run

/-- Options at the front of arguments, each with its own argument if the table has a colon behind
its letter, and the arguments behind them. -/
def options (table : String) : Nat → List Octets → Run (List (Char × Octets) × List Octets)
  | 0, args => return ([], args)
  | _, [] => return ([], [])
  | _ + 1, ['-', '-'] :: args => return ([], args)
  | steps + 1, ('-' :: c :: cs) :: args => do
    let rec letters : List Char → Run (List (Char × Octets) × List Octets)
      | [] => options table steps args
      | c :: cs => do
        match if c = ':' then [] else table.toList.dropWhile (· ≠ c) with
        | [] => fail ("Illegal option -".toList ++ [c])
        | _ :: ':' :: _ =>
          match cs, args with
          | [], [] => fail ("No arg for -".toList ++ c :: " option".toList)
          | [], arg :: args => do
            let (more, args) ← options table steps args
            return ((c, arg) :: more, args)
          | cs, args => do
            let (more, args) ← options table steps args
            return ((c, cs) :: more, args)
        | _ => do
          let (more, args) ← letters cs
          return ((c, []) :: more, args)
    letters (c :: cs)
  | _, args => return ([], args)

/-- The options at the front of arguments, and the arguments behind them. -/
def readOptions (table : String) (args : List Octets) :
    Run (List (Char × Octets) × List Octets) :=
  options table (args.length + 1) args

/-- The option that the first letter at the front of arguments asks for, and the arguments behind
it. -/
def firstOption (table : String) (args : List Octets) :
    Run (Option Char × List Octets) := do
  match args with
  | ['-', '-'] :: args => return (none, args)
  | ('-' :: c :: _) :: rest =>
    if table.toList.contains c then return (some c, rest)
    else fail ("Illegal option -".toList ++ [c])
  | args => return (none, args)

/-- A text as it can be written in a script. -/
def quoted (text : Octets) : Octets :=
  go text.length text
where
  /-- Quotes what is left: single quotes go between double ones, all else between single ones. -/
  go : Nat → Octets → Octets
    | 0, text => '\'' :: text ++ ['\'']
    | steps + 1, text =>
      let plain := text.takeWhile (· ≠ '\'')
      let rest := text.dropWhile (· ≠ '\'')
      let marks := rest.takeWhile (· = '\'')
      let rest := rest.dropWhile (· = '\'')
      '\'' :: plain ++ '\'' :: (if marks = [] then [] else '"' :: marks ++ ['"'])
        ++ if rest = [] then [] else go steps rest

/-- Repeats the arguments. -/
def echo (args : List Octets) : Run Nat := do
  say (Print.echo args)
  return 0

/-- Writes the arguments behind a format. -/
def printf (args : List Octets) : Run Nat := do
  match (← readOptions "" args).2 with
  | [] => fail "usage: printf format [arg ...]".toList
  | format :: args =>
    let printed := Print.printf format args
    printed.complaints.forM complain
    say printed.output
    if printed.broken then
      discard flush
      setStatus 2
      throw .error
    return if printed.failed then 1 else 0

/-- Whether a condition holds. Called by its bracket, it has to end with a word that begins with
one. -/
def test (name : Octets) (args : List Octets) : Run Nat := do
  if name = ['['] ∧ (args.getLast?.bind List.head?) ≠ some ']' then fail "missing ]".toList
  let words := if name = ['['] then args.dropLast else args
  match Condition.holds (← inquiry) (words.length + 1) words with
  | .ok b => return if b then 0 else 1
  | .error text => fail text

end LineShell.Script.Builtin
