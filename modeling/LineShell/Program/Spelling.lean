import LineShell.Text.Octets

/-!
# Options that are written out

An option may be written as two hyphens and a word. The word need not be whole, as long as only one
option begins so.
-/

namespace LineShell.Program.Spelling

/-- The options of every program. -/
def standard : List String :=
  ["help", "version"]

/-- The option of a name. -/
def mention (name : String) : String :=
  "'--" ++ name ++ "'"

/-- The words about a letter that is no option. -/
def unknownLetter (c : Char) : String :=
  "invalid option -- '" ++ String.singleton c ++ "'"

/-- The option that a word stands for: the one that is written so, or the only one that begins so. A
value behind it is not allowed. -/
def read (known : List String) (word : Octets) : Except String String :=
  let start := word.takeWhile (· ≠ '=')
  let found (name : String) : Except String String :=
    if start.length = word.length then .ok name
    else .error ("option " ++ mention name ++ " doesn't allow an argument")
  if known.contains (String.ofList start) then found (String.ofList start)
  else
    match known.filter fun name => start.isPrefixOf name.toList with
    | [] => .error ("unrecognized option " ++ mention (String.ofList word))
    | [name] => found name
    | possible =>
      .error ("option " ++ mention (String.ofList word) ++ " is ambiguous; possibilities:" ++
        String.join (possible.map fun name => " " ++ mention name))

end LineShell.Program.Spelling
