import LineShell.Script.Builtin.Basic

/-!
# Commands of the language: permissions and limits

A process takes some permissions away from the files that it makes, and there are limits on what it
may use. A limit has a greatest value, which may only become less.
-/

namespace LineShell.Script.Builtin

open Run

/-! ## Permissions -/

/-- The letters of the permissions that three bits give. -/
def permissions (bits : Nat) : Octets :=
  ("rwx".toList.zip [4, 2, 1]).filterMap fun (letter, bit) =>
    if bits / bit % 2 = 1 then some letter else none

/-- All permissions. -/
def allPermissions : Nat :=
  511

/-- The permissions that are left when some are taken away. -/
def without (bits taken : Nat) : Nat :=
  bits - (bits &&& taken)

/-- The places of the digits of those that letters name: the owner, the group, and the others. -/
def places (letters : Octets) : Nat :=
  letters.foldl (fun n c =>
    n ||| match c with
      | 'u' => 64
      | 'g' => 8
      | 'o' => 1
      | _ => 73) 0

/-- The permissions that letters give, given those that are given now. Some letters mean what others
have. -/
def granted (now : Nat) (letters : Octets) : Nat :=
  letters.foldl (fun n c =>
    n ||| match c with
      | 'r' => 4
      | 'w' => 2
      | 'x' => 1
      | 'u' => now / 64 % 8
      | 'g' => now / 8 % 8
      | 'o' => now % 8
      | 'X' => if now &&& 73 = 0 then 0 else 1
      | _ => 0) 0

/-- The permissions that a text with letters and signs gives, if it is well formed, given those that
are given now, and what the letters before have said. -/
def symbolic? (now : Nat) : Nat → Nat → Nat → Octets → Option Nat
  | 0, _, result, _ => some result
  | _, _, result, [] => some result
  | steps + 1, whose, result, cs =>
    let isWho (c : Char) : Bool := "augo".toList.contains c
    let isWhat (c : Char) : Bool := "rwxugoXs".toList.contains c
    let whose := whose ||| places (cs.takeWhile isWho)
    let whose := if whose = 0 then places ['a'] else whose
    match cs.dropWhile isWho with
    | [] => some result
    | sign :: cs =>
      let bits := granted now (cs.takeWhile isWhat) * whose
      let result? :=
        match sign with
        | '+' => some (result ||| bits)
        | '-' => some (without result bits)
        | '=' => some (bits ||| without result (whose * 7))
        | _ => none
      match result?, cs.dropWhile isWhat with
      | none, _ => none
      | some result, ',' :: cs => symbolic? now steps 0 result cs
      | some result, [] => some result
      | some result, c :: cs =>
        if "+-=".toList.contains c then symbolic? now steps whose result (c :: cs) else none

/-- The permissions that digits take away. -/
def digitsMask (arg : Octets) : Run Nat := do
  match readDigits 8 arg.length arg with
  | (_, mask, []) => return mask
  | _ => fail ("Illegal number: ".toList ++ arg)

/-- Sets the permissions that new files do not have, or writes them. -/
def umask (args : List Octets) : Run Nat := do
  let (os, args) ← readOptions "S" args
  let mask := (← process).mask
  match args with
  | [] =>
    let digit (n : Nat) : Nat := (mask >>> (3 * n)) % 8
    if os = [] then
      say ('0' :: ([2, 1, 0].flatMap fun n => Octets.decimal (digit n)) ++ ['\n'])
    else
      let text (who : String) (n : Nat) : Octets := who.toList ++ '=' :: permissions (7 - digit n)
      say ([','].intercalate [text "u" 2, text "g" 1, text "o" 0] ++ ['\n'])
    return 0
  | arg :: _ =>
    let mask ←
      if arg.head?.any Char.isDigit then digitsMask arg
      else
        let now := without allPermissions mask
        match symbolic? now (arg.length + 1) 0 now arg with
        | some bits => pure (without allPermissions bits)
        | none => fail ("Illegal mode: ".toList ++ arg)
    update fun p => { p with mask := mask &&& allPermissions }
    return 0

/-! ## Limits -/

/-- The value of a limit that does not limit anything. -/
def unlimited : Nat :=
  UInt64.size - 1

/-- What a limit is about. -/
structure Resource where
  /-- The letter for it. -/
  letter : Char
  /-- Its name. -/
  name : String
  /-- The unit in which it is told. -/
  unit : Nat := 1
  /-- The usual limit that holds. -/
  soft : Nat := unlimited
  /-- The usual greatest value. -/
  hard : Nat := unlimited

/-- What there are limits on, in the order in which they are shown. -/
def resources : List Resource := [
  { letter := 't', name := "time(seconds)" },
  { letter := 'f', name := "file(blocks)", unit := 512 },
  { letter := 'd', name := "data(kbytes)", unit := 1024 },
  { letter := 's', name := "stack(kbytes)", unit := 1024, soft := 8192 * 1024 },
  { letter := 'c', name := "coredump(blocks)", unit := 512, soft := 0 },
  { letter := 'm', name := "memory(kbytes)", unit := 1024 },
  { letter := 'l', name := "locked memory(kbytes)", unit := 1024, soft := 8192 * 1024,
    hard := 8192 * 1024 },
  { letter := 'p', name := "process" },
  { letter := 'n', name := "nofiles", soft := 1048576, hard := 1048576 },
  { letter := 'v', name := "vmemory(kbytes)", unit := 1024 },
  { letter := 'w', name := "locks" },
  { letter := 'r', name := "rtprio", soft := 0, hard := 0 }]

/-- The limit on something. -/
def limitOn (r : Resource) : Run Limit :=
  return ((← process).limits.lookup r.letter).getD { soft := r.soft, hard := r.hard }

/-- Writes a limit. -/
def sayLimit (greatest : Bool) (r : Resource) : Run Unit := do
  let limit ← limitOn r
  let n := if greatest then limit.hard else limit.soft
  say ((if n = unlimited then "unlimited".toList else Octets.decimal (n / r.unit)) ++ ['\n'])

/-- The value of a limit that an argument gives. -/
def limitValue (r : Resource) (arg : Octets) : Run Nat := do
  if arg = "unlimited".toList then return unlimited
  if ¬ arg.all Char.isDigit then fail "bad number".toList
  return Nat.ofDigitChars 10 arg 0 * r.unit % UInt64.size

/-- Sets a limit, or its greatest value, or both. -/
def setLimit (soft hard : Bool) (r : Resource) (n : Nat) : Run Unit := do
  let before ← limitOn r
  let limit : Limit := {
    soft := if soft then n else before.soft
    hard := if hard then n else before.hard }
  let refuse (text : String) : Run Unit :=
    fail ("error setting limit (".toList ++ text.toList ++ [')'])
  if limit.hard < limit.soft then refuse "Invalid argument"
  if before.hard < limit.hard then refuse "Operation not permitted"
  update fun p => { p with limits := (r.letter, limit) :: p.limits.filter fun l => l.1 ≠ r.letter }

/-- Sets a limit, or writes limits. -/
def ulimit (args : List Octets) : Run Nat := do
  let (os, args) ← readOptions ("HSa" ++ String.ofList (resources.map Resource.letter)) args
  let letters := os.map Prod.fst
  let all := letters.contains 'a'
  let how := (letters.filter "HS".toList.contains).getLast?
  let r := (letters.reverse.findSome? fun c => resources.find? fun r => r.letter = c).getD
    { letter := 'f', name := "file(blocks)", unit := 512 }
  match args with
  | [] =>
    let greatest := how = some 'H'
    if all then
      resources.forM fun r => do
        say (r.name.toList ++ List.replicate (20 - r.name.length) ' ' ++ [' '])
        sayLimit greatest r
    else sayLimit greatest r
  | arg :: more =>
    if all || more ≠ [] then fail "too many arguments".toList
    setLimit (how ≠ some 'H') (how ≠ some 'S') r (← limitValue r arg)
  return 0

end LineShell.Script.Builtin
