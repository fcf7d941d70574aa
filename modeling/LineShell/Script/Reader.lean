import LineShell.Script.Source

/-!
# The grammar of scripts

Words are read up to the next blank or sign that is not quoted, and commands are built from them. A
list of commands at the top of a script ends with its line, so that a line is run before the next
one is read.

Every step either reads a character or goes one level down in the grammar, so a number of steps that
grows with the length of the script is enough; the reader counts them down.
-/

namespace LineShell.Script

/-- Where the parts of a word are read. -/
inductive Place where
  /-- Outside of quotes. -/
  | bare
  /-- Between double quotes, which may stand in the word of a parameter. -/
  | quotes (inBraces : Bool)
  /-- In the word of a parameter, between double quotes or outside. -/
  | braces (quoted : Bool)
  /-- In a document. -/
  | document
  /-- In a calculation, inside so many parentheses. -/
  | calculation (depth : Nat)
deriving DecidableEq, Repr

namespace Place

/-- Whether blanks and most signs stand for themselves. -/
def isQuoted : Place → Bool
  | bare => false
  | braces quoted => quoted
  | _ => true

/-- Whether quotes that open here are inside the word of a parameter. -/
def isInBraces : Place → Bool
  | braces _ => true
  | quotes inBraces => inBraces
  | _ => false

/-- The characters that do not stand for themselves. -/
def special : Place → Octets
  | bare => "\n;&|()<> \t\\'\"$\x60".toList
  | quotes _ => "\n\"\\$\x60".toList
  | braces false => "\n\x7d\\'\"$\x60".toList
  | braces true => "\n\x7d\\\"$\x60".toList
  | document => "\n\\$\x60".toList
  | calculation _ => "\n()\\$\x60".toList

/-- Whether a backslash takes the meaning of a character away, and does not stand for itself. -/
def isEscapable (inDocument : Bool) (c : Char) (place : Place) : Bool :=
  !place.isQuoted || "\\\x60$".toList.contains c ||
    (c = '"' && (place.isInBraces || !inDocument)) || (c = '\x7d' && place.isInBraces)

end Place

/-- Puts a part in front of others, where texts of one kind grow together. -/
def Part.cons : Part → List Part → List Part
  | .plain t, .plain u :: parts => .plain (u ++ t) :: parts
  | .escaped t, .escaped u :: parts => .escaped (u ++ t) :: parts
  | p, parts => p :: parts

/-- The parts up to the end of a word, and, if it ends before the last of them, what stands behind
that and ends the word around it in turn. -/
def Word.divide (parts : List Part) : Word × List Part :=
  go [] parts
where
  /-- Looks for the end behind some parts. -/
  go (before : List Part) : List Part → Word × List Part
    | [] => (before.reverse, [])
    | .ending :: parts => (before.reverse, parts ++ [.ending])
    | part :: parts => go (part :: before) parts

/-- The parameters whose names are signs. -/
def signParameters : Octets :=
  "!*@#$-?".toList

/-- What stands in for the value of a parameter, by its sign. -/
def substitute? : Char → Option Substitute
  | '-' => some .fallback
  | '=' => some .assigned
  | '?' => some .demanded
  | '+' => some .alternative
  | _ => none

/-- What a list of commands is part of. -/
inductive ListPlace where
  /-- The script itself: the list ends with the line. -/
  | top
  /-- A command that needs at least one command in it. -/
  | body
  /-- A command that needs none. -/
  | open_
deriving DecidableEq, Repr

/-- A token of a sign. -/
def isSign (text : String) : Token → Bool
  | .sign t => t = text
  | _ => false

/-- A token of a word of the language. -/
def isKeyword (text : String) : Token → Bool
  | .keyword t => t = text
  | _ => false

namespace Reader

open Read

/-- Steps left; there are none when the script is nested too deeply. -/
def spend {α : Type} : Read α :=
  throw .tooDeep

mutual

/-- The parts of a word up to its end. In a document, that may come with the last line of it. -/
def parts : Nat → Option Mark → Place → List Part → Read (List Part)
  | 0, _, _, _ => spend
  | fuel + 1, mark, place, before => do
    let rest ← ahead
    let run := rest.takeWhile fun c => !place.special.contains c
    if run ≠ [] then
      goOn (rest.dropWhile fun c => !place.special.contains c)
      parts fuel mark place (Part.cons (.plain run) before)
    else match rest with
      | [] => ended place mark.isSome before
      | '\\' :: [] =>
        goOn []
        parts fuel mark place (Part.cons (.escaped ['\\']) before)
      | '\\' :: c :: cs =>
        goOn cs
        let slash := if place.isEscapable mark.isSome c then [] else ['\\']
        parts fuel mark place (Part.cons (.escaped (slash ++ [c])) before)
      | '\n' :: cs =>
        if place = .bare then return before.reverse
        goOnLine cs
        let before := Part.cons (.plain ['\n']) before
        if ← isOver mark then ended place true before
        else indentedEscape fuel mark place before
      | '$' :: cs =>
        goOn cs
        let found ← dollar fuel mark place
        parts fuel mark place (found.foldl (fun ps p => Part.cons p ps) before)
      | '\x60' :: cs =>
        goOn cs
        if (← get).naming then parts fuel mark place (Part.cons (.plain ['\x60']) before)
        else
          let text ← backward fuel place.isQuoted
          let outer ← get
          set { outer with
            rest := text
            line := 1
            waiting := []
            replacing := []
            frozen := outer.wordsInUse }
          let body ← list fuel .open_ true []
          let inner ← get
          set { outer with
            pushed := none
            latest := inner.latest
            documents := inner.documents
            nextDocument := inner.nextDocument }
          parts fuel mark place (.output (body.getD []) :: before)
      | '\'' :: cs =>
        goOn cs
        let text ← single fuel mark place
        let part := if mark.isSome then Part.escaped text else .quoted text
        parts fuel mark place (part :: before)
      | '"' :: cs =>
        goOn cs
        match place with
        | .quotes _ => return before.reverse
        | _ =>
          let inner ← parts fuel mark (.quotes place.isInBraces) []
          if mark.isSome then
            let inner := inner.map fun
              | .plain text => .escaped text
              | part => part
            parts fuel mark place (inner.foldl (fun ps p => Part.cons p ps) before)
          else
            match Word.divide inner with
            | (inner, []) => parts fuel mark place (.double inner :: before)
            | (inner, behind) => parts fuel mark place (behind.reverse ++ .double inner :: before)
      | '\x7d' :: cs =>
        goOn cs
        return before.reverse
      | c :: cs =>
        match place with
        | .calculation depth =>
          goOn cs
          if c = '(' then
            parts fuel mark (.calculation (depth + 1)) (Part.cons (.plain [c]) before)
          else if 0 < depth then
            parts fuel mark (.calculation (depth - 1)) (Part.cons (.plain [c]) before)
          else
            match ← ahead with
            | ')' :: cs =>
              goOn cs
              return before.reverse
            | _ => parts fuel mark place (Part.cons (.plain [c]) before)
        | _ => return before.reverse
where
  /-- Whether a document is over at the front of a line. -/
  isOver : Option Mark → Read Bool
    | none => return false
    | some mark => do
      discard ahead
      passMark mark
  /-- Ends where there is no more text. -/
  ended (place : Place) (inDocument : Bool) (before : List Part) : Read (List Part) :=
    match place with
    | .calculation _ => fail "Missing '))'"
    | .bare => return before.reverse
    | .document => return before.reverse
    | .quotes _ => fail (if inDocument then "Missing '\x7d'" else "Unterminated quoted string")
    | .braces quoted =>
      fail (if quoted && !inDocument then "Unterminated quoted string" else "Missing '\x7d'")

/-- Goes on at the front of a line of a document. A continued line that is indented there keeps the
end of it. -/
def indentedEscape : Nat → Option Mark → Place → List Part → Read (List Part)
  | 0, _, _, _ => spend
  | fuel + 1, mark, place, before => do
    match mark, (← get).rest with
    | some _, '\\' :: '\n' :: cs =>
      goOn cs
      parts fuel mark place (Part.cons (.escaped ['\\', '\n']) before)
    | _, _ => parts fuel mark place before

/-- The text up to a single quote. -/
def single : Nat → Option Mark → Place → Read Octets
  | 0, _, _ => spend
  | fuel + 1, mark, place => do
    let rest := (← get).rest
    let text := rest.takeWhile fun c => c ≠ '\'' && c ≠ '\n'
    match rest.drop text.length with
    | '\n' :: cs =>
      goOnLine cs
      match mark with
      | none => return text ++ '\n' :: (← single fuel mark place)
      | some m =>
        if ← passMark m then fail "Missing '\x7d'"
        return text ++ '\n' :: (← single fuel mark place)
    | _ :: cs =>
      goOn cs
      return text
    | [] =>
      goOn []
      fail (if mark.isSome then "Missing '\x7d'" else "Unterminated quoted string")

/-- The text up to a backward quote. A backslash in it takes the meaning of few characters away. -/
def backward : Nat → Bool → Read Octets
  | 0, _ => spend
  | fuel + 1, quoted => do
    let isPlain (c : Char) : Bool := c ≠ '\x60' && c ≠ '\\' && c ≠ '\n'
    let rest ← ahead
    let text := rest.takeWhile isPlain
    match rest.dropWhile isPlain with
    | [] =>
      goOn []
      fail "EOF in backquote substitution"
    | '\n' :: cs =>
      goOnLine cs
      return text ++ '\n' :: (← backward fuel quoted)
    | '\\' :: c :: cs =>
      if text ≠ [] then
        goOn ('\\' :: c :: cs)
        return text ++ (← backward fuel quoted)
      goOn cs
      let slash := if "\\\x60$".toList.contains c || (quoted && c = '"') then [] else ['\\']
      return slash ++ c :: (← backward fuel quoted)
    | '\\' :: [] =>
      goOn []
      backward fuel quoted
    | _ :: cs =>
      goOn cs
      return text

/-- What stands behind a dollar, as parts of the word. -/
def dollar : Nat → Option Mark → Place → Read (List Part)
  | 0, _, _ => spend
  | fuel + 1, mark, place => do
    let rest ← ahead
    match if (← get).naming then [] else rest with
    | '(' :: cs =>
      goOn cs
      match ← ahead with
      | '(' :: cs =>
        goOn cs
        let (inner, behind) := Word.divide (← parts fuel mark (.calculation 0) [])
        return .calculation inner :: behind
      | _ =>
        let waiting := (← get).waiting
        modify fun s => { s with waiting := [] }
        let body ← list fuel .open_ true []
        let t ← next fuel false false false
        if ¬ isSign ")" t then unexpected t "\")\""
        modify fun s => { s with waiting }
        return [.output (body.getD [])]
    | '\x7b' :: cs =>
      goOn cs
      braced fuel mark place
    | c :: cs =>
      if isNameStart c then return [.parameter (← takeFront isNameChar fuel) (.value false)]
      else if c.isDigit || signParameters.contains c then
        goOn cs
        return [.parameter [c] (.value false)]
      else return [.plain ['$']]
    | [] => return [.plain ['$']]

/-- A parameter behind a dollar and a brace. -/
def braced : Nat → Option Mark → Place → Read (List Part)
  | 0, _, _ => spend
  | fuel + 1, mark, place => do
    let inner (quoted : Bool) : Read (List Part) := parts fuel mark (.braces quoted) []
    let broken : Read (List Part) := do
      discard <| inner place.isQuoted
      return [.parameter [] .malformed]
    match ← name fuel with
    | none => broken
    | some (name, true) =>
      match ← ahead with
      | '\x7d' :: cs =>
        goOn cs
        return [.parameter name .length]
      | _ => broken
    | some (name, false) =>
      let (cs, orEmpty) ←
        match ← ahead with
        | ':' :: cs => do
          goOn cs
          pure (← ahead, true)
        | cs => pure (cs, false)
      match cs, orEmpty with
      | [], _ => broken
      | '\x7d' :: cs, false =>
        goOn cs
        return [.parameter name (.value false)]
      | '\x7d' :: cs, true =>
        goOn cs
        let behind ← inner place.isQuoted
        return .parameter name (.value true) :: behind ++ [.ending]
      | c :: cs, _ =>
        goOn cs
        if (c = '%' ∨ c = '#') ∧ ¬ orEmpty then
          let longest ←
            match ← ahead with
            | d :: cs =>
              if d = c then do
                goOn cs
                pure true
              else pure false
            | [] => pure false
          let (pattern, behind) := Word.divide (← inner false)
          return .parameter name (.strip (c = '#') longest pattern) :: behind
        else
          match substitute? c with
          | none => broken
          | some how =>
            let (word, behind) := Word.divide (← inner place.isQuoted)
            return .parameter name (.substitute how orEmpty word) :: behind

/-- The name of a parameter behind a brace, and whether its length is asked for. -/
def name : Nat → Read (Option (Octets × Bool))
  | 0 => spend
  | fuel + 1 => do
    match ← ahead with
    | [] => return none
    | '\x7d' :: _ => return none
    | '#' :: cs =>
      goOn cs
      match ← ahead with
      | [] => return some (['#'], false)
      | c :: cs =>
        if isNameChar c then
          return some (← takeFront (if c.isDigit then Char.isDigit else isNameChar) fuel, true)
        else if c = '\x7d' then return some (['#'], false)
        else
          goOn cs
          match ← ahead with
          | '\x7d' :: _ => return if signParameters.contains c then some ([c], true) else none
          | behind =>
            goOn (c :: behind)
            return some (['#'], false)
    | c :: cs =>
      if isNameChar c then
        return some (← takeFront (if c.isDigit then Char.isDigit else isNameChar) fuel, false)
      else
        goOn cs
        return if signParameters.contains c then some ([c], false) else none

/-- The next token, as it stands. -/
def token : Nat → Read Token
  | 0 => spend
  | fuel + 1 => do
    if let some t := (← get).pushed then
      modify fun s => { s with pushed := none }
      return t
    match ← ahead with
    | [] => return .endOfInput
    | '\n' :: cs =>
      goOnLine cs
      return .newline
    | c :: cs =>
      if c = ' ' ∨ c = '\t' then
        goOn (cs.dropWhile fun c => c = ' ' || c = '\t')
        token fuel
      else if c = '#' then
        goOn (cs.dropWhile (· ≠ '\n'))
        token fuel
      else if c = '(' ∨ c = ')' then
        goOn cs
        return .sign (String.singleton c)
      else if c = '&' ∨ c = '|' ∨ c = ';' then
        goOn cs
        match ← ahead with
        | d :: cs =>
          if d = c then
            goOn cs
            return .sign (String.ofList [c, c])
          else return .sign (String.singleton c)
        | [] => return .sign (String.singleton c)
      else
        let word := (Word.divide (← parts fuel none .bare [])).1
        let digit? :=
          match Word.plain? word with
          | some [] => some none
          | some [d] => if d.isDigit then some (some (d.toNat - '0'.toNat)) else none
          | _ => none
        match digit?, ← ahead with
        | some digit, '<' :: cs =>
          goOn cs
          return .redirection (digit.getD 0) (← inward fuel)
        | some digit, '>' :: cs =>
          goOn cs
          return .redirection (digit.getD 1) (← outward fuel)
        | _, _ =>
          modify fun s => { s with latest := word }
          return .word word

/-- The arrow behind a sign that points at a command. -/
def inward : Nat → Read Arrow
  | 0 => spend
  | _ + 1 => do
    match ← ahead with
    | '<' :: cs =>
      goOn cs
      match ← ahead with
      | '-' :: cs =>
        goOn cs
        return .document true
      | _ => return .document false
    | '&' :: cs =>
      goOn cs
      return .descriptor
    | '>' :: cs =>
      goOn cs
      return .file .both
    | _ => return .file .read

/-- The arrow behind a sign that points away from a command. -/
def outward : Nat → Read Arrow
  | 0 => spend
  | _ + 1 => do
    match ← ahead with
    | '>' :: cs =>
      goOn cs
      return .file .append
    | '|' :: cs =>
      goOn cs
      return .file .overwrite
    | '&' :: cs =>
      goOn cs
      return .descriptor
    | _ => return .file .write

/-- The next token, where ends of lines may be passed over, words of the language looked for, and
aliases replaced. -/
def next : Nat → Bool → Bool → Bool → Read Token
  | 0, _, _, _ => spend
  | fuel + 1, overLines, asKeyword, asAlias => do
    let before ← get
    match ← token fuel with
    | .newline =>
      if overLines then
        documents fuel
        next fuel overLines asKeyword asAlias
      else return .newline
    | .word word =>
      match Word.plain? word with
      | none => return .word word
      | some text =>
        if asKeyword && keywords.contains (String.ofList text) then
          return .keyword (String.ofList text)
        let s ← get
        let asAlias := asAlias || before.goesOn s
        let free := !s.wordsInUse.contains text && !text.any isControl
        match if asAlias && free then s.aliases.lookup text else none with
        | none => return .word word
        | some [] => next fuel overLines asKeyword asAlias
        | some value =>
          let replaced : Replaced :=
            { word := text
              behind := s.rest.length
              goesOn := value.getLast? = some ' ' || value.getLast? = some '\t' }
          set { s with rest := value ++ s.rest, replacing := replaced :: s.inUse }
          next fuel overLines asKeyword asAlias
    | t => return t

/-- Reads the documents that have been announced. -/
def documents : Nat → Read Unit
  | 0 => spend
  | fuel + 1 => do
    match (← get).waiting with
    | [] => return
    | w :: waiting =>
      modify fun s => { s with waiting := [] }
      let body ← if w.verbatim then verbatim fuel w.mark else document fuel w.mark
      modify fun s =>
        { s with latest := body, waiting, documents := (w.number, body) :: s.documents }
      documents fuel

/-- A document in which nothing is replaced. -/
def verbatim : Nat → Mark → Read (List Part)
  | 0, _ => spend
  | fuel + 1, mark => do
    if ← passMark mark then return []
    let rest := (← get).rest
    let text := rest.takeWhile (· ≠ '\n')
    match rest.drop text.length with
    | [] =>
      goOn []
      return [.quoted text]
    | _ :: cs =>
      goOnLine cs
      return .quoted (text ++ ['\n']) :: (← verbatim fuel mark)

/-- A document in which parameters, outputs and calculations are replaced. -/
def document : Nat → Mark → Read (List Part)
  | 0, _ => spend
  | fuel + 1, mark => do
    discard ahead
    if ← passMark mark then return []
    return (Word.divide (← indentedEscape fuel (some mark) .document [])).1

/-- A list of commands behind some that have been read, given whether it may end at once. There is
none at the end of a script. -/
def list : Nat → ListPlace → Bool → List Node → Read (Option (List Node))
  | 0, _, _, _ => spend
  | fuel + 1, place, mayEnd, before => do
    let overLines := place ≠ .top
    let t ← next fuel overLines true true
    match t with
    | .newline =>
      documents fuel
      return some before.reverse
    | .endOfInput =>
      documents fuel
      push t
      return if place = .top ∧ before.isEmpty then none else some before.reverse
    | _ =>
      push t
      if mayEnd && place ≠ .top && t.isCloser then
        return some before.reverse
      let node ← andOr fuel
      let t ← next fuel false false false
      let node := if isSign "&" t then .background node else node
      let before := node :: before
      match t with
      | .endOfInput =>
        documents fuel
        push t
        return some before.reverse
      | .newline =>
        push t
        list fuel place true before
      | _ =>
        if isSign "&" t || isSign ";" t then list fuel place true before
        else if place = .top then unexpected t none
        else
          push t
          return some before.reverse

/-- A list of commands in another one. -/
def block : Nat → ListPlace → Read (List Node)
  | 0, _ => spend
  | fuel + 1, place => return (← list fuel place (place = .open_) []).getD []

/-- Pipelines, of which one is run depending on the success of the others. -/
def andOr : Nat → Read Node
  | 0 => spend
  | fuel + 1 => do
    let first ← pipeline fuel false false
    more fuel first

/-- Goes on behind a pipeline. -/
def more : Nat → Node → Read Node
  | 0, _ => spend
  | fuel + 1, first => do
    let t ← next fuel false false false
    if isSign "&&" t then
      let second ← pipeline fuel true true
      more fuel (.and first second)
    else if isSign "||" t then
      let second ← pipeline fuel true true
      more fuel (.or first second)
    else
      push t
      return first

/-- A pipeline, behind a sign or at the beginning. -/
def pipeline : Nat → Bool → Bool → Read Node
  | 0, _, _ => spend
  | fuel + 1, overLines, asKeyword => do
    let t ← next fuel overLines asKeyword asKeyword
    let line := (← get).line
    let negated := isKeyword "!" t
    let first ← if negated then next fuel false true true else pure t
    let first ← command fuel line first
    let t ← next fuel false false false
    let mut node := first
    if isSign "|" t then
      node := .pipeline true (first :: (← stages fuel))
    else
      push t
    return if negated then .negation node else node

/-- The commands of a pipeline behind the first. -/
def stages : Nat → Read (List Node)
  | 0 => spend
  | fuel + 1 => do
    let line := (← get).line
    let first ← command fuel line (← next fuel true true true)
    let t ← next fuel false false false
    if isSign "|" t then return first :: (← stages fuel)
    push t
    return [first]

/-- A command that begins with a token, and is looked for from a line on. -/
def command : Nat → Nat → Token → Read Node
  | 0, _, _ => spend
  | fuel + 1, line, t => do
    match t with
    | .word _ =>
      push t
      simple fuel (← get).line [] [] [] true
    | .redirection .. =>
      push t
      simple fuel (← get).line [] [] [] true
    | .keyword "if" =>
      let node ← conditional fuel
      expectKeyword fuel "fi"
      redirected fuel line node
    | .keyword "while" =>
      let test ← block fuel .body
      expectKeyword fuel "do"
      let body ← block fuel .body
      expectKeyword fuel "done"
      redirected fuel line (.loop true test body)
    | .keyword "until" =>
      let test ← block fuel .body
      expectKeyword fuel "do"
      let body ← block fuel .body
      expectKeyword fuel "done"
      redirected fuel line (.loop false test body)
    | .keyword "for" =>
      let (name, words) ← eachHead fuel
      let t ← next fuel true true true
      if ¬ isKeyword "do" t then unexpected t "\"do\""
      let body ← block fuel .body
      expectKeyword fuel "done"
      redirected fuel line (.each line name words body)
    | .keyword "case" =>
      let t ← next fuel false false false
      let .word word := t | unexpected t "word"
      let t ← next fuel true true true
      if ¬ isKeyword "in" t then unexpected t "\"in\""
      let cases ← cases fuel
      redirected fuel line (.selection line word cases)
    | .sign "(" =>
      let body ← block fuel .body
      let t ← next fuel false false false
      if ¬ isSign ")" t then unexpected t "\")\""
      redirected fuel line (.subshell line body)
    | .keyword "\x7b" =>
      let body ← block fuel .body
      expectKeyword fuel "\x7d"
      redirected fuel line (Node.grouped body)
    | t => unexpected t none

/-- Reads a word of the language that has to stand at the end of a list of commands. The list has
been read up to it. -/
def expectKeyword : Nat → String → Read Unit
  | 0, _ => spend
  | fuel + 1, text => do
    let t ← next fuel false false false
    if ¬ isKeyword text t then unexpected t ("\"" ++ text ++ "\"")

/-- A command with alternatives, behind its first word. -/
def conditional : Nat → Read Node
  | 0 => spend
  | fuel + 1 => do
    let test ← block fuel .body
    expectKeyword fuel "then"
    let body ← block fuel .body
    let t ← next fuel false false false
    if isKeyword "elif" t then
      return .conditional test body [← conditional fuel]
    else if isKeyword "else" t then
      return .conditional test body (← block fuel .body)
    else
      push t
      return .conditional test body []

/-- The name and the words of a repeated command. -/
def eachHead : Nat → Read (Octets × Option (List Word))
  | 0 => spend
  | fuel + 1 => do
    let name? :=
      match ← next fuel false false false with
      | .word word => (Word.plain? word).filter isName
      | _ => none
    let some name := name? | fail "Bad for loop variable"
    let t ← next fuel true true true
    if isKeyword "in" t then
      return (name, some (← eachWords fuel))
    else
      if ¬ isSign ";" t then push t
      return (name, none)

/-- The words up to the end of the line or of the command. -/
def eachWords : Nat → Read (List Word)
  | 0 => spend
  | fuel + 1 => do
    match ← next fuel false false false with
    | .word word => return word :: (← eachWords fuel)
    | .newline => return []
    | .sign ";" => return []
    | t => unexpected t none

/-- The patterns of a selection, each with its commands. -/
def cases : Nat → Read (List (List Word × List Node))
  | 0 => spend
  | fuel + 1 => do
    let t ← next fuel true true false
    if isKeyword "esac" t then return []
    if isSign "(" t then discard <| next fuel false false false
    let patterns ← patterns fuel
    let body ← block fuel .open_
    let t ← next fuel true true false
    if isKeyword "esac" t then return [(patterns, body)]
    if ¬ isSign ";;" t then unexpected t "\";;\""
    return (patterns, body) :: (← cases fuel)

/-- Patterns, of which the first token has been read. A token that is no word stands for the word
that was read last. -/
def patterns : Nat → Read (List Word)
  | 0 => spend
  | fuel + 1 => do
    let word := (← get).latest
    let t ← next fuel false false false
    if isSign "|" t then
      discard <| next fuel false false false
      return word :: (← patterns fuel)
    if ¬ isSign ")" t then unexpected t "\")\""
    return [word]

/-- A command with the redirections that follow it. -/
def redirected : Nat → Nat → Node → Read Node
  | 0, _, _ => spend
  | fuel + 1, line, node => do
    match ← redirections fuel true with
    | [] => return node
    | rs => return node.withRedirections line rs

/-- Redirections that follow a command. Only at once behind that, words of the language and
aliases are looked for. -/
def redirections : Nat → Bool → Read (List Redirection)
  | 0, _ => spend
  | fuel + 1, atOnce => do
    match ← next fuel false atOnce atOnce with
    | .redirection descriptor arrow =>
      let r ← redirection fuel descriptor arrow
      return r :: (← redirections fuel false)
    | t =>
      push t
      return []

/-- A redirection behind its arrow. -/
def redirection : Nat → Nat → Arrow → Read Redirection
  | 0, _, _ => spend
  | fuel + 1, descriptor, arrow => do
    let naming :=
      match arrow with
      | .document _ => true
      | _ => false
    modify fun s => { s with naming }
    let t ← next fuel false false false
    modify fun s => { s with naming := false }
    let .word word := t | unexpected t none
    match arrow with
    | .file use => return .mk descriptor (.file use word)
    | .descriptor => return .mk descriptor (.descriptor word)
    | .document indented =>
      let s ← get
      let number := s.nextDocument
      let waiting : Waiting := {
        number
        mark := { text := some (Word.literal word), indented }
        verbatim := (Word.plain? word).isNone }
      set { s with nextDocument := number + 1, waiting := s.waiting ++ [waiting] }
      return .mk descriptor (.document number)

/-- A command of words, assignments and redirections, behind some of them, given whether assignments
may still follow. -/
def simple : Nat → Nat → List (Octets × Word) → List Word → List Redirection → Bool → Read Node
  | 0, _, _, _, _, _ => spend
  | fuel + 1, line, assignments, words, rs, atFront => do
    match ← next fuel false false atFront with
    | .word word =>
      match if atFront then Word.assignment? word else none with
      | some assignment => simple fuel line (assignment :: assignments) words rs true
      | none => simple fuel line assignments (word :: words) rs false
    | .redirection descriptor arrow =>
      let r ← redirection fuel descriptor arrow
      simple fuel line assignments words (r :: rs) atFront
    | t =>
      match isSign "(" t, assignments, words, rs with
      | true, [], [word], [] =>
        let t ← next fuel false false false
        if ¬ isSign ")" t then unexpected t "\")\""
        let some name := Word.plain? word | fail "Bad function name"
        if ¬ isName name || specialCommands.contains name then fail "Bad function name"
        let line := (← get).line
        let body ← command fuel line (← next fuel true true true)
        return .definition name body
      | _, _, _, _ =>
        push t
        return .simple line assignments.reverse words.reverse rs.reverse

end

/-- The number of steps that suffices for a text of a length: each character takes one, and between
two of them the grammar goes down by few levels. -/
def stepsFor (length : Nat) : Nat :=
  40 * (length + 10)

/-- The commands up to the end of the line on which the last of them ends, or none at the end of the
script. -/
def line (steps : Nat) : Read (Option (List Node)) := do
  modify fun s => { s with pushed := none, waiting := [] }
  list steps .top true []

/-- The parts of a text in which parameters stand as in a document. If an end is ahead, the first
list of commands in it comes upon that. It is also answered whether the end is still ahead. -/
def text (endAhead : Bool) (cs : Octets) : Except Misreading (List Part) × Bool :=
  let pushed := if endAhead then some Token.endOfInput else none
  match (document (stepsFor cs.length) ⟨none, false⟩).run { rest := cs, pushed } with
  | .ok parts s => (.ok parts, s.isEndAhead)
  | .error trouble s => (.error trouble, s.isEndAhead)

end Reader

end LineShell.Script
