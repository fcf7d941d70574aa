import LineShell.Number.Digits

/-!
# Backslash escapes

Some programs read escapes in their arguments: a letter for a control character, or the number of a
byte in octal or hexadecimal digits. They differ in how they read octal digits and in which
characters they take at all.
-/

namespace LineShell.Program

/-- Where an escape is read. -/
inductive EscapeStyle where
  /-- In a text to be repeated: octal digits may follow a zero, which does not count as one. -/
  | repeated
  /-- In a format: up to three octal digits; a quote may be escaped, and a character given by its
  number in a code of characters. -/
  | format
  /-- In an argument that a format asks to read: as in a format, but a zero does not count. -/
  | argument
deriving DecidableEq, Repr

/-- What an escape stands for. -/
inductive Escaped where
  /-- A text, and what stands behind the escape. -/
  | text (text rest : Octets)
  /-- The end of all output. -/
  | stop
  /-- Nothing; the program ends with these words. -/
  | wrong (complaint : String)
deriving DecidableEq, Repr

/-- The control character of a letter. -/
def control? : Char → Option Char
  | 'a' => some '\x07'
  | 'b' => some '\x08'
  | 'e' => some '\x1b'
  | 'f' => some '\x0c'
  | 'n' => some '\n'
  | 'r' => some '\r'
  | 't' => some '\t'
  | 'v' => some '\x0b'
  | '\\' => some '\\'
  | _ => none

/-- A number in hexadecimal digits, at least so many. -/
def paddedHex (upper : Bool) (least n : Nat) : Octets :=
  let ds := Nat.toDigits 16 n
  let ds := if upper then ds.map Char.toUpper else ds
  List.replicate (least - ds.length) '0' ++ ds

/-- Whether the number of a character may be used in an escape: characters that are no plain text,
and plain ones that need no escape, may not. -/
def isNameable (n : Nat) : Bool :=
  !(n ≤ 0x9f && n ≠ 0x24 && n ≠ 0x40 && n ≠ 0x60) && !(0xd800 ≤ n && n ≤ 0xdfff)

/-- The escape of a character given by its number in so many digits, behind the letter that says how
many there are. Only plain characters can be written; any other is written as an escape once
more. -/
def readNumbered (letter : Char) (count : Nat) (cs : Octets) : Escaped :=
  match readDigits 16 count cs with
  | (seen, n, rest) =>
    if seen ≠ count then .wrong "missing hexadecimal number in escape"
    else if ¬ isNameable n then
      .wrong ("invalid universal character name \\" ++
        String.ofList (letter :: paddedHex false count n))
    else if n < 0x80 then .text [Char.ofNat n] rest
    else if n < 0x10000 then .text ('\\' :: 'u' :: paddedHex true 4 n) rest
    else .text ('\\' :: 'U' :: paddedHex true 8 n) rest

/-- Reads an escape, given what stands behind its backslash. What is no escape stands for itself,
backslash included. -/
def readEscape (style : EscapeStyle) : Octets → Escaped
  | [] => .text ['\\'] []
  | c :: cs =>
    if c = 'c' then .stop
    else if c = '"' ∧ style ≠ .repeated then .text ['"'] cs
    else match control? c with
      | some b => .text [b] cs
      | none =>
        if c = 'x' then
          match readDigits 16 2 cs with
          | (0, _, _) =>
            if style = .repeated then .text ['\\', c] cs
            else .wrong "missing hexadecimal number in escape"
          | (_, n, rest) => .text [Octets.octet n] rest
        else if (digitIn? 8 c).isSome then
          match readDigits 8 3 (if c = '0' ∧ style ≠ .format then cs else c :: cs) with
          | (_, n, rest) => .text [Octets.octet n] rest
        else if (c = 'u' ∨ c = 'U') ∧ style ≠ .repeated then
          readNumbered c (if c = 'u' then 4 else 8) cs
        else .text ['\\', c] cs

theorem length_le_of_readNumbered {letter : Char} {count : Nat} {cs text rest : Octets}
    (h : readNumbered letter count cs = .text text rest) : rest.length ≤ cs.length := by
  have hd := length_readDigits_le 16 count cs
  simp only [readNumbered] at h
  split at h
  · cases h
  · split at h
    · cases h
    · split at h
      · cases h
        exact hd
      · split at h <;> cases h <;> exact hd

/-- What is left behind an escape is no longer than what stood behind its backslash. -/
theorem length_le_of_readEscape {style : EscapeStyle} {cs text rest : Octets}
    (h : readEscape style cs = .text text rest) : rest.length ≤ cs.length := by
  cases cs with
  | nil =>
    simp only [readEscape, Escaped.text.injEq] at h
    simp [← h.2]
  | cons c cs =>
    have hd : ∀ base most ds, ds = cs ∨ ds = c :: cs →
        (readDigits base most ds).2.2.length ≤ (c :: cs).length := by
      intro base most ds hds
      rcases hds with rfl | rfl
      · exact Nat.le_succ_of_le (length_readDigits_le _ _ _)
      · exact length_readDigits_le _ _ _
    simp only [readEscape] at h
    split at h
    · cases h
    · split at h
      · cases h
        simp
      · split at h
        · cases h
          simp
        · split at h
          · split at h
            · split at h
              · cases h
                simp
              · cases h
            · rename_i heq
              cases h
              have := hd 16 2 cs (Or.inl rfl)
              rwa [heq] at this
          · split at h
            · cases h
              refine hd 8 3 _ ?_
              split
              · exact Or.inl rfl
              · exact Or.inr rfl
            · split at h
              · exact Nat.le_succ_of_le (length_le_of_readNumbered h)
              · cases h
                simp

/-- How reading a text with escapes ends. -/
inductive Close where
  /-- At its end. -/
  | atEnd
  /-- At an escape that ends all output. -/
  | stopped
  /-- At something that is wrong. -/
  | wrong (complaint : String)
deriving DecidableEq, Repr

/-- What a text with escapes stands for, and how reading it ends. -/
def expand (style : EscapeStyle) : Octets → Octets × Close
  | [] => ([], .atEnd)
  | c :: cs =>
    if c = '\\' then
      match h : readEscape style cs with
      | .stop => ([], .stopped)
      | .wrong complaint => ([], .wrong complaint)
      | .text text rest =>
        have : rest.length ≤ cs.length := length_le_of_readEscape h
        let r := expand style rest
        (text ++ r.1, r.2)
    else
      let r := expand style cs
      (c :: r.1, r.2)
termination_by cs => cs.length
decreasing_by
  · simp only [List.length_cons]
    omega
  · simp

end LineShell.Program
