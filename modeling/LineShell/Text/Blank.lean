import LineShell.Text.CodeRange

/-!
# Blank characters

A character is blank when it has the Unicode property White_Space. Blanks separate the words of a
command and are trimmed from numbers.
-/

namespace LineShell.Text

/-- The 25 code points with the property White_Space. -/
def blanks : List CodeRange :=
  [⟨0x09, 0x0D⟩, ⟨0x20, 0x20⟩, ⟨0x85, 0x85⟩, ⟨0xA0, 0xA0⟩, ⟨0x1680, 0x1680⟩, ⟨0x2000, 0x200A⟩,
   ⟨0x2028, 0x2029⟩, ⟨0x202F, 0x202F⟩, ⟨0x205F, 0x205F⟩, ⟨0x3000, 0x3000⟩]

/-- Whether the character is blank. -/
def isBlank (c : Char) : Bool :=
  covers blanks c

/-- The text without the blanks at its front. -/
def trimStart (cs : List Char) : List Char :=
  cs.dropWhile isBlank

/-- The text without the blanks at its two ends. -/
def trim (cs : List Char) : List Char :=
  (trimStart (trimStart cs).reverse).reverse

end LineShell.Text
