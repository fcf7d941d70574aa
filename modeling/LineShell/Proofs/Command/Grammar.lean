import LineShell.Command.Basic
import LineShell.Text.Blank

/-!
# The grammar of command lines

A line is made of words with blanks around them, and a word of pieces: single characters, alone or
behind a backslash, and bodies between quotes. A tree says how a line is made; it gives the
characters of the line, and the command that they ask for. What cannot stand on a line cannot be
put into a tree, and every line has one.
-/

namespace LineShell.Grammar

/-! ## Bodies between double quotes -/

/-- The characters that lose their meaning behind a backslash between double quotes. -/
def escapable : List Char :=
  ['\\', '"', '$']

/-- What stands between double quotes: a character, an escaped one, or a backslash that stands for
itself. -/
inductive Item where
  | plain (c : Char) (h : c ≠ '"' ∧ c ≠ '\\')
  | escaped (c : Char) (h : c ∈ escapable)
  | backslash

namespace Item

def render : Item → List Char
  | plain c _ => [c]
  | escaped c _ => ['\\', c]
  | backslash => ['\\']

def value : Item → List Char
  | plain c _ => [c]
  | escaped c _ => [c]
  | backslash => ['\\']

/-- No backslash that stands for itself comes before a character that it would escape. Behind the
items comes the character `next`, or nothing. -/
def Separate (next : Option Char) : List Item → Prop
  | [] => True
  | backslash :: is => (∀ c ∈ (is.flatMap render).head?.or next, c ∉ escapable) ∧ Separate next is
  | _ :: is => Separate next is

end Item

/-- A body with the character `next` behind it, or with nothing behind it. -/
structure Body (next : Option Char) where
  items : List Item
  separate : Item.Separate next items

namespace Body

variable {next : Option Char}

def render (b : Body next) : List Char :=
  b.items.flatMap Item.render

def value (b : Body next) : List Char :=
  b.items.flatMap Item.value

end Body

/-! ## Pieces -/

/-- The character stands for itself outside quotes. -/
structure IsBare (c : Char) : Prop where
  ne_single : c ≠ '\''
  ne_double : c ≠ '"'
  ne_backslash : c ≠ '\\'
  not_blank : Text.isBlank c = false

inductive Piece where
  | bare (c : Char) (h : IsBare c)
  | escaped (c : Char)
  | single (body : List Char) (h : '\'' ∉ body)
  | double (body : Body (some '"'))

namespace Piece

def render : Piece → List Char
  | bare c _ => [c]
  | escaped c => ['\\', c]
  | single body _ => '\'' :: (body ++ ['\''])
  | double body => '"' :: (body.render ++ ['"'])

def value : Piece → List Char
  | bare c _ => [c]
  | escaped c => [c]
  | single body _ => body
  | double body => body.value

/-- Whether the piece is an ampersand, neither quoted nor escaped. -/
def isMark : Piece → Bool
  | bare c _ => c = '&'
  | _ => false

end Piece

/-- A piece that lacks its closing quote. The line ends with it. -/
inductive OpenPiece where
  | single (body : List Char) (h : '\'' ∉ body)
  | double (body : Body none)

namespace OpenPiece

def render : OpenPiece → List Char
  | single body _ => '\'' :: body
  | double body => '"' :: body.render

def value : OpenPiece → List Char
  | single body _ => body
  | double body => body.value

end OpenPiece

/-! ## Words -/

abbrev Gap :=
  { bs : List Char // ∀ b ∈ bs, Text.isBlank b = true }

/-- A line from the beginning of a word on. A word has at least one piece, which stands behind those
at its front; between two words there is at least one blank. Behind the blanks at the end of a line
there may be a lone backslash. -/
inductive Words where
  | last (front : List Piece) (piece : Piece) (gap : Gap) (backslash : Bool)
  | unclosed (front : List Piece) (piece : OpenPiece)
  | cons (front : List Piece) (piece : Piece) (gap : Gap) (h : gap.val ≠ []) (rest : Words)

/-- The end of a line that may have a lone backslash there. -/
def ending : Bool → List Char
  | true => ['\\']
  | false => []

namespace Words

def render : Words → List Char
  | last front piece gap backslash =>
    front.flatMap Piece.render ++ (piece.render ++ (gap.val ++ ending backslash))
  | unclosed front piece => front.flatMap Piece.render ++ piece.render
  | cons front piece gap _ rest =>
    front.flatMap Piece.render ++ (piece.render ++ (gap.val ++ rest.render))

def values : Words → List (List Char)
  | last front piece _ _ => [front.flatMap Piece.value ++ piece.value]
  | unclosed front piece => [front.flatMap Piece.value ++ piece.value]
  | cons front piece _ _ rest => (front.flatMap Piece.value ++ piece.value) :: rest.values

/-- Whether the last piece of the last word is a mark. -/
def isMarked : Words → Bool
  | last _ piece _ _ => piece.isMark
  | unclosed _ _ => false
  | cons _ _ _ _ rest => rest.isMarked

end Words

/-! ## Lines -/

/-- A whole line: without a word, or with blanks, if any, before the first one. -/
inductive Tree where
  | blank (gap : Gap) (backslash : Bool)
  | words (gap : Gap) (ws : Words)

namespace Tree

def render : Tree → List Char
  | blank gap backslash => gap.val ++ ending backslash
  | words gap ws => gap.val ++ ws.render

def values : Tree → List (List Char)
  | blank _ _ => []
  | words _ ws => ws.values

def isMarked : Tree → Bool
  | blank _ _ => false
  | words _ ws => ws.isMarked

end Tree

/-- The words without the last character of the last one, and without that word if nothing else was
in it. -/
def unmark (vs : List (List Char)) : List (List Char) :=
  vs.dropLast ++ (vs.getLast?.map List.dropLast).toList.filter (· ≠ [])

/-- The command that the line of a tree asks for. -/
def Tree.command (t : Tree) : Command where
  argv := (if t.isMarked then unmark t.values else t.values).map String.ofList
  background := t.isMarked

/-! ## Every line has a tree -/

/-- Behind a double quote stands a body and a closing quote, or a body up to the end of the line. -/
theorem exists_body : (cs : List Char) →
    (∃ (b : Body (some '"')) (rest : List Char), cs = b.render ++ '"' :: rest) ∨
      ∃ b : Body none, cs = b.render
  | [] => .inr ⟨⟨[], trivial⟩, rfl⟩
  | c :: cs => by
      by_cases hquote : c = '"'
      · exact .inl ⟨⟨[], trivial⟩, cs, by rw [hquote]; rfl⟩
      by_cases hbackslash : c = '\\'
      · subst hbackslash
        -- A character that is not escaped is looked at once more: it may be the closing quote.
        by_cases hescapes : ∃ d ds, cs = d :: ds ∧ d ∈ escapable
        · obtain ⟨d, ds, rfl, hd⟩ := hescapes
          rcases exists_body ds with ⟨b, rest, hb⟩ | ⟨b, hb⟩
          · exact .inl ⟨⟨.escaped d hd :: b.items, b.separate⟩, rest, by rw [hb]; rfl⟩
          · exact .inr ⟨⟨.escaped d hd :: b.items, b.separate⟩, by rw [hb]; rfl⟩
        · have hhead : ∀ d ∈ cs.head?, d ∉ escapable := by
            intro d hd hmem
            obtain ⟨ds, hds⟩ := List.head?_eq_some_iff.mp hd
            exact hescapes ⟨d, ds, hds, hmem⟩
          rcases exists_body cs with ⟨b, rest, hb⟩ | ⟨b, hb⟩
          · refine .inl ⟨⟨.backslash :: b.items, ?_, b.separate⟩, rest, by rw [hb]; rfl⟩
            rw [hb, List.head?_append] at hhead
            exact hhead
          · refine .inr ⟨⟨.backslash :: b.items, ?_, b.separate⟩, by rw [hb]; rfl⟩
            rw [hb] at hhead
            rw [Option.or_none]
            exact hhead
      · rcases exists_body cs with ⟨b, rest, hb⟩ | ⟨b, hb⟩
        · exact .inl ⟨⟨.plain c ⟨hquote, hbackslash⟩ :: b.items, b.separate⟩, rest,
            by rw [hb]; rfl⟩
        · exact .inr ⟨⟨.plain c ⟨hquote, hbackslash⟩ :: b.items, b.separate⟩, by rw [hb]; rfl⟩
termination_by cs => cs.length

def Words.push (p : Piece) : Words → Words
  | last front q gap backslash => last (p :: front) q gap backslash
  | unclosed front q => unclosed (p :: front) q
  | cons front q gap h rest => cons (p :: front) q gap h rest

theorem Words.render_push (p : Piece) (ws : Words) :
    (ws.push p).render = p.render ++ ws.render := by
  cases ws <;> simp [push, render]

/-- The line with a piece before it. The piece joins the first word if no blank is in between. -/
def Tree.push (p : Piece) : Tree → Tree
  | blank gap backslash => words ⟨[], nofun⟩ (.last [] p gap backslash)
  | words gap ws =>
    if h : gap.val = [] then words ⟨[], nofun⟩ (ws.push p)
    else words ⟨[], nofun⟩ (.cons [] p gap h ws)

theorem Tree.render_push (p : Piece) (t : Tree) : (t.push p).render = p.render ++ t.render := by
  cases t with
  | blank gap backslash => rfl
  | words gap ws =>
      rw [push]
      split
      · rename_i h
        simp [render, h, Words.render_push]
      · rfl

def Tree.indent (b : Char) (h : Text.isBlank b = true) : Tree → Tree
  | blank gap backslash => blank ⟨b :: gap.val, by simpa [h] using gap.property⟩ backslash
  | words gap ws => words ⟨b :: gap.val, by simpa [h] using gap.property⟩ ws

theorem Tree.render_indent {b : Char} (h : Text.isBlank b = true) (t : Tree) :
    (t.indent b h).render = b :: t.render := by
  cases t <;> rfl

theorem exists_tree : (cs : List Char) → ∃ t : Tree, t.render = cs
  | [] => ⟨.blank ⟨[], nofun⟩ false, rfl⟩
  | c :: cs => by
      by_cases hsingle : c = '\''
      · subst hsingle
        by_cases hclosed : '\'' ∈ cs
        · obtain ⟨body, rest, hcs, hbody⟩ := List.eq_append_cons_of_mem hclosed
          obtain ⟨t, ht⟩ := exists_tree rest
          refine ⟨t.push (.single body hbody), ?_⟩
          rw [Tree.render_push, ht, hcs]
          simp [Piece.render]
        · -- Without a closing quote all that is left is the body of the last piece.
          exact ⟨.words ⟨[], nofun⟩ (.unclosed [] (.single cs hclosed)), rfl⟩
      by_cases hdouble : c = '"'
      · subst hdouble
        rcases exists_body cs with ⟨body, rest, hcs⟩ | ⟨body, hcs⟩
        · obtain ⟨t, ht⟩ := exists_tree rest
          refine ⟨t.push (.double body), ?_⟩
          rw [Tree.render_push, ht, hcs]
          simp [Piece.render]
        · exact ⟨.words ⟨[], nofun⟩ (.unclosed [] (.double body)), by rw [hcs]; rfl⟩
      by_cases hbackslash : c = '\\'
      · subst hbackslash
        cases cs with
        | nil => exact ⟨.blank ⟨[], nofun⟩ true, rfl⟩
        | cons d ds =>
            obtain ⟨t, ht⟩ := exists_tree ds
            refine ⟨t.push (.escaped d), ?_⟩
            rw [Tree.render_push, ht]
            rfl
      obtain ⟨t, ht⟩ := exists_tree cs
      by_cases hblank : Text.isBlank c = true
      · exact ⟨t.indent c hblank, by rw [Tree.render_indent, ht]⟩
      · have hbare : IsBare c :=
          ⟨hsingle, hdouble, hbackslash, Bool.eq_false_iff.mpr hblank⟩
        refine ⟨t.push (.bare c hbare), ?_⟩
        rw [Tree.render_push, ht]
        rfl
termination_by cs => cs.length
decreasing_by all_goals grind

end LineShell.Grammar
