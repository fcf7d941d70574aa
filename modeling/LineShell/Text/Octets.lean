import LineShell.Text.Utf8

/-!
# Bytes as characters

Programs work on bytes, whether these are a text or not. A byte is shown as the character of its
number, so that rules about blanks, digits and quotes can be said with characters, and every byte
string has exactly one form.
-/

namespace LineShell

/-- Bytes, each shown as the character of its number. -/
abbrev Octets := List Char

namespace Octets

/-- The characters that show some bytes. -/
def ofBytes (bs : List UInt8) : Octets :=
  bs.map fun b => Char.ofNat b.toNat

/-- The bytes that characters show. -/
def toBytes (cs : Octets) : List UInt8 :=
  cs.map fun c => UInt8.ofNat c.toNat

/-- The characters that show the bytes of a text. -/
def ofText (s : String) : Octets :=
  ofBytes (Text.utf8 s)

/-- The character that shows the byte of a number, of which only the last eight bits count. -/
def octet (n : Nat) : Char :=
  Char.ofNat (n % 256)

/-- The pieces of a text between the places where a character stands. -/
def split (mark : Char) : Octets → List Octets
  | [] => [[]]
  | c :: cs =>
    if c = mark then [] :: split mark cs
    else match split mark cs with
      | [] => [[c]]
      | piece :: pieces => (c :: piece) :: pieces

/-- The number that a run of decimal digits writes. -/
def decimal (n : Nat) : Octets :=
  Nat.toDigits 10 n

theorem toNat_ofNat_toNat (b : UInt8) : (Char.ofNat b.toNat).toNat = b.toNat := by
  have h : b.toNat < 256 := b.toNat_lt
  have hv : b.toNat.isValidChar := Or.inl (by omega)
  rw [Char.ofNat, dif_pos hv]
  rfl

/-- Nothing is lost when bytes are shown as characters. -/
@[simp] theorem toBytes_ofBytes (bs : List UInt8) : toBytes (ofBytes bs) = bs := by
  simp [toBytes, ofBytes, Function.comp_def, toNat_ofNat_toNat]

/-- Different texts are shown by different characters. -/
theorem ofText_injective {s t : String} (h : ofText s = ofText t) : s = t := by
  have hbytes := congrArg toBytes h
  rw [ofText, ofText, toBytes_ofBytes, toBytes_ofBytes] at hbytes
  have htexts := congrArg Text.ofUtf8? hbytes
  rwa [Text.ofUtf8?_utf8, Text.ofUtf8?_utf8, Option.some.injEq] at htexts

end Octets

end LineShell
