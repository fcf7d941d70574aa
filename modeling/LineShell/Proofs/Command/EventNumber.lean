import Mathlib.Algebra.Group.Nat.Defs
import Mathlib.Data.List.TakeWhile
import LineShell.Command.EventId
import LineShell.Proofs.Command.Grammar

/-!
# The numbers of events

A word can be cut into the sign of a recall, blanks, a plus sign, digits and a rest, each of them as
long as it can be. Its event number is the decimal value of the digits, if there are any and the
value fits a machine word, whatever the rest is. Main statement: `EventId.ofWord_parts`.
-/

namespace LineShell.EventId

open Grammar

/-! ## Words cut into parts -/

/-- The text does not begin with a character of a class. -/
def Stops (p : Char → Bool) (cs : List Char) : Prop :=
  ∀ c ∈ cs.head?, p c = false

/-- A character that may stand in a place or may not. -/
def optional (c : Char) (present : Bool) : List Char :=
  if present then [c] else []

/-- The parts of a word. A part that could be longer, or that is missing though it could be there,
is ruled out by what follows it. -/
structure Parts where
  bang : Bool
  blanks : Gap
  plus : Bool
  digits : List Char
  rest : List Char
  isDigit_of_mem : ∀ d ∈ digits, d.isDigit = true
  digits_stop : Stops Char.isDigit rest
  plus_stops : plus = false → Stops (· = '+') (digits ++ rest)
  blanks_stop : Stops Text.isBlank (optional '+' plus ++ (digits ++ rest))
  bang_stops : bang = false →
    Stops (· = '!') (blanks.val ++ (optional '+' plus ++ (digits ++ rest)))

namespace Parts

def render (p : Parts) : String :=
  String.ofList
    (optional '!' p.bang ++ (p.blanks.val ++ (optional '+' p.plus ++ (p.digits ++ p.rest))))

/-- The value of the digits in decimal. -/
def value (p : Parts) : Nat :=
  Nat.ofDigitChars 10 p.digits 0

end Parts

theorem exists_optional (c : Char) (cs : List Char) :
    ∃ present rest, cs = optional c present ++ rest ∧
      (present = false → Stops (· = c) rest) := by
  cases cs with
  | nil => exact ⟨false, [], rfl, fun _ => nofun⟩
  | cons d ds =>
      by_cases hd : d = c
      · exact ⟨true, ds, by rw [hd]; rfl, nofun⟩
      · refine ⟨false, d :: ds, rfl, fun _ e he => ?_⟩
        obtain rfl : d = e := Option.some.inj he
        exact decide_eq_false hd

theorem exists_span (p : Char → Bool) (cs : List Char) :
    ∃ front rest, cs = front ++ rest ∧ (∀ c ∈ front, p c = true) ∧ Stops p rest := by
  refine ⟨cs.takeWhile p, cs.dropWhile p, List.takeWhile_append_dropWhile.symm,
    fun c => List.mem_takeWhile_imp, ?_⟩
  intro c hc
  have hstop := List.head?_dropWhile_not p cs
  rw [Option.mem_def.mp hc] at hstop
  simpa using hstop

theorem exists_parts (word : String) : ∃ p : Parts, p.render = word := by
  obtain ⟨bang, cs, hword, hbang⟩ := exists_optional '!' word.toList
  obtain ⟨blanks, cs, rfl, hblank, hblanks⟩ := exists_span Text.isBlank cs
  obtain ⟨plus, cs, rfl, hplus⟩ := exists_optional '+' cs
  obtain ⟨digits, rest, rfl, hdigit, hdigits⟩ := exists_span Char.isDigit cs
  refine ⟨⟨bang, ⟨blanks, hblank⟩, plus, digits, rest, hdigit, hdigits, hplus, hblanks, hbang⟩, ?_⟩
  rw [Parts.render, ← hword, String.ofList_toList]

/-! ## How the parts are read -/

theorem skipSigil_optional {bang : Bool} {cs : List Char}
    (h : bang = false → Stops (· = '!') cs) : skipSigil (optional '!' bang ++ cs) = cs := by
  cases bang with
  | true => rfl
  | false =>
      cases cs with
      | nil => rfl
      | cons c cs =>
          have hc : c ≠ sigil := of_decide_eq_false (h rfl c rfl)
          exact if_neg hc

theorem skipPlus_optional {plus : Bool} {cs : List Char}
    (h : plus = false → Stops (· = '+') cs) :
    Numeral.skipPlus (optional '+' plus ++ cs) = cs := by
  cases plus with
  | true => rfl
  | false =>
      cases cs with
      | nil => rfl
      | cons c cs =>
          have hc : c ≠ '+' := of_decide_eq_false (h rfl c rfl)
          change Numeral.skipPlus (c :: cs) = c :: cs
          simp [Numeral.skipPlus, hc]

theorem takeWhile_of_stops {p : Char → Bool} {cs : List Char} (h : Stops p cs) :
    cs.takeWhile p = [] ∧ cs.dropWhile p = cs := by
  cases cs with
  | nil => exact ⟨rfl, rfl⟩
  | cons c cs =>
      have hc : p c = false := h c rfl
      simp [hc]

theorem trimStart_gap (blanks : Gap) {cs : List Char} (h : Stops Text.isBlank cs) :
    Text.trimStart (blanks.val ++ cs) = cs := by
  rw [Text.trimStart, List.dropWhile_append_of_pos blanks.property, (takeWhile_of_stops h).2]

/-- Only the digits are read, and in full. -/
theorem Parts.ofWord_render (p : Parts) :
    ofWord p.render = if p.digits ≠ [] ∧ p.value ≤ 2 ^ 64 - 1 then p.value else 0 := by
  have hdigits : (p.digits ++ p.rest).takeWhile Char.isDigit = p.digits := by
    rw [List.takeWhile_append_of_pos p.isDigit_of_mem, (takeWhile_of_stops p.digits_stop).1,
      List.append_nil]
  rw [ofWord, render, String.toList_ofList, skipSigil_optional p.bang_stops,
    trimStart_gap p.blanks p.blanks_stop, skipPlus_optional p.plus_stops, hdigits,
    Numeral.word?_of_isDigit p.isDigit_of_mem, Numeral.value_eq_ofDigitChars]
  change Option.getD (if p.digits ≠ [] ∧ p.value ≤ 2 ^ 64 - 1 then some p.value else none) 0 = _
  split <;> rfl

/-- A minus sign, or anything but a digit behind a plus sign, leaves no digits to read. -/
theorem ofWord_sign (blanks : Gap) (tail : List Char) :
    ofWord (String.ofList ('!' :: (blanks.val ++ '-' :: tail))) = 0 ∧
    ∀ c : Char, c.isDigit = false →
      ofWord (String.ofList ('!' :: (blanks.val ++ '+' :: c :: tail))) = 0 := by
  constructor
  · let p : Parts :=
      { bang := true, blanks, plus := false, digits := [], rest := '-' :: tail
        isDigit_of_mem := List.forall_mem_nil _
        digits_stop := by rintro c ⟨⟩; rfl
        plus_stops := by rintro - c ⟨⟩; rfl
        blanks_stop := by rintro c ⟨⟩; decide
        bang_stops := nofun }
    exact p.ofWord_render
  · intro c hc
    let p : Parts :=
      { bang := true, blanks, plus := true, digits := [], rest := c :: tail
        isDigit_of_mem := List.forall_mem_nil _
        digits_stop := by rintro d ⟨⟩; exact hc
        plus_stops := nofun
        blanks_stop := by rintro d ⟨⟩; decide
        bang_stops := nofun }
    exact p.ofWord_render

theorem isBlank_of_isDigit {c : Char} (h : c.isDigit = true) : Text.isBlank c = false := by
  have houtside : ∀ r ∈ Text.blanks, r.last < '0'.toNat ∨ '9'.toNat < r.first := by decide
  rw [Char.isDigit_iff_toNat] at h
  rw [Bool.eq_false_iff]
  intro hblank
  obtain ⟨r, hr, hfirst, hlast⟩ := Text.covers_eq_true_iff.mp hblank
  rcases houtside r hr with hr | hr <;> omega

theorem stops_of_isDigit {p : Char → Bool} (hp : ∀ c : Char, c.isDigit = true → p c = false)
    {ds : List Char} (hds : ∀ d ∈ ds, d.isDigit = true) (hne : ds ≠ []) (rest : List Char) :
    Stops p (ds ++ rest) := by
  obtain ⟨d, ds, rfl⟩ := List.exists_cons_of_ne_nil hne
  rintro c ⟨⟩
  exact hp _ (hds _ List.mem_cons_self)

theorem ofWord_decimal (zeros : Nat) {n : Nat} (hn : n ≤ 2 ^ 64 - 1) {suffix : String}
    (hsuffix : Stops Char.isDigit suffix.toList) :
    ofWord ("!" ++ String.ofList (List.replicate zeros '0') ++ toString n ++ suffix) = n := by
  have hdigit : ∀ d ∈ List.replicate zeros '0' ++ Nat.toDigits 10 n, d.isDigit = true :=
    Numeral.isDigit_of_mem_decimal
  have hne : List.replicate zeros '0' ++ Nat.toDigits 10 n ≠ [] :=
    List.append_ne_nil_of_right_ne_nil _ Nat.toDigits_ne_nil
  have hplus : ∀ c : Char, c.isDigit = true → decide (c = '+') = false := by
    rintro c hc
    refine decide_eq_false ?_
    rintro rfl
    cases hc
  let p : Parts :=
    { bang := true, blanks := ⟨[], List.forall_mem_nil _⟩, plus := false
      digits := List.replicate zeros '0' ++ Nat.toDigits 10 n, rest := suffix.toList
      isDigit_of_mem := hdigit
      digits_stop := hsuffix
      plus_stops := fun _ => stops_of_isDigit hplus hdigit hne _
      blanks_stop := stops_of_isDigit (fun _ => isBlank_of_isDigit) hdigit hne _
      bang_stops := nofun }
  have hword : "!" ++ String.ofList (List.replicate zeros '0') ++ toString n ++ suffix =
      p.render := by
    rw [← String.toList_inj]
    simp [p, Parts.render, optional]
  have hvalue : p.value = n := Numeral.value_decimal zeros n
  rw [hword, p.ofWord_render, hvalue, if_pos ⟨hne, hn⟩]

/-- The event number of a word is the decimal value of its digits, behind one sign of a recall, any
blanks and one plus sign, or zero if there is no digit or the value is too great. So a second sign
and blanks behind a sign leave nothing to read. A number in decimal is read as itself, whatever
zeros stand before it and whatever follows it but a digit. -/
theorem ofWord_parts :
    (∀ word : String, ∃ p : Parts, p.render = word) ∧
    (∀ p : Parts, ofWord p.render =
      if p.digits ≠ [] ∧ p.value ≤ 2 ^ 64 - 1 then p.value else 0) ∧
    (∀ (blanks : Gap) (tail : List Char),
      ofWord (String.ofList ('!' :: (blanks.val ++ '-' :: tail))) = 0 ∧
      ∀ c : Char, c.isDigit = false →
        ofWord (String.ofList ('!' :: (blanks.val ++ '+' :: c :: tail))) = 0) ∧
    ∀ (zeros n : Nat) (suffix : String), n ≤ 2 ^ 64 - 1 → Stops Char.isDigit suffix.toList →
      ofWord ("!" ++ String.ofList (List.replicate zeros '0') ++ toString n ++ suffix) = n :=
  ⟨exists_parts, Parts.ofWord_render, ofWord_sign,
    fun zeros _ _ hn hsuffix => ofWord_decimal zeros hn hsuffix⟩

/-- The greatest number behind three zeros and before a digit of another script, and one more than
the greatest number. -/
theorem ofWord_parts_greatest :
    2 ^ 64 - 1 ≤ 2 ^ 64 - 1 ∧ Stops Char.isDigit "٣".toList ∧
      ofWord "!00018446744073709551615٣" = 2 ^ 64 - 1 ∧ ofWord "!+18446744073709551616" = 0 := by
  obtain ⟨-, hparts, -, hdecimal⟩ := ofWord_parts
  have hstops : Stops Char.isDigit "٣".toList := by
    rintro c ⟨⟩
    decide
  let p : Parts :=
    { bang := true, blanks := ⟨[], List.forall_mem_nil _⟩, plus := true
      digits := "18446744073709551616".toList, rest := []
      isDigit_of_mem := List.all_eq_true.mp rfl
      digits_stop := nofun
      plus_stops := nofun
      blanks_stop := by rintro c ⟨⟩; decide
      bang_stops := nofun }
  have hgreatest : "!" ++ String.ofList (List.replicate 3 '0') ++ toString (2 ^ 64 - 1) ++ "٣" =
      "!00018446744073709551615٣" := by decide +kernel
  have hrender : p.render = "!+18446744073709551616" := by decide +kernel
  refine ⟨le_rfl, hstops, ?_, ?_⟩
  · rw [← hgreatest]
    exact hdecimal 3 (2 ^ 64 - 1) "٣" le_rfl hstops
  · rw [← hrender, hparts p]
    exact if_neg (by decide +kernel)

end LineShell.EventId
