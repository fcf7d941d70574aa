import LineShell.Dialogue.Report
import LineShell.Proofs.Command.EventNumber

/-!
# Which settings are accepted

A value sets a number if it is digits, behind one plus sign or none, between blanks, and the number
is positive and fits a machine word. Settings are accepted when each variable is unset or its value
sets a number; otherwise the first bad value is reported as it stands, and nothing is run. Main
statement: `Settings.ofLookup_decides`.
-/

namespace LineShell.Settings

open EventId (Stops exists_optional isBlank_of_isDigit skipPlus_optional stops_of_isDigit
  trimStart_gap)
open Grammar (Gap)

/-! ## Blanks at the ends -/

theorem exists_trimStart (cs : List Char) : ∃ before : Gap, cs = before.val ++ Text.trimStart cs :=
  ⟨⟨cs.takeWhile Text.isBlank, fun _ => List.mem_takeWhile_imp⟩,
    List.takeWhile_append_dropWhile.symm⟩

theorem exists_trim (cs : List Char) :
    ∃ before after : Gap, cs = before.val ++ (Text.trim cs ++ after.val) := by
  obtain ⟨before, hbefore⟩ := exists_trimStart cs
  obtain ⟨after, hafter⟩ := exists_trimStart (Text.trimStart cs).reverse
  have htrim : Text.trimStart cs = Text.trim cs ++ after.val.reverse := by
    rw [Text.trim, ← List.reverse_append, ← hafter, List.reverse_reverse]
  refine ⟨before, ⟨after.val.reverse, ?_⟩, ?_⟩
  · exact fun c hc => after.property c (List.mem_reverse.mp hc)
  · rw [← htrim, ← hbefore]

theorem trim_gaps {core : List Char} (hne : core ≠ []) (hfront : Stops Text.isBlank core)
    (hback : Stops Text.isBlank core.reverse) (before after : Gap) :
    Text.trim (before.val ++ (core ++ after.val)) = core := by
  obtain ⟨c, cs, rfl⟩ := List.exists_cons_of_ne_nil hne
  have hstart : Text.trimStart (before.val ++ (c :: cs ++ after.val)) = c :: cs ++ after.val :=
    trimStart_gap before hfront
  have hafter : ∀ c ∈ after.val.reverse, Text.isBlank c = true :=
    fun c hc => after.property c (List.mem_reverse.mp hc)
  rw [Text.trim, hstart, List.reverse_append, trimStart_gap ⟨_, hafter⟩ hback,
    List.reverse_reverse]

/-! ## Values that set a number -/

/-- A number as a value may hold it. -/
structure Written where
  before : Gap
  plus : Bool
  digits : List Char
  after : Gap
  isDigit_of_mem : ∀ d ∈ digits, d.isDigit = true
  digits_ne_nil : digits ≠ []

namespace Written

def render (w : Written) : String :=
  String.ofList (w.before.val ++ ((EventId.optional '+' w.plus ++ w.digits) ++ w.after.val))

/-- The value of the digits in decimal. -/
def number (w : Written) : Nat :=
  Nat.ofDigitChars 10 w.digits 0

theorem digits_stop (w : Written) {p : Char → Bool}
    (hp : ∀ c : Char, c.isDigit = true → p c = false) : Stops p w.digits := by
  simpa using stops_of_isDigit hp w.isDigit_of_mem w.digits_ne_nil []

theorem trim_render (w : Written) :
    Text.trim w.render.toList = EventId.optional '+' w.plus ++ w.digits := by
  rw [render, String.toList_ofList]
  apply trim_gaps
  · simp [w.digits_ne_nil]
  · cases w.plus with
    | true =>
        rintro c ⟨⟩
        decide
    | false => exact w.digits_stop fun _ => isBlank_of_isDigit
  · rw [List.reverse_append]
    exact stops_of_isDigit (fun _ => isBlank_of_isDigit)
      (fun d hd => w.isDigit_of_mem d (List.mem_reverse.mp hd)) (by simp [w.digits_ne_nil]) _

theorem skipPlus_trim_render (w : Written) :
    Numeral.skipPlus (Text.trim w.render.toList) = w.digits := by
  rw [trim_render]
  refine skipPlus_optional fun _ => w.digits_stop fun c hc => decide_eq_false ?_
  rintro rfl
  cases hc

end Written

/-- The value holds a number that is positive and fits a machine word. -/
def Sets (value : String) (n : Nat) : Prop :=
  ∃ w : Written, w.render = value ∧ w.number = n ∧ 1 ≤ n ∧ n ≤ 2 ^ 64 - 1

theorem Sets.pos {value : String} {n : Nat} (h : Sets value n) : 0 < n := by
  obtain ⟨w, -, -, hpos, -⟩ := h
  exact hpos

theorem positive?_eq_some_iff {value : String} {n : { n : Nat // 0 < n }} :
    positive? value = some n ↔ Sets value n := by
  constructor
  · intro h
    obtain ⟨m, hm, hn⟩ := Option.bind_eq_some_iff.mp h
    obtain ⟨⟨hne, hdigit, hmax⟩, hnumber⟩ := Numeral.word?_eq_some_iff.mp hm
    split at hn
    · rename_i hpos
      cases hn
      obtain ⟨before, after, hvalue⟩ := exists_trim value.toList
      obtain ⟨plus, digits, hplus, hstops⟩ := exists_optional '+' (Text.trim value.toList)
      rw [hplus, skipPlus_optional hstops] at hne hdigit hmax hnumber
      let w : Written := ⟨before, plus, digits, after, hdigit, hne⟩
      have hrender : w.render = value := by
        rw [Written.render, ← hplus, ← hvalue, String.ofList_toList]
      have hw : w.number = m := (Numeral.value_eq_ofDigitChars digits).symm.trans hnumber
      exact ⟨w, hrender, hw, hpos, hnumber ▸ hmax⟩
    · cases hn
  · rintro ⟨w, rfl, hnumber, -, hmax⟩
    have hvalue : Numeral.value w.digits = n :=
      (Numeral.value_eq_ofDigitChars w.digits).trans hnumber
    have hword : Numeral.word? w.digits = some n.val :=
      Numeral.word?_eq_some_iff.mpr ⟨⟨w.digits_ne_nil, w.isDigit_of_mem, hvalue ▸ hmax⟩, hvalue⟩
    rw [positive?, w.skipPlus_trim_render, hword, Option.bind_some, dif_pos n.property]

/-- A number in decimal, with zeros before it and blanks around it, is what it sets. -/
theorem sets_decimal (before after : Gap) (zeros : Nat) {n : Nat} (hpos : 1 ≤ n)
    (hmax : n ≤ 2 ^ 64 - 1) :
    Sets (String.ofList before.val ++ String.ofList (List.replicate zeros '0') ++ toString n ++
      String.ofList after.val) n := by
  let w : Written :=
    { before, plus := false, digits := List.replicate zeros '0' ++ Nat.toDigits 10 n, after
      isDigit_of_mem := Numeral.isDigit_of_mem_decimal
      digits_ne_nil := List.append_ne_nil_of_right_ne_nil _ Nat.toDigits_ne_nil }
  have hnumber : w.number = n :=
    (Numeral.value_eq_ofDigitChars w.digits).symm.trans (Numeral.value_decimal zeros n)
  refine ⟨w, ?_, hnumber, hpos, hmax⟩
  rw [← String.toList_inj]
  simp [w, Written.render, EventId.optional]

/-! ## Variables -/

/-- The variable is not set, or its value sets a number. -/
def Accepts (value? : Option String) : Prop :=
  ∀ value, value? = some value → ∃ n, Sets value n

/-- The number that a variable stands for: its value sets it, or it is the fallback. -/
def SetsOr (fallback : Nat) : Option String → Nat → Prop
  | none, n => n = fallback
  | some value, n => Sets value n

section

variable (fallback : { n : Nat // 0 < n }) (name : String) (value? : Option String)

theorem positiveOr_eq_ok_iff (n : { n : Nat // 0 < n }) :
    positiveOr fallback name value? = .ok n ↔ SetsOr fallback value? n := by
  cases value? with
  | none => simp [positiveOr, SetsOr, Subtype.ext_iff, eq_comm]
  | some value =>
      rw [positiveOr, SetsOr, ← positive?_eq_some_iff]
      cases positive? value <;> simp

theorem exists_positiveOr_iff :
    (∃ n, positiveOr fallback name value? = .ok n) ↔ Accepts value? := by
  cases value? with
  | none => exact ⟨fun _ => nofun, fun _ => ⟨fallback, rfl⟩⟩
  | some value =>
      constructor
      · rintro ⟨n, hn⟩ _ ⟨⟩
        exact ⟨n, (positiveOr_eq_ok_iff _ _ _ n).mp hn⟩
      · intro h
        obtain ⟨n, hn⟩ := h value rfl
        exact ⟨⟨n, hn.pos⟩, (positiveOr_eq_ok_iff _ _ _ _).mpr hn⟩

theorem positiveOr_eq_error_iff (fault : Fault) :
    positiveOr fallback name value? = .error fault ↔
      ¬ Accepts value? ∧ ∃ value, value? = some value ∧ fault = .setting name value := by
  rw [← exists_positiveOr_iff fallback name]
  cases value? with
  | none => simp [positiveOr]
  | some value =>
      rw [positiveOr]
      cases positive? value <;> simp [eq_comm]

end

/-! ## Settings -/

/-- The history is read before the lines. -/
theorem ofLookup_eq (lookup : String → Option String) :
    ofLookup lookup =
      match positiveOr ⟨10, by decide⟩ historyVariable (lookup historyVariable),
        positiveOr ⟨1000, by decide⟩ lineVariable (lookup lineVariable) with
      | .error fault, _ => .error fault
      | .ok _, .error fault => .error fault
      | .ok history, .ok line =>
          .ok ⟨"rashell> ", history, line, history.property, line.property⟩ := by
  rw [ofLookup]
  cases positiveOr ⟨10, by decide⟩ historyVariable (lookup historyVariable) with
  | error fault => rfl
  | ok history =>
      cases positiveOr ⟨1000, by decide⟩ lineVariable (lookup lineVariable) with
      | error fault => rfl
      | ok line => rfl

theorem exists_ofLookup_iff (lookup : String → Option String) :
    (∃ settings, ofLookup lookup = .ok settings) ↔
      Accepts (lookup historyVariable) ∧ Accepts (lookup lineVariable) := by
  rw [ofLookup_eq, ← exists_positiveOr_iff ⟨10, by decide⟩ historyVariable,
    ← exists_positiveOr_iff ⟨1000, by decide⟩ lineVariable]
  cases positiveOr ⟨10, by decide⟩ historyVariable (lookup historyVariable) with
  | error fault => simp
  | ok history =>
      cases positiveOr ⟨1000, by decide⟩ lineVariable (lookup lineVariable) with
      | error fault => simp
      | ok line => simp

theorem ofLookup_eq_ok_iff (lookup : String → Option String) (settings : Settings) :
    ofLookup lookup = .ok settings ↔
      settings.prompt = "rashell> " ∧
      SetsOr 10 (lookup historyVariable) settings.historyCapacity ∧
      SetsOr 1000 (lookup lineVariable) settings.lineLimit := by
  obtain ⟨prompt, capacity, limit, hcapacity, hlimit⟩ := settings
  have hhistory := positiveOr_eq_ok_iff ⟨10, by decide⟩ historyVariable
    (lookup historyVariable) ⟨capacity, hcapacity⟩
  have hline := positiveOr_eq_ok_iff ⟨1000, by decide⟩ lineVariable
    (lookup lineVariable) ⟨limit, hlimit⟩
  rw [← hhistory, ← hline, ofLookup_eq]
  cases positiveOr ⟨10, by decide⟩ historyVariable (lookup historyVariable) with
  | error fault => simp
  | ok history =>
      cases positiveOr ⟨1000, by decide⟩ lineVariable (lookup lineVariable) with
      | error fault => simp
      | ok line => simp [Subtype.ext_iff, eq_comm]

theorem ofLookup_eq_error_iff (lookup : String → Option String) (fault : Fault) :
    ofLookup lookup = .error fault ↔
      (¬ Accepts (lookup historyVariable) ∧
        ∃ value, lookup historyVariable = some value ∧ fault = .setting historyVariable value) ∨
      (Accepts (lookup historyVariable) ∧ ¬ Accepts (lookup lineVariable) ∧
        ∃ value, lookup lineVariable = some value ∧ fault = .setting lineVariable value) := by
  rw [← positiveOr_eq_error_iff ⟨10, by decide⟩, ← positiveOr_eq_error_iff ⟨1000, by decide⟩,
    ← exists_positiveOr_iff ⟨10, by decide⟩ historyVariable, ofLookup_eq]
  cases positiveOr ⟨10, by decide⟩ historyVariable (lookup historyVariable) with
  | error fault => simp
  | ok history =>
      cases positiveOr ⟨1000, by decide⟩ lineVariable (lookup lineVariable) with
      | error fault => simp
      | ok line => simp

/-- Settings are accepted exactly when each variable is unset or its value sets a number, and then
they are these numbers or the fallbacks, with which there is a history. Otherwise the fault names
the variable of the history if its value is bad, else that of the lines, with the value as it
stands. A run with such settings does not depend on the host or on the input: behind what the logger
opens with, it says what the fault is; it has status 1, and writes nothing else. -/
theorem ofLookup_decides (lookup : String → Option String) :
    ((∃ settings, ofLookup lookup = .ok settings) ↔
      Accepts (lookup "RASHELL_HISTSIZE") ∧ Accepts (lookup "RASHELL_MAX_LINE")) ∧
    (∀ settings, ofLookup lookup = .ok settings ↔
      settings.prompt = "rashell> " ∧
      SetsOr 10 (lookup "RASHELL_HISTSIZE") settings.historyCapacity ∧
      SetsOr 1000 (lookup "RASHELL_MAX_LINE") settings.lineLimit) ∧
    (∀ settings, ofLookup lookup = .ok settings → ∀ {σ : Type} (stream : σ),
      Ring.ofCapacity? settings.historyCapacity =
        some (Shell.ofSettings settings stream).history) ∧
    (∀ fault, ofLookup lookup = .error fault ↔
      (¬ Accepts (lookup "RASHELL_HISTSIZE") ∧ ∃ value, lookup "RASHELL_HISTSIZE" = some value ∧
        fault = .setting "RASHELL_HISTSIZE" value) ∨
      (Accepts (lookup "RASHELL_HISTSIZE") ∧ ¬ Accepts (lookup "RASHELL_MAX_LINE") ∧
        ∃ value, lookup "RASHELL_MAX_LINE" = some value ∧
          fault = .setting "RASHELL_MAX_LINE" value)) ∧
    (∀ (before after : Gap) (zeros n : Nat) (hpos : 1 ≤ n), n < 2 ^ 64 → ∀ name fallback,
      positiveOr fallback name (some (String.ofList before.val ++
        String.ofList (List.replicate zeros '0') ++ toString n ++ String.ofList after.val)) =
          .ok ⟨n, hpos⟩) ∧
    (∀ fault, ofLookup lookup = .error fault → ∀ host ended input logger,
      Report.ofRun host ended lookup input logger =
        { status := 1
          output := []
          errors := logger.opening (lookup "RASHELL_LOG") ++ Text.utf8
            ("rashell: invalid shell configuration: " ++ fault.report ++ "\n") }) := by
  refine ⟨exists_ofLookup_iff lookup, ofLookup_eq_ok_iff lookup, ?_, ofLookup_eq_error_iff lookup,
    ?_, ?_⟩
  · intro settings _ σ stream
    exact if_pos settings.historyCapacity_pos
  · intro before after zeros n hpos hmax name fallback
    exact (positiveOr_eq_ok_iff _ _ _ ⟨n, hpos⟩).mpr
      (sets_decimal before after zeros hpos (Nat.le_sub_one_of_lt hmax))
  · intro fault hfault host ended input logger
    rw [Report.ofRun, hfault]
    rcases (ofLookup_eq_error_iff lookup fault).mp hfault with
      ⟨-, _, -, rfl⟩ | ⟨-, -, _, -, rfl⟩ <;> rfl

/-- One more than the greatest number behind a good value, the greatest number with zeros before it
and blanks of two kinds around it, and two variables that are not set. -/
theorem ofLookup_decides_greatest :
    let lookup : String → Option String := (List.lookup ·
      [("RASHELL_HISTSIZE", "\t+025 "), ("RASHELL_MAX_LINE", " 18446744073709551616")])
    let host : Octets → Host := fun _ => ⟨fun _ _ => .ok 1, fun _ => none⟩
    (Accepts (lookup "RASHELL_HISTSIZE") ∧ ¬ Accepts (lookup "RASHELL_MAX_LINE") ∧
      ofLookup lookup = .error (.setting "RASHELL_MAX_LINE" " 18446744073709551616") ∧
      (Report.ofRun host (fun _ => []) lookup (Text.utf8 "pwd\n")).output = []) ∧
    (1 ≤ 2 ^ 64 - 1 ∧ 2 ^ 64 - 1 < 2 ^ 64 ∧
      positiveOr ⟨10, by decide⟩ "RASHELL_HISTSIZE" (some "\u300000018446744073709551615\n") =
        .ok ⟨2 ^ 64 - 1, by omega⟩) ∧
    ofLookup (fun _ => none) = .ok {} ∧
      Ring.ofCapacity? 10 = some (Shell.ofSettings {} ()).history := by
  intro lookup host
  refine ⟨?_, ⟨by omega, by omega, ?_⟩, ?_⟩
  · obtain ⟨-, -, -, herror, -, hrun⟩ := ofLookup_decides lookup
    have hgood : Accepts (lookup "RASHELL_HISTSIZE") :=
      (exists_positiveOr_iff ⟨10, by decide⟩ "RASHELL_HISTSIZE" _).mp ⟨⟨25, by decide⟩, rfl⟩
    have hbad : ¬ Accepts (lookup "RASHELL_MAX_LINE") :=
      ((positiveOr_eq_error_iff ⟨1000, by decide⟩ "RASHELL_MAX_LINE" _
        (.setting "RASHELL_MAX_LINE" " 18446744073709551616")).mp (by decide +kernel)).1
    have hfault := (herror _).mpr (.inr ⟨hgood, hbad, _, rfl, rfl⟩)
    exact ⟨hgood, hbad, hfault, by rw [hrun _ hfault]⟩
  · obtain ⟨-, -, -, -, hdecimal, -⟩ := ofLookup_decides lookup
    have hvalue : String.ofList ['\u3000'] ++ String.ofList (List.replicate 3 '0') ++
        toString (2 ^ 64 - 1) ++ String.ofList ['\n'] = "\u300000018446744073709551615\n" := by
      decide +kernel
    rw [← hvalue]
    exact hdecimal ⟨['\u3000'], List.forall_mem_singleton.mpr rfl⟩
      ⟨['\n'], List.forall_mem_singleton.mpr rfl⟩ 3 _ (by omega) (by omega) _ _
  · obtain ⟨-, hok, hring, -⟩ := ofLookup_decides fun _ => none
    have hunset := (hok {}).mpr ⟨rfl, rfl, rfl⟩
    exact ⟨hunset, hring _ hunset ()⟩

end LineShell.Settings
