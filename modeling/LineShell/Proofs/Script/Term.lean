import LineShell.Proofs.Script.Pieces

/-!
# Trees of calculations

What a calculation comes to, with its effects, and its pieces: it is written with no more
parentheses than the ranks of its operations ask for. Main statement: `Term.reading_false`.
-/

namespace LineShell.Script.Calculation

/-! ## Trees and what they come to -/

/-- The sign of an operation. -/
def sign : Operation → String
  | .mul => "*"
  | .div => "/"
  | .rem => "%"
  | .add => "+"
  | .sub => "-"
  | .shiftLeft => "<<"
  | .shiftRight => ">>"
  | .lt => "<"
  | .le => "<="
  | .gt => ">"
  | .ge => ">="
  | .eq => "=="
  | .ne => "!="
  | .bitAnd => "&"
  | .bitXor => "^"
  | .bitOr => "|"

theorem operation?_sign (op : Operation) : operation? (.sign (sign op)) = some op := by
  cases op <;> rfl

/-- The sign that changes a number, or leaves it as it is. -/
def changeSign : Option Change → String
  | none => "+"
  | some .negate => "-"
  | some .not => "!"
  | some .complement => "~"

/-- The sign that assigns the result of an operation, if there is one. -/
def assigningSign? : Option Operation → Option String
  | none => some "="
  | some .mul => some "*="
  | some .div => some "/="
  | some .rem => some "%="
  | some .add => some "+="
  | some .sub => some "-="
  | some .shiftLeft => some "<<="
  | some .shiftRight => some ">>="
  | some .bitAnd => some "&="
  | some .bitXor => some "^="
  | some .bitOr => some "|="
  | _ => none

theorem assigning?_sign {op : Option Operation} {text : String}
    (h : assigningSign? op = some text) : text ∈ signs ∧ assigning? (.sign text) = some op := by
  rcases op with _ | op
  · cases h
    exact ⟨by decide, rfl⟩
  · cases op <;> cases h <;> exact ⟨by decide, rfl⟩

/-- A calculation. -/
inductive Term where
  | number (n : Nat)
  | name (x : Name)
  | change (how : Option Change) (inner : Term)
  | operation (op : Operation) (first second : Term)
  | both (first second : Term)
  | either (first second : Term)
  | choice (test first second : Term)
  | assign (x : Name) (op : Option Operation) (text : String) (mem : assigningSign? op = some text)
      (inner : Term)

variable {m : Type → Type} [Monad m] (outside : Surroundings m)

namespace Term

/-- What a calculation comes to, with its effects. Of alternatives, conditions and choices only what
is needed is made. -/
def value : Term → m Int64
  | number n => pure (word n)
  | name x => outside.read x.text
  | change how inner => do
    let a ← value inner
    return match how with
      | none => a
      | some how => how.apply a
  | operation op first second => do
    let a ← value first
    let b ← value second
    operate outside false op a b
  | both first second => do
    let a ← value first
    if a = 0 then return 0
    return Operation.truth ((← value second) ≠ 0)
  | either first second => do
    let a ← value first
    if a ≠ 0 then return 1
    return Operation.truth ((← value second) ≠ 0)
  | choice test first second => do
    let a ← value test
    if a ≠ 0 then value first else value second
  | assign x op _ _ inner => do
    let b ← value inner
    let result ←
      match op with
      | none => pure b
      | some op => do operate outside false op (← outside.read x.text) b
    outside.write x.text result
    return result

/-- What a calculation comes to that is made, or only read. -/
def reading : Bool → Term → m Int64
  | _, number n => pure (word n)
  | idle, name x => if idle then pure 0 else outside.read x.text
  | idle, change how inner => do
    let a ← reading idle inner
    return match how with
      | none => a
      | some how => how.apply a
  | idle, operation op first second => do
    let a ← reading idle first
    let b ← reading idle second
    operate outside idle op a b
  | idle, both first second => do
    let a ← reading idle first
    let b ← reading (idle || a = 0) second
    return Operation.truth (a ≠ 0 && b ≠ 0)
  | idle, either first second => do
    let a ← reading idle first
    let b ← reading (idle || a ≠ 0) second
    return Operation.truth (a ≠ 0 || b ≠ 0)
  | idle, choice test first second => do
    let a ← reading idle test
    let b ← reading (idle || a = 0) first
    let c ← reading (idle || a ≠ 0) second
    return if a ≠ 0 then b else c
  | idle, assign x op _ _ inner => do
    let b ← reading idle inner
    if idle then return b
    let result ←
      match op with
      | none => pure b
      | some op => do operate outside false op (← outside.read x.text) b
    outside.write x.text result
    return result

variable [LawfulMonad m]

/-- What is only read has no effects. -/
theorem exists_reading_true (t : Term) : ∃ a, reading outside true t = pure a := by
  induction t with
  | number n => exact ⟨_, rfl⟩
  | name x => exact ⟨_, rfl⟩
  | change how inner ih =>
      obtain ⟨a, ha⟩ := ih
      rw [reading, ha, pure_bind]
      exact ⟨_, rfl⟩
  | operation op first second ih ih' =>
      obtain ⟨a, ha⟩ := ih
      obtain ⟨b, hb⟩ := ih'
      rw [reading, ha, pure_bind, hb, pure_bind]
      exact ⟨_, rfl⟩
  | both first second ih ih' =>
      obtain ⟨a, ha⟩ := ih
      obtain ⟨b, hb⟩ := ih'
      rw [reading, ha, pure_bind, Bool.true_or, hb, pure_bind]
      exact ⟨_, rfl⟩
  | either first second ih ih' =>
      obtain ⟨a, ha⟩ := ih
      obtain ⟨b, hb⟩ := ih'
      rw [reading, ha, pure_bind, Bool.true_or, hb, pure_bind]
      exact ⟨_, rfl⟩
  | choice test first second ih ih' ih'' =>
      obtain ⟨a, ha⟩ := ih
      obtain ⟨b, hb⟩ := ih'
      obtain ⟨c, hc⟩ := ih''
      rw [reading, ha, pure_bind, Bool.true_or, hb, pure_bind, Bool.true_or, hc, pure_bind]
      exact ⟨_, rfl⟩
  | assign x op text mem inner ih =>
      obtain ⟨b, hb⟩ := ih
      rw [reading, hb, pure_bind, if_pos rfl]
      exact ⟨_, rfl⟩

/-- What is made comes to the value. -/
theorem reading_false (t : Term) : reading outside false t = value outside t := by
  induction t with
  | number n => rfl
  | name x => rfl
  | change how inner ih => rw [reading, value, ih]
  | operation op first second ih ih' => rw [reading, value, ih, ih']
  | both first second ih ih' =>
      obtain ⟨b, hb⟩ := exists_reading_true outside second
      rw [reading, value, ih]
      refine bind_congr fun a => ?_
      by_cases ha : a = 0
      · rw [decide_eq_true ha, decide_eq_false (not_not_intro ha), Bool.or_true, hb, pure_bind,
          if_pos ha]
        rfl
      · rw [decide_eq_false ha, decide_eq_true (p := a ≠ 0) ha, Bool.or_false, ih', if_neg ha]
        rfl
  | either first second ih ih' =>
      obtain ⟨b, hb⟩ := exists_reading_true outside second
      rw [reading, value, ih]
      refine bind_congr fun a => ?_
      by_cases ha : a = 0
      · rw [decide_eq_false (not_not_intro ha), Bool.or_false, ih', if_neg (not_not_intro ha)]
        rfl
      · rw [decide_eq_true (p := a ≠ 0) ha, Bool.or_true, hb, pure_bind, if_pos ha]
        rfl
  | choice test first second ih ih' ih'' =>
      obtain ⟨b, hb⟩ := exists_reading_true outside first
      obtain ⟨c, hc⟩ := exists_reading_true outside second
      rw [reading, value, ih]
      refine bind_congr fun a => ?_
      by_cases ha : a = 0
      · rw [decide_eq_true ha, decide_eq_false (not_not_intro ha), Bool.or_true, Bool.or_false, hb,
          pure_bind, ih'', if_neg (not_not_intro ha)]
        simp only [if_neg (not_not_intro ha), bind_pure]
      · rw [decide_eq_false ha, decide_eq_true (p := a ≠ 0) ha, Bool.or_true, Bool.or_false, ih',
          hc]
        simp only [pure_bind, if_pos ha, bind_pure]
  | assign x op text mem inner ih =>
      rw [reading, value, ih]
      refine bind_congr fun b => ?_
      rw [if_neg Bool.false_ne_true]

end Term

/-! ## Writing trees -/

theorem sign_mem (op : Operation) : sign op ∈ signs := by
  cases op <;> decide

theorem changeSign_mem (how : Option Change) : changeSign how ∈ signs := by
  rcases how with _ | how
  · decide
  · cases how <;> decide

/-- The pieces of a calculation of a rank where one of another rank is needed. -/
def enclose (needed rank : Nat) (ts : List Token) : List Token :=
  if needed ≤ rank then ts else .opening :: ts ++ [.closing]

theorem length_le_length_enclose (needed rank : Nat) (ts : List Token) :
    ts.length ≤ (enclose needed rank ts).length := by
  rw [enclose]
  split
  · exact Nat.le_refl _
  · rw [List.length_append, List.length_cons]
    omega

namespace Term

/-- How closely a calculation is held together; the closer, the greater. -/
def rank : Term → Nat
  | assign .. => 0
  | choice .. => 1
  | either .. => 2
  | both .. => 3
  | operation op _ _ => op.rank + 3
  | _ => 12

/-- The pieces of a calculation, in parentheses only where it would be another one without. -/
def tokens : Term → List Token
  | number n => [.number n]
  | name x => [.name x]
  | change how inner => .sign (changeSign how) (changeSign_mem how) ::
      enclose 12 inner.rank inner.tokens
  | operation op first second =>
      enclose (op.rank + 3) first.rank first.tokens ++
        .sign (sign op) (sign_mem op) :: enclose (op.rank + 4) second.rank second.tokens
  | both first second =>
      enclose 4 first.rank first.tokens ++
        .conjunction :: enclose 3 second.rank second.tokens
  | either first second =>
      enclose 3 first.rank first.tokens ++
        .alternative :: enclose 2 second.rank second.tokens
  | choice test first second =>
      enclose 2 test.rank test.tokens ++ .question ::
        (enclose 0 first.rank first.tokens ++ .colon :: enclose 1 second.rank second.tokens)
  | assign x _ text mem inner =>
      .name x :: .sign text (assigning?_sign mem).1 :: enclose 0 inner.rank inner.tokens

/-- The number of calculations in one, and of places where one may be in parentheses. -/
def size : Term → Nat
  | number _ => 1
  | name _ => 1
  | change _ inner => inner.size + 2
  | operation _ first second => (first.size + 1) + (second.size + 1) + 1
  | both first second => (first.size + 1) + (second.size + 1) + 1
  | either first second => (first.size + 1) + (second.size + 1) + 1
  | choice test first second => (test.size + 1) + ((first.size + 1) + (second.size + 1)) + 1
  | assign _ _ _ _ inner => inner.size + 2

end Term

end LineShell.Script.Calculation
