import LineShell.Proofs.Script.Term
import LineShell.Script.Expansion

/-!
# Calculations come to what their trees say

A calculation is made while its text is read, and comes to what its tree says, with the same effects
in the same order. Main statements: `result_write`, `calculate_write`.
-/

namespace LineShell.Script.Calculation

/-! ## Reading pieces -/

/-- How closely the calculations may at most be held together that a piece behind them goes on with.
No calculation may stand before a sign that assigns. -/
def strength (p : Piece) : Nat :=
  if (assigning? p).isSome then 13
  else match operation? p with
    | some op => op.rank + 3
    | none =>
      if p = .sign "&&" then 3
      else if p = .sign "||" then 2
      else if p = .sign "?" then 1
      else 0

theorem strength_sign (op : Operation) : strength (.sign (sign op)) = op.rank + 3 := by
  cases op <;> rfl

variable {m : Type → Type} [Monad m] {outside : Surroundings m}

/-- Reads a calculation that is held together at least as closely as a rank says. -/
def read (outside : Surroundings m) (rank steps : Nat) (idle : Bool) (p : Place) :
    m (Int64 × Place) :=
  match rank with
  | 0 => whole outside steps idle p
  | 1 => choosing outside steps idle p
  | 2 => either outside steps idle p
  | 3 => both outside steps idle p
  | rank + 4 => do
    let (first, p) ← operand outside steps idle p
    operations outside steps idle rank first p

/-- In enough steps, pieces are read as a calculation of a rank, whatever stands behind them that
does not go on with it. -/
def Reads (outside : Surroundings m) (rank : Nat) (ts : List Token) (result : Bool → m Int64)
    (size : Nat) : Prop :=
  ∀ steps idle rest, 10 * size ≤ steps + min rank 4 →
    strength (Place.of rest).piece < max rank 1 →
      read outside rank steps idle (Place.of (ts ++ rest)) =
        result idle >>= fun a => pure (a, Place.of rest)

/-- In enough steps, pieces are read as an operand, whatever stands behind them. -/
def ReadsOperand (outside : Surroundings m) (ts : List Token) (result : Bool → m Int64)
    (size : Nat) : Prop :=
  ∀ steps idle rest, 10 * size ≤ steps + 4 →
    operand outside steps idle (Place.of (ts ++ rest)) =
      result idle >>= fun a => pure (a, Place.of rest)

/-- In enough steps, pieces are read as the first operands of a chain of operations, which goes on
behind them. -/
def ReadsChain (outside : Surroundings m) (rank : Nat) (ts : List Token) (result : Bool → m Int64)
    (size : Nat) : Prop :=
  ∀ floor steps idle rest, floor + 4 ≤ rank → 10 * size ≤ steps + 4 →
    strength (Place.of rest).piece ≤ rank →
      ∃ steps', steps ≤ steps' + size ∧
        read outside (floor + 4) steps idle (Place.of (ts ++ rest)) =
          result idle >>= fun a => operations outside steps' idle floor a (Place.of rest)

/-- Pieces do not begin as an assignment does, unless what stands behind them goes on so. -/
def Starts (ts : List Token) : Prop :=
  ∀ rest, assigning? (Place.of rest).piece = none →
    ∀ x, (Place.of (ts ++ rest)).piece = .name x →
      assigning? (Place.of (ts ++ rest)).next.piece = none

/-- Pieces are read as a calculation of a rank wherever one may stand. -/
structure Readable (outside : Surroundings m) (rank : Nat) (ts : List Token)
    (result : Bool → m Int64) (size : Nat) : Prop where
  starts : 1 ≤ rank → Starts ts
  reads : ∀ needed ≤ rank, Reads outside needed ts result size
  chain : 4 ≤ rank → ReadsChain outside rank ts result size
  operand : 12 ≤ rank → ReadsOperand outside ts result size

variable {rank needed size : Nat} {ts : List Token} {result : Bool → m Int64}

theorem assigning?_eq_none_of_strength {p : Piece} (h : strength p < 13) : assigning? p = none := by
  rw [strength] at h
  split at h
  · omega
  · rename_i hnone
    exact Option.not_isSome_iff_eq_none.mp hnone

/-- What does not begin as an assignment is none. -/
theorem whole_eq_choosing {p : Place} (h : ∀ x, p.piece = .name x → assigning? p.next.piece = none)
    (steps : Nat) (idle : Bool) :
    whole outside (steps + 1) idle p = choosing outside steps idle p := by
  rw [whole.eq_def]
  dsimp only
  split
  · rename_i x op hx hop
    rw [h x hx] at hop
    cases hop
  · rfl

theorem whole_of_assigning {p : Place} {x : Octets} {op : Option Operation}
    (hname : p.piece = .name x) (hop : assigning? p.next.piece = some op) (steps : Nat)
    (idle : Bool) : whole outside (steps + 1) idle p = do
      let (b, q) ← whole outside steps idle p.next.next
      if idle then return (b, q)
      let result ←
        match op with
        | none => pure b
        | some op => do operate outside false op (← outside.read x) b
      outside.write x result
      return (result, q) := by
  rw [whole.eq_def]
  dsimp only
  split
  · rename_i hname' hop'
    obtain rfl := Piece.name.inj (hname.symm.trans hname')
    obtain rfl := Option.some.inj (hop.symm.trans hop')
    rfl
  · rename_i hother
    exact (hother x op hname hop).elim

theorem operationRank_bounds (op : Operation) : 0 < op.rank ∧ op.rank < 9 := by
  cases op <;> decide

theorem rank_le_strength {p : Piece} {op : Operation} (h : operation? p = some op) :
    op.rank + 3 ≤ strength p := by
  rw [strength]
  split
  · cases op <;> decide
  · exact Nat.le_of_eq (by rw [h])

/-- Operations end at a piece that does not go on with them. -/
theorem operations_stop {floor : Nat} {p : Place} (h : strength p.piece < floor + 4)
    (steps : Nat) (idle : Bool) (a : Int64) :
    operations outside (steps + 1) idle floor a p = pure (a, p) := by
  rw [operations]
  split
  · rfl
  · rename_i op hop
    have := rank_le_strength hop
    exact if_pos (by omega)

/-- What begins a chain is a calculation of each rank up to that of the chain. -/
theorem ReadsChain.reads (h : ReadsChain outside rank ts result size) {floor : Nat}
    (hfloor : floor + 4 ≤ rank) (hsize : 0 < size) :
    Reads outside (floor + 4) ts result size := by
  intro steps idle rest hsteps hstrength
  obtain ⟨steps', hsteps', hread⟩ := h floor steps idle rest hfloor (by omega) (by omega)
  obtain ⟨steps', rfl⟩ := Nat.exists_eq_add_of_le' (show 1 ≤ steps' by omega)
  rw [hread]
  refine bind_congr fun a => ?_
  exact operations_stop (by omega) steps' idle a

/-- A calculation may stand where one is needed that is held together less closely. -/
theorem Readable.mono (h : Readable outside rank ts result size) (hneeded : needed ≤ rank)
    {size' : Nat} (hsize : size ≤ size') : Readable outside needed ts result size' where
  starts hlow := h.starts (Nat.le_trans hlow hneeded)
  reads needed' hneeded' steps idle rest hsteps :=
    h.reads needed' (Nat.le_trans hneeded' hneeded) steps idle rest (by omega)
  chain hlow floor steps idle rest hfloor hsteps hstrength := by
    obtain ⟨steps', hsteps', hread⟩ := h.chain (Nat.le_trans hlow hneeded) floor steps idle rest
      (Nat.le_trans hfloor hneeded) (by omega) (Nat.le_trans hstrength hneeded)
    exact ⟨steps', by omega, hread⟩
  operand hhigh steps idle rest hsteps :=
    h.operand (Nat.le_trans hhigh hneeded) steps idle rest (by omega)

theorem operand_of_number {p : Place} {n : Int64} (h : p.piece = .number n) (steps : Nat)
    (idle : Bool) : operand outside (steps + 1) idle p = pure (n, p.next) := by
  obtain ⟨piece, behind⟩ := p
  obtain rfl : piece = _ := h
  rfl

theorem operand_of_name {p : Place} {x : Octets} (h : p.piece = .name x) (steps : Nat)
    (idle : Bool) : operand outside (steps + 1) idle p = do
      let a ← if idle then pure 0 else outside.read x
      return (a, p.next) := by
  obtain ⟨piece, behind⟩ := p
  obtain rfl : piece = _ := h
  rfl

theorem operand_of_opening {p : Place} (h : p.piece = .sign "(") (steps : Nat) (idle : Bool) :
    operand outside (steps + 1) idle p = do
      let (inner, p) ← whole outside steps idle p.next
      if p.piece = .sign ")" then return (inner, p.next)
      else return (← outside.wrong "expecting ')'", p) := by
  obtain ⟨piece, behind⟩ := p
  obtain rfl : piece = _ := h
  rfl

theorem operand_of_plus {p : Place} (h : p.piece = .sign "+") (steps : Nat) (idle : Bool) :
    operand outside (steps + 1) idle p = operand outside steps idle p.next := by
  obtain ⟨piece, behind⟩ := p
  obtain rfl : piece = _ := h
  rfl

theorem operand_of_change {p : Place} {how : Change}
    (h : p.piece = .sign (changeSign (some how))) (steps : Nat) (idle : Bool) :
    operand outside (steps + 2) idle p = do
      let (inner, p) ← operand outside steps idle p.next
      return (how.apply inner, p) := by
  obtain ⟨piece, behind⟩ := p
  obtain rfl : piece = _ := h
  cases how <;> rfl

theorem ReadsOperand.name (x : Name) :
    ReadsOperand outside [.name x] (fun idle => if idle then pure 0 else outside.read x.text)
      1 := by
  intro steps idle rest hsteps
  obtain ⟨steps, rfl⟩ := Nat.exists_eq_add_of_le' (show 1 ≤ steps by omega)
  obtain ⟨hpiece, hnext⟩ := Place.piece_of_cons (.name x) rest
  rw [List.singleton_append, operand_of_name hpiece, hnext]
  cases idle <;> rfl

variable [LawfulMonad m]

/-- A calculation begins with one that is held together more closely, and ends with it unless the
piece behind goes on with it. -/
theorem exists_read_eq_bind (outside : Surroundings m) (hlow : 1 ≤ rank) (hhigh : rank < 4)
    (steps : Nat) (idle : Bool) (p : Place) : ∃ go : Int64 × Place → m (Int64 × Place),
      read outside rank (steps + 1) idle p = read outside (rank + 1) steps idle p >>= go ∧
        ∀ a q, strength q.piece < rank → go (a, q) = pure (a, q) := by
  have hpiece {q : Place} {sign : String} (hq : strength q.piece < strength (.sign sign)) :
      q.piece ≠ .sign sign := fun heq => Nat.lt_irrefl _ (heq ▸ hq)
  obtain rfl | rfl | rfl : rank = 1 ∨ rank = 2 ∨ rank = 3 := by omega
  · rw [read, choosing]
    exact ⟨_, rfl, fun a q hq => if_pos (hpiece hq)⟩
  · rw [read, Calculation.either]
    exact ⟨_, rfl, fun a q hq => if_pos (hpiece hq)⟩
  · rw [read, Calculation.both, read]
    exact ⟨_, (bind_assoc _ _ _).symm, fun a q hq => if_pos (hpiece hq)⟩

/-- What is read as a calculation of the next rank is read as one of this rank. -/
theorem Reads.of_succ (h : Reads outside (rank + 1) ts result size) (hrank : rank < 4)
    (hstarts : Starts ts) (hsize : 0 < size) : Reads outside rank ts result size := by
  intro steps idle rest hsteps hstrength
  obtain ⟨steps, rfl⟩ := Nat.exists_eq_add_of_le' (show 1 ≤ steps by omega)
  have hnext := h steps idle rest (by omega) (by omega)
  rcases Nat.eq_zero_or_pos rank with rfl | hlow
  · have hassigning := hstarts rest (assigning?_eq_none_of_strength (by omega))
    rw [← hnext]
    exact whole_eq_choosing hassigning steps idle
  · obtain ⟨go, hgo, hstop⟩ :=
      exists_read_eq_bind outside hlow hrank steps idle (Place.of (ts ++ rest))
    rw [hgo, hnext, bind_assoc]
    refine bind_congr fun a => ?_
    rw [pure_bind, hstop _ _ (by omega)]

theorem Reads.of_le (h : Reads outside rank ts result size) (hrank : rank ≤ 4)
    (hstarts : 1 ≤ rank → Starts ts) (hsize : 0 < size) :
    ∀ needed ≤ rank, Reads outside needed ts result size := by
  induction rank with
  | zero =>
      intro needed hneeded
      rwa [Nat.le_zero.mp hneeded]
  | succ rank ih =>
      intro needed hneeded
      rcases Nat.le_or_eq_of_le_succ hneeded with hneeded | rfl
      · have hstarts := hstarts (Nat.le_add_left 1 rank)
        exact ih (h.of_succ hrank hstarts hsize) (Nat.le_of_succ_le hrank) (fun _ => hstarts)
          needed hneeded
      · exact h

/-- An operand begins a chain of any operations. -/
theorem ReadsOperand.chain (h : ReadsOperand outside ts result size) (rank : Nat) :
    ReadsChain outside rank ts result size := by
  intro floor steps idle rest hfloor hsteps hstrength
  refine ⟨steps, Nat.le_add_right _ _, ?_⟩
  rw [read, h steps idle rest hsteps, bind_assoc]
  refine bind_congr fun a => ?_
  rw [pure_bind]

namespace Readable

theorem of_chain (h : ReadsChain outside rank ts result size) (hrank : 4 ≤ rank)
    (hoperand : 12 ≤ rank → ReadsOperand outside ts result size) (hstarts : Starts ts)
    (hsize : 0 < size) : Readable outside rank ts result size where
  starts _ := hstarts
  reads needed hneeded := by
    rcases Nat.lt_or_ge needed 4 with hlow | hhigh
    · have hfirst : Reads outside 4 ts result size := h.reads hrank hsize
      exact hfirst.of_le (Nat.le_refl 4) (fun _ => hstarts) hsize needed (Nat.le_of_lt hlow)
    · obtain ⟨floor, rfl⟩ := Nat.exists_eq_add_of_le' hhigh
      exact h.reads hneeded hsize
  chain _ := h
  operand := hoperand

theorem of_operand (h : ReadsOperand outside ts result size) (hstarts : Starts ts)
    (hsize : 0 < size) : Readable outside 12 ts result size :=
  of_chain (h.chain 12) (by decide) (fun _ => h) hstarts hsize

theorem of_reads (h : Reads outside rank ts result size) (hrank : rank < 4)
    (hstarts : 1 ≤ rank → Starts ts) (hsize : 0 < size) :
    Readable outside rank ts result size where
  starts := hstarts
  reads := h.of_le (Nat.le_of_lt hrank) hstarts hsize
  chain hlow := absurd hrank (Nat.not_lt.mpr hlow)
  operand hlow := absurd hrank (by omega)

/-- In parentheses a calculation is an operand. -/
theorem parenthesized (h : Readable outside rank ts result size) :
    Readable outside 12 (.opening :: ts ++ [.closing]) result (size + 1) := by
  have hlist (rest : List Token) : .opening :: ts ++ [.closing] ++ rest =
      Token.opening :: (ts ++ .closing :: rest) := by
    rw [List.cons_append, List.cons_append, List.append_assoc, List.singleton_append]
  refine of_operand (fun steps idle rest hsteps => ?_) (fun rest _ x hx => ?_)
    (Nat.succ_pos size)
  · obtain ⟨hopen, hinner⟩ := Place.piece_of_cons .opening (ts ++ .closing :: rest)
    obtain ⟨hclose, hbehind⟩ := Place.piece_of_cons .closing rest
    obtain ⟨steps, rfl⟩ := Nat.exists_eq_add_of_le' (show 1 ≤ steps by omega)
    have hread : whole outside steps idle _ = _ :=
      h.reads 0 (Nat.zero_le rank) steps idle (.closing :: rest) (by omega) (by
        rw [hclose]
        decide)
    rw [hlist, operand_of_opening hopen, hinner, hread, bind_assoc]
    refine bind_congr fun a => ?_
    rw [pure_bind]
    dsimp only
    rw [hclose, hbehind]
    exact if_pos rfl
  · rw [hlist, (Place.piece_of_cons _ _).1] at hx
    cases hx

/-- A calculation may stand wherever one is needed, if need be in parentheses. -/
theorem enclosed (h : Readable outside rank ts result size) (hneeded : needed ≤ 12) :
    Readable outside needed (enclose needed rank ts) result (size + 1) := by
  rw [enclose]
  split
  · rename_i hrank
    exact h.mono hrank (Nat.le_add_right size 1)
  · exact h.parenthesized.mono hneeded (Nat.le_refl _)

end Readable

/-! ## Putting calculations together -/

theorem starts_cons {t : Token} (h : ∀ x, t.piece ≠ .name x) (ts : List Token) :
    Starts (t :: ts) := by
  intro rest _ x hx
  rw [List.cons_append, (Place.piece_of_cons _ _).1] at hx
  exact absurd hx (h x)

theorem starts_name (x : Name) : Starts [.name x] := by
  intro rest hrest _ _
  rw [List.cons_append, (Place.piece_of_cons _ _).2]
  exact hrest

theorem Starts.append {t : Token} (h : Starts ts) (ht : assigning? t.piece = none)
    (us : List Token) : Starts (ts ++ t :: us) := by
  intro rest _
  rw [List.append_assoc, List.cons_append]
  exact h _ (by rwa [(Place.piece_of_cons _ _).1])

variable {first second third : Bool → m Int64} {ts us vs : List Token} {size₁ size₂ size₃ : Nat}

theorem operations_of_operation {p : Place} {op : Operation} {floor : Nat}
    (h : operation? p.piece = some op) (hfloor : floor < op.rank) (steps : Nat) (idle : Bool)
    (a : Int64) : operations outside (steps + 1) idle floor a p =
      read outside (op.rank + 4) steps idle p.next >>= fun (b, q) =>
        operate outside idle op a b >>= fun c => operations outside steps idle floor c q := by
  rw [operations, h]
  dsimp only
  rw [if_neg (Nat.not_le.mpr hfloor), read, bind_assoc]

/-- An operation takes the chain before it, and the closer one behind it. -/
theorem ReadsChain.operation {op : Operation}
    (h₁ : ReadsChain outside (op.rank + 3) ts first size₁)
    (h₂ : ReadsChain outside (op.rank + 4) us second size₂) :
    ReadsChain outside (op.rank + 3) (ts ++ .sign (sign op) (sign_mem op) :: us)
      (fun idle => do
        let a ← first idle
        let b ← second idle
        operate outside idle op a b)
      (size₁ + size₂ + 1) := by
  intro floor steps idle rest hfloor hsteps hstrength
  obtain ⟨hpiece, hnext⟩ :=
    Place.piece_of_cons (.sign (sign op) (sign_mem op)) (us ++ rest)
  have hoperation : operation? (Place.of (.sign (sign op) (sign_mem op) :: (us ++ rest))).piece =
      some op := by
    rw [hpiece]
    exact operation?_sign op
  obtain ⟨steps₁, hsteps₁, hread₁⟩ :=
    h₁ floor steps idle (.sign (sign op) (sign_mem op) :: (us ++ rest)) hfloor (by omega) (by
      rw [hpiece]
      exact Nat.le_of_eq (strength_sign op))
  obtain ⟨steps₁, rfl⟩ := Nat.exists_eq_add_of_le' (show 1 ≤ steps₁ by omega)
  obtain ⟨steps₂, hsteps₂, hread₂⟩ :=
    h₂ op.rank steps₁ idle rest (Nat.le_refl _) (by omega) (by omega)
  obtain ⟨steps₂, rfl⟩ := Nat.exists_eq_add_of_le' (show 1 ≤ steps₂ by omega)
  refine ⟨steps₁, by omega, ?_⟩
  rw [List.append_assoc, List.cons_append, hread₁, bind_assoc]
  refine bind_congr fun a => ?_
  rw [operations_of_operation hoperation (by omega), hnext, hread₂, bind_assoc, bind_assoc]
  refine bind_congr fun b => ?_
  rw [operations_stop (by omega), pure_bind]

/-- Conditions that have to hold together are read one after the other. -/
theorem Reads.both (h₁ : Reads outside 4 ts first size₁) (h₂ : Reads outside 3 us second size₂) :
    Reads outside 3 (ts ++ .conjunction :: us)
      (fun idle => do
        let a ← first idle
        let b ← second (idle || a = 0)
        return Operation.truth (a ≠ 0 && b ≠ 0))
      (size₁ + size₂ + 1) := by
  intro steps idle rest hsteps hstrength
  obtain ⟨steps, rfl⟩ := Nat.exists_eq_add_of_le' (show 1 ≤ steps by omega)
  obtain ⟨hpiece, hnext⟩ : (Place.of (.conjunction :: (us ++ rest))).piece = .sign "&&" ∧ _ :=
    Place.piece_of_cons .conjunction (us ++ rest)
  have hread₁ := h₁ steps idle (.conjunction :: (us ++ rest)) (by omega) (by
    rw [hpiece]
    decide)
  rw [List.append_assoc, List.cons_append, read, Calculation.both, ← bind_assoc]
  change read outside 4 steps idle _ >>= _ = _
  rw [hread₁, bind_assoc, bind_assoc]
  refine bind_congr fun a => ?_
  have hread₂ : Calculation.both outside steps (idle || a = 0) _ = _ :=
    h₂ steps (idle || a = 0) rest (by omega) hstrength
  rw [pure_bind]
  dsimp only
  rw [if_neg (not_not_intro hpiece), hnext, hread₂, bind_assoc, bind_assoc]
  refine bind_congr fun b => ?_
  rw [pure_bind, pure_bind]

/-- Alternatives are read one after the other. -/
theorem Reads.either (h₁ : Reads outside 3 ts first size₁) (h₂ : Reads outside 2 us second size₂) :
    Reads outside 2 (ts ++ .alternative :: us)
      (fun idle => do
        let a ← first idle
        let b ← second (idle || a ≠ 0)
        return Operation.truth (a ≠ 0 || b ≠ 0))
      (size₁ + size₂ + 1) := by
  intro steps idle rest hsteps hstrength
  obtain ⟨steps, rfl⟩ := Nat.exists_eq_add_of_le' (show 1 ≤ steps by omega)
  obtain ⟨hpiece, hnext⟩ : (Place.of (.alternative :: (us ++ rest))).piece = .sign "||" ∧ _ :=
    Place.piece_of_cons .alternative (us ++ rest)
  have hread₁ : Calculation.both outside steps idle _ = _ :=
    h₁ steps idle (.alternative :: (us ++ rest)) (by omega) (by
      rw [hpiece]
      decide)
  rw [List.append_assoc, List.cons_append, read, Calculation.either, hread₁, bind_assoc, bind_assoc]
  refine bind_congr fun a => ?_
  have hread₂ : Calculation.either outside steps (idle || a ≠ 0) _ = _ :=
    h₂ steps (idle || a ≠ 0) rest (by omega) hstrength
  rw [pure_bind]
  dsimp only
  rw [if_neg (not_not_intro hpiece), hnext, hread₂, bind_assoc, bind_assoc]
  refine bind_congr fun b => ?_
  rw [pure_bind, pure_bind]

/-- A choice is read through; what is chosen is made. -/
theorem Reads.choice (h₁ : Reads outside 2 ts first size₁) (h₂ : Reads outside 0 us second size₂)
    (h₃ : Reads outside 1 vs third size₃) :
    Reads outside 1 (ts ++ .question :: (us ++ .colon :: vs))
      (fun idle => do
        let a ← first idle
        let b ← second (idle || a = 0)
        let c ← third (idle || a ≠ 0)
        return if a ≠ 0 then b else c)
      (size₁ + (size₂ + size₃) + 1) := by
  intro steps idle rest hsteps hstrength
  obtain ⟨steps, rfl⟩ := Nat.exists_eq_add_of_le' (show 1 ≤ steps by omega)
  obtain ⟨hquestion, hinner⟩ :
      (Place.of (.question :: (us ++ .colon :: (vs ++ rest)))).piece = .sign "?" ∧ _ :=
    Place.piece_of_cons .question (us ++ .colon :: (vs ++ rest))
  obtain ⟨hcolon, hlast⟩ : (Place.of (.colon :: (vs ++ rest))).piece = .sign ":" ∧ _ :=
    Place.piece_of_cons .colon (vs ++ rest)
  have hread₁ : Calculation.either outside steps idle _ = _ :=
    h₁ steps idle (.question :: (us ++ .colon :: (vs ++ rest))) (by omega) (by
      rw [hquestion]
      decide)
  rw [List.append_assoc, List.cons_append, List.append_assoc, List.cons_append, read, choosing,
    hread₁, bind_assoc, bind_assoc]
  refine bind_congr fun a => ?_
  have hread₂ : whole outside steps (idle || a = 0) _ = _ :=
    h₂ steps (idle || a = 0) (.colon :: (vs ++ rest)) (by omega) (by
      rw [hcolon]
      decide)
  have hread₃ : choosing outside steps (idle || a ≠ 0) _ = _ :=
    h₃ steps (idle || a ≠ 0) rest (by omega) hstrength
  rw [pure_bind]
  dsimp only
  rw [if_neg (not_not_intro hquestion), hinner, hread₂, bind_assoc, bind_assoc]
  refine bind_congr fun b => ?_
  rw [pure_bind]
  dsimp only
  rw [if_neg (not_not_intro hcolon), hlast, hread₃, bind_assoc, bind_assoc]
  refine bind_congr fun c => ?_
  rw [pure_bind, pure_bind]

/-- An assignment gives the value behind its sign, unless it is only read. -/
theorem Reads.assign (x : Name) {op : Option Operation} {text : String}
    (mem : assigningSign? op = some text) (h : Reads outside 0 ts first size₁) :
    Reads outside 0 (.name x :: .sign text (assigning?_sign mem).1 :: ts)
      (fun idle => do
        let b ← first idle
        if idle then return b
        let result ←
          match op with
          | none => pure b
          | some op => do operate outside false op (← outside.read x.text) b
        outside.write x.text result
        return result)
      (size₁ + 1) := by
  intro steps idle rest hsteps hstrength
  obtain ⟨steps, rfl⟩ := Nat.exists_eq_add_of_le' (show 1 ≤ steps by omega)
  obtain ⟨hpiece, hnext⟩ := Place.piece_of_cons (.name x)
    (.sign text (assigning?_sign mem).1 :: (ts ++ rest))
  obtain ⟨hassign, hinner⟩ := Place.piece_of_cons (.sign text (assigning?_sign mem).1) (ts ++ rest)
  have hop : assigning? (Place.of (.name x :: .sign text (assigning?_sign mem).1 ::
      (ts ++ rest))).next.piece = some op := by
    rw [hnext, hassign]
    exact (assigning?_sign mem).2
  have hread : whole outside steps idle _ = _ := h steps idle rest (by omega) hstrength
  rw [List.cons_append, List.cons_append, read, whole_of_assigning hpiece hop, hnext, hinner,
    hread, bind_assoc, bind_assoc]
  refine bind_congr fun b => ?_
  rw [pure_bind]
  cases idle with
  | true =>
      rw [if_pos rfl, pure_bind]
      rfl
  | false =>
      dsimp only
      rw [if_neg Bool.false_ne_true, if_neg Bool.false_ne_true]
      cases op <;> simp only [bind_assoc, pure_bind]

theorem ReadsOperand.number (n : Nat) :
    ReadsOperand outside [.number n] (fun _ => pure (word n)) 1 := by
  intro steps idle rest hsteps
  obtain ⟨steps, rfl⟩ := Nat.exists_eq_add_of_le' (show 1 ≤ steps by omega)
  obtain ⟨hpiece, hnext⟩ := Place.piece_of_cons (.number n) rest
  rw [List.singleton_append, operand_of_number hpiece, hnext, pure_bind]

theorem ReadsOperand.change (how : Option Change) (h : ReadsOperand outside ts first size₁) :
    ReadsOperand outside (.sign (changeSign how) (changeSign_mem how) :: ts)
      (fun idle => do
        let a ← first idle
        return match how with
          | none => a
          | some how => how.apply a)
      (size₁ + 1) := by
  intro steps idle rest hsteps
  obtain ⟨steps, rfl⟩ := Nat.exists_eq_add_of_le' (show 2 ≤ steps by omega)
  obtain ⟨hpiece, hnext⟩ :=
    Place.piece_of_cons (.sign (changeSign how) (changeSign_mem how)) (ts ++ rest)
  rw [List.cons_append]
  cases how with
  | none =>
      rw [operand_of_plus hpiece, hnext, h (steps + 1) idle rest (by omega)]
      dsimp only
      rw [bind_pure]
  | some how =>
      rw [operand_of_change hpiece, hnext, h steps idle rest (by omega), bind_assoc, bind_assoc]
      refine bind_congr fun a => ?_
      rw [pure_bind, pure_bind]

/-! ## Whole calculations -/

namespace Term

/-- Each calculation is read as one of its rank. -/
theorem readable (t : Term) : Readable outside t.rank t.tokens (t.reading outside ·) t.size := by
  induction t with
  | number n =>
      exact .of_operand (.number n) (starts_cons (fun _ => Piece.noConfusion) []) Nat.one_pos
  | name x => exact .of_operand (.name x) (starts_name x) Nat.one_pos
  | change how inner ih =>
      have hinner := (ih.enclosed (Nat.le_refl 12)).operand (Nat.le_refl 12)
      exact .of_operand (hinner.change how) (starts_cons (fun _ => Piece.noConfusion) _)
        (Nat.succ_pos _)
  | operation op first second ih ih' =>
      have hrank : (operation op first second).rank = op.rank + 3 := rfl
      obtain ⟨hpos, hlow⟩ := operationRank_bounds op
      have hfirst := ih.enclosed (show op.rank + 3 ≤ 12 by omega)
      have hsecond := ih'.enclosed (show op.rank + 4 ≤ 12 by omega)
      have hchain := (hfirst.chain (by omega)).operation (hsecond.chain (by omega))
      exact .of_chain hchain (by omega) (fun hhigh => absurd hlow (by omega))
        ((hfirst.starts (by omega)).append (by cases op <;> rfl) _) (Nat.succ_pos _)
  | both first second ih ih' =>
      have hfirst := ih.enclosed (show 4 ≤ 12 by decide)
      have hsecond := ih'.enclosed (show 3 ≤ 12 by decide)
      have hreads := (hfirst.reads 4 (Nat.le_refl 4)).both (hsecond.reads 3 (Nat.le_refl 3))
      exact .of_reads hreads (show 3 < 4 by decide)
        (fun _ => (hfirst.starts (by decide)).append rfl _) (Nat.succ_pos _)
  | either first second ih ih' =>
      have hfirst := ih.enclosed (show 3 ≤ 12 by decide)
      have hsecond := ih'.enclosed (show 2 ≤ 12 by decide)
      have hreads := (hfirst.reads 3 (Nat.le_refl 3)).either (hsecond.reads 2 (Nat.le_refl 2))
      exact .of_reads hreads (show 2 < 4 by decide)
        (fun _ => (hfirst.starts (by decide)).append rfl _) (Nat.succ_pos _)
  | choice test first second ih ih' ih'' =>
      have htest := ih.enclosed (show 2 ≤ 12 by decide)
      have hfirst := ih'.enclosed (show 0 ≤ 12 by decide)
      have hsecond := ih''.enclosed (show 1 ≤ 12 by decide)
      have hreads := (htest.reads 2 (Nat.le_refl 2)).choice (hfirst.reads 0 (Nat.le_refl 0))
        (hsecond.reads 1 (Nat.le_refl 1))
      exact .of_reads hreads (show 1 < 4 by decide)
        (fun _ => (htest.starts (by decide)).append rfl _) (Nat.succ_pos _)
  | assign x op text mem inner ih =>
      have hinner := ih.enclosed (show 0 ≤ 12 by decide)
      have hreads := Reads.assign x mem (hinner.reads 0 (Nat.le_refl 0))
      exact .of_reads hreads (show 0 < 4 by decide)
        (fun hlow => absurd hlow (Nat.not_succ_le_zero 0)) (Nat.succ_pos _)

/-- Each calculation in another takes room in its text, and so do the parentheses around it. -/
theorem size_lt_two_mul_length_tokens (t : Term) : t.size < 2 * t.tokens.length := by
  induction t with
  | number n => exact Nat.lt_succ_self 1
  | name x => exact Nat.lt_succ_self 1
  | change how inner ih =>
      have := length_le_length_enclose 12 inner.rank inner.tokens
      rw [size, tokens, List.length_cons]
      omega
  | operation op first second ih ih' =>
      have := length_le_length_enclose (op.rank + 3) first.rank first.tokens
      have := length_le_length_enclose (op.rank + 4) second.rank second.tokens
      rw [size, tokens, List.length_append, List.length_cons]
      omega
  | both first second ih ih' =>
      have := length_le_length_enclose 4 first.rank first.tokens
      have := length_le_length_enclose 3 second.rank second.tokens
      rw [size, tokens, List.length_append, List.length_cons]
      omega
  | either first second ih ih' =>
      have := length_le_length_enclose 3 first.rank first.tokens
      have := length_le_length_enclose 2 second.rank second.tokens
      rw [size, tokens, List.length_append, List.length_cons]
      omega
  | choice test first second ih ih' ih'' =>
      have := length_le_length_enclose 2 test.rank test.tokens
      have := length_le_length_enclose 0 first.rank first.tokens
      have := length_le_length_enclose 1 second.rank second.tokens
      simp only [size, tokens, List.length_append, List.length_cons]
      omega
  | assign x op text mem inner ih =>
      have := length_le_length_enclose 0 inner.rank inner.tokens
      rw [size, tokens, List.length_cons, List.length_cons]
      omega

end Term

theorem Token.text_ne_nil (t : Token) : t.text ≠ [] := by
  cases t with
  | number n => exact Nat.toDigits_ne_nil
  | name x =>
      intro h
      have hname := x.isName
      rw [show x.text = [] from h] at hname
      cases hname
  | sign text mem =>
      have hall : ∀ text ∈ signs, text.toList ≠ [] := by decide
      exact hall text mem

theorem length_tokens_le (ts : List Token) : 2 * ts.length ≤ (write ts).length := by
  induction ts with
  | nil => exact Nat.le_refl 0
  | cons t ts ih =>
      have hpos := List.length_pos_iff.mpr t.text_ne_nil
      rw [write] at ih ⊢
      rw [List.flatMap_cons, List.length_append, List.length_append, List.length_cons,
        List.length_singleton]
      omega

/-- A calculation that is written comes to the value of its tree, with the effects that this says:
operations that bind more closely are made first, the others from the left, and what is not needed
is left out. -/
theorem result_write (t : Term) :
    Calculation.result outside (write t.tokens) = t.value outside := by
  have hsize := t.size_lt_two_mul_length_tokens
  have hlength := length_tokens_le t.tokens
  have hread : whole outside _ false (Place.of (t.tokens ++ [])) =
      t.reading outside false >>= _ :=
    t.readable.reads 0 (Nat.zero_le _) (10 * ((write t.tokens).length + 1)) false [] (by omega)
      Nat.one_pos
  rw [List.append_nil, Place.of] at hread
  rw [Calculation.result, hread, bind_assoc, Term.reading_false]
  refine Eq.trans (bind_congr fun a => ?_) (bind_pure _)
  rw [pure_bind]
  exact if_pos rfl

end LineShell.Script.Calculation

/-! ## Calculations in scripts -/

namespace LineShell.Script.Expansion

open Calculation

/-- A calculation in a script gives the digits of its value. -/
theorem calculate_write (t : Term) :
    calculate (write t.tokens) = do
      return (toString (← t.value (surroundings (write t.tokens))).toInt).toList := by
  rw [calculate, result_write]

theorem integer_toString {i : Int} (hi : Number.Leading.IsSigned i) :
    integer (toString i).toList = pure i := by
  obtain ⟨hsigned, hexceeds⟩ := Number.Leading.signed_eq hi []
  have hread := Number.leading?_toString i .nil
  rw [List.append_nil] at hread
  rw [integer, hread]
  dsimp only
  rw [hexceeds, hsigned]
  rfl

/-- What a calculation gives is read as its value by the next one. -/
theorem integer_calculate (text : Octets) :
    calculate text >>= integer = do
      return (← Calculation.result (surroundings text) text).toInt := by
  rw [calculate, bind_assoc]
  refine bind_congr fun n => ?_
  rw [pure_bind]
  exact integer_toString ⟨Int64.le_toInt n, Int64.toInt_lt n⟩

end LineShell.Script.Expansion
