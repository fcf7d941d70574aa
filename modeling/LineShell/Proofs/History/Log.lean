import Mathlib.Data.List.DropRight
import LineShell.Shell.Evaluate

/-!
# The history as a log

A log numbers all lines that were ever kept, from one. A ring into which the lines have been put
one after the other shows the end of that log: as many entries as it has slots, or all of them.
-/

namespace LineShell

/-- The entries of lines in the order in which they were kept. -/
def log (texts : List String) : List (Entry Nat) :=
  texts.mapIdx fun i text => ⟨i + 1, text⟩

/-- The ring of a capacity after lines have been kept in turn. -/
def Ring.ofTexts (capacity : Nat) (texts : List String) : History :=
  texts.foldl Ring.insert (Ring.empty capacity)

/-! ## Logs -/

@[simp] theorem length_log (texts : List String) : (log texts).length = texts.length := by
  simp [log]

theorem getElem?_log (texts : List String) (i : Nat) :
    (log texts)[i]? = texts[i]?.map fun text => ⟨i + 1, text⟩ := by
  simp [log]

theorem log_append_singleton (texts : List String) (text : String) :
    log (texts ++ [text]) = log texts ++ [⟨texts.length + 1, text⟩] := by
  simp [log, List.mapIdx_append]

theorem id_of_getElem?_log {texts : List String} {i : Nat} {e : Entry Nat}
    (h : (log texts)[i]? = some e) : e.id = i + 1 := by
  rw [getElem?_log, Option.map_eq_some_iff] at h
  obtain ⟨text, _, rfl⟩ := h
  rfl

/-- The last entries of a log are those of the greatest numbers, each at its place. -/
theorem mem_rtake_log_iff {texts : List String} {n : Nat} {e : Entry Nat} :
    e ∈ (log texts).rtake n ↔ texts.length - n < e.id ∧ (log texts)[e.id - 1]? = some e := by
  rw [List.rtake, length_log, List.mem_iff_getElem?]
  constructor
  · rintro ⟨i, hi⟩
    rw [List.getElem?_drop] at hi
    have hid := id_of_getElem?_log hi
    refine ⟨by omega, ?_⟩
    rwa [hid, Nat.add_sub_cancel]
  · rintro ⟨hlt, he⟩
    refine ⟨e.id - 1 - (texts.length - n), ?_⟩
    rwa [List.getElem?_drop,
      show texts.length - n + (e.id - 1 - (texts.length - n)) = e.id - 1 by omega]

/-! ## Rings that show the end of a log -/

namespace Ring

/-- A ring shows the end of the log of some lines. The entry behind the `i` first ones of the log
lies in the slot of `i` modulo the capacity, from when it is kept until it is overwritten. -/
structure Shows (r : History) (capacity : Nat) (texts : List String) : Prop where
  size : r.slots.size = capacity
  newest : r.newest = (texts.length + (capacity - 1)) % capacity
  oldest : r.oldest = (texts.length - capacity) % capacity
  count : r.count = min texts.length capacity
  nextId : r.nextId = texts.length + 1
  slots : ∀ i e, (log texts)[i]? = some e → texts.length ≤ i + capacity →
    r.slots[i % capacity]? = some (some e)

variable {r : History} {capacity : Nat} {texts : List String}

theorem advance_nat (r : History) (slot : Nat) : r.advance slot = (slot + 1) % r.slots.size := rfl

theorem slots_insert (r : History) (text : String) :
    (r.insert text).slots =
      r.slots.setIfInBounds (r.advance r.newest) (some ⟨r.nextId, text⟩) := by
  simp only [insert]
  split <;> rfl

theorem newest_insert (r : History) (text : String) :
    (r.insert text).newest = r.advance r.newest := by
  simp only [insert]
  split <;> rfl

theorem mem_slots_insert {e : Entry Nat} {text : String} (h : some e ∈ (r.insert text).slots) :
    some e ∈ r.slots ∨ e.text = text := by
  rw [slots_insert] at h
  rcases Array.mem_or_eq_of_mem_setIfInBounds h with h | h
  · exact .inl h
  · exact .inr (by rw [Option.some.inj h])

theorem mem_slots_of_mem_toList {e : Entry Nat} (h : e ∈ r.toList) : some e ∈ r.slots := by
  obtain ⟨distance, -, hd⟩ := List.mem_filterMap.mp h
  exact Array.mem_of_getElem? (Option.join_eq_some_iff.mp hd)

theorem shows_empty (hc : 0 < capacity) : Shows (empty capacity) capacity [] where
  size := Array.size_replicate
  newest := by
    change capacity - 1 = (0 + (capacity - 1)) % capacity
    rw [Nat.zero_add, Nat.mod_eq_of_lt (by omega)]
  oldest := by
    change 0 = (0 - capacity) % capacity
    simp
  count := by
    change 0 = min 0 capacity
    simp
  nextId := rfl
  slots := by
    intro i e he
    simp [log] at he

/-- The slot after the one written last is that of the next line. -/
theorem Shows.advance_newest (h : Shows r capacity texts) (hc : 0 < capacity) :
    r.advance r.newest = texts.length % capacity := by
  rw [advance_nat, h.newest, h.size, Nat.mod_add_mod,
    show texts.length + (capacity - 1) + 1 = texts.length + capacity by omega,
    Nat.add_mod_right]

/-- The new line overwrites no entry that the ring is still to show. -/
theorem mod_ne_mod_of_lt {i k c : Nat} (hik : i < k) (hkc : k < i + c) : i % c ≠ k % c := by
  intro he
  have hsub : (k - i) % c = 0 := Nat.sub_mod_eq_zero_of_mod_eq he.symm
  rw [Nat.mod_eq_of_lt (by omega)] at hsub
  omega

theorem Shows.slots_insert (h : Shows r capacity texts) (hc : 0 < capacity) (text : String) :
    (r.insert text).slots =
      r.slots.setIfInBounds (texts.length % capacity) (some ⟨texts.length + 1, text⟩) := by
  rw [Ring.slots_insert, h.advance_newest hc, h.nextId]

/-- Keeping a line makes the log longer by it. -/
theorem Shows.insert (h : Shows r capacity texts) (hc : 0 < capacity) (text : String) :
    Shows (r.insert text) capacity (texts ++ [text]) where
  size := by rw [size_slots_insert, h.size]
  newest := by
    rw [newest_insert, h.advance_newest hc, List.length_append, List.length_singleton,
      show texts.length + 1 + (capacity - 1) = texts.length + capacity by omega,
      Nat.add_mod_right]
  oldest := by
    have hcount := h.count
    have hsize := h.size
    have ho := h.oldest
    simp only [Ring.insert, List.length_append, List.length_singleton]
    split
    · rename_i hlt
      change r.count < r.slots.size at hlt
      rw [show texts.length + 1 - capacity = 0 by omega,
        show texts.length - capacity = 0 by omega] at *
      exact ho
    · rename_i hge
      change ¬ r.count < r.slots.size at hge
      change r.advance r.oldest = _
      rw [advance_nat, ho, hsize, Nat.mod_add_mod,
        show texts.length - capacity + 1 = texts.length + 1 - capacity by omega]
  count := by
    have hcount := h.count
    have hsize := h.size
    simp only [Ring.insert, List.length_append, List.length_singleton]
    split
    · rename_i hlt
      change r.count < r.slots.size at hlt
      change r.count + 1 = _
      omega
    · rename_i hge
      change ¬ r.count < r.slots.size at hge
      change r.count = _
      omega
  nextId := by
    rw [nextId_insert, h.nextId]
    simp only [List.length_append, List.length_singleton]
    rfl
  slots := by
    intro i e he hwindow
    rw [h.slots_insert hc]
    simp only [List.length_append, List.length_singleton] at hwindow
    rw [log_append_singleton] at he
    rcases Nat.lt_or_ge i texts.length with hi | hi
    · rw [List.getElem?_append_left (by rwa [length_log])] at he
      rw [Array.getElem?_setIfInBounds_ne (mod_ne_mod_of_lt hi (by omega)).symm]
      exact h.slots i e he (by omega)
    · rw [List.getElem?_append_right (by rwa [length_log]), length_log] at he
      obtain rfl : i = texts.length := by
        have := (List.getElem?_eq_some_iff.mp he).1
        simp only [List.length_singleton] at this
        omega
      simp only [Nat.sub_self, List.getElem?_cons_zero, Option.some.injEq] at he
      subst he
      rw [Array.getElem?_setIfInBounds_self_of_lt]
      rw [h.size]
      exact Nat.mod_lt _ hc

theorem Shows.foldl_insert (h : Shows r capacity texts) (hc : 0 < capacity)
    (more : List String) : Shows (more.foldl Ring.insert r) capacity (texts ++ more) := by
  induction more generalizing r texts with
  | nil => simpa using h
  | cons text more ih => simpa using ih (h.insert hc text)

theorem shows_ofTexts (hc : 0 < capacity) (texts : List String) :
    Shows (ofTexts capacity texts) capacity texts :=
  (shows_empty hc).foldl_insert hc texts

/-! ## What is read from such a ring -/

/-- No slot between the oldest entry and the newest is empty. -/
theorem Shows.entryAt? (h : Shows r capacity texts) {distance : Nat} (hd : distance < r.count) :
    r.entryAt? distance = (log texts)[texts.length - capacity + distance]? := by
  have hcount := h.count
  have hlt : texts.length - capacity + distance < (log texts).length := by
    rw [length_log]
    omega
  have hslot := h.slots _ _ (List.getElem?_eq_getElem hlt) (by omega)
  change (r.slots[(r.oldest + distance) % r.slots.size]?).join = _
  rw [h.oldest, h.size, Nat.mod_add_mod, hslot, List.getElem?_eq_getElem hlt]
  rfl

theorem filterMap_getElem?_range {α : Type} (as : List α) :
    (List.range as.length).filterMap (fun i => as[i]?) = as := by
  induction as with
  | nil => rfl
  | cons a as ih =>
      rw [List.length_cons, List.range_succ_eq_map, List.filterMap_cons, List.filterMap_map]
      simpa using ih

/-- The entries of the ring are the last ones of the log. -/
theorem Shows.toList (h : Shows r capacity texts) : r.toList = (log texts).rtake capacity := by
  have hcount := h.count
  have hlen : ((log texts).rtake capacity).length = r.count := by
    rw [List.rtake, List.length_drop, length_log]
    omega
  have hentry : ∀ d ∈ List.range r.count, r.entryAt? d = ((log texts).rtake capacity)[d]? := by
    intro d hd
    rw [h.entryAt? (List.mem_range.mp hd), List.rtake, List.getElem?_drop, length_log]
  change (List.range r.count).filterMap r.entryAt? = _
  rw [List.filterMap_congr hentry, ← hlen, filterMap_getElem?_range]

/-- A number is found exactly while its entry is one of the last of the log. -/
theorem Shows.find?_eq_some_iff (h : Shows r capacity texts) {id : Nat} {e : Entry Nat} :
    r.find? id = some e ↔
      texts.length - capacity < id ∧ (log texts)[id - 1]? = some e := by
  have hmem : ∀ e', e' ∈ r.toList ↔
      texts.length - capacity < e'.id ∧ (log texts)[e'.id - 1]? = some e' := by
    intro e'
    rw [h.toList, mem_rtake_log_iff]
  constructor
  · intro hf
    have hid : e.id = id := by simpa using List.find?_some hf
    have he := (hmem e).mp (List.mem_of_find?_eq_some hf)
    rwa [hid] at he
  · rintro ⟨hlt, he⟩
    have hid : e.id = id := by
      have := id_of_getElem?_log he
      omega
    have hm : e ∈ r.toList := (hmem e).mpr (by rw [hid]; exact ⟨hlt, he⟩)
    -- Whatever is found has the number, and the log has one entry of each number.
    have hsome : (r.find? id).isSome := List.find?_isSome.mpr ⟨e, hm, by simpa using hid⟩
    obtain ⟨e', hf⟩ := Option.isSome_iff_exists.mp hsome
    have hid' : e'.id = id := by simpa using List.find?_some hf
    have he' := ((hmem e').mp (List.mem_of_find?_eq_some hf)).2
    rw [hid', he] at he'
    rw [hf, he']

theorem Shows.find?_eq_none (h : Shows r capacity texts) {id : Nat}
    (hid : ¬ (texts.length - capacity < id ∧ id ≤ texts.length)) : r.find? id = none := by
  rw [Option.eq_none_iff_forall_ne_some]
  intro e hf
  obtain ⟨hlt, he⟩ := h.find?_eq_some_iff.mp hf
  have := (List.getElem?_eq_some_iff.mp he).1
  rw [length_log] at this
  exact hid ⟨hlt, by omega⟩

theorem Shows.slot_lt_size (h : Shows r capacity texts) (hc : 0 < capacity) (n : Nat) :
    n % r.slots.size < r.slots.size :=
  Nat.mod_lt _ (by rw [h.size]; exact hc)

/-- A ring refines the log of what is kept in it: numbers, counts, entries and look-ups are those of
the log, and no slot that is used is out of bounds or empty. -/
theorem ofTexts_refines_log (hc : 0 < capacity) (texts : List String) :
    let r := ofTexts capacity texts
    (∀ n (hn : n < texts.length) {σ : Type} (s : Shell σ),
      s.history = ofTexts capacity (texts.take n) →
        ((Shell.record texts[n]).run s).answer = .ok (n + 1) ∧
        ((Shell.record texts[n]).run s).shell.history = ofTexts capacity (texts.take (n + 1))) ∧
    r.nextId = texts.length + 1 ∧
    r.capacity = capacity ∧
    r.count = min texts.length capacity ∧
    r.toList = (log texts).rtake (min texts.length capacity) ∧
    (∀ id, (hid : max 1 (texts.length + 1 - capacity) ≤ id ∧ id ≤ texts.length) →
      r.find? id = some ⟨id, texts[id - 1]⟩) ∧
    (∀ id, ¬ (max 1 (texts.length + 1 - capacity) ≤ id ∧ id ≤ texts.length) →
      r.find? id = none) ∧
    r.newest < r.slots.size ∧ r.oldest < r.slots.size ∧ r.advance r.newest < r.slots.size ∧
    ∀ distance < r.count,
      (r.oldest + distance) % r.slots.size < r.slots.size ∧ (r.entryAt? distance).isSome := by
  intro r
  have h : Shows r capacity texts := shows_ofTexts hc texts
  refine ⟨?_, h.nextId, h.size, h.count, ?_, ?_, ?_, ?_, ?_, h.slot_lt_size hc _, ?_⟩
  · intro n hn σ s hs
    have hn' : s.history.nextId = n + 1 := by
      rw [hs, (shows_ofTexts hc (texts.take n)).nextId, List.length_take, Nat.min_eq_left hn.le]
    refine ⟨congrArg Except.ok hn', ?_⟩
    change s.history.insert texts[n] = _
    rw [hs, List.take_add_one, List.getElem?_eq_getElem hn, ofTexts, ofTexts, List.foldl_append]
    rfl
  · rw [h.toList, List.rtake, List.rtake, length_log,
      show texts.length - min texts.length capacity = texts.length - capacity by omega]
  · intro id hid
    refine h.find?_eq_some_iff.mpr ⟨by omega, ?_⟩
    rw [getElem?_log, List.getElem?_eq_getElem (by omega), show id - 1 + 1 = id by omega]
    rfl
  · intro id hid
    exact h.find?_eq_none (by omega)
  · rw [h.newest, ← h.size]
    exact h.slot_lt_size hc _
  · rw [h.oldest, ← h.size]
    exact h.slot_lt_size hc _
  · intro distance hd
    refine ⟨h.slot_lt_size hc _, ?_⟩
    have hcount := h.count
    rw [h.entryAt? hd, List.getElem?_eq_getElem (by rw [length_log]; omega)]
    rfl

/-- Of three lines, a ring of two slots shows the last two. -/
theorem ofTexts_refines_log_overwritten :
    0 < 2 ∧ (ofTexts 2 ["pwd", "ls", "pwd"]).toList = [⟨2, "ls"⟩, ⟨3, "pwd"⟩] ∧
      (ofTexts 2 ["pwd", "ls", "pwd"]).find? 3 = some ⟨3, "pwd"⟩ ∧
      (ofTexts 2 ["pwd", "ls", "pwd"]).find? 1 = none := by
  obtain ⟨-, -, -, -, hlist, hfound, hnone, -⟩ :=
    ofTexts_refines_log (by decide : 0 < 2) ["pwd", "ls", "pwd"]
  exact ⟨by decide, hlist, hfound 3 (by decide), hnone 1 (by decide)⟩

end Ring

end LineShell
