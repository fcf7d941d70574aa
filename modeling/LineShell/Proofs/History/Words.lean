import Mathlib.Algebra.Group.Nat.Defs
import LineShell.Proofs.Dialogue.Leaving
import LineShell.Proofs.History.Log

/-!
# Rings of machine words

A ring that counts with machine words stands for the ring that counts without bounds, as long as no
sum of its cursors or numbers wraps around. None does before the numbers of the entries are used up.
Main statement: `Ring.wordsOfTexts_exact`.
-/

namespace LineShell

/-- The entry under the natural number that its number stands for. -/
def Entry.natural (e : Entry UInt64) : Entry Nat :=
  ⟨e.id.toNat, e.text⟩

namespace Ring

/-- The ring without bounds that a ring of words stands for. -/
def natural (w : Ring UInt64) : History where
  slots := w.slots.map (Option.map Entry.natural)
  newest := w.newest.toNat
  oldest := w.oldest.toNat
  count := w.count.toNat
  nextId := w.nextId.toNat

/-- The ring of words of a capacity after lines have been kept in turn. -/
def wordsOfTexts (capacity : Nat) (texts : List String) : Ring UInt64 :=
  texts.foldl Ring.insert (Ring.empty capacity)

/-- The slots of a ring of words can be counted, and the sums that it forms of its cursors fit a
word. -/
structure Fits (w : Ring UInt64) : Prop where
  size_pos : 0 < w.slots.size
  size : w.slots.size < 2 ^ 64
  newest : w.newest.toNat + 1 < 2 ^ 64
  oldest : w.oldest.toNat + 1 < 2 ^ 64
  count : w.count.toNat + 1 < 2 ^ 64
  distance : ∀ distance < w.count.toNat, w.oldest.toNat + distance < 2 ^ 64

variable {w : Ring UInt64} {capacity : Nat} {texts : List String}

theorem toNat_ofNat_of_lt {n : Nat} (h : n < 2 ^ 64) : (Cursor.ofNat n : UInt64).toNat = n :=
  UInt64.toNat_ofNat_of_lt' h

theorem toNat_add_of_lt {a b : UInt64} (h : a.toNat + b.toNat < 2 ^ 64) :
    (a + b).toNat = a.toNat + b.toNat := by
  rw [UInt64.toNat_add, Nat.mod_eq_of_lt h]

theorem toNat_sub_one {a : UInt64} (h : 1 ≤ a.toNat) : (a - Cursor.ofNat 1).toNat = a.toNat - 1 :=
  UInt64.toNat_sub_of_le _ _ (UInt64.le_iff_toNat_le.mpr h)

@[simp] theorem size_slots_natural (w : Ring UInt64) : w.natural.slots.size = w.slots.size := by
  simp [natural]

/-- A sum that fits is reduced to a slot as it is without bounds. -/
theorem Fits.toNat_mod_capacity (h : w.Fits) {slot step : UInt64}
    (hsum : slot.toNat + step.toNat < 2 ^ 64) :
    ((slot + step) % w.capacity).toNat = (slot.toNat + step.toNat) % w.slots.size := by
  have hcapacity : w.capacity.toNat = w.slots.size := toNat_ofNat_of_lt h.size
  exact (UInt64.toNat_mod _ _).trans (by rw [toNat_add_of_lt hsum, hcapacity])

theorem Fits.toNat_advance (h : w.Fits) {slot : UInt64} (hslot : slot.toNat + 1 < 2 ^ 64) :
    (w.advance slot).toNat = w.natural.advance slot.toNat := by
  rw [advance_nat, size_slots_natural]
  exact h.toNat_mod_capacity hslot

theorem Fits.advance_lt (h : w.Fits) : (w.advance w.newest).toNat < w.slots.size := by
  rw [h.toNat_advance h.newest, advance_nat, size_slots_natural]
  exact Nat.mod_lt _ h.size_pos

/-- Keeping a line does the same on both rings. -/
theorem Fits.natural_insert (h : w.Fits) (hid : w.nextId.toNat + 1 < 2 ^ 64) (text : String) :
    (w.insert text).natural = w.natural.insert text := by
  have hslots : (w.slots.setIfInBounds (w.advance w.newest).toNat (some ⟨w.nextId, text⟩)).map
        (Option.map Entry.natural) =
      w.natural.slots.setIfInBounds (w.natural.advance w.natural.newest)
        (some ⟨w.natural.nextId, text⟩) := by
    rw [Array.map_setIfInBounds, h.toNat_advance h.newest]
    rfl
  have hnewest : (w.advance w.newest).toNat = w.natural.advance w.natural.newest :=
    h.toNat_advance h.newest
  have hnextId : (w.nextId + Cursor.ofNat 1).toNat = w.natural.nextId + 1 := toNat_add_of_lt hid
  by_cases hroom : w.count.toNat < w.slots.size
  · have hroom' : w.natural.count < w.natural.slots.size := by rwa [size_slots_natural]
    have hcount : (w.count + Cursor.ofNat 1).toNat = w.natural.count + 1 := toNat_add_of_lt h.count
    rw [insert_of_lt hroom, insert_of_lt hroom']
    exact (Ring.mk.injEq ..).mpr ⟨hslots, hnewest, rfl, hcount, hnextId⟩
  · have hroom' : ¬ w.natural.count < w.natural.slots.size := by rwa [size_slots_natural]
    have holdest : (w.advance w.oldest).toNat = w.natural.advance w.natural.oldest :=
      h.toNat_advance h.oldest
    rw [insert_of_not_lt hroom, insert_of_not_lt hroom']
    exact (Ring.mk.injEq ..).mpr ⟨hslots, hnewest, holdest, rfl, hnextId⟩

/-! ## The bounds -/

/-- The cursors of a ring that shows the end of a log lie below its capacity. -/
theorem Shows.fits (h : Shows w.natural capacity texts) (hc : 0 < capacity)
    (hmax : capacity ≤ 2 ^ 63) : w.Fits := by
  have hsize : w.slots.size = capacity := (size_slots_natural w).symm.trans h.size
  have hnewest : w.newest.toNat < capacity := h.newest.trans_lt (Nat.mod_lt _ hc)
  have holdest : w.oldest.toNat < capacity := h.oldest.trans_lt (Nat.mod_lt _ hc)
  have hcount : w.count.toNat ≤ capacity := h.count.trans_le (Nat.min_le_right ..)
  -- The tight bound is that of `distance`: both summands may be just below the capacity.
  constructor <;> omega

theorem natural_empty (hc : 0 < capacity) (hmax : capacity ≤ 2 ^ 63) :
    (empty capacity : Ring UInt64).natural = empty capacity := by
  have hcapacity : (Cursor.ofNat capacity : UInt64).toNat = capacity :=
    toNat_ofNat_of_lt (by omega)
  have hnewest : (Cursor.ofNat capacity - Cursor.ofNat 1 : UInt64).toNat = capacity - 1 := by
    rw [toNat_sub_one (hc.trans_eq hcapacity.symm), hcapacity]
  rw [natural, empty, hnewest, Array.map_replicate]
  rfl

/-- Before the numbers of the entries are used up, a ring of words stands for the ring without
bounds. -/
theorem natural_wordsOfTexts (hc : 0 < capacity) (hmax : capacity ≤ 2 ^ 63) (texts : List String)
    (hfew : texts.length + 1 < 2 ^ 64) :
    (wordsOfTexts capacity texts).natural = ofTexts capacity texts := by
  induction texts using List.reverseRecOn with
  | nil => exact natural_empty hc hmax
  | append_singleton texts text ih =>
      rw [List.length_append, List.length_singleton] at hfew
      have hwords := ih (by omega)
      have hshows := shows_ofTexts hc texts
      have hid : (wordsOfTexts capacity texts).nextId.toNat = texts.length + 1 :=
        (congrArg Ring.nextId hwords).trans hshows.nextId
      rw [← hwords] at hshows
      rw [wordsOfTexts, List.foldl_append, ofTexts, List.foldl_append]
      exact ((hshows.fits hc hmax).natural_insert (by rwa [hid]) text).trans
        (congrArg (Ring.insert · text) hwords)

theorem fits_wordsOfTexts (hc : 0 < capacity) (hmax : capacity ≤ 2 ^ 63)
    (hfew : texts.length + 1 < 2 ^ 64) : (wordsOfTexts capacity texts).Fits := by
  have hshows := shows_ofTexts hc texts
  rw [← natural_wordsOfTexts hc hmax texts hfew] at hshows
  exact hshows.fits hc hmax

theorem nextId_wordsOfTexts (hc : 0 < capacity) (hmax : capacity ≤ 2 ^ 63)
    (hfew : texts.length + 1 < 2 ^ 64) :
    (wordsOfTexts capacity texts).nextId.toNat = texts.length + 1 :=
  (congrArg Ring.nextId (natural_wordsOfTexts hc hmax texts hfew)).trans
    (shows_ofTexts hc texts).nextId

/-- The number before the next one is that of the lines kept. -/
theorem nextId_sub_one_wordsOfTexts (hc : 0 < capacity) (hmax : capacity ≤ 2 ^ 63)
    (hfew : texts.length + 1 < 2 ^ 64) :
    ((wordsOfTexts capacity texts).nextId - Cursor.ofNat 1).toNat = texts.length := by
  have hnextId := nextId_wordsOfTexts hc hmax hfew
  rw [toNat_sub_one (by omega), hnextId, Nat.add_sub_cancel]

/-! ## What is read -/

theorem Fits.index (h : w.Fits) {distance : Nat} (hd : distance < w.count.toNat) :
    ((w.oldest + Cursor.ofNat distance) % w.capacity).toNat =
      (w.oldest.toNat + distance) % w.slots.size := by
  have hstep : (Cursor.ofNat distance : UInt64).toNat = distance :=
    toNat_ofNat_of_lt (by have := h.count; omega)
  have hsum := h.distance distance hd
  rw [← hstep] at hsum
  rw [h.toNat_mod_capacity hsum, hstep]

theorem Fits.index_lt (h : w.Fits) {distance : Nat} (hd : distance < w.count.toNat) :
    ((w.oldest + Cursor.ofNat distance) % w.capacity).toNat < w.slots.size :=
  (h.index hd).trans_lt (Nat.mod_lt _ h.size_pos)

theorem Fits.entryAt?_natural (h : w.Fits) {distance : Nat} (hd : distance < w.count.toNat) :
    w.natural.entryAt? distance = (w.entryAt? distance).map Entry.natural := by
  have hindex : (w.natural.oldest + distance) % w.natural.slots.size =
      ((w.oldest + Cursor.ofNat distance) % w.capacity).toNat := by
    rw [h.index hd, size_slots_natural]
    rfl
  change (w.natural.slots[(w.natural.oldest + distance) % w.natural.slots.size]?).join = _
  rw [hindex, natural, Array.getElem?_map, Option.join_map_eq_map_join]
  rfl

theorem Fits.toList_natural (h : w.Fits) : w.natural.toList = w.toList.map Entry.natural := by
  rw [toList, toList, List.map_filterMap]
  exact List.filterMap_congr fun distance hd => h.entryAt?_natural (List.mem_range.mp hd)

theorem Fits.find?_natural (h : w.Fits) (id : UInt64) :
    w.natural.find? id.toNat = (w.find? id).map Entry.natural := by
  rw [find?, find?, h.toList_natural, List.find?_map]
  congr 2
  funext e
  simp [Entry.natural, UInt64.toNat_inj]

/-- A ring of up to half as many slots as there are words computes exactly what the ring without
bounds does, at every step until the numbers of its entries are used up: no sum wraps around, each
slot that is written or read is there, and the numbers, counts, entries and look-ups are the same.
A shell that is left has the ring that the words stand for, and reports the number before the next
one, which is that of the lines kept. -/
theorem wordsOfTexts_exact (hc : 1 ≤ capacity) (hmax : capacity ≤ 2 ^ 63)
    (hfew : texts.length < 2 ^ 64 - 1) :
    (∀ n ≤ texts.length,
      let w := wordsOfTexts capacity (texts.take n)
      let r := ofTexts capacity (texts.take n)
      (w.Fits ∧ (n < texts.length → w.nextId.toNat + 1 < 2 ^ 64)) ∧
      (0 < w.capacity.toNat ∧ (w.advance w.newest).toNat < w.slots.size ∧
        ∀ distance < w.count.toNat,
          ((w.oldest + Cursor.ofNat distance) % w.capacity).toNat < w.slots.size) ∧
      (1 ≤ w.nextId.toNat ∧ (w.nextId - Cursor.ofNat 1).toNat = n) ∧
      w.nextId.toNat = r.nextId ∧ w.count.toNat = r.count ∧ w.capacity.toNat = r.capacity ∧
      w.toList.map Entry.natural = r.toList ∧
      ∀ id : UInt64, (w.find? id).map Entry.natural = r.find? id.toNat) ∧
    ∀ {σ : Type} [OutputStream σ] (host : Octets → Host) (settings : Settings)
      (ended : Nat → List Pid) (input : List UInt8) (stream : σ) (ending : Ending),
      let w := wordsOfTexts capacity texts
      let o := (Dialogue.run host settings ended input).run (Shell.ofSettings settings stream)
      settings.historyCapacity = capacity → o.answer = .ok ending → o.trace.recorded = texts →
        o.shell.history = w.natural ∧
          o.trace.getLast? = some (.noted (.leaving (w.nextId - Cursor.ofNat 1).toNat)) := by
  constructor
  · intro n hn w r
    have hlength : (texts.take n).length = n := List.length_take_of_le hn
    have hfew' : (texts.take n).length + 1 < 2 ^ 64 := by omega
    have hnatural : w.natural = r := natural_wordsOfTexts hc hmax _ hfew'
    have hfits : w.Fits := fits_wordsOfTexts hc hmax hfew'
    have hnextId : w.nextId.toNat = n + 1 :=
      (nextId_wordsOfTexts hc hmax hfew').trans (congrArg (· + 1) hlength)
    have hcapacity : w.capacity.toNat = w.slots.size := toNat_ofNat_of_lt hfits.size
    refine ⟨⟨hfits, fun _ => by omega⟩, ⟨?_, hfits.advance_lt, fun _ => hfits.index_lt⟩,
      ⟨by omega, ?_⟩, ?_⟩
    · rw [hcapacity]
      exact hfits.size_pos
    · exact (nextId_sub_one_wordsOfTexts hc hmax hfew').trans hlength
    · rw [← hnatural]
      refine ⟨rfl, rfl, ?_, hfits.toList_natural.symm, fun id => (hfits.find?_natural id).symm⟩
      exact hcapacity.trans (size_slots_natural w).symm
  · intro σ _ host settings ended input stream ending w o hcapacity hanswer hrecorded
    have hfew' : texts.length + 1 < 2 ^ 64 := by omega
    have hhistory : o.shell.history = w.natural :=
      calc
        o.shell.history = ofTexts settings.historyCapacity o.trace.recorded :=
          Dialogue.history_run host settings ended input stream
        _ = ofTexts capacity texts := by rw [hcapacity, hrecorded]
        _ = w.natural := (natural_wordsOfTexts hc hmax texts hfew').symm
    have hnumber : o.shell.history.nextId - 1 = (w.nextId - Cursor.ofNat 1).toNat := by
      rw [hhistory, nextId_sub_one_wordsOfTexts hc hmax hfew']
      exact Nat.sub_eq_of_eq_add (nextId_wordsOfTexts hc hmax hfew')
    refine ⟨hhistory, ?_⟩
    rw [← hnumber]
    exact Dialogue.getLast?_trace_run host settings ended input hanswer

/-- A line that is recalled is the third of a ring of two slots, and its shell reports three. -/
theorem wordsOfTexts_exact_overwritten :
    let texts := ["pwd", "ls", "pwd"]
    let w := wordsOfTexts 2 texts
    let settings : Settings := { historyCapacity := 2 }
    let o := (Dialogue.run (fun _ => ⟨fun n _ => .ok n, fun _ => none⟩) settings (fun _ => [])
      (Text.utf8 "pwd\nls\n!1")).run (Shell.ofSettings settings Limited.unlimited)
    (1 ≤ 2 ∧ 2 ≤ 2 ^ 63 ∧ texts.length < 2 ^ 64 - 1) ∧
      (3 ≤ texts.length ∧ w.toList.map Entry.natural = [⟨2, "ls"⟩, ⟨3, "pwd"⟩] ∧
        (w.find? 3).map Entry.natural = some ⟨3, "pwd"⟩ ∧ (w.find? 1).map Entry.natural = none) ∧
      (2 < texts.length ∧ (wordsOfTexts 2 ["pwd", "ls"]).nextId.toNat + 1 < 2 ^ 64) ∧
      settings.historyCapacity = 2 ∧ o.answer = .ok .endOfInput ∧ o.trace.recorded = texts ∧
        o.shell.history = w.natural ∧ o.trace.getLast? = some (.noted (.leaving 3)) := by
  intro texts w settings o
  obtain ⟨hsteps, hleaving⟩ :=
    wordsOfTexts_exact (by decide : 1 ≤ 2) (by decide) (by decide : texts.length < 2 ^ 64 - 1)
  obtain ⟨-, -, ⟨-, hnumber⟩, -, -, -, hlist, hfind⟩ := hsteps 3 (by decide)
  obtain ⟨⟨-, hnext⟩, -⟩ := hsteps 2 (by decide)
  have hanswer : o.answer = .ok .endOfInput := by decide +kernel
  have hrecorded : o.trace.recorded = texts := by decide +kernel
  obtain ⟨hhistory, hlast⟩ := hleaving _ settings _ _ _ _ rfl hanswer hrecorded
  refine ⟨by decide, ⟨by decide, hlist.trans (by decide), (hfind 3).trans (by decide),
    (hfind 1).trans (by decide)⟩, ⟨by decide, hnext (by decide)⟩, rfl, hanswer, hrecorded,
    hhistory, ?_⟩
  have hthree : (w.nextId - Cursor.ofNat 1).toNat = 3 := hnumber
  rw [hlast, hthree]

end Ring

end LineShell
