import LineShell.History.Entry

/-!
# The history ring

The history keeps the latest lines in a fixed number of slots. Two cursors point at the slot written
last and at the oldest entry; once every slot is taken both move on together and the oldest entry is
overwritten. Cursors and numbers are of one type, which may be the natural numbers or machine words.
-/

namespace LineShell

/-- Numbers that a ring counts with and that point at its slots. -/
class Cursor (ι : Type) extends Add ι, Sub ι, Mod ι where
  /-- The number that stands for a natural number. -/
  ofNat : Nat → ι
  /-- The natural number that a number stands for. -/
  toNat : ι → Nat

instance : Cursor Nat where
  ofNat n := n
  toNat n := n

/-- Machine words: sums and differences wrap around. -/
instance : Cursor UInt64 where
  ofNat n := UInt64.ofNat n
  toNat n := n.toNat

/-- The latest lines, in a fixed number of slots. -/
structure Ring (ι : Type) where
  /-- The slots; one that has not been written yet is empty. -/
  slots : Array (Option (Entry ι))
  /-- The slot written last. -/
  newest : ι
  /-- The slot of the oldest entry. -/
  oldest : ι
  /-- The number of entries. -/
  count : ι
  /-- The number that the next entry gets. -/
  nextId : ι
deriving DecidableEq, Repr

/-- The history of a shell counts without bounds. -/
abbrev History := Ring Nat

namespace Ring

variable {ι : Type} [Cursor ι]

/-- The number of slots. -/
def capacity (r : Ring ι) : ι :=
  Cursor.ofNat r.slots.size

/-- A ring of empty slots. Its last slot counts as the one written last, so that the first entry
goes to the first slot. -/
def empty (capacity : Nat) : Ring ι where
  slots := Array.replicate capacity none
  newest := Cursor.ofNat capacity - Cursor.ofNat 1
  oldest := Cursor.ofNat 0
  count := Cursor.ofNat 0
  nextId := Cursor.ofNat 1

/-- A ring of empty slots, if there is to be a slot at all. -/
def ofCapacity? (capacity : Nat) : Option (Ring ι) :=
  if 0 < capacity then some (empty capacity) else none

/-- Why there is no ring without slots. -/
def noSlots : String :=
  "history capacity must be positive"

/-- The slot after a slot; the first one comes after the last. -/
def advance (r : Ring ι) (slot : ι) : ι :=
  (slot + Cursor.ofNat 1) % r.capacity

/-- Keeps a line under the next number, and drops the oldest entry if every slot is taken. -/
def insert (r : Ring ι) (text : String) : Ring ι :=
  let newest := r.advance r.newest
  let slots := r.slots.setIfInBounds (Cursor.toNat newest) (some ⟨r.nextId, text⟩)
  let nextId := r.nextId + Cursor.ofNat 1
  if Cursor.toNat r.count < r.slots.size then
    { r with slots, newest, nextId, count := r.count + Cursor.ofNat 1 }
  else
    { r with slots, newest, nextId, oldest := r.advance r.oldest }

/-- The entry at some distance from the oldest one, if its slot holds one. -/
def entryAt? (r : Ring ι) (distance : Nat) : Option (Entry ι) :=
  (r.slots[Cursor.toNat ((r.oldest + Cursor.ofNat distance) % r.capacity)]?).join

/-- The entries, oldest first. -/
def toList (r : Ring ι) : List (Entry ι) :=
  (List.range (Cursor.toNat r.count)).filterMap r.entryAt?

/-- The entry of a number, if the ring still holds it. -/
def find? [DecidableEq ι] (r : Ring ι) (id : ι) : Option (Entry ι) :=
  r.toList.find? fun e => e.id = id

@[simp] theorem size_slots_insert (r : Ring ι) (text : String) :
    (r.insert text).slots.size = r.slots.size := by
  simp only [insert]
  split <;> simp

@[simp] theorem nextId_insert (r : Ring ι) (text : String) :
    (r.insert text).nextId = r.nextId + Cursor.ofNat 1 := by
  simp only [insert]
  split <;> rfl

theorem insert_of_lt {r : Ring ι} (h : Cursor.toNat r.count < r.slots.size) (text : String) :
    r.insert text =
      { slots := r.slots.setIfInBounds (Cursor.toNat (r.advance r.newest)) (some ⟨r.nextId, text⟩)
        newest := r.advance r.newest
        oldest := r.oldest
        count := r.count + Cursor.ofNat 1
        nextId := r.nextId + Cursor.ofNat 1 } :=
  if_pos h

theorem insert_of_not_lt {r : Ring ι} (h : ¬ Cursor.toNat r.count < r.slots.size) (text : String) :
    r.insert text =
      { slots := r.slots.setIfInBounds (Cursor.toNat (r.advance r.newest)) (some ⟨r.nextId, text⟩)
        newest := r.advance r.newest
        oldest := r.advance r.oldest
        count := r.count
        nextId := r.nextId + Cursor.ofNat 1 } :=
  if_neg h

end Ring

end LineShell
