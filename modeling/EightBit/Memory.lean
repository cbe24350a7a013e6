import EightBit.Fault

/-!
# Memory

A memory is a row of byte cells, and its size is part of its type, so no operation can change it.
Every access outside the row is a fault that leaves the memory as it was; a block is written as a
whole or not at all.

The view of a memory is `get?`. Each operation comes with the equation that says what it does to
the view.
-/

namespace EightBit

/-- `size` cells of one byte each, addressed from 0. -/
structure Memory (size : Nat) where
  cells : Vector UInt8 size
deriving DecidableEq, Repr

namespace Memory

variable {size : Nat}

/-- All cells zero. -/
def zeroed (size : Nat) : Memory size :=
  ⟨Vector.replicate size 0⟩

/-- A memory that holds exactly these bytes. -/
def ofList (bytes : List UInt8) : Memory bytes.length :=
  ⟨⟨bytes.toArray, by simp⟩⟩

/-- The cells in address order. -/
def toList (m : Memory size) : List UInt8 :=
  m.cells.toList

/-- The byte at an address, if the address is inside. -/
def get? (m : Memory size) (address : Nat) : Option UInt8 :=
  m.cells[address]?

/-- The byte at an address. -/
def read (m : Memory size) (address : Nat) : Except Fault UInt8 :=
  match m.get? address with
  | some byte => .ok byte
  | none => .error (.outOfBounds address size)

/-- Puts a byte at an address. -/
def write (m : Memory size) (address : Nat) (byte : UInt8) : Except Fault (Memory size) :=
  if h : address < size then .ok ⟨m.cells.set address byte h⟩
  else .error (.outOfBounds address size)

/-- The memory with a block laid over it; what reaches past the end is dropped. -/
def overlay (m : Memory size) (address : Nat) (block : List UInt8) : Memory size :=
  ⟨Vector.ofFn fun i =>
    if address ≤ i.val then block.getD (i.val - address) m.cells[i] else m.cells[i]⟩

/-- Puts a block at an address, all of it or nothing. A block that does not fit is reported by the
last address that it would have needed. -/
def load (m : Memory size) (address : Nat) (block : List UInt8) : Except Fault (Memory size) :=
  if address + block.length ≤ size then .ok (m.overlay address block)
  else .error (.outOfBounds (min (address + block.length) lastAddress - 1) size)

/-- All cells set to zero. -/
def clear (m : Memory size) : Memory size :=
  ⟨m.cells.map fun _ => 0⟩

/-! ## The view -/

theorem ext_get? {m m' : Memory size} (h : ∀ address, m.get? address = m'.get? address) :
    m = m' := by
  cases m; cases m'
  congr 1
  refine Vector.ext fun i hi => ?_
  simpa [get?, hi] using h i

theorem get?_of_le (m : Memory size) {address : Nat} (h : size ≤ address) :
    m.get? address = none := by
  simp [get?, h]

theorem isSome_get? (m : Memory size) (address : Nat) :
    (m.get? address).isSome ↔ address < size := by
  simp [get?]

theorem get?_zeroed (address : Nat) :
    (zeroed size).get? address = if address < size then some 0 else none := by
  simp only [get?, zeroed]
  split <;> simp_all

theorem get?_clear (m : Memory size) (address : Nat) :
    m.clear.get? address = if address < size then some 0 else none := by
  simp only [get?, clear]
  split <;> simp_all

theorem clear_eq_zeroed (m : Memory size) : m.clear = zeroed size := by
  apply ext_get?
  intro address
  rw [get?_clear, get?_zeroed]

theorem read_eq_ok_iff {m : Memory size} {address : Nat} {byte : UInt8} :
    m.read address = .ok byte ↔ m.get? address = some byte := by
  rw [read]
  cases m.get? address <;> simp

theorem read_of_le (m : Memory size) {address : Nat} (h : size ≤ address) :
    m.read address = .error (.outOfBounds address size) := by
  rw [read, m.get?_of_le h]

theorem write_of_le (m : Memory size) {address : Nat} (h : size ≤ address) (byte : UInt8) :
    m.write address byte = .error (.outOfBounds address size) := by
  rw [write, dif_neg (by omega)]

theorem get?_of_write {m m' : Memory size} {address : Nat} {byte : UInt8}
    (h : m.write address byte = .ok m') (i : Nat) :
    m'.get? i = if i = address then some byte else m.get? i := by
  rw [write] at h
  split at h
  · cases h
    simp only [get?, Vector.getElem?_set, eq_comm]
  · cases h

theorem get?_overlay (m : Memory size) (address : Nat) (block : List UInt8) (i : Nat) :
    (m.overlay address block).get? i =
      if address ≤ i ∧ i - address < block.length ∧ i < size then block[i - address]?
      else m.get? i := by
  by_cases hi : i < size
  · by_cases ha : address ≤ i
    · by_cases hb : i - address < block.length
      · simp [get?, overlay, hi, ha, hb, List.getD_eq_getElem?_getD]
      · simp [get?, overlay, hi, ha, hb, List.getD_eq_getElem?_getD]
    · simp [get?, overlay, hi, ha]
  · simp [get?, hi]

end Memory

end EightBit
