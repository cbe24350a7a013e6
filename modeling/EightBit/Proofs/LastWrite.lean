import EightBit.Proofs.Tracing
import Mathlib.Data.List.Induction

/-!
# The last write wins

What a cell of a memory holds after a history of writes, loads and clears: the byte that the last of
them gave it which did not fail (`get?_afterChanges`).

A load is all or nothing although it is made in place, byte after byte, since it is checked as a
whole before its first byte is written. `Editing` makes changes that way, with addresses of 64 bits
whose sums may exceed the last address, and comes to the same as the operations on memories
(`Editing.make_eq`).
-/

namespace EightBit

/-- A change asked of a memory. -/
inductive Change where
  | write (address : UInt64) (byte : UInt8)
  | load (address : UInt64) (block : List UInt8)
  | clear
deriving DecidableEq, Repr

namespace Change

/-- A change that stays inside a memory of `size` cells. An empty block may stand right behind the
last cell. -/
def Fits (size : Nat) : Change → Prop
  | .write address _ => address.toNat < size
  | .load address block => address.toNat + block.length ≤ size
  | .clear => True

instance instDecidableFits (size : Nat) (c : Change) : Decidable (c.Fits size) :=
  match c with
  | .write address _ => inferInstanceAs (Decidable (address.toNat < size))
  | .load address block => inferInstanceAs (Decidable (address.toNat + block.length ≤ size))
  | .clear => inferInstanceAs (Decidable True)

/-- The byte that a change gives to the cell at an address, if it covers this cell. -/
def byteAt? (address : Nat) : Change → Option UInt8
  | .write target byte => if address = target.toNat then some byte else none
  | .load start block => if start.toNat ≤ address then block[address - start.toNat]? else none
  | .clear => some 0

end Change

/-- The byte that the last change gives to a cell which fits and covers it, and 0 if there is none
in the history. -/
def lastByte (size : Nat) (history : List Change) (address : Nat) : UInt8 :=
  ((history.filter fun c => c.Fits size).reverse.findSome? (·.byteAt? address)).getD 0

theorem lastByte_concat_of_fits {size : Nat} {c : Change} (h : c.Fits size)
    (history : List Change) (address : Nat) :
    lastByte size (history ++ [c]) address =
      (c.byteAt? address).getD (lastByte size history address) := by
  have hfilter : (history ++ [c]).filter (fun c => c.Fits size) =
      history.filter (fun c => c.Fits size) ++ [c] := by
    rw [List.filter_append, List.filter_cons_of_pos (by simpa using h), List.filter_nil]
  unfold lastByte
  rw [hfilter, List.reverse_append, List.reverse_singleton, List.singleton_append,
    List.findSome?_cons]
  rcases c.byteAt? address with _ | byte <;> rfl

theorem lastByte_concat_of_not_fits {size : Nat} {c : Change} (h : ¬ c.Fits size)
    (history : List Change) (address : Nat) :
    lastByte size (history ++ [c]) address = lastByte size history address := by
  unfold lastByte
  rw [List.filter_append, List.filter_cons_of_neg (by simpa using h), List.filter_nil,
    List.append_nil]

namespace Memory

variable {size : Nat}

/-! ## Changes and histories -/

/-- Makes a change. -/
def change (m : Memory size) : Change → Except Fault (Memory size)
  | .write address byte => m.write address.toNat byte
  | .load address block => m.load address.toNat block
  | .clear => .ok m.clear

/-- The memory after a history of changes. Those that fail leave it as it is. -/
def afterChanges (m : Memory size) (history : List Change) : Memory size :=
  history.foldl (fun m c => (m.change c).toOption.getD m) m

theorem afterChanges_concat (m : Memory size) (history : List Change) (c : Change) :
    m.afterChanges (history ++ [c]) =
      ((m.afterChanges history).change c).toOption.getD (m.afterChanges history) := by
  unfold afterChanges
  rw [List.foldl_append, List.foldl_cons, List.foldl_nil]

theorem change_of_fits (m : Memory size) {c : Change} (h : c.Fits size) :
    ∃ m', m.change c = .ok m' := by
  cases c with
  | write address byte => exact ⟨_, dif_pos h⟩
  | load address block => exact ⟨_, if_pos h⟩
  | clear => exact ⟨_, rfl⟩

theorem change_of_not_fits (m : Memory size) {c : Change} (h : ¬ c.Fits size) :
    ∃ fault, m.change c = .error fault := by
  cases c with
  | write address byte => exact ⟨_, dif_neg h⟩
  | load address block => exact ⟨_, if_neg h⟩
  | clear => exact absurd trivial h

theorem exists_change_iff (m : Memory size) (c : Change) :
    (∃ m', m.change c = .ok m') ↔ c.Fits size := by
  constructor
  · rintro ⟨m', hm'⟩
    by_contra hfits
    obtain ⟨fault, hfault⟩ := m.change_of_not_fits hfits
    rw [hfault] at hm'
    cases hm'
  · exact m.change_of_fits

/-- A change that fits gives its byte to each cell that it covers and leaves the others alone. -/
theorem get?_of_change {m m' : Memory size} {c : Change} (h : m.change c = .ok m')
    {address : Nat} (hlt : address < size) :
    m'.get? address = (c.byteAt? address).or (m.get? address) := by
  cases c with
  | write target byte =>
    rw [get?_of_write h, Change.byteAt?]
    split <;> rfl
  | load start block =>
    have hfits : start.toNat + block.length ≤ size := (m.exists_change_iff _).mp ⟨m', h⟩
    have hm' : m.overlay start.toNat block = m' := by
      have hload : m.load start.toNat block = .ok (m.overlay start.toNat block) := if_pos hfits
      exact Except.ok.inj (hload.symm.trans h)
    rw [← hm', get?_overlay, Change.byteAt?]
    by_cases hstart : start.toNat ≤ address
    · by_cases hstop : address - start.toNat < block.length
      · rw [if_pos ⟨hstart, hstop, hlt⟩, if_pos hstart, List.getElem?_eq_getElem hstop]
        rfl
      · have hnone : block[address - start.toNat]? = none :=
          List.getElem?_eq_none (Nat.le_of_not_lt hstop)
        rw [if_neg (fun hin => hstop hin.2.1), if_pos hstart, hnone]
        rfl
    · rw [if_neg (fun hin => hstart hin.1), if_neg hstart]
      rfl
  | clear =>
    have hm' : m.clear = m' := Except.ok.inj h
    rw [← hm', get?_clear, if_pos hlt]
    rfl

/-- After a history of changes to a memory of zeros, each cell holds the byte that the last change
gave it. -/
theorem get?_afterChanges (history : List Change) (address : Nat) :
    ((zeroed size).afterChanges history).get? address =
      if address < size then some (lastByte size history address) else none := by
  split
  · rename_i hlt
    -- induction on the history from its end, where the change stands that may count
    induction history using List.reverseRecOn with
    | nil =>
      have hzero : (zeroed size).get? address = some 0 := by
        rw [get?_zeroed, if_pos hlt]
      exact hzero
    | append_singleton history c ih =>
      rw [afterChanges_concat]
      by_cases hfits : c.Fits size
      · obtain ⟨m', hm'⟩ := ((zeroed size).afterChanges history).change_of_fits hfits
        have hcell := get?_of_change hm' hlt
        rw [hm', lastByte_concat_of_fits hfits]
        show m'.get? address = _
        rw [hcell, ih]
        rcases c.byteAt? address with _ | byte <;> rfl
      · obtain ⟨fault, hfault⟩ :=
          ((zeroed size).afterChanges history).change_of_not_fits hfits
        rw [hfault, lastByte_concat_of_not_fits hfits]
        exact ih
  · rename_i hge
    exact get?_of_le _ (Nat.le_of_not_lt hge)

/-! ## Changes in place -/

/-- Work on a memory in place. A fault does not take back what was written before it. -/
abbrev Editing (size : Nat) :=
  EStateM Fault (Memory size)

namespace Editing

/-- What a change that either was made or failed makes of a memory. -/
def settle (m : Memory size) :
    Except Fault (Memory size) → EStateM.Result Fault (Memory size) Unit
  | .ok m' => .ok () m'
  | .error fault => .error fault m

/-- Writes a byte. -/
def put (address : Nat) (byte : UInt8) : Editing size Unit := fun m =>
  settle m (m.write address byte)

/-- Writes bytes one after the other, up to the first that lies outside. -/
def putAll (address : Nat) : List UInt8 → Editing size Unit
  | [] => return
  | byte :: rest => do
    put address byte
    putAll (address + 1) rest

/-- Writes a block, unless it ends behind the memory or behind the last address. What is reported
then is the address before its end, where no end lies behind the last address. -/
def load (address : UInt64) (block : List UInt8) : Editing size Unit :=
  let stop := address? address block.length
  match stop.filter fun stop => stop.toNat ≤ size with
  | some _ => putAll address.toNat block
  | none => throw (.outOfBounds ((stop.getD (UInt64.ofNat lastAddress)).toNat - 1) size)

/-- Makes a change in place. -/
def make : Change → Editing size Unit
  | .write address byte => put address.toNat byte
  | .load address block => load address block
  | .clear => modify clear

theorem overlay_nil (m : Memory size) (address : Nat) : m.overlay address [] = m := by
  apply ext_get?
  intro i
  rw [get?_overlay, if_neg]
  rintro ⟨-, hlt, -⟩
  exact absurd hlt (Nat.not_lt_zero _)

/-- A block may be laid over a memory by its first byte and then the rest of it. -/
theorem overlay_cons {m m' : Memory size} {address : Nat} {byte : UInt8}
    (h : m.write address byte = .ok m') (rest : List UInt8) :
    m'.overlay (address + 1) rest = m.overlay address (byte :: rest) := by
  have hlt : address < size := by
    by_contra hge
    rw [m.write_of_le (Nat.le_of_not_lt hge)] at h
    cases h
  apply ext_get?
  intro i
  rw [get?_overlay, get?_overlay, get?_of_write h, List.length_cons]
  rcases Nat.lt_trichotomy i address with hbefore | rfl | hbehind
  · have hne : i ≠ address := by omega
    have hout : ¬ (address + 1 ≤ i ∧ i - (address + 1) < rest.length ∧ i < size) := by omega
    have hout' : ¬ (address ≤ i ∧ i - address < rest.length + 1 ∧ i < size) := by omega
    rw [if_neg hout, if_neg hout', if_neg hne]
  · have hout : ¬ (i + 1 ≤ i ∧ i - (i + 1) < rest.length ∧ i < size) := by omega
    have hin : i ≤ i ∧ i - i < rest.length + 1 ∧ i < size := by omega
    rw [if_neg hout, if_pos hin, if_pos rfl, Nat.sub_self]
    rfl
  · have hne : i ≠ address := by omega
    have hindex : i - address = i - (address + 1) + 1 := by omega
    have hiff : (address + 1 ≤ i ∧ i - (address + 1) < rest.length ∧ i < size) ↔
        (address ≤ i ∧ i - address < rest.length + 1 ∧ i < size) := by omega
    rw [if_neg hne, hindex, List.getElem?_cons_succ, ← hindex]
    exact if_congr hiff rfl rfl

/-- Where there is room for a block, writing byte after byte writes all of it. -/
theorem putAll_eq {m : Memory size} {address : Nat} {block : List UInt8}
    (h : address + block.length ≤ size) :
    putAll address block m = .ok () (m.overlay address block) := by
  induction block generalizing m address with
  | nil =>
    rw [overlay_nil]
    rfl
  | cons byte rest ih =>
    rw [List.length_cons] at h
    obtain ⟨m', hm'⟩ : ∃ m', m.write address byte = .ok m' := ⟨_, dif_pos (by omega)⟩
    have hput : put address byte m = .ok () m' := by
      unfold put
      rw [hm']
      rfl
    have hrest : putAll (address + 1) rest m' = .ok () (m'.overlay (address + 1) rest) :=
      ih (by omega)
    rw [putAll, ← overlay_cons hm']
    simp only [bind, EStateM.bind, hput, hrest]

/-- Sums of addresses of 64 bits decide as their exact sums do. -/
theorem filter_address?_eq_none_iff (address : UInt64) (length : Nat) (hsize : size ≤ lastAddress) :
    ((address? address length).filter fun stop => stop.toNat ≤ size) = none ↔
      size < address.toNat + length := by
  have hlast : lastAddress < UInt64.size := by decide
  rcases haddress : address? address length with _ | stop
  · have hge := le_of_address?_eq_none haddress
    refine iff_of_true rfl ?_
    omega
  · have hstop := toNat_of_address? haddress
    simp [hstop]

/-- The end of a block, or the last address if it lies behind it. -/
theorem toNat_getD_address? (address : UInt64) (length : Nat) :
    ((address? address length).getD (UInt64.ofNat lastAddress)).toNat =
      min (address.toNat + length) lastAddress := by
  have hlast : lastAddress = UInt64.size - 1 := rfl
  rcases haddress : address? address length with _ | stop
  · have hge := le_of_address?_eq_none haddress
    have hmax : (UInt64.ofNat lastAddress).toNat = lastAddress := by decide
    rw [Option.getD_none, hmax]
    omega
  · have hstop := toNat_of_address? haddress
    have hlt : stop.toNat < UInt64.size := stop.toNat_lt
    rw [Option.getD_some]
    omega

/-- In place, a load is made as a whole or not at all. -/
theorem load_eq (m : Memory size) (address : UInt64) (block : List UInt8)
    (hsize : size ≤ lastAddress) :
    load address block m = settle m (m.load address.toNat block) := by
  have hnone := filter_address?_eq_none_iff address block.length hsize
  unfold load
  by_cases hfits : address.toNat + block.length ≤ size
  · have hload : m.load address.toNat block = .ok (m.overlay address.toNat block) :=
      if_pos hfits
    rcases hstop : (address? address block.length).filter fun stop => stop.toNat ≤ size with
      _ | stop
    · have hlt := hnone.mp hstop
      omega
    · simp only [hstop, hload]
      exact putAll_eq hfits
  · have hload : m.load address.toNat block =
        .error (.outOfBounds (min (address.toNat + block.length) lastAddress - 1) size) :=
      if_neg hfits
    have hstop := hnone.mpr (Nat.lt_of_not_le hfits)
    simp only [hstop, hload, toNat_getD_address?]
    rfl

/-- In place, a change comes to the same, and one that fails leaves every cell as it was. -/
theorem make_eq (m : Memory size) (c : Change) (hsize : size ≤ lastAddress) :
    make c m = settle m (m.change c) := by
  cases c with
  | write address byte => rfl
  | load address block => exact load_eq m address block hsize
  | clear => rfl

end Editing

/-- A memory keeps what was last written, and loads are all or nothing. Take a memory of any size of
64 bits, all zero, and any history of writes, loads and clears. It still has its size, and each cell
holds the byte that the last change gave it which fits in and covers it, or 0; reading finds this
byte, and fails where there is no cell. A further change succeeds exactly if it fits in; made in
place it comes to the same, and leaves all cells as they were if it fails. A load that fails reports
the last address that it would have needed. -/
theorem afterChanges_lastByte (size : UInt64) (history : List Change) :
    let m := (zeroed size.toNat).afterChanges history
    m.toList.length = size.toNat ∧
      (∀ address : UInt64, m.get? address.toNat =
        if address < size then some (lastByte size.toNat history address.toNat) else none) ∧
      (∀ address : UInt64, m.read address.toNat =
        if address < size then .ok (lastByte size.toNat history address.toNat)
        else .error (.outOfBounds address.toNat size.toNat)) ∧
      (∀ change : Change, ((∃ m', m.change change = .ok m') ↔ change.Fits size.toNat) ∧
        Editing.make change m = Editing.settle m (m.change change)) ∧
      ∀ (address : UInt64) (block : List UInt8), size.toNat < address.toNat + block.length →
        m.load address.toNat block = .error
          (.outOfBounds (min (address.toNat + block.length) lastAddress - 1) size.toNat) := by
  intro m
  have hsize : size.toNat ≤ lastAddress := Nat.le_sub_one_of_lt size.toNat_lt
  have hget : ∀ address : UInt64, m.get? address.toNat =
      if address < size then some (lastByte size.toNat history address.toNat) else none :=
    fun address => get?_afterChanges history address.toNat
  refine ⟨?_, hget, fun address => ?_, fun change => ?_, fun address block hlarge => ?_⟩
  · exact Vector.length_toList
  · rw [read, hget address]
    by_cases hlt : address < size
    · rw [if_pos hlt, if_pos hlt]
    · rw [if_neg hlt, if_neg hlt]
  · exact ⟨m.exists_change_iff change, Editing.make_eq m change hsize⟩
  · exact if_neg (Nat.not_le_of_lt hlarge)

end Memory

end EightBit
