import EightBit.Proofs.Numerals
import EightBit.Proofs.Tracing
import EightBit.Text.Pieces

/-!
# Trace lines

A trace line determines what it shows. Its words have no blanks in them (`lt_of_mem_words`), so the
line can be cut into its words again, whatever the width of the program counter, and each word is
read back at its place (`ofLine_line`).
-/

namespace EightBit

namespace Snapshot

open Numeral

/-! ## Words -/

/-- The words of a trace line. -/
def words (s : Snapshot) : List (List Char) :=
  "TRACE:".toList :: upperHex s.pc :: ['|'] ::
    (s.window.toList.map cell ++ ['|'] :: s.registers.toList.map fun value => upperHex value.toNat)

theorem chars_eq (s : Snapshot) :
    s.chars = "TRACE:".toList ++ s.words.tail.flatMap (' ' :: ·) := by
  have hmark : "TRACE: ".toList = "TRACE:".toList ++ [' '] := by decide
  unfold chars words
  rw [hmark, List.tail_cons]
  simp only [List.flatMap_cons, List.flatMap_append, List.flatMap_map, List.append_assoc,
    List.cons_append, List.nil_append]

/-- For a word that is given, this can be decided. -/
theorem lt_of_all {word : List Char} (h : word.all (' ' < ·)) {c : Char} (hc : c ∈ word) :
    ' ' < c :=
  of_decide_eq_true (List.all_eq_true.mp h c hc)

theorem lt_of_mem_upperHex {n : Nat} {c : Char} (h : c ∈ upperHex n) : ' ' < c := by
  obtain ⟨v, hv⟩ := (denotes_upperHex n).isDigit h
  have hle : 48 ≤ c.toNat := hv.le_toNat (by decide)
  show 32 < c.toNat
  omega

theorem lt_of_mem_cell {entry : Option UInt8} {c : Char} (h : c ∈ cell entry) : ' ' < c := by
  rcases entry with _ | byte
  · exact lt_of_all (by decide) h
  · exact lt_of_mem_upperHex h

/-- All characters of the words stand behind the blank. -/
theorem lt_of_mem_words {s : Snapshot} {word : List Char} (hword : word ∈ s.words) {c : Char}
    (hc : c ∈ word) : ' ' < c := by
  simp only [words, List.mem_append, List.mem_cons, List.mem_map] at hword
  rcases hword with rfl | rfl | rfl | ⟨entry, -, rfl⟩ | rfl | ⟨value, -, rfl⟩
  · exact lt_of_all (by decide) hc
  · exact lt_of_mem_upperHex hc
  · exact lt_of_all (by decide) hc
  · exact lt_of_mem_cell hc
  · exact lt_of_all (by decide) hc
  · exact lt_of_mem_upperHex hc

/-- A trace line is cut into its words at the blanks. -/
theorem split_line (s : Snapshot) : Pieces.split ' ' s.line.toList = s.words := by
  have hblank : ∀ word ∈ s.words, ' ' ∉ word := by
    intro word hword hmem
    exact absurd (lt_of_mem_words hword hmem) (by decide)
  rw [line, String.toList_ofList, chars_eq]
  exact Pieces.split_append_flatMap (by decide) fun word hword =>
    hblank word (List.mem_of_mem_tail hword)

/-- A trace line is one line. -/
theorem feed_not_mem_line (s : Snapshot) : '\n' ∉ s.line.toList := by
  rw [line, String.toList_ofList, chars_eq, List.mem_append, List.mem_flatMap]
  rintro (hmark | ⟨word, hword, hmem⟩)
  · revert hmark
    decide
  · rcases List.mem_cons.mp hmem with hblank | hmem
    · exact absurd hblank (by decide)
    · exact absurd (lt_of_mem_words (List.mem_of_mem_tail hword) hmem) (by decide)

/-! ## Reading a line back -/

/-- The number that a word shows, which is 0 if it shows none. -/
def wordNumber (word : List Char) : Nat :=
  (Numeral.read 16 maxWord word).toOption.getD 0

/-- The cell that a word shows. -/
def wordCell (word : List Char) : Option UInt8 :=
  if word = ['-', '-'] then none else some (UInt8.ofNat (wordNumber word))

/-- What a trace line shows: the program counter in its second word, the window in the three words
behind the first bar, and the registers in those behind the second. -/
def ofLine (line : String) : Snapshot :=
  let word (k : Nat) : List Char := (Pieces.split ' ' line.toList).getD k []
  { pc := wordNumber (word 1)
    window := .ofFn fun k => wordCell (word (3 + k))
    registers := ⟨.ofFn fun r => UInt8.ofNat (wordNumber (word (7 + r)))⟩ }

theorem wordNumber_upperHex {n : Nat} (h : n ≤ maxWord) : wordNumber (upperHex n) = n := by
  rw [wordNumber, read_upperHex h]
  rfl

theorem ofNat_wordNumber_upperHex (byte : UInt8) :
    UInt8.ofNat (wordNumber (upperHex byte.toNat)) = byte := by
  have hbyte : byte.toNat < 256 := byte.toNat_lt
  have hmax : 256 ≤ maxWord := by decide
  rw [wordNumber_upperHex (by omega), UInt8.ofNat_toNat]

theorem wordCell_cell (entry : Option UInt8) : wordCell (cell entry) = entry := by
  rcases entry with _ | byte
  · rfl
  · have hdashes : upperHex byte.toNat ≠ ['-', '-'] := by
      intro heq
      obtain ⟨v, hv⟩ := (denotes_upperHex byte.toNat).isDigit (c := '-') (by simp [heq])
      exact absurd (hv.le_toNat (by decide)) (by decide)
    rw [cell, wordCell, if_neg hdashes, ofNat_wordNumber_upperHex]

theorem words_getD_window (s : Snapshot) {k : Nat} (hk : k < 3) :
    s.words.getD (3 + k) [] = cell s.window[k] := by
  have hcell : (s.window.toList.map cell)[k]? = some (cell s.window[k]) := by simp [hk]
  have hlength : (s.window.toList.map cell).length = 3 := by simp
  rw [Nat.add_comm, List.getD_eq_getElem?_getD]
  show ((s.window.toList.map cell ++ _)[k]?).getD [] = _
  rw [List.getElem?_append_left (by omega), hcell]
  rfl

theorem words_getD_registers (s : Snapshot) {r : Nat} (hr : r < 8) :
    s.words.getD (7 + r) [] = upperHex s.registers.values[r].toNat := by
  have hvalue : (s.registers.toList.map fun value => upperHex value.toNat)[r]? =
      some (upperHex s.registers.values[r].toNat) := by simp [Registers.toList, hr]
  have hlength : (s.window.toList.map cell).length = 3 := by simp
  have hindex : 4 + r - 3 = r + 1 := by omega
  rw [show 7 + r = 4 + r + 3 by omega, List.getD_eq_getElem?_getD]
  show ((s.window.toList.map cell ++ _)[4 + r]?).getD [] = _
  rw [List.getElem?_append_right (by omega), hlength, hindex, List.getElem?_cons_succ, hvalue]
  rfl

/-- A trace line with a program counter of 64 bits is read back. -/
theorem ofLine_line {s : Snapshot} (h : s.pc ≤ maxWord) : ofLine s.line = s := by
  have hwindow : Vector.ofFn (fun k : Fin 3 => wordCell (s.words.getD (3 + k) [])) = s.window := by
    apply Vector.ext
    intro k hk
    rw [Vector.getElem_ofFn, s.words_getD_window hk, wordCell_cell]
  have hregisters : Vector.ofFn (fun r : Fin 8 =>
      UInt8.ofNat (wordNumber (s.words.getD (7 + r) []))) = s.registers.values := by
    apply Vector.ext
    intro r hr
    rw [Vector.getElem_ofFn, s.words_getD_registers hr, ofNat_wordNumber_upperHex]
  have hpc : wordNumber (s.words.getD 1 []) = s.pc := wordNumber_upperHex h
  simp only [ofLine, split_line, hpc, hwindow, hregisters]

/-- Different snapshots have different trace lines. -/
theorem line_eq_iff {s s' : Snapshot} (h : s.pc ≤ maxWord) (h' : s'.pc ≤ maxWord) :
    s.line = s'.line ↔ s = s' := by
  constructor
  · intro hline
    rw [← ofLine_line h, hline, ofLine_line h']
  · intro heq
    rw [heq]

theorem window_eq_iff {cell cell' : Nat → Option UInt8} :
    #v[cell 0, cell 1, cell 2] = #v[cell' 0, cell' 1, cell' 2] ↔
      ∀ offset < 3, cell offset = cell' offset := by
  constructor
  · intro hwindow offset hoffset
    have hcells : cell 0 = cell' 0 ∧ cell 1 = cell' 1 ∧ cell 2 = cell' 2 := by simpa using hwindow
    have hplace : offset = 0 ∨ offset = 1 ∨ offset = 2 := by omega
    rcases hplace with rfl | rfl | rfl
    · exact hcells.1
    · exact hcells.2.1
    · exact hcells.2.2
  · intro h
    rw [h 0 (by decide), h 1 (by decide), h 2 (by decide)]

/-- What a snapshot at an address of 64 bits shows of memory is what stands at this address and the
two behind it, as far as there are such addresses. -/
theorem take_eq {size : UInt64} (memory : Memory size.toNat) (registers : Registers)
    (pc : UInt64) :
    let cell offset := (address? pc offset).bind fun address => memory.get? address.toNat
    take memory registers pc.toNat = ⟨pc.toNat, #v[cell 0, cell 1, cell 2], registers⟩ := by
  have hsize : size.toNat ≤ UInt64.size := Nat.le_of_lt size.toNat_lt
  intro cell
  simp only [cell, get?_address? memory hsize, Nat.add_zero]
  rfl

/-- A trace line determines what it shows. It is a single line, and what it shows can be read back:
the program counter, the window, and the registers. So two of them are equal exactly if they show
the same program counter, the same cell or none at each place of the window, and the same
registers. It is such a line that a machine replies when it is asked for one. -/
theorem line_eq_iff_shown {size size' : UInt64} (memory : Memory size.toNat)
    (memory' : Memory size'.toNat) (registers registers' : Registers) (pc pc' : UInt64) :
    let cell offset := (address? pc offset).bind fun address => memory.get? address.toNat
    let cell' offset := (address? pc' offset).bind fun address => memory'.get? address.toNat
    let line := (take memory registers pc.toNat).line
    let line' := (take memory' registers' pc'.toNat).line
    '\n' ∉ line.toList ∧
      ofLine line = ⟨pc.toNat, #v[cell 0, cell 1, cell 2], registers⟩ ∧
      (line = line' ↔
        pc = pc' ∧ (∀ offset < 3, cell offset = cell' offset) ∧
          ∀ r, registers.read r = registers'.read r) ∧
      ∀ {config : Config} (m : Machine config), (m.serve .traceLine).reply =
        .text (take m.memory m.registers m.pc).line := by
  have hmax : ∀ pc : UInt64, pc.toNat ≤ maxWord := fun pc => Nat.le_sub_one_of_lt pc.toNat_lt
  intro cell cell' line line'
  have htake : take memory registers pc.toNat = ⟨pc.toNat, #v[cell 0, cell 1, cell 2], registers⟩ :=
    take_eq memory registers pc
  have htake' : take memory' registers' pc'.toNat =
      ⟨pc'.toNat, #v[cell' 0, cell' 1, cell' 2], registers'⟩ := take_eq memory' registers' pc'
  have hline : ofLine line = take memory registers pc.toNat := ofLine_line (hmax pc)
  refine ⟨feed_not_mem_line _, hline.trans htake, ?_, fun m => rfl⟩
  have hregisters : registers = registers' ↔ ∀ r, registers.read r = registers'.read r :=
    ⟨fun h r => by rw [h], Registers.ext_read⟩
  calc line = line'
      ↔ take memory registers pc.toNat = take memory' registers' pc'.toNat :=
        line_eq_iff (hmax pc) (hmax pc')
    _ ↔ pc = pc' ∧ (∀ offset < 3, cell offset = cell' offset) ∧
          ∀ r, registers.read r = registers'.read r := by
        rw [htake, htake', Snapshot.mk.injEq, UInt64.toNat_inj, window_eq_iff, hregisters]

/-- The program counter may take more than two digits, and dashes are no digits. -/
example :
    ofLine "TRACE: 0103 | 82 -- -- | 08 00 00 00 00 00 00 F4" =
      ⟨0x0103, #v[some 0x82, none, none], ⟨#v[8, 0, 0, 0, 0, 0, 0, 0xF4]⟩⟩ := by
  decide +kernel

end Snapshot

end EightBit
