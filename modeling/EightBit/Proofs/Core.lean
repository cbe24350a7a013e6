import EightBit.Machine.Run
import EightBit.Proofs.Fetch

/-!
# Programs apart from their machines

What a program does depends on the store and on the program counter, and on nothing else that a
machine keeps. `Core` is this part of a machine, `Core.next` goes on by one instruction, and
`Core.Reaches` counts instructions and collects what they print.

Every instruction that lets a program go on has two or three bytes, all of them inside memory, so
the program counter nears the end of memory by at least two cells each time (`Reaches.pc_bounds`).
There is only one way to go on (`Reaches.unique`), and none beyond a stop (`Reaches.le_of_stop`).
-/

namespace EightBit

/-- The part of a machine that a program works on. -/
structure Core (size : Nat) where
  store : Store size
  /-- The address of the next instruction. -/
  pc : Nat

namespace Core

variable {size : Nat} {mode : ProductMode}

/-- Where a program goes on and what it prints, or why it stops. -/
def next (mode : ProductMode) (c : Core size) : Except Stop (Core size × List Line) :=
  match c.store.memory.fetch c.pc with
  | .error fault => .error (.faulted fault c.pc)
  | .ok (.unknown byte) => .error (.unknownOpcode byte c.pc)
  | .ok (.instruction i) =>
    match i.execute mode c.store with
    | .error fault => .error (.faulted fault c.pc)
    | .ok .halt => .error .halted
    | .ok (.proceed store line) => .ok (⟨store, c.pc + i.length⟩, line.toList)

/-- A program goes on by an instruction of two or three bytes that lies inside memory. -/
theorem pc_of_next {c c' : Core size} {lines : List Line} (h : c.next mode = .ok (c', lines)) :
    c.pc + 2 ≤ c'.pc ∧ c'.pc ≤ c.pc + 3 ∧ c'.pc ≤ size := by
  unfold next at h
  split at h
  · cases h
  · cases h
  · rename_i i hfetch
    split at h
    · cases h
    · cases h
    · rename_i store line hexec
      cases h
      have hcode := Memory.fetch_eq_instruction_iff.mp hfetch
      have hlo : 2 ≤ i.length := Instruction.two_le_length hexec
      have hhi : i.length ≤ 3 := by
        rw [← i.length_encode]
        cases i <;> simp [Instruction.encode, Instruction.operands]
      -- the last byte of the instruction was read, so it has an address
      have hlast : c.pc + (i.length - 1) < size :=
        hcode.lt (by rw [i.length_encode]; omega)
      show c.pc + 2 ≤ c.pc + i.length ∧ c.pc + i.length ≤ c.pc + 3 ∧ c.pc + i.length ≤ size
      omega

/-! ## Going on for several instructions -/

/-- `n` instructions lead from one core to another and print the lines on the way. -/
inductive Reaches (mode : ProductMode) : Core size → Nat → List Line → Core size → Prop where
  | refl (c : Core size) : Reaches mode c 0 [] c
  | head {c c' c'' : Core size} {n : Nat} {first rest : List Line}
      (hnext : c.next mode = .ok (c', first)) (hrest : Reaches mode c' n rest c'') :
      Reaches mode c (n + 1) (first ++ rest) c''

namespace Reaches

variable {c c' c'' : Core size} {n k : Nat} {lines lines' : List Line} {stop : Stop}

theorem trans (h : Reaches mode c n lines c') (h' : Reaches mode c' k lines' c'') :
    Reaches mode c (n + k) (lines ++ lines') c'' := by
  induction h with
  | refl c =>
    rw [Nat.zero_add]
    exact h'
  | head hnext _ ih =>
    rw [Nat.succ_add, List.append_assoc]
    exact .head hnext (ih h')

/-- The same number of instructions leads to one place only. -/
theorem unique (h : Reaches mode c n lines c') (h' : Reaches mode c n lines' c'') :
    lines = lines' ∧ c' = c'' := by
  -- induction on the first way; `next` is a function, so the other begins with the same instruction
  induction h generalizing lines' with
  | refl c =>
    cases h'
    exact ⟨rfl, rfl⟩
  | head hnext _ ih =>
    rcases h' with _ | ⟨hnext', hrest'⟩
    rw [hnext] at hnext'
    cases hnext'
    obtain ⟨rfl, rfl⟩ := ih hrest'
    exact ⟨rfl, rfl⟩

/-- No program goes on where it stops. -/
theorem le_of_stop (h : Reaches mode c n lines c') (hstop : c'.next mode = .error stop)
    (h' : Reaches mode c k lines' c'') : k ≤ n := by
  -- induction on the way to the stop; the other way has to follow it for as long as it lasts
  induction h generalizing k lines' with
  | refl c =>
    rcases h' with _ | ⟨hnext', -⟩
    · exact Nat.le_refl 0
    · rw [hstop] at hnext'
      cases hnext'
  | head hnext _ ih =>
    rcases h' with _ | ⟨hnext', hrest'⟩
    · exact Nat.zero_le _
    · rw [hnext] at hnext'
      cases hnext'
      exact Nat.succ_le_succ (ih hstop hrest')

/-- The program counter moves by two or three cells each time, and never out of memory. -/
theorem pc_bounds (h : Reaches mode c n lines c') :
    c.pc + 2 * n ≤ c'.pc ∧ c'.pc ≤ c.pc + 3 * n ∧ (n = 0 ∨ c'.pc ≤ size) := by
  induction h with
  | refl c => exact ⟨Nat.le_refl _, Nat.le_refl _, Or.inl rfl⟩
  | head hnext hrest ih =>
    obtain ⟨hlo, hhi, hin⟩ := pc_of_next hnext
    refine ⟨by omega, by omega, Or.inr ?_⟩
    -- the rest ends inside memory by induction, unless this instruction was the last
    rcases ih.2.2 with rfl | hle
    · cases hrest
      exact hin
    · exact hle

/-- Half of the cells ahead of the program counter bound the instructions that can follow. -/
theorem count_le (h : Reaches mode c n lines c') : n ≤ (size - c.pc) / 2 := by
  obtain ⟨hlo, -, hin⟩ := h.pc_bounds
  omega

end Reaches

end Core

end EightBit
