import EightBit.Proofs.Runs

/-!
# Every program ends

There are no jumps, so the memory ahead of the program counter bounds what is left of a program,
even of one that overwrites its own instructions. `run_ends` gives the bound, and with it that
neither the program counter nor the count of instructions leaves the numbers of 64 bits.
-/

namespace EightBit

namespace Machine

variable {config : Config}

theorem memorySize_lt_size (m : Machine config) : config.memorySize < UInt64.size := by
  have hsize : config.memorySize ≤ 256 := m.valid.memorySize_le
  simp only [UInt64.size]
  omega

/-- The instruction at the program counter ends inside memory. -/
theorem pc_add_length_le {m : Machine config} {i : Instruction}
    (h : m.memory.fetch m.pc = .ok (.instruction i)) : m.pc + i.length ≤ config.memorySize := by
  have hcode := Memory.fetch_eq_instruction_iff.mp h
  have hpos : 0 < i.encode.length := Nat.succ_pos _
  have hlast := hcode.lt (Nat.sub_one_lt_of_lt hpos)
  rw [← i.length_encode]
  omega

/-- No run completes more instructions than half the cells ahead of the program counter. -/
theorem executed_le (m : Machine config) (budget : Nat) :
    (m.runSlice budget).exit.executed ≤ (config.memorySize - m.pc) / 2 := by
  obtain ⟨lines, hreaches, -⟩ := m.reaches_runSlice budget
  exact hreaches.count_le

/-- A run without a budget never uses it up. -/
theorem run_not_completed (m : Machine config) : m.run.exit.reason ≠ .completed := by
  intro hcompleted
  have hbound := m.executed_le unlimited
  have hsize : config.memorySize ≤ 256 := m.valid.memorySize_le
  by_cases hpending : m.interruptPending = true
  · have hbudget : unlimited ≠ 0 := by decide
    rw [run, runSlice_of_pending hpending hbudget] at hcompleted
    cases hcompleted
  · rw [Bool.not_eq_true] at hpending
    obtain ⟨m', hfollows⟩ : ∃ m', m.Follows unlimited m.run.exit.executed m'
        m.run.exit.reason m.run.machine := follows_runSlice (Or.inl hpending)
    rcases hfollows.ends with ⟨hbudget, -⟩ | ⟨-, hstop, -⟩
    · -- memory has no room for so many instructions
      rw [← run, hbudget] at hbound
      simp only [unlimited, UInt64.size] at hbound
      omega
    · rw [hcompleted] at hstop
      exact stop?_ne_completed hstop

/-- A run comes to an end of its own or by an interrupt. It moves the program counter by two or
three cells for each instruction and never out of memory, so half of the cells ahead bound the
instructions, and neither the address behind an instruction nor the count of them is cut off at 64
bits. -/
theorem run_ends (m : Machine config) :
    m.run.exit.reason ≠ .completed ∧
      (∀ budget,
        m.pc + 2 * (m.runSlice budget).exit.executed ≤ (m.runSlice budget).machine.pc ∧
        (m.runSlice budget).machine.pc ≤ m.pc + 3 * (m.runSlice budget).exit.executed ∧
        (m.runSlice budget).machine.pc ≤ max m.pc config.memorySize ∧
        (m.runSlice budget).exit.executed ≤ (config.memorySize - m.pc) / 2 ∧
        (m.runSlice budget).exit.executed < UInt64.size) ∧
      ∀ i, m.memory.fetch m.pc = .ok (.instruction i) → m.pc + i.length < UInt64.size := by
  have hsize := m.memorySize_lt_size
  refine ⟨m.run_not_completed, fun budget => ?_, fun i hi => ?_⟩
  · obtain ⟨lines, hreaches, -⟩ := m.reaches_runSlice budget
    obtain ⟨hlo, hhi, hin⟩ := hreaches.pc_bounds
    have hcount := m.executed_le budget
    refine ⟨hlo, hhi, ?_, hcount, by omega⟩
    rcases hin with hzero | hle
    · rw [hzero, Nat.mul_zero, Nat.add_zero] at hhi
      exact Nat.le_trans hhi (Nat.le_max_left _ _)
    · exact Nat.le_trans hle (Nat.le_max_right _ _)
  · exact Nat.lt_of_le_of_lt (pc_add_length_le hi) hsize

end Machine

end EightBit
