import EightBit.Proofs.History

/-!
# Switching on and resetting

Settings that make sense give the machine as it is switched on, all zero but for the stack pointer
(`ofConfig_of_valid`). A reset clears each part of a machine, and nothing that was done to the
machine before can be told from it afterwards (`reset_indistinguishable`).
-/

namespace EightBit

/-- Settings stay valid whether snapshots are recorded or not. -/
theorem Config.Valid.tracing {config : Config} (h : config.Valid) (tracing : Bool) :
    ({ config with tracing } : Config).Valid :=
  ⟨h.memorySize_pos, h.memorySize_le, h.stackPointer_le⟩

namespace Machine

variable {config : Config}

/-! ## Machines as they are switched on -/

theorem ofConfig_of_valid (valid : config.Valid) : ofConfig config = .ok (new valid) := by
  rw [ofConfig, dif_pos ⟨valid.memorySize_pos, valid.memorySize_le⟩,
    dif_pos valid.stackPointer_le]

/-- There is only one machine to switch on. -/
theorem eq_new_of_ofConfig {fresh : Machine config} (h : ofConfig config = .ok fresh) :
    fresh = new fresh.valid := by
  rw [ofConfig_of_valid fresh.valid] at h
  exact (Except.ok.inj h).symm

theorem toList_memory_new (valid : config.Valid) :
    (new valid).memory.toList = List.replicate config.memorySize 0 := by
  simp only [new, Memory.toList, Memory.zeroed, Vector.toList_replicate]

theorem read_registers_new (valid : config.Valid) (r : Register) :
    (new valid).registers.read r = if r = 7 then config.stackPointer else 0 := by
  show (Registers.zeroed.write 7 config.stackPointer).read r = _
  rw [Registers.read_write, Registers.read_zeroed]

/-! ## Resetting -/

/-- Once every part is cleared, the machine is the one that was switched on. -/
theorem reset_eq_new (m : Machine config) : m.reset = new m.valid := by
  simp only [reset, new, Memory.clear_eq_zeroed]

theorem after_reset (m : Machine config) (history : List Request) :
    m.after (history ++ [.reset]) = new m.valid := by
  rw [after_append, after_cons]
  exact (m.after history).reset_eq_new

/-- Whatever was done to a machine, after a reset it is the machine that was switched on: with the
same settings and as much memory, all cells and registers zero but for the stack pointer, the
program counter at 0, and neither output nor snapshots nor an interrupt left over. So all that is
asked of it from then on has the same results as with the fresh machine. -/
theorem reset_indistinguishable {fresh : Machine config} (hnew : ofConfig config = .ok fresh)
    (history further : List Request) :
    let m := fresh.after (history ++ [.reset])
    m = fresh ∧
      (m.serve .config).reply = .config config ∧
      m.memory.toList = List.replicate config.memorySize 0 ∧
      (∀ r, m.registers.read r = if r = 7 then config.stackPointer else 0) ∧
      m.pc = 0 ∧ m.output = [] ∧ m.snapshots = [] ∧ m.interruptPending = false ∧
      m.serveAll further = fresh.serveAll further := by
  have hfresh := eq_new_of_ofConfig hnew
  intro m
  have hm : m = new fresh.valid := fresh.after_reset history
  clear_value m
  subst hm
  refine ⟨hfresh.symm, rfl, toList_memory_new _, read_registers_new _, rfl, rfl, rfl, rfl, ?_⟩
  rw [← hfresh]

/-- The settings of a small machine that records snapshots. -/
def small : Config :=
  ⟨6, 5, .store, true⟩

theorem valid_small : small.Valid :=
  ⟨by decide, by decide, by decide⟩

/-- A program that prints a register and pushes it, with an interrupt behind it. -/
def usage : List Request :=
  [.load [71, 2, 69, 2, 1], .setRegister 2 9, .run, .interrupt]

/-- All parts of the small machine have been used, and the reset takes everything back. -/
theorem reset_indistinguishable_small :
    ofConfig small = .ok (new valid_small) ∧
      ((new valid_small).after usage).memory.toList = [71, 2, 69, 2, 9, 0] ∧
      ((new valid_small).after usage).output = [.value 9] ∧
      ((new valid_small).after usage).snapshots.length = 3 ∧
      ((new valid_small).after usage).interruptPending = true ∧
      (new valid_small).after (usage ++ [.reset]) = new valid_small ∧
      ((new valid_small).after (usage ++ [.reset])).serveAll [.run, .traceLine] =
        (new valid_small).serveAll [.run, .traceLine] := by
  have hnew : ofConfig small = .ok (new valid_small) := ofConfig_of_valid valid_small
  obtain ⟨hfresh, -, -, -, -, -, -, -, hfurther⟩ :=
    reset_indistinguishable hnew usage [.run, .traceLine]
  refine ⟨hnew, ?_, ?_, ?_, ?_, hfresh, hfurther⟩ <;> decide +kernel

end Machine

end EightBit
