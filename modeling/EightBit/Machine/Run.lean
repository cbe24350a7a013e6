import EightBit.Machine.Basic

/-!
# Runs

A run carries out instructions until the program stops, its budget is used up, or an interrupt
arrives. Every instruction that lets the program go on takes up at least two cells of memory, so
the program counter nears the end of memory with each: a run ends whatever its budget is.
-/

namespace EightBit

/-- Why a run ended. -/
inductive Stop where
  /-- The budget is used up. -/
  | completed
  | halted
  | unknownOpcode (byte : UInt8) (pc : Nat)
  | faulted (fault : Fault) (pc : Nat)
  | interrupted
deriving DecidableEq, Repr

/-- Whether the program ended by itself and without a fault. -/
def Stop.isHalt : Stop → Bool
  | .halted | .unknownOpcode .. => true
  | .completed | .faulted .. | .interrupted => false

/-- How a run ended. -/
structure Exit where
  reason : Stop
  /-- How many instructions were completed. The one that ends a program is not counted. -/
  executed : Nat
deriving DecidableEq, Repr

/-- A run with all that came of it. -/
structure Run (config : Config) where
  exit : Exit
  machine : Machine config
  events : List Event

/-- A run that began with some events before those already known. -/
def Run.after {config : Config} (events : List Event) (r : Run config) : Run config :=
  { r with events := events ++ r.events }

namespace Machine

variable {config : Config}

/-- Goes on with a run that has completed `executed` instructions, for at most so many more. -/
def runFrom (executed : Nat) : Nat → Machine config → Run config
  | 0, m => ⟨⟨.completed, executed⟩, m, []⟩
  | budget + 1, m =>
    if m.interruptPending then
      ⟨⟨.interrupted, executed⟩, { m with interruptPending := false },
        [.interrupted m.pc executed]⟩
    else
      let s := m.step
      match s.result with
      | .ok .continued => (runFrom (executed + 1) budget s.machine).after s.events
      | .ok .halted =>
        ⟨⟨.halted, executed⟩, s.machine, s.events ++ [.halted m.pc executed]⟩
      | .ok (.unknownOpcode byte) =>
        ⟨⟨.unknownOpcode byte m.pc, executed⟩, s.machine, s.events ++ [.unknownOpcode m.pc byte]⟩
      | .error fault =>
        ⟨⟨.faulted fault m.pc, executed⟩, s.machine, s.events ++ [.faulted m.pc executed fault]⟩

/-- Runs for at most `budget` instructions. -/
def runSlice (budget : Nat) (m : Machine config) : Run config :=
  m.runFrom 0 budget

/-- The budget of a run that is not meant to have one: the largest number of 64 bits. -/
def unlimited : Nat := UInt64.size - 1

/-- Runs until the program stops or is interrupted. -/
def run (m : Machine config) : Run config :=
  m.runSlice unlimited

/-! ## Progress -/

/-- How much memory lies ahead of the program counter. -/
def remaining (m : Machine config) : Nat :=
  config.memorySize - m.pc

/-- A step that continues brings the program counter nearer to the end of memory. -/
theorem remaining_step_lt {m : Machine config} (h : m.step.result = .ok .continued) :
    m.step.machine.remaining < m.remaining := by
  simp only [step] at h ⊢
  split at h
  · cases h
  · cases h
  · rename_i i hfetch
    split at h
    · cases h
    · cases h
    · rename_i store line hexec
      have hlt : m.pc < config.memorySize := Memory.lt_of_fetch_eq_ok hfetch
      have hlen := Instruction.two_le_length hexec
      simp only [remaining, advance, recorded]
      omega

theorem remaining_step_le (m : Machine config) : m.step.machine.remaining ≤ m.remaining := by
  simp only [step]
  split
  · exact Nat.le_refl _
  · exact Nat.le_refl _
  · split
    · exact Nat.le_refl _
    · exact Nat.le_refl _
    · simp only [remaining, advance, recorded]
      omega

/-- No run moves the program counter back. -/
theorem remaining_runFrom_le (executed budget : Nat) (m : Machine config) :
    (m.runFrom executed budget).machine.remaining ≤ m.remaining := by
  induction budget generalizing executed m with
  | zero => exact Nat.le_refl _
  | succ budget ih =>
    have hstep : m.step.machine.remaining ≤ m.remaining := remaining_step_le m
    rw [runFrom]
    split
    · exact Nat.le_refl _
    · dsimp only
      split
      · exact Nat.le_trans (ih _ _) hstep
      all_goals exact hstep

/-- A run that used up its budget, if it had any, is nearer to the end of memory. -/
theorem remaining_runSlice_lt {budget : Nat} {m : Machine config} (hbudget : 0 < budget)
    (h : (m.runSlice budget).exit.reason = .completed) :
    (m.runSlice budget).machine.remaining < m.remaining := by
  obtain ⟨n, rfl⟩ : ∃ n, budget = n + 1 := ⟨budget - 1, by omega⟩
  simp only [runSlice, runFrom] at h ⊢
  split at h
  · cases h
  · split at h
    · rename_i hp _ hcont
      simp only [hp, Run.after]
      exact Nat.lt_of_le_of_lt (remaining_runFrom_le _ _ _) (remaining_step_lt hcont)
    all_goals cases h

end Machine

end EightBit
