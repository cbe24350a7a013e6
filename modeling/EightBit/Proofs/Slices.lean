import EightBit.Proofs.Dependence
import EightBit.Proofs.Termination

/-!
# Runs cut into slices

A run can be cut at any count of instructions: if its first part uses up its budget, the rest is a
run of the machine which that part left (`runSlice_of_completed`), and otherwise there is no rest
(`runSlice_of_not_completed`). Output and snapshots that are taken in between make no difference,
since a machine never looks at what it has collected (`runSlice_behind`), and neither does it make
a difference to the program whether snapshots are recorded (`runSlice_of_core_eq`).
-/

namespace EightBit

namespace Machine

variable {config : Config}

/-! ## How runs follow from their steps -/

theorem Continues.trans {n k : Nat} {m m' m'' : Machine config} (h : Continues n m m')
    (h' : Continues k m' m'') : Continues (n + k) m m'' := by
  induction h with
  | refl m =>
    rw [Nat.zero_add]
    exact h'
  | head hstep _ ih =>
    rw [Nat.succ_add]
    exact .head hstep (ih h')

namespace Follows

variable {m m' m'' final final' : Machine config} {budget rest k n : Nat} {reason : Stop}

/-- More budget makes no difference to a run that did not use up what it had. -/
theorem with_more (h : m.Follows budget k m' reason final) (hreason : reason ≠ .completed)
    (rest : Nat) : m.Follows (budget + rest) k m' reason final := by
  obtain ⟨hcontinues, ⟨-, hcompleted, -⟩ | ⟨hlt, hstop⟩⟩ := h
  · exact absurd hcompleted hreason
  · exact ⟨hcontinues, Or.inr ⟨Nat.lt_add_right rest hlt, hstop⟩⟩

/-- A run that used up its budget goes on by a run of the machine it left. -/
theorem and_then (h : m.Follows budget k m' .completed final)
    (h' : final.Follows rest n m'' reason final') :
    m.Follows (budget + rest) (budget + n) m'' reason final' := by
  obtain ⟨hcontinues, ⟨rfl, -, rfl⟩ | ⟨-, hstop, -⟩⟩ := h
  · obtain ⟨hcontinues', hends⟩ := h'
    refine ⟨hcontinues.trans hcontinues', ?_⟩
    rcases hends with ⟨rfl, hrest⟩ | ⟨hlt, hrest⟩
    · exact Or.inl ⟨rfl, hrest⟩
    · exact Or.inr ⟨Nat.add_lt_add_left hlt k, hrest⟩
  · exact absurd hstop stop?_ne_completed

end Follows

/-! ## Cutting a run -/

section

variable {m : Machine config} {first : Nat}

/-- A run that did not use up its budget is the same with more of it. -/
theorem runSlice_of_not_completed (hpending : m.interruptPending = false)
    (h : (m.runSlice first).exit.reason ≠ .completed) (rest : Nat) :
    (m.runSlice (first + rest)).exit = (m.runSlice first).exit ∧
      (m.runSlice (first + rest)).machine = (m.runSlice first).machine := by
  obtain ⟨m', hfollows⟩ := follows_runSlice (Or.inl hpending : _ ∨ first = 0)
  exact (hfollows.with_more h rest).runSlice_eq hpending

/-- A run that used up its budget has completed as many instructions, and takes no interrupt with
it. -/
theorem executed_of_completed (hpending : m.interruptPending = false)
    (h : (m.runSlice first).exit.reason = .completed) :
    (m.runSlice first).exit.executed = first ∧
      (m.runSlice first).machine.interruptPending = false := by
  obtain ⟨m', hfollows⟩ := follows_runSlice (Or.inl hpending : _ ∨ first = 0)
  obtain ⟨lines, -, -, hkeep⟩ := hfollows.continues.reaches
  rcases hfollows.ends with ⟨hcount, -, hmachine⟩ | ⟨-, hstop, -⟩
  · rw [hmachine]
    exact ⟨hcount, hkeep.trans hpending⟩
  · rw [h] at hstop
    exact absurd hstop stop?_ne_completed

/-- What follows a run that used up its budget is a run of the machine it left. -/
theorem runSlice_of_completed (hpending : m.interruptPending = false)
    (h : (m.runSlice first).exit.reason = .completed) (rest : Nat) :
    (m.runSlice (first + rest)).exit =
        ⟨((m.runSlice first).machine.runSlice rest).exit.reason,
          first + ((m.runSlice first).machine.runSlice rest).exit.executed⟩ ∧
      (m.runSlice (first + rest)).machine =
        ((m.runSlice first).machine.runSlice rest).machine := by
  obtain ⟨m', hfollows⟩ := follows_runSlice (Or.inl hpending : _ ∨ first = 0)
  obtain ⟨-, hkeep⟩ := executed_of_completed hpending h
  obtain ⟨m'', hfollows'⟩ := follows_runSlice (Or.inl hkeep : _ ∨ rest = 0)
  rw [h] at hfollows
  exact (hfollows.and_then hfollows').runSlice_eq hpending

end

/-! ## What was collected before a run -/

/-- The machine with output and snapshots collected before those that it has. -/
def behind (output : List Line) (snapshots : List Snapshot) (m : Machine config) :
    Machine config :=
  { m with output := output ++ m.output, snapshots := snapshots ++ m.snapshots }

section

variable (output : List Line) (snapshots : List Snapshot)

/-- A run does not look at what was collected before it. -/
theorem runSlice_behind {m : Machine config} (hpending : m.interruptPending = false)
    (budget : Nat) :
    ((m.behind output snapshots).runSlice budget).exit = (m.runSlice budget).exit ∧
      ((m.behind output snapshots).runSlice budget).machine =
        (m.runSlice budget).machine.behind output snapshots := by
  obtain ⟨hexit, -, hway⟩ := @runFrom_of_core_eq config config.tracing m
    (m.behind output snapshots) rfl budget (Or.inl hpending) (Or.inl hpending) 0
  obtain ⟨lines, hlines, hlines'⟩ := hway.output
  obtain ⟨taken, htaken, htaken'⟩ := hway.snapshots
  refine ⟨hexit, eq_of_core_eq hway.core ?_ ?_
    (hway.interruptPending'.trans hway.interruptPending.symm)⟩
  · exact hlines'.trans ((List.append_assoc _ _ _).trans (congrArg (output ++ ·) hlines.symm))
  · exact htaken'.trans ((List.append_assoc _ _ _).trans (congrArg (snapshots ++ ·) htaken.symm))

end

/-! ## Recording snapshots -/

/-- Machines in the same place run alike, whether they record snapshots or not. -/
theorem runSlice_of_core_eq {tracing : Bool} {m : Machine config}
    {m' : Machine { config with tracing }} (hcore : m'.core = m.core)
    (hpending : m.interruptPending = false) (hpending' : m'.interruptPending = false)
    (houtput : m'.output = m.output) (budget : Nat) :
    (m'.runSlice budget).exit = (m.runSlice budget).exit ∧
      (m'.runSlice budget).machine.output = (m.runSlice budget).machine.output := by
  obtain ⟨hexit, -, hway⟩ :=
    runFrom_of_core_eq hcore (Or.inl hpending : _ ∨ budget = 0) (Or.inl hpending') 0
  obtain ⟨lines, hlines, hlines'⟩ := hway.output
  rw [← houtput] at hlines
  exact ⟨hexit, hlines'.trans hlines.symm⟩

/-- A machine that records no snapshots has no more of them after a run. -/
theorem snapshots_runSlice {m : Machine config} (h : config.tracing = false)
    (hpending : m.interruptPending = false) (budget : Nat) :
    (m.runSlice budget).machine.snapshots = m.snapshots := by
  -- the run is compared with itself
  obtain ⟨-, -, hway⟩ := @runFrom_of_core_eq config config.tracing m m rfl budget
    (Or.inl hpending) (Or.inl hpending) 0
  exact hway.snapshots_eq h

end Machine

end EightBit
