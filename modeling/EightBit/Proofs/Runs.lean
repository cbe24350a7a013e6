import EightBit.Proofs.Core
import EightBit.Proofs.Step

/-!
# Runs as sequences of steps

`Machine.Continues` counts steps that continue. A run that no interrupt stops takes such steps one
after the other until its budget is used up or the program stops (`follows_runFrom`), and all of
this happens to the core of the machine (`Continues.reaches`).
-/

namespace EightBit

namespace Machine

variable {config : Config}

/-- The part of a machine that its program works on. -/
def core (m : Machine config) : Core config.memorySize :=
  ⟨m.store, m.pc⟩

@[simp] theorem core_recorded (m : Machine config) : m.recorded.core = m.core :=
  rfl

@[simp] theorem output_recorded (m : Machine config) : m.recorded.output = m.output :=
  rfl

/-! ## One step -/

/-- Why a step stops the program, if it does. -/
def stop? (m : Machine config) : Option Stop :=
  match m.step.result with
  | .ok .continued => none
  | .ok .halted => some .halted
  | .ok (.unknownOpcode byte) => some (.unknownOpcode byte m.pc)
  | .error fault => some (.faulted fault m.pc)

theorem stop?_eq_none_iff {m : Machine config} :
    m.stop? = none ↔ m.step.result = .ok .continued := by
  unfold stop?
  split <;> simp_all

/-- A step has no budget that could be used up. -/
theorem stop?_ne_completed {m : Machine config} : m.stop? ≠ some .completed := by
  unfold stop?
  split <;> simp

/-- A step does not look for an interrupt. -/
theorem stop?_ne_interrupted {m : Machine config} : m.stop? ≠ some .interrupted := by
  unfold stop?
  split <;> simp

/-- A program that stops has halted unless the step that stops it fails. -/
theorem isHalt_iff_of_stop {m : Machine config} {stop : Stop} (h : m.stop? = some stop) :
    stop.isHalt = true ↔ ∃ s, m.step.result = .ok s := by
  unfold stop? at h
  split at h <;> cases h
  all_goals
    rename_i hresult
    simp [hresult, Stop.isHalt]

theorem machine_step_of_stop {m : Machine config} {stop : Stop} (h : m.stop? = some stop) :
    m.step.machine = m.recorded := by
  refine machine_step_of_not_continued fun hcontinued => ?_
  rw [stop?_eq_none_iff.mpr hcontinued] at h
  cases h

/-- A step stops the program exactly where the core does not go on. -/
theorem next_of_stop {m : Machine config} {stop : Stop} (h : m.stop? = some stop) :
    m.core.next config.product = .error stop := by
  unfold stop? at h
  rcases hfetch : m.memory.fetch m.pc with fault | ⟨i⟩ | byte
  · rw [step_of_fetch_error hfetch] at h
    cases h
    simp only [Core.next, core, hfetch]
  · rcases hexec : i.execute config.product m.store with fault | _ | ⟨store, line⟩
    · rw [step_of_execute_error hfetch hexec] at h
      cases h
      simp only [Core.next, core, hfetch, hexec]
    · rw [step_of_halt hfetch hexec] at h
      cases h
      simp only [Core.next, core, hfetch, hexec]
    · rw [step_of_proceed hfetch hexec] at h
      cases h
  · rw [step_of_unknown hfetch] at h
    cases h
    simp only [Core.next, core, hfetch]

/-- A step that continues moves the core on, adds to the output what that prints, and leaves the
interrupt to the next run. -/
theorem next_of_continued {m : Machine config} (h : m.step.result = .ok .continued) :
    ∃ lines, m.core.next config.product = .ok (m.step.machine.core, lines) ∧
      m.step.machine.output = m.output ++ lines ∧
      m.step.machine.interruptPending = m.interruptPending := by
  rcases hfetch : m.memory.fetch m.pc with fault | ⟨i⟩ | byte
  · rw [step_of_fetch_error hfetch] at h
    cases h
  · rcases hexec : i.execute config.product m.store with fault | _ | ⟨store, line⟩
    · rw [step_of_execute_error hfetch hexec] at h
      cases h
    · rw [step_of_halt hfetch hexec] at h
      cases h
    · refine ⟨line.toList, ?_⟩
      rw [step_of_proceed hfetch hexec]
      refine ⟨?_, rfl, rfl⟩
      simp only [Core.next, core, hfetch, hexec]
      rfl
  · rw [step_of_unknown hfetch] at h
    cases h

/-! ## Steps that continue -/

/-- `n` steps, each of which continues, lead from one machine to another. -/
inductive Continues : Nat → Machine config → Machine config → Prop where
  | refl (m : Machine config) : Continues 0 m m
  | head {n : Nat} {m m' : Machine config} (hstep : m.step.result = .ok .continued)
      (hrest : Continues n m.step.machine m') : Continues (n + 1) m m'

theorem Continues.reaches {n : Nat} {m m' : Machine config} (h : Continues n m m') :
    ∃ lines, m.core.Reaches config.product n lines m'.core ∧
      m'.output = m.output ++ lines ∧ m'.interruptPending = m.interruptPending := by
  induction h with
  | refl m => exact ⟨[], .refl _, (List.append_nil _).symm, rfl⟩
  | head hstep _ ih =>
    obtain ⟨first, hnext, houtput, hpending⟩ := next_of_continued hstep
    obtain ⟨rest, hreaches, houtput', hpending'⟩ := ih
    refine ⟨first ++ rest, .head hnext hreaches, ?_, hpending'.trans hpending⟩
    rw [houtput', houtput, List.append_assoc]

/-- Where the core reaches, the machine gets by steps that continue. -/
theorem exists_continues_of_reaches {n : Nat} {lines : List Line} {c : Core config.memorySize}
    {m : Machine config} (h : m.core.Reaches config.product n lines c) :
    ∃ m', Continues n m m' ∧ m'.core = c := by
  generalize hm : m.core = start at h
  induction h generalizing m with
  | refl start => exact ⟨m, .refl m, hm⟩
  | head hnext _ ih =>
    rw [← hm] at hnext
    rcases hstop : m.stop? with _ | stop
    · have hstep := stop?_eq_none_iff.mp hstop
      obtain ⟨first, hnext', -, -⟩ := next_of_continued hstep
      rw [hnext'] at hnext
      cases hnext
      obtain ⟨m', hrest, hcore⟩ := ih rfl
      exact ⟨m', .head hstep hrest, hcore⟩
    · rw [next_of_stop hstop] at hnext
      cases hnext

/-! ## Runs -/

/-- A run from `m` completes `k` of at most `budget` instructions, which leads to `m'`, and ends
there: because its budget is used up, or because the next step stops the program. -/
structure Follows (m : Machine config) (budget k : Nat) (m' : Machine config) (reason : Stop)
    (final : Machine config) : Prop where
  continues : Continues k m m'
  ends : k = budget ∧ reason = .completed ∧ final = m' ∨
    k < budget ∧ m'.stop? = some reason ∧ final = m'.recorded

theorem runFrom_of_pending {m : Machine config} (h : m.interruptPending = true)
    (executed budget : Nat) :
    m.runFrom executed (budget + 1) =
      ⟨⟨.interrupted, executed⟩, { m with interruptPending := false },
        [.interrupted m.pc executed]⟩ := by
  rw [runFrom, if_pos h]

/-- A run whose first step stops the program ends there. -/
theorem runFrom_of_stop {m : Machine config} {stop : Stop} (h : m.interruptPending = false)
    (hstop : m.stop? = some stop) (executed budget : Nat) :
    (m.runFrom executed (budget + 1)).exit = ⟨stop, executed⟩ ∧
      (m.runFrom executed (budget + 1)).machine = m.recorded := by
  rw [← machine_step_of_stop hstop, runFrom, h]
  unfold stop? at hstop
  split at hstop
  · cases hstop
  all_goals
    rename_i hresult
    cases hstop
    simp only [hresult]
    exact ⟨rfl, rfl⟩

/-- A run whose first step continues goes on from there. -/
theorem runFrom_of_continued {m : Machine config} (h : m.interruptPending = false)
    (hstep : m.step.result = .ok .continued) (executed budget : Nat) :
    m.runFrom executed (budget + 1) =
      (m.step.machine.runFrom (executed + 1) budget).after m.step.events := by
  rw [runFrom, h]
  simp only [hstep]
  rfl

/-- The first steps of a run, if they continue, lead to a run with what is left of the budget. -/
theorem runFrom_of_continues {n : Nat} {m m' : Machine config} (h : Continues n m m')
    (hpending : m.interruptPending = false) (executed budget : Nat) :
    (m.runFrom executed (n + budget)).exit = (m'.runFrom (executed + n) budget).exit ∧
      (m.runFrom executed (n + budget)).machine =
        (m'.runFrom (executed + n) budget).machine := by
  induction h generalizing executed with
  | refl m => rw [Nat.zero_add, Nat.add_zero]; exact ⟨rfl, rfl⟩
  | @head n m m' hstep hrest ih =>
    obtain ⟨lines, -, -, hkeep⟩ := next_of_continued hstep
    have hcount : executed + (n + 1) = executed + 1 + n := by omega
    rw [Nat.succ_add, runFrom_of_continued hpending hstep, hcount]
    exact ih (hkeep.trans hpending) (executed + 1)

/-- The steps of a run determine how it ends. -/
theorem Follows.runSlice_eq {m m' final : Machine config} {budget k : Nat} {reason : Stop}
    (h : m.Follows budget k m' reason final) (hpending : m.interruptPending = false) :
    (m.runSlice budget).exit = ⟨reason, k⟩ ∧ (m.runSlice budget).machine = final := by
  obtain ⟨hcontinues, hends⟩ := h
  obtain ⟨lines, -, -, hkeep⟩ := hcontinues.reaches
  -- what is left of the budget behind the steps that continue
  obtain ⟨rest, rfl⟩ : ∃ rest, budget = k + rest := ⟨budget - k, by omega⟩
  obtain ⟨hexit, hmachine⟩ := runFrom_of_continues hcontinues hpending 0 rest
  rw [Nat.zero_add] at hexit hmachine
  rw [runSlice, hexit, hmachine]
  rcases hends with ⟨hcount, rfl, rfl⟩ | ⟨hlt, hstop, rfl⟩
  · obtain rfl : rest = 0 := by omega
    exact ⟨rfl, rfl⟩
  · obtain ⟨left, rfl⟩ : ∃ left, rest = left + 1 := ⟨rest - 1, by omega⟩
    exact runFrom_of_stop (hkeep.trans hpending) hstop k left

/-- A run that no interrupt stops carries out instructions until it ends. -/
theorem follows_runFrom {m : Machine config} {budget : Nat}
    (h : m.interruptPending = false ∨ budget = 0) (executed : Nat) :
    ∃ k m', (m.runFrom executed budget).exit.executed = executed + k ∧
      m.Follows budget k m' (m.runFrom executed budget).exit.reason
        (m.runFrom executed budget).machine := by
  -- induction on the budget; a step keeps the interrupt flag down, so each round gets to its step
  induction budget generalizing executed m with
  | zero => exact ⟨0, m, rfl, .refl m, Or.inl ⟨rfl, rfl, rfl⟩⟩
  | succ budget ih =>
    have hpending : m.interruptPending = false := h.resolve_right (Nat.succ_ne_zero budget)
    rcases hstop : m.stop? with _ | stop
    · have hstep := stop?_eq_none_iff.mp hstop
      obtain ⟨lines, -, -, hkeep⟩ := next_of_continued hstep
      obtain ⟨k, m', hexecuted, hcontinues, hends⟩ :=
        ih (Or.inl (hkeep.trans hpending)) (executed + 1)
      rw [runFrom_of_continued hpending hstep]
      refine ⟨k + 1, m', by rw [← Nat.add_assoc, Nat.add_right_comm]; exact hexecuted,
        .head hstep hcontinues, ?_⟩
      rcases hends with ⟨rfl, hrest⟩ | ⟨hlt, hrest⟩
      · exact Or.inl ⟨rfl, hrest⟩
      · exact Or.inr ⟨Nat.succ_lt_succ hlt, hrest⟩
    · obtain ⟨hexit, hmachine⟩ := runFrom_of_stop hpending hstop executed budget
      rw [hexit, hmachine]
      exact ⟨0, m, rfl, .refl m, Or.inr ⟨Nat.succ_pos budget, hstop, rfl⟩⟩

theorem follows_runSlice {m : Machine config} {budget : Nat}
    (h : m.interruptPending = false ∨ budget = 0) :
    ∃ m', m.Follows budget (m.runSlice budget).exit.executed m'
      (m.runSlice budget).exit.reason (m.runSlice budget).machine := by
  obtain ⟨k, m', hexecuted, hfollows⟩ := follows_runFrom h 0
  rw [Nat.zero_add] at hexecuted
  rw [runSlice, hexecuted]
  exact ⟨m', hfollows⟩

/-- A run that an interrupt stops only takes back the request. -/
theorem runSlice_of_pending {m : Machine config} {budget : Nat} (h : m.interruptPending = true)
    (hbudget : budget ≠ 0) :
    m.runSlice budget =
      ⟨⟨.interrupted, 0⟩, { m with interruptPending := false }, [.interrupted m.pc 0]⟩ := by
  obtain ⟨n, rfl⟩ := Nat.exists_eq_succ_of_ne_zero hbudget
  exact runFrom_of_pending h 0 n

/-- Whatever ends a run, the core has moved on by the instructions that were completed, and what
they print has been added to the output. -/
theorem reaches_runSlice (m : Machine config) (budget : Nat) :
    ∃ lines, m.core.Reaches config.product (m.runSlice budget).exit.executed lines
        (m.runSlice budget).machine.core ∧
      (m.runSlice budget).machine.output = m.output ++ lines := by
  by_cases h : m.interruptPending = false ∨ budget = 0
  · obtain ⟨m', hcontinues, hends⟩ := follows_runSlice h
    obtain ⟨lines, hreaches, houtput, -⟩ := hcontinues.reaches
    refine ⟨lines, ?_⟩
    rcases hends with ⟨-, -, hmachine⟩ | ⟨-, -, hmachine⟩ <;> rw [hmachine]
    · exact ⟨hreaches, houtput⟩
    · exact ⟨hreaches, houtput⟩
  · rw [not_or, Bool.not_eq_false] at h
    rw [runSlice_of_pending h.1 h.2]
    exact ⟨[], .refl _, (List.append_nil _).symm⟩

/-- A run in which the program stops leaves the machine as it is after the instructions that were
completed, but for the snapshot of the one that stops it. -/
theorem exists_stop_of_reason {m : Machine config} {budget : Nat}
    (hcompleted : (m.runSlice budget).exit.reason ≠ .completed)
    (hinterrupted : (m.runSlice budget).exit.reason ≠ .interrupted) :
    ∃ m', Continues (m.runSlice budget).exit.executed m m' ∧
      m'.stop? = some (m.runSlice budget).exit.reason ∧
      (m.runSlice budget).machine = m'.recorded := by
  by_cases h : m.interruptPending = false ∨ budget = 0
  · obtain ⟨m', hcontinues, hends⟩ := follows_runSlice h
    rcases hends with ⟨-, hreason, -⟩ | ⟨-, hstop, hmachine⟩
    · exact absurd hreason hcompleted
    · exact ⟨m', hcontinues, hstop, hmachine⟩
  · rw [not_or, Bool.not_eq_false] at h
    rw [runSlice_of_pending h.1 h.2] at hinterrupted
    exact absurd rfl hinterrupted

/-- Where a run leaves off because the program stops, the core does not go on. -/
theorem next_of_reason {m : Machine config} {budget : Nat}
    (hcompleted : (m.runSlice budget).exit.reason ≠ .completed)
    (hinterrupted : (m.runSlice budget).exit.reason ≠ .interrupted) :
    (m.runSlice budget).machine.core.next config.product =
      .error (m.runSlice budget).exit.reason := by
  obtain ⟨m', -, hstop, hmachine⟩ := exists_stop_of_reason hcompleted hinterrupted
  rw [hmachine, core_recorded]
  exact next_of_stop hstop

theorem exit_eq {e : Exit} {reason : Stop} {executed : Nat} (hreason : e.reason = reason)
    (hexecuted : e.executed = executed) : e = ⟨reason, executed⟩ := by
  rw [← hreason, ← hexecuted]

section

variable {m : Machine config} {n : Nat} {lines : List Line} {c : Core config.memorySize}

/-- A run with a budget for exactly the instructions that can follow completes them. -/
theorem runSlice_of_reaches (h : m.interruptPending = false)
    (hreaches : m.core.Reaches config.product n lines c) :
    (m.runSlice n).exit = ⟨.completed, n⟩ ∧ (m.runSlice n).machine.core = c ∧
      (m.runSlice n).machine.output = m.output ++ lines := by
  obtain ⟨m', hcontinues, hends⟩ := follows_runSlice (Or.inl h : _ ∨ n = 0)
  obtain ⟨lines', hreaches', houtput, -⟩ := hcontinues.reaches
  rcases hends with ⟨hcount, hreason, hmachine⟩ | ⟨hlt, hstop, -⟩
  · rw [hcount] at hreaches'
    -- as many instructions as in the run, so they end in the same place
    obtain ⟨rfl, hcore⟩ := hreaches'.unique hreaches
    rw [hmachine]
    exact ⟨exit_eq hreason hcount, hcore, houtput⟩
  · -- the program cannot stop before an instruction that follows
    have hle := hreaches'.le_of_stop (next_of_stop hstop) hreaches
    omega

/-- A run whose budget goes beyond the point where the program stops ends there. -/
theorem runSlice_of_reaches_stop {stop : Stop} {budget : Nat} (h : m.interruptPending = false)
    (hreaches : m.core.Reaches config.product n lines c)
    (hstop : c.next config.product = .error stop) (hbudget : n < budget) :
    (m.runSlice budget).exit = ⟨stop, n⟩ := by
  obtain ⟨m', hcontinues, hends⟩ := follows_runSlice (Or.inl h : _ ∨ budget = 0)
  obtain ⟨lines', hreaches', -, -⟩ := hcontinues.reaches
  -- the run stays within the `n` instructions, so its budget is not what ends it
  have hle := hreaches.le_of_stop hstop hreaches'
  rcases hends with ⟨hcount, -, -⟩ | ⟨-, hreason, -⟩
  · omega
  · have hstop' := next_of_stop hreason
    have hcount : (m.runSlice budget).exit.executed = n :=
      Nat.le_antisymm hle (hreaches'.le_of_stop hstop' hreaches)
    rw [hcount] at hreaches'
    obtain ⟨-, rfl⟩ := hreaches'.unique hreaches
    rw [hstop] at hstop'
    exact exit_eq (Except.error.inj hstop').symm hcount

end

end Machine

end EightBit
