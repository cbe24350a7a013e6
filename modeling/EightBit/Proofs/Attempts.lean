import EightBit.Proofs.Stack

/-!
# The steps of a run

A run attempts the steps that it completes and, if the program stops, one more (`Exit.attempts`).
The machine before each attempt is one of `beforeSteps`, which knows nothing of runs, so what holds
of every step holds of a run:

* the steps that a run completes continue, and the one attempted after them, if any, stops the
  program for the reason that the run gives;
* the run leaves the machine behind its attempts, where only a request to interrupt may have been
  taken back (`attempts_runSlice`);
* and steps that all continue make up a run (`continues_afterSteps`).
-/

namespace EightBit

/-- How many steps a run attempts: those that it completes, and the one in which the program stops,
if it does. -/
def Exit.attempts (e : Exit) : Nat :=
  match e.reason with
  | .completed | .interrupted => e.executed
  | .halted | .unknownOpcode .. | .faulted .. => e.executed + 1

namespace Machine

variable {config : Config}

/-- The machine before each of the next `n` steps. -/
def beforeSteps (m : Machine config) (n : Nat) : List (Machine config) :=
  (List.range n).map m.afterSteps

theorem beforeSteps_succ (m : Machine config) (n : Nat) :
    m.beforeSteps (n + 1) = m.beforeSteps n ++ [m.afterSteps n] := by
  simp [beforeSteps, List.range_succ]

theorem mem_beforeSteps {m s : Machine config} {n : Nat} :
    s ∈ m.beforeSteps n ↔ ∃ i < n, m.afterSteps i = s := by
  simp [beforeSteps]

/-- The steps behind the first are those of the machine that the first leaves. -/
theorem afterSteps_succ_eq (m : Machine config) (n : Nat) :
    m.afterSteps (n + 1) = m.step.machine.afterSteps n := by
  induction n with
  | zero => rfl
  | succ n ih => exact congrArg (fun s => s.step.machine) ih

theorem beforeSteps_succ_eq (m : Machine config) (n : Nat) :
    m.beforeSteps (n + 1) = m :: m.step.machine.beforeSteps n := by
  simp only [beforeSteps, List.range_succ_eq_map, List.map_cons, List.map_map]
  congr 1
  exact List.map_congr_left fun i _ => m.afterSteps_succ_eq i

/-! ## Steps that continue -/

theorem Continues.eq_afterSteps {n : Nat} {m m' : Machine config} (h : Continues n m m') :
    m' = m.afterSteps n := by
  induction h with
  | refl m => rfl
  | head _ _ ih => rw [ih, afterSteps_succ_eq]

theorem Continues.continued {n : Nat} {m m' : Machine config} (h : Continues n m m') :
    ∀ i < n, (m.afterSteps i).step.result = .ok .continued := by
  induction h with
  | refl m =>
    intro i hi
    omega
  | head hstep _ ih =>
    intro i hi
    rcases i with _ | i
    · exact hstep
    · rw [afterSteps_succ_eq]
      exact ih i (by omega)

theorem continues_afterSteps {m : Machine config} {n : Nat}
    (h : ∀ i < n, (m.afterSteps i).step.result = .ok .continued) :
    Continues n m (m.afterSteps n) := by
  induction n generalizing m with
  | zero => exact .refl m
  | succ n ih =>
    rw [afterSteps_succ_eq]
    refine .head (h 0 (Nat.succ_pos n)) (ih fun i hi => ?_)
    rw [← afterSteps_succ_eq]
    exact h (i + 1) (by omega)

/-- Only a step that continues completes an instruction. -/
theorem completed?_of_not_continued {m : Machine config} (h : m.step.result ≠ .ok .continued) :
    m.completed? = none := by
  rcases hcompleted : m.completed? with _ | i
  · rfl
  · exact absurd (completed?_eq_some hcompleted).1 h

/-! ## The steps of a run -/

theorem attempts_of_stop {m : Machine config} {e : Exit} (h : m.stop? = some e.reason) :
    e.attempts = e.executed + 1 := by
  unfold Exit.attempts
  split
  · rename_i hreason
    rw [hreason] at h
    exact absurd h stop?_ne_completed
  · rename_i hreason
    rw [hreason] at h
    exact absurd h stop?_ne_interrupted
  all_goals rfl

theorem executed_le_attempts (e : Exit) : e.executed ≤ e.attempts := by
  unfold Exit.attempts
  split <;> omega

/-- What is known of the steps of a run with the exit `e` that leaves `final`. -/
structure Attempts (m : Machine config) (e : Exit) (final : Machine config) : Prop where
  continued : ∀ i < e.executed, (m.afterSteps i).step.result = .ok .continued
  stopped : e.attempts = e.executed ∨
    e.attempts = e.executed + 1 ∧ (m.afterSteps e.executed).stop? = some e.reason
  leaves : final = { m.afterSteps e.attempts with interruptPending := final.interruptPending }

namespace Attempts

variable {m final : Machine config} {e : Exit}

theorem completed (h : m.Attempts e final) :
    ∀ s ∈ m.beforeSteps e.executed, ∃ i, s.completed? = some i := by
  intro s hs
  obtain ⟨i, hi, rfl⟩ := mem_beforeSteps.mp hs
  exact exists_completed_of_continued (h.continued i hi)

theorem core_eq (h : m.Attempts e final) : final.core = (m.afterSteps e.executed).core := by
  have hcore : final.core = (m.afterSteps e.attempts).core := by
    rw [h.leaves]
    rfl
  rcases h.stopped with hattempts | ⟨hattempts, hstop⟩
  · rw [hcore, hattempts]
  · rw [hcore, hattempts, afterSteps, machine_step_of_stop hstop, core_recorded]

end Attempts

theorem attempts_runSlice (m : Machine config) (budget : Nat) :
    m.Attempts (m.runSlice budget).exit (m.runSlice budget).machine := by
  by_cases h : m.interruptPending = false ∨ budget = 0
  · obtain ⟨m', hcontinues, hends⟩ := follows_runSlice h
    have hm' := hcontinues.eq_afterSteps
    rcases hends with ⟨-, hreason, hmachine⟩ | ⟨-, hstop, hmachine⟩
    · have hattempts : (m.runSlice budget).exit.attempts = (m.runSlice budget).exit.executed := by
        unfold Exit.attempts
        rw [hreason]
      refine ⟨hcontinues.continued, Or.inl hattempts, ?_⟩
      rw [hattempts, ← hm', hmachine]
    · have hattempts := attempts_of_stop hstop
      -- the step that stops the program leaves what the run leaves
      have hlast : m.afterSteps ((m.runSlice budget).exit.executed + 1) = m'.recorded := by
        rw [← machine_step_of_stop hstop, hm']
        rfl
      rw [hm'] at hstop
      refine ⟨hcontinues.continued, Or.inr ⟨hattempts, hstop⟩, ?_⟩
      rw [hattempts, hlast, hmachine]
  · rw [not_or, Bool.not_eq_false] at h
    rw [runSlice_of_pending h.1 h.2]
    refine ⟨fun i hi => ?_, Or.inl rfl, rfl⟩
    exact absurd hi (Nat.not_lt_zero i)

end Machine

end EightBit
