import EightBit.Proofs.History
import EightBit.Proofs.Termination

/-!
# How execution is cut into calls

Steps, runs, budgets, interrupts and the taking of output may follow each other in any order. What
they do to the program is what one run does with a budget for all the instructions that were
completed (`after_eq_runSlice`): none is lost or carried out twice, and no output is lost.
-/

namespace EightBit

namespace Machine

variable {config : Config}

/-- The machine without a waiting interrupt. -/
def uninterrupted (m : Machine config) : Machine config :=
  { m with interruptPending := false }

/-! ## Calls in which the program stops -/

/-- The reason that a call of the step gives for a stop is that of the step. -/
theorem stop?_of_step {m : Machine config} {stop : Stop}
    (h : Request.stop? .step (m.serve .step) = some stop) : m.stop? = some stop := by
  -- the program counter is read off the machine after the step, which has not moved it
  have hpc : m.step.result ≠ .ok .continued → m.step.machine.pc = m.pc := by
    intro hstep
    rw [machine_step_of_not_continued hstep]
    rfl
  unfold stop?
  rcases hresult : m.step.result with fault | _ | _ | byte
  · simp only [serve, hresult, Request.stop?] at h
    rw [hpc (by rw [hresult]; simp)] at h
    exact h
  · simp [serve, hresult, Request.stop?] at h
  · simp only [serve, hresult, Request.stop?] at h
    exact h
  · simp only [serve, hresult, Request.stop?] at h
    rw [hpc (by rw [hresult]; simp)] at h
    exact h

/-- A run in which the program stops gives the reason of its exit. -/
theorem next_of_stop?_run {m : Machine config} {budget : Nat} {stop : Stop}
    (h : Request.stop? (.runSlice budget) (replyRun (m.runSlice budget)) = some stop) :
    (m.runSlice budget).machine.core.next config.product = .error stop := by
  simp only [replyRun, Request.stop?] at h
  split at h
  · cases h
  · rename_i hreason
    rw [not_or] at hreason
    rw [← Option.some.inj h]
    exact next_of_reason hreason.1 hreason.2

/-- Where a call ends because the program stops, the core does not go on. -/
theorem next_serve_of_stop? {m : Machine config} {call : Request} {stop : Stop}
    (h : call.stop? (m.serve call) = some stop) :
    (m.serve call).machine.core.next config.product = .error stop := by
  cases call
  case step =>
    have hstop := stop?_of_step h
    rw [machine_serve_step, machine_step_of_stop hstop, core_recorded]
    exact next_of_stop hstop
  case run =>
    have hrun : Request.stop? (.runSlice unlimited) (replyRun (m.runSlice unlimited)) =
        some stop := h
    exact next_of_stop?_run hrun
  case runSlice budget => exact next_of_stop?_run (m := m) h
  all_goals simp [Request.stop?] at h

/-! ## The single run -/

/-- Whatever the order of calls that leave the program to itself, a copy of the machine without an
interrupt comes to the same memory, registers and program counter by one run, whose budget is the
number `n` of instructions completed and which completes them all; what was taken and what waits
of the output is the output of the copy. If the program stopped in some call, then a run of the
copy without a budget stops for the same reason after `n` instructions. -/
theorem after_eq_runSlice (m : Machine config) (calls : List Request)
    (h : ∀ call ∈ calls, call.changesProgram = false) :
    let n := m.executedIn calls
    let r := m.uninterrupted.runSlice n
    n ≤ unlimited ∧
      r.exit = ⟨.completed, n⟩ ∧
      (m.after calls).memory = r.machine.memory ∧
      (m.after calls).registers = r.machine.registers ∧
      (m.after calls).pc = r.machine.pc ∧
      m.drainedIn calls ++ Line.render (m.after calls).output = Line.render r.machine.output ∧
      ∀ before call rest stop, calls = before ++ call :: rest →
        call.stop? ((m.after before).serve call) = some stop →
        m.uninterrupted.run.exit = ⟨stop, n⟩ := by
  intro n r
  obtain ⟨lines, hreaches, houtput⟩ := m.reaches_after h
  have hbudget : n < unlimited := by
    have hcount : n ≤ (config.memorySize - m.pc) / 2 := hreaches.count_le
    have hsize : config.memorySize ≤ 256 := m.valid.memorySize_le
    simp only [unlimited, UInt64.size]
    omega
  obtain ⟨hexit, hcore, hlines⟩ :=
    runSlice_of_reaches (m := m.uninterrupted) rfl hreaches
  refine ⟨Nat.le_of_lt hbudget, hexit, ?_, ?_, ?_, ?_, ?_⟩
  · exact congrArg (fun c => c.store.memory) hcore.symm
  · exact congrArg (fun c => c.store.registers) hcore.symm
  · exact congrArg (fun c => c.pc) hcore.symm
  · rw [houtput, hlines]
    rfl
  · rintro before call rest stop rfl hstop
    have hnext := next_serve_of_stop? hstop
    -- behind the call in which it stopped, the program stays where it is
    have hrest : ∀ request ∈ rest, request.changesProgram = false := fun request hmem =>
      h request (List.mem_append_right _ (List.mem_cons_of_mem _ hmem))
    have hstay : (m.after (before ++ call :: rest)).core =
        ((m.after before).serve call).machine.core := by
      rw [after_append, after_cons]
      exact core_after_of_stop hnext hrest
    rw [← hstay] at hnext
    exact runSlice_of_reaches_stop (m := m.uninterrupted) rfl hreaches hnext hbudget

/-- A machine whose program prints 7 and halts. -/
def printer : Machine ⟨8, 8, .print, false⟩ where
  valid := ⟨by decide, by decide, by decide⟩
  store := ⟨⟨#v[130, 0, 7, 71, 0, 1, 0, 0]⟩, .zeroed⟩
  pc := 0
  output := []
  snapshots := []
  interruptPending := false

/-- An interrupt comes between the two instructions of `printer`, and the budget of a later run
ends right before it halts. A single run halts after the same two. -/
theorem run_exit_printer :
    (∀ call ∈ [Request.step, .interrupt, .run, .runSlice 1, .takeOutput, .run],
        call.changesProgram = false) ∧
      printer.executedIn [.step, .interrupt, .run, .runSlice 1, .takeOutput, .run] = 2 ∧
      printer.uninterrupted.run.exit = ⟨.halted, 2⟩ := by
  have hcalls : ∀ call ∈ [Request.step, .interrupt, .run, .runSlice 1, .takeOutput, .run],
      call.changesProgram = false := by
    decide
  have hexecuted :
      printer.executedIn [.step, .interrupt, .run, .runSlice 1, .takeOutput, .run] = 2 := by
    decide
  obtain ⟨-, -, -, -, -, -, hstop⟩ := after_eq_runSlice printer _ hcalls
  rw [hexecuted] at hstop
  exact ⟨hcalls, hexecuted,
    hstop [.step, .interrupt, .run, .runSlice 1, .takeOutput] .run [] .halted rfl (by decide)⟩

end Machine

end EightBit
