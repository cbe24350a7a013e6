import EightBit.Proofs.Dependence
import EightBit.Proofs.PowerOn
import Mathlib.Data.List.DropRight

/-!
# Interrupts

An interrupt waits until a run that has a budget is asked for. That run reports it, takes it back
and does nothing else, and the machine is then as if nobody had interrupted it
(`after_withoutInterrupts`). Nothing but such a run and a reset ends an interrupt, and no other
request acts on one (`serve_withInterrupt`).
-/

namespace EightBit

/-- Whether no interrupt is left waiting after a request. -/
def Request.endsInterrupt : Request → Bool
  | .reset | .run => true
  | .runSlice budget => budget != 0
  | .load _ | .loadImage _ | .readMemory _ | .readRegister _ | .write .. | .setRegister ..
  | .setPc _ | .combineNamed .. | .combine .. | .step | .traceLine | .peekOutput | .takeOutput
  | .takeSnapshots | .dumpMemory | .stackPointer | .interrupt | .isInterruptPending | .config
  | .dumpInLine | .dumpInLines => false

/-- The requests of a history behind the last that ended an interrupt, or all of them if there is
none. -/
def sinceInterruptEnded (history : List Request) : List Request :=
  history.rtakeWhile fun request => !request.endsInterrupt

/-- A history without the interrupts that are still waiting at its end. -/
def withoutInterrupts (history : List Request) : List Request :=
  (history.rdropWhile fun request => !request.endsInterrupt) ++
    (sinceInterruptEnded history).filter (· ≠ .interrupt)

section

variable {request : Request} (history : List Request)

theorem sinceInterruptEnded_concat (h : request.endsInterrupt = false) :
    sinceInterruptEnded (history ++ [request]) = sinceInterruptEnded history ++ [request] := by
  rw [sinceInterruptEnded, List.rtakeWhile_concat, h]
  rfl

theorem sinceInterruptEnded_concat_of_ends (h : request.endsInterrupt = true) :
    sinceInterruptEnded (history ++ [request]) = [] := by
  rw [sinceInterruptEnded, List.rtakeWhile_concat, h]
  rfl

theorem withoutInterrupts_concat (h : request.endsInterrupt = false)
    (hne : request ≠ .interrupt) :
    withoutInterrupts (history ++ [request]) = withoutInterrupts history ++ [request] := by
  rw [withoutInterrupts, sinceInterruptEnded_concat history h, List.rdropWhile_concat, h,
    List.filter_append, List.filter_singleton, decide_eq_true hne, ← List.append_assoc]
  rfl

theorem withoutInterrupts_concat_interrupt :
    withoutInterrupts (history ++ [.interrupt]) = withoutInterrupts history := by
  rw [withoutInterrupts, sinceInterruptEnded_concat history rfl, List.rdropWhile_concat,
    List.filter_append]
  exact congrArg _ (List.append_nil _)

theorem withoutInterrupts_concat_of_ends (h : request.endsInterrupt = true) :
    withoutInterrupts (history ++ [request]) = history ++ [request] := by
  rw [withoutInterrupts, sinceInterruptEnded_concat_of_ends history h, List.rdropWhile_concat, h]
  exact List.append_nil _

end

namespace Machine

variable {config : Config}

/-- The machine with or without an interrupt waiting. -/
def withInterrupt (m : Machine config) (pending : Bool) : Machine config :=
  { m with interruptPending := pending }

theorem withInterrupt_self (m : Machine config) :
    m.withInterrupt m.interruptPending = m :=
  rfl

/-! ## Runs -/

theorem reason_eq_interrupted_iff {m : Machine config} {budget : Nat} :
    (m.runSlice budget).exit.reason = .interrupted ↔
      0 < budget ∧ m.interruptPending = true := by
  constructor
  · intro hreason
    by_contra h
    have hquiet : m.interruptPending = false ∨ budget = 0 := by
      rw [not_and, Bool.not_eq_true] at h
      exact (Nat.eq_zero_or_pos budget).symm.imp_left h
    -- such a run ends by its budget or by a step
    obtain ⟨m', hfollows⟩ := follows_runSlice hquiet
    rw [hreason] at hfollows
    rcases hfollows.ends with ⟨-, hcompleted, -⟩ | ⟨-, hstop, -⟩
    · cases hcompleted
    · exact stop?_ne_interrupted hstop
  · rintro ⟨hbudget, h⟩
    rw [runSlice_of_pending h (Nat.ne_of_gt hbudget)]

theorem interruptPending_runSlice (m : Machine config) {budget : Nat} (hbudget : budget ≠ 0) :
    (m.runSlice budget).machine.interruptPending = false := by
  rcases h : m.interruptPending with _ | _
  · -- the run is compared with itself
    obtain ⟨-, -, hway⟩ := @runFrom_of_core_eq config config.tracing m m rfl budget
      (Or.inl h) (Or.inl h) 0
    exact hway.interruptPending.trans h
  · rw [runSlice_of_pending h hbudget]

/-! ## Requests -/

theorem interruptPending_of_endsInterrupt (m : Machine config) {request : Request}
    (h : request.endsInterrupt = true) : (m.serve request).machine.interruptPending = false := by
  cases request
  case reset => rfl
  case run => exact m.interruptPending_runSlice (by decide)
  case runSlice budget => exact m.interruptPending_runSlice (bne_iff_ne.mp h)
  all_goals cases h

/-- A request that does not end an interrupt and is none does not act on one either: with and
without an interrupt it gets the same reply and does the same. -/
theorem serve_withInterrupt (m : Machine config) {request : Request}
    (h : request.endsInterrupt = false) (hinterrupt : request ≠ .interrupt)
    (hask : request ≠ .isInterruptPending) (pending : Bool) :
    (m.withInterrupt pending).serve request =
      ⟨(m.serve request).reply, (m.serve request).machine.withInterrupt pending,
        (m.serve request).events⟩ := by
  by_cases hcore : request.isAboutCore = true
  · obtain ⟨hreply, hevents, hway⟩ :=
      @serve_of_core_eq config config.tracing m (m.withInterrupt pending) rfl request hcore
    obtain ⟨lines, houtput, houtput'⟩ := hway.output
    obtain ⟨taken, hsnapshots, hsnapshots'⟩ := hway.snapshots
    have hmachine : ((m.withInterrupt pending).serve request).machine =
        (m.serve request).machine.withInterrupt pending :=
      eq_of_core_eq hway.core (houtput'.trans houtput.symm) (hsnapshots'.trans hsnapshots.symm)
        hway.interruptPending'
    rw [← hreply, ← hmachine, ← hevents]
  · cases request
    case runSlice budget =>
      obtain rfl : budget = 0 := by simpa [Request.endsInterrupt] using h
      rfl
    case peekOutput | takeOutput | takeSnapshots | config | dumpInLine | dumpInLines => rfl
    case interrupt => exact absurd rfl hinterrupt
    case isInterruptPending => exact absurd rfl hask
    case run | reset => cases h
    all_goals exact absurd rfl hcore

theorem interruptPending_serve (m : Machine config) {request : Request}
    (h : request.endsInterrupt = false) (hinterrupt : request ≠ .interrupt) :
    (m.serve request).machine.interruptPending = m.interruptPending := by
  by_cases hask : request = .isInterruptPending
  · rw [hask]
    rfl
  · -- what it does with the flag as it is, it does with any
    have hserve := m.serve_withInterrupt h hinterrupt hask m.interruptPending
    rw [withInterrupt_self] at hserve
    rw [hserve]
    rfl

/-! ## Histories -/

/-- An interrupt is waiting exactly if there was one since the last request that ends it. -/
theorem interruptPending_after_iff {m : Machine config} (h : m.interruptPending = false)
    (history : List Request) :
    (m.after history).interruptPending = true ↔ .interrupt ∈ sinceInterruptEnded history := by
  -- induction from the end of the history: its last request sets, takes back or keeps the flag
  induction history using List.reverseRecOn with
  | nil => simp [after, sinceInterruptEnded, h]
  | append_singleton history request ih =>
    have hafter : m.after (history ++ [request]) = ((m.after history).serve request).machine :=
      m.after_append history [request]
    rw [hafter]
    rcases hends : request.endsInterrupt with _ | _
    · rw [sinceInterruptEnded_concat history hends, List.mem_append, List.mem_singleton]
      by_cases hinterrupt : request = .interrupt
      · subst hinterrupt
        exact iff_of_true rfl (Or.inr rfl)
      · rw [interruptPending_serve _ hends hinterrupt, ih]
        exact (or_iff_left (Ne.symm hinterrupt)).symm
    · rw [sinceInterruptEnded_concat_of_ends history hends,
        interruptPending_of_endsInterrupt _ hends]
      exact iff_of_false Bool.false_ne_true List.not_mem_nil

/-- Without the interrupts that are still waiting, a history leads to the same machine, but for
these interrupts. -/
theorem after_withoutInterrupts {m : Machine config} (h : m.interruptPending = false)
    (history : List Request) :
    m.after (withoutInterrupts history) = (m.after history).withInterrupt false := by
  induction history using List.reverseRecOn with
  | nil =>
    show m = m.withInterrupt false
    rw [← h, withInterrupt_self]
  | append_singleton history request ih =>
    have hafter : ∀ history, m.after (history ++ [request]) =
        ((m.after history).serve request).machine := fun history => m.after_append history [request]
    rw [hafter history]
    rcases hends : request.endsInterrupt with _ | _
    · by_cases hinterrupt : request = .interrupt
      · subst hinterrupt
        rw [withoutInterrupts_concat_interrupt, ih]
        rfl
      · rw [withoutInterrupts_concat history hends hinterrupt, hafter, ih]
        by_cases hask : request = .isInterruptPending
        · rw [hask]
          rfl
        · rw [serve_withInterrupt _ hends hinterrupt hask]
    · rw [withoutInterrupts_concat_of_ends history hends, hafter,
        ← interruptPending_of_endsInterrupt _ hends, withInterrupt_self]

/-- An interrupt is delivered once and never lost. Take a fresh machine and any history of
requests. An interrupt is waiting, and the machine says so, exactly if there was one since the
last reset or run with a budget. A run is interrupted exactly if it has a budget and an interrupt
is waiting. It then reports this and does nothing but to take the interrupt back, which leaves the
machine as it would be if it had never been interrupted. Any other request but a reset leaves the
interrupt waiting, and does what it would do without it. -/
theorem interrupt_delivered_once {fresh : Machine config} (hnew : ofConfig config = .ok fresh)
    (history : List Request) :
    let m := fresh.after history
    (m.serve .isInterruptPending).reply = .flag m.interruptPending ∧
      (m.interruptPending = true ↔ .interrupt ∈ sinceInterruptEnded history) ∧
      (∀ budget, (m.runSlice budget).exit.reason = .interrupted ↔
        0 < budget ∧ m.interruptPending = true) ∧
      (∀ budget, (m.runSlice budget).exit.reason = .interrupted →
        m.runSlice budget =
            ⟨⟨.interrupted, 0⟩, m.withInterrupt false, [.interrupted m.pc 0]⟩ ∧
          (m.runSlice budget).machine = fresh.after (withoutInterrupts history)) ∧
      ∀ request, request.endsInterrupt = false → request ≠ .interrupt →
        (m.serve request).machine.interruptPending = m.interruptPending ∧
          (request ≠ .isInterruptPending → ∀ pending, (m.withInterrupt pending).serve request =
            ⟨(m.serve request).reply, (m.serve request).machine.withInterrupt pending,
              (m.serve request).events⟩) := by
  have hquiet : fresh.interruptPending = false :=
    congrArg Machine.interruptPending (eq_new_of_ofConfig hnew)
  intro m
  refine ⟨rfl, interruptPending_after_iff hquiet history, fun budget => reason_eq_interrupted_iff,
    fun budget hreason => ?_, fun request hends hinterrupt =>
      ⟨m.interruptPending_serve hends hinterrupt, fun hask pending =>
        m.serve_withInterrupt hends hinterrupt hask pending⟩⟩
  obtain ⟨hbudget, hpending⟩ := reason_eq_interrupted_iff.mp hreason
  have hrun : m.runSlice budget =
      ⟨⟨.interrupted, 0⟩, m.withInterrupt false, [.interrupted m.pc 0]⟩ :=
    runSlice_of_pending hpending (Nat.ne_of_gt hbudget)
  refine ⟨hrun, ?_⟩
  rw [hrun, after_withoutInterrupts hquiet]

/-- The usage of the small machine, which leaves an interrupt waiting, and then a step and an empty
run that do not end it, and another interrupt. -/
def interruptedUsage : List Request :=
  usage ++ [.setPc 0, .step, .runSlice 0, .interrupt]

/-- The two interrupts are delivered as one. The run after that is the run of a machine that was not
interrupted, which finds the value it had pushed over its code. -/
theorem interrupt_delivered_once_small :
    let fresh : Machine small := new valid_small
    let m := fresh.after interruptedUsage
    ofConfig small = .ok fresh ∧ m.interruptPending = true ∧
      (m.runSlice 3).exit = ⟨.interrupted, 0⟩ ∧
      (m.runSlice 3).machine = fresh.after
        [.load [71, 2, 69, 2, 1], .setRegister 2 9, .run, .setPc 0, .step, .runSlice 0] ∧
      ((m.runSlice 3).machine.runSlice 3).exit = ⟨.unknownOpcode 9 4, 1⟩ := by
  intro fresh m
  have hnew : ofConfig small = .ok fresh := ofConfig_of_valid valid_small
  obtain ⟨-, hwaits, hinterrupted, hdelivers, -⟩ := interrupt_delivered_once hnew interruptedUsage
  have hwithout : withoutInterrupts interruptedUsage =
      [.load [71, 2, 69, 2, 1], .setRegister 2 9, .run, .setPc 0, .step, .runSlice 0] := by
    decide
  have hpending : m.interruptPending = true := hwaits.mpr (by decide)
  obtain ⟨hrun, hmachine⟩ := hdelivers 3 ((hinterrupted 3).mpr ⟨by decide, hpending⟩)
  rw [hwithout] at hmachine
  refine ⟨hnew, hpending, by rw [hrun], hmachine, ?_⟩
  rw [hmachine]
  decide +kernel

end Machine

end EightBit
