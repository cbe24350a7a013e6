import EightBit.Machine.Session
import EightBit.Proofs.Runs
import Mathlib.Algebra.GroupWithZero.Nat
import Mathlib.Data.String.Basic

/-!
# Histories of requests

A history is a list of requests that are served one after the other. This file says where a
machine is afterwards, how many instructions were completed on the way and what output was taken,
and divides requests into those that change the program from outside and those that leave it to
itself. The latter only ever move the core on (`reaches_after`).
-/

namespace EightBit

/-! ## Requests and replies -/

/-- Whether a request may change the store or the program counter from outside. -/
def Request.changesProgram : Request → Bool
  | .load _ | .loadImage _ | .write .. | .setRegister .. | .setPc _ | .combineNamed ..
  | .combine .. | .reset => true
  | .readMemory _ | .readRegister _ | .step | .run | .runSlice _ | .traceLine | .peekOutput
  | .takeOutput | .takeSnapshots | .dumpMemory | .stackPointer | .interrupt
  | .isInterruptPending | .config | .dumpInLine | .dumpInLines => false

/-- How many instructions a reply says were completed. -/
def Reply.executed : Reply → Nat
  | .stepped .continued => 1
  | .exited e => e.executed
  | _ => 0

/-- The output that was taken with a request. -/
def Request.drained {config : Config} : Request → Served config → String
  | .takeOutput, ⟨.text output, _, _⟩ => output
  | _, _ => ""

/-- Why the program stopped in a request, if it did. A budget that is used up and an interrupt are
no stops of the program. -/
def Request.stop? {config : Config} : Request → Served config → Option Stop
  | .step, ⟨.stepped .halted, _, _⟩ => some .halted
  | .step, ⟨.stepped (.unknownOpcode byte), m, _⟩ => some (.unknownOpcode byte m.pc)
  | .step, ⟨.fault fault, m, _⟩ => some (.faulted fault m.pc)
  | .run, ⟨.exited e, _, _⟩ | .runSlice _, ⟨.exited e, _, _⟩ =>
    if e.reason = .completed ∨ e.reason = .interrupted then none else some e.reason
  | _, _ => none

namespace Machine

variable {config : Config}

/-! ## Histories -/

/-- The machine after a history. -/
def after (m : Machine config) (history : List Request) : Machine config :=
  history.foldl (fun m request => (m.serve request).machine) m

/-- How many instructions are completed in a history. -/
def executedIn (m : Machine config) (history : List Request) : Nat :=
  ((m.serveAll history).map fun served => served.reply.executed).sum

/-- All the output that is taken in a history. -/
def drainedIn (m : Machine config) (history : List Request) : String :=
  String.join (List.zipWith Request.drained history (m.serveAll history))

theorem after_cons (m : Machine config) (request : Request) (rest : List Request) :
    m.after (request :: rest) = (m.serve request).machine.after rest :=
  rfl

theorem after_append (m : Machine config) (history rest : List Request) :
    m.after (history ++ rest) = (m.after history).after rest :=
  List.foldl_append

theorem drainedIn_cons (m : Machine config) (request : Request) (rest : List Request) :
    m.drainedIn (request :: rest) =
      request.drained (m.serve request) ++ (m.serve request).machine.drainedIn rest := by
  rw [drainedIn, serveAll, List.zipWith_cons_cons, String.join_cons]
  rfl

/-! ## Programs left to themselves -/

theorem machine_serve_step (m : Machine config) : (m.serve .step).machine = m.step.machine := by
  simp only [serve]
  split <;> rfl

/-- A step moves the core on by one instruction if it continues, and not at all otherwise. -/
theorem reaches_serve_step (m : Machine config) :
    ∃ lines, m.core.Reaches config.product (m.serve .step).reply.executed lines
        (m.serve .step).machine.core ∧
      (m.serve .step).machine.output = m.output ++ lines := by
  rw [machine_serve_step]
  rcases hstop : m.stop? with _ | stop
  · have hstep := stop?_eq_none_iff.mp hstop
    obtain ⟨lines, hnext, houtput, -⟩ := next_of_continued hstep
    have hexecuted : (m.serve .step).reply.executed = 1 := by
      simp only [serve, hstep, Reply.executed]
    rw [hexecuted]
    exact ⟨lines ++ [], .head hnext (.refl _), by rw [List.append_nil, houtput]⟩
  · have hexecuted : (m.serve .step).reply.executed = 0 := by
      unfold stop? at hstop
      simp only [serve]
      split at hstop
      · cases hstop
      all_goals
        rename_i hresult
        simp only [hresult, Reply.executed]
    rw [hexecuted, machine_step_of_stop hstop]
    exact ⟨[], .refl _, (List.append_nil _).symm⟩

theorem machine_replyByte (m : Machine config) (found : Except Fault UInt8) :
    (m.replyByte found).machine = m := by
  rcases found <;> rfl

theorem executed_replyByte (m : Machine config) (found : Except Fault UInt8) :
    (m.replyByte found).reply.executed = 0 := by
  rcases found <;> rfl

theorem drained_of_ne {request : Request} (h : request ≠ .takeOutput) (served : Served config) :
    request.drained served = "" := by
  unfold Request.drained
  split
  · exact absurd rfl h
  · rfl

/-- A request that leaves the program to itself moves the core on by the instructions it reports.
What these print is in the output that is taken and in the output that waits. -/
theorem reaches_serve (m : Machine config) {request : Request}
    (h : request.changesProgram = false) :
    ∃ lines, m.core.Reaches config.product (m.serve request).reply.executed lines
        (m.serve request).machine.core ∧
      request.drained (m.serve request) ++ Line.render (m.serve request).machine.output =
        Line.render (m.output ++ lines) := by
  -- reading changes neither the core nor the output
  have hread : ∀ served : Served config, request ≠ .takeOutput → served.reply.executed = 0 →
      served.machine.core = m.core → served.machine.output = m.output →
      ∃ lines, m.core.Reaches config.product served.reply.executed lines served.machine.core ∧
        request.drained served ++ Line.render served.machine.output =
          Line.render (m.output ++ lines) := by
    intro served hne hexecuted hcore houtput
    rw [hexecuted, hcore, houtput, drained_of_ne hne, String.empty_append]
    exact ⟨[], .refl _, by rw [List.append_nil]⟩
  cases request
  case load | loadImage | write | setRegister | setPc | combineNamed | combine | reset => cases h
  case readMemory address =>
    have hmachine := m.machine_replyByte (m.memory.read address)
    exact hread (m.replyByte (m.memory.read address)) (by simp) (m.executed_replyByte _)
      (congrArg core hmachine) (congrArg Machine.output hmachine)
  case readRegister name =>
    have hmachine := m.machine_replyByte (m.registers.get name)
    exact hread (m.replyByte (m.registers.get name)) (by simp) (m.executed_replyByte _)
      (congrArg core hmachine) (congrArg Machine.output hmachine)
  case step =>
    obtain ⟨lines, hreaches, houtput⟩ := m.reaches_serve_step
    rw [houtput, drained_of_ne (by simp), String.empty_append]
    exact ⟨lines, hreaches, rfl⟩
  case run =>
    obtain ⟨lines, hreaches, houtput⟩ := m.reaches_runSlice unlimited
    exact ⟨lines, hreaches, congrArg Line.render houtput⟩
  case runSlice budget =>
    obtain ⟨lines, hreaches, houtput⟩ := m.reaches_runSlice budget
    exact ⟨lines, hreaches, congrArg Line.render houtput⟩
  case takeOutput =>
    refine ⟨[], .refl _, ?_⟩
    rw [List.append_nil]
    exact String.append_empty
  all_goals exact hread _ (by simp) rfl rfl rfl

/-- A history that leaves the program to itself moves the core on by the instructions that are
completed in it, and loses nothing of what these print. -/
theorem reaches_after (m : Machine config) {history : List Request}
    (h : ∀ request ∈ history, request.changesProgram = false) :
    ∃ lines, m.core.Reaches config.product (m.executedIn history) lines (m.after history).core ∧
      m.drainedIn history ++ Line.render (m.after history).output =
        Line.render (m.output ++ lines) := by
  -- the output that waits after a request is where the rest of the history starts from
  induction history generalizing m with
  | nil =>
    refine ⟨[], .refl _, ?_⟩
    rw [List.append_nil]
    exact String.empty_append
  | cons request rest ih =>
    rw [List.forall_mem_cons] at h
    obtain ⟨first, hreaches, houtput⟩ := m.reaches_serve h.1
    obtain ⟨others, hreaches', houtput'⟩ := ih (m.serve request).machine h.2
    refine ⟨first ++ others, hreaches.trans hreaches', ?_⟩
    rw [drainedIn_cons, after_cons, String.append_assoc, houtput', Line.render_append,
      ← String.append_assoc, houtput, ← Line.render_append, List.append_assoc]

/-- A program that has stopped stays where it is as long as it is left to itself. -/
theorem core_after_of_stop {m : Machine config} {stop : Stop} {history : List Request}
    (hstop : m.core.next config.product = .error stop)
    (h : ∀ request ∈ history, request.changesProgram = false) :
    (m.after history).core = m.core := by
  obtain ⟨lines, hreaches, -⟩ := m.reaches_after h
  have hzero : m.executedIn history = 0 :=
    -- no way from a stop is longer than the way to it, which is no instruction at all
    Nat.le_zero.mp ((Core.Reaches.refl m.core).le_of_stop hstop hreaches)
  rw [hzero] at hreaches
  exact (hreaches.unique (.refl _)).2

end Machine

end EightBit
