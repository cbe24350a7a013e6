import EightBit.Proofs.History
import EightBit.Proofs.PowerOn
import EightBit.Proofs.Stack

/-!
# The range of the stack pointer

Settings are refused if the stack pointer lies further than right behind the last cell. It never
gets further than that by pushes and pops (`InRange.step`), nor by any history in which nothing else
gives it a value (`InRange.after`). Within this range a push fails only where the stack pointer
wraps around to an address that the memory does not have, and a pop only right behind the last cell
(`InRange.push_fails_iff`, `InRange.pop_fails_iff`).
-/

namespace EightBit

/-- Whether a request may give the stack pointer a value from outside, other than by a reset. -/
def Request.setsStackPointer : Request → Bool
  | .setRegister name _ => name == 7
  | .combineNamed _ left _ | .combine _ left _ => left == 7
  | .load _ | .loadImage _ | .readMemory _ | .readRegister _ | .write .. | .setPc _ | .step | .run
  | .runSlice _ | .traceLine | .peekOutput | .takeOutput | .takeSnapshots | .dumpMemory
  | .stackPointer | .reset | .interrupt | .isInterruptPending | .config | .dumpInLine
  | .dumpInLines => false

/-- What succeeds has succeeded in both its parts. -/
theorem exists_of_bind_eq_ok {ε α β : Type} {x : Except ε α} {f : α → Except ε β} {y : β}
    (h : x.bind f = .ok y) : ∃ a, x = .ok a ∧ f a = .ok y := by
  rcases x with e | a
  · cases h
  · exact ⟨a, rfl, h⟩

/-! ## Registers other than the stack pointer -/

namespace Registers

variable {rs rs' : Registers} {name : UInt8}

theorem read_seven_of_set {value : UInt8} (h : rs.set name value = .ok rs')
    (hname : (name == 7) = false) : rs'.read 7 = rs.read 7 := by
  rcases Nat.lt_or_ge name.toNat 8 with hlt | hge
  · rw [rs.set_of_lt value hlt] at h
    cases h
    rw [read_write, if_neg (Machine.seven_ne_of_beq hname hlt)]
  · rw [rs.set_of_le value hge] at h
    cases h

theorem read_seven_of_combine {op : AluOperation} {right : UInt8}
    (h : rs.combine op name right = .ok rs') (hname : (name == 7) = false) :
    rs'.read 7 = rs.read 7 := by
  obtain ⟨x, -, h⟩ := exists_of_bind_eq_ok h
  obtain ⟨y, -, h⟩ := exists_of_bind_eq_ok h
  exact read_seven_of_set h hname

end Registers

namespace Machine

variable {config : Config}

/-! ## Completed instructions -/

/-- The instructions that are completed in the next `n` steps. -/
def completedWithin (m : Machine config) : Nat → List Instruction
  | 0 => []
  | n + 1 => m.completed?.toList ++ m.step.machine.completedWithin n

/-- The instructions that are completed in a history. -/
def completedIn (m : Machine config) : List Request → List Instruction
  | [] => []
  | request :: rest =>
    m.completedWithin (m.serve request).reply.executed ++
      (m.serve request).machine.completedIn rest

theorem executed_replyDone (m : Machine config) (changed : Except Fault (Machine config)) :
    (m.replyDone changed).reply.executed = 0 := by
  rcases changed <;> rfl

theorem executed_serveLoad (m : Machine config) (program : List UInt8) {success : Reply}
    (h : success.executed = 0) : (m.serveLoad program success).reply.executed = 0 := by
  unfold serveLoad
  split
  · exact h
  · rfl

/-- No request both changes the program from outside and carries it out. -/
theorem executed_serve_of_changesProgram (m : Machine config) {request : Request}
    (h : request.changesProgram = true) : (m.serve request).reply.executed = 0 := by
  cases request
  case load program => exact m.executed_serveLoad program rfl
  case loadImage text =>
    simp only [serve]
    split
    · exact m.executed_serveLoad _ rfl
    · rfl
  case write => exact m.executed_replyDone _
  case setRegister => exact m.executed_replyDone _
  case combineNamed => exact m.executed_replyDone _
  case combine => exact m.executed_replyDone _
  case setPc | reset => rfl
  all_goals cases h

/-- A request carries out as many instructions as its reply counts. -/
theorem exists_continues_serve (m : Machine config) (request : Request) :
    ∃ m', Continues (m.serve request).reply.executed m m' ∧
      (request.changesProgram = false → (m.serve request).machine.core = m'.core) := by
  rcases hchanges : request.changesProgram with _ | _
  · obtain ⟨lines, hreaches, -⟩ := m.reaches_serve hchanges
    obtain ⟨m', hcontinues, hcore⟩ := exists_continues_of_reaches hreaches
    exact ⟨m', hcontinues, fun _ => hcore.symm⟩
  · rw [m.executed_serve_of_changesProgram hchanges]
    exact ⟨m, .refl m, fun h => absurd h (by decide)⟩

/-! ## The invariant -/

/-- The stack pointer is one that settings with this memory may have. -/
def InRange (m : Machine config) : Prop :=
  (m.registers.read 7).toNat ≤ config.memorySize

theorem inRange_new (valid : config.Valid) : (new valid).InRange := by
  rw [InRange, read_registers_new, if_pos rfl]
  exact valid.stackPointer_le

theorem InRange.of_core_eq {m m' : Machine config} (h : m.InRange) (hcore : m'.core = m.core) :
    m'.InRange := by
  have hregisters : m'.registers = m.registers :=
    congrArg (fun c : Core config.memorySize => c.store.registers) hcore
  rw [InRange, hregisters]
  exact h

theorem InRange.of_read_eq {m m' : Machine config} (h : m.InRange)
    (hread : m'.registers.read 7 = m.registers.read 7) : m'.InRange := by
  rw [InRange, hread]
  exact h

/-- Pushes and pops keep the stack pointer in range, whether they succeed or fail. -/
theorem InRange.step {m : Machine config} (h : m.InRange)
    (hset : ∀ i ∈ m.completed?, i.setsStackPointer config.product = false) :
    m.step.machine.InRange := by
  rcases hcompleted : m.completed? with _ | i
  · rw [machine_step_of_completed?_eq_none hcompleted]
    exact h
  · cases stackMove_of_completed hcompleted (hset i hcompleted) with
    | push _ hinside _ hpointer =>
      rw [InRange, hpointer]
      exact Nat.le_of_lt hinside
    | pop hinside _ hpointer =>
      rw [InRange, hpointer]
      exact Nat.le_trans (Nat.mod_le _ _) hinside
    | stay _ _ _ hpointer => exact h.of_read_eq hpointer

theorem InRange.continues {n : Nat} {m m' : Machine config} (h : m.InRange)
    (hcontinues : Continues n m m')
    (hset : ∀ i ∈ m.completedWithin n, i.setsStackPointer config.product = false) :
    m'.InRange := by
  induction hcontinues with
  | refl m => exact h
  | head _ _ ih =>
    rw [completedWithin, List.forall_mem_append] at hset
    exact ih (h.step fun i hi => hset.1 i (Option.mem_toList.mpr hi)) hset.2

/-! ## Requests -/

theorem InRange.serveLoad {m : Machine config} (h : m.InRange) (program : List UInt8)
    (success : Reply) : (m.serveLoad program success).machine.InRange := by
  unfold Machine.serveLoad load
  rcases m.memory.load 0 program with fault | memory
  · exact h
  · exact h

theorem InRange.replyDone {m : Machine config} (h : m.InRange)
    {changed : Except Fault (Machine config)} (hchanged : ∀ m', changed = .ok m' → m'.InRange) :
    (m.replyDone changed).machine.InRange := by
  rcases changed with fault | m'
  · exact h
  · exact hchanged m' rfl

theorem InRange.combine {m m' : Machine config} (h : m.InRange) {op : AluOperation}
    {left right : UInt8} (hm' : m.combine op left right = .ok m') (hleft : (left == 7) = false) :
    m'.InRange := by
  obtain ⟨registers, hregisters, hm'⟩ := exists_of_bind_eq_ok hm'
  cases hm'
  exact h.of_read_eq (Registers.read_seven_of_combine hregisters hleft)

/-- No request takes the stack pointer out of its range, unless it sets it or completes an
instruction that does. -/
theorem InRange.serve {m : Machine config} (h : m.InRange) {request : Request}
    (hrequest : request.setsStackPointer = false)
    (hset : ∀ i ∈ m.completedWithin (m.serve request).reply.executed,
      i.setsStackPointer config.product = false) :
    (m.serve request).machine.InRange := by
  rcases hchanges : request.changesProgram with _ | _
  · obtain ⟨m', hcontinues, hcore⟩ := m.exists_continues_serve request
    exact (h.continues hcontinues hset).of_core_eq (hcore hchanges)
  · cases request
    case load program => exact h.serveLoad program .done
    case loadImage text =>
      simp only [Machine.serve]
      split
      · exact h.serveLoad _ _
      · exact h
    case write address byte =>
      refine h.replyDone fun m' hm' => ?_
      obtain ⟨memory, -, hm'⟩ := exists_of_bind_eq_ok hm'
      cases hm'
      exact h
    case setRegister name value =>
      refine h.replyDone fun m' hm' => ?_
      obtain ⟨registers, hregisters, hm'⟩ := exists_of_bind_eq_ok hm'
      cases hm'
      exact h.of_read_eq (Registers.read_seven_of_set hregisters hrequest)
    case combine op left right => exact h.replyDone fun m' hm' => h.combine hm' hrequest
    case combineNamed name left right =>
      refine h.replyDone fun m' hm' => ?_
      obtain ⟨op, -, hm'⟩ := exists_of_bind_eq_ok hm'
      exact h.combine hm' hrequest
    case setPc => exact h
    case reset =>
      show m.reset.InRange
      rw [m.reset_eq_new]
      exact inRange_new m.valid
    all_goals cases hchanges

theorem InRange.after {m : Machine config} (h : m.InRange) {history : List Request}
    (hrequests : ∀ request ∈ history, request.setsStackPointer = false)
    (hset : ∀ i ∈ m.completedIn history, i.setsStackPointer config.product = false) :
    (m.after history).InRange := by
  induction history generalizing m with
  | nil => exact h
  | cons request rest ih =>
    rw [List.forall_mem_cons] at hrequests
    rw [completedIn, List.forall_mem_append] at hset
    exact ih (h.serve hrequests.1 hset.1) hrequests.2 hset.2

/-! ## Faults of the stack -/

section

variable {m : Machine config} {name : UInt8}

/-- A push fails only where the stack pointer wraps around to an address behind the memory. -/
theorem InRange.push_fails_iff (h : m.InRange) (hname : name.toNat < 8)
    (hcode : m.memory.Holds m.pc (Instruction.push name).encode) :
    (∃ fault, m.step.result = .error fault) ↔
      m.registers.read 7 = 0 ∧ config.memorySize < 256 := by
  have htop : m.pushAddress = ((m.registers.read 7).toNat + 255) % 256 := rfl
  have hle : (m.registers.read 7).toNat ≤ config.memorySize := h
  have hlt : (m.registers.read 7).toNat < 256 := UInt8.toNat_lt _
  have hsize : config.memorySize ≤ 256 := m.valid.memorySize_le
  have hzero : m.registers.read 7 = 0 ↔ (m.registers.read 7).toNat = 0 := UInt8.toNat_inj.symm
  rw [hzero]
  rcases Nat.lt_or_ge m.pushAddress config.memorySize with hinside | houtside
  · rw [(Rule.push hcode hname hinside).does.1]
    refine iff_of_false (by simp) ?_
    omega
  · rw [(Rule.pushOutside hcode hname houtside).does.1]
    refine iff_of_true ⟨_, rfl⟩ ?_
    omega

/-- A pop fails only where the stack pointer lies right behind the last cell. -/
theorem InRange.pop_fails_iff (h : m.InRange) (hname : name.toNat < 7)
    (hcode : m.memory.Holds m.pc (Instruction.pop name).encode) :
    (∃ fault, m.step.result = .error fault) ↔
      (m.registers.read 7).toNat = config.memorySize := by
  have hle : (m.registers.read 7).toNat ≤ config.memorySize := h
  rcases Nat.lt_or_ge (m.registers.read 7).toNat config.memorySize with hinside | houtside
  · obtain ⟨value, hvalue⟩ := m.memory.exists_get? hinside
    rw [(Rule.pop hcode hvalue hname).does.1]
    exact iff_of_false (by simp) (Nat.ne_of_lt hinside)
  · rw [(Rule.popOutside hcode houtside).does.1]
    exact iff_of_true ⟨_, rfl⟩ (Nat.le_antisymm hle houtside)

end

/-- The range of stack pointers that settings may have is kept, and decides when the stack fails.
Take a fresh machine and any history in which neither a request nor a completed instruction sets the
stack pointer, other than by moving it over the stack. Then the stack pointer is at most the memory
size. A push of a valid register fails exactly if the stack pointer is 0 and the memory has no cell
255, and a pop into another register than the stack pointer fails exactly if the stack pointer is
the memory size. -/
theorem stackPointer_le_and_fails_iff {fresh : Machine config}
    (hnew : ofConfig config = .ok fresh) {history : List Request}
    (hrequests : ∀ request ∈ history, request.setsStackPointer = false)
    (hset : ∀ i ∈ fresh.completedIn history, i.setsStackPointer config.product = false) :
    let m := fresh.after history
    (m.registers.read 7).toNat ≤ config.memorySize ∧
      (∀ name : UInt8, name.toNat < 8 → m.memory.Holds m.pc (Instruction.push name).encode →
        ((∃ fault, m.step.result = .error fault) ↔
          m.registers.read 7 = 0 ∧ config.memorySize < 256)) ∧
      ∀ name : UInt8, name.toNat < 7 → m.memory.Holds m.pc (Instruction.pop name).encode →
        ((∃ fault, m.step.result = .error fault) ↔
          (m.registers.read 7).toNat = config.memorySize) := by
  have hfresh : fresh.InRange := by
    rw [eq_new_of_ofConfig hnew]
    exact inRange_new fresh.valid
  intro m
  have h : m.InRange := hfresh.after hrequests hset
  exact ⟨h, fun name hname hcode => h.push_fails_iff hname hcode,
    fun name hname hcode => h.pop_fails_iff hname hcode⟩

/-- The settings of a machine whose stack begins right behind the last cell. -/
def edge : Config :=
  ⟨8, 8, .print, false⟩

theorem valid_edge : edge.Valid :=
  ⟨by decide, by decide, by decide⟩

/-- A program that pushes a value and pops two, of which the first pop is carried out after an
interrupt. -/
def edgeUsage : List Request :=
  [.load [69, 2, 70, 3, 70, 3, 1], .step, .interrupt, .run, .runSlice 1, .takeOutput]

/-- The stack is empty after the first pop, so the second one fails. -/
theorem stackPointer_le_and_fails_iff_edge :
    let fresh : Machine edge := new valid_edge
    let m := fresh.after edgeUsage
    ofConfig edge = .ok fresh ∧
      (∀ request ∈ edgeUsage, request.setsStackPointer = false) ∧
      fresh.completedIn edgeUsage = [.push 2, .pop 3] ∧
      m.memory.Holds m.pc (Instruction.pop 3).encode ∧
      (m.registers.read 7).toNat = 8 ∧ ∃ fault, m.step.result = .error fault := by
  intro fresh m
  have hnew : ofConfig edge = .ok fresh := ofConfig_of_valid valid_edge
  have hrequests : ∀ request ∈ edgeUsage, request.setsStackPointer = false := by decide
  have hcompleted : fresh.completedIn edgeUsage = [.push 2, .pop 3] := by decide +kernel
  have hset : ∀ i ∈ fresh.completedIn edgeUsage,
      i.setsStackPointer edge.product = false := by
    rw [hcompleted]
    decide
  have hcode : m.memory.Holds m.pc (Instruction.pop 3).encode := by
    refine ⟨?_, ?_, trivial⟩ <;> decide +kernel
  have hpointer : (m.registers.read 7).toNat = 8 := by decide +kernel
  obtain ⟨-, -, hpop⟩ := stackPointer_le_and_fails_iff hnew hrequests hset
  exact ⟨hnew, hrequests, hcompleted, hcode, hpointer, (hpop 3 (by decide) hcode).mpr hpointer⟩

end Machine

end EightBit
