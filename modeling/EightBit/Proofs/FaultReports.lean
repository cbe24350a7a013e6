import EightBit.Proofs.InstructionSet
import EightBit.Proofs.PowerOn

/-!
# Faults tell the truth

A fault names what was wrong: an address that the memory does not have, a register that does not
exist, or an operation of which nobody has heard. What it names is no invention of its own but
comes from whoever asked, or from the instruction that could not be carried out (`Fault.TrueOf`,
`trueOf_of_serve`).

Addresses of 64 bits can be cut off at the last one when operands are decoded or a block is loaded.
What is reported then still lies outside the memory (`isOutside_of_decode`, `isOutside_of_load`). A
step never gets there: it decodes only behind an opcode in memory, which is far from the last
address (`fault_of_decode_inside`).
-/

namespace EightBit

/-- What fails has failed in one of its two parts. -/
theorem error_of_bind_eq_error {ε α β : Type} {x : Except ε α} {f : α → Except ε β} {e : ε}
    (h : x.bind f = .error e) : x = .error e ∨ ∃ a, x = .ok a ∧ f a = .error e := by
  rcases x with e' | a
  · have he : e' = e := Except.error.inj h
    rw [he]
    exact Or.inl rfl
  · exact Or.inr ⟨a, rfl, h⟩

/-- What fails before a part that always succeeds has failed in the first. -/
theorem error_of_bind_ok {ε α β : Type} {x : Except ε α} {g : α → β} {e : ε}
    (h : x.bind (fun a => .ok (g a)) = .error e) : x = .error e := by
  rcases error_of_bind_eq_error h with hfirst | ⟨a, -, hrest⟩
  · exact hfirst
  · cases hrest

/-- A fault about an address that lies outside a memory of `size` cells. -/
def Fault.IsOutside (size : Nat) (fault : Fault) : Prop :=
  ∃ address, size ≤ address ∧ fault = .outOfBounds address size

/-- The fault that a reply reports, if it reports one. -/
def Reply.fault? : Reply → Option Fault
  | .fault f | .exited ⟨.faulted f _, _⟩ => some f
  | _ => none

namespace Request

/-- The names of registers in a request. -/
def registerNames : Request → List UInt8
  | .readRegister name | .setRegister name _ => [name]
  | .combine _ a b | .combineNamed _ a b => [a, b]
  | _ => []

/-- The name of an operation in a request. -/
def operationName? : Request → Option String
  | .combineNamed name _ _ => some name
  | _ => none

/-- Whether a request carries out instructions of the program. -/
def runsProgram : Request → Bool
  | .step | .run | .runSlice _ => true
  | _ => false

end Request

/-- What makes a fault true that is reported for a request, `m` being the machine afterwards: the
address lies outside its memory, the register does not exist and is named by the request or by the
instruction at the program counter, or no operation has the name that the request gives. -/
inductive Fault.TrueOf {config : Config} (request : Request) (m : Machine config) :
    Fault → Prop where
  | outside {address : Nat} (houtside : config.memorySize ≤ address) :
      TrueOf request m (.outOfBounds address config.memorySize)
  | named {name : UInt8} (hname : name ∈ request.registerNames) (hle : 8 ≤ name.toNat) :
      TrueOf request m (.invalidRegister name)
  | operand {name : UInt8} {i : Instruction} (hruns : request.runsProgram = true)
      (hcode : m.memory.Holds m.pc i.encode) (hname : name ∈ i.operands) (hle : 8 ≤ name.toNat) :
      TrueOf request m (.invalidRegister name)
  | operation {name : String} (hname : request.operationName? = some name)
      (hnone : ∀ op : AluOperation, op.name ≠ name) :
      TrueOf request m (.unsupportedOperation name)

/-! ## Memories -/

namespace Memory

variable {size : Nat} {m : Memory size} {address pc : Nat} {fault : Fault}

theorem isOutside_of_read (h : m.read address = .error fault) : fault.IsOutside size := by
  rcases Nat.lt_or_ge address size with hlt | hge
  · obtain ⟨byte, hbyte⟩ := m.exists_get? hlt
    rw [read_eq_ok_iff.mpr hbyte] at h
    cases h
  · rw [m.read_of_le hge] at h
    exact ⟨address, hge, (Except.error.inj h).symm⟩

theorem isOutside_of_write {byte : UInt8} (h : m.write address byte = .error fault) :
    fault.IsOutside size := by
  rcases Nat.lt_or_ge address size with hlt | hge
  · obtain ⟨m', hm'⟩ := m.exists_write hlt byte
    rw [hm'] at h
    cases h
  · rw [m.write_of_le hge] at h
    exact ⟨address, hge, (Except.error.inj h).symm⟩

/-- The last address that a block would have needed lies outside, even cut off. -/
theorem isOutside_of_load (hsize : size < lastAddress) {block : List UInt8}
    (h : m.load address block = .error fault) : fault.IsOutside size := by
  unfold load at h
  split at h
  · cases h
  · rename_i hlarge
    refine ⟨_, ?_, (Except.error.inj h).symm⟩
    omega

theorem fault_of_operand {offset : Nat} (h : m.operand pc offset = .error fault) :
    size ≤ pc + offset ∧ fault = .outOfBounds (min (pc + offset) lastAddress) size := by
  rcases Nat.lt_or_ge (pc + offset) size with hlt | hge
  · obtain ⟨byte, hbyte⟩ := m.exists_get? hlt
    rw [operand_of_get? hbyte] at h
    cases h
  · rw [operand_of_le hge] at h
    exact ⟨hge, (Except.error.inj h).symm⟩

/-- Decoding fails by an operand that is missing. -/
theorem fault_of_decode {op : Opcode} (h : m.decode pc op = .error fault) :
    ∃ offset, (offset = 1 ∨ offset = 2) ∧ size ≤ pc + offset ∧
      fault = .outOfBounds (min (pc + offset) lastAddress) size := by
  cases op with
  | hlt => cases h
  | prn | push | pop => exact ⟨1, Or.inl rfl, fault_of_operand (error_of_bind_ok h)⟩
  | ldi | mul =>
    rcases error_of_bind_eq_error h with hfirst | ⟨x, -, hrest⟩
    · exact ⟨1, Or.inl rfl, fault_of_operand hfirst⟩
    · exact ⟨2, Or.inr rfl, fault_of_operand (error_of_bind_ok hrest)⟩

/-- The address of a missing operand lies outside, even cut off. -/
theorem isOutside_of_decode (hsize : size < lastAddress) {op : Opcode}
    (h : m.decode pc op = .error fault) : fault.IsOutside size := by
  obtain ⟨offset, -, hge, hfault⟩ := fault_of_decode h
  refine ⟨_, ?_, hfault⟩
  omega

end Memory

/-! ## Registers and operations -/

namespace Registers

variable {rs : Registers} {fault : Fault}

theorem fault_of_get {name : UInt8} (h : rs.get name = .error fault) :
    8 ≤ name.toNat ∧ fault = .invalidRegister name := by
  rcases Nat.lt_or_ge name.toNat 8 with hlt | hge
  · rw [rs.get_of_lt hlt] at h
    cases h
  · rw [rs.get_of_le hge] at h
    exact ⟨hge, (Except.error.inj h).symm⟩

theorem fault_of_set {name value : UInt8} (h : rs.set name value = .error fault) :
    8 ≤ name.toNat ∧ fault = .invalidRegister name := by
  rcases Nat.lt_or_ge name.toNat 8 with hlt | hge
  · rw [rs.set_of_lt value hlt] at h
    cases h
  · rw [rs.set_of_le value hge] at h
    exact ⟨hge, (Except.error.inj h).symm⟩

theorem fault_of_combine {op : AluOperation} {a b : UInt8}
    (h : rs.combine op a b = .error fault) :
    ∃ name ∈ [a, b], 8 ≤ name.toNat ∧ fault = .invalidRegister name := by
  rcases Nat.lt_or_ge a.toNat 8 with ha | ha
  · rcases Nat.lt_or_ge b.toNat 8 with hb | hb
    · rw [rs.combine_of_lt op ha hb] at h
      cases h
    · rw [rs.combine_of_right_le op ha hb] at h
      exact ⟨b, by simp, hb, (Except.error.inj h).symm⟩
  · rw [rs.combine_of_left_le op ha] at h
    exact ⟨a, by simp, ha, (Except.error.inj h).symm⟩

end Registers

theorem AluOperation.fault_of_ofName {name : String} {fault : Fault}
    (h : ofName name = .error fault) :
    (∀ op : AluOperation, op.name ≠ name) ∧ fault = .unsupportedOperation name := by
  unfold ofName at h
  split at h
  · cases h
  · rename_i hnone
    rw [List.find?_eq_none] at hnone
    refine ⟨fun op hname => ?_, (Except.error.inj h).symm⟩
    exact hnone op (mem_all op) (beq_iff_eq.mpr hname)

namespace Machine

variable {config : Config} {m : Machine config} {fault : Fault}

/-! ## Steps and runs -/

/-- The addresses that a step can find missing: those of the instruction, the top of the stack, and
the cell below it. -/
def faultAddresses (m : Machine config) : List Nat :=
  [m.pc, m.pc + 1, m.pc + 2, (m.registers.read 7).toNat, m.pushAddress]

/-- Whatever rule a step fails by, its fault is true. -/
theorem Rule.trueOf {e : Effect} (h : Rule m (.error fault) e) {request : Request}
    (hruns : request.runsProgram = true) : fault.TrueOf request m := by
  have hoperand : ∀ (i : Instruction) (name : UInt8), m.memory.Holds m.pc i.encode →
      name ∈ i.operands → 8 ≤ name.toNat → (Fault.invalidRegister name).TrueOf request m :=
    fun i name hcode hname hle => .operand hruns hcode hname hle
  cases h with
  | outside hpc => exact .outside hpc
  | operandMissing hbyte hop hk hin hout => exact .outside hout
  | ldiRegister hcode hr => exact hoperand (.ldi _ _) _ hcode List.mem_cons_self hr
  | prnRegister hcode hr => exact hoperand (.prn _) _ hcode List.mem_cons_self hr
  | mulLeft hcode ha => exact hoperand (.mul _ _) _ hcode List.mem_cons_self ha
  | mulRight hcode ha hb =>
    exact hoperand (.mul _ _) _ hcode (List.mem_cons_of_mem _ List.mem_cons_self) hb
  | pushRegister hcode hr => exact hoperand (.push _) _ hcode List.mem_cons_self hr
  | pushOutside hcode hr htop => exact .outside htop
  | popOutside hcode htop => exact .outside htop
  | popRegister hcode htop hr => exact hoperand (.pop _) _ hcode List.mem_cons_self hr

/-- An address that a step finds missing is one that it needs, and unless it is the program counter
it is far from the last address. -/
theorem Rule.address_mem {e : Effect} {address size : Nat}
    (h : Rule m (.error (.outOfBounds address size)) e) :
    address ∈ m.faultAddresses ∧ (address = m.pc ∨ address < lastAddress) := by
  have hsize : config.memorySize ≤ 256 := m.valid.memorySize_le
  have hlast : 256 + 2 < lastAddress := by decide
  cases h with
  | outside hpc => exact ⟨by simp [faultAddresses], Or.inl rfl⟩
  | @operandMissing byte n k hbyte hop hk hin hout =>
    have hpc : m.pc < config.memorySize := Memory.lt_of_get? hbyte
    have hcount : n ≤ 2 := by
      obtain ⟨op, -, rfl⟩ := mem_instructionFormats_iff.mp hop
      cases op <;> decide
    have hk' : k = 1 ∨ k = 2 := by omega
    refine ⟨?_, by omega⟩
    rcases hk' with rfl | rfl <;> simp [faultAddresses]
  | pushOutside hcode hr htop =>
    have hlt : m.pushAddress < 256 := Nat.mod_lt _ (by decide)
    exact ⟨by simp [faultAddresses], by omega⟩
  | popOutside hcode htop =>
    have hlt : (m.registers.read 7).toNat < 256 := UInt8.toNat_lt _
    exact ⟨by simp [faultAddresses], by omega⟩

/-- A step that decodes does so behind an opcode in memory, where no address is cut off. -/
theorem fault_of_decode_inside {op : Opcode} (hpc : m.pc < config.memorySize)
    (h : m.memory.decode m.pc op = .error fault) :
    ∃ address, (address = m.pc + 1 ∨ address = m.pc + 2) ∧ address < lastAddress ∧
      fault = .outOfBounds address config.memorySize := by
  have hsize : config.memorySize ≤ 256 := m.valid.memorySize_le
  have hlast : 256 + 2 < lastAddress := by decide
  obtain ⟨offset, hoffset, -, hfault⟩ := Memory.fault_of_decode h
  refine ⟨m.pc + offset, by omega, by omega, ?_⟩
  rw [hfault, Nat.min_eq_left (by omega)]

/-! ## Requests -/

theorem trueOf_of_core_eq {m' : Machine config} (hcore : m'.core = m.core) {request : Request}
    (h : fault.TrueOf request m) : fault.TrueOf request m' := by
  have hmemory : m'.memory = m.memory := congrArg (fun c => c.store.memory) hcore
  have hpc : m'.pc = m.pc := congrArg Core.pc hcore
  cases h with
  | outside houtside => exact .outside houtside
  | named hname hle => exact .named hname hle
  | operand hruns hcode hname hle =>
    rw [← hmemory, ← hpc] at hcode
    exact .operand hruns hcode hname hle
  | operation hname hnone => exact .operation hname hnone

theorem faultAddresses_of_core_eq {m' : Machine config} (hcore : m'.core = m.core) :
    m'.faultAddresses = m.faultAddresses := by
  have hregisters : m'.registers = m.registers := congrArg (fun c => c.store.registers) hcore
  have hpc : m'.pc = m.pc := congrArg Core.pc hcore
  unfold faultAddresses pushAddress
  rw [hregisters, hpc]

theorem fault_of_stop {stop : Stop} {pc : Nat} (h : m.stop? = some stop)
    (hstop : stop = .faulted fault pc) : m.step.result = .error fault := by
  unfold stop? at h
  split at h
  all_goals
    rw [hstop] at h
    cases h
  assumption

/-- A run that ends in a fault ends where a step fails by it. -/
theorem exists_step_of_faulted {budget pc : Nat}
    (h : (m.runSlice budget).exit.reason = .faulted fault pc) :
    ∃ m' : Machine config, m'.step.result = .error fault ∧
      (m.runSlice budget).machine.core = m'.core := by
  have hcompleted : (m.runSlice budget).exit.reason ≠ .completed := by
    rw [h]
    exact Stop.noConfusion
  have hinterrupted : (m.runSlice budget).exit.reason ≠ .interrupted := by
    rw [h]
    exact Stop.noConfusion
  obtain ⟨m', -, hstop, hmachine⟩ := exists_stop_of_reason hcompleted hinterrupted
  refine ⟨m', fault_of_stop hstop h, ?_⟩
  rw [hmachine, core_recorded]

theorem reason_of_fault? {e : Exit} (h : (Reply.exited e).fault? = some fault) :
    ∃ pc, e.reason = .faulted fault pc := by
  rcases e with ⟨reason, executed⟩
  cases reason with
  | faulted f pc =>
    have hf : f = fault := Option.some.inj h
    exact ⟨pc, by rw [hf]⟩
  | completed | halted | unknownOpcode | interrupted => cases h

/-- A fault of a program is that of a step, from where the machine stands afterwards. -/
theorem exists_step_of_fault? {request : Request} (hruns : request.runsProgram = true)
    (h : (m.serve request).reply.fault? = some fault) :
    ∃ m' : Machine config, m'.step.result = .error fault ∧
      (m.serve request).machine.core = m'.core := by
  cases request
  case step =>
    rcases hresult : m.step.result with f | step
    · have hf : f = fault := by
        simp only [serve, hresult] at h
        exact Option.some.inj h
      have hstep : m.step.machine = m.recorded :=
        machine_step_of_not_continued (by rw [hresult]; simp)
      exact ⟨m, by rw [hresult, hf], by rw [machine_serve_step, hstep, core_recorded]⟩
    · simp only [serve, hresult] at h
      cases h
  case run =>
    obtain ⟨pc, hreason⟩ := reason_of_fault? h
    exact exists_step_of_faulted hreason
  case runSlice budget =>
    obtain ⟨pc, hreason⟩ := reason_of_fault? h
    exact exists_step_of_faulted hreason
  all_goals cases hruns

theorem fault?_replyByte {found : Except Fault UInt8}
    (h : (m.replyByte found).reply.fault? = some fault) : found = .error fault := by
  rcases found with f | byte
  · exact congrArg Except.error (Option.some.inj h)
  · cases h

theorem fault?_replyDone {changed : Except Fault (Machine config)}
    (h : (m.replyDone changed).reply.fault? = some fault) : changed = .error fault := by
  rcases changed with f | m'
  · exact congrArg Except.error (Option.some.inj h)
  · cases h

theorem fault?_serveLoad (program : List UInt8) {success : Reply} (h : success.fault? = none) :
    (m.serveLoad program success).reply.fault? = none := by
  unfold serveLoad
  split
  · exact h
  · rfl

/-- Access from outside fails by what it names. -/
theorem trueOf_of_not_runs {request : Request} (hruns : request.runsProgram = false)
    (h : (m.serve request).reply.fault? = some fault) :
    fault.TrueOf request (m.serve request).machine := by
  cases request
  case readMemory address =>
    obtain ⟨missing, houtside, rfl⟩ := Memory.isOutside_of_read (fault?_replyByte h)
    exact .outside houtside
  case readRegister name =>
    obtain ⟨hle, rfl⟩ := Registers.fault_of_get (fault?_replyByte h)
    exact .named List.mem_cons_self hle
  case write address byte =>
    have hwrite := error_of_bind_ok (fault?_replyDone h)
    obtain ⟨missing, houtside, rfl⟩ := Memory.isOutside_of_write hwrite
    exact .outside houtside
  case setRegister name value =>
    have hset := error_of_bind_ok (fault?_replyDone h)
    obtain ⟨hle, rfl⟩ := Registers.fault_of_set hset
    exact .named List.mem_cons_self hle
  case combine op a b =>
    have hcombine := error_of_bind_ok (fault?_replyDone h)
    obtain ⟨name, hname, hle, rfl⟩ := Registers.fault_of_combine hcombine
    exact .named hname hle
  case combineNamed text a b =>
    rcases error_of_bind_eq_error (fault?_replyDone h) with hname | ⟨op, -, hrest⟩
    · obtain ⟨hnone, rfl⟩ := AluOperation.fault_of_ofName hname
      exact .operation rfl hnone
    · obtain ⟨name, hname, hle, rfl⟩ := Registers.fault_of_combine (error_of_bind_ok hrest)
      exact .named hname hle
  case load program =>
    have hnone : (m.serve (.load program)).reply.fault? = none := fault?_serveLoad program rfl
    rw [hnone] at h
    cases h
  case loadImage text =>
    simp only [serve] at h
    split at h
    · rw [fault?_serveLoad _ rfl] at h
      cases h
    · cases h
  case step | run | runSlice => cases hruns
  all_goals cases h

theorem exists_rule_of_error (h : m.step.result = .error fault) :
    ∃ e, Rule m (.error fault) e := by
  obtain ⟨r, e, hrule⟩ := m.exists_rule
  have hr : r = .error fault := hrule.does.1.symm.trans h
  rw [hr] at hrule
  exact ⟨e, hrule⟩

/-- Whatever fault is reported for a request, it is true. -/
theorem trueOf_of_serve {request : Request}
    (h : (m.serve request).reply.fault? = some fault) :
    fault.TrueOf request (m.serve request).machine := by
  rcases hruns : request.runsProgram with _ | _
  · exact trueOf_of_not_runs hruns h
  · obtain ⟨m', hresult, hcore⟩ := exists_step_of_fault? hruns h
    obtain ⟨e, hrule⟩ := exists_rule_of_error hresult
    exact trueOf_of_core_eq hcore (hrule.trueOf hruns)

/-- An address that a program does not find is one that its last instruction needs. -/
theorem address_mem_of_serve {request : Request} (hruns : request.runsProgram = true)
    {address size : Nat}
    (h : (m.serve request).reply.fault? = some (.outOfBounds address size)) :
    address ∈ (m.serve request).machine.faultAddresses ∧
      (address = (m.serve request).machine.pc ∨ address < lastAddress) := by
  obtain ⟨m', hresult, hcore⟩ := exists_step_of_fault? hruns h
  obtain ⟨e, hrule⟩ := exists_rule_of_error hresult
  have hpc : (m.serve request).machine.pc = m'.pc := congrArg Core.pc hcore
  rw [faultAddresses_of_core_eq hcore, hpc]
  exact hrule.address_mem

/-- Fault reports are true. Whatever access to a memory fails, at whatever addresses of 64 bits, an
address is reported that lies outside the memory, with the size that the memory has. Whatever
request to a machine fails, its fault is true in the same way, or names a register that does not
exist and that the request or the instruction at the program counter asked for, or is about an
operation that the request named and nobody has heard of. If the program itself fails by an address,
in a run or in a single step, this is the program counter, one of the two behind it, the stack
pointer or the one before it, and only the program counter can be the last of all addresses: what a
step decodes stands inside the memory, where no address behind it is cut off. -/
theorem faults_true {size : Nat} (hsize : size < lastAddress) (memory : Memory size)
    (m : Machine config) :
    (∀ (address : UInt64) (byte : UInt8) (block : List UInt8) (op : Opcode) (fault : Fault),
      memory.read address.toNat = .error fault ∨ memory.write address.toNat byte = .error fault ∨
        memory.load address.toNat block = .error fault ∨
          memory.decode address.toNat op = .error fault → fault.IsOutside size) ∧
    (∀ request fault, (m.serve request).reply.fault? = some fault →
      fault.TrueOf request (m.serve request).machine) ∧
    (∀ request address cells, request.runsProgram = true →
      (m.serve request).reply.fault? = some (.outOfBounds address cells) →
        address ∈ (m.serve request).machine.faultAddresses ∧
          (address = (m.serve request).machine.pc ∨ address < lastAddress)) ∧
    (∀ address cells, m.step.result = .error (.outOfBounds address cells) →
      address ∈ m.faultAddresses ∧ (address = m.pc ∨ address < lastAddress)) ∧
    ∀ op fault, m.pc < config.memorySize → m.memory.decode m.pc op = .error fault →
      ∃ address, (address = m.pc + 1 ∨ address = m.pc + 2) ∧ address < lastAddress ∧
        fault = .outOfBounds address config.memorySize := by
  refine ⟨fun address byte block op fault h => ?_, fun request fault h => trueOf_of_serve h,
    fun request address cells hruns h => address_mem_of_serve hruns h, fun address cells h => ?_,
    fun op fault hpc h => fault_of_decode_inside hpc h⟩
  · rcases h with hread | hwrite | hload | hdecode
    · exact Memory.isOutside_of_read hread
    · exact Memory.isOutside_of_write hwrite
    · exact Memory.isOutside_of_load hsize hload
    · exact Memory.isOutside_of_decode hsize hdecode
  · obtain ⟨e, hrule⟩ := exists_rule_of_error h
    exact hrule.address_mem

/-- A program that prints and then multiplies by a register that does not exist. -/
def misnaming : List Request :=
  [.load [71, 2, 162, 2, 9]]

/-- A block at the last address would end far behind it, and is reported by the address before. The
run of the small machine ends at the multiplication, whose second operand is the register. -/
theorem faults_true_small :
    let memory := Memory.zeroed 4
    let m := (new valid_small).after misnaming
    4 < lastAddress ∧
      memory.load 18446744073709551615 [1, 2, 3] =
        .error (.outOfBounds 18446744073709551614 4) ∧
      (Fault.outOfBounds 18446744073709551614 4).IsOutside 4 ∧
      (m.serve .run).reply = .exited ⟨.faulted (.invalidRegister 9) 2, 1⟩ ∧
      (Fault.invalidRegister 9).TrueOf .run (m.serve .run).machine := by
  intro memory m
  have hsize : 4 < lastAddress := by decide
  have hload : memory.load 18446744073709551615 [1, 2, 3] =
      .error (.outOfBounds 18446744073709551614 4) := rfl
  have hrun : (m.serve .run).reply = .exited ⟨.faulted (.invalidRegister 9) 2, 1⟩ := by
    decide +kernel
  obtain ⟨houtside, htrue, -, -, -⟩ := faults_true hsize memory m
  refine ⟨hsize, hload, ?_, hrun, htrue .run _ ?_⟩
  · exact houtside 18446744073709551615 0 [1, 2, 3] .hlt _ (Or.inr (Or.inr (Or.inl hload)))
  · rw [hrun]
    rfl

end Machine

end EightBit
