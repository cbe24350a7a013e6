import EightBit.Proofs.Execution
import EightBit.Proofs.LastWrite
import EightBit.Proofs.Step

/-!
# Machines in place

A machine that is changed in place keeps what was changed before a failure, and it collects its
output and its trace in buffers of bytes. Here the operations that can fail are carried out on such
a machine, one access after the other; instructions are found in a table of opcodes and carried out
by handlers that are found by number.

Each operation comes to the same as on a machine that is not changed in place (`Agrees`), since
every access that can fail is made before the first change to memory, registers or output.
-/

namespace EightBit

/-- What a machine that is changed in place consists of. -/
structure InPlace.State (config : Config) where
  memory : Memory config.memorySize
  registers : Registers
  pc : Nat
  output : ByteArray
  trace : ByteArray
  interruptPending : Bool

/-- Work on a machine in place. A failure does not take back what was changed before it. -/
abbrev InPlace (config : Config) (ε : Type) :=
  EStateM ε (InPlace.State config)

namespace InPlace

variable {config : Config} {ε α β : Type}

/-- The state of a machine, with lines and snapshots in bytes. -/
def State.of (m : Machine config) : State config where
  memory := m.memory
  registers := m.registers
  pc := m.pc
  output := m.outputBytes
  trace := m.traceBytes
  interruptPending := m.interruptPending

/-! ## Accesses -/

/-- Looks something up. -/
def look (f : State config → Except ε α) : InPlace config ε α := fun s =>
  match f s with
  | .ok value => .ok value s
  | .error e => .error e s

/-- Works on the memory. -/
def onMemory (edit : Memory.Editing config.memorySize α) : InPlace config Fault α := fun s =>
  match edit s.memory with
  | .ok value memory => .ok value { s with memory }
  | .error fault memory => .error fault { s with memory }

/-- Puts a byte into memory. -/
def write (address : Nat) (byte : UInt8) : InPlace config Fault Unit :=
  onMemory (.put address byte)

/-- Puts a program at the start of memory, byte after byte once it is known to fit. -/
def load (program : List UInt8) : InPlace config ProgramTooLarge Unit :=
  EStateM.adaptExcept (fun _ => ⟨program.length, config.memorySize⟩) (onMemory (.load 0 program))

/-- The value of the register that `name` names. -/
def getRegister (name : UInt8) : InPlace config Fault UInt8 :=
  look (·.registers.get name)

/-- Puts a byte into the register that `name` names. -/
def setRegister (name value : UInt8) : InPlace config Fault Unit := do
  let r ← look fun _ => Register.ofByte name
  modify fun s => { s with registers := s.registers.write r value }

/-- Moves the stack pointer. -/
def setStackPointer (value : UInt8) : InPlace config Fault Unit :=
  modify fun s => { s with registers := s.registers.setStackPointer value }

/-- Combines two registers into the first. -/
def combine (op : AluOperation) (a b : UInt8) : InPlace config Fault Unit := do
  let x ← getRegister a
  let y ← getRegister b
  setRegister a (op.apply x y)

/-- Combines two registers by the operation of a name. -/
def combineNamed (name : String) (a b : UInt8) : InPlace config Fault Unit := do
  let op ← look fun _ => AluOperation.ofName name
  combine op a b

/-- Appends a line to the output, its text first and then a line feed. -/
def emitLine (text : String) : InPlace config Fault Unit := do
  modify fun s => { s with output := s.output ++ text.toByteArray }
  modify fun s => { s with output := s.output.push 10 }

/-- Appends a line to the trace, if there is one. -/
def traceLine : InPlace config Fault Unit := do
  if config.tracing then
    let s ← get
    let text := (Snapshot.take s.memory s.registers s.pc).line
    modify fun s => { s with trace := s.trace ++ text.toByteArray }
    modify fun s => { s with trace := s.trace.push 10 }

/-! ## Handlers -/

/-- What follows an instruction. -/
inductive Next where
  | proceed
  | halt

/-- What carries out the instructions of an opcode. -/
abbrev Handler (config : Config) :=
  Instruction → InPlace config Fault Next

def hlt : Handler config := fun _ =>
  return .halt

def ldi : Handler config := fun i => do
  setRegister i.a i.b
  return .proceed

def prn : Handler config := fun i => do
  let value ← getRegister i.a
  emitLine s!"Value = {value}"
  return .proceed

/-- The product is one of 16 bits. -/
def mul : Handler config := fun i => do
  let x ← getRegister i.a
  let y ← getRegister i.b
  let product := x.toUInt16 * y.toUInt16
  if config.product = .store then
    setRegister i.a product.toUInt8
  emitLine s!"Multiplying operation result: {product}"
  return .proceed

def push : Handler config := fun i => do
  let value ← getRegister i.a
  let top := (← get).registers.stackPointer - 1
  write top.toNat value
  setStackPointer top
  return .proceed

def pop : Handler config := fun i => do
  let top := (← get).registers.stackPointer
  let value ← look (·.memory.read top.toNat)
  setRegister i.a value
  setStackPointer ((← get).registers.stackPointer + 1)
  return .proceed

/-- The handlers, by the numbers of their opcodes. -/
def handlers : Vector (Handler config) 6 :=
  #v[hlt, ldi, prn, mul, push, pop]

/-- The handler of an opcode. -/
def handler (op : Opcode) : Handler config :=
  have hindex : op.index < 6 := op.index_lt
  handlers[op.index]

/-- Adds to the trace and carries out the instruction at the program counter. -/
def step : InPlace config Fault Machine.Step := do
  let pc := (← get).pc
  traceLine
  let byte ← look (·.memory.read pc)
  match OpcodeTable.full.lookup byte with
  | none => return .unknownOpcode byte
  | some op =>
    let i ← look (·.memory.decode pc op)
    match ← handler op i with
    | .proceed =>
      modify fun s => { s with pc := pc + i.length }
      return .continued
    | .halt => return .halted

/-! ## Nothing is left behind by a failure -/

/-- What an operation that was made or failed makes of a machine. -/
def settled (m : Machine config) :
    Except ε (Machine config) → EStateM.Result ε (State config) Unit
  | .ok m' => .ok () (.of m')
  | .error e => .error e (.of m)

section

variable {x : InPlace config ε α} {f : α → InPlace config ε β} {s s' : State config} {a : α} {e : ε}

theorem bind_of_ok (h : x s = .ok a s') : (x >>= f) s = f a s' := by
  simp only [bind, EStateM.bind, h]

theorem bind_of_error (h : x s = .error e s') : (x >>= f) s = .error e s' := by
  simp only [bind, EStateM.bind, h]

theorem bind_get (f : State config → InPlace config ε α) (s : State config) :
    (get >>= f) s = f s s :=
  rfl

theorem look_of_ok {g : State config → Except ε α} (h : g s = .ok a) : look g s = .ok a s := by
  rw [look, h]

theorem look_of_error {g : State config → Except ε α} (h : g s = .error e) :
    look g s = .error e s := by
  rw [look, h]

end

variable {m : Machine config}

theorem onMemory_eq {edit : Memory.Editing config.memorySize Unit}
    {changed : Except Fault (Memory config.memorySize)}
    (h : edit m.memory = Memory.Editing.settle m.memory changed) :
    onMemory edit (.of m) =
      settled m (changed.map fun memory => { m with store := { m.store with memory } }) := by
  have hmemory : edit (State.of m).memory = Memory.Editing.settle m.memory changed := h
  rw [onMemory, hmemory]
  rcases changed with fault | memory <;> rfl

theorem write_eq (m : Machine config) (address : Nat) (byte : UInt8) :
    write address byte (.of m) = settled m (m.write address byte) := by
  rw [write, onMemory_eq rfl, Machine.write]
  rcases m.memory.write address byte with fault | memory <;> rfl

theorem load_eq (m : Machine config) (program : List UInt8) :
    load program (.of m) = settled m (m.load program) := by
  have hsize : config.memorySize ≤ lastAddress :=
    Nat.le_trans m.valid.memorySize_le (by decide)
  have hload := onMemory_eq (Memory.Editing.load_eq m.memory 0 program hsize)
  have hzero : (0 : UInt64).toNat = 0 := rfl
  rw [hzero] at hload
  rw [load, EStateM.adaptExcept, hload, Machine.load]
  rcases m.memory.load 0 program with fault | memory <;> rfl

theorem setRegister_eq (m : Machine config) (name value : UInt8) :
    setRegister name value (.of m) = settled m (m.setRegister name value) := by
  rw [Machine.setRegister, Registers.set]
  rcases hname : Register.ofByte name with fault | r
  · exact bind_of_error (look_of_error hname)
  · exact bind_of_ok (look_of_ok hname)

theorem getRegister_of_lt (m : Machine config) {name : UInt8} (h : name.toNat < 8) :
    getRegister name (.of m) = .ok (m.registers.read ⟨name.toNat, h⟩) (.of m) :=
  look_of_ok (m.registers.get_of_lt h)

theorem getRegister_of_le (m : Machine config) {name : UInt8} (h : 8 ≤ name.toNat) :
    getRegister name (.of m) = .error (.invalidRegister name) (.of m) :=
  look_of_error (m.registers.get_of_le h)

theorem setRegister_of_lt (m : Machine config) {name : UInt8} (value : UInt8)
    (h : name.toNat < 8) :
    setRegister name value (.of m) =
      .ok () (.of { m with store :=
        { m.store with registers := m.registers.write ⟨name.toNat, h⟩ value } }) := by
  rw [setRegister_eq, Machine.setRegister, m.registers.set_of_lt value h]
  rfl

theorem setRegister_of_le (m : Machine config) {name : UInt8} (value : UInt8)
    (h : 8 ≤ name.toNat) :
    setRegister name value (.of m) = .error (.invalidRegister name) (.of m) := by
  rw [setRegister_eq, Machine.setRegister, m.registers.set_of_le value h]
  rfl

theorem combine_eq (m : Machine config) (op : AluOperation) (a b : UInt8) :
    combine op a b (.of m) = settled m (m.combine op a b) := by
  rcases Nat.lt_or_ge a.toNat 8 with ha | ha
  · rcases Nat.lt_or_ge b.toNat 8 with hb | hb
    · rw [Machine.combine, m.registers.combine_of_lt op ha hb]
      exact (bind_of_ok (getRegister_of_lt m ha)).trans
        ((bind_of_ok (getRegister_of_lt m hb)).trans (setRegister_of_lt m _ ha))
    · rw [Machine.combine, m.registers.combine_of_right_le op ha hb]
      exact (bind_of_ok (getRegister_of_lt m ha)).trans (bind_of_error (getRegister_of_le m hb))
  · rw [Machine.combine, m.registers.combine_of_left_le op ha b]
    exact bind_of_error (getRegister_of_le m ha)

theorem combineNamed_eq (m : Machine config) (name : String) (a b : UInt8) :
    combineNamed name a b (.of m) = settled m (m.combineNamed name a b) := by
  rw [Machine.combineNamed]
  rcases hop : AluOperation.ofName name with fault | op
  · exact bind_of_error (look_of_error hop)
  · exact (bind_of_ok (look_of_ok hop)).trans (combine_eq m op a b)

/-! ## Lines -/

/-- A line feed behind a text. -/
theorem push_toByteArray (bytes : ByteArray) (text : String) :
    (bytes ++ text.toByteArray).push 10 = bytes ++ (text ++ "\n").toByteArray := by
  have hfeed : "\n".toByteArray = ByteArray.empty.push 10 := rfl
  rw [String.toByteArray_append, hfeed, ← ByteArray.append_assoc]
  exact ByteArray.ext (by simp)

/-- Text and line feed are one more line of output. -/
theorem emitLine_eq (m : Machine config) (line : Line) :
    emitLine line.text (.of m) = .ok () (.of { m with output := m.output ++ [line] }) := by
  have hbytes : Machine.outputBytes { m with output := m.output ++ [line] } =
      (m.outputBytes ++ line.text.toByteArray).push 10 := by
    rw [Machine.outputBytes_of_output (m := m) rfl, Line.render_singleton, push_toByteArray]
  have hstate : State.of { m with output := m.output ++ [line] } =
      { State.of m with output := (m.outputBytes ++ line.text.toByteArray).push 10 } := by
    rw [State.of, hbytes]
    rfl
  rw [hstate]
  rfl

/-- Text and line feed are one more snapshot. -/
theorem traceLine_eq (m : Machine config) : traceLine (.of m) = .ok () (.of m.recorded) := by
  have hstate : State.of m.recorded = { State.of m with trace := m.recorded.traceBytes } := rfl
  rw [hstate, m.traceBytes_recorded, traceLine]
  split
  · rw [← push_toByteArray]
    rfl
  · rw [ByteArray.append_empty]
    rfl

/-! ## Instructions -/

/-- What the outcome of an instruction makes of a machine. A fault makes nothing of it. -/
def outcome (m : Machine config) :
    Except Fault (Action config.memorySize) → EStateM.Result Fault (State config) Next
  | .error fault => .error fault (.of m)
  | .ok .halt => .ok .halt (.of m)
  | .ok (.proceed store line) =>
    .ok .proceed (.of { m with store, output := m.output ++ line.toList })

theorem outcome_proceed_none (m : Machine config) (store : Store config.memorySize) :
    outcome m (.ok (.proceed store none)) = .ok .proceed (.of { m with store }) := by
  simp only [outcome, Option.toList_none, List.append_nil]

theorem toNat_product (x y : UInt8) :
    (x.toUInt16 * y.toUInt16).toNat = x.toNat * y.toNat := by
  have hx : x.toNat ≤ 255 := Nat.le_of_lt_succ x.toNat_lt
  have hy : y.toNat ≤ 255 := Nat.le_of_lt_succ y.toNat_lt
  have hproduct : x.toNat * y.toNat ≤ 255 * 255 := Nat.mul_le_mul hx hy
  rw [UInt16.toNat_mul, UInt8.toNat_toUInt16, UInt8.toNat_toUInt16]
  exact Nat.mod_eq_of_lt (by omega)

theorem toUInt8_product (x y : UInt8) :
    (x.toUInt16 * y.toUInt16).toUInt8 = UInt8.ofNat (x.toNat * y.toNat) := by
  apply UInt8.toNat_inj.mp
  rw [UInt16.toNat_toUInt8, toNat_product, UInt8.toNat_ofNat']

/-- The line of a product of 16 bits shows the product in full. -/
theorem emitLine_product (m : Machine config) (x y : UInt8) :
    (emitLine s!"Multiplying operation result: {x.toUInt16 * y.toUInt16}" >>= fun _ =>
      return Next.proceed) (State.of m) =
    .ok .proceed (.of { m with output := m.output ++ [.product (x.toNat * y.toNat)] }) := by
  have htext : s!"Multiplying operation result: {x.toUInt16 * y.toUInt16}" =
      (Line.product (x.toNat * y.toNat)).text :=
    congrArg (fun n : Nat => s!"Multiplying operation result: {n}") (toNat_product x y)
  rw [htext]
  exact bind_of_ok (emitLine_eq m _)

theorem ldi_eq (m : Machine config) (register value : UInt8) :
    ldi (.ldi register value) (.of m) =
      outcome m ((Instruction.ldi register value).execute config.product m.store) := by
  rcases Nat.lt_or_ge register.toNat 8 with h | h
  · rw [Instruction.execute_ldi_of_lt h, outcome_proceed_none]
    exact bind_of_ok (setRegister_of_lt m value h)
  · rw [Instruction.execute_ldi_of_le h]
    exact bind_of_error (setRegister_of_le m value h)

theorem prn_eq (m : Machine config) (register : UInt8) :
    prn (.prn register) (.of m) =
      outcome m ((Instruction.prn register).execute config.product m.store) := by
  rcases Nat.lt_or_ge register.toNat 8 with h | h
  · rw [Instruction.execute_prn_of_lt h]
    refine (bind_of_ok (getRegister_of_lt m h)).trans ?_
    exact bind_of_ok (emitLine_eq m (.value _))
  · rw [Instruction.execute_prn_of_le h]
    exact bind_of_error (getRegister_of_le m h)

theorem mul_eq (m : Machine config) (left right : UInt8) :
    mul (.mul left right) (.of m) =
      outcome m ((Instruction.mul left right).execute config.product m.store) := by
  rcases Nat.lt_or_ge left.toNat 8 with hleft | hleft
  · rcases Nat.lt_or_ge right.toNat 8 with hright | hright
    · refine (bind_of_ok (getRegister_of_lt m hleft)).trans
        ((bind_of_ok (getRegister_of_lt m hright)).trans ?_)
      rcases hmode : config.product
      · rw [Instruction.execute_mul_print hleft hright]
        exact emitLine_product m _ _
      · -- the register is written before the line, so a fault would leave no line behind
        have hset := setRegister_of_lt m ((m.registers.read ⟨left.toNat, hleft⟩).toUInt16 *
          (m.registers.read ⟨right.toNat, hright⟩).toUInt16).toUInt8 hleft
        have hlow := toUInt8_product (m.registers.read ⟨left.toNat, hleft⟩)
          (m.registers.read ⟨right.toNat, hright⟩)
        rw [Instruction.execute_mul_store hleft hright]
        dsimp only
        rw [← hlow]
        exact (bind_of_ok hset).trans (emitLine_product _ _ _)
    · rw [Instruction.execute_mul_of_right_le hleft hright]
      exact (bind_of_ok (getRegister_of_lt m hleft)).trans
        (bind_of_error (getRegister_of_le m hright))
  · rw [Instruction.execute_mul_of_left_le hleft]
    exact bind_of_error (getRegister_of_le m hleft)

theorem push_eq (m : Machine config) (register : UInt8) :
    push (.push register) (.of m) =
      outcome m ((Instruction.push register).execute config.product m.store) := by
  rcases Nat.lt_or_ge register.toNat 8 with h | h
  · refine (bind_of_ok (getRegister_of_lt m h)).trans ((bind_get _ _).trans ?_)
    have hwritten := write_eq m (m.registers.stackPointer - 1).toNat
      (m.registers.read ⟨register.toNat, h⟩)
    rw [Machine.write] at hwritten
    rcases Nat.lt_or_ge (m.registers.stackPointer - 1).toNat config.memorySize with htop | htop
    · obtain ⟨memory, hmemory⟩ := m.memory.exists_write htop (m.registers.read ⟨register.toNat, h⟩)
      rw [hmemory] at hwritten
      rw [Instruction.execute_push_of_write h hmemory, outcome_proceed_none]
      exact bind_of_ok hwritten
    · rw [m.memory.write_of_le htop] at hwritten
      rw [Instruction.execute_push_of_size_le h htop]
      exact bind_of_error hwritten
  · rw [Instruction.execute_push_of_le h]
    exact bind_of_error (getRegister_of_le m h)

theorem pop_eq (m : Machine config) (register : UInt8) :
    pop (.pop register) (.of m) =
      outcome m ((Instruction.pop register).execute config.product m.store) := by
  refine (bind_get _ _).trans ?_
  rcases Nat.lt_or_ge m.registers.stackPointer.toNat config.memorySize with htop | htop
  · obtain ⟨value, hvalue⟩ := m.memory.exists_get? htop
    refine (bind_of_ok (look_of_ok (Memory.read_eq_ok_iff.mpr hvalue))).trans ?_
    rcases Nat.lt_or_ge register.toNat 8 with h | h
    · rw [Instruction.execute_pop_of_get? hvalue h, outcome_proceed_none]
      exact bind_of_ok (setRegister_of_lt m value h)
    · rw [Instruction.execute_pop_of_le hvalue h]
      exact bind_of_error (setRegister_of_le m value h)
  · rw [Instruction.execute_pop_of_size_le htop]
    exact bind_of_error (look_of_error (m.memory.read_of_le htop))

/-- Carried out in place by its handler, an instruction has its whole effect or none. -/
theorem handler_eq (i : Instruction) (m : Machine config) :
    handler i.opcode i (.of m) = outcome m (i.execute config.product m.store) := by
  cases i with
  | hlt => rfl
  | ldi register value => exact ldi_eq m register value
  | prn register => exact prn_eq m register
  | mul left right => exact mul_eq m left right
  | push register => exact push_eq m register
  | pop register => exact pop_eq m register

/-! ## Steps -/

/-- A step with its machine, whether it failed or not. -/
def stepped (s : Machine.Stepped config) : EStateM.Result Fault (State config) Machine.Step :=
  match s.result with
  | .ok step => .ok step (.of s.machine)
  | .error fault => .error fault (.of s.machine)

/-- Carried out in place, a step comes to the same. -/
theorem step_eq (m : Machine config) : step (.of m) = stepped m.step := by
  -- the trace comes first, so all the rest works on the machine that has it
  refine (bind_get _ _).trans ((bind_of_ok (traceLine_eq m)).trans ?_)
  rcases hread : m.memory.read m.pc with fault | byte
  · have hfetch : m.memory.fetch m.pc = .error fault := by
      simp only [Memory.fetch, hread, bind, Except.bind]
    rw [Machine.step_of_fetch_error hfetch]
    exact bind_of_error (look_of_error hread)
  refine (bind_of_ok (look_of_ok hread)).trans ?_
  rw [OpcodeTable.lookup_full]
  rcases hop : Opcode.ofByte? byte with _ | op
  · have hfetch : m.memory.fetch m.pc = .ok (.unknown byte) := by
      simp only [Memory.fetch, hread, hop, bind, Except.bind]
      rfl
    rw [Machine.step_of_unknown hfetch]
    rfl
  dsimp only
  rcases hdecode : m.memory.decode m.pc op with fault | i
  · have hfetch : m.memory.fetch m.pc = .error fault := by
      simp only [Memory.fetch, hread, hop, hdecode, bind, Except.bind]
    rw [Machine.step_of_fetch_error hfetch]
    exact bind_of_error (look_of_error hdecode)
  refine (bind_of_ok (look_of_ok hdecode)).trans ?_
  have hfetch : m.memory.fetch m.pc = .ok (.instruction i) := by
    simp only [Memory.fetch, hread, hop, hdecode, bind, Except.bind]
    rfl
  obtain ⟨rfl, -⟩ := Memory.decode_eq_ok_iff.mp hdecode
  have hhandler : handler i.opcode i (State.of m.recorded) =
      outcome m.recorded (i.execute config.product m.store) := handler_eq i m.recorded
  rcases hexec : i.execute config.product m.store with fault | _ | ⟨store, line⟩
  all_goals rw [hexec] at hhandler
  · rw [Machine.step_of_execute_error hfetch hexec]
    exact bind_of_error hhandler
  · rw [Machine.step_of_halt hfetch hexec]
    exact bind_of_ok hhandler
  · rw [Machine.step_of_proceed hfetch hexec]
    exact bind_of_ok hhandler

/-! ## All operations that can fail -/

/-- In place, every operation of a machine that can fail comes to the same. So if it fails, nothing
is left behind of it, but for the trace of a step. -/
structure Agrees (m : Machine config) : Prop where
  load_eq : ∀ program, load program (.of m) = settled m (m.load program)
  write_eq : ∀ address byte, write address byte (.of m) = settled m (m.write address byte)
  setRegister_eq : ∀ name value,
    setRegister name value (.of m) = settled m (m.setRegister name value)
  combine_eq : ∀ op a b, combine op a b (.of m) = settled m (m.combine op a b)
  combineNamed_eq : ∀ name a b,
    combineNamed name a b (.of m) = settled m (m.combineNamed name a b)
  step_eq : step (.of m) = stepped m.step

theorem agrees (m : Machine config) : Agrees m :=
  ⟨load_eq m, write_eq m, setRegister_eq m, combine_eq m, combineNamed_eq m, step_eq m⟩

end InPlace

end EightBit
