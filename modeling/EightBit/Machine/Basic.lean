import EightBit.Execution
import EightBit.Machine.Event
import EightBit.Snapshot

/-!
# The machine

A machine is a store with a program counter, the output and the snapshots that nobody has taken
yet, and a flag that asks it to stop before its next instruction.

This file holds the state, the operations on it from outside, and the single step. The settings of
a machine are part of its type, so nothing can change them, and only valid ones make a machine.
-/

namespace EightBit

/-- A machine with the given settings, and all its state. -/
structure Machine (config : Config) where
  valid : config.Valid
  store : Store config.memorySize
  /-- The address of the next instruction. -/
  pc : Nat
  /-- Output that was not taken yet. -/
  output : List Line
  /-- Snapshots that were not taken yet. -/
  snapshots : List Snapshot
  /-- Whether an interrupt is waiting for the next run. -/
  interruptPending : Bool

/-- A program that has more bytes than the memory has cells. -/
structure ProgramTooLarge where
  length : Nat
  capacity : Nat
deriving DecidableEq, Repr

/-- The trouble with a large program in words. -/
def ProgramTooLarge.message (e : ProgramTooLarge) : String :=
  s!"program of {e.length} bytes does not fit in {e.capacity} bytes of memory"

namespace Machine

variable {config : Config}

/-- The memory of a machine. -/
abbrev memory (m : Machine config) : Memory config.memorySize :=
  m.store.memory

/-- The registers of a machine. -/
abbrev registers (m : Machine config) : Registers :=
  m.store.registers

/-- A machine as it is switched on: all zero but the stack pointer. -/
def new (valid : config.Valid) : Machine config where
  valid
  store := {
    memory := .zeroed config.memorySize
    registers := Registers.zeroed.setStackPointer config.stackPointer }
  pc := 0
  output := []
  snapshots := []
  interruptPending := false

/-- A new machine with the given settings, of which the memory size is checked first. -/
def ofConfig (config : Config) : Except ConfigError (Machine config) :=
  if hsize : 0 < config.memorySize ∧ config.memorySize ≤ maxMemorySize then
    if hsp : config.stackPointer.toNat ≤ config.memorySize then
      .ok (new ⟨hsize.1, hsize.2, hsp⟩)
    else .error (.stackPointer config.stackPointer config.memorySize)
  else .error (.memorySize config.memorySize)

/-- Puts everything back to how it was when the machine was switched on. -/
def reset (m : Machine config) : Machine config :=
  { m with
    store := {
      memory := m.memory.clear
      registers := Registers.zeroed.setStackPointer config.stackPointer }
    pc := 0
    output := []
    snapshots := []
    interruptPending := false }

/-! ## Access from outside -/

/-- Puts a program at the start of memory and leaves all else alone. -/
def load (m : Machine config) (program : List UInt8) :
    Except ProgramTooLarge (Machine config) :=
  match m.memory.load 0 program with
  | .ok memory => .ok { m with store := { m.store with memory } }
  | .error _ => .error ⟨program.length, config.memorySize⟩

theorem load_of_le (m : Machine config) {program : List UInt8}
    (h : program.length ≤ config.memorySize) :
    m.load program =
      .ok { m with store := { m.store with memory := m.memory.overlay 0 program } } := by
  rw [load, Memory.load, if_pos (by rwa [Nat.zero_add])]

/-- What the log learns when a program has been loaded. -/
def loadEvent (config : Config) (program : List UInt8) : Event :=
  .programLoaded program.length config.memorySize

/-- Puts a byte into memory. -/
def write (m : Machine config) (address : Nat) (byte : UInt8) :
    Except Fault (Machine config) := do
  let memory ← m.memory.write address byte
  return { m with store := { m.store with memory } }

/-- Puts a byte into the register that `name` names. -/
def setRegister (m : Machine config) (name value : UInt8) : Except Fault (Machine config) := do
  let registers ← m.registers.set name value
  return { m with store := { m.store with registers } }

/-- Moves the program counter. -/
def setPc (m : Machine config) (pc : Nat) : Machine config :=
  { m with pc }

/-- Combines two registers into the first. -/
def combine (m : Machine config) (op : AluOperation) (a b : UInt8) :
    Except Fault (Machine config) := do
  let registers ← m.registers.combine op a b
  return { m with store := { m.store with registers } }

/-- Combines two registers by the operation of a name, which is checked before the registers. -/
def combineNamed (m : Machine config) (name : String) (a b : UInt8) :
    Except Fault (Machine config) := do
  m.combine (← AluOperation.ofName name) a b

/-- The bytes of the output that was not taken yet. -/
def outputBytes (m : Machine config) : ByteArray :=
  (Line.render m.output).toByteArray

/-- Takes the output, leaving none. -/
def takeOutput (m : Machine config) : List Line × Machine config :=
  (m.output, { m with output := [] })

/-- The bytes of the trace that was not taken yet. -/
def traceBytes (m : Machine config) : ByteArray :=
  (Snapshot.render m.snapshots).toByteArray

/-- Takes the snapshots, leaving none. -/
def takeSnapshots (m : Machine config) : List Snapshot × Machine config :=
  (m.snapshots, { m with snapshots := [] })

/-- Asks the machine to stop before the next instruction of a run. -/
def interrupt (m : Machine config) : Machine config :=
  { m with interruptPending := true }

/-- What the trace shows of the machine now. -/
def snapshot (m : Machine config) : Snapshot :=
  .take m.memory m.registers m.pc

/-! ## The step -/

/-- How a step ended that did not fail. -/
inductive Step where
  /-- An instruction was carried out and the program counter moved past it. -/
  | continued
  /-- The program ends here. -/
  | halted
  /-- The byte at the program counter is no opcode. -/
  | unknownOpcode (byte : UInt8)
deriving DecidableEq, Repr

/-- A step with all that came of it. -/
structure Stepped (config : Config) where
  result : Except Fault Step
  machine : Machine config
  events : List Event

/-- The machine with a snapshot recorded, if it records any. -/
def recorded (m : Machine config) : Machine config :=
  { m with snapshots := if config.tracing then m.snapshots ++ [m.snapshot] else m.snapshots }

/-- The machine after an instruction of `length` bytes that left `store` and perhaps printed. -/
def advance (m : Machine config) (store : Store config.memorySize) (line : Option Line)
    (length : Nat) : Machine config :=
  { m with store, pc := m.pc + length, output := m.output ++ line.toList }

/-- Carries out the instruction at the program counter. Unless the step continues, the machine is
as before but for the recorded snapshot. -/
def step (m : Machine config) : Stepped config :=
  match m.memory.fetch m.pc with
  | .error fault => ⟨.error fault, m.recorded, []⟩
  | .ok (.unknown byte) => ⟨.ok (.unknownOpcode byte), m.recorded, []⟩
  | .ok (.instruction i) =>
    match i.execute config.product m.store with
    | .error fault => ⟨.error fault, m.recorded, [.dispatch m.pc i]⟩
    | .ok .halt => ⟨.ok .halted, m.recorded, [.dispatch m.pc i]⟩
    | .ok (.proceed store line) =>
      ⟨.ok .continued, m.recorded.advance store line i.length, [.dispatch m.pc i]⟩

end Machine

end EightBit
