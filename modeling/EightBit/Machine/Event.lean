import EightBit.Instruction
import EightBit.Log.Record

/-!
# Events of a machine

What a machine tells the log while it works.
-/

namespace EightBit

/-- Something worth a log record. Counts of executed instructions start anew with each run. -/
inductive Event where
  | programLoaded (length capacity : Nat)
  /-- An instruction is about to be carried out. -/
  | dispatch (pc : Nat) (i : Instruction)
  | interrupted (pc executed : Nat)
  | halted (pc executed : Nat)
  | unknownOpcode (pc : Nat) (byte : UInt8)
  | faulted (pc executed : Nat) (fault : Fault)
deriving DecidableEq, Repr

namespace Event

/-- The level that an event is logged at. -/
def level : Event → Log.Level
  | .dispatch .. => .trace
  | .unknownOpcode .. => .warn
  | .programLoaded .. | .interrupted .. | .halted .. | .faulted .. => .debug

/-- The message of an event. -/
def message : Event → String
  | .programLoaded .. => "program loaded"
  | .dispatch .. => "dispatch"
  | .interrupted .. => "interrupted"
  | .halted .. => "halted"
  | .unknownOpcode .. => "unknown opcode; stopping"
  | .faulted .. => "fault"

/-- The values that are logged with an event. -/
def fields : Event → List (String × Log.Value)
  | .programLoaded length capacity => [("len", .number length), ("capacity", .number capacity)]
  | .dispatch pc i =>
    [("pc", .number pc), ("op", .quoted i.opcode.mnemonic), ("a", .number i.a.toNat),
     ("b", .number i.b.toNat)]
  | .interrupted pc executed | .halted pc executed =>
    [("pc", .number pc), ("executed", .number executed)]
  | .unknownOpcode pc byte => [("pc", .number pc), ("opcode", .number byte.toNat)]
  | .faulted pc executed fault =>
    [("pc", .number pc), ("executed", .number executed), ("fault", .plain fault.message)]

/-- The log record of an event. -/
def record (e : Event) : Log.Record where
  level := e.level
  target := "ls8_machine::machine"
  message := e.message
  fields := e.fields

end Event

end EightBit
