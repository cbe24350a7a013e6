import EightBit.Image
import EightBit.Machine.Inspect
import EightBit.Machine.Run

/-!
# Sessions

All that can be asked of a machine, as requests with replies, so that a whole history of use is a
list of requests. A request that fails leaves the machine as it was, but for a snapshot that a
step has recorded.
-/

namespace EightBit

/-- Something asked of a machine. -/
inductive Request where
  | load (program : List UInt8)
  | loadImage (text : String)
  | readMemory (address : Nat)
  | readRegister (name : UInt8)
  | write (address : Nat) (byte : UInt8)
  | setRegister (name value : UInt8)
  | setPc (pc : Nat)
  | combineNamed (name : String) (a b : UInt8)
  | combine (op : AluOperation) (a b : UInt8)
  | step
  | run
  | runSlice (budget : Nat)
  | traceLine
  | peekOutput
  | takeOutput
  | takeSnapshots
  | dumpMemory
  | stackPointer
  | reset
  | interrupt
  | isInterruptPending
  | config
  | dumpInLine
  | dumpInLines
deriving DecidableEq, Repr

/-- What a machine replies. -/
inductive Reply where
  | done
  | count (n : Nat)
  | byte (b : UInt8)
  | bytes (bs : List UInt8)
  | flag (b : Bool)
  | text (s : String)
  | config (c : Config)
  | stepped (s : Machine.Step)
  | exited (e : Exit)
  | fault (f : Fault)
  | tooLarge (e : ProgramTooLarge)
  | invalidLine (e : InvalidLine)
deriving DecidableEq, Repr

/-- A request served, with all that came of it. -/
structure Served (config : Config) where
  reply : Reply
  machine : Machine config
  events : List Event

namespace Machine

variable {config : Config}

/-- A reply that leaves the machine alone. -/
def reply (m : Machine config) (r : Reply) : Served config :=
  ⟨r, m, []⟩

/-- The reply with a byte that was looked up, or the fault. -/
def replyByte (m : Machine config) : Except Fault UInt8 → Served config
  | .ok byte => m.reply (.byte byte)
  | .error f => m.reply (.fault f)

/-- The reply to a change that either has been made or failed. -/
def replyDone (m : Machine config) : Except Fault (Machine config) → Served config
  | .ok changed => changed.reply .done
  | .error f => m.reply (.fault f)

/-- The reply to a run. -/
def replyRun (r : Run config) : Served config :=
  ⟨.exited r.exit, r.machine, r.events⟩

/-- Loads a program and replies with `success` if it fits. -/
def serveLoad (m : Machine config) (program : List UInt8) (success : Reply) : Served config :=
  match m.load program with
  | .ok loaded => ⟨success, loaded, [loadEvent config program]⟩
  | .error e => m.reply (.tooLarge e)

/-- Serves a request. -/
def serve (m : Machine config) : Request → Served config
  | .load program => m.serveLoad program .done
  | .loadImage text =>
    match Image.parse text with
    | .ok program => m.serveLoad program (.count program.length)
    | .error e => m.reply (.invalidLine e)
  | .readMemory address => m.replyByte (m.memory.read address)
  | .readRegister name => m.replyByte (m.registers.get name)
  | .write address byte => m.replyDone (m.write address byte)
  | .setRegister name value => m.replyDone (m.setRegister name value)
  | .setPc pc => (m.setPc pc).reply .done
  | .combineNamed name a b => m.replyDone (m.combineNamed name a b)
  | .combine op a b => m.replyDone (m.combine op a b)
  | .step =>
    let s := m.step
    match s.result with
    | .ok step => ⟨.stepped step, s.machine, s.events⟩
    | .error f => ⟨.fault f, s.machine, s.events⟩
  | .run => replyRun m.run
  | .runSlice budget => replyRun (m.runSlice budget)
  | .traceLine => m.reply (.text m.snapshot.line)
  | .peekOutput => m.reply (.text (Line.render m.output))
  | .takeOutput =>
    let (lines, rest) := m.takeOutput
    rest.reply (.text (Line.render lines))
  | .takeSnapshots =>
    let (snapshots, rest) := m.takeSnapshots
    rest.reply (.text (Snapshot.render snapshots))
  | .dumpMemory => m.reply (.bytes m.memory.toList)
  | .stackPointer => m.reply (.byte m.registers.stackPointer)
  | .reset => m.reset.reply .done
  | .interrupt => m.interrupt.reply .done
  | .isInterruptPending => m.reply (.flag m.interruptPending)
  | .config => m.reply (.config config)
  | .dumpInLine => m.reply (.text m.dump.inLine)
  | .dumpInLines => m.reply (.text m.dump.inLines)

/-- Serves requests one after the other. -/
def serveAll (m : Machine config) : List Request → List (Served config)
  | [] => []
  | request :: rest =>
    let served := m.serve request
    served :: served.machine.serveAll rest

end Machine

end EightBit
