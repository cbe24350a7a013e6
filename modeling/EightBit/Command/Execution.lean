import EightBit.Command.Arguments
import EightBit.Command.Failure
import EightBit.Log.Filter
import EightBit.Machine.Run

/-!
# Execution of the command

What the command does once its arguments are read: build the machine, read the program file, load
the program and run it in slices, writing after each slice what has come of it. The first stage
that fails decides the exit status, and nothing is written to standard output before the run.

Reading files is left to the caller, so all of this is a function of the options, the content of
the file and the environment: the errors, the log and the name of the command.
-/

namespace EightBit.Command

/-- A piece of what the command writes. -/
inductive Chunk where
  | stdout (text : String)
  | stderr (text : String)
deriving DecidableEq, Repr

/-- All that the command writes, in order, and how it ends. -/
structure Outcome where
  chunks : List Chunk
  status : Status
deriving DecidableEq, Repr

namespace Outcome

/-- What is written to standard output. -/
def stdout (o : Outcome) : String :=
  String.join (o.chunks.map fun
    | .stdout text => text
    | .stderr _ => "")

/-- What is written to standard error. -/
def stderr (o : Outcome) : String :=
  String.join (o.chunks.map fun
    | .stdout _ => ""
    | .stderr text => text)

/-- An outcome with something written before it. -/
def after (chunks : List Chunk) (o : Outcome) : Outcome :=
  { o with chunks := chunks ++ o.chunks }

/-- An outcome with one line on standard error. -/
def report (status : Status) (line : String) : Outcome :=
  ⟨[.stderr (line ++ "\n")], status⟩

/-- The end with a line about an error. -/
def fail (status : Status) (message : String) : Outcome :=
  report status ("error: " ++ message)

end Outcome

/-- The outcome for arguments that make no sense. -/
def UsageError.outcome (e : UsageError) : Outcome :=
  .fail .usage e.visible.message

/-- The outcome when help is wanted. -/
def helpOutcome : Outcome :=
  ⟨[.stdout helpText], .success⟩

/-! ## What is given from outside -/

/-- What the command finds when it is called, besides its arguments. -/
structure Environment where
  errors : ErrorCarrier
  log : Log.Subscriber
  /-- The name by which the command was called, if it is known. -/
  name : Option String

/-- What the command has done so far, or the error that has stopped it. -/
structure Progress (env : Environment) where
  chunks : List Chunk
  result : Except env.errors.Carried Unit

namespace Progress

variable {env : Environment}

/-- Stopped by an error before anything was written. -/
def failed (e : env.errors.Carried) : Progress env :=
  ⟨[], .error e⟩

/-- Progress with something written before it. -/
def after (chunks : List Chunk) (p : Progress env) : Progress env :=
  { p with chunks := chunks ++ p.chunks }

end Progress

namespace Environment

variable (env : Environment)

/-- What is said about an error at the end. An error with a file that cannot be read comes with the
name of the command and without its reasons. -/
def complaint (e : env.errors.Carried) : String :=
  if exitStatus env.errors e = .unreadable then
    env.name.getD "ls8" ++ ": " ++ env.errors.message e
  else "error: " ++ env.errors.fullMessage e

/-- The end of the command: the status tells the kind of the error, if there is one. -/
def finish (p : Progress env) : Outcome :=
  match p.result with
  | .ok () => ⟨p.chunks, .success⟩
  | .error e => ⟨p.chunks ++ [.stderr (env.complaint e ++ "\n")], exitStatus env.errors e⟩

end Environment

/-! ## Log records of the command -/

/-- The record of a loaded program file. -/
def loadedRecord (path : String) (length : Nat) : Log.Record :=
  ⟨.info, "ls8", "program loaded", [("path", .plain path), ("bytes", .number length)]⟩

/-- The record of a program that has halted. -/
def haltedRecord (executed : Nat) : Log.Record :=
  ⟨.debug, "ls8", "halted", [("total_executed", .number executed)]⟩

/-! ## Running in slices -/

/-- The most instructions of a slice. With tracing every instruction is a slice of its own, so
that trace lines and output come in the order of execution. -/
def sliceLength (o : Options) : Nat :=
  if o.config.tracing then 1 else 4096

/-- The budget of the next slice, unless the command has to stop here. -/
def nextBudget (o : Options) (executed : Nat) : Option Nat :=
  match o.maxInstructions with
  | none => some (sliceLength o)
  | some limit =>
    if limit ≤ executed then none else some (min (limit - executed) (sliceLength o))

theorem nextBudget_pos {o : Options} {executed budget : Nat}
    (h : nextBudget o executed = some budget) : 0 < budget := by
  have hslice : 0 < sliceLength o := by
    unfold sliceLength
    split <;> omega
  unfold nextBudget at h
  split at h
  · cases h
    exact hslice
  · split at h
    · cases h
    · cases h
      omega

/-- What a slice has the command write: the log, then the trace, then the output. -/
def sliceChunks {config : Config} (log : Log.Subscriber) (r : Run config) : List Chunk :=
  [.stderr (log.render (r.events.map (·.record))),
   .stderr (Snapshot.render r.machine.snapshots),
   .stdout (Line.render r.machine.output)]

/-- The machine with nothing left to write. -/
def drained {config : Config} (m : Machine config) : Machine config :=
  m.takeSnapshots.2.takeOutput.2

/-- Whether the loop goes on after a slice. -/
inductive LoopControl where
  | again
  | leave
deriving DecidableEq, Repr

namespace Environment

variable (env : Environment)

/-- What the end of a slice has the command write, and whether the loop goes on, when so many
instructions have been executed in all. A fault is an error of the command. -/
def handleExit (reason : Stop) (executed : Nat) :
    List Chunk × Except env.errors.Carried LoopControl :=
  match reason with
  | .completed => ([], .ok .again)
  | .halted => ([.stderr (env.log.render [haltedRecord executed])], .ok .leave)
  | .unknownOpcode byte pc =>
    ([.stderr (s!"warning: halted on unknown opcode {Numeral.binary byte.toNat} at " ++
      s!"address {Numeral.hex pc} after {executed} instructions" ++ "\n")], .ok .leave)
  | .interrupted =>
    ([.stderr (s!"interrupted after {executed} instructions" ++ "\n")], .ok .leave)
  | .faulted fault pc =>
    ([], .error (env.errors.explain
      s!"execution stopped at address {Numeral.hex pc} after {executed} instructions"
      (env.errors.wrap (.fault fault))))

theorem completed_of_handleExit {reason : Stop} {executed : Nat}
    (h : (env.handleExit reason executed).2 = .ok .again) : reason = .completed := by
  unfold handleExit at h
  split at h
  · rfl
  all_goals cases h

/-- Goes on running a machine that has executed so many instructions. -/
def runSlices (o : Options) (executed : Nat) (m : Machine o.config) : Progress env :=
  match _hbudget : nextBudget o executed with
  | none => ⟨[.stderr (s!"stopped after {executed} instructions (--max-insts)" ++ "\n")], .ok ()⟩
  | some budget =>
    let r := m.runSlice budget
    let total := executed + r.exit.executed
    let rest : Progress env :=
      match _hcontrol : (env.handleExit r.exit.reason total).2 with
      | .ok .again => runSlices o total (drained r.machine)
      | .ok .leave => ⟨[], .ok ()⟩
      | .error e => .failed e
    rest.after (sliceChunks env.log r ++ (env.handleExit r.exit.reason total).1)
termination_by m.remaining
decreasing_by
  exact Machine.remaining_runSlice_lt (nextBudget_pos _hbudget)
    (env.completed_of_handleExit _hcontrol)

/-- Loads a program into a new machine and runs it. -/
def runProgram (o : Options) (m : Machine o.config) (program : List UInt8) : Progress env :=
  match m.load program with
  | .error e =>
    .failed (env.errors.explain s!"failed to load {o.program}"
      (env.errors.wrap (.machine (.tooLarge e))))
  | .ok loaded =>
    let records :=
      [(Machine.loadEvent o.config program).record, loadedRecord o.program program.length]
    (env.runSlices o 0 loaded).after [.stderr (env.log.render records)]

/-- Goes through the stages of the command, given what reading the program file gave. -/
def run (o : Options) (content : Except ReadError ByteArray) : Progress env :=
  match Machine.ofConfig o.config with
  | .error e =>
    .failed (env.errors.explain "invalid machine configuration"
      (env.errors.wrap (.machine (.config e))))
  | .ok m =>
    match Image.ofFile o.program content with
    | .error e => .failed (env.errors.wrap (.image e))
    | .ok program => env.runProgram o m program

/-- Executes the command. What is to be said about the log is said before anything else. -/
def execute (o : Options) (content : Except ReadError ByteArray) : Outcome :=
  (env.finish (env.run o content)).after [.stderr env.log.notice]

/-- The environment for a log that is set up by a text. -/
def ofLogging (logging : String) (name : Option String) : Environment :=
  ⟨Explained.carrier, .ofText logging, name⟩

theorem lawful_errors_ofLogging (logging : String) (name : Option String) :
    (ofLogging logging name).errors.Lawful :=
  Explained.lawful_carrier

theorem errorsOnly_log_ofLogging_empty (name : Option String) :
    (ofLogging "" name).log.ErrorsOnly :=
  Log.Subscriber.errorsOnly_ofText_empty

end Environment

/-- Executes the command by its own name, with a log that is set up by a text. -/
def executeLogged (o : Options) (logging : String) (content : Except ReadError ByteArray) :
    Outcome :=
  (Environment.ofLogging logging none).execute o content

end EightBit.Command
