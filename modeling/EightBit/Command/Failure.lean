import EightBit.Image.File
import EightBit.Machine.Basic

/-!
# Failures of the command

Each stage of the command can fail for a cause of its own. On its way to the end of the command an
error may be explained, any number of times, and in the end the exit status depends on what kind
of cause lies under the explanations (`exitStatus`).

How errors are carried is not for the command to say. An `ErrorCarrier` does that, of which the
command relies on what `ErrorCarrier.Lawful` lists.
-/

namespace EightBit

/-- Why a machine could not be built, or a program not be loaded into it. -/
inductive MachineError where
  | config (e : ConfigError)
  | tooLarge (e : ProgramTooLarge)
deriving DecidableEq, Repr

/-- The trouble with a machine in words. -/
def MachineError.message : MachineError → String
  | .config e => e.message
  | .tooLarge e => e.message

namespace Command

/-! ## Causes -/

/-- What the command can fail for. -/
inductive Cause where
  | image (e : ImageError)
  | machine (e : MachineError)
  | fault (f : Fault)
deriving DecidableEq, Repr

namespace Cause

/-- A cause in words. -/
def message : Cause → String
  | .image e => e.message
  | .machine e => e.message
  | .fault f => f.message

/-- The words for what lies behind a cause: a file that could not be read is due to an error of the
system. -/
def source? : Cause → Option String
  | .image (.unreadable _ .missing) => none
  | .image (.unreadable _ why) => some why.reason
  | .image _ | .machine _ | .fault _ => none

/-- The error with a program file that is a cause. -/
def imageError? : Cause → Option ImageError
  | .image e => some e
  | .machine _ | .fault _ => none

/-- The error with a machine that is a cause. -/
def machineError? : Cause → Option MachineError
  | .machine e => some e
  | .image _ | .fault _ => none

/-- The fault that is a cause. -/
def fault? : Cause → Option Fault
  | .fault f => some f
  | .image _ | .machine _ => none

end Cause

/-! ## Carried errors -/

/-- A way to carry errors. -/
structure ErrorCarrier where
  /-- The errors that are carried. -/
  Carried : Type
  /-- Begins to carry a cause. -/
  wrap : Cause → Carried
  /-- Puts an explanation over an error. -/
  explain : String → Carried → Carried
  /-- Looks for an error with a program file. -/
  imageError? : Carried → Option ImageError
  /-- Looks for an error with a machine. -/
  machineError? : Carried → Option MachineError
  /-- Looks for a fault. -/
  fault? : Carried → Option Fault
  /-- The error in words, as far as it was explained last. -/
  message : Carried → String
  /-- The error in words, with all that it is due to. -/
  fullMessage : Carried → String

/-- What is documented of a carrier: explanations do not hide the kind of an error, and stand before
its words. -/
structure ErrorCarrier.Lawful (k : ErrorCarrier) : Prop where
  imageError?_wrap : ∀ c, k.imageError? (k.wrap c) = c.imageError?
  imageError?_explain : ∀ text e, k.imageError? (k.explain text e) = k.imageError? e
  machineError?_wrap : ∀ c, k.machineError? (k.wrap c) = c.machineError?
  machineError?_explain : ∀ text e, k.machineError? (k.explain text e) = k.machineError? e
  fault?_wrap : ∀ c, k.fault? (k.wrap c) = c.fault?
  fault?_explain : ∀ text e, k.fault? (k.explain text e) = k.fault? e
  message_wrap : ∀ c, k.message (k.wrap c) = c.message
  fullMessage_wrap : ∀ c, k.fullMessage (k.wrap c) =
    c.message ++ (c.source?.elim "" fun source => ": " ++ source)
  fullMessage_explain : ∀ text e,
    k.fullMessage (k.explain text e) = text ++ ": " ++ k.fullMessage e

/-- A cause under its explanations, of which the last one comes first. -/
structure Explained where
  explanations : List String
  cause : Cause
deriving DecidableEq, Repr

/-- Carries a cause together with its explanations. -/
def Explained.carrier : ErrorCarrier where
  Carried := Explained
  wrap cause := ⟨[], cause⟩
  explain text e := { e with explanations := text :: e.explanations }
  imageError? e := e.cause.imageError?
  machineError? e := e.cause.machineError?
  fault? e := e.cause.fault?
  message e := e.explanations.headD e.cause.message
  fullMessage e :=
    e.explanations.foldr (fun text rest => text ++ ": " ++ rest)
      (e.cause.message ++ (e.cause.source?.elim "" fun source => ": " ++ source))

theorem Explained.lawful_carrier : carrier.Lawful where
  imageError?_wrap _ := rfl
  imageError?_explain _ _ := rfl
  machineError?_wrap _ := rfl
  machineError?_explain _ _ := rfl
  fault?_wrap _ := rfl
  fault?_explain _ _ := rfl
  message_wrap _ := rfl
  fullMessage_wrap _ := rfl
  fullMessage_explain _ _ := rfl

/-! ## Exit statuses -/

/-- How the command ends. -/
inductive Status where
  | success
  /-- The arguments or the settings of the machine are wrong. -/
  | usage
  /-- The program file cannot be read. -/
  | unreadable
  /-- The program file holds no program that fits. -/
  | badImage
  /-- The program failed. -/
  | faulted
deriving DecidableEq, Repr

/-- The exit code of a status. -/
def Status.code : Status → UInt32
  | .success => 0
  | .usage => 1
  | .unreadable => 2
  | .badImage => 3
  | .faulted => 4

/-- The status for an error with a program file. -/
def imageStatus : ImageError → Status
  | .unreadable .. => .unreadable
  | .notUtf8 .. | .invalidLine _ => .badImage

/-- The status for an error with a machine. -/
def machineStatus : MachineError → Status
  | .tooLarge _ => .badImage
  | .config _ => .usage

/-- The status for a carried error, by its kind. What is of no known kind counts as wrong usage. -/
def exitStatus (k : ErrorCarrier) (e : k.Carried) : Status :=
  match k.imageError? e with
  | some e => imageStatus e
  | none =>
    match k.machineError? e with
    | some e => machineStatus e
    | none => if (k.fault? e).isSome then .faulted else .usage

/-- The status for a cause, whatever it was explained by. -/
def Cause.status : Cause → Status
  | .image e => imageStatus e
  | .machine e => machineStatus e
  | .fault _ => .faulted

section

variable {k : ErrorCarrier}

theorem exitStatus_wrap (hk : k.Lawful) (c : Cause) : exitStatus k (k.wrap c) = c.status := by
  rw [exitStatus, hk.imageError?_wrap, hk.machineError?_wrap, hk.fault?_wrap]
  cases c <;> rfl

/-- Only a file that cannot be read is due to something else. -/
theorem Cause.source?_eq_none {c : Cause} (h : c.status ≠ .unreadable) : c.source? = none := by
  rcases c with e | e | f
  · cases e with
    | unreadable path why => exact absurd rfl h
    | notUtf8 | invalidLine => rfl
  · rfl
  · rfl

theorem fullMessage_wrap_eq (hk : k.Lawful) {c : Cause} (h : c.status ≠ .unreadable) :
    k.fullMessage (k.wrap c) = c.message := by
  rw [hk.fullMessage_wrap, c.source?_eq_none h]
  exact String.append_empty

theorem exitStatus_explain (hk : k.Lawful) (text : String) (e : k.Carried) :
    exitStatus k (k.explain text e) = exitStatus k e := by
  rw [exitStatus, hk.imageError?_explain, hk.machineError?_explain, hk.fault?_explain, exitStatus]

end

end Command

end EightBit
