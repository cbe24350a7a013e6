import EightBit.Config
import EightBit.Text.Quoted
import EightBit.Text.Terminal

/-!
# Arguments of the command

The command takes a program file, options with a value, and flags. A value may follow its option
after an equals sign or as the next argument; `--` ends the options, and a single `-` is an
ordinary word.

Arguments are read from left to right, and the first trouble found is reported. A word that is the
value of an option or the program file stays pending until the next argument has been
looked at: an unknown name in that place is reported before anything that is wrong with the
pending word.
-/

namespace EightBit.Command

/-- An option that takes a value. -/
inductive ValueOption where
  | memorySize
  | stackPointer
  | maxInstructions
deriving DecidableEq, Repr

/-- An option without a value. -/
inductive Flag where
  | mulStore
  | trace
deriving DecidableEq, Repr

namespace ValueOption

/-- All options with a value. -/
def all : List ValueOption :=
  [.memorySize, .stackPointer, .maxInstructions]

/-- The name of an option, without its dashes. -/
def name : ValueOption → String
  | .memorySize => "memory-size"
  | .stackPointer => "stack-pointer"
  | .maxInstructions => "max-insts"

/-- An option as messages show it. -/
def display : ValueOption → String
  | .memorySize => "--memory-size <BYTES>"
  | .stackPointer => "--stack-pointer <ADDR>"
  | .maxInstructions => "--max-insts <N>"

end ValueOption

namespace Flag

/-- All flags. -/
def all : List Flag :=
  [.mulStore, .trace]

/-- The name of a flag, without its dashes. -/
def name : Flag → String
  | .mulStore => "mul-store"
  | .trace => "trace"

/-- A flag as messages show it. -/
def display (f : Flag) : String :=
  "--" ++ f.name

end Flag

/-- Why the arguments make no sense. -/
inductive UsageError where
  | unexpectedArgument (text : String)
  | unexpectedValue (value display : String)
  | valueRequired (display : String)
  | invalidValue (value display reason : String)
  | repeated (display : String)
  | programRequired
deriving DecidableEq, Repr

/-- The trouble with the arguments in words. -/
def UsageError.message : UsageError → String
  | .unexpectedArgument text => s!"unexpected argument '{text}' found"
  | .unexpectedValue value display =>
    s!"unexpected value '{value}' for '{display}' found; no more were expected"
  | .valueRequired display => s!"a value is required for '{display}' but none was supplied"
  | .invalidValue value display reason => s!"invalid value '{value}' for '{display}': {reason}"
  | .repeated display => s!"the argument '{display}' cannot be used multiple times"
  | .programRequired => "the following required arguments were not provided:"

/-- What a plain terminal shows of a word. -/
def visible (word : String) : String :=
  String.ofList (Terminal.visible word.toList)

/-- The trouble with the arguments, with their words as a plain terminal shows them. Each word
stands apart in the report, so a sequence that it leaves open takes nothing of the rest. -/
def UsageError.visible : UsageError → UsageError
  | .unexpectedArgument text => .unexpectedArgument (Command.visible text)
  | .unexpectedValue value display => .unexpectedValue (Command.visible value) display
  | .valueRequired display => .valueRequired display
  | .invalidValue value display reason => .invalidValue (Command.visible value) display reason
  | .repeated display => .repeated display
  | .programRequired => .programRequired

/-- What the command is to do. -/
structure Options where
  /-- The path of the program file. -/
  program : String
  config : Config
  /-- The number of instructions after which to stop. -/
  maxInstructions : Option Nat
deriving DecidableEq, Repr

/-- What the command was asked for. -/
inductive Invocation where
  | help
  | execute (options : Options)
deriving DecidableEq, Repr

/-! ## Words -/

/-- The part that an argument plays while options are looked for. -/
inductive Word where
  /-- The mark `--`. -/
  | endOfOptions
  /-- A long option, perhaps with a value after an equals sign. -/
  | long (name : String) (value : Option String)
  /-- A cluster of short options; only its first letter can matter. -/
  | short (letter : Char)
  | plain (text : String)
deriving DecidableEq, Repr

/-- Tells which part an argument plays. -/
def Word.ofArgument (argument : String) : Word :=
  match argument.toList with
  | ['-', '-'] => .endOfOptions
  | '-' :: '-' :: text =>
    let name := String.ofList (text.takeWhile (· ≠ '='))
    match text.dropWhile (· ≠ '=') with
    | [] => .long name none
    | _ :: value => .long name (some (String.ofList value))
  | '-' :: letter :: _ => .short letter
  | _ => .plain argument

/-! ## Reading -/

/-- Reads a byte that may have its radix marked in front of it. -/
def readByte (text : String) : Except String UInt8 :=
  match Numeral.readMarked 255 text.toList with
  | .ok n => .ok (UInt8.ofNat n)
  | .error e =>
    .error (String.ofList (Quoted.quote text.toList) ++ " is not a byte value: " ++ e.message)

/-- What has been read and found good. -/
structure Settled where
  memorySize : Option Nat := none
  stackPointer : Option UInt8 := none
  maxInstructions : Option Nat := none
  mulStore : Bool := false
  trace : Bool := false
  program : Option String := none

/-- What has been read and not been looked at yet. -/
inductive Pending where
  | nothing
  /-- An option that still waits for its value. -/
  | awaiting (option : ValueOption)
  | value (option : ValueOption) (text : String)
  | program (path : String)

namespace Settled

/-- Whether an option has been given. -/
def has (s : Settled) : ValueOption → Bool
  | .memorySize => s.memorySize.isSome
  | .stackPointer => s.stackPointer.isSome
  | .maxInstructions => s.maxInstructions.isSome

/-- Whether a flag has been given. -/
def hasFlag (s : Settled) : Flag → Bool
  | .mulStore => s.mulStore
  | .trace => s.trace

/-- Reads the value of an option. -/
def readValue (s : Settled) (option : ValueOption) (text : String) : Except String Settled :=
  match option with
  | .memorySize =>
    match Numeral.read 10 Numeral.maxWord text.toList with
    | .ok n => .ok { s with memorySize := some n }
    | .error e => .error e.message
  | .maxInstructions =>
    match Numeral.read 10 Numeral.maxWord text.toList with
    | .ok n => .ok { s with maxInstructions := some n }
    | .error e => .error e.message
  | .stackPointer =>
    match readByte text with
    | .ok byte => .ok { s with stackPointer := some byte }
    | .error reason => .error reason

/-- Settles an option with its value. An option given twice is refused whatever the value. -/
def settleValue (s : Settled) (option : ValueOption) (text : String) :
    Except UsageError Settled :=
  if s.has option then .error (.repeated option.display)
  else (s.readValue option text).mapError (.invalidValue text option.display)

/-- Settles a flag. -/
def settleFlag (s : Settled) (flag : Flag) : Except UsageError Settled :=
  if s.hasFlag flag then .error (.repeated flag.display)
  else
    match flag with
    | .mulStore => .ok { s with mulStore := true }
    | .trace => .ok { s with trace := true }

/-- Settles what is pending. -/
def settle (s : Settled) : Pending → Except UsageError Settled
  | .nothing => .ok s
  | .awaiting option => .error (.valueRequired option.display)
  | .value option text => s.settleValue option text
  | .program path =>
    if path.isEmpty then .error (.valueRequired "<PROGRAM>")
    else .ok { s with program := some path }

/-- The options, once all arguments have been settled. -/
def options (s : Settled) : Except UsageError Options :=
  match s.program with
  | none => .error .programRequired
  | some program => .ok {
      program
      config := {
        memorySize := s.memorySize.getD 255
        stackPointer := s.stackPointer.getD 0
        product := if s.mulStore then .store else .print
        tracing := s.trace }
      maxInstructions := s.maxInstructions }

end Settled

/-- How far the arguments have been read. -/
structure Reading where
  settled : Settled := {}
  pending : Pending := .nothing
  optionsEnded : Bool := false

namespace Reading

/-- Settles what is pending, leaving nothing. -/
def settle (r : Reading) : Except UsageError Reading :=
  return { r with settled := ← r.settled.settle r.pending, pending := .nothing }

/-- Whether the program file has been given. -/
def hasProgram (r : Reading) : Bool :=
  match r.pending with
  | .program _ => true
  | _ => r.settled.program.isSome

/-- Reads a word that is not an option's: the program file. -/
def positional (r : Reading) (text : String) : Except UsageError Reading :=
  if r.hasProgram then .error (.unexpectedArgument text)
  else return { ← r.settle with pending := .program text }

/-- Reads a word that is no option: a value that is waited for, or else the program file. -/
def plain (r : Reading) (text : String) : Except UsageError Reading :=
  match r.pending with
  | .awaiting option => .ok { r with pending := .value option text }
  | _ => r.positional text

/-- Reads an option or a flag by its name; `none` means that help is wanted. -/
def long (r : Reading) (name : String) (value : Option String) :
    Except UsageError (Option Reading) :=
  match ValueOption.all.find? (·.name == name) with
  | some option => do
    let r ← r.settle
    match value with
    | some text => return some { r with settled := ← r.settled.settleValue option text }
    | none => return some { r with pending := .awaiting option }
  | none =>
    match Flag.all.find? (·.name == name), value with
    | some flag, some text => .error (.unexpectedValue text flag.display)
    | some flag, none => do
      let r ← r.settle
      return some { r with settled := ← r.settled.settleFlag flag }
    | none, _ =>
      if name = "help" then
        match value with
        | some text => .error (.unexpectedValue text "--help")
        | none => do
          let _ ← r.settle
          return none
      else .error (.unexpectedArgument ("--" ++ name))

/-- Reads an argument; `none` means that help is wanted. -/
def next (r : Reading) (argument : String) : Except UsageError (Option Reading) :=
  if r.optionsEnded then some <$> r.positional argument
  else
    match Word.ofArgument argument with
    | .endOfOptions => .ok (some { r with optionsEnded := true })
    | .long name value => r.long name value
    | .short letter =>
      if letter = 'h' then do
        let _ ← r.settle
        return none
      else .error (.unexpectedArgument (String.ofList ['-', letter]))
    | .plain text => some <$> r.plain text

/-- Reads the rest of the arguments. -/
def rest (r : Reading) : List String → Except UsageError Invocation
  | [] => do
    let r ← r.settle
    return .execute (← r.settled.options)
  | argument :: arguments => do
    match ← r.next argument with
    | some r => r.rest arguments
    | none => return .help

end Reading

/-- What the arguments ask for. -/
def Invocation.ofArguments (arguments : List String) : Except UsageError Invocation :=
  Reading.rest {} arguments

/-- The text that explains the command. -/
def helpText : String :=
  String.join (List.map (· ++ "\n") [
    "Run an LS-8 program image",
    "",
    "Usage: ls8 [OPTIONS] <PROGRAM>",
    "",
    "Arguments:",
    "  <PROGRAM>  Program image (one base-2 byte per line; `#` starts a comment)",
    "",
    "Options:",
    "      --memory-size <BYTES>   Machine memory size in bytes (1..=256) [default: 255]",
    "      --stack-pointer <ADDR>  Initial value of R7, the stack pointer (decimal, `0x` hex or " ++
      "`0b` binary) [default: 0]",
    "      --mul-store             Store the low byte of each MUL product back into its first " ++
      "register",
    "      --trace                 Write a TRACE line to stderr before every instruction",
    "      --max-insts <N>         Stop after executing at most N instructions",
    "  -h, --help                  Print help"])

end EightBit.Command
