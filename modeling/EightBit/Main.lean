import EightBit.Command.Execution

/-!
# The command

The command line: arguments, the log filter from the environment, the program file, and writing
the outcome.
-/

namespace EightBit.Command

/-- The number of a system error, which some functions of the system report negated. -/
def errorNumber (code : UInt32) : UInt32 :=
  min code (0 - code)

/-- The error that reading a file has met. -/
def readErrorOf (e : IO.Error) : ReadError :=
  match e with
  | .noFileOrDirectory .. => .missing
  | .permissionDenied .. => .other "Permission denied (os error 13)"
  | .inappropriateType _ code _ =>
    if errorNumber code = 21 then .isDirectory else .notDirectory
  | .invalidArgument _ code _ =>
    if errorNumber code = 36 then .nameTooLong else .other (toString e)
  | _ => .other (toString e)

/-- Reads a program file. -/
def readFile (path : String) : IO (Except ReadError ByteArray) := do
  try
    return .ok (← IO.FS.readBinFile path)
  catch e =>
    return .error (readErrorOf e)

/-- Writes an outcome and gives its exit code. -/
def Outcome.write (o : Outcome) : IO UInt32 := do
  let stdout ← IO.getStdout
  let stderr ← IO.getStderr
  for chunk in o.chunks do
    match chunk with
    | .stdout text => stdout.putStr text
    | .stderr text => stderr.putStr text
  stdout.flush
  return o.status.code

end EightBit.Command

open EightBit EightBit.Command

/-- Runs the command. The program file is only opened if the settings are valid. The runtime tells
where the command lies, which stands for the name that it was called by. -/
def main (arguments : List String) : IO UInt32 := do
  match Invocation.ofArguments arguments with
  | .error e => e.outcome.write
  | .ok .help => helpOutcome.write
  | .ok (.execute options) =>
    let logging := (← IO.getEnv "RUST_LOG").getD ""
    let name := (← IO.appPath).toString
    let content ← match Machine.ofConfig options.config with
      | .ok _ => readFile options.program
      | .error _ => pure (.error .missing)
    ((Environment.ofLogging logging (some name)).execute options content).write
