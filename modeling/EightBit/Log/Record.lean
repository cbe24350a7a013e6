import EightBit.Text.Quoted

/-!
# Log records

A log record has a level, the name of the part of the program that it comes from (its target), a
message and named values.
-/

namespace EightBit.Log

/-- How important a record is, the most important first. -/
inductive Level where
  | error
  | warn
  | info
  | debug
  | trace
deriving DecidableEq, Repr

namespace Level

/-- The place of a level among all, from 1 for the most important to 5. -/
def rank : Level → Nat
  | .error => 1
  | .warn => 2
  | .info => 3
  | .debug => 4
  | .trace => 5

/-- The name of a level. -/
def name : Level → String
  | .error => "ERROR"
  | .warn => "WARN"
  | .info => "INFO"
  | .debug => "DEBUG"
  | .trace => "TRACE"

end Level

/-- A value in a record. -/
inductive Value where
  | number (n : Nat)
  /-- A text that is shown in quotes. -/
  | quoted (text : String)
  /-- A text that is shown as it is. -/
  | plain (text : String)
deriving DecidableEq, Repr

/-- A value as text. -/
def Value.render : Value → String
  | .number n => toString n
  | .quoted text => String.ofList (Quoted.quote text.toList)
  | .plain text => text

/-- Something that was logged. -/
structure Record where
  level : Level
  target : String
  message : String
  fields : List (String × Value)
deriving DecidableEq, Repr

/-- The names of all fields, the message among them. -/
def Record.fieldNames (r : Record) : List String :=
  "message" :: r.fields.map (·.1)

/-- A record as a line, without its end. -/
def Record.render (r : Record) : String :=
  let fields := r.fields.map fun (name, value) => s!" {name}={value.render}"
  s!"{r.level.name} {r.target}: {r.message}" ++ String.join fields

end EightBit.Log
