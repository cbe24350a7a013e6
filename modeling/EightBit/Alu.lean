import EightBit.Registers

/-!
# Arithmetic between registers

Operations that combine two registers and leave the result in the first. Results wrap around
modulo 256.
-/

namespace EightBit

/-- An arithmetic or bitwise operation on two bytes. -/
inductive AluOperation where
  | add
  | sub
  | mul
  | and
  | or
  | xor
deriving DecidableEq, Repr

namespace AluOperation

/-- All operations. -/
def all : List AluOperation :=
  [.add, .sub, .mul, .and, .or, .xor]

theorem mem_all (op : AluOperation) : op ∈ all := by
  cases op <;> decide

/-- The name by which an operation is requested. -/
def name : AluOperation → String
  | .add => "ADD"
  | .sub => "SUB"
  | .mul => "MUL"
  | .and => "AND"
  | .or => "OR"
  | .xor => "XOR"

/-- The operation of a name, which has to be written exactly so. -/
def ofName (text : String) : Except Fault AluOperation :=
  match all.find? (·.name == text) with
  | some op => .ok op
  | none => .error (.unsupportedOperation text)

/-- The result for two operands. -/
def apply : AluOperation → UInt8 → UInt8 → UInt8
  | .add, x, y => x + y
  | .sub, x, y => x - y
  | .mul, x, y => x * y
  | .and, x, y => x &&& y
  | .or, x, y => x ||| y
  | .xor, x, y => x ^^^ y

theorem ofName_name (op : AluOperation) : ofName op.name = .ok op := by
  cases op <;> rfl

end AluOperation

/-- Combines two registers, named by bytes, into the first. The first name is checked before the
second. -/
def Registers.combine (rs : Registers) (op : AluOperation) (a b : UInt8) :
    Except Fault Registers := do
  let x ← rs.get a
  let y ← rs.get b
  rs.set a (op.apply x y)

end EightBit
