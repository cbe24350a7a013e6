import EightBit.Proofs.FaultReports

/-!
# Arithmetic on registers is arithmetic on integers

Registers are added, subtracted and multiplied modulo 256. Nothing goes wrong by that however long
one calculates: carry out the same calculations on integers without bounds, and the registers are
those integers modulo 256 at any time (`represents_after`).

There are two ways to a product, by a request from outside and by an instruction of the program, and
both come to `Registers.combine` (`comesTo_of_calculation`). So do their faults, since a calculation
with a register that does not exist fails in both ways alike and changes nothing.
-/

namespace EightBit

/-- An operation that integers have as well as bytes. -/
inductive Arithmetic where
  | add
  | sub
  | mul
deriving DecidableEq, Repr

namespace Arithmetic

/-- The operation on bytes. -/
def onBytes : Arithmetic → AluOperation
  | .add => .add
  | .sub => .sub
  | .mul => .mul

/-- The operation that is this one on bytes. -/
def ofBytes? : AluOperation → Option Arithmetic
  | .add => some .add
  | .sub => some .sub
  | .mul => some .mul
  | .and | .or | .xor => none

theorem onBytes_of_ofBytes? {op : AluOperation} {arithmetic : Arithmetic}
    (h : ofBytes? op = some arithmetic) : arithmetic.onBytes = op := by
  cases op <;> cases h <;> rfl

/-- The operation on integers. -/
def onIntegers : Arithmetic → Int → Int → Int
  | .add, x, y => x + y
  | .sub, x, y => x - y
  | .mul, x, y => x * y

/-- Operands may be reduced modulo 256 before the result is. -/
theorem onIntegers_emod (op : Arithmetic) (x y : Int) :
    op.onIntegers (x % 256) (y % 256) % 256 = op.onIntegers x y % 256 := by
  cases op with
  | add => exact (Int.add_emod x y 256).symm
  | sub => exact (Int.sub_emod x y 256).symm
  | mul => exact (Int.mul_emod x y 256).symm

/-- On bytes, the result is that on integers modulo 256. -/
theorem toNat_apply_onBytes (op : Arithmetic) (x y : UInt8) :
    ((op.onBytes.apply x y).toNat : Int) = op.onIntegers x.toNat y.toNat % 256 := by
  have hy : y.toNat < 256 := y.toNat_lt
  cases op with
  | add =>
    have hsum : (x + y).toNat = (x.toNat + y.toNat) % 256 := UInt8.toNat_add x y
    show ((x + y).toNat : Int) = (x.toNat + y.toNat) % 256
    omega
  | sub =>
    have hdifference : (x - y).toNat = (256 - y.toNat + x.toNat) % 256 := UInt8.toNat_sub x y
    show ((x - y).toNat : Int) = (x.toNat - y.toNat) % 256
    omega
  | mul =>
    have hproduct : (x * y).toNat = x.toNat * y.toNat % 256 := UInt8.toNat_mul x y
    show ((x * y).toNat : Int) = x.toNat * y.toNat % 256
    rw [hproduct]
    rfl

end Arithmetic

/-! ## Calculations -/

/-- A calculation between two registers, named by bytes, whose result goes to the first. -/
structure Calculation where
  operation : Arithmetic
  left : UInt8
  right : UInt8
deriving DecidableEq, Repr

namespace Calculation

/-- The first name in a calculation that is none of a register. -/
def invalid? (c : Calculation) : Option UInt8 :=
  [c.left, c.right].find? fun name => 8 ≤ name.toNat

/-- The registers after a calculation, which is left out if one of them does not exist. -/
def onRegisters (c : Calculation) (rs : Registers) : Registers :=
  if h : c.left.toNat < 8 ∧ c.right.toNat < 8 then
    rs.write ⟨c.left.toNat, h.1⟩ (c.operation.onBytes.apply (rs.read ⟨c.left.toNat, h.1⟩)
      (rs.read ⟨c.right.toNat, h.2⟩))
  else rs

/-- The same with an integer for each register. -/
def onIntegers (c : Calculation) (v : Register → Int) : Register → Int :=
  if h : c.left.toNat < 8 ∧ c.right.toNat < 8 then
    Function.update v ⟨c.left.toNat, h.1⟩ (c.operation.onIntegers (v ⟨c.left.toNat, h.1⟩)
      (v ⟨c.right.toNat, h.2⟩))
  else v

theorem combine_eq (c : Calculation) (rs : Registers) :
    rs.combine c.operation.onBytes c.left c.right =
      match c.invalid? with
      | some name => .error (.invalidRegister name)
      | none => .ok (c.onRegisters rs) := by
  rcases Nat.lt_or_ge c.left.toNat 8 with hleft | hleft
  · rcases Nat.lt_or_ge c.right.toNat 8 with hright | hright
    · have hnone : c.invalid? = none := by
        simp [invalid?, hleft, hright]
      rw [hnone, rs.combine_of_lt _ hleft hright, onRegisters, dif_pos ⟨hleft, hright⟩]
    · have hsome : c.invalid? = some c.right := by
        simp [invalid?, hleft, hright]
      rw [hsome, rs.combine_of_right_le _ hleft hright]
  · have hsome : c.invalid? = some c.left := by
      simp [invalid?, hleft]
    rw [hsome, rs.combine_of_left_le _ hleft]

theorem onRegisters_of_invalid {c : Calculation} {name : UInt8} (h : c.invalid? = some name)
    (rs : Registers) : c.onRegisters rs = rs := by
  have hvalid : ¬ (c.left.toNat < 8 ∧ c.right.toNat < 8) := by
    rintro ⟨hleft, hright⟩
    simp [invalid?, hleft, hright] at h
  rw [onRegisters, dif_neg hvalid]

end Calculation

/-- The integers after calculations, one after the other. -/
def integersAfter (v : Register → Int) (calculations : List Calculation) : Register → Int :=
  calculations.foldl (fun v c => c.onIntegers v) v

/-- Each register is an integer modulo 256. -/
def Registers.Represents (rs : Registers) (v : Register → Int) : Prop :=
  ∀ r, ((rs.read r).toNat : Int) = v r % 256

theorem Registers.represents_self (rs : Registers) :
    rs.Represents fun r => ((rs.read r).toNat : Int) := by
  intro r
  have hlt : (rs.read r).toNat < 256 := UInt8.toNat_lt _
  show ((rs.read r).toNat : Int) = ((rs.read r).toNat : Int) % 256
  omega

/-- A calculation on registers is the same calculation on the integers. -/
theorem Registers.Represents.calculate {rs : Registers} {v : Register → Int} (h : rs.Represents v)
    (c : Calculation) : (c.onRegisters rs).Represents (c.onIntegers v) := by
  unfold Calculation.onRegisters Calculation.onIntegers
  split
  · rename_i hvalid
    intro r
    rw [Registers.read_write, Function.update_apply]
    split
    · rw [Arithmetic.toNat_apply_onBytes, h, h, Arithmetic.onIntegers_emod]
    · exact h r
  · exact h

/-! ## Requests that calculate -/

/-- What an instruction calculates. -/
def Instruction.calculation? : Instruction → Option Calculation
  | .mul a b => some ⟨.mul, a, b⟩
  | _ => none

/-- The registers that a request leaves, or the fault by which it failed. -/
def Served.outcome {config : Config} (served : Served config) : Except Fault Registers :=
  match served.reply.fault? with
  | some fault => .error fault
  | none => .ok served.machine.registers

/-- A request comes to a result: this is its outcome, and if it is a fault the registers are as they
were before. -/
def Served.ComesTo {config : Config} (served : Served config) (before : Registers)
    (result : Except Fault Registers) : Prop :=
  served.outcome = result ∧ served.machine.registers = result.toOption.getD before

theorem Served.fault?_of_outcome_error {config : Config} {served : Served config} {fault : Fault}
    (h : served.outcome = .error fault) : served.reply.fault? = some fault := by
  unfold outcome at h
  split at h
  · rename_i fault' hfault
    rw [hfault, Except.error.inj h]
  · cases h

theorem Served.fault?_of_outcome_ok {config : Config} {served : Served config}
    {registers : Registers} (h : served.outcome = .ok registers) : served.reply.fault? = none := by
  unfold outcome at h
  split at h
  · cases h
  · assumption

namespace Machine

variable {config : Config} {m : Machine config}

/-- What a request to a machine calculates: what it asks for, or what the instruction does at which
a step stands. -/
def calculation? (m : Machine config) : Request → Option Calculation
  | .combine op a b => (Arithmetic.ofBytes? op).map fun op => ⟨op, a, b⟩
  | .step =>
    match m.memory.fetch m.pc with
    | .ok (.instruction i) => i.calculation?
    | _ => none
  | _ => none

/-- The calculations in a history. -/
def calculationsIn (m : Machine config) : List Request → List Calculation
  | [] => []
  | request :: rest =>
    (m.calculation? request).toList ++ (m.serve request).machine.calculationsIn rest

/-- The requests of a history that do not calculate leave the registers alone. -/
def OnlyCalculates (m : Machine config) : List Request → Prop
  | [] => True
  | request :: rest =>
    (m.calculation? request = none → (m.serve request).machine.registers = m.registers) ∧
      (m.serve request).machine.OnlyCalculates rest

instance instDecidableOnlyCalculates (m : Machine config) :
    (history : List Request) → Decidable (m.OnlyCalculates history)
  | [] => inferInstanceAs (Decidable True)
  | request :: rest =>
    have := instDecidableOnlyCalculates (m.serve request).machine rest
    inferInstanceAs (Decidable (_ ∧ _))

theorem serve_combine (m : Machine config) (op : AluOperation) (a b : UInt8) :
    (m.serve (.combine op a b)).ComesTo m.registers (m.registers.combine op a b) := by
  simp only [serve, combine]
  rcases m.registers.combine op a b with fault | registers
  · exact ⟨rfl, rfl⟩
  · exact ⟨rfl, rfl⟩

/-- Multiplying by an instruction is multiplying by a request. -/
theorem serve_step_of_mul (hstore : config.product = .store) {a b : UInt8}
    (hcode : m.memory.Holds m.pc (Instruction.mul a b).encode) :
    (m.serve .step).ComesTo m.registers (m.registers.combine .mul a b) := by
  have hfetch := Memory.fetch_eq_instruction_iff.mpr hcode
  have herror : ∀ {fault}, (Instruction.mul a b).execute config.product m.store = .error fault →
      m.registers.combine .mul a b = .error fault →
        (m.serve .step).ComesTo m.registers (m.registers.combine .mul a b) := by
    intro fault hexec hcombine
    have hstep := step_of_execute_error hfetch hexec
    rw [hcombine]
    simp only [serve, hstep]
    exact ⟨rfl, rfl⟩
  rcases Nat.lt_or_ge a.toNat 8 with ha | ha
  · rcases Nat.lt_or_ge b.toNat 8 with hb | hb
    · have hexec := Instruction.execute_mul_store (s := m.store) ha hb
      rw [← hstore] at hexec
      have hstep := step_of_proceed hfetch hexec
      have hproduct : UInt8.ofNat ((m.registers.read ⟨a.toNat, ha⟩).toNat *
          (m.registers.read ⟨b.toNat, hb⟩).toNat) =
            m.registers.read ⟨a.toNat, ha⟩ * m.registers.read ⟨b.toNat, hb⟩ := by
        rw [UInt8.ofNat_mul, UInt8.ofNat_toNat, UInt8.ofNat_toNat]
      rw [m.registers.combine_of_lt .mul ha hb, AluOperation.apply, ← hproduct]
      simp only [serve, hstep]
      exact ⟨rfl, rfl⟩
    · exact herror (Instruction.execute_mul_of_right_le ha hb)
        (m.registers.combine_of_right_le .mul ha hb)
  · exact herror (Instruction.execute_mul_of_left_le ha) (m.registers.combine_of_left_le .mul ha b)

/-- A calculation is asked for by a request, or by an instruction that multiplies. -/
theorem request_of_calculation {request : Request} {c : Calculation}
    (h : m.calculation? request = some c) :
    request = .combine c.operation.onBytes c.left c.right ∨
      request = .step ∧ c.operation = .mul ∧
        m.memory.Holds m.pc (Instruction.mul c.left c.right).encode := by
  cases request
  case combine op a b =>
    obtain ⟨arithmetic, harithmetic, rfl⟩ := Option.map_eq_some_iff.mp h
    rw [← Arithmetic.onBytes_of_ofBytes? harithmetic]
    exact Or.inl rfl
  case step =>
    simp only [calculation?] at h
    rcases hfetch : m.memory.fetch m.pc with fault | ⟨i⟩ | byte
    · rw [hfetch] at h
      cases h
    · rw [hfetch] at h
      cases i with
      | mul a b =>
        rw [← Option.some.inj h]
        exact Or.inr ⟨rfl, rfl, Memory.fetch_eq_instruction_iff.mp hfetch⟩
      | hlt | ldi | prn | push | pop => cases h
    · rw [hfetch] at h
      cases h
  all_goals cases h

/-- However a calculation is asked for, it comes to that of `Registers.combine`. -/
theorem comesTo_of_calculation (hstore : config.product = .store) {request : Request}
    {c : Calculation} (h : m.calculation? request = some c) :
    (m.serve request).ComesTo m.registers
      (m.registers.combine c.operation.onBytes c.left c.right) := by
  rcases request_of_calculation h with rfl | ⟨rfl, hmul, hcode⟩
  · exact m.serve_combine _ c.left c.right
  · rw [hmul]
    exact serve_step_of_mul hstore hcode

/-- A calculation fails by the first register that does not exist. -/
theorem fault?_of_calculation (hstore : config.product = .store) {request : Request}
    {c : Calculation} (h : m.calculation? request = some c) :
    (m.serve request).reply.fault? = c.invalid?.map Fault.invalidRegister := by
  have houtcome := (comesTo_of_calculation hstore h).1
  rw [c.combine_eq] at houtcome
  rcases hinvalid : c.invalid? with _ | name
  · rw [hinvalid] at houtcome
    exact Served.fault?_of_outcome_ok houtcome
  · rw [hinvalid] at houtcome
    exact Served.fault?_of_outcome_error houtcome

theorem registers_of_calculation (hstore : config.product = .store) {request : Request}
    {c : Calculation} (h : m.calculation? request = some c) :
    (m.serve request).machine.registers = c.onRegisters m.registers := by
  rw [(comesTo_of_calculation hstore h).2, c.combine_eq]
  rcases hinvalid : c.invalid? with _ | name
  · rfl
  · exact (Calculation.onRegisters_of_invalid hinvalid m.registers).symm

/-! ## Histories of calculations -/

theorem OnlyCalculates.of_append {before rest : List Request}
    (h : m.OnlyCalculates (before ++ rest)) : m.OnlyCalculates before := by
  induction before generalizing m with
  | nil => trivial
  | cons request before ih => exact ⟨h.1, ih h.2⟩

/-- One request of a history that only calculates keeps the registers in step with the integers. -/
theorem represents_serve (hstore : config.product = .store) {v : Register → Int}
    (hv : m.registers.Represents v) {request : Request} {rest : List Request}
    (honly : m.OnlyCalculates (request :: rest)) :
    (m.serve request).machine.registers.Represents
      (integersAfter v (m.calculation? request).toList) := by
  rcases hrequest : m.calculation? request with _ | c
  · rw [honly.1 hrequest]
    exact hv
  · rw [registers_of_calculation hstore hrequest]
    exact hv.calculate c

/-- So does the whole history. -/
theorem represents_after (hstore : config.product = .store) {v : Register → Int}
    (hv : m.registers.Represents v) {history : List Request} (honly : m.OnlyCalculates history) :
    (m.after history).registers.Represents (integersAfter v (m.calculationsIn history)) := by
  induction history generalizing m v with
  | nil => exact hv
  | cons request rest ih =>
    have hserve := represents_serve hstore hv honly
    have hrest := ih hserve honly.2
    rw [calculationsIn, integersAfter, List.foldl_append]
    exact hrest

/-- Register arithmetic is integer arithmetic modulo 256. Follow calculations on a machine that
stores its products, asked for in any order by requests and by instructions: after each of them
every register is what the same calculations on integers without bounds give, modulo 256, where
those with a register that does not exist are left out. Each of these fails by the first such
register, and multiplication has the same outcome from every state, be it by request or by
instruction. -/
theorem registers_eq_integers_emod (hstore : config.product = .store) (m : Machine config) :
    (∀ before rest : List Request, m.OnlyCalculates (before ++ rest) → ∀ r : Register,
      (((m.after before).registers.read r).toNat : Int) =
        integersAfter (fun r => ((m.registers.read r).toNat : Int)) (m.calculationsIn before) r %
          256) ∧
    (∀ (request : Request) (c : Calculation), m.calculation? request = some c →
      (m.serve request).reply.fault? = c.invalid?.map Fault.invalidRegister) ∧
    ∀ a b : UInt8, m.memory.Holds m.pc (Instruction.mul a b).encode →
      (m.serve .step).outcome = (m.serve (.combine .mul a b)).outcome := by
  refine ⟨fun before rest honly r => ?_, fun request c h => fault?_of_calculation hstore h,
    fun a b hcode => ?_⟩
  · have hbefore : m.OnlyCalculates before := honly.of_append
    exact represents_after hstore m.registers.represents_self hbefore r
  · rw [(serve_step_of_mul hstore hcode).1, (m.serve_combine .mul a b).1]

/-- Register 2 is doubled and then multiplied by the stack pointer. A second multiplication is by a
register that does not exist, as is a request for one; between them the first one is repeated with
a negative number. -/
def calculating : List Request :=
  [.combine .add 2 2, .step, .takeOutput, .step, .setPc 0, .combine .sub 7 2, .step,
    .combine .mul 7 8]

/-- The integers leave the range of the registers in both directions: 200 becomes 2000, and the
stack pointer 5 becomes -1995. -/
theorem registers_eq_integers_emod_small :
    let m := (new valid_small).after [.setRegister 2 200, .load [162, 2, 7, 162, 9, 1]]
    let halfway := m.after (calculating.take 5)
    small.product = .store ∧ m.OnlyCalculates calculating ∧
      m.calculationsIn calculating =
        [⟨.add, 2, 2⟩, ⟨.mul, 2, 7⟩, ⟨.mul, 9, 1⟩, ⟨.sub, 7, 2⟩, ⟨.mul, 2, 7⟩, ⟨.mul, 7, 8⟩] ∧
      integersAfter (fun r => ((m.registers.read r).toNat : Int)) (m.calculationsIn calculating) 2 =
        -3990000 ∧
      (m.after calculating).registers.read 2 = 16 ∧ (m.after calculating).registers.read 7 = 53 ∧
      halfway.memory.Holds halfway.pc (Instruction.mul 2 7).encode ∧
      (halfway.serve .step).outcome = (halfway.serve (.combine .mul 2 7)).outcome ∧
      (halfway.serve (.combine .mul 7 8)).reply.fault? = some (.invalidRegister 8) := by
  intro m halfway
  have honly : m.OnlyCalculates (calculating ++ []) := by decide +kernel
  have hinteger : integersAfter (fun r => ((m.registers.read r).toNat : Int))
      (m.calculationsIn calculating) 2 = -3990000 := by decide +kernel
  have hfetch : halfway.memory.fetch halfway.pc = .ok (.instruction (.mul 2 7)) := by
    decide +kernel
  have hcode := Memory.fetch_eq_instruction_iff.mp hfetch
  obtain ⟨hregisters, -, -⟩ := registers_eq_integers_emod rfl m
  obtain ⟨-, hfault, houtcome⟩ := registers_eq_integers_emod rfl halfway
  have hread : (((m.after calculating).registers.read 2).toNat : Int) = -3990000 % 256 := by
    rw [hregisters calculating [] honly 2, hinteger]
  refine ⟨rfl, by decide +kernel, by decide +kernel, hinteger, ?_, by decide +kernel, hcode,
    houtcome 2 7 hcode, hfault (.combine .mul 7 8) ⟨.mul, 7, 8⟩ rfl⟩
  apply UInt8.toNat_inj.mp
  show ((m.after calculating).registers.read 2).toNat = 16
  omega

end Machine

end EightBit
