import EightBit.Proofs.InstructionSet
import EightBit.Proofs.Termination
import Mathlib.Algebra.GroupWithZero.Nat

/-!
# Programs as lists of instructions

A program without jumps can be evaluated as the list of its instructions: one after the other, on
cells, registers and output, with no program counter and nothing fetched. `Workspace.evaluate` does
so and stops at the first instruction that fails.

Loaded into a machine, the same program is bytes in the memory that it works on. The machine runs
it as the list is evaluated, as long as no push overwrites code that is still to come
(`run_load_eq_evaluate`).

* `exists_rule_of_perform` is the step of this simulation: where the bytes of an instruction stand
  at the program counter, the rule that applies has the effect that the evaluation gives it;
* `exists_continues_evaluate` is the run: by induction on the list, the code ahead of the program
  counter being all that memory has to keep.
-/

namespace EightBit

namespace Instruction

/-- The bytes of some instructions, one after the other. -/
def encodeAll (program : List Instruction) : List UInt8 :=
  program.flatMap encode

/-- How many bytes the first `k` instructions of a program take up. -/
def offset (program : List Instruction) (k : Nat) : Nat :=
  ((program.take k).map length).sum

theorem encodeAll_cons (i : Instruction) (rest : List Instruction) :
    encodeAll (i :: rest) = i.encode ++ encodeAll rest :=
  List.flatMap_cons

theorem offset_zero (program : List Instruction) : offset program 0 = 0 := by
  rw [offset, List.take_zero, List.map_nil, List.sum_nil]

theorem offset_cons_succ (i : Instruction) (rest : List Instruction) (k : Nat) :
    offset (i :: rest) (k + 1) = i.length + offset rest k := by
  rw [offset, List.take_succ_cons, List.map_cons, List.sum_cons, offset]

end Instruction

theorem Register.ofByte_of_lt {name : UInt8} (h : name.toNat < 8) :
    ofByte name = .ok ⟨name.toNat, h⟩ :=
  dif_pos h

theorem Register.ofByte_of_le {name : UInt8} (h : 8 ≤ name.toNat) :
    ofByte name = .error (.invalidRegister name) :=
  dif_neg (Nat.not_lt.mpr h)

open Instruction

/-! ## The evaluation of a list -/

/-- Cells, registers and the output so far: all that a program works on, and no program counter. -/
structure Workspace (size : Nat) where
  cells : Fin size → UInt8
  registers : Register → UInt8
  output : List Line

/-- How far the evaluation of a list of instructions has come. -/
structure Evaluated (size : Nat) where
  workspace : Workspace size
  /-- How many instructions were carried out. -/
  executed : Nat
  /-- What was wrong with the instruction after these, if the evaluation did not reach the end. -/
  fault : Option Fault

namespace Workspace

variable {size : Nat}

/-- The address that a push writes to: one below the stack pointer, and 255 below 0. -/
def pushAddress (s : Workspace size) : Nat :=
  ((s.registers 7).toNat + 255) % 256

/-- The registers after a pop. The stack pointer moves when the value is in its register. -/
def popInto (registers : Register → UInt8) (r : Register) (value : UInt8) : Register → UInt8 :=
  let popped := Function.update registers r value
  Function.update popped 7 (UInt8.ofNat (((popped 7).toNat + 1) % 256))

theorem popInto_of_ne (registers : Register → UInt8) {r : Register} (h : r ≠ 7) (value : UInt8) :
    popInto registers r value =
      Function.update (Function.update registers r value) 7
        (UInt8.ofNat (((registers 7).toNat + 1) % 256)) := by
  simp only [popInto]
  rw [Function.update_of_ne h.symm]

theorem popInto_stackPointer (registers : Register → UInt8) (value : UInt8) :
    popInto registers 7 value =
      Function.update registers 7 (UInt8.ofNat ((value.toNat + 1) % 256)) := by
  simp only [popInto]
  rw [Function.update_self, Function.update_idem]

/-- Carries out one instruction. Halting changes nothing. -/
def perform (mode : ProductMode) (s : Workspace size) :
    Instruction → Except Fault (Workspace size)
  | .hlt => return s
  | .ldi register value => do
    let r ← Register.ofByte register
    return { s with registers := Function.update s.registers r value }
  | .prn register => do
    let r ← Register.ofByte register
    return { s with output := s.output ++ [.value (s.registers r)] }
  | .mul left right => do
    let a ← Register.ofByte left
    let b ← Register.ofByte right
    let product := (s.registers a).toNat * (s.registers b).toNat
    let registers := match mode with
      | .print => s.registers
      | .store => Function.update s.registers a (UInt8.ofNat (product % 256))
    return { s with registers, output := s.output ++ [.product product] }
  | .push register => do
    let r ← Register.ofByte register
    if h : s.pushAddress < size then
      return { s with
        cells := Function.update s.cells ⟨s.pushAddress, h⟩ (s.registers r)
        registers := Function.update s.registers 7 (UInt8.ofNat s.pushAddress) }
    else throw (.outOfBounds s.pushAddress size)
  | .pop register =>
    if h : (s.registers 7).toNat < size then do
      let r ← Register.ofByte register
      return { s with
        registers := popInto s.registers r (s.cells ⟨(s.registers 7).toNat, h⟩) }
    else throw (.outOfBounds (s.registers 7).toNat size)

/-- Carries out the instructions of a list one after the other, up to the first that fails. -/
def evaluate (mode : ProductMode) (s : Workspace size) : List Instruction → Evaluated size
  | [] => ⟨s, 0, none⟩
  | i :: rest =>
    match s.perform mode i with
    | .error fault => ⟨s, 0, some fault⟩
    | .ok next =>
      let e := evaluate mode next rest
      { e with executed := e.executed + 1 }

/-- No push that the evaluation of a program reaches writes into the part of the code that comes
after the push. The code begins at `start` and ends with a halt. -/
def SparesCode (mode : ProductMode) (s : Workspace size) (start : Nat)
    (program : List Instruction) : Prop :=
  ∀ k r, program[k]? = some (.push r) → (s.evaluate mode (program.take k)).fault = none →
    r.toNat < 8 →
    (s.evaluate mode (program.take k)).workspace.pushAddress < start + offset program (k + 1) ∨
      start + (encodeAll (program ++ [.hlt])).length ≤
        (s.evaluate mode (program.take k)).workspace.pushAddress

section

variable {mode : ProductMode} {s next : Workspace size} {i : Instruction} {fault : Fault}

theorem evaluate_cons_of_error (h : s.perform mode i = .error fault) (rest : List Instruction) :
    s.evaluate mode (i :: rest) = ⟨s, 0, some fault⟩ := by
  rw [evaluate, h]

theorem evaluate_cons_of_ok (h : s.perform mode i = .ok next) (rest : List Instruction) :
    s.evaluate mode (i :: rest) =
      { next.evaluate mode rest with executed := (next.evaluate mode rest).executed + 1 } := by
  rw [evaluate, h]

theorem length_encodeAll_cons_append (i : Instruction) (rest last : List Instruction) :
    (encodeAll (i :: rest ++ last)).length = i.length + (encodeAll (rest ++ last)).length := by
  rw [List.cons_append, encodeAll_cons, List.length_append, i.length_encode]

/-- A first instruction that is a push spares the code behind it. -/
theorem SparesCode.head {start : Nat} {rest : List Instruction} {name : UInt8}
    (h : s.SparesCode mode start (.push name :: rest)) (hname : name.toNat < 8) :
    s.pushAddress < start + (push name).length ∨
      start + (push name).length + (encodeAll (rest ++ [.hlt])).length ≤ s.pushAddress := by
  have hfirst := h 0 name rfl rfl hname
  rw [offset_cons_succ, offset_zero, Nat.add_zero, length_encodeAll_cons_append,
    ← Nat.add_assoc] at hfirst
  exact hfirst

/-- The pushes behind the first instruction spare the code as well. -/
theorem SparesCode.tail {start : Nat} {rest : List Instruction}
    (h : s.SparesCode mode start (i :: rest)) (hperform : s.perform mode i = .ok next) :
    next.SparesCode mode (start + i.length) rest := by
  intro k name hpush hreached hname
  have hnext := h (k + 1) name
  rw [List.getElem?_cons_succ, List.take_succ_cons, evaluate_cons_of_ok hperform,
    offset_cons_succ, length_encodeAll_cons_append, ← Nat.add_assoc, ← Nat.add_assoc] at hnext
  exact hnext hpush hreached hname

/-- Without a fault, the evaluation reaches the end of the list. -/
theorem executed_evaluate_of_no_fault (program : List Instruction)
    (h : (s.evaluate mode program).fault = none) :
    (s.evaluate mode program).executed = program.length := by
  induction program generalizing s with
  | nil => rfl
  | cons i rest ih =>
    rcases hperform : s.perform mode i with fault | next
    · rw [evaluate_cons_of_error hperform] at h
      cases h
    · rw [evaluate_cons_of_ok hperform] at h ⊢
      rw [List.length_cons, ih h]

end

end Workspace

/-! ## One instruction -/

namespace Machine

variable {config : Config}

/-- The workspace of a machine. -/
def workspace (m : Machine config) : Workspace config.memorySize where
  cells := fun address => m.memory.cells[address]
  registers := m.registers.read
  output := m.output

theorem get?_eq_cells (m : Machine config) (address : Fin config.memorySize) :
    m.memory.get? address.val = some (m.workspace.cells address) :=
  Vector.getElem?_eq_getElem address.isLt

/-- The workspace after an effect shows the cells and registers of the effect and the output with
its lines added. -/
theorem After.workspace_eq {m m' : Machine config} {e : Effect} {s : Workspace config.memorySize}
    (h : m.After m' e) (hcells : ∀ address, e.cells address.val = some (s.cells address))
    (hregisters : e.registers = s.registers) (houtput : m.output ++ e.lines = s.output) :
    m'.workspace = s := by
  have hcells' : m'.workspace.cells = s.cells := by
    funext address
    apply Option.some.inj
    rw [← m'.get?_eq_cells, h.cells, hcells]
  have hregisters' : m'.workspace.registers = s.registers := h.registers.trans hregisters
  have houtput' : m'.workspace.output = s.output := h.output.trans houtput
  calc m'.workspace = ⟨m'.workspace.cells, m'.workspace.registers, m'.workspace.output⟩ := rfl
    _ = s := by rw [hcells', hregisters', houtput']

/-- `s` is what the effect `e` of an instruction of `length` bytes makes of the workspace of `m`. -/
structure Shows (m : Machine config) (e : Effect) (length : Nat)
    (s : Workspace config.memorySize) : Prop where
  length : e.length = length
  cells : ∀ address, e.cells address.val = some (s.cells address)
  registers : e.registers = s.registers
  output : m.output ++ e.lines = s.output

/-- Where the bytes of an instruction stand at the program counter, some rule applies, and it has
the fault or the effect that the evaluation gives the instruction. -/
theorem exists_rule_of_perform {m : Machine config} {i : Instruction} (hne : i ≠ .hlt)
    (hcode : m.memory.Holds m.pc i.encode) :
    (∃ fault, m.workspace.perform config.product i = .error fault ∧
      Rule m (.error fault) m.unchanged) ∨
    ∃ s e, m.workspace.perform config.product i = .ok s ∧ Rule m (.ok .continued) e ∧
      m.Shows e i.encode.length s := by
  have hcells := m.get?_eq_cells
  have hnone : m.output ++ [] = m.output := List.append_nil _
  rcases i with _ | ⟨r, v⟩ | r | ⟨a, b⟩ | r | r
  case hlt => exact absurd rfl hne
  case ldi =>
    rcases Nat.lt_or_ge r.toNat 8 with hr | hr
    · rw [Workspace.perform, Register.ofByte_of_lt hr]
      exact Or.inr ⟨_, _, rfl, .ldi hcode hr, rfl, hcells, rfl, hnone⟩
    · rw [Workspace.perform, Register.ofByte_of_le hr]
      exact Or.inl ⟨_, rfl, .ldiRegister hcode hr⟩
  case prn =>
    rcases Nat.lt_or_ge r.toNat 8 with hr | hr
    · rw [Workspace.perform, Register.ofByte_of_lt hr]
      exact Or.inr ⟨_, _, rfl, .prn hcode hr, rfl, hcells, rfl, rfl⟩
    · rw [Workspace.perform, Register.ofByte_of_le hr]
      exact Or.inl ⟨_, rfl, .prnRegister hcode hr⟩
  case mul =>
    rcases Nat.lt_or_ge a.toNat 8 with ha | ha
    · rcases Nat.lt_or_ge b.toNat 8 with hb | hb
      · rw [Workspace.perform, Register.ofByte_of_lt ha, Register.ofByte_of_lt hb]
        rcases hmode : config.product
        · exact Or.inr ⟨_, _, rfl, .mulPrint hcode hmode ha hb, rfl, hcells, rfl, rfl⟩
        · exact Or.inr ⟨_, _, rfl, .mulStore hcode hmode ha hb, rfl, hcells, rfl, rfl⟩
      · rw [Workspace.perform, Register.ofByte_of_lt ha, Register.ofByte_of_le hb]
        exact Or.inl ⟨_, rfl, .mulRight hcode ha hb⟩
    · rw [Workspace.perform, Register.ofByte_of_le ha]
      exact Or.inl ⟨_, rfl, .mulLeft hcode ha⟩
  case push =>
    rcases Nat.lt_or_ge r.toNat 8 with hr | hr
    · rw [Workspace.perform, Register.ofByte_of_lt hr]
      rcases Nat.lt_or_ge m.pushAddress config.memorySize with htop | htop
      · refine Or.inr ⟨_, _, dif_pos htop, .push hcode hr htop, rfl, fun address => ?_, rfl, hnone⟩
        change Function.update m.memory.get? m.pushAddress (some (m.registers.read ⟨r.toNat, hr⟩))
            address.val =
          some (Function.update m.workspace.cells ⟨m.pushAddress, htop⟩
            (m.registers.read ⟨r.toNat, hr⟩) address)
        rw [Function.update_apply, Function.update_apply]
        -- the cell that is written is the same, as a number and as an index
        by_cases haddress : address.val = m.pushAddress
        · rw [if_pos haddress, if_pos (Fin.ext haddress)]
        · rw [if_neg haddress, if_neg (fun h => haddress (congrArg Fin.val h)), hcells]
      · exact Or.inl ⟨_, dif_neg (Nat.not_lt.mpr htop), .pushOutside hcode hr htop⟩
    · rw [Workspace.perform, Register.ofByte_of_le hr]
      exact Or.inl ⟨_, rfl, .pushRegister hcode hr⟩
  case pop =>
    rw [Workspace.perform]
    rcases Nat.lt_or_ge (m.registers.read 7).toNat config.memorySize with htop | htop
    · have hvalue := m.get?_eq_cells ⟨_, htop⟩
      rcases Nat.lt_or_ge r.toNat 8 with hr | hr
      · rw [Register.ofByte_of_lt hr]
        by_cases h7 : r.toNat < 7
        · have hne7 : (⟨r.toNat, hr⟩ : Register) ≠ 7 := Fin.ne_of_val_ne (Nat.ne_of_lt h7)
          exact Or.inr ⟨_, _, dif_pos htop, .pop hcode hvalue h7, rfl, hcells,
            (Workspace.popInto_of_ne _ hne7 _).symm, hnone⟩
        · obtain rfl : r = 7 := UInt8.toNat_inj.mp (by change r.toNat = 7; omega)
          exact Or.inr ⟨_, _, dif_pos htop, .popStackPointer hcode hvalue, rfl, hcells,
            (Workspace.popInto_stackPointer _ _).symm, hnone⟩
      · rw [Register.ofByte_of_le hr]
        exact Or.inl ⟨_, dif_pos htop, .popRegister hcode htop hr⟩
    · exact Or.inl ⟨_, dif_neg (Nat.not_lt.mpr htop), .popOutside hcode htop⟩

/-- An instruction that fails in the evaluation stops the program with its fault. -/
theorem stop?_of_perform_error {m : Machine config} {i : Instruction} {fault : Fault}
    (hne : i ≠ .hlt) (hcode : m.memory.Holds m.pc i.encode)
    (h : m.workspace.perform config.product i = .error fault) :
    m.stop? = some (.faulted fault m.pc) := by
  rcases exists_rule_of_perform hne hcode with ⟨fault', hperform, hrule⟩ | ⟨s, e, hperform, -, -⟩
  · rw [h] at hperform
    cases hperform
    unfold stop?
    rw [hrule.does.1]
  · rw [h] at hperform
    cases hperform

/-- An instruction that succeeds in the evaluation lets the program go on right behind it, and
leaves the workspace that the evaluation says. -/
theorem step_of_perform_ok {m : Machine config} {i : Instruction}
    {s : Workspace config.memorySize} (hne : i ≠ .hlt) (hcode : m.memory.Holds m.pc i.encode)
    (h : m.workspace.perform config.product i = .ok s) :
    m.step.result = .ok .continued ∧ m.step.machine.pc = m.pc + i.length ∧
      m.step.machine.workspace = s := by
  rcases exists_rule_of_perform hne hcode with ⟨fault, hperform, -⟩ | ⟨s', e, hperform, hrule, hs⟩
  · rw [h] at hperform
    cases hperform
  · rw [h] at hperform
    cases hperform
    obtain ⟨hresult, hafter⟩ := hrule.does
    refine ⟨hresult, ?_, hafter.workspace_eq hs.cells hs.registers hs.output⟩
    rw [hafter.pc, hs.length, i.length_encode]

/-! ## The run -/

/-- At a halt the program stops. -/
theorem stop?_of_halt {m : Machine config} (hcode : m.memory.Holds m.pc Instruction.hlt.encode) :
    m.stop? = some .halted := by
  unfold stop?
  rw [(Rule.hlt hcode).does.1]

/-- Where the code of a program stands at the program counter, with a halt behind it, the machine
goes on as the program is evaluated, and stops where the evaluation does. -/
theorem exists_continues_evaluate {m : Machine config} {program : List Instruction}
    (hprogram : .hlt ∉ program)
    (hcode : m.memory.Holds m.pc (encodeAll (program ++ [.hlt])))
    (hspares : m.workspace.SparesCode config.product m.pc program) :
    let e := m.workspace.evaluate config.product program
    ∃ m', Continues e.executed m m' ∧ m'.workspace = e.workspace ∧
      m'.pc = m.pc + offset program e.executed ∧
      (e.fault = none → m'.memory.Holds m'.pc Instruction.hlt.encode) ∧
      ∀ fault, e.fault = some fault → m'.stop? = some (.faulted fault m'.pc) := by
  -- induction on the list; what the code that is left demands of memory is kept by each step
  induction program generalizing m with
  | nil =>
    refine ⟨m, .refl m, rfl, (Nat.add_zero _).symm, fun _ => hcode, fun fault hfault => ?_⟩
    cases hfault
  | cons i rest ih =>
    rw [List.cons_append, encodeAll_cons, Memory.holds_append, i.length_encode] at hcode
    obtain ⟨hfirst, hrest⟩ := hcode
    rw [List.mem_cons, not_or] at hprogram
    have hne : i ≠ .hlt := Ne.symm hprogram.1
    rcases hperform : m.workspace.perform config.product i with fault | s
    · rw [Workspace.evaluate_cons_of_error hperform]
      refine ⟨m, .refl m, rfl, ?_, fun hfault => ?_, fun fault' hfault => ?_⟩
      · rw [offset_zero, Nat.add_zero]
      · cases hfault
      · cases hfault
        exact stop?_of_perform_error hne hfirst hperform
    · obtain ⟨hstep, hpc, hworkspace⟩ := step_of_perform_ok hne hfirst hperform
      have hcode' : m.step.machine.memory.Holds m.step.machine.pc (encodeAll (rest ++ [.hlt])) := by
        rw [hpc]
        refine hrest.congr fun address hlo hhi => get?_step_of_ne fun name hname hlt => ?_
        -- the step is a push only if the first instruction is, which spares the code behind it
        obtain rfl := Memory.eq_of_holds_encode hfirst hname
        have hspared : m.pushAddress < _ ∨ _ ≤ m.pushAddress := hspares.head hlt
        omega
      have hspares' : m.step.machine.workspace.SparesCode config.product m.step.machine.pc rest := by
        rw [hpc, hworkspace]
        exact hspares.tail hperform
      obtain ⟨m', hcontinues, hworkspace', hpc', hhalt, hfault⟩ := ih hprogram.2 hcode' hspares'
      rw [Workspace.evaluate_cons_of_ok hperform]
      rw [hworkspace] at hcontinues hworkspace' hpc' hhalt hfault
      refine ⟨m', .head hstep hcontinues, hworkspace', ?_, hhalt, hfault⟩
      rw [hpc', hpc, offset_cons_succ, Nat.add_assoc]

/-! ## Loaded programs -/

/-- Code that fits into memory is loaded to its start, and no more happens to the machine. -/
theorem exists_load (m : Machine config) {code : List UInt8}
    (h : code.length ≤ config.memorySize) :
    ∃ loaded, m.load code = .ok loaded ∧ loaded.memory.Holds 0 code ∧ loaded.pc = m.pc ∧
      loaded.interruptPending = m.interruptPending :=
  ⟨_, m.load_of_le h, m.memory.holds_overlay (by rwa [Nat.zero_add]), rfl, rfl⟩

theorem executed_lt_unlimited {n : Nat} {m m' : Machine config} (h : Continues n m m') :
    n < unlimited := by
  obtain ⟨lines, hreaches, -, -⟩ := h.reaches
  have hcount : n ≤ (config.memorySize - m.pc) / 2 := hreaches.count_le
  have hsize : config.memorySize ≤ 256 := m.valid.memorySize_le
  simp only [unlimited, UInt64.size]
  omega

/-- Where the code of a program stands at the program counter, with a halt behind it, a run does
what the evaluation of the program does. -/
theorem run_eq_evaluate {m : Machine config} {program : List Instruction}
    (hpending : m.interruptPending = false) (hprogram : .hlt ∉ program)
    (hcode : m.memory.Holds m.pc (encodeAll (program ++ [.hlt])))
    (hspares : m.workspace.SparesCode config.product m.pc program) :
    let e := m.workspace.evaluate config.product program
    m.run.machine.workspace = e.workspace ∧
      m.run.machine.pc = m.pc + offset program e.executed ∧
      (e.fault = none →
        m.run.exit = ⟨.halted, e.executed⟩ ∧
          m.run.machine.memory.Holds m.run.machine.pc Instruction.hlt.encode) ∧
      ∀ fault, e.fault = some fault →
        m.run.exit = ⟨.faulted fault (m.pc + offset program e.executed), e.executed⟩ := by
  intro e
  obtain ⟨m', hcontinues, hworkspace, hpc, hhalt, hfault⟩ :=
    exists_continues_evaluate hprogram hcode hspares
  have hstop : ∀ {stop : Stop}, m'.stop? = some stop →
      m.run.exit = ⟨stop, e.executed⟩ ∧ m.run.machine = m'.recorded := by
    intro stop h
    have hfollows : m.Follows unlimited e.executed m' stop m'.recorded :=
      ⟨hcontinues, Or.inr ⟨executed_lt_unlimited hcontinues, h, rfl⟩⟩
    exact hfollows.runSlice_eq hpending
  have hmachine : m.run.machine = m'.recorded := by
    rcases he : e.fault with _ | fault
    · exact (hstop (stop?_of_halt (hhalt he))).2
    · exact (hstop (hfault fault he)).2
  rw [hmachine]
  refine ⟨hworkspace, hpc, fun he => ⟨?_, hhalt he⟩, fun fault he => ?_⟩
  · exact (hstop (stop?_of_halt (hhalt he))).1
  · rw [← hpc]
    exact (hstop (hfault fault he)).1

/-- A list of instructions without a halt, and a halt behind it, are loaded into any machine whose
program counter is 0 and that no interrupt waits for, if memory has room for them. If no push that
the evaluation of the list reaches writes into the code behind it, the machine runs as the list is
evaluated: memory, registers and output come out the same, the program counter has moved over the
instructions that were carried out, and the run ends at the halt or with the fault of the first
instruction that fails. -/
theorem run_load_eq_evaluate (m : Machine config) (program : List Instruction)
    (hprogram : .hlt ∉ program)
    (hfits : (encodeAll (program ++ [.hlt])).length ≤ config.memorySize)
    (hpc : m.pc = 0) (hpending : m.interruptPending = false) :
    ∃ loaded, m.load (encodeAll (program ++ [.hlt])) = .ok loaded ∧
      (loaded.workspace.SparesCode config.product 0 program →
        let e := loaded.workspace.evaluate config.product program
        loaded.run.machine.workspace = e.workspace ∧
        loaded.run.machine.pc = offset program e.executed ∧
        (e.fault = none →
          loaded.run.exit = ⟨.halted, program.length⟩ ∧
          loaded.run.machine.pc = offset program program.length ∧
          loaded.run.machine.memory.get? loaded.run.machine.pc = some 0b00000001) ∧
        ∀ fault, e.fault = some fault →
          loaded.run.exit = ⟨.faulted fault (offset program e.executed), e.executed⟩) := by
  obtain ⟨loaded, hload, hcode, hpc', hpending'⟩ := m.exists_load hfits
  rw [hpc] at hpc'
  refine ⟨loaded, hload, fun hspares => ?_⟩
  intro e
  rw [← hpc'] at hcode hspares
  obtain ⟨hworkspace, hend, hhalt, hfault⟩ :=
    run_eq_evaluate (hpending'.trans hpending) hprogram hcode hspares
  rw [hpc', Nat.zero_add] at hend hfault
  refine ⟨hworkspace, hend, fun he => ?_, hfault⟩
  obtain ⟨hexit, hhlt⟩ := hhalt he
  have hcount : e.executed = program.length := Workspace.executed_evaluate_of_no_fault program he
  rw [hcount] at hexit hend
  exact ⟨hexit, hend, hhlt.1⟩

/-- A machine of eight cells as it is switched on. -/
def eightCells : Machine ⟨8, 0, .print, false⟩ :=
  new ⟨by decide, by decide, by decide⟩

/-- A program that pushes onto code that has been carried out, and then pops into a register that
does not exist. -/
def overwriting : List Instruction :=
  [.ldi 7 2, .push 7, .pop 9]

/-- The push of `overwriting` writes over an operand of the first instruction, which lies behind by
then, and the third instruction stops the program. -/
theorem run_load_overwriting :
    ∃ loaded, eightCells.load (encodeAll (overwriting ++ [.hlt])) = .ok loaded ∧
      loaded.workspace.SparesCode .print 0 overwriting ∧
      loaded.run.exit = ⟨.faulted (.invalidRegister 9) 5, 2⟩ ∧
      loaded.run.machine.memory.get? 1 = some 2 := by
  obtain ⟨loaded, hload, hrun⟩ :=
    run_load_eq_evaluate eightCells overwriting (by decide) (by decide) rfl rfl
  have hloaded : { eightCells with
      store := ⟨⟨#v[130, 7, 2, 69, 7, 70, 9, 1]⟩, eightCells.registers⟩ } = loaded := by
    apply Except.ok.inj
    rw [← hload]
    rfl
  have hspares : loaded.workspace.SparesCode .print 0 overwriting := by
    intro k name hpush hreached hname
    subst hloaded
    -- the one push is the instruction at index 1
    rcases k with _ | _ | _ | k
    · cases hpush
    · cases hpush
      left
      decide
    · cases hpush
    · cases hpush
  obtain ⟨hworkspace, -, -, hfault⟩ := hrun hspares
  refine ⟨loaded, hload, hspares, ?_, ?_⟩
  · subst hloaded
    exact hfault (.invalidRegister 9) (by decide)
  · have hcell := get?_eq_cells loaded.run.machine ⟨1, by decide⟩
    rw [hworkspace] at hcell
    subst hloaded
    exact hcell.trans (by decide)

end Machine

end EightBit
