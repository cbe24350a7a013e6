import EightBit.Proofs.InstructionSet
import EightBit.Proofs.Runs

/-!
# The stack

What is pushed lies in memory like all other bytes, and the stack pointer is a register like the
others. A list beside the machine, the ghost stack, keeps the values that were pushed and have not
been popped yet. `stack_lifo` says that memory shows this list from the stack pointer on, as
long as a program moves the stack pointer by pushes and pops only and pops no more than it pushed,
even where the stack grows over the code.

* `stackMove_of_completed` says once what a completed instruction can do to the stack;
* `StackHolds` is the invariant, `StackHolds.step` the step that keeps it. A program ends before it
  has pushed 256 values, because each push takes up two cells of code, so the cells of the stack
  are different cells (`StackHolds.length_le`).
-/

namespace EightBit

namespace Instruction

/-- Whether an instruction gives the stack pointer a value, other than by moving it over the
stack. -/
def setsStackPointer (mode : ProductMode) : Instruction → Bool
  | .ldi register _ => register == 7
  | .mul left _ => mode == .store && left == 7
  | .pop register => register == 7
  | .hlt | .prn _ | .push _ => false

/-- Whether an instruction takes a value from the stack. -/
def isPop : Instruction → Bool
  | .pop _ => true
  | .hlt | .ldi .. | .prn _ | .mul .. | .push _ => false

end Instruction

namespace Machine

variable {config : Config}

/-! ## The ghost stack -/

/-- The machine after `n` steps, whether they continue or not. -/
def afterSteps (m : Machine config) : Nat → Machine config
  | 0 => m
  | n + 1 => (m.afterSteps n).step.machine

/-- The instruction that a step completes, if it completes one. -/
def completed? (m : Machine config) : Option Instruction :=
  match m.step.result, m.memory.fetch m.pc with
  | .ok .continued, .ok (.instruction i) => some i
  | _, _ => none

/-- What a step makes of the ghost stack: a completed push adds the value of its register, as it
was before the push, and a completed pop takes the last value away. -/
def stackAfter (m : Machine config) (stack : List UInt8) : List UInt8 :=
  match m.completed? with
  | some (.push register) =>
    match m.registers.get register with
    | .ok value => value :: stack
    | .error _ => stack
  | some (.pop _) => stack.tail
  | _ => stack

/-- The ghost stack after `n` steps: the values that were pushed in them and not popped again, the
last one first. -/
def ghostStack (m : Machine config) : Nat → List UInt8
  | 0 => []
  | n + 1 => (m.afterSteps n).stackAfter (m.ghostStack n)

/-- If the next step completes an instruction, that moves the stack pointer at most as a push or a
pop does, and pops only what was pushed. -/
def KeepsStack (m : Machine config) (stack : List UInt8) : Prop :=
  ∀ i ∈ m.completed?, i.setsStackPointer config.product = false ∧ (i.isPop = true → stack ≠ [])

instance (m : Machine config) (stack : List UInt8) : Decidable (m.KeepsStack stack) :=
  inferInstanceAs (Decidable (∀ i ∈ m.completed?, _))

/-! ## Completed instructions -/

theorem completed?_eq_some {m : Machine config} {i : Instruction} (h : m.completed? = some i) :
    m.step.result = .ok .continued ∧ m.memory.Holds m.pc i.encode := by
  unfold completed? at h
  split at h
  · rename_i hresult hfetch
    cases h
    exact ⟨hresult, Memory.fetch_eq_instruction_iff.mp hfetch⟩
  · cases h

/-- A step that continues completes the instruction that stands at the program counter. -/
theorem completed?_of_continued {m : Machine config} {i : Instruction}
    (hresult : m.step.result = .ok .continued) (hcode : m.memory.Holds m.pc i.encode) :
    m.completed? = some i := by
  unfold completed?
  rw [hresult, Memory.fetch_eq_instruction_iff.mpr hcode]

theorem exists_completed_of_continued {m : Machine config}
    (hresult : m.step.result = .ok .continued) : ∃ i, m.completed? = some i := by
  rcases hfetch : m.memory.fetch m.pc with fault | ⟨i⟩ | byte
  · rw [step_of_fetch_error hfetch] at hresult
    cases hresult
  · exact ⟨i, completed?_of_continued hresult (Memory.fetch_eq_instruction_iff.mp hfetch)⟩
  · rw [step_of_unknown hfetch] at hresult
    cases hresult

/-- A step that completes nothing changes at most the record of snapshots. -/
theorem machine_step_of_completed?_eq_none {m : Machine config} (h : m.completed? = none) :
    m.step.machine = m.recorded := by
  apply machine_step_of_not_continued
  intro hresult
  obtain ⟨i, hi⟩ := exists_completed_of_continued hresult
  rw [h] at hi
  cases hi

/-- What a completed instruction does to the stack. -/
inductive StackMove (m : Machine config) : Instruction → Prop where
  | push {register value : UInt8} (hvalue : m.registers.get register = .ok value)
      (hinside : m.pushAddress < config.memorySize)
      (hcells : m.step.machine.memory.get? =
        Function.update m.memory.get? m.pushAddress (some value))
      (hpointer : (m.step.machine.registers.read 7).toNat = m.pushAddress) :
      StackMove m (.push register)
  | pop {register : UInt8} (hinside : (m.registers.read 7).toNat < config.memorySize)
      (hcells : m.step.machine.memory.get? = m.memory.get?)
      (hpointer : (m.step.machine.registers.read 7).toNat =
        ((m.registers.read 7).toNat + 1) % 256) :
      StackMove m (.pop register)
  /-- Any other instruction leaves the stack alone. -/
  | stay {i : Instruction} (hpush : ∀ register, i ≠ .push register)
      (hpop : ∀ register, i ≠ .pop register)
      (hcells : m.step.machine.memory.get? = m.memory.get?)
      (hpointer : m.step.machine.registers.read 7 = m.registers.read 7) :
      StackMove m i

theorem seven_ne_of_beq {name : UInt8} (h : (name == 7) = false) (hlt : name.toNat < 8) :
    (7 : Register) ≠ ⟨name.toNat, hlt⟩ := by
  intro heq
  have hname : name = 7 := UInt8.toNat_inj.mp (congrArg Fin.val heq).symm
  rw [hname] at h
  cases h

theorem stackMove_of_completed {m : Machine config} {i : Instruction} (h : m.completed? = some i)
    (hset : i.setsStackPointer config.product = false) : StackMove m i := by
  obtain ⟨hresult, hcode⟩ := completed?_eq_some h
  obtain ⟨r, e, hrule⟩ := m.exists_rule
  obtain ⟨hr, hafter⟩ := hrule.does
  rw [hresult] at hr
  subst hr
  have hcells := hafter.cells
  have hpointer : m.step.machine.registers.read 7 = e.registers 7 := congrFun hafter.registers 7
  -- each rule by which a step continues is about one instruction
  cases hrule with
  | @ldi name v hldi hlt =>
    obtain rfl := Memory.eq_of_holds_encode (i := .ldi name v) hldi hcode
    refine .stay (by simp) (by simp) hcells (hpointer.trans ?_)
    exact Function.update_of_ne (seven_ne_of_beq hset hlt) _ _
  | @prn name hprn hlt =>
    obtain rfl := Memory.eq_of_holds_encode (i := .prn name) hprn hcode
    exact .stay (by simp) (by simp) hcells hpointer
  | @mulPrint a b hmul hmode ha hb =>
    obtain rfl := Memory.eq_of_holds_encode (i := .mul a b) hmul hcode
    exact .stay (by simp) (by simp) hcells hpointer
  | @mulStore a b hmul hmode ha hb =>
    obtain rfl := Memory.eq_of_holds_encode (i := .mul a b) hmul hcode
    rw [Instruction.setsStackPointer, hmode] at hset
    refine .stay (by simp) (by simp) hcells (hpointer.trans ?_)
    exact Function.update_of_ne (seven_ne_of_beq hset ha) _ _
  | @push name hpush hlt htop =>
    obtain rfl := Memory.eq_of_holds_encode (i := .push name) hpush hcode
    refine .push (m.registers.get_of_lt hlt) htop hcells ?_
    have hlt256 : m.pushAddress < 256 := Nat.mod_lt _ (by decide)
    rw [hpointer]
    show (Function.update m.registers.read 7 (UInt8.ofNat m.pushAddress) 7).toNat = m.pushAddress
    rw [Function.update_self, UInt8.toNat_ofNat_of_lt' hlt256]
  | @pop name v hpop htop hlt =>
    obtain rfl := Memory.eq_of_holds_encode (i := .pop name) hpop hcode
    refine .pop (Memory.lt_of_get? htop) hcells ?_
    have hlt256 : ((m.registers.read 7).toNat + 1) % 256 < 256 := Nat.mod_lt _ (by decide)
    rw [hpointer]
    show (Function.update (Function.update m.registers.read ⟨name.toNat, Nat.lt_succ_of_lt hlt⟩ v) 7
      (UInt8.ofNat (((m.registers.read 7).toNat + 1) % 256)) 7).toNat =
        ((m.registers.read 7).toNat + 1) % 256
    rw [Function.update_self, UInt8.toNat_ofNat_of_lt' hlt256]
  | popStackPointer hpop htop =>
    obtain rfl := Memory.eq_of_holds_encode (i := .pop 7) hpop hcode
    cases hset

/-! ## The invariant -/

/-- Memory shows the ghost stack of a run that began with the stack pointer at `start`. -/
structure StackHolds (m : Machine config) (start : UInt8) (stack : List UInt8) : Prop where
  pointer : ((m.registers.read 7).toNat + stack.length) % 256 = start.toNat
  cells : ∀ i < stack.length,
    m.memory.get? (((m.registers.read 7).toNat + i) % 256) = stack[i]?
  /-- Each value on the stack has taken a push to get there, and a push is two cells of code. -/
  code : 2 * stack.length ≤ m.pc
  inside : stack ≠ [] → m.pc ≤ config.memorySize

theorem StackHolds.length_le {m : Machine config} {start : UInt8} {stack : List UInt8}
    (h : m.StackHolds start stack) : stack.length ≤ 128 := by
  have hsize : config.memorySize ≤ 256 := m.valid.memorySize_le
  have hcode := h.code
  by_cases hstack : stack = []
  · rw [hstack, List.length_nil]
    omega
  · have hinside := h.inside hstack
    omega

theorem StackHolds.init (m : Machine config) : m.StackHolds (m.registers.read 7) [] where
  pointer := by
    have hlt : (m.registers.read 7).toNat < 256 := UInt8.toNat_lt _
    rw [List.length_nil, Nat.add_zero, Nat.mod_eq_of_lt hlt]
  cells := fun i hi => absurd hi (Nat.not_lt_zero i)
  code := Nat.zero_le _
  inside := fun h => absurd rfl h

/-- A step that continues moves the program counter by at least two cells and not out of memory. -/
theorem pc_step_of_continued {m : Machine config} (h : m.step.result = .ok .continued) :
    m.pc + 2 ≤ m.step.machine.pc ∧ m.step.machine.pc ≤ config.memorySize := by
  obtain ⟨lines, hnext, -, -⟩ := next_of_continued h
  obtain ⟨hlo, -, hin⟩ := Core.pc_of_next hnext
  exact ⟨hlo, hin⟩

section

variable {m : Machine config} {start : UInt8} {stack : List UInt8}

/-- A pushed value comes to lie below all others. -/
theorem StackHolds.push {value : UInt8} (h : m.StackHolds start stack)
    (hresult : m.step.result = .ok .continued)
    (hcells : m.step.machine.memory.get? =
      Function.update m.memory.get? m.pushAddress (some value))
    (hpointer : (m.step.machine.registers.read 7).toNat = m.pushAddress) :
    m.step.machine.StackHolds start (value :: stack) := by
  obtain ⟨hlo, hin⟩ := pc_step_of_continued hresult
  have hlength := h.length_le
  have hold := h.pointer
  have hcode := h.code
  have hlt : (m.registers.read 7).toNat < 256 := UInt8.toNat_lt _
  have htop : m.pushAddress = ((m.registers.read 7).toNat + 255) % 256 := rfl
  refine ⟨?_, fun i hi => ?_, ?_, fun _ => hin⟩
  · rw [hpointer, htop, List.length_cons]
    omega
  · rw [hpointer, hcells]
    rw [List.length_cons] at hi
    rcases i with _ | i
    · have haddress : (m.pushAddress + 0) % 256 = m.pushAddress := by omega
      rw [haddress, Function.update_self, List.getElem?_cons_zero]
    · -- the cells of the values pushed before are others than the one written now
      have haddress : (m.pushAddress + (i + 1)) % 256 = ((m.registers.read 7).toNat + i) % 256 := by
        omega
      have hne : ((m.registers.read 7).toNat + i) % 256 ≠ m.pushAddress := by omega
      rw [haddress, Function.update_of_ne hne, List.getElem?_cons_succ, h.cells i (by omega)]
  · rw [List.length_cons]
    omega

/-- A popped value lies below the stack pointer from then on. -/
theorem StackHolds.pop (h : m.StackHolds start stack) (hstack : stack ≠ [])
    (hresult : m.step.result = .ok .continued)
    (hcells : m.step.machine.memory.get? = m.memory.get?)
    (hpointer : (m.step.machine.registers.read 7).toNat = ((m.registers.read 7).toNat + 1) % 256) :
    m.step.machine.StackHolds start stack.tail := by
  obtain ⟨hlo, hin⟩ := pc_step_of_continued hresult
  obtain ⟨value, rest, rfl⟩ := List.exists_cons_of_ne_nil hstack
  have hold := h.pointer
  have hcode := h.code
  rw [List.length_cons] at hold hcode
  refine ⟨?_, fun i hi => ?_, ?_, fun _ => hin⟩
  · rw [hpointer, List.tail_cons]
    omega
  · rw [List.tail_cons] at hi ⊢
    have haddress : (((m.registers.read 7).toNat + 1) % 256 + i) % 256 =
        ((m.registers.read 7).toNat + (i + 1)) % 256 := by omega
    have hcell := h.cells (i + 1) (by rw [List.length_cons]; omega)
    rw [hpointer, hcells, haddress, hcell, List.getElem?_cons_succ]
  · rw [List.tail_cons]
    omega

/-- What leaves the stack pointer and the cells alone keeps the stack. -/
theorem StackHolds.stay (h : m.StackHolds start stack)
    (hresult : m.step.result = .ok .continued)
    (hcells : m.step.machine.memory.get? = m.memory.get?)
    (hpointer : m.step.machine.registers.read 7 = m.registers.read 7) :
    m.step.machine.StackHolds start stack := by
  obtain ⟨hlo, hin⟩ := pc_step_of_continued hresult
  refine ⟨?_, ?_, Nat.le_trans h.code (by omega), fun _ => hin⟩
  · rw [hpointer]
    exact h.pointer
  · rw [hpointer, hcells]
    exact h.cells

/-- A step that keeps to the stack leaves memory showing the ghost stack. -/
theorem StackHolds.step (h : m.StackHolds start stack) (hkeeps : m.KeepsStack stack) :
    m.step.machine.StackHolds start (m.stackAfter stack) := by
  unfold stackAfter
  rcases hcompleted : m.completed? with _ | i
  · rw [machine_step_of_completed?_eq_none hcompleted]
    exact ⟨h.pointer, h.cells, h.code, h.inside⟩
  · obtain ⟨hset, hpop⟩ := hkeeps i hcompleted
    have hresult := (completed?_eq_some hcompleted).1
    cases stackMove_of_completed hcompleted hset with
    | push hvalue _ hcells hpointer =>
      simp only [hvalue]
      exact h.push hresult hcells hpointer
    | pop _ hcells hpointer => exact h.pop (hpop rfl) hresult hcells hpointer
    | stay hpush hpop hcells hpointer =>
      have hkept := h.stay hresult hcells hpointer
      cases i with
      | push name => exact absurd rfl (hpush name)
      | pop name => exact absurd rfl (hpop name)
      | _ => exact hkept

end

theorem stackHolds_afterSteps {m : Machine config} {n : Nat}
    (hkeeps : ∀ k < n, (m.afterSteps k).KeepsStack (m.ghostStack k)) :
    (m.afterSteps n).StackHolds (m.registers.read 7) (m.ghostStack n) := by
  induction n with
  | zero => exact .init m
  | succ n ih =>
    have hbefore := ih fun k hk => hkeeps k (Nat.lt_succ_of_lt hk)
    exact hbefore.step (hkeeps n (Nat.lt_succ_self n))

/-! ## Last in, first out -/

/-- Where a pop stands at the program counter and the ghost stack has a value, the step completes
and the register has the last value that was pushed. -/
theorem StackHolds.pop_value {m : Machine config} {start value name : UInt8}
    {rest : List UInt8} (h : m.StackHolds start (value :: rest))
    (hcode : m.memory.Holds m.pc (Instruction.pop name).encode) (hname : name.toNat < 7) :
    m.step.result = .ok .continued ∧ m.step.machine.registers.get name = .ok value := by
  have htop : m.memory.get? (m.registers.read 7).toNat = some value := by
    have hcell := h.cells 0 (Nat.succ_pos _)
    have hlt : (m.registers.read 7).toNat < 256 := UInt8.toNat_lt _
    rw [Nat.add_zero, Nat.mod_eq_of_lt hlt] at hcell
    exact hcell
  obtain ⟨hresult, hafter⟩ := (Rule.pop hcode htop hname).does
  refine ⟨hresult, ?_⟩
  have hlt : name.toNat < 8 := Nat.lt_succ_of_lt hname
  have hne : (⟨name.toNat, hlt⟩ : Register) ≠ 7 := Fin.ne_of_val_ne (Nat.ne_of_lt hname)
  rw [Registers.get_of_lt _ hlt, hafter.registers]
  show Except.ok (Function.update (Function.update m.registers.read ⟨name.toNat, hlt⟩ value) 7 _
    ⟨name.toNat, hlt⟩) = Except.ok value
  rw [Function.update_of_ne hne, Function.update_self]

/-- Take any machine and any number of steps, in which no completed instruction sets the stack
pointer other than by a push or a pop, and none pops a value that was not pushed before in these
steps. Then the stack pointer is as far below where it was as the ghost stack is long, and memory
has the values of the ghost stack from the stack pointer on, addresses wrapping around at 256. A
pop into another register than the stack pointer then completes and gives the value that was
pushed last. -/
theorem stack_lifo (m : Machine config) (n : Nat)
    (hkeeps : ∀ k < n, (m.afterSteps k).KeepsStack (m.ghostStack k)) :
    let m' := m.afterSteps n
    let stack := m.ghostStack n
    ((m'.registers.read 7).toNat : Int) =
        ((m.registers.read 7).toNat - stack.length : Int) % 256 ∧
      (∀ i < stack.length,
        m'.memory.get? (((m'.registers.read 7).toNat + i) % 256) = stack[i]?) ∧
      ∀ name value rest, m'.memory.Holds m'.pc (Instruction.pop name).encode → name.toNat < 7 →
        stack = value :: rest →
        m'.step.result = .ok .continued ∧ m'.step.machine.registers.get name = .ok value := by
  intro m' stack
  have h : m'.StackHolds (m.registers.read 7) stack := stackHolds_afterSteps hkeeps
  refine ⟨?_, h.cells, fun name value rest hcode hname hstack => ?_⟩
  · have hpointer := h.pointer
    have hlt : (m'.registers.read 7).toNat < 256 := UInt8.toNat_lt _
    omega
  · rw [hstack] at h
    exact h.pop_value hcode hname

/-- A machine whose program pushes two values and pops one of them. The first push writes over its
own code, and with the second the stack pointer wraps around. -/
def pusher : Machine ⟨256, 1, .store, false⟩ where
  valid := ⟨by decide, by decide, by decide⟩
  store := ⟨(Memory.zeroed 256).overlay 0 [69, 2, 69, 3, 70, 4, 1],
    ((Registers.zeroed.write 2 20).write 3 30).write 7 1⟩
  pc := 0
  output := []
  snapshots := []
  interruptPending := false

/-- After the two pushes of `pusher` the stack pointer is 255, and the pop gives the second
value. -/
theorem stack_lifo_pusher :
    (∀ k < 2, (pusher.afterSteps k).KeepsStack (pusher.ghostStack k)) ∧
      pusher.ghostStack 2 = [30, 20] ∧
      ((pusher.afterSteps 2).registers.read 7).toNat = 255 ∧
      (pusher.afterSteps 2).step.machine.registers.get 4 = .ok 30 := by
  have hkeeps : ∀ k < 2, (pusher.afterSteps k).KeepsStack (pusher.ghostStack k) := by
    decide +kernel
  have hstack : pusher.ghostStack 2 = [30, 20] := by decide +kernel
  have hcode : (pusher.afterSteps 2).memory.Holds (pusher.afterSteps 2).pc
      (Instruction.pop 4).encode := by
    refine ⟨?_, ?_, trivial⟩ <;> decide +kernel
  obtain ⟨hpointer, -, hpop⟩ := stack_lifo pusher 2 hkeeps
  refine ⟨hkeeps, hstack, ?_, (hpop 4 30 [20] hcode (by decide) hstack).2⟩
  rw [hstack] at hpointer
  have hstart : (pusher.registers.read 7).toNat = 1 := by decide +kernel
  rw [hstart, List.length_cons, List.length_cons, List.length_nil] at hpointer
  omega

end Machine

end EightBit
