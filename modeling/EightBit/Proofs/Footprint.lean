import EightBit.Proofs.Attempts
import Mathlib.Data.Set.Basic

/-!
# The footprint of a run

A run depends on few cells of memory: those that it reads as opcode, operand or top of the stack
before one of its pushes has written to them (`ReadsFirst`), and of all others it changes only those
that it pushes to (`writtenWithin`). So two machines that have the first in common run in lockstep
(`AgreeOn.runSlice`), whatever the rest of their memories is, and even if one of them has more of it
and the other does not run out of its own.

* `Rule.of_reads` says once that the rule which applies depends on the cells that the step reads;
* `AgreeOn.step` is the lockstep for one step. What the machines have in common grows by the cell
  that is written, so code that was pushed may be read later.
-/

namespace EightBit

variable {config config' : Config}

/-! ## Reads and writes of a step -/

/-- The cells that a fetch reads: the one at the address and, if there is an opcode in it, those of
the operands. -/
def Memory.fetchedFrom {size : Nat} (m : Memory size) (pc : Nat) : List Nat :=
  match (m.get? pc).bind Opcode.ofByte? with
  | some op => List.range' pc (1 + op.operandCount)
  | none => [pc]

theorem Memory.mem_fetchedFrom_self {size : Nat} (m : Memory size) (pc : Nat) :
    pc ∈ m.fetchedFrom pc := by
  unfold fetchedFrom
  split
  · rw [List.mem_range'_1]
    omega
  · exact List.mem_singleton_self pc

theorem Memory.mem_fetchedFrom_of_holds {size : Nat} {m : Memory size} {pc a : Nat}
    {i : Instruction} (h : m.Holds pc i.encode) (hlo : pc ≤ a) (hhi : a < pc + i.encode.length) :
    a ∈ m.fetchedFrom pc := by
  have hop : (m.get? pc).bind Opcode.ofByte? = some i.opcode := by
    rw [h.1, Option.bind_some, Opcode.ofByte?_byte]
  rw [i.length_encode, Instruction.length] at hhi
  rw [fetchedFrom, hop, List.mem_range'_1]
  exact ⟨hlo, hhi⟩

namespace Machine

/-- The cells that the next step reads: those of the fetch, and for a pop the one that the stack
pointer names. -/
def reads (m : Machine config) : List Nat :=
  match m.memory.fetch m.pc with
  | .ok (.instruction (.pop _)) => m.memory.fetchedFrom m.pc ++ [(m.registers.read 7).toNat]
  | _ => m.memory.fetchedFrom m.pc

/-- The cell that the next step writes to, if it completes a push. -/
def pushedCell? (m : Machine config) : Option Nat :=
  match m.completed? with
  | some (.push _) => some m.pushAddress
  | _ => none

/-- The cells that the next `n` steps write to. -/
def writtenWithin (m : Machine config) (n : Nat) : List Nat :=
  (m.beforeSteps n).filterMap pushedCell?

/-- One of the next `n` steps reads a cell that none of those before it has written to. -/
def ReadsFirst (m : Machine config) (n a : Nat) : Prop :=
  ∃ i < n, a ∈ (m.afterSteps i).reads ∧ a ∉ m.writtenWithin i

theorem fetchedFrom_subset_reads {m : Machine config} {a : Nat}
    (h : a ∈ m.memory.fetchedFrom m.pc) : a ∈ m.reads := by
  unfold reads
  split
  · exact List.mem_append_left _ h
  · exact h

theorem pc_mem_reads (m : Machine config) : m.pc ∈ m.reads :=
  fetchedFrom_subset_reads (m.memory.mem_fetchedFrom_self m.pc)

theorem mem_reads_of_holds {m : Machine config} {i : Instruction}
    (hcode : m.memory.Holds m.pc i.encode) {a : Nat} (hlo : m.pc ≤ a)
    (hhi : a < m.pc + i.encode.length) : a ∈ m.reads :=
  fetchedFrom_subset_reads (Memory.mem_fetchedFrom_of_holds hcode hlo hhi)

theorem stackPointer_mem_reads {m : Machine config} {name : UInt8}
    (hcode : m.memory.Holds m.pc (Instruction.pop name).encode) :
    (m.registers.read 7).toNat ∈ m.reads := by
  unfold reads
  rw [Memory.fetch_eq_instruction_iff.mpr hcode]
  exact List.mem_append_right _ (List.mem_singleton_self _)

theorem pushedCell?_eq_some {m : Machine config} {a : Nat} (h : m.pushedCell? = some a) :
    ∃ name, m.completed? = some (.push name) ∧ a = m.pushAddress := by
  unfold pushedCell? at h
  split at h
  · rename_i name hcompleted
    cases h
    exact ⟨name, hcompleted, rfl⟩
  · cases h

/-- A step that writes to a cell puts the value of a register there. -/
theorem get?_step_of_pushedCell? {m : Machine config} {a : Nat} (h : m.pushedCell? = some a) :
    ∃ name value, m.completed? = some (.push name) ∧ m.registers.get name = .ok value ∧
      a < config.memorySize ∧ m.step.machine.memory.get? a = some value := by
  obtain ⟨name, hcompleted, rfl⟩ := pushedCell?_eq_some h
  cases stackMove_of_completed hcompleted rfl with
  | @push _ value hvalue hinside hcells _ =>
    refine ⟨name, value, hcompleted, hvalue, hinside, ?_⟩
    rw [hcells, Function.update_self]
  | stay hpush _ _ _ => exact absurd rfl (hpush name)

/-- A step changes no cell but the one that it writes to. -/
theorem get?_step_of_pushedCell?_ne {m : Machine config} {a : Nat} (h : m.pushedCell? ≠ some a) :
    m.step.machine.memory.get? a = m.memory.get? a := by
  rcases hcompleted : m.completed? with _ | i
  · rw [machine_step_of_completed?_eq_none hcompleted]
    rfl
  · refine get?_step_of_ne fun name hcode _ ha => h ?_
    rw [ha]
    obtain rfl := Memory.eq_of_holds_encode (completed?_eq_some hcompleted).2 hcode
    rw [pushedCell?, hcompleted]

theorem writtenWithin_succ (m : Machine config) (n : Nat) :
    m.writtenWithin (n + 1) = m.writtenWithin n ++ (m.afterSteps n).pushedCell?.toList := by
  rw [writtenWithin, beforeSteps_succ, List.filterMap_append]
  rfl

theorem mem_writtenWithin_succ {m : Machine config} {n a : Nat} :
    a ∈ m.writtenWithin (n + 1) ↔
      a ∈ m.writtenWithin n ∨ (m.afterSteps n).pushedCell? = some a := by
  rw [writtenWithin_succ, List.mem_append, Option.mem_toList]

theorem lt_of_mem_writtenWithin {m : Machine config} {n a : Nat} (h : a ∈ m.writtenWithin n) :
    a < config.memorySize := by
  obtain ⟨s, -, hs⟩ := List.mem_filterMap.mp h
  obtain ⟨name, value, -, -, hlt, -⟩ := get?_step_of_pushedCell? hs
  exact hlt

/-- Some steps change no cells but those that they write to. -/
theorem get?_afterSteps_of_not_mem {m : Machine config} {n a : Nat}
    (h : a ∉ m.writtenWithin n) : (m.afterSteps n).memory.get? a = m.memory.get? a := by
  induction n with
  | zero => rfl
  | succ n ih =>
    rw [mem_writtenWithin_succ, not_or] at h
    rw [afterSteps, get?_step_of_pushedCell?_ne h.2, ih h.1]

/-! ## What two machines have in common -/

/-- Two machines have all in common that their programs work on, but of memory only some cells. -/
structure AgreeOn (cells : Set Nat) (m : Machine config) (m' : Machine config') : Prop where
  registers : m'.registers = m.registers
  pc : m'.pc = m.pc
  output : m'.output = m.output
  interruptPending : m'.interruptPending = m.interruptPending
  memory : ∀ a ∈ cells, m'.memory.get? a = m.memory.get? a

theorem AgreeOn.mono {cells cells' : Set Nat} {m : Machine config} {m' : Machine config'}
    (h : m.AgreeOn cells m') (hsubset : ∀ a ∈ cells', a ∈ cells) : m.AgreeOn cells' m' :=
  ⟨h.registers, h.pc, h.output, h.interruptPending, fun a ha => h.memory a (hsubset a ha)⟩

/-- Two machines have in common the cells that the next step reads of the smaller memory. -/
def AgreeOnReads (m : Machine config) (m' : Machine config') : Prop :=
  ∀ a ∈ m.reads, a < config.memorySize → m'.memory.get? a = m.memory.get? a

section

variable {m : Machine config} {m' : Machine config'}

theorem AgreeOnReads.holds {i : Instruction} (h : m.AgreeOnReads m') (hpc : m'.pc = m.pc)
    (hcode : m.memory.Holds m.pc i.encode) : m'.memory.Holds m'.pc i.encode := by
  rw [hpc]
  refine hcode.congr fun a hlo hhi => h a (mem_reads_of_holds hcode hlo hhi) ?_
  obtain ⟨k, rfl⟩ : ∃ k, a = m.pc + k := ⟨a - m.pc, by omega⟩
  exact hcode.lt (by omega)

theorem AgreeOnReads.opcode {byte : UInt8} (h : m.AgreeOnReads m') (hpc : m'.pc = m.pc)
    (hbyte : m.memory.get? m.pc = some byte) : m'.memory.get? m'.pc = some byte := by
  rw [hpc, h m.pc m.pc_mem_reads (Memory.lt_of_get? hbyte), hbyte]

theorem AgreeOnReads.top {name v : UInt8} (h : m.AgreeOnReads m')
    (hregisters : m'.registers = m.registers)
    (hcode : m.memory.Holds m.pc (Instruction.pop name).encode)
    (htop : m.memory.get? (m.registers.read 7).toNat = some v) :
    m'.memory.get? (m'.registers.read 7).toNat = some v := by
  rw [hregisters, h _ (stackPointer_mem_reads hcode) (Memory.lt_of_get? htop), htop]

theorem pushAddress_congr (h : m'.registers = m.registers) : m'.pushAddress = m.pushAddress := by
  unfold pushAddress
  rw [h]

/-- The rule that applies is a matter of the cells that the step reads. A larger memory makes a
difference only where the smaller one has no cell. -/
theorem Rule.of_reads {r : Except Fault Step} {e : Effect} (hrule : Rule m r e)
    (hregisters : m'.registers = m.registers) (hpc : m'.pc = m.pc)
    (hproduct : config'.product = config.product)
    (hsize : config.memorySize ≤ config'.memorySize) (hreads : m.AgreeOnReads m')
    (hbounds : config'.memorySize = config.memorySize ∨
      ∀ address size, r ≠ .error (.outOfBounds address size)) :
    ∃ e', Rule m' r e' ∧ e'.length = e.length ∧ e'.registers = e.registers ∧
      e'.lines = e.lines := by
  have hread : m'.registers.read = m.registers.read := congrArg _ hregisters
  have hpush := pushAddress_congr hregisters
  -- where a rule reports a missing cell, the memories are equally large
  have heq : ∀ {address size : Nat}, r = .error (.outOfBounds address size) →
      config'.memorySize = config.memorySize :=
    fun hr => hbounds.resolve_right fun hne => hne _ _ hr
  cases hrule with
  | outside hout =>
    rw [← heq rfl, ← hpc] at hout ⊢
    exact ⟨_, .outside hout, rfl, hread, rfl⟩
  | unknown hbyte hop => exact ⟨_, .unknown (hreads.opcode hpc hbyte) hop, rfl, hread, rfl⟩
  | operandMissing hbyte hop hk hin hout =>
    have hbyte' := hreads.opcode hpc hbyte
    rw [← heq rfl, ← hpc] at hin hout ⊢
    exact ⟨_, .operandMissing hbyte' hop hk hin hout, rfl, hread, rfl⟩
  | hlt hcode => exact ⟨_, .hlt (hreads.holds (i := .hlt) hpc hcode), rfl, hread, rfl⟩
  | ldi hcode hr =>
    refine ⟨_, .ldi (hreads.holds (i := .ldi _ _) hpc hcode) hr, rfl, ?_, rfl⟩
    rw [hread]
  | ldiRegister hcode hr =>
    exact ⟨_, .ldiRegister (hreads.holds (i := .ldi _ _) hpc hcode) hr, rfl, hread, rfl⟩
  | prn hcode hr =>
    refine ⟨_, .prn (hreads.holds (i := .prn _) hpc hcode) hr, rfl, hread, ?_⟩
    rw [hread]
  | prnRegister hcode hr =>
    exact ⟨_, .prnRegister (hreads.holds (i := .prn _) hpc hcode) hr, rfl, hread, rfl⟩
  | mulPrint hcode hmode ha hb =>
    refine ⟨_, .mulPrint (hreads.holds (i := .mul _ _) hpc hcode) (hproduct.trans hmode) ha hb,
      rfl, hread, ?_⟩
    rw [hread]
  | mulStore hcode hmode ha hb =>
    refine ⟨_, .mulStore (hreads.holds (i := .mul _ _) hpc hcode) (hproduct.trans hmode) ha hb,
      rfl, ?_, ?_⟩
    · rw [hread]
    · rw [hread]
  | mulLeft hcode ha =>
    exact ⟨_, .mulLeft (hreads.holds (i := .mul _ _) hpc hcode) ha, rfl, hread, rfl⟩
  | mulRight hcode ha hb =>
    exact ⟨_, .mulRight (hreads.holds (i := .mul _ _) hpc hcode) ha hb, rfl, hread, rfl⟩
  | push hcode hr htop =>
    refine ⟨_, .push (hreads.holds (i := .push _) hpc hcode) hr (by omega), rfl, ?_, rfl⟩
    rw [hread, hpush]
  | pushRegister hcode hr =>
    exact ⟨_, .pushRegister (hreads.holds (i := .push _) hpc hcode) hr, rfl, hread, rfl⟩
  | pushOutside hcode hr htop =>
    rw [← heq rfl, ← hpush] at htop ⊢
    exact ⟨_, .pushOutside (hreads.holds (i := .push _) hpc hcode) hr htop, rfl, hread, rfl⟩
  | pop hcode htop hr =>
    refine ⟨_, .pop (hreads.holds (i := .pop _) hpc hcode)
      (hreads.top hregisters hcode htop) hr, rfl, ?_, rfl⟩
    rw [hread]
  | popStackPointer hcode htop =>
    have hpop : m.memory.Holds m.pc (Instruction.pop 7).encode := hcode
    refine ⟨_, .popStackPointer (hreads.holds hpc hpop) (hreads.top hregisters hpop htop), rfl, ?_,
      rfl⟩
    rw [hread]
  | popOutside hcode htop =>
    rw [← heq rfl, ← hregisters] at htop ⊢
    exact ⟨_, .popOutside (hreads.holds (i := .pop _) hpc hcode) htop, rfl, hread, rfl⟩
  | popRegister hcode htop hr =>
    refine ⟨_, .popRegister (hreads.holds (i := .pop _) hpc hcode) ?_ hr, rfl, hread, rfl⟩
    rw [hread]
    omega

/-! ## Lockstep -/

theorem pushedCell?_congr (hregisters : m'.registers = m.registers)
    (hcompleted : m'.completed? = m.completed?) : m'.pushedCell? = m.pushedCell? := by
  unfold pushedCell?
  rw [hcompleted, pushAddress_congr hregisters]

/-- Two machines that complete the same push put the value of the same register into the cell. -/
theorem get?_step_congr {a : Nat} (hregisters : m'.registers = m.registers)
    (hcompleted : m'.completed? = m.completed?) (hcell : m.pushedCell? = some a) :
    m'.step.machine.memory.get? a = m.step.machine.memory.get? a := by
  have hpushed := pushedCell?_congr hregisters hcompleted
  obtain ⟨name, value, hname, hvalue, -, hget⟩ := get?_step_of_pushedCell? hcell
  obtain ⟨name', value', hname', hvalue', -, hget'⟩ :=
    get?_step_of_pushedCell? (hpushed.trans hcell)
  rw [hcompleted, hname] at hname'
  cases hname'
  rw [hregisters, hvalue] at hvalue'
  cases hvalue'
  rw [hget, hget']

/-- Two machines that agree on what the next step reads complete the same instruction, if the step
ends in the same way. -/
theorem AgreeOnReads.completed?_eq (h : m.AgreeOnReads m') (hpc : m'.pc = m.pc)
    (hresult : m'.step.result = m.step.result) : m'.completed? = m.completed? := by
  by_cases hcontinued : m.step.result = .ok .continued
  · obtain ⟨i, hi⟩ := exists_completed_of_continued hcontinued
    have hcode := h.holds hpc (completed?_eq_some hi).2
    rw [hi, completed?_of_continued (hresult.trans hcontinued) hcode]
  · rw [completed?_of_not_continued hcontinued,
      completed?_of_not_continued (hresult ▸ hcontinued)]

/-- Where two machines agree on what the next step reads, the step ends in the same way, writes to
the same cell, and leaves machines that agree on this cell as well. -/
theorem AgreeOn.step {cells : Set Nat} (h : m.AgreeOn cells m')
    (hproduct : config'.product = config.product)
    (hsize : config.memorySize ≤ config'.memorySize) (hreads : m.AgreeOnReads m')
    (hbounds : config'.memorySize = config.memorySize ∨
      ∀ address size, m.step.result ≠ .error (.outOfBounds address size)) :
    m'.step.result = m.step.result ∧ m'.pushedCell? = m.pushedCell? ∧
      m.step.machine.AgreeOn (cells ∪ {a | m.pushedCell? = some a}) m'.step.machine := by
  obtain ⟨r, e, hrule⟩ := m.exists_rule
  obtain ⟨rfl, hafter⟩ := hrule.does
  obtain ⟨e', hrule', hlength, hregisters, hlines⟩ :=
    hrule.of_reads h.registers h.pc hproduct hsize hreads hbounds
  obtain ⟨hresult, hafter'⟩ := hrule'.does
  have hcompleted := hreads.completed?_eq h.pc hresult
  have hpushed := pushedCell?_congr h.registers hcompleted
  refine ⟨hresult, hpushed, ?_, ?_, ?_, ?_, fun a ha => ?_⟩
  · refine Registers.ext_read fun name => ?_
    rw [hafter.registers, hafter'.registers, hregisters]
  · rw [hafter.pc, hafter'.pc, hlength, h.pc]
  · rw [hafter.output, hafter'.output, hlines, h.output]
  · rw [hafter.interruptPending, hafter'.interruptPending, h.interruptPending]
  · by_cases hcell : m.pushedCell? = some a
    · exact get?_step_congr h.registers hcompleted hcell
    · rw [get?_step_of_pushedCell?_ne hcell, get?_step_of_pushedCell?_ne (hpushed ▸ hcell),
        h.memory a (ha.resolve_right hcell)]

/-- Where two machines agree on what the next step reads, it stops both or none. -/
theorem AgreeOn.stop?_eq {cells : Set Nat} (h : m.AgreeOn cells m')
    (hproduct : config'.product = config.product)
    (hsize : config.memorySize ≤ config'.memorySize) (hreads : m.AgreeOnReads m')
    (hbounds : config'.memorySize = config.memorySize ∨
      ∀ address size pc, m.stop? ≠ some (.faulted (.outOfBounds address size) pc)) :
    m'.stop? = m.stop? := by
  have hbounds' : config'.memorySize = config.memorySize ∨
      ∀ address size, m.step.result ≠ .error (.outOfBounds address size) := by
    refine hbounds.imp_right fun hne address size hresult => hne address size m.pc ?_
    rw [stop?, hresult]
  obtain ⟨hresult, -, -⟩ := h.step hproduct hsize hreads hbounds'
  rw [stop?, stop?, hresult, h.pc]

theorem AgreeOn.recorded {cells : Set Nat} (h : m.AgreeOn cells m') :
    m.recorded.AgreeOn cells m'.recorded :=
  ⟨h.registers, h.pc, h.output, h.interruptPending, h.memory⟩

theorem readsFirst_mono {n k a : Nat} (h : m.ReadsFirst n a) (hle : n ≤ k) : m.ReadsFirst k a := by
  obtain ⟨i, hi, hread, hfirst⟩ := h
  exact ⟨i, Nat.lt_of_lt_of_le hi hle, hread, hfirst⟩

/-- What a step reads was there at the beginning or has been written since. -/
theorem AgreeOn.agreeOnReads {cells : Set Nat} {n : Nat} {s : Machine config'}
    (h : (m.afterSteps n).AgreeOn (cells ∪ {a | a ∈ m.writtenWithin n}) s)
    (hcells : ∀ a, m.ReadsFirst (n + 1) a → a < config.memorySize → a ∈ cells) :
    (m.afterSteps n).AgreeOnReads s := by
  intro a ha hlt
  refine h.memory a ?_
  by_cases hwritten : a ∈ m.writtenWithin n
  · exact Or.inr hwritten
  · exact Or.inl (hcells a ⟨n, Nat.lt_succ_self n, ha, hwritten⟩ hlt)

/-- Two machines that agree on what some steps read first take these steps in lockstep. -/
theorem AgreeOn.afterSteps {cells : Set Nat} {n : Nat} (h : m.AgreeOn cells m')
    (hproduct : config'.product = config.product)
    (hsize : config.memorySize ≤ config'.memorySize)
    (hcells : ∀ a, m.ReadsFirst n a → a < config.memorySize → a ∈ cells)
    (hcontinued : ∀ i < n, (m.afterSteps i).step.result = .ok .continued) :
    (m.afterSteps n).AgreeOn (cells ∪ {a | a ∈ m.writtenWithin n}) (m'.afterSteps n) ∧
      m'.writtenWithin n = m.writtenWithin n ∧
      ∀ i < n, (m'.afterSteps i).step.result = .ok .continued := by
  induction n with
  | zero =>
    refine ⟨h.mono fun a ha => ha.resolve_right List.not_mem_nil, rfl, fun i hi => ?_⟩
    exact absurd hi (Nat.not_lt_zero i)
  | succ n ih =>
    obtain ⟨hagree, hwritten, hcontinued'⟩ :=
      ih (fun a ha => hcells a (readsFirst_mono ha (Nat.le_succ n))) fun i hi =>
        hcontinued i (by omega)
    have hlast := hcontinued n (Nat.lt_succ_self n)
    obtain ⟨hresult, hpushed, hstep⟩ :=
      hagree.step hproduct hsize (hagree.agreeOnReads hcells) (Or.inr (by simp [hlast]))
    refine ⟨?_, ?_, fun i hi => ?_⟩
    · refine hstep.mono fun a ha => ?_
      rcases ha with ha | ha
      · exact Or.inl (Or.inl ha)
      · rcases mem_writtenWithin_succ.mp ha with ha | ha
        · exact Or.inl (Or.inr ha)
        · exact Or.inr ha
    · rw [writtenWithin_succ, writtenWithin_succ, hwritten, hpushed]
    · rcases Nat.lt_succ_iff_lt_or_eq.mp hi with hlt | rfl
      · exact hcontinued' i hlt
      · exact hresult.trans hlast

/-- Two machines that agree on what a run reads first end it in the same way, unless one of them has
a larger memory and the other runs out of its own. -/
theorem AgreeOn.runSlice {cells : Set Nat} {budget : Nat} (h : m.AgreeOn cells m')
    (hproduct : config'.product = config.product)
    (hsize : config.memorySize ≤ config'.memorySize)
    (hcells : ∀ a, m.ReadsFirst (m.runSlice budget).exit.attempts a → a < config.memorySize →
      a ∈ cells)
    (hbounds : config'.memorySize = config.memorySize ∨
      ∀ address size pc,
        (m.runSlice budget).exit.reason ≠ .faulted (.outOfBounds address size) pc) :
    (m'.runSlice budget).exit = (m.runSlice budget).exit ∧
      (m.runSlice budget).machine.AgreeOn
        (cells ∪ {a | a ∈ m.writtenWithin (m.runSlice budget).exit.executed})
        (m'.runSlice budget).machine ∧
      m'.writtenWithin (m.runSlice budget).exit.executed =
        m.writtenWithin (m.runSlice budget).exit.executed := by
  rcases hpending : m.interruptPending with _ | _
  · have hpending' : m'.interruptPending = false := h.interruptPending.trans hpending
    obtain ⟨s, hcontinues, hends⟩ := follows_runSlice (Or.inl hpending : _ ∨ budget = 0)
    obtain rfl := hcontinues.eq_afterSteps
    have hle := executed_le_attempts (m.runSlice budget).exit
    obtain ⟨hagree, hwritten, hcontinued'⟩ :=
      h.afterSteps hproduct hsize (fun a ha => hcells a (readsFirst_mono ha hle))
        hcontinues.continued
    have hcontinues' := continues_afterSteps hcontinued'
    rcases hends with ⟨hcount, hreason, hmachine⟩ | ⟨hlt, hstop, hmachine⟩
    · obtain ⟨hexit', hmachine'⟩ :=
        Follows.runSlice_eq ⟨hcontinues', Or.inl ⟨hcount, hreason, rfl⟩⟩ hpending'
      rw [hexit', hmachine', hmachine]
      exact ⟨rfl, hagree, hwritten⟩
    · -- the step that stops one machine reads what both have in common, so it stops the other
      rw [attempts_of_stop hstop] at hcells
      have hbounds' := hbounds.imp_right fun hne address size pc hsome =>
        hne address size pc (Option.some.inj (hstop.symm.trans hsome))
      have hstop' := hagree.stop?_eq hproduct hsize (hagree.agreeOnReads hcells) hbounds'
      obtain ⟨hexit', hmachine'⟩ :=
        Follows.runSlice_eq ⟨hcontinues', Or.inr ⟨hlt, hstop'.trans hstop, rfl⟩⟩ hpending'
      rw [hexit', hmachine', hmachine]
      exact ⟨rfl, hagree.recorded, hwritten⟩
  · -- no step is taken
    have hcells' : ∀ a ∈ cells ∪ {a | a ∈ m.writtenWithin 0}, a ∈ cells :=
      fun a ha => ha.resolve_right List.not_mem_nil
    by_cases hbudget : budget = 0
    · rw [hbudget]
      exact ⟨rfl, h.mono hcells', rfl⟩
    · rw [runSlice_of_pending hpending hbudget,
        runSlice_of_pending (h.interruptPending.trans hpending) hbudget]
      exact ⟨rfl, ⟨h.registers, h.pc, h.output, rfl, (h.mono hcells').memory⟩, rfl⟩

/-- A run changes no cells but those that it writes to. -/
theorem get?_runSlice_of_not_mem {budget a : Nat}
    (h : a ∉ m.writtenWithin (m.runSlice budget).exit.executed) :
    (m.runSlice budget).machine.memory.get? a = m.memory.get? a := by
  have hcore := (m.attempts_runSlice budget).core_eq
  have hmemory : (m.runSlice budget).machine.memory =
      (m.afterSteps (m.runSlice budget).exit.executed).memory :=
    congrArg (fun c => c.store.memory) hcore
  rw [hmemory, get?_afterSteps_of_not_mem h]

end

/-! ## A run depends on what it reads first -/

/-- Take any machine and any budget, and a second machine with a memory of the same size and the
same product mode that agrees with the first on the registers, the program counter, the output, the
interrupt flag and the cells that the run of the first one reads before it has written to them. Then
both runs end with the same exit, the same registers, program counter and output. Their memories
agree on the cells that were read first and on those that were written, which are the same in both,
and every other cell keeps what it had in its own machine. -/
theorem runSlice_of_agreeOn_readsFirst (m : Machine config) (m' : Machine config') (budget : Nat)
    (hsize : config'.memorySize = config.memorySize)
    (hproduct : config'.product = config.product)
    (hagree : m.AgreeOn {a | m.ReadsFirst (m.runSlice budget).exit.attempts a} m') :
    let r := m.runSlice budget
    let r' := m'.runSlice budget
    let first := {a | m.ReadsFirst r.exit.attempts a}
    let written := m.writtenWithin r.exit.executed
    r'.exit = r.exit ∧ r.machine.AgreeOn (first ∪ {a | a ∈ written}) r'.machine ∧
      m'.writtenWithin r'.exit.executed = written ∧
      ∀ a ∉ written, r.machine.memory.get? a = m.memory.get? a ∧
        r'.machine.memory.get? a = m'.memory.get? a := by
  intro r r' first written
  obtain ⟨hexit, hafter, hwritten⟩ :=
    hagree.runSlice hproduct (Nat.le_of_eq hsize.symm) (fun a ha _ => ha) (Or.inl hsize)
  have hwritten' : m'.writtenWithin r'.exit.executed = written := by
    rw [hexit]
    exact hwritten
  refine ⟨hexit, hafter, hwritten', fun a ha => ?_⟩
  have ha' : a ∉ m'.writtenWithin r'.exit.executed := by
    rw [hwritten']
    exact ha
  exact ⟨get?_runSlice_of_not_mem ha, get?_runSlice_of_not_mem ha'⟩

/-- A machine whose program pushes a halt instruction right behind itself, over whatever `rest` has
there. -/
def haltPusher (valid : config.Valid) (rest : List UInt8) : Machine config where
  valid
  store := ⟨(Memory.zeroed config.memorySize).overlay 0 ([130, 0, 1, 69, 0] ++ rest),
    Registers.zeroed.write 7 6⟩
  pc := 0
  output := []
  snapshots := []
  interruptPending := false

/-- The settings of a machine with eight cells. -/
def fewCells : Config := ⟨8, 6, .store, false⟩

theorem fewCells_valid : fewCells.Valid :=
  ⟨by decide, by decide, by decide⟩

/-- What an earlier program has left in the last three cells makes no difference to `haltPusher`,
though it runs the first of them after it has written to it. The others stay. -/
theorem runSlice_of_agreeOn_readsFirst_haltPusher :
    let m := haltPusher fewCells_valid []
    let m' := haltPusher fewCells_valid [71, 69, 70]
    m.memory.get? 5 = some 0 ∧ m'.memory.get? 5 = some 71 ∧
      (m'.runSlice 10).exit = ⟨.halted, 2⟩ ∧
      (m'.runSlice 10).machine.memory.get? 5 = (m.runSlice 10).machine.memory.get? 5 ∧
      (m'.runSlice 10).machine.memory.get? 6 = some 69 := by
  intro m m'
  have hexit : (m.runSlice 10).exit = ⟨.halted, 2⟩ := by decide +kernel
  have hreads : ∀ i < 3, ∀ a ∈ (m.afterSteps i).reads, a ∉ m.writtenWithin i →
      m'.memory.get? a = m.memory.get? a := by decide +kernel
  have hagree : m.AgreeOn {a | m.ReadsFirst (m.runSlice 10).exit.attempts a} m' := by
    refine ⟨rfl, rfl, rfl, rfl, ?_⟩
    rintro a ⟨i, hi, hread, hfirst⟩
    rw [hexit] at hi
    exact hreads i hi a hread hfirst
  obtain ⟨hexit', hafter, -, hkeep⟩ := runSlice_of_agreeOn_readsFirst m m' 10 rfl rfl hagree
  have hwritten : m.writtenWithin (m.runSlice 10).exit.executed = [5] := by
    rw [hexit]
    decide +kernel
  have h5 : 5 ∈ m.writtenWithin (m.runSlice 10).exit.executed := by
    rw [hwritten]
    exact List.mem_singleton_self 5
  have h6 : 6 ∉ m.writtenWithin (m.runSlice 10).exit.executed := by
    rw [hwritten]
    decide
  refine ⟨by decide +kernel, by decide +kernel, hexit'.trans hexit, hafter.memory 5 (Or.inr h5), ?_⟩
  rw [(hkeep 6 h6).2]
  decide +kernel

/-! ## Larger memories -/

/-- Take any machine and any budget, and a second machine with at least as much memory and the same
product mode that agrees with the first on the registers, the program counter, the output, the
interrupt flag and all cells that the first one has. Unless the run of the first one leaves its
memory, both runs end with the same exit, the same registers, program counter, output and cells as
far as the first memory goes, and the cells beyond stay as they were. -/
theorem runSlice_of_larger_memory (m : Machine config) (m' : Machine config') (budget : Nat)
    (hsize : config.memorySize ≤ config'.memorySize)
    (hproduct : config'.product = config.product)
    (hagree : m.AgreeOn {a | a < config.memorySize} m')
    (hbounds : ∀ address size pc,
      (m.runSlice budget).exit.reason ≠ .faulted (.outOfBounds address size) pc) :
    let r := m.runSlice budget
    let r' := m'.runSlice budget
    r'.exit = r.exit ∧ r.machine.AgreeOn {a | a < config.memorySize} r'.machine ∧
      ∀ a, config.memorySize ≤ a → r'.machine.memory.get? a = m'.memory.get? a := by
  intro r r'
  obtain ⟨hexit, hafter, hwritten⟩ :=
    hagree.runSlice hproduct hsize (fun a _ hlt => hlt) (Or.inr hbounds)
  refine ⟨hexit, hafter.mono fun a ha => Or.inl ha, fun a ha => get?_runSlice_of_not_mem ?_⟩
  -- what the second machine writes to, the first one has
  intro hmem
  rw [hexit, hwritten] at hmem
  have hlt := lt_of_mem_writtenWithin hmem
  omega

/-- The settings of a machine with all the cells that a byte can address. -/
def manyCells : Config := { fewCells with memorySize := 256 }

theorem manyCells_valid : manyCells.Valid :=
  ⟨by decide, by decide, by decide⟩

/-- With eight cells `haltPusher` does what it does with 256. -/
theorem runSlice_of_larger_memory_haltPusher :
    let m := haltPusher fewCells_valid []
    let m' := haltPusher manyCells_valid [0, 0, 0, 71]
    (m.runSlice 10).exit = ⟨.halted, 2⟩ ∧ (m'.runSlice 10).exit = ⟨.halted, 2⟩ ∧
      (m'.runSlice 10).machine.memory.get? 5 = (m.runSlice 10).machine.memory.get? 5 ∧
      (m'.runSlice 10).machine.memory.get? 8 = some 71 := by
  intro m m'
  have hexit : (m.runSlice 10).exit = ⟨.halted, 2⟩ := by decide +kernel
  have hcells : ∀ a < 8, m'.memory.get? a = m.memory.get? a := by decide +kernel
  have hbounds : ∀ address size pc,
      (m.runSlice 10).exit.reason ≠ .faulted (.outOfBounds address size) pc := by
    intro address size pc
    rw [hexit]
    nofun
  obtain ⟨hexit', hafter, hbeyond⟩ := runSlice_of_larger_memory m m' 10 (by decide) rfl
    ⟨rfl, rfl, rfl, rfl, hcells⟩ hbounds
  refine ⟨hexit, hexit'.trans hexit, hafter.memory 5 (by decide : 5 < 8), ?_⟩
  rw [hbeyond 8 (by decide)]
  decide +kernel

end Machine

end EightBit
