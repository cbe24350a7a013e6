import EightBit.Proofs.Attempts
import Mathlib.Data.List.Forall2

/-!
# The records of a run

A run leaves four records of what it did: its exit, the snapshots, the log and the output. They are
written in different places, each a little earlier or later in a step than the others, and they
agree (`runSlice_records`). Each is written by the single steps, so it is enough to know what a
step adds to it:

* a snapshot before anything else, so one for each attempt (`snapshots_step`);
* an event once the instruction is decoded, so one for each attempt but a last one that meets no
  instruction (`exists_announces`, `stopsDecoded_iff`);
* a line when the instruction is completed, if it prints one (`output_step`), with the text that
  the rule of the instruction gives (`exists_effects`).

The exit counts the completed instructions, and the log ends with an event that repeats it
(`events_runSlice`), field by field (`Attempts.toldBy`).
-/

namespace EightBit

/-- The line that an instruction prints from some registers. Only two instructions print. -/
def Instruction.line? (registers : Registers) : Instruction → Option Line
  | .prn register =>
    match registers.get register with
    | .ok value => some (.value value)
    | .error _ => none
  | .mul left right =>
    match registers.get left, registers.get right with
    | .ok x, .ok y => some (.product (x.toNat * y.toNat))
    | _, _ => none
  | .hlt | .ldi .. | .push _ | .pop _ => none

/-- What the log learns at the end of a run that leaves the program counter at `pc`: a record that
repeats the exit, unless the budget was used up. The exit of a program that stopped at a byte or
failed names the same program counter. -/
inductive Exit.ToldBy : Exit → Nat → List Log.Record → Prop where
  | completed {pc executed : Nat} : ToldBy ⟨.completed, executed⟩ pc []
  | interrupted {pc executed : Nat} :
      ToldBy ⟨.interrupted, executed⟩ pc
        [⟨.debug, "ls8_machine::machine", "interrupted",
          [("pc", .number pc), ("executed", .number executed)]⟩]
  | halted {pc executed : Nat} :
      ToldBy ⟨.halted, executed⟩ pc
        [⟨.debug, "ls8_machine::machine", "halted",
          [("pc", .number pc), ("executed", .number executed)]⟩]
  | unknownOpcode {byte : UInt8} {pc executed : Nat} :
      ToldBy ⟨.unknownOpcode byte pc, executed⟩ pc
        [⟨.warn, "ls8_machine::machine", "unknown opcode; stopping",
          [("pc", .number pc), ("opcode", .number byte.toNat)]⟩]
  | outOfBounds {address size pc executed : Nat} :
      ToldBy ⟨.faulted (.outOfBounds address size) pc, executed⟩ pc
        [⟨.debug, "ls8_machine::machine", "fault",
          [("pc", .number pc), ("executed", .number executed),
           ("fault", .plain ("memory access out of bounds (addr=" ++
             ("0x" ++ String.ofList ((Nat.toDigits 16 address).leftpad 2 '0')) ++
             ", size=" ++ toString size ++ ")"))]⟩]
  | invalidRegister {index : UInt8} {pc executed : Nat} :
      ToldBy ⟨.faulted (.invalidRegister index) pc, executed⟩ pc
        [⟨.debug, "ls8_machine::machine", "fault",
          [("pc", .number pc), ("executed", .number executed),
           ("fault", .plain ("invalid register index " ++ toString index.toNat ++
             " (expected 0..=7)"))]⟩]

/-- An exit that the log was told of names the program counter of the run, if it names one. -/
theorem Exit.ToldBy.pc_eq {e : Exit} {pc : Nat} {records : List Log.Record}
    (h : e.ToldBy pc records) :
    (∀ byte pc', e.reason = .unknownOpcode byte pc' → pc' = pc) ∧
      ∀ fault pc', e.reason = .faulted fault pc' → pc' = pc := by
  cases h <;> simp [eq_comm]

/-- The event at the end of a run that leaves the program counter at `pc`, unless the budget was
used up. -/
def Exit.event? (e : Exit) (pc : Nat) : Option Event :=
  match e.reason with
  | .completed => none
  | .halted => some (.halted pc e.executed)
  | .unknownOpcode byte _ => some (.unknownOpcode pc byte)
  | .faulted fault _ => some (.faulted pc e.executed fault)
  | .interrupted => some (.interrupted pc e.executed)

namespace Machine

variable {config : Config}

/-- The line that the next step prints: that of the instruction which it completes, if any. -/
def printed? (m : Machine config) : Option Line :=
  m.completed?.bind (·.line? m.registers)

/-- The opcode bytes with their names in assembly text. -/
def assemblyNames : List (UInt8 × String) :=
  [(0b00000001, "HLT"), (0b10000010, "LDI"), (0b01000111, "PRN"), (0b10100010, "MUL"),
    (0b01000101, "PUSH"), (0b01000110, "POP")]

/-- An event tells which instruction stands at the program counter, by the name of its opcode and by
its operand bytes as they are in memory. A missing operand is told as 0. -/
def Announces (m : Machine config) (event : Event) : Prop :=
  ∃ (byte : UInt8) (name : String) (operands : List UInt8),
    (byte, operands.length) ∈ instructionFormats ∧ (byte, name) ∈ assemblyNames ∧
    m.memory.Holds m.pc (byte :: operands) ∧
    event.record = ⟨.trace, "ls8_machine::machine", "dispatch",
      [("pc", .number m.pc), ("op", .quoted name),
       ("a", .number (operands.getD 0 0).toNat), ("b", .number (operands.getD 1 0).toNat)]⟩

/-- A reason for the program to stop at an instruction that was decoded: it halts, it names a
register that does not exist, or its place on the stack lies outside memory. -/
inductive StopsDecoded (m : Machine config) : Stop → Prop where
  | halted : StopsDecoded m .halted
  | register {name : UInt8} : StopsDecoded m (.faulted (.invalidRegister name) m.pc)
  | push {name : UInt8} (hcode : m.memory.Holds m.pc (Instruction.push name).encode) :
      StopsDecoded m (.faulted (.outOfBounds m.pushAddress config.memorySize) m.pc)
  | pop {name : UInt8} (hcode : m.memory.Holds m.pc (Instruction.pop name).encode) :
      StopsDecoded m
        (.faulted (.outOfBounds (m.registers.read 7).toNat config.memorySize) m.pc)

/-! ## What a step adds -/

theorem snapshots_step (m : Machine config) :
    m.step.machine.snapshots = m.snapshots ++ if config.tracing then [m.snapshot] else [] := by
  obtain ⟨r, e, hrule⟩ := m.exists_rule
  exact hrule.does.2.snapshots

/-- The lines of a rule are those of the instruction that it is about. -/
theorem Rule.lines_eq {m : Machine config} {r : Except Fault Step} {e : Effect}
    (h : Rule m r e) : e.lines = m.printed?.toList := by
  have hresult : m.step.result = r := h.does.1
  -- a step completes nothing unless it continues
  have hnone : m.step.result ≠ .ok .continued → m.printed? = none := by
    intro hne
    rw [printed?, completed?_of_not_continued hne]
    rfl
  have hsome : ∀ i : Instruction, m.step.result = .ok .continued →
      m.memory.Holds m.pc i.encode → m.printed? = i.line? m.registers := by
    intro i hcontinued hcode
    rw [printed?, completed?_of_continued hcontinued hcode]
    rfl
  cases h with
  | @ldi name v hcode => rw [hsome (.ldi name v) hresult hcode]; rfl
  | @prn name hcode hr =>
    rw [hsome (.prn name) hresult hcode, Instruction.line?, m.registers.get_of_lt hr]
    rfl
  | @mulPrint a b hcode _ ha hb | @mulStore a b hcode _ ha hb =>
    rw [hsome (.mul a b) hresult hcode, Instruction.line?, m.registers.get_of_lt ha,
      m.registers.get_of_lt hb]
    rfl
  | @push name hcode => rw [hsome (.push name) hresult hcode]; rfl
  | @pop name v hcode => rw [hsome (.pop name) hresult hcode]; rfl
  | popStackPointer hcode => rw [hsome (.pop 7) hresult hcode]; rfl
  | _ => rw [hnone (by rw [hresult]; simp)]; rfl

theorem output_step (m : Machine config) :
    m.step.machine.output = m.output ++ m.printed?.toList := by
  obtain ⟨r, e, hrule⟩ := m.exists_rule
  rw [hrule.does.2.output, hrule.lines_eq]

/-- The event of an instruction tells which one it is. -/
theorem announces_dispatch {m : Machine config} {i : Instruction}
    (hcode : m.memory.Holds m.pc i.encode) : m.Announces (.dispatch m.pc i) := by
  refine ⟨i.opcode.byte, i.opcode.mnemonic, i.operands, ?_, ?_, hcode, rfl⟩
  · exact mem_instructionFormats_iff.mpr ⟨i.opcode, rfl, i.length_operands.symm⟩
  · cases i.opcode <;> decide

/-- A step that meets an instruction tells the log which one, and any other tells it nothing. -/
theorem exists_announces (m : Machine config) :
    (∃ i : Instruction, m.memory.Holds m.pc i.encode ∧ m.step.events = [.dispatch m.pc i]) ∨
      (∀ i : Instruction, ¬ m.memory.Holds m.pc i.encode) ∧ m.step.events = [] := by
  -- no instruction stands where something else is fetched
  have hnot : (∀ i, m.memory.fetch m.pc ≠ .ok (.instruction i)) →
      ∀ i : Instruction, ¬ m.memory.Holds m.pc i.encode :=
    fun hfetch i hcode => hfetch i (Memory.fetch_eq_instruction_iff.mpr hcode)
  rcases hfetch : m.memory.fetch m.pc with fault | ⟨i⟩ | byte
  · refine Or.inr ⟨hnot (by simp [hfetch]), ?_⟩
    rw [step_of_fetch_error hfetch]
  · refine Or.inl ⟨i, Memory.fetch_eq_instruction_iff.mp hfetch, ?_⟩
    rcases hexec : i.execute config.product m.store with fault | _ | ⟨store, line⟩
    · rw [step_of_execute_error hfetch hexec]
    · rw [step_of_halt hfetch hexec]
    · rw [step_of_proceed hfetch hexec]
  · refine Or.inr ⟨hnot (by simp [hfetch]), ?_⟩
    rw [step_of_unknown hfetch]

/-! ## Stops at an instruction -/

theorem not_outside_of_holds {m : Machine config} {i : Instruction}
    (hcode : m.memory.Holds m.pc i.encode) {k : Nat} (hk : k ≤ i.opcode.operandCount) :
    m.pc + k < config.memorySize := by
  have hlength : i.encode.length = 1 + i.opcode.operandCount := i.length_encode
  exact hcode.lt (by omega)

/-- The program stops at an instruction exactly for the reasons that need one. -/
theorem stopsDecoded_iff {m : Machine config} {stop : Stop} (h : m.stop? = some stop) :
    m.StopsDecoded stop ↔ ∃ i : Instruction, m.memory.Holds m.pc i.encode := by
  obtain ⟨r, e, hrule⟩ := m.exists_rule
  unfold stop? at h
  rw [hrule.does.1] at h
  constructor
  · intro hstops
    -- the reason leaves only rules about an instruction
    rcases hstops with _ | _ | hcode | hcode
    · cases hrule with
      | hlt hcode => exact ⟨.hlt, hcode⟩
      | _ => cases h
    · cases hrule with
      | @ldiRegister r v hcode _ => exact ⟨.ldi r v, hcode⟩
      | @prnRegister r hcode _ => exact ⟨.prn r, hcode⟩
      | @mulLeft a b hcode _ => exact ⟨.mul a b, hcode⟩
      | @mulRight a b hcode _ _ => exact ⟨.mul a b, hcode⟩
      | @pushRegister r hcode _ => exact ⟨.push r, hcode⟩
      | @popRegister r hcode _ _ => exact ⟨.pop r, hcode⟩
      | _ => cases h
    · exact ⟨_, hcode⟩
    · exact ⟨_, hcode⟩
  · rintro ⟨i, hcode⟩
    cases hrule with
    | outside hpc =>
      have hin := not_outside_of_holds hcode (Nat.zero_le _)
      omega
    | unknown hbyte hop =>
      rw [hcode.1] at hbyte
      exact absurd (mem_instructionFormats_iff.mpr ⟨i.opcode, Option.some.inj hbyte, rfl⟩) (hop _)
    | @operandMissing byte n k hbyte hop hk hin hout =>
      obtain ⟨op, rfl, rfl⟩ := mem_instructionFormats_iff.mp hop
      rw [hcode.1] at hbyte
      have hop' : i.opcode = op := by
        have hsome := Opcode.ofByte?_byte op
        rw [← Option.some.inj hbyte, Opcode.ofByte?_byte] at hsome
        exact Option.some.inj hsome
      have hin' := not_outside_of_holds hcode (hop' ▸ hk)
      omega
    | hlt => cases h; exact .halted
    | ldiRegister | prnRegister | mulLeft | mulRight | pushRegister | popRegister =>
      cases h
      exact .register
    | pushOutside hpush => cases h; exact .push hpush
    | popOutside hpop => cases h; exact .pop hpop
    | ldi | prn | mulPrint | mulStore | push | pop | popStackPointer => cases h

/-! ## What some steps add -/

theorem snapshots_afterSteps (m : Machine config) (n : Nat) :
    (m.afterSteps n).snapshots =
      m.snapshots ++ if config.tracing then (m.beforeSteps n).map snapshot else [] := by
  induction n with
  | zero => simp [afterSteps, beforeSteps]
  | succ n ih =>
    rw [afterSteps, snapshots_step, ih, beforeSteps_succ, List.map_append, List.append_assoc]
    split <;> rfl

theorem output_afterSteps (m : Machine config) (n : Nat) :
    (m.afterSteps n).output = m.output ++ (m.beforeSteps n).filterMap printed? := by
  induction n with
  | zero => simp [afterSteps, beforeSteps]
  | succ n ih =>
    rw [afterSteps, output_step, ih, beforeSteps_succ, List.filterMap_append, List.append_assoc]
    rfl

/-- Steps that continue move the program counter on. -/
theorem pc_afterSteps_lt {m : Machine config} {i j : Nat} (hij : i < j)
    (h : ∀ l < j, (m.afterSteps l).step.result = .ok .continued) :
    (m.afterSteps i).pc < (m.afterSteps j).pc := by
  induction j with
  | zero => omega
  | succ j ih =>
    have hstep : (m.afterSteps j).pc + 2 ≤ (m.afterSteps (j + 1)).pc :=
      (pc_step_of_continued (h j (by omega))).1
    rcases Nat.lt_succ_iff_lt_or_eq.mp hij with hlt | rfl
    · have hbefore := ih hlt fun l hl => h l (by omega)
      omega
    · omega

theorem pairwise_pc_beforeSteps {m : Machine config} {n : Nat}
    (h : ∀ l, l + 1 < n → (m.afterSteps l).step.result = .ok .continued) :
    ((m.beforeSteps n).map (·.pc)).Pairwise (· < ·) := by
  rw [beforeSteps, List.map_map, List.pairwise_map]
  refine List.pairwise_lt_range.imp_of_mem ?_
  intro i j _ hj hij
  rw [List.mem_range] at hj
  exact pc_afterSteps_lt hij fun l hl => h l (by omega)

/-- Steps that meet instructions tell the log one after the other which ones. -/
theorem forall₂_announces {states : List (Machine config)}
    (h : ∀ s ∈ states, ∃ i : Instruction, s.memory.Holds s.pc i.encode) :
    List.Forall₂ Announces states (states.flatMap (·.step.events)) := by
  induction states with
  | nil => exact .nil
  | cons s rest ih =>
    rw [List.forall_mem_cons] at h
    obtain ⟨⟨i, hcode⟩, hrest⟩ := h
    rcases s.exists_announces with ⟨j, hcode', hevents⟩ | ⟨hnot, -⟩
    · rw [List.flatMap_cons, hevents]
      exact .cons (announces_dispatch hcode') (ih hrest)
    · exact absurd hcode (hnot i)

/-- Steps that continue do what rules say, and what they print is what these say. -/
theorem exists_effects {m : Machine config} {n : Nat}
    (h : ∀ i < n, (m.afterSteps i).step.result = .ok .continued) :
    ∃ effects, List.Forall₂ (fun s e => Rule s (.ok .continued) e) (m.beforeSteps n) effects ∧
      (m.afterSteps n).outputBytes =
        m.outputBytes ++ (String.join (effects.map (·.text))).toByteArray := by
  induction n with
  | zero => exact ⟨[], .nil, ByteArray.append_empty.symm⟩
  | succ n ih =>
    obtain ⟨effects, hrules, hbytes⟩ := ih fun i hi => h i (by omega)
    obtain ⟨r, e, hrule⟩ := (m.afterSteps n).exists_rule
    obtain ⟨hresult, hafter⟩ := hrule.does
    rw [h n (Nat.lt_succ_self n)] at hresult
    rw [← hresult] at hrule
    refine ⟨effects ++ [e], ?_, ?_⟩
    · rw [beforeSteps_succ]
      exact List.rel_append hrules (.cons hrule .nil)
    · have hone : String.join [e.text] = e.text := by
        rw [String.join_cons]
        exact String.append_empty
      rw [afterSteps, hafter.outputBytes, hbytes, List.map_append, String.join_append,
        List.map_singleton, hone, String.toByteArray_append, ByteArray.append_assoc]

/-! ## The log of a run -/

theorem events_runFrom_of_continues {n : Nat} {m m' : Machine config} (h : Continues n m m')
    (hpending : m.interruptPending = false) (executed budget : Nat) :
    (m.runFrom executed (n + budget)).events =
      (m.beforeSteps n).flatMap (·.step.events) ++
        (m'.runFrom (executed + n) budget).events := by
  induction h generalizing executed with
  | refl m => rw [Nat.zero_add]; rfl
  | @head n m m' hstep hrest ih =>
    obtain ⟨lines, -, -, hkeep⟩ := next_of_continued hstep
    have hcount : executed + (n + 1) = executed + 1 + n := by omega
    rw [Nat.succ_add, runFrom_of_continued hpending hstep, hcount, beforeSteps_succ_eq,
      List.flatMap_cons, List.append_assoc, ← ih (hkeep.trans hpending) (executed + 1)]
    rfl

theorem events_runFrom_of_stop {m : Machine config} {stop : Stop}
    (h : m.interruptPending = false) (hstop : m.stop? = some stop) (executed budget : Nat) :
    (m.runFrom executed (budget + 1)).events =
      m.step.events ++ ((⟨stop, executed⟩ : Exit).event? m.pc).toList := by
  rw [runFrom, h]
  unfold stop? at hstop
  split at hstop
  · cases hstop
  all_goals
    rename_i hresult
    cases hstop
    simp only [hresult]
    rfl

theorem Follows.events_runSlice {m m' final : Machine config} {budget k : Nat} {reason : Stop}
    (h : m.Follows budget k m' reason final) (hpending : m.interruptPending = false) :
    (m.runSlice budget).events =
      (m.beforeSteps (⟨reason, k⟩ : Exit).attempts).flatMap (·.step.events) ++
        ((⟨reason, k⟩ : Exit).event? final.pc).toList := by
  obtain ⟨hcontinues, hends⟩ := h
  obtain ⟨lines, -, -, hkeep⟩ := hcontinues.reaches
  -- what is left of the budget behind the steps that continue
  obtain ⟨rest, rfl⟩ : ∃ rest, budget = k + rest := ⟨budget - k, by omega⟩
  have hevents := events_runFrom_of_continues hcontinues hpending 0 rest
  rw [Nat.zero_add] at hevents
  rw [runSlice, hevents]
  rcases hends with ⟨hcount, rfl, rfl⟩ | ⟨hlt, hstop, rfl⟩
  · obtain rfl : rest = 0 := by omega
    rfl
  · obtain ⟨left, rfl⟩ : ∃ left, rest = left + 1 := ⟨rest - 1, by omega⟩
    have hattempts : (⟨reason, k⟩ : Exit).attempts = k + 1 := attempts_of_stop (m := m') hstop
    rw [events_runFrom_of_stop (hkeep.trans hpending) hstop, hattempts, beforeSteps_succ,
      List.flatMap_append, List.flatMap_singleton, hcontinues.eq_afterSteps, List.append_assoc]
    rfl

/-- The log of a run is that of its attempts, with an event at the end that repeats the exit. -/
theorem events_runSlice (m : Machine config) (budget : Nat) :
    (m.runSlice budget).events =
      (m.beforeSteps (m.runSlice budget).exit.attempts).flatMap (·.step.events) ++
        ((m.runSlice budget).exit.event? (m.runSlice budget).machine.pc).toList := by
  by_cases h : m.interruptPending = false ∨ budget = 0
  · rcases h with hpending | rfl
    · obtain ⟨m', hfollows⟩ := follows_runSlice (Or.inl hpending : _ ∨ budget = 0)
      exact hfollows.events_runSlice hpending
    · rfl
  · rw [not_or, Bool.not_eq_false] at h
    rw [runSlice_of_pending h.1 h.2]
    rfl

/-! ## The attempts of a run -/

/-- When the program stops, the log is told why. No step that stops is about a name that no
operation has. -/
theorem toldBy_of_stop {m : Machine config} {stop : Stop} (h : m.stop? = some stop)
    (executed : Nat) :
    (⟨stop, executed⟩ : Exit).ToldBy m.pc
      (((⟨stop, executed⟩ : Exit).event? m.pc).toList.map (·.record)) := by
  obtain ⟨r, e, hrule⟩ := m.exists_rule
  unfold stop? at h
  rw [hrule.does.1] at h
  cases hrule with
  | ldi | prn | mulPrint | mulStore | push | pop | popStackPointer => cases h
  | hlt => cases h; exact .halted
  | unknown => cases h; exact .unknownOpcode
  | outside | operandMissing | pushOutside | popOutside => cases h; exact .outOfBounds
  | ldiRegister | prnRegister | mulLeft | mulRight | pushRegister | popRegister =>
    cases h
    exact .invalidRegister

/-- Whether a reason needs an instruction is a matter of the store and the program counter. -/
theorem StopsDecoded.of_core_eq {m m' : Machine config} {stop : Stop} (h : m.StopsDecoded stop)
    (hcore : m'.core = m.core) : m'.StopsDecoded stop := by
  obtain ⟨hstore, hpc⟩ := Core.mk.inj hcore
  have hpush : m.pushAddress = m'.pushAddress := by
    unfold pushAddress registers
    rw [hstore]
  rcases h with _ | _ | hcode | hcode
  · exact .halted
  · rw [← hpc]
    exact .register
  · rw [← hpc, memory, ← hstore] at hcode
    rw [← hpc, hpush]
    exact .push hcode
  · rw [← hpc, memory, ← hstore] at hcode
    rw [← hpc, registers, ← hstore]
    exact .pop hcode

namespace Attempts

variable {m final : Machine config} {e : Exit}

/-- A run without a further attempt was not ended by the program. -/
theorem reason_of_attempts_eq (h : e.attempts = e.executed) :
    e.reason = .completed ∨ e.reason = .interrupted := by
  unfold Exit.attempts at h
  split at h
  · rename_i hreason
    exact Or.inl hreason
  · rename_i hreason
    exact Or.inr hreason
  all_goals omega

/-- The log is told how a run ended. -/
theorem toldBy (h : m.Attempts e final) :
    e.ToldBy final.pc ((e.event? final.pc).toList.map (·.record)) := by
  obtain ⟨reason, executed⟩ := e
  rcases h.stopped with hattempts | ⟨-, hstop⟩
  · rcases reason_of_attempts_eq hattempts with hreason | hreason
    all_goals
      dsimp only at hreason
      subst hreason
    · exact .completed
    · exact .interrupted
  · have hpc : final.pc = (m.afterSteps executed).pc := congrArg Core.pc h.core_eq
    rw [hpc]
    exact toldBy_of_stop hstop executed

theorem snapshots_eq (h : m.Attempts e final) :
    final.snapshots =
      m.snapshots ++ if config.tracing then (m.beforeSteps e.attempts).map snapshot else [] := by
  rw [h.leaves]
  exact m.snapshots_afterSteps e.attempts

theorem traceBytes_eq (h : m.Attempts e final) :
    final.traceBytes = m.traceBytes ++
      (if config.tracing then
        (String.join ((m.beforeSteps e.attempts).map (·.snapshot.line ++ "\n"))).toByteArray
      else .empty) := by
  have hlines : Snapshot.render ((m.beforeSteps e.attempts).map snapshot) =
      String.join ((m.beforeSteps e.attempts).map (·.snapshot.line ++ "\n")) := by
    rw [Snapshot.render, List.map_map]
    rfl
  rw [traceBytes, h.snapshots_eq, Snapshot.render_append, String.toByteArray_append]
  split
  · rw [hlines]
    rfl
  · rfl

/-- What stops a program prints nothing. -/
theorem output_eq_afterSteps (h : m.Attempts e final) :
    final.output = (m.afterSteps e.executed).output := by
  have houtput : final.output = (m.afterSteps e.attempts).output := by
    rw [h.leaves]
  rcases h.stopped with hattempts | ⟨hattempts, hstop⟩
  · rw [houtput, hattempts]
  · rw [houtput, hattempts, afterSteps, machine_step_of_stop hstop, output_recorded]

theorem output_eq (h : m.Attempts e final) :
    final.output = m.output ++ (m.beforeSteps e.executed).filterMap printed? := by
  rw [h.output_eq_afterSteps, output_afterSteps]

theorem exists_effects (h : m.Attempts e final) :
    ∃ effects,
      List.Forall₂ (fun s e => Rule s (.ok .continued) e) (m.beforeSteps e.executed) effects ∧
      final.outputBytes =
        m.outputBytes ++ (String.join (effects.map (·.text))).toByteArray := by
  obtain ⟨effects, hrules, hbytes⟩ := Machine.exists_effects h.continued
  refine ⟨effects, hrules, ?_⟩
  rw [← hbytes, outputBytes, h.output_eq_afterSteps]
  rfl

/-- The steps of a run meet an instruction each, but for one that stops the program without. -/
theorem exists_dispatches (h : m.Attempts e final) :
    ∃ d, List.Forall₂ Announces (m.beforeSteps d)
        ((m.beforeSteps e.attempts).flatMap (·.step.events)) ∧
      ((m.beforeSteps d).map (·.pc)).Pairwise (· < ·) ∧
      (d = e.executed + 1 ∧ final.StopsDecoded e.reason ∨
        d = e.executed ∧ ¬ final.StopsDecoded e.reason) := by
  have hpcs : ∀ d ≤ e.executed + 1, ((m.beforeSteps d).map (·.pc)).Pairwise (· < ·) :=
    fun d hd => pairwise_pc_beforeSteps fun l hl => h.continued l (by omega)
  have hcompleted : ∀ s ∈ m.beforeSteps e.executed,
      ∃ i : Instruction, s.memory.Holds s.pc i.encode := by
    intro s hs
    obtain ⟨i, hi⟩ := h.completed s hs
    exact ⟨i, (completed?_eq_some hi).2⟩
  rcases h.stopped with hattempts | ⟨hattempts, hstop⟩
  · rw [hattempts]
    refine ⟨e.executed, forall₂_announces hcompleted, hpcs _ (Nat.le_succ _), Or.inr ⟨rfl, ?_⟩⟩
    rcases reason_of_attempts_eq hattempts with hreason | hreason
    all_goals
      rw [hreason]
      rintro ⟨⟩
  · -- the last attempt has met an instruction exactly if the reason needs one
    have hiff := stopsDecoded_iff hstop
    rw [hattempts]
    rcases (m.afterSteps e.executed).exists_announces with ⟨i, hcode, -⟩ | ⟨hnot, hevents⟩
    · have hdecoded := (hiff.mpr ⟨i, hcode⟩).of_core_eq h.core_eq
      refine ⟨e.executed + 1, forall₂_announces fun s hs => ?_, hpcs _ (Nat.le_refl _),
        Or.inl ⟨rfl, hdecoded⟩⟩
      rw [beforeSteps_succ, List.mem_append, List.mem_singleton] at hs
      rcases hs with hs | rfl
      · exact hcompleted s hs
      · exact ⟨i, hcode⟩
    · refine ⟨e.executed, ?_, hpcs _ (Nat.le_succ _), Or.inr ⟨rfl, fun hdecoded => ?_⟩⟩
      · rw [beforeSteps_succ, List.flatMap_append, List.flatMap_singleton, hevents,
          List.append_nil]
        exact forall₂_announces hcompleted
      · obtain ⟨i, hcode⟩ := hiff.mp (hdecoded.of_core_eq h.core_eq.symm)
        exact hnot i hcode

end Attempts

/-! ## The records agree -/

/-- Take any machine and any budget; the run ends with an exit that counts `k` instructions.
* The first `k` steps from the machine complete an instruction each, and the run leaves the store
  and the program counter behind them. An exit that names a program counter names this one.
* The snapshots of a machine that records them grow by one of each machine before a step that was
  attempted: the `k` steps, and one more if the program stops. The trace grows by their lines.
* The log tells one after the other which instruction was met, at addresses that increase: those of
  the `k` steps, and one more exactly if the program stops at an instruction that was decoded. One
  record that repeats the exit follows, unless the budget was used up.
* The output grows by the lines of those among the `k` instructions that print, and byte for byte by
  what the rules of the `k` instructions print. -/
theorem runSlice_records (m : Machine config) (budget : Nat) :
    let r := m.runSlice budget
    let k := r.exit.executed
    ((∀ s ∈ m.beforeSteps k, ∃ i, s.completed? = some i) ∧
      r.machine.core = (m.afterSteps k).core ∧
      (∀ byte pc, r.exit.reason = .unknownOpcode byte pc → pc = r.machine.pc) ∧
      ∀ fault pc, r.exit.reason = .faulted fault pc → pc = r.machine.pc) ∧
    r.machine.snapshots = m.snapshots ++
      (if config.tracing then (m.beforeSteps r.exit.attempts).map snapshot else []) ∧
    r.machine.traceBytes = m.traceBytes ++
      (if config.tracing then
        (String.join ((m.beforeSteps r.exit.attempts).map (·.snapshot.line ++ "\n"))).toByteArray
      else .empty) ∧
    (∃ dispatches last d,
      r.events = dispatches ++ last ∧ r.exit.ToldBy r.machine.pc (last.map (·.record)) ∧
      List.Forall₂ Announces (m.beforeSteps d) dispatches ∧
      ((m.beforeSteps d).map (·.pc)).Pairwise (· < ·) ∧
      (d = k + 1 ∧ r.machine.StopsDecoded r.exit.reason ∨
        d = k ∧ ¬ r.machine.StopsDecoded r.exit.reason)) ∧
    r.machine.output = m.output ++ (m.beforeSteps k).filterMap printed? ∧
    ∃ effects, List.Forall₂ (fun s e => Rule s (.ok .continued) e) (m.beforeSteps k) effects ∧
      r.machine.outputBytes =
        m.outputBytes ++ (String.join (effects.map (·.text))).toByteArray := by
  intro r k
  have h : m.Attempts r.exit r.machine := m.attempts_runSlice budget
  obtain ⟨d, hannounces, hpcs, hcount⟩ := h.exists_dispatches
  refine ⟨⟨h.completed, h.core_eq, h.toldBy.pc_eq⟩, h.snapshots_eq, h.traceBytes_eq, ?_, h.output_eq,
    h.exists_effects⟩
  exact ⟨_, _, d, m.events_runSlice budget, h.toldBy, hannounces, hpcs, hcount⟩

end Machine

end EightBit
