import EightBit.Machine.Session
import EightBit.Proofs.Runs

/-!
# What requests depend on

A machine that is asked to look at its core, to change it or to go on with its program looks at
nothing else that it keeps: neither at the output and the snapshots that wait to be taken, nor at an
interrupt, nor at whether it records snapshots. So machines with the same core give the same reply
and come to the same core, and what each of them collects on the way, it adds to what it had
(`serve_of_core_eq`, and `runFrom_of_core_eq` for runs that no interrupt stops).
-/

namespace EightBit

/-- Whether a request is about the core alone: it looks at memory, registers and program counter,
changes them from outside, or has one instruction carried out. -/
def Request.isAboutCore : Request → Bool
  | .load _ | .loadImage _ | .readMemory _ | .readRegister _ | .write .. | .setRegister ..
  | .setPc _ | .combineNamed .. | .combine .. | .step | .traceLine | .dumpMemory
  | .stackPointer => true
  | .run | .runSlice _ | .peekOutput | .takeOutput | .takeSnapshots | .reset | .interrupt
  | .isInterruptPending | .config | .dumpInLine | .dumpInLines => false

namespace Machine

variable {config : Config} {tracing : Bool}

/-! ## Changes of the store from outside -/

section

variable (m : Machine config)

theorem write_eq_map (address : Nat) (byte : UInt8) :
    m.write address byte = ((m.store.memory.write address byte).map fun memory =>
      { m.store with memory }).map fun store => { m with store } := by
  simp only [write]
  rcases m.memory.write address byte with fault | memory <;> rfl

theorem setRegister_eq_map (name value : UInt8) :
    m.setRegister name value = ((m.store.registers.set name value).map fun registers =>
      { m.store with registers }).map fun store => { m with store } := by
  simp only [setRegister]
  rcases m.registers.set name value with fault | registers <;> rfl

theorem combine_eq_map (op : AluOperation) (a b : UInt8) :
    m.combine op a b = ((m.store.registers.combine op a b).map fun registers =>
      { m.store with registers }).map fun store => { m with store } := by
  simp only [combine]
  rcases m.registers.combine op a b with fault | registers <;> rfl

theorem combineNamed_eq_map (name : String) (a b : UInt8) :
    m.combineNamed name a b = ((AluOperation.ofName name).bind fun op =>
      (m.store.registers.combine op a b).map fun registers =>
        { m.store with registers }).map fun store => { m with store } := by
  simp only [combineNamed]
  rcases AluOperation.ofName name with fault | op
  · rfl
  · exact m.combine_eq_map op a b

end

/-! ## Going the same way -/

/-- A machine has no other parts than its core and what it collects. -/
theorem eq_of_core_eq {m m' : Machine config} (hcore : m.core = m'.core)
    (houtput : m.output = m'.output) (hsnapshots : m.snapshots = m'.snapshots)
    (hpending : m.interruptPending = m'.interruptPending) : m = m' := by
  have hstore : m.store = m'.store := congrArg Core.store hcore
  have hpc : m.pc = m'.pc := congrArg Core.pc hcore
  cases m
  cases m'
  subst hstore hpc houtput hsnapshots hpending
  rfl

/-- Two machines, which may differ in whether they record snapshots, have gone the same way, `m` to
`n` and `m'` to `n'`. They have come to the same core, have printed the same and left any interrupt
waiting, and where they recorded snapshots, these were the same. -/
structure SameWay (m n : Machine config) (m' n' : Machine { config with tracing }) : Prop where
  core : n'.core = n.core
  output : ∃ lines, n.output = m.output ++ lines ∧ n'.output = m'.output ++ lines
  snapshots : ∃ taken, n.snapshots = m.snapshots ++ (if config.tracing then taken else []) ∧
    n'.snapshots = m'.snapshots ++ if tracing then taken else []
  interruptPending : n.interruptPending = m.interruptPending
  interruptPending' : n'.interruptPending = m'.interruptPending

section

variable {m n l : Machine config} {m' n' l' : Machine { config with tracing }}

theorem SameWay.trans (h : SameWay m n m' n') (h' : SameWay n l n' l') : SameWay m l m' l' := by
  obtain ⟨first, houtput, houtput'⟩ := h.output
  obtain ⟨rest, hrest, hrest'⟩ := h'.output
  obtain ⟨taken, hsnapshots, hsnapshots'⟩ := h.snapshots
  obtain ⟨more, hmore, hmore'⟩ := h'.snapshots
  refine ⟨h'.core, ⟨first ++ rest, ?_, ?_⟩, ⟨taken ++ more, ?_, ?_⟩,
    h'.interruptPending.trans h.interruptPending,
    h'.interruptPending'.trans h.interruptPending'⟩
  · rw [hrest, houtput, List.append_assoc]
  · rw [hrest', houtput', List.append_assoc]
  · rw [hmore, hsnapshots, List.append_assoc]
    split <;> rfl
  · rw [hmore', hsnapshots', List.append_assoc]
    split <;> rfl

/-- Where no snapshots are recorded, there are no more of them in the end. -/
theorem SameWay.snapshots_eq (h : SameWay m n m' n') (htracing : config.tracing = false) :
    n.snapshots = m.snapshots := by
  obtain ⟨taken, hsnapshots, -⟩ := h.snapshots
  rw [hsnapshots, htracing]
  exact List.append_nil _

/-- A change of the core that collects nothing. -/
theorem SameWay.of_core_eq (hcore : n'.core = n.core) (houtput : n.output = m.output)
    (houtput' : n'.output = m'.output) (hsnapshots : n.snapshots = m.snapshots)
    (hsnapshots' : n'.snapshots = m'.snapshots)
    (hpending : n.interruptPending = m.interruptPending)
    (hpending' : n'.interruptPending = m'.interruptPending) : SameWay m n m' n' := by
  refine ⟨hcore, ⟨[], ?_, ?_⟩, ⟨[], ?_, ?_⟩, hpending, hpending'⟩
  · rw [houtput, List.append_nil]
  · rw [houtput', List.append_nil]
  · rw [hsnapshots, ite_self, List.append_nil]
  · rw [hsnapshots', ite_self, List.append_nil]

theorem SameWay.refl (hcore : m'.core = m.core) : SameWay m m m' m' :=
  .of_core_eq hcore rfl rfl rfl rfl rfl rfl

/-! ## Steps -/

theorem snapshot_of_core_eq (hcore : m'.core = m.core) : m'.snapshot = m.snapshot :=
  congrArg (fun c : Core config.memorySize =>
    Snapshot.take c.store.memory c.store.registers c.pc) hcore

theorem SameWay.recorded (hcore : m'.core = m.core) :
    SameWay m m.recorded m' m'.recorded := by
  refine ⟨hcore, ⟨[], (List.append_nil _).symm, (List.append_nil _).symm⟩,
    ⟨[m.snapshot], m.snapshots_recorded, ?_⟩, rfl, rfl⟩
  rw [m'.snapshots_recorded, snapshot_of_core_eq hcore]

theorem SameWay.advance (hcore : m'.core = m.core) (store : Store config.memorySize)
    (line : Option Line) (length : Nat) :
    SameWay m (m.advance store line length) m' (m'.advance store line length) := by
  have hpc : m'.pc = m.pc := congrArg Core.pc hcore
  refine ⟨?_, ⟨line.toList, rfl, rfl⟩, ⟨[], ?_, ?_⟩, rfl, rfl⟩
  · show (⟨store, m'.pc + length⟩ : Core config.memorySize) = ⟨store, m.pc + length⟩
    rw [hpc]
  · rw [ite_self, List.append_nil]
    rfl
  · rw [ite_self, List.append_nil]
    rfl

/-- A step depends on the core alone. -/
theorem step_of_core_eq (hcore : m'.core = m.core) :
    m'.step.result = m.step.result ∧ m'.step.events = m.step.events ∧
      SameWay m m.step.machine m' m'.step.machine := by
  have hstore : m'.store = m.store := congrArg Core.store hcore
  have hpc : m'.pc = m.pc := congrArg Core.pc hcore
  have hfetch_eq : m'.memory.fetch m'.pc = m.memory.fetch m.pc :=
    congrArg (fun c : Core config.memorySize => c.store.memory.fetch c.pc) hcore
  have hrecorded := SameWay.recorded hcore
  rcases hfetch : m.memory.fetch m.pc with fault | ⟨i⟩ | byte
  · rw [step_of_fetch_error hfetch, step_of_fetch_error (hfetch_eq.trans hfetch)]
    exact ⟨rfl, rfl, hrecorded⟩
  · have hexec_eq : i.execute config.product m'.store = i.execute config.product m.store :=
      congrArg (i.execute config.product) hstore
    rcases hexec : i.execute config.product m.store with fault | _ | ⟨store, line⟩
    · rw [step_of_execute_error hfetch hexec,
        step_of_execute_error (hfetch_eq.trans hfetch) (hexec_eq.trans hexec), hpc]
      exact ⟨rfl, rfl, hrecorded⟩
    · rw [step_of_halt hfetch hexec,
        step_of_halt (hfetch_eq.trans hfetch) (hexec_eq.trans hexec), hpc]
      exact ⟨rfl, rfl, hrecorded⟩
    · rw [step_of_proceed hfetch hexec,
        step_of_proceed (hfetch_eq.trans hfetch) (hexec_eq.trans hexec), hpc]
      exact ⟨rfl, rfl, hrecorded.trans (.advance hrecorded.core store line i.length)⟩
  · rw [step_of_unknown hfetch, step_of_unknown (hfetch_eq.trans hfetch)]
    exact ⟨rfl, rfl, hrecorded⟩

/-! ## Runs -/

/-- A run that no interrupt stops depends on the core alone. -/
theorem runFrom_of_core_eq (hcore : m'.core = m.core) {budget : Nat}
    (hpending : m.interruptPending = false ∨ budget = 0)
    (hpending' : m'.interruptPending = false ∨ budget = 0) (executed : Nat) :
    (m'.runFrom executed budget).exit = (m.runFrom executed budget).exit ∧
      (m'.runFrom executed budget).events = (m.runFrom executed budget).events ∧
      SameWay m (m.runFrom executed budget).machine m' (m'.runFrom executed budget).machine := by
  -- induction on the budget; the cores stay equal and no interrupt comes up, so each round is alike
  induction budget generalizing executed m m' with
  | zero => exact ⟨rfl, rfl, .refl hcore⟩
  | succ budget ih =>
    have hdown : m.interruptPending = false := hpending.resolve_right (Nat.succ_ne_zero budget)
    have hdown' : m'.interruptPending = false := hpending'.resolve_right (Nat.succ_ne_zero budget)
    have hpc : m'.pc = m.pc := congrArg Core.pc hcore
    obtain ⟨hresult, hevents, hway⟩ := step_of_core_eq hcore
    rcases hstep : m.step.result with fault | _ | _ | byte <;>
      have hstep' := hresult.trans hstep
    · simp only [runFrom, hdown, hdown', hstep, hstep', hpc, hevents]
      exact ⟨rfl, rfl, hway⟩
    · have hkeep : m.step.machine.interruptPending = false := hway.interruptPending.trans hdown
      have hkeep' : m'.step.machine.interruptPending = false :=
        hway.interruptPending'.trans hdown'
      obtain ⟨hexit, hrest, hway'⟩ :=
        ih hway.core (Or.inl hkeep) (Or.inl hkeep') (executed + 1)
      rw [runFrom_of_continued hdown hstep, runFrom_of_continued hdown' hstep']
      refine ⟨hexit, ?_, hway.trans hway'⟩
      rw [Run.after, Run.after, hevents, hrest]
    · simp only [runFrom, hdown, hdown', hstep, hstep', hpc, hevents]
      exact ⟨rfl, rfl, hway⟩
    · simp only [runFrom, hdown, hdown', hstep, hstep', hpc, hevents]
      exact ⟨rfl, rfl, hway⟩

/-! ## Requests -/

/-- Machines of the same core reply the same to a request. -/
structure ServedAlike (m : Machine config) (m' : Machine { config with tracing })
    (s : Served config) (s' : Served { config with tracing }) : Prop where
  reply : s'.reply = s.reply
  events : s'.events = s.events
  way : SameWay m s.machine m' s'.machine

theorem ServedAlike.reply_of (hcore : m'.core = m.core) {r r' : Reply} (h : r' = r) :
    ServedAlike m m' (m.reply r) (m'.reply r') :=
  ⟨h, rfl, .refl hcore⟩

theorem serveLoad_of_core_eq (hcore : m'.core = m.core) (program : List UInt8) (success : Reply) :
    ServedAlike m m' (m.serveLoad program success) (m'.serveLoad program success) := by
  have hload : m'.memory.load 0 program = m.memory.load 0 program :=
    congrArg (fun c : Core config.memorySize => c.store.memory.load 0 program) hcore
  have hregisters : m'.registers = m.registers :=
    congrArg (fun c : Core config.memorySize => c.store.registers) hcore
  have hpc : m'.pc = m.pc := congrArg Core.pc hcore
  unfold serveLoad load
  rw [hload]
  rcases m.memory.load 0 program with fault | memory
  · exact .reply_of hcore rfl
  · refine ⟨rfl, rfl, .of_core_eq ?_ rfl rfl rfl rfl rfl rfl⟩
    show (⟨⟨memory, m'.registers⟩, m'.pc⟩ : Core config.memorySize) = ⟨⟨memory, m.registers⟩, m.pc⟩
    rw [hregisters, hpc]

/-- Both machines reply alike to a change of the store that gives the same store or fault. -/
theorem replyDone_of_core_eq (hcore : m'.core = m.core)
    {changed : Except Fault (Store config.memorySize)} {r : Except Fault (Machine config)}
    {r' : Except Fault (Machine { config with tracing })}
    (hr : r = changed.map fun store => { m with store })
    (hr' : r' = changed.map fun store => { m' with store }) :
    ServedAlike m m' (m.replyDone r) (m'.replyDone r') := by
  have hpc : m'.pc = m.pc := congrArg Core.pc hcore
  subst hr hr'
  rcases changed with fault | store
  · exact .reply_of hcore rfl
  · refine ⟨rfl, rfl, .of_core_eq ?_ rfl rfl rfl rfl rfl rfl⟩
    show (⟨store, m'.pc⟩ : Core config.memorySize) = ⟨store, m.pc⟩
    rw [hpc]

/-- A request about the core depends on the core alone. -/
theorem serve_of_core_eq (hcore : m'.core = m.core) {request : Request}
    (h : request.isAboutCore = true) : ServedAlike m m' (m.serve request) (m'.serve request) := by
  have hstore : m'.store = m.store := congrArg Core.store hcore
  have hmemory : m'.memory = m.memory := congrArg Store.memory hstore
  have hregisters : m'.registers = m.registers := congrArg Store.registers hstore
  cases request
  case run | runSlice | peekOutput | takeOutput | takeSnapshots | reset | interrupt
    | isInterruptPending | config | dumpInLine | dumpInLines => cases h
  case load program => exact serveLoad_of_core_eq hcore program .done
  case loadImage text =>
    simp only [serve]
    split
    · exact serveLoad_of_core_eq hcore _ _
    · exact .reply_of hcore rfl
  case readMemory address =>
    simp only [serve, hmemory]
    rcases m.memory.read address with fault | byte <;> exact .reply_of hcore rfl
  case readRegister name =>
    simp only [serve, hregisters]
    rcases m.registers.get name with fault | byte <;> exact .reply_of hcore rfl
  case write address byte =>
    exact replyDone_of_core_eq hcore (m.write_eq_map address byte)
      (by rw [m'.write_eq_map, hstore])
  case setRegister name value =>
    exact replyDone_of_core_eq hcore (m.setRegister_eq_map name value)
      (by rw [m'.setRegister_eq_map, hstore])
  case combineNamed name a b =>
    exact replyDone_of_core_eq hcore (m.combineNamed_eq_map name a b)
      (by rw [m'.combineNamed_eq_map, hstore])
  case combine op a b =>
    exact replyDone_of_core_eq hcore (m.combine_eq_map op a b)
      (by rw [m'.combine_eq_map, hstore])
  case setPc pc =>
    refine ⟨rfl, rfl, .of_core_eq ?_ rfl rfl rfl rfl rfl rfl⟩
    show (⟨m'.store, pc⟩ : Core config.memorySize) = ⟨m.store, pc⟩
    rw [hstore]
  case step =>
    obtain ⟨hresult, hevents, hway⟩ := step_of_core_eq hcore
    simp only [serve, hresult]
    split
    · exact ⟨rfl, hevents, hway⟩
    · exact ⟨rfl, hevents, hway⟩
  case traceLine => exact .reply_of hcore (by rw [snapshot_of_core_eq hcore])
  case dumpMemory => exact .reply_of hcore (by rw [hmemory])
  case stackPointer => exact .reply_of hcore (by rw [hregisters])

end

end Machine

end EightBit
