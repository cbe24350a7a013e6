import EightBit.Proofs.PowerOn
import EightBit.Proofs.Slices

/-!
# Tracing

Snapshots are recorded for whoever takes them, and the machine never looks at them. Two machines
that differ only in whether they record snapshots are `Alike` and stay so whatever is asked of both
(`Alike.serve`, `Alike.after`): they reply the same, but to requests that show the snapshots or the
settings themselves.

A snapshot can be taken at any address of 64 bits. The cells next to the program counter are looked
up where such an address exists for them, and there are no others in memory (`get?_address?`).
-/

namespace EightBit

/-- Whether the reply to a request shows the settings or the snapshots that were recorded. -/
def Request.showsTracing : Request → Bool
  | .takeSnapshots | .config | .dumpInLine | .dumpInLines => true
  | .load _ | .loadImage _ | .readMemory _ | .readRegister _ | .write .. | .setRegister ..
  | .setPc _ | .combineNamed .. | .combine .. | .step | .run | .runSlice _ | .traceLine
  | .peekOutput | .takeOutput | .dumpMemory | .stackPointer | .reset | .interrupt
  | .isInterruptPending => false

/-! ## Addresses of 64 bits -/

/-- The address `offset` cells behind another, if it has one. -/
def address? (base : UInt64) (offset : Nat) : Option UInt64 :=
  if base.toNat + offset < UInt64.size then some (base + UInt64.ofNat offset) else none

theorem toNat_of_address? {base stop : UInt64} {offset : Nat}
    (h : address? base offset = some stop) : stop.toNat = base.toNat + offset := by
  unfold address? at h
  split at h
  · rename_i hlt
    have hoffset : offset < 2 ^ 64 := Nat.lt_of_le_of_lt (Nat.le_add_left _ _) hlt
    rw [← Option.some.inj h, UInt64.toNat_add, UInt64.toNat_ofNat_of_lt' hoffset,
      Nat.mod_eq_of_lt hlt]
  · cases h

theorem le_of_address?_eq_none {base : UInt64} {offset : Nat} (h : address? base offset = none) :
    UInt64.size ≤ base.toNat + offset := by
  unfold address? at h
  split at h
  · cases h
  · rename_i hge
    exact Nat.le_of_not_lt hge

/-- No cell of a memory lies behind the last address. -/
theorem get?_address? {size : Nat} (memory : Memory size) (hsize : size ≤ UInt64.size)
    (base : UInt64) (offset : Nat) :
    ((address? base offset).bind fun address => memory.get? address.toNat) =
      memory.get? (base.toNat + offset) := by
  rcases haddress : address? base offset with _ | address
  · have hge := le_of_address?_eq_none haddress
    rw [Option.bind_none, memory.get?_of_le (Nat.le_trans hsize hge)]
  · rw [Option.bind_some, toNat_of_address? haddress]

namespace Machine

variable {config : Config} {tracing : Bool}

/-! ## Machines with and without snapshots -/

/-- Two machines agree in all but their snapshots. -/
structure Alike (m : Machine config) (m' : Machine { config with tracing }) : Prop where
  core : m'.core = m.core
  output : m'.output = m.output
  interruptPending : m'.interruptPending = m.interruptPending

section

variable {m n : Machine config} {m' n' : Machine { config with tracing }}

theorem Alike.along (h : Alike m m') (hway : SameWay m n m' n') : Alike n n' := by
  obtain ⟨lines, houtput, houtput'⟩ := hway.output
  refine ⟨hway.core, ?_, ?_⟩
  · rw [houtput, houtput', h.output]
  · rw [hway.interruptPending, hway.interruptPending', h.interruptPending]

/-- An interrupt stops both machines before their next instruction or neither. -/
theorem Alike.runSlice (h : Alike m m') (budget : Nat) :
    (m'.runSlice budget).exit = (m.runSlice budget).exit ∧
      (m'.runSlice budget).events = (m.runSlice budget).events ∧
      Alike (m.runSlice budget).machine (m'.runSlice budget).machine := by
  by_cases hpending : m.interruptPending = false ∨ budget = 0
  · have hpending' : m'.interruptPending = false ∨ budget = 0 := by rwa [h.interruptPending]
    obtain ⟨hexit, hevents, hway⟩ := runFrom_of_core_eq h.core hpending hpending' 0
    exact ⟨hexit, hevents, h.along hway⟩
  · rw [not_or, Bool.not_eq_false] at hpending
    obtain ⟨hpending, hbudget⟩ := hpending
    have hpc : m'.pc = m.pc := congrArg Core.pc h.core
    rw [runSlice_of_pending hpending hbudget,
      runSlice_of_pending (h.interruptPending.trans hpending) hbudget]
    refine ⟨rfl, ?_, h.core, h.output, rfl⟩
    rw [hpc]

/-- Whatever is asked of two machines that are alike, they stay so, and reply and log the same. -/
theorem Alike.serve (h : Alike m m') (request : Request) :
    (request.showsTracing = false → (m'.serve request).reply = (m.serve request).reply) ∧
      (m'.serve request).events = (m.serve request).events ∧
      Alike (m.serve request).machine (m'.serve request).machine := by
  by_cases hcore : request.isAboutCore = true
  · obtain ⟨hreply, hevents, hway⟩ := serve_of_core_eq h.core hcore
    exact ⟨fun _ => hreply, hevents, h.along hway⟩
  · -- what is not about the core looks at one other part, or runs the program
    cases request
    case run =>
      obtain ⟨hexit, hevents, halike⟩ := h.runSlice unlimited
      exact ⟨fun _ => congrArg Reply.exited hexit, hevents, halike⟩
    case runSlice budget =>
      obtain ⟨hexit, hevents, halike⟩ := h.runSlice budget
      exact ⟨fun _ => congrArg Reply.exited hexit, hevents, halike⟩
    case peekOutput =>
      exact ⟨fun _ => congrArg (fun lines => Reply.text (Line.render lines)) h.output, rfl, h⟩
    case takeOutput =>
      exact ⟨fun _ => congrArg (fun lines => Reply.text (Line.render lines)) h.output, rfl,
        h.core, rfl, h.interruptPending⟩
    case isInterruptPending => exact ⟨fun _ => congrArg Reply.flag h.interruptPending, rfl, h⟩
    case reset =>
      refine ⟨fun _ => rfl, rfl, ?_, rfl, rfl⟩
      show m'.reset.core = m.reset.core
      rw [m'.reset_eq_new, m.reset_eq_new]
      rfl
    case interrupt => exact ⟨fun _ => rfl, rfl, h.core, h.output, rfl⟩
    case takeSnapshots =>
      exact ⟨fun hshows => absurd hshows (by decide), rfl, h.core, h.output, h.interruptPending⟩
    case config | dumpInLine | dumpInLines =>
      refine ⟨fun hshows => absurd hshows (by decide), ?_, h⟩
      -- the replies differ, but neither machine logs anything
      show ([] : List Event) = []
      rfl
    all_goals exact absurd rfl hcore

theorem Alike.after (h : Alike m m') (history : List Request) :
    Alike (m.after history) (m'.after history) := by
  induction history generalizing m m' with
  | nil => exact h
  | cons request rest ih => exact ih (h.serve request).2.2

theorem alike_of_ofConfig (h : ofConfig config = .ok m)
    (h' : ofConfig { config with tracing } = .ok m') : Alike m m' := by
  rw [eq_new_of_ofConfig h, eq_new_of_ofConfig h']
  exact ⟨rfl, rfl, rfl⟩

end

/-! ## Machines without snapshots -/

section

variable {m : Machine config}

theorem snapshots_runSlice_of_not_tracing (h : config.tracing = false) (budget : Nat) :
    (m.runSlice budget).machine.snapshots = m.snapshots := by
  rcases hpending : m.interruptPending with _ | _
  · exact snapshots_runSlice h hpending budget
  · by_cases hbudget : budget = 0
    · rw [hbudget]
      rfl
    · rw [runSlice_of_pending hpending hbudget]

theorem snapshots_of_ofConfig (h : ofConfig config = .ok m) : m.snapshots = [] := by
  rw [eq_new_of_ofConfig h]
  rfl

/-- A machine that records no snapshots never has one. -/
theorem snapshots_serve_of_not_tracing (h : config.tracing = false) (hm : m.snapshots = [])
    (request : Request) : (m.serve request).machine.snapshots = [] := by
  by_cases hcore : request.isAboutCore = true
  · obtain ⟨-, -, hway⟩ := @serve_of_core_eq config config.tracing m m rfl request hcore
    rw [hway.snapshots_eq h, hm]
  · cases request
    case run => exact (snapshots_runSlice_of_not_tracing h unlimited).trans hm
    case runSlice budget => exact (snapshots_runSlice_of_not_tracing h budget).trans hm
    case reset | takeSnapshots => rfl
    case peekOutput | takeOutput | isInterruptPending | interrupt | config | dumpInLine
      | dumpInLines => exact hm
    all_goals exact absurd rfl hcore

theorem snapshots_after_of_not_tracing (h : config.tracing = false) (hm : m.snapshots = [])
    (history : List Request) : (m.after history).snapshots = [] := by
  induction history generalizing m with
  | nil => exact hm
  | cons request rest ih => exact ih (snapshots_serve_of_not_tracing h hm request)

end

/-! ## Trace lines -/

/-- A trace line can be had at any address of 64 bits, with dashes for the cells behind the end of
memory and behind the last address. -/
theorem reply_traceLine (m : Machine config) (pc : UInt64) :
    let cell offset := (address? pc offset).bind fun address => m.memory.get? address.toNat
    ((m.setPc pc.toNat).serve .traceLine).reply =
      .text (Snapshot.line ⟨pc.toNat, #v[cell 0, cell 1, cell 2], m.registers⟩) := by
  have hsize : config.memorySize ≤ UInt64.size :=
    Nat.le_trans m.valid.memorySize_le (by decide)
  intro cell
  simp only [cell, get?_address? m.memory hsize, Nat.add_zero]
  rfl

/-- Recording snapshots never influences what a machine does. Take two machines fresh from settings
that differ at most in whether snapshots are recorded, and any history of requests to both. They
agree in memory, registers, program counter, output and interrupt. Any further request gets the same
reply and logs the same, unless it shows the settings or the snapshots. The machine that records
none has none, and the trace line can be had at any program counter. -/
theorem tracing_noninterference {fresh : Machine config}
    {fresh' : Machine { config with tracing }} (hnew : ofConfig config = .ok fresh)
    (hnew' : ofConfig { config with tracing } = .ok fresh') (history : List Request) :
    let m := fresh.after history
    let m' := fresh'.after history
    (m'.memory = m.memory ∧ m'.registers = m.registers ∧ m'.pc = m.pc ∧ m'.output = m.output ∧
        m'.interruptPending = m.interruptPending) ∧
      (∀ request,
        (request.showsTracing = false → (m'.serve request).reply = (m.serve request).reply) ∧
          (m'.serve request).events = (m.serve request).events) ∧
      (config.tracing = false → m.snapshots = []) ∧ (tracing = false → m'.snapshots = []) ∧
      ∀ pc : UInt64,
        let cell offset := (address? pc offset).bind fun address => m.memory.get? address.toNat
        ((m.setPc pc.toNat).serve .traceLine).reply =
          .text (Snapshot.line ⟨pc.toNat, #v[cell 0, cell 1, cell 2], m.registers⟩) := by
  intro m m'
  have halike : Alike m m' := (alike_of_ofConfig hnew hnew').after history
  have hstore : m'.store = m.store := congrArg Core.store halike.core
  refine ⟨⟨congrArg Store.memory hstore, congrArg Store.registers hstore,
    congrArg Core.pc halike.core, halike.output, halike.interruptPending⟩, fun request => ?_,
    fun h => snapshots_after_of_not_tracing h (snapshots_of_ofConfig hnew) history,
    fun h => snapshots_after_of_not_tracing h (snapshots_of_ofConfig hnew') history,
    m.reply_traceLine⟩
  obtain ⟨hreply, hevents, -⟩ := halike.serve request
  exact ⟨hreply, hevents⟩

/-- The small machine has recorded a snapshot for each of its three steps, and the other one none.
They are alike in the rest, and an interrupt waits on both. The trace line at the last address shows
no cells. -/
theorem tracing_noninterference_small :
    let fresh : Machine small := new valid_small
    let fresh' : Machine { small with tracing := false } := new (valid_small.tracing false)
    ofConfig small = .ok fresh ∧ ofConfig { small with tracing := false } = .ok fresh' ∧
      (fresh.after usage).snapshots.length = 3 ∧ (fresh'.after usage).snapshots = [] ∧
      (fresh'.after usage).memory = (fresh.after usage).memory ∧
      ((fresh'.after usage).serve .run).reply = .exited ⟨.interrupted, 0⟩ ∧
      (((fresh.after usage).setPc 18446744073709551615).serve .traceLine).reply =
        .text "TRACE: FFFFFFFFFFFFFFFF | -- -- -- | 00 00 09 00 00 00 00 04" := by
  intro fresh fresh'
  have hnew : ofConfig small = .ok fresh := ofConfig_of_valid valid_small
  have hnew' : ofConfig { small with tracing := false } = .ok fresh' :=
    ofConfig_of_valid (valid_small.tracing false)
  obtain ⟨⟨hmemory, -, -, -, -⟩, hserve, -, hquiet, hline⟩ :=
    tracing_noninterference hnew hnew' usage
  have hreply : ((fresh.after usage).serve .run).reply = .exited ⟨.interrupted, 0⟩ := by
    decide +kernel
  refine ⟨hnew, hnew', by decide +kernel, hquiet rfl, hmemory,
    ((hserve .run).1 rfl).trans hreply, (hline 18446744073709551615).trans ?_⟩
  decide +kernel

end Machine

end EightBit
