import EightBit.Machine.Basic
import EightBit.Proofs.Fetch

/-!
# The cases of a step

A step ends in one of five ways, told apart by what is fetched and what becomes of its execution:
one equation for each. A step that does not continue leaves the machine as it was but for the
recorded snapshot (`machine_step_of_not_continued`).
-/

namespace EightBit

namespace Machine

variable {config : Config}

theorem snapshots_recorded (m : Machine config) :
    m.recorded.snapshots = m.snapshots ++ if config.tracing then [m.snapshot] else [] := by
  simp only [recorded]
  split
  · rfl
  · rw [List.append_nil]

/-- More lines of output are more bytes at its end. -/
theorem outputBytes_of_output {m m' : Machine config} {lines : List Line}
    (h : m'.output = m.output ++ lines) :
    m'.outputBytes = m.outputBytes ++ (Line.render lines).toByteArray := by
  rw [outputBytes, h, Line.render_append, String.toByteArray_append]
  rfl

/-- A snapshot that is recorded is a line at the end of the trace. -/
theorem traceBytes_recorded (m : Machine config) :
    m.recorded.traceBytes = m.traceBytes ++
      if config.tracing then (m.snapshot.line ++ "\n").toByteArray else .empty := by
  rw [traceBytes, snapshots_recorded, Snapshot.render_append, String.toByteArray_append]
  split
  · rw [Snapshot.render_singleton]
    rfl
  · rfl

theorem step_of_fetch_error {m : Machine config} {fault : Fault}
    (h : m.memory.fetch m.pc = .error fault) : m.step = ⟨.error fault, m.recorded, []⟩ := by
  simp only [step, h]

theorem step_of_unknown {m : Machine config} {byte : UInt8}
    (h : m.memory.fetch m.pc = .ok (.unknown byte)) :
    m.step = ⟨.ok (.unknownOpcode byte), m.recorded, []⟩ := by
  simp only [step, h]

theorem step_of_execute_error {m : Machine config} {i : Instruction} {fault : Fault}
    (hfetch : m.memory.fetch m.pc = .ok (.instruction i))
    (hexec : i.execute config.product m.store = .error fault) :
    m.step = ⟨.error fault, m.recorded, [.dispatch m.pc i]⟩ := by
  simp only [step, hfetch, hexec]

theorem step_of_halt {m : Machine config} {i : Instruction}
    (hfetch : m.memory.fetch m.pc = .ok (.instruction i))
    (hexec : i.execute config.product m.store = .ok .halt) :
    m.step = ⟨.ok .halted, m.recorded, [.dispatch m.pc i]⟩ := by
  simp only [step, hfetch, hexec]

theorem step_of_proceed {m : Machine config} {i : Instruction}
    {store : Store config.memorySize} {line : Option Line}
    (hfetch : m.memory.fetch m.pc = .ok (.instruction i))
    (hexec : i.execute config.product m.store = .ok (.proceed store line)) :
    m.step = ⟨.ok .continued, m.recorded.advance store line i.length, [.dispatch m.pc i]⟩ := by
  simp only [step, hfetch, hexec]

/-- Unless a step continues, all that it changes is the record of snapshots. -/
theorem machine_step_of_not_continued {m : Machine config}
    (h : m.step.result ≠ .ok .continued) : m.step.machine = m.recorded := by
  rcases hfetch : m.memory.fetch m.pc with fault | ⟨i⟩ | byte
  · rw [step_of_fetch_error hfetch]
  · rcases hexec : i.execute config.product m.store with fault | _ | ⟨store, line⟩
    · rw [step_of_execute_error hfetch hexec]
    · rw [step_of_halt hfetch hexec]
    · rw [step_of_proceed hfetch hexec] at h
      exact absurd rfl h
  · rw [step_of_unknown hfetch]

end Machine

end EightBit
