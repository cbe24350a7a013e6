import EightBit.Proofs.History
import EightBit.Proofs.InPlace

/-!
# Failures and stops

A request that fails leaves nothing behind, and a run leaves nothing behind of the instruction that
stops it, but for the snapshot that a step records before it begins. So the instruction is met
again as it was, and a program that has stopped stops again in the same way
(`failures_atomic_and_stops_final`).
-/

namespace EightBit

/-- Whether a reply says that the request failed. -/
def Reply.failed : Reply → Bool
  | .fault _ | .tooLarge _ | .invalidLine _ => true
  | .done | .count _ | .byte _ | .bytes _ | .flag _ | .text _ | .config _ | .stepped _
  | .exited _ => false

namespace Machine

variable {config : Config}

/-- The machine with more snapshots recorded, and all else as it is. -/
def withSnapshots (m : Machine config) (more : List Snapshot) : Machine config :=
  { m with snapshots := m.snapshots ++ more }

/-- The snapshots that an attempt at a step records. -/
def attempted (m : Machine config) : List Snapshot :=
  if config.tracing then [m.snapshot] else []

theorem withSnapshots_nil (m : Machine config) : m.withSnapshots [] = m := by
  rw [withSnapshots, List.append_nil]

theorem recorded_eq_withSnapshots (m : Machine config) :
    m.recorded = m.withSnapshots m.attempted := by
  unfold recorded withSnapshots attempted
  by_cases h : config.tracing = true
  · rw [if_pos h, if_pos h]
  · rw [if_neg h, if_neg h, List.append_nil]

/-! ## Requests that fail -/

theorem machine_serveLoad_of_failed {m : Machine config} {program : List UInt8} {success : Reply}
    (hsuccess : success.failed = false) (h : (m.serveLoad program success).reply.failed = true) :
    (m.serveLoad program success).machine = m := by
  unfold serveLoad at h ⊢
  split at h
  · rw [hsuccess] at h
    cases h
  · rfl

theorem machine_replyDone_of_failed {m : Machine config}
    {changed : Except Fault (Machine config)} (h : (m.replyDone changed).reply.failed = true) :
    (m.replyDone changed).machine = m := by
  rcases changed with fault | changed
  · rfl
  · cases h

/-- A request that fails leaves the machine as it was, unless it is a step. -/
theorem machine_serve_of_failed {m : Machine config} {request : Request}
    (hne : request ≠ .step) (h : (m.serve request).reply.failed = true) :
    (m.serve request).machine = m := by
  cases request
  case step => exact absurd rfl hne
  case load program => exact machine_serveLoad_of_failed rfl h
  case loadImage text =>
    rcases hparse : Image.parse text with e | program
    · simp only [serve, hparse]
      rfl
    · simp only [serve, hparse] at h ⊢
      exact machine_serveLoad_of_failed rfl h
  case readMemory address => exact m.machine_replyByte (m.memory.read address)
  case readRegister name => exact m.machine_replyByte (m.registers.get name)
  case write | setRegister | combineNamed | combine => exact machine_replyDone_of_failed h
  all_goals cases h

/-- A step that fails leaves only its snapshot behind. -/
theorem machine_serve_step_of_failed {m : Machine config}
    (h : (m.serve .step).reply.failed = true) : (m.serve .step).machine = m.recorded := by
  rw [machine_serve_step]
  refine machine_step_of_not_continued fun hcontinued => ?_
  simp only [serve, hcontinued] at h
  cases h

/-! ## Programs that have stopped -/

/-- A program that has stopped stops again at once, whatever was asked of the machine in between
that leaves the program to itself. -/
theorem exit_after_of_stop {m : Machine config} {stop : Stop} {between : List Request} {n : Nat}
    (hnext : m.core.next config.product = .error stop)
    (hbetween : ∀ request ∈ between, request.changesProgram = false)
    (hpending : (m.after between).interruptPending = false) (hn : 0 < n) :
    ((m.after between).runSlice n).exit = ⟨stop, 0⟩ := by
  have hstay : (m.after between).core.next config.product = .error stop := by
    rw [core_after_of_stop hnext hbetween]
    exact hnext
  exact runSlice_of_reaches_stop hpending (.refl _) hstay hn

/-- On every machine, a request that fails changes nothing, where a step may record its snapshot,
and so does a step that meets the end of the program or a byte that is no opcode. This is so
although all these work in place, on buffers of bytes. A run that ends because the program stops
leaves the machine as the instructions it completed have made it, and from then on the program stops
for the same reason before any instruction, however often the machine is stepped, run, interrupted,
read or relieved of its output. -/
theorem failures_atomic_and_stops_final (m : Machine config) :
    (∀ request, (m.serve request).reply.failed = true →
      (m.serve request).machine = m.withSnapshots (if request = .step then m.attempted else [])) ∧
    (m.step.result ≠ .ok .continued → m.step.machine = m.withSnapshots m.attempted) ∧
    InPlace.Agrees m ∧
    ∀ budget, (m.runSlice budget).exit.reason ≠ .completed →
      (m.runSlice budget).exit.reason ≠ .interrupted →
      (∃ m', Continues (m.runSlice budget).exit.executed m m' ∧
        m'.stop? = some (m.runSlice budget).exit.reason ∧
        (m.runSlice budget).machine = m'.withSnapshots m'.attempted) ∧
      ∀ between n, (∀ request ∈ between, request.changesProgram = false) →
        ((m.runSlice budget).machine.after between).interruptPending = false → 0 < n →
        (((m.runSlice budget).machine.after between).runSlice n).exit =
          ⟨(m.runSlice budget).exit.reason, 0⟩ := by
  refine ⟨fun request hfailed => ?_, fun hstep => ?_, InPlace.agrees m,
    fun budget hcompleted hinterrupted => ⟨?_, fun between n hbetween hpending hn => ?_⟩⟩
  · by_cases hstep : request = .step
    · rw [if_pos hstep, ← recorded_eq_withSnapshots]
      subst hstep
      exact machine_serve_step_of_failed hfailed
    · rw [if_neg hstep, withSnapshots_nil]
      exact machine_serve_of_failed hstep hfailed
  · rw [machine_step_of_not_continued hstep, recorded_eq_withSnapshots]
  · obtain ⟨m', hcontinues, hstop, hmachine⟩ := exists_stop_of_reason hcompleted hinterrupted
    rw [recorded_eq_withSnapshots] at hmachine
    exact ⟨m', hcontinues, hstop, hmachine⟩
  · exact exit_after_of_stop (next_of_reason hcompleted hinterrupted) hbetween hpending hn

end Machine

end EightBit
