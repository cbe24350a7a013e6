import EightBit.Command.Execution
import EightBit.Proofs.PowerOn
import EightBit.Proofs.Slices

/-!
# The command runs its program once

The command runs a program in slices, of one instruction with tracing and of many without, cuts the
last of them by the limit that it was given, and takes output and snapshots in between. All of this
comes to a single run with that limit as its budget:

* `Ready` is what holds at the beginning of every round of the loop, `Ready.next` that a round
  keeps it, and `reports_loop` that the rest of the loop writes what the rest of the run collects;
* `execute_reports_run` says so of the whole command, from any file that holds a program that fits,
  with a log that lets only errors through.
-/

namespace EightBit

/-! ## The log -/

/-- Nothing that a machine tells the log is an error. -/
theorem Event.level_record_ne_error (e : Event) : e.record.level ≠ .error := by
  cases e <;> exact Log.Level.noConfusion

namespace Command

/-! ## What an outcome consists of -/

namespace Outcome

theorem stdout_after (chunks : List Chunk) (o : Outcome) :
    (o.after chunks).stdout = stdout ⟨chunks, o.status⟩ ++ o.stdout := by
  rw [stdout, after, List.map_append, String.join_append]
  rfl

theorem stderr_after (chunks : List Chunk) (o : Outcome) :
    (o.after chunks).stderr = stderr ⟨chunks, o.status⟩ ++ o.stderr := by
  rw [stderr, after, List.map_append, String.join_append]
  rfl

end Outcome

/-- The line that says that the limit was reached. -/
def stoppedLine (executed : Nat) : String :=
  s!"stopped after {executed} instructions (--max-insts)" ++ "\n"

/-- The line that warns of a byte that is no opcode. -/
def warningLine (byte : UInt8) (pc executed : Nat) : String :=
  s!"warning: halted on unknown opcode {Numeral.binary byte.toNat} at " ++
    s!"address {Numeral.hex pc} after {executed} instructions" ++ "\n"

/-- The line that says that the run was interrupted. -/
def interruptedLine (executed : Nat) : String :=
  s!"interrupted after {executed} instructions" ++ "\n"

/-- The line that says that the program failed. -/
def faultLine (fault : Fault) (pc executed : Nat) : String :=
  "error: " ++ (s!"execution stopped at address {Numeral.hex pc} after {executed} instructions" ++
    ": " ++ fault.message) ++ "\n"

/-- What is said at the end about a run. A program that halts ends without a word. -/
def closing (e : Exit) : String :=
  match e.reason with
  | .completed => stoppedLine e.executed
  | .halted => ""
  | .unknownOpcode byte pc => warningLine byte pc e.executed
  | .interrupted => interruptedLine e.executed
  | .faulted fault pc => faultLine fault pc e.executed

/-- How the command ends after a run. -/
def endStatus : Stop → Status
  | .faulted .. => .faulted
  | .completed | .halted | .unknownOpcode .. | .interrupted => .success

theorem code_endStatus (stop : Stop) :
    (endStatus stop).code = match stop with | .faulted .. => 4 | _ => 0 := by
  rcases stop <;> rfl

/-- The end of the command after a run. -/
def ending (log : Log.Subscriber) (e : Exit) : Outcome where
  chunks :=
    match e.reason with
    | .halted => [.stderr (log.render [haltedRecord e.executed])]
    | _ => [.stderr (closing e)]
  status := endStatus e.reason

theorem stdout_ending (log : Log.Subscriber) (e : Exit) : (ending log e).stdout = "" := by
  rcases e with ⟨_ | _ | _ | _ | _, executed⟩ <;> rfl

theorem stderr_ending {log : Log.Subscriber} (h : log.ErrorsOnly) (e : Exit) :
    (ending log e).stderr = closing e := by
  have hone : ∀ text status, Outcome.stderr ⟨[.stderr text], status⟩ = text := by
    intro text status
    rw [Outcome.stderr, List.map_singleton, String.join_cons]
    exact String.append_empty
  rcases e with ⟨_ | _ | _ | _ | _, executed⟩
  case halted =>
    have hrecord : ∀ r ∈ [haltedRecord executed], r.level ≠ .error := by
      intro r hr
      rw [List.mem_singleton.mp hr]
      exact Log.Level.noConfusion
    exact (hone _ _).trans (h.render_eq hrecord)
  all_goals exact hone _ _

theorem length_chunks_ending (log : Log.Subscriber) (e : Exit) :
    (ending log e).chunks.length = 1 := by
  rcases e with ⟨_ | _ | _ | _ | _, executed⟩ <;> rfl

/-! ## The end of the command -/

section

variable {env : Environment}

theorem finish_after (chunks : List Chunk) (p : Progress env) :
    env.finish (p.after chunks) = (env.finish p).after chunks := by
  rcases p with ⟨written, e | _⟩
  · simp only [Environment.finish, Progress.after, Outcome.after, List.append_assoc]
  · rfl

/-- An error that was explained is told with its explanation before it. -/
theorem finish_explained (he : env.errors.Lawful) (text : String) {c : Cause}
    (hc : c.status ≠ .unreadable) :
    env.finish (.failed (env.errors.explain text (env.errors.wrap c))) =
      .fail c.status (text ++ ": " ++ c.message) := by
  have hstatus : exitStatus env.errors (env.errors.explain text (env.errors.wrap c)) = c.status :=
    (exitStatus_explain he text _).trans (exitStatus_wrap he c)
  simp only [Environment.finish, Progress.failed, Environment.complaint, hstatus, if_neg hc,
    he.fullMessage_explain, fullMessage_wrap_eq he hc]
  rfl

/-- An error with the file is told in its own words. The name of the command stands before them if
the file cannot be read. -/
theorem finish_imageError (he : env.errors.Lawful) (e : ImageError) :
    env.finish (.failed (env.errors.wrap (.image e))) =
      .report (imageStatus e) ((if imageStatus e = .unreadable then env.name.getD "ls8" ++ ": "
        else "error: ") ++ e.message) := by
  have hstatus : exitStatus env.errors (env.errors.wrap (.image e)) = imageStatus e :=
    exitStatus_wrap he (.image e)
  simp only [Environment.finish, Progress.failed, Environment.complaint, hstatus]
  split
  · rw [he.message_wrap]
    rfl
  · rename_i hne
    have hcause : (Cause.image e).status ≠ .unreadable := hne
    rw [fullMessage_wrap_eq he hcause]
    rfl

/-- A slice that does not use up its budget ends the command. -/
theorem finish_handleExit (he : env.errors.Lawful) {reason : Stop} (h : reason ≠ .completed)
    (executed : Nat) :
    env.finish ⟨(env.handleExit reason executed).1,
      (env.handleExit reason executed).2.map fun _ => ()⟩ = ending env.log ⟨reason, executed⟩ := by
  rcases reason with _ | _ | ⟨byte, pc⟩ | ⟨fault, pc⟩ | _
  case completed => exact absurd rfl h
  case faulted => exact finish_explained he _ (c := .fault fault) Status.noConfusion
  all_goals rfl

end

/-! ## The rounds of the loop -/

section

variable {env : Environment} {o : Options} {executed budget : Nat} {m : Machine o.config}

/-- The command from a round of its loop on. -/
def loop (env : Environment) (o : Options) (executed : Nat) (m : Machine o.config) : Outcome :=
  env.finish (env.runSlices o executed m)

theorem loop_of_limit (h : nextBudget o executed = none) :
    loop env o executed m = ending env.log ⟨.completed, executed⟩ := by
  rw [loop, Environment.runSlices]
  split
  · rfl
  · rename_i hbudget
    rw [h] at hbudget
    cases hbudget

/-- A round runs a slice, writes what came of it and does what its end asks for. -/
theorem runSlices_of_budget (h : nextBudget o executed = some budget) :
    let r := m.runSlice budget
    let total := executed + r.exit.executed
    env.runSlices o executed m =
      Progress.after (sliceChunks env.log r ++ (env.handleExit r.exit.reason total).1)
        (match (env.handleExit r.exit.reason total).2 with
        | .ok .again => env.runSlices o total (drained r.machine)
        | .ok .leave => ⟨[], .ok ()⟩
        | .error e => .failed e) := by
  intro r total
  rw [Environment.runSlices]
  split
  · rename_i hnone
    rw [hnone] at h
    cases h
  · rename_i budget' hsome
    rw [hsome] at h
    cases h
    dsimp only
    congr 1
    split <;> rename_i hcontrol <;> rw [hcontrol]

theorem loop_of_completed (hbudget : nextBudget o executed = some budget)
    (h : (m.runSlice budget).exit.reason = .completed) :
    loop env o executed m =
      (loop env o (executed + (m.runSlice budget).exit.executed)
        (drained (m.runSlice budget).machine)).after
        (sliceChunks env.log (m.runSlice budget)) := by
  rw [loop, runSlices_of_budget hbudget, h, finish_after]
  simp only [Environment.handleExit, List.append_nil]
  rfl

theorem loop_of_ended (he : env.errors.Lawful) (hbudget : nextBudget o executed = some budget)
    (h : (m.runSlice budget).exit.reason ≠ .completed) :
    loop env o executed m =
      (ending env.log ⟨(m.runSlice budget).exit.reason,
        executed + (m.runSlice budget).exit.executed⟩).after
        (sliceChunks env.log (m.runSlice budget)) := by
  rw [← finish_handleExit he h, ← finish_after, loop, runSlices_of_budget hbudget]
  rcases hcontrol : (env.handleExit (m.runSlice budget).exit.reason
    (executed + (m.runSlice budget).exit.executed)).2 with e | control
  · simp only [Progress.after, Progress.failed, List.append_nil]
    rfl
  · cases control with
    | again => exact absurd (env.completed_of_handleExit hcontrol) h
    | leave =>
      simp only [Progress.after, List.append_nil]
      rfl

end

/-! ## What holds in every round -/

/-- The limit that the loop was given, or the budget of a run that is not meant to have one. -/
def Options.limit (o : Options) : Nat :=
  o.maxInstructions.getD Machine.unlimited

/-- What holds at the beginning of a round, in which `executed` instructions have been completed:
the machine has nothing left to write and no interrupt, and the instructions counted and the
memory ahead are never more than the largest memory. -/
structure Ready (o : Options) (executed : Nat) (m : Machine o.config) : Prop where
  not_pending : m.interruptPending = false
  output_eq : m.output = []
  snapshots_eq : m.snapshots = []
  count_le : executed + m.remaining ≤ maxMemorySize
  executed_le : executed ≤ o.limit

variable {env : Environment} {o : Options} {executed budget : Nat} {m : Machine o.config}

/-- As no program is that long, a loop without a limit is one with the limit of a run that is not
meant to have one. -/
theorem nextBudget_eq (h : executed ≤ maxMemorySize) :
    nextBudget o executed =
      if o.limit ≤ executed then none
      else some (min (o.limit - executed) (sliceLength o)) := by
  have hslice : sliceLength o ≤ 4096 := by
    unfold sliceLength
    split <;> omega
  unfold nextBudget Options.limit
  rcases o.maxInstructions with _ | limit
  · have hmemory : executed ≤ 256 := h
    have hunlimited : 4096 + 256 < Machine.unlimited := by decide
    rw [Option.getD_none, if_neg (by omega), Nat.min_eq_right (by omega)]
  · rfl

/-- A round that uses up its budget leaves the loop ready for the next. -/
theorem Ready.next (h : Ready o executed m) (hbudget : nextBudget o executed = some budget)
    (hcompleted : (m.runSlice budget).exit.reason = .completed) :
    (m.runSlice budget).exit.executed = budget ∧
      (drained (m.runSlice budget).machine).remaining + 2 ≤ m.remaining ∧
      Ready o (executed + budget) (drained (m.runSlice budget).machine) := by
  have hpos := nextBudget_pos hbudget
  have hcount := h.count_le
  obtain ⟨hexecuted, hpending⟩ := Machine.executed_of_completed h.not_pending hcompleted
  obtain ⟨lines, hreaches, -⟩ := m.reaches_runSlice budget
  rw [hexecuted] at hreaches
  -- every instruction of the round has brought the machine two cells nearer to the end of memory
  obtain ⟨hlo, -, hin⟩ := hreaches.pc_bounds
  have hpc : m.pc + 2 * budget ≤ (m.runSlice budget).machine.pc := hlo
  have hinside : (m.runSlice budget).machine.pc ≤ o.config.memorySize :=
    hin.resolve_left (by omega)
  have hremaining : (drained (m.runSlice budget).machine).remaining + 2 * budget ≤
      m.remaining := by
    show o.config.memorySize - (m.runSlice budget).machine.pc + 2 * budget ≤
      o.config.memorySize - m.pc
    omega
  have hlimit : executed + budget ≤ o.limit := by
    rw [nextBudget_eq (by omega)] at hbudget
    split at hbudget
    · cases hbudget
    · cases hbudget
      omega
  exact ⟨hexecuted, by omega, hpending, rfl, rfl, by omega, hlimit⟩

/-! ## The whole loop -/

/-- An outcome says what a run has collected and how it ended. -/
structure Reports (outcome : Outcome) (e : Exit) {config : Config} (m : Machine config) : Prop where
  stdout_eq : outcome.stdout = Line.render m.output
  stderr_eq : outcome.stderr = Snapshot.render m.snapshots ++ closing e
  status_eq : outcome.status = endStatus e.reason

theorem stdout_sliceChunks (log : Log.Subscriber) {config : Config} (r : Run config)
    (status : Status) :
    Outcome.stdout ⟨sliceChunks log r, status⟩ = Line.render r.machine.output := by
  rw [Outcome.stdout, sliceChunks, List.map_cons, List.map_cons, List.map_singleton,
    String.join_cons, String.join_cons, String.join_cons, String.empty_append, String.empty_append]
  exact String.append_empty

/-- What is written after a slice goes before all that the rest of the run collects. -/
theorem Reports.after {outcome : Outcome} {e : Exit} {config : Config} {m : Machine config}
    (h : Reports outcome e m) {log : Log.Subscriber} (hlog : log.ErrorsOnly) (r : Run config) :
    Reports (outcome.after (sliceChunks log r)) e
      (m.behind r.machine.output r.machine.snapshots) := by
  have hevents : log.render (r.events.map (·.record)) = "" := by
    refine hlog.render_eq fun record hrecord => ?_
    obtain ⟨event, -, rfl⟩ := List.mem_map.mp hrecord
    exact event.level_record_ne_error
  have hstderr : Outcome.stderr ⟨sliceChunks log r, outcome.status⟩ =
      Snapshot.render r.machine.snapshots := by
    rw [Outcome.stderr, sliceChunks, List.map_cons, List.map_cons, List.map_singleton,
      String.join_cons, String.join_cons, String.join_cons, hevents, String.empty_append, String.empty_append]
    exact String.append_empty
  refine ⟨?_, ?_, h.status_eq⟩
  · rw [Outcome.stdout_after, stdout_sliceChunks, h.stdout_eq, ← Line.render_append]
    rfl
  · rw [Outcome.stderr_after, hstderr, h.stderr_eq, ← String.append_assoc,
      ← Snapshot.render_append]
    rfl

theorem reports_ending {log : Log.Subscriber} (hlog : log.ErrorsOnly) (e : Exit) {config : Config}
    {m : Machine config} (houtput : m.output = []) (hsnapshots : m.snapshots = []) :
    Reports (ending log e) e m := by
  refine ⟨?_, ?_, rfl⟩
  · rw [stdout_ending, houtput]
    rfl
  · rw [stderr_ending hlog, hsnapshots]
    exact String.empty_append.symm

/-- Nothing is lost between what is written after a round and what is left to the next. -/
theorem behind_drained {config : Config} (m : Machine config) :
    (drained m).behind m.output m.snapshots = m := by
  unfold Machine.behind drained Machine.takeSnapshots Machine.takeOutput
  rw [List.append_nil, List.append_nil]

/-- The rest of the loop writes what the rest of a run with the limit as its budget collects. -/
theorem reports_loop (he : env.errors.Lawful) (hlog : env.log.ErrorsOnly)
    (h : Ready o executed m) :
    let r := m.runSlice (o.limit - executed)
    Reports (loop env o executed m) ⟨r.exit.reason, executed + r.exit.executed⟩ r.machine := by
  -- induction on the memory ahead, which every round makes smaller
  induction hn : m.remaining using Nat.strong_induction_on generalizing executed m with
  | _ n ih =>
    have hcount := h.count_le
    have hnext : nextBudget o executed =
        if o.limit ≤ executed then none
        else some (min (o.limit - executed) (sliceLength o)) := nextBudget_eq (by omega)
    rcases hbudget : nextBudget o executed with _ | budget
    · have hzero : o.limit - executed = 0 := by
        rw [hbudget] at hnext
        split at hnext
        · omega
        · cases hnext
      rw [loop_of_limit hbudget, hzero]
      exact reports_ending hlog _ h.output_eq h.snapshots_eq
    · obtain ⟨rest, hlimit⟩ : ∃ rest, o.limit - executed = budget + rest := by
        rw [hbudget] at hnext
        split at hnext
        · cases hnext
        · cases hnext
          exact Nat.exists_eq_add_of_le (Nat.min_le_left _ _)
      dsimp only
      rw [hlimit]
      by_cases hcompleted : (m.runSlice budget).exit.reason = .completed
      · obtain ⟨hexecuted, hnearer, hready⟩ := h.next hbudget hcompleted
        obtain ⟨hexit, hmachine⟩ := Machine.runSlice_of_completed h.not_pending hcompleted rest
        -- the rest of the run is that of the machine whose output and snapshots were taken
        obtain ⟨hexit', hmachine'⟩ := Machine.runSlice_behind (m.runSlice budget).machine.output
          (m.runSlice budget).machine.snapshots hready.not_pending rest
        rw [behind_drained] at hexit' hmachine'
        have hrest : o.limit - (executed + budget) = rest := by omega
        have hreports := (ih _ (by omega) hready rfl).after hlog (m.runSlice budget)
        rw [hrest, Nat.add_assoc] at hreports
        rw [loop_of_completed hbudget hcompleted, hexecuted, hexit, hmachine, hexit',
          hmachine']
        exact hreports
      · obtain ⟨hexit, hmachine⟩ :=
          Machine.runSlice_of_not_completed h.not_pending hcompleted rest
        have hreports := (reports_ending hlog ⟨(m.runSlice budget).exit.reason,
          executed + (m.runSlice budget).exit.executed⟩
          (m := drained (m.runSlice budget).machine) rfl rfl).after hlog (m.runSlice budget)
        rw [behind_drained] at hreports
        rw [loop_of_ended he hbudget hcompleted, hexit, hmachine]
        exact hreports

/-- The loop ends: no more rounds use up their budget than the memory ahead has room for
instructions. -/
theorem length_chunks_loop_le (he : env.errors.Lawful) (h : Ready o executed m) :
    (loop env o executed m).chunks.length ≤ 3 * (m.remaining / 2) + 4 := by
  induction hn : m.remaining using Nat.strong_induction_on generalizing executed m with
  | _ n ih =>
    rcases hbudget : nextBudget o executed with _ | budget
    · rw [loop_of_limit hbudget, length_chunks_ending]
      omega
    · have hslice : (sliceChunks env.log (m.runSlice budget)).length = 3 := rfl
      by_cases hcompleted : (m.runSlice budget).exit.reason = .completed
      · obtain ⟨hexecuted, hnearer, hready⟩ := h.next hbudget hcompleted
        have hrest := ih _ (by omega) hready rfl
        rw [loop_of_completed hbudget hcompleted, hexecuted, Outcome.after, List.length_append,
          hslice]
        omega
      · rw [loop_of_ended he hbudget hcompleted, Outcome.after, List.length_append, hslice,
          length_chunks_ending]
        omega

/-- The rounds of the loop, by the instructions that have been completed and the machine. -/
inductive Round (o : Options) (m : Machine o.config) : Nat → Machine o.config → Prop where
  | first : Round o m 0 m
  | next {executed budget : Nat} {m' : Machine o.config} (h : Round o m executed m')
      (hbudget : nextBudget o executed = some budget)
      (hcompleted : (m'.runSlice budget).exit.reason = .completed) :
      Round o m (executed + (m'.runSlice budget).exit.executed)
        (drained (m'.runSlice budget).machine)

theorem Round.ready {m m' : Machine o.config} (h : Round o m executed m') (hm : Ready o 0 m) :
    Ready o executed m' := by
  induction h with
  | first => exact hm
  | next _ hbudget hcompleted ih =>
    obtain ⟨hexecuted, -, hready⟩ := ih.next hbudget hcompleted
    rw [hexecuted]
    exact hready

/-! ## The whole command -/

/-- A new machine with a program is ready for the first round. -/
theorem ready_of_load {valid : o.config.Valid} {program : List UInt8}
    (hload : (Machine.new valid).load program = .ok m) : Ready o 0 m := by
  unfold Machine.load at hload
  split at hload
  · cases hload
    have hsize : o.config.memorySize - 0 ≤ maxMemorySize := valid.memorySize_le
    exact ⟨rfl, rfl, rfl, by rw [Nat.zero_add]; exact hsize, Nat.zero_le _⟩
  · cases hload

/-- A machine that records snapshots starts in the same place as one that does not. -/
theorem exists_load_tracing {config : Config} {valid : config.Valid} {program : List UInt8}
    {m : Machine config} (hload : (Machine.new valid).load program = .ok m) (tracing : Bool) :
    ∃ m', (Machine.new (valid.tracing tracing)).load program = .ok m' ∧ m'.core = m.core := by
  unfold Machine.load at hload
  split at hload
  · rename_i memory hmemory
    cases hload
    have hmemory' : (Machine.new (valid.tracing tracing)).memory.load 0 program = .ok memory :=
      hmemory
    rw [Machine.load, hmemory']
    exact ⟨_, rfl, rfl⟩
  · cases hload

theorem run_of_image {content : Except ReadError ByteArray} {program : List UInt8}
    (hvalid : o.config.Valid) (h : Image.ofFile o.program content = .ok program)
    (env : Environment) : env.run o content = env.runProgram o (Machine.new hvalid) program := by
  rw [Environment.run, Machine.ofConfig_of_valid hvalid]
  dsimp only
  rw [h]

/-- With a program that fits, all that the command does is to log and to go through its loop. -/
theorem execute_eq {valid : o.config.Valid} {content : Except ReadError ByteArray}
    {program : List UInt8} (himage : Image.ofFile o.program content = .ok program)
    (hload : (Machine.new valid).load program = .ok m) (env : Environment) :
    env.execute o content =
      (loop env o 0 m).after [.stderr env.log.notice,
        .stderr (env.log.render [(Machine.loadEvent o.config program).record,
          loadedRecord o.program program.length])] := by
  rw [Environment.execute, run_of_image valid himage env, Environment.runProgram, hload]
  dsimp only
  rw [finish_after]
  rfl

theorem execute_reports (he : env.errors.Lawful) (hlog : env.log.ErrorsOnly)
    {valid : o.config.Valid} {content : Except ReadError ByteArray} {program : List UInt8}
    (himage : Image.ofFile o.program content = .ok program)
    (hload : (Machine.new valid).load program = .ok m) :
    Reports (env.execute o content) (m.runSlice o.limit).exit (m.runSlice o.limit).machine := by
  have hrecords : env.log.render
      [(Machine.loadEvent o.config program).record, loadedRecord o.program program.length] =
        "" := by
    refine hlog.render_eq fun r hr => ?_
    rcases List.mem_pair.mp hr with rfl | rfl <;> exact Log.Level.noConfusion
  have hloop := reports_loop he hlog (ready_of_load hload)
  dsimp only at hloop
  rw [Nat.sub_zero, Nat.zero_add] at hloop
  rw [execute_eq himage hload env, hlog.notice_eq, hrecords]
  refine ⟨?_, ?_, hloop.status_eq⟩
  · rw [Outcome.stdout_after, hloop.stdout_eq]
    exact String.empty_append
  · rw [Outcome.stderr_after, hloop.stderr_eq]
    exact String.empty_append

/-! ## Telling the closing lines apart -/

theorem head?_append {s t : String} {c : Char} (h : s.toList.head? = some c) :
    (s ++ t).toList.head? = some c := by
  rw [String.toList_append, List.head?_append, h]
  rfl

theorem head?_stoppedLine (executed : Nat) :
    (stoppedLine executed).toList.head? = some 's' :=
  head?_append (head?_append (head?_append rfl))

theorem head?_warningLine (byte : UInt8) (pc executed : Nat) :
    (warningLine byte pc executed).toList.head? = some 'w' :=
  head?_append (head?_append (head?_append (head?_append rfl)))

/-- The first letter of what is said at the end tells how the run ended. -/
theorem head?_closing (e : Exit) :
    (closing e).toList.head? =
      match e.reason with
      | .completed => some 's'
      | .halted => none
      | .unknownOpcode .. => some 'w'
      | .interrupted => some 'i'
      | .faulted .. => some 'e' := by
  rcases e with ⟨_ | _ | ⟨byte, pc⟩ | ⟨fault, pc⟩ | _, executed⟩
  · exact head?_stoppedLine executed
  · rfl
  · exact head?_warningLine byte pc executed
  · exact head?_append (head?_append rfl)
  · exact head?_append (head?_append (head?_append rfl))

theorem closing_eq_empty_iff (e : Exit) : closing e = "" ↔ e.reason = .halted := by
  refine ⟨fun h => ?_, fun h => by rw [closing, h]⟩
  have hhead := head?_closing e
  rw [h] at hhead
  split at hhead
  case h_2 hreason => exact hreason
  all_goals cases hhead

theorem closing_eq_stoppedLine_iff (e : Exit) :
    (∃ n, closing e = stoppedLine n) ↔ e.reason = .completed := by
  refine ⟨?_, fun h => ⟨e.executed, by rw [closing, h]⟩⟩
  rintro ⟨n, h⟩
  have hhead := head?_closing e
  rw [h, head?_stoppedLine] at hhead
  split at hhead
  case h_1 hreason => exact hreason
  all_goals cases hhead

theorem closing_eq_warningLine_iff (e : Exit) :
    (∃ byte pc n, closing e = warningLine byte pc n) ↔
      ∃ byte pc, e.reason = .unknownOpcode byte pc := by
  refine ⟨?_, ?_⟩
  · rintro ⟨byte, pc, n, h⟩
    have hhead := head?_closing e
    rw [h, head?_warningLine] at hhead
    split at hhead
    case h_3 hreason => exact ⟨_, _, hreason⟩
    all_goals cases hhead
  · rintro ⟨byte, pc, h⟩
    exact ⟨byte, pc, e.executed, by rw [closing, h]⟩

/-- The command runs its program once, however its loop cuts the run, whatever it was called by and
however errors are carried. With a file that holds a program that fits, and a log that was not told
anything, `r` is the run of a new machine with the program loaded and with the limit as its budget.
Then

* standard output is what that run prints, and the exit code tells whether it faulted;
* standard error has the trace lines of the run, of which there are none without tracing, and then
  what is said about its exit: no line if it halted, the line about the limit exactly if its budget
  was used up, and the warning exactly if it came upon a byte that is no opcode;
* tracing changes neither standard output nor the exit code;
* no round begins with more instructions completed than the limit allows, and the number of rounds
  is bounded by the size of memory. -/
theorem execute_reports_run {env : Environment} (he : env.errors.Lawful)
    (hlog : env.log.ErrorsOnly) {o : Options} (valid : o.config.Valid)
    {content : Except ReadError ByteArray} {program : List UInt8}
    (himage : Image.ofFile o.program content = .ok program)
    (hfits : program.length ≤ o.config.memorySize) :
    ∃ m, (Machine.new valid).load program = .ok m ∧
      let outcome := env.execute o content
      let r := m.runSlice (o.maxInstructions.getD Machine.unlimited)
      outcome.stdout = Line.render r.machine.output ∧
      outcome.status.code = (match r.exit.reason with | .faulted .. => 4 | _ => 0) ∧
      outcome.stderr = Snapshot.render r.machine.snapshots ++ closing r.exit ∧
      (o.config.tracing = false → r.machine.snapshots = []) ∧
      (closing r.exit = "" ↔ r.exit.reason = .halted) ∧
      ((∃ n, closing r.exit = stoppedLine n) ↔ r.exit.reason = .completed) ∧
      ((∃ byte pc n, closing r.exit = warningLine byte pc n) ↔
        ∃ byte pc, r.exit.reason = .unknownOpcode byte pc) ∧
      (∀ tracing,
        let outcome' := env.execute { o with config := { o.config with tracing } } content
        outcome'.stdout = outcome.stdout ∧ outcome'.status = outcome.status) ∧
      (∀ executed m' limit, Round o m executed m' → o.maxInstructions = some limit →
        executed ≤ limit) ∧
      outcome.chunks.length ≤ 3 * (o.config.memorySize / 2) + 6 := by
  obtain ⟨m, hload⟩ : ∃ m, (Machine.new valid).load program = .ok m :=
    ⟨_, Machine.load_of_le _ hfits⟩
  have hready := ready_of_load hload
  have hreports := execute_reports he hlog himage hload
  refine ⟨m, hload, hreports.stdout_eq, ?_, hreports.stderr_eq, fun htracing => ?_,
    closing_eq_empty_iff _, closing_eq_stoppedLine_iff _, closing_eq_warningLine_iff _,
    fun tracing => ?_, ?_, ?_⟩
  · rw [hreports.status_eq]
    exact code_endStatus _
  · have hsnapshots := Machine.snapshots_runSlice htracing hready.not_pending o.limit
    exact hsnapshots.trans hready.snapshots_eq
  · obtain ⟨m', hload', hcore⟩ := exists_load_tracing hload tracing
    have hready' := ready_of_load (o := { o with config := { o.config with tracing } }) hload'
    have hreports' :=
      execute_reports (o := { o with config := { o.config with tracing } }) he hlog himage hload'
    obtain ⟨hexit, hlines⟩ := Machine.runSlice_of_core_eq hcore hready.not_pending
      hready'.not_pending (hready'.output_eq.trans hready.output_eq.symm) o.limit
    refine ⟨?_, ?_⟩
    · rw [hreports.stdout_eq, ← hlines]
      exact hreports'.stdout_eq
    · rw [hreports.status_eq, ← hexit]
      exact hreports'.status_eq
  · intro executed m' limit hround hsome
    have hle := (hround.ready hready).executed_le
    rw [Options.limit, hsome] at hle
    exact hle
  · have hlength : (loop env o 0 m).chunks.length ≤ 3 * (m.remaining / 2) + 4 :=
      length_chunks_loop_le he hready
    have hremaining : m.remaining ≤ o.config.memorySize := Nat.sub_le _ _
    rw [execute_eq himage hload env, Outcome.after, List.length_append, List.length_cons,
      List.length_singleton]
    omega

/-- The command with tracing and a limit, for a program that prints 7 and then fails. -/
def failing : Options where
  program := "failing.ls8"
  config := ⟨8, 8, .print, true⟩
  maxInstructions := some 3

theorem valid_failing : failing.config.Valid :=
  ⟨by decide, by decide, by decide⟩

/-- The file with that program. -/
def failingFile : ByteArray :=
  "10000010 # LDI\n0\n111\n\n01000111 # PRN\n0\n01000111\n1001\n".toByteArray

/-- The command called by a path, with a log that was not told anything. -/
def called : Environment :=
  ⟨Explained.carrier, .errors, some "target/ls8"⟩

/-- What `failing` prints before it fails is written, and the exit code is that of a fault. -/
theorem execute_failing :
    called.errors.Lawful ∧ called.log.ErrorsOnly ∧
      Image.ofFile failing.program (.ok failingFile) = .ok [130, 0, 7, 71, 0, 71, 9] ∧
      (called.execute failing (.ok failingFile)).stdout = "Value = 7\n" ∧
      (called.execute failing (.ok failingFile)).status.code = 4 := by
  have himage : Image.ofFile failing.program (.ok failingFile) =
      .ok [130, 0, 7, 71, 0, 71, 9] := by
    unfold Image.ofFile failingFile
    dsimp only [Except.mapError, bind, Except.bind]
    rw [Utf8.decode_toByteArray]
    rfl
  have he : called.errors.Lawful := Explained.lawful_carrier
  have hlog : called.log.ErrorsOnly := Log.Subscriber.errorsOnly_errors
  obtain ⟨m, hload, hstdout, hcode, -⟩ :=
    execute_reports_run he hlog valid_failing himage (by decide)
  have hm : { Machine.new valid_failing with
      store := ⟨⟨#v[130, 0, 7, 71, 0, 71, 9, 0]⟩, (Machine.new valid_failing).registers⟩ } =
        m := by
    apply Except.ok.inj
    rw [← hload]
    rfl
  have hreason : (m.runSlice (failing.maxInstructions.getD Machine.unlimited)).exit.reason =
      .faulted (.invalidRegister 9) 5 := by
    subst hm
    decide +kernel
  refine ⟨he, hlog, himage, ?_, ?_⟩
  · rw [hstdout]
    subst hm
    decide +kernel
  · rw [hcode, hreason]

end Command

end EightBit
