import EightBit.Proofs.Decoding
import EightBit.Proofs.ImageGrammar
import EightBit.Proofs.SingleRun

/-!
# The stages of the command

Before the command runs a program it builds the machine, reads the file, decodes it, reads the bytes
off its lines and loads them. The first of these that fails decides the exit code and what is said,
whatever a later one would have had to say (`FirstFailure`), and nothing is written to standard
output (`FirstFailure.execute_eq`). If none fails, the exit code is that of the run, whatever is
logged (`loop_log`).
-/

namespace EightBit

/-! ## Messages in two pieces -/

theorem ConfigError.message_stackPointer (value : UInt8) (size : Nat) :
    (ConfigError.stackPointer value size).message =
      s!"initial stack pointer {Numeral.hex value.toNat}" ++
        s!" is outside memory of {size} bytes" := by
  change s!"initial stack pointer {Numeral.hex value.toNat} is outside memory of {size} bytes" = _
  simp only [String.append_assoc]

theorem ProgramTooLarge.message_eq (e : ProgramTooLarge) :
    e.message = s!"program of {e.length} bytes does not fit in " ++
      s!"{e.capacity} bytes of memory" := by
  rw [message]
  simp only [String.append_assoc, toString]

namespace Command

variable {env : Environment} {o : Options} {content : Except ReadError ByteArray}

/-! ## The failures -/

/-- The first stage that fails for a file in some state, by the exit code and the line about it,
when the command is called by some name. A rule says nothing of the stages after its own. -/
inductive FirstFailure (name : Option String) (o : Options) :
    Except ReadError ByteArray → UInt32 → String → Prop where
  | memorySize {content : Except ReadError ByteArray}
      (hsize : o.config.memorySize = 0 ∨ 256 < o.config.memorySize) :
      FirstFailure name o content 1 ("error: " ++ ("invalid machine configuration" ++ ": " ++
        s!"invalid memory size {o.config.memorySize} (expected 1..={maxMemorySize})"))
  | stackPointer {content : Except ReadError ByteArray}
      (hsize : 0 < o.config.memorySize ∧ o.config.memorySize ≤ 256)
      (hpointer : o.config.memorySize < o.config.stackPointer.toNat) :
      FirstFailure name o content 1 ("error: " ++ ("invalid machine configuration" ++ ": " ++
        (s!"initial stack pointer {Numeral.hex o.config.stackPointer.toNat}" ++
          s!" is outside memory of {o.config.memorySize} bytes")))
  | missing (hvalid : o.config.Valid) :
      FirstFailure name o (.error .missing) 2
        (name.getD "ls8" ++ ": " ++ s!"{o.program} not found")
  | unreadable {why : ReadError} (hvalid : o.config.Valid) (hwhy : why ≠ .missing) :
      FirstFailure name o (.error why) 2
        (name.getD "ls8" ++ ": " ++ s!"failed to read {o.program}: {why.reason}")
  /-- The length of the longest prefix that is text is named, whatever the lines are. -/
  | notUtf8 {bytes : ByteArray} {n : Nat} (hvalid : o.config.Valid) (hlt : n < bytes.size)
      (hlongest : Utf8.LongestText bytes n) :
      FirstFailure name o (.ok bytes) 3
        ("error: " ++ s!"{o.program} is not UTF-8 text (invalid byte at offset {n})")
  /-- The first line whose token is neither empty nor a literal is named, however many bytes the
  other lines give. -/
  | malformed {text : String} {before after : List (List Char)} {t : List Char}
      (hvalid : o.config.Valid) (htokens : Image.TokensOf text.toList (before ++ t :: after))
      (hbefore : ∀ t' ∈ before, t' ≠ [] → Image.IsLiteral t') (hne : t ≠ [])
      (hnot : ¬ Image.IsLiteral t) :
      FirstFailure name o (.ok text.toByteArray) 3 ("error: " ++
        (s!"line {before.length + 1}: " ++ String.ofList (Quoted.quote t) ++
          " is not an 8-bit binary literal"))
  | tooLarge {text : String} {tokens : List (List Char)} (hvalid : o.config.Valid)
      (htokens : Image.TokensOf text.toList tokens)
      (hliteral : ∀ t ∈ tokens, t ≠ [] → Image.IsLiteral t)
      (hlarge : o.config.memorySize < (tokens.filter (· ≠ [])).length) :
      FirstFailure name o (.ok text.toByteArray) 3 ("error: " ++
        (s!"failed to load {o.program}" ++ ": " ++
          (s!"program of {(tokens.filter (· ≠ [])).length} bytes does not fit in " ++
            s!"{o.config.memorySize} bytes of memory")))

/-! ## The stages one by one -/

theorem run_of_config_error {e : ConfigError} (h : Machine.ofConfig o.config = .error e)
    (env : Environment) :
    env.run o content =
      .failed (env.errors.explain "invalid machine configuration"
        (env.errors.wrap (.machine (.config e)))) := by
  rw [Environment.run, h]

theorem run_of_image_error {e : ImageError} (hvalid : o.config.Valid)
    (h : Image.ofFile o.program content = .error e) (env : Environment) :
    env.run o content = .failed (env.errors.wrap (.image e)) := by
  rw [Environment.run, Machine.ofConfig_of_valid hvalid]
  dsimp only
  rw [h]

theorem ofConfig_of_memorySize {config : Config}
    (h : config.memorySize = 0 ∨ 256 < config.memorySize) :
    Machine.ofConfig config = .error (.memorySize config.memorySize) := by
  have hsize : ¬ (0 < config.memorySize ∧ config.memorySize ≤ maxMemorySize) := by
    unfold maxMemorySize
    omega
  rw [Machine.ofConfig, dif_neg hsize]

theorem ofConfig_of_stackPointer {config : Config}
    (hsize : 0 < config.memorySize ∧ config.memorySize ≤ 256)
    (h : config.memorySize < config.stackPointer.toNat) :
    Machine.ofConfig config = .error (.stackPointer config.stackPointer config.memorySize) := by
  have hsize' : 0 < config.memorySize ∧ config.memorySize ≤ maxMemorySize := hsize
  rw [Machine.ofConfig, dif_pos hsize', dif_neg (Nat.not_le_of_lt h)]

theorem ofFile_of_decode_error {path : String} {bytes : ByteArray} {n : Nat}
    (h : Utf8.decode bytes = .error n) :
    Image.ofFile path (.ok bytes) = .error (.notUtf8 path n) := by
  unfold Image.ofFile
  dsimp only [Except.mapError, bind, Except.bind]
  rw [h]

theorem ofFile_of_text (path text : String) :
    Image.ofFile path (.ok text.toByteArray) = (Image.parse text).mapError .invalidLine := by
  unfold Image.ofFile
  dsimp only [Except.mapError, bind, Except.bind]
  rw [Utf8.decode_toByteArray]

theorem load_of_lt {config : Config} (m : Machine config) {program : List UInt8}
    (h : config.memorySize < program.length) :
    m.load program = .error ⟨program.length, config.memorySize⟩ := by
  rw [Machine.load, Memory.load, if_neg (by omega)]

/-- The first token that is not read is reported with its line. -/
theorem parse_of_malformed {text : String} {before after : List (List Char)} {t : List Char}
    (htokens : Image.TokensOf text.toList (before ++ t :: after))
    (hbefore : ∀ t' ∈ before, t' ≠ [] → Image.IsLiteral t') (hne : t ≠ [])
    (hnot : ¬ Image.IsLiteral t) :
    Image.parse text = .error ⟨before.length + 1, String.ofList t⟩ := by
  rw [Image.parse, Image.parseLines_eq_error_iff]
  refine ⟨before, t, after, (Image.tokensOf_iff.mp htokens).symm, hbefore, ?_, ?_⟩
  · exact fun hread => hnot (hread hne)
  · rw [Nat.add_comm]

/-- A text whose tokens are all read has as many bytes as tokens that count. -/
theorem exists_parse_of_literals {text : String} {tokens : List (List Char)}
    (htokens : Image.TokensOf text.toList tokens)
    (hliteral : ∀ t ∈ tokens, t ≠ [] → Image.IsLiteral t) :
    ∃ program, Image.parse text = .ok program ∧
      program.length = (tokens.filter (· ≠ [])).length := by
  rw [Image.tokensOf_iff] at htokens
  rw [htokens] at hliteral ⊢
  rcases hparse : Image.parse text with e | program
  · rw [Image.parse, Image.parseLines_eq_error_iff] at hparse
    obtain ⟨before, t, after, hsplit, -, hnot, -⟩ := hparse
    refine absurd (hliteral t ?_) hnot
    rw [hsplit]
    exact List.mem_append_right _ List.mem_cons_self
  · refine ⟨program, rfl, ?_⟩
    rw [Image.parse, Image.parseLines_eq_ok_iff] at hparse
    have hlength := congrArg List.length hparse.2
    rw [List.length_map, List.length_map] at hlength
    exact hlength

/-- Whatever fails first, the command says so and does nothing else. -/
theorem FirstFailure.finish_run_eq (he : env.errors.Lawful) {code : UInt32} {line : String}
    (h : FirstFailure env.name o content code line) :
    ∃ status : Status, status.code = code ∧
      env.finish (env.run o content) = .report status line := by
  cases h with
  | memorySize hsize =>
    refine ⟨.usage, rfl, ?_⟩
    rw [run_of_config_error (ofConfig_of_memorySize hsize) env,
      finish_explained he _ Status.noConfusion]
    rfl
  | stackPointer hsize hpointer =>
    refine ⟨.usage, rfl, ?_⟩
    rw [run_of_config_error (ofConfig_of_stackPointer hsize hpointer) env,
      finish_explained he _ Status.noConfusion, Cause.message, MachineError.message,
      ConfigError.message_stackPointer]
    rfl
  | missing hvalid =>
    have hfile : Image.ofFile o.program (.error .missing) =
        .error (.unreadable o.program .missing) := rfl
    refine ⟨.unreadable, rfl, ?_⟩
    rw [run_of_image_error hvalid hfile env, finish_imageError he]
    rfl
  | @unreadable why hvalid hwhy =>
    have hfile : Image.ofFile o.program (.error why) = .error (.unreadable o.program why) := rfl
    refine ⟨.unreadable, rfl, ?_⟩
    rw [run_of_image_error hvalid hfile env, finish_imageError he]
    rcases why
    case missing => exact absurd rfl hwhy
    all_goals rfl
  | notUtf8 hvalid hlt hlongest =>
    have hdecode := Utf8.decode_eq_error_iff.mpr ⟨hlt, hlongest⟩
    refine ⟨.badImage, rfl, ?_⟩
    rw [run_of_image_error hvalid (ofFile_of_decode_error hdecode) env, finish_imageError he]
    rfl
  | @malformed text before after t hvalid htokens hbefore hne hnot =>
    have hparse := parse_of_malformed htokens hbefore hne hnot
    have hfile : Image.ofFile o.program (.ok text.toByteArray) =
        .error (.invalidLine ⟨before.length + 1, String.ofList t⟩) := by
      rw [ofFile_of_text, hparse]
      rfl
    refine ⟨.badImage, rfl, ?_⟩
    rw [run_of_image_error hvalid hfile env, finish_imageError he, ImageError.message,
      InvalidLine.message, String.toList_ofList]
    rfl
  | @tooLarge text tokens hvalid htokens hliteral hlarge =>
    obtain ⟨program, hparse, hlength⟩ := exists_parse_of_literals htokens hliteral
    have hfile : Image.ofFile o.program (.ok text.toByteArray) = .ok program := by
      rw [ofFile_of_text, hparse]
      rfl
    rw [← hlength] at hlarge ⊢
    refine ⟨.badImage, rfl, ?_⟩
    rw [run_of_image hvalid hfile env, Environment.runProgram, load_of_lt _ hlarge]
    dsimp only
    rw [finish_explained he _ Status.noConfusion, Cause.message, MachineError.message,
      ProgramTooLarge.message_eq]
    rfl

/-- If no stage fails, there is a program that was loaded. -/
theorem exists_load_of_no_failure {name : Option String}
    (h : ∀ code line, ¬ FirstFailure name o content code line) :
    ∃ (valid : o.config.Valid) (program : List UInt8) (m : Machine o.config),
      Image.ofFile o.program content = .ok program ∧
        (Machine.new valid).load program = .ok m := by
  have hsize : 0 < o.config.memorySize ∧ o.config.memorySize ≤ 256 := by
    by_contra hsize
    exact h _ _ (.memorySize (by omega))
  have hpointer : o.config.stackPointer.toNat ≤ o.config.memorySize := by
    by_contra hpointer
    exact h _ _ (.stackPointer hsize (by omega))
  have valid : o.config.Valid := ⟨hsize.1, hsize.2, hpointer⟩
  rcases content with why | bytes
  · by_cases hwhy : why = .missing
    · rw [hwhy] at h
      exact absurd (.missing valid) (h _ _)
    · exact absurd (.unreadable valid hwhy) (h _ _)
  rcases hdecode : Utf8.decode bytes with n | text
  · obtain ⟨hlt, hlongest⟩ := Utf8.decode_eq_error_iff.mp hdecode
    exact absurd (.notUtf8 valid hlt hlongest) (h _ _)
  obtain rfl := Utf8.decode_eq_ok_iff.mp hdecode
  have htokens : Image.TokensOf text.toList ((Lines.split text.toList).map Image.token) :=
    Image.tokensOf_iff.mpr rfl
  rcases hparse : Image.parse text with e | program
  · rw [Image.parse, Image.parseLines_eq_error_iff] at hparse
    obtain ⟨before, t, after, hsplit, hbefore, hnot, -⟩ := hparse
    obtain ⟨hne, hnot⟩ := Classical.not_imp.mp hnot
    rw [hsplit] at htokens
    exact absurd (.malformed valid htokens hbefore hne hnot) (h _ _)
  have hfile : Image.ofFile o.program (.ok text.toByteArray) = .ok program := by
    rw [ofFile_of_text, hparse]
    rfl
  have hfits : program.length ≤ o.config.memorySize := by
    by_contra hlarge
    have hliteral := (Image.parseLines_eq_ok_iff.mp hparse).1
    obtain ⟨program', hparse', hlength⟩ := exists_parse_of_literals htokens hliteral
    rw [hparse] at hparse'
    cases hparse'
    exact h _ _ (.tooLarge valid htokens hliteral (by omega))
  exact ⟨valid, program, _, hfile, Machine.load_of_le _ hfits⟩

/-! ## What is written -/

/-- What is said about the log is on standard error, in front of all else. -/
theorem stdout_execute (env : Environment) (o : Options) (content : Except ReadError ByteArray) :
    (env.execute o content).stdout = (env.finish (env.run o content)).stdout := by
  rw [Environment.execute, Outcome.stdout_after]
  exact String.empty_append

theorem stderr_execute (env : Environment) (o : Options) (content : Except ReadError ByteArray) :
    (env.execute o content).stderr =
      env.log.notice ++ (env.finish (env.run o content)).stderr := by
  rw [Environment.execute, Outcome.stderr_after, Outcome.stderr, List.map_singleton, String.join_cons]
  exact congrArg (· ++ _) String.append_empty

/-- Whatever fails first, the line about it is all that is written, behind what is said about the
log. -/
theorem FirstFailure.execute_eq (he : env.errors.Lawful) {code : UInt32} {line : String}
    (h : FirstFailure env.name o content code line) :
    (env.execute o content).status.code = code ∧ (env.execute o content).stdout = "" ∧
      (env.execute o content).stderr = env.log.notice ++ (line ++ "\n") := by
  obtain ⟨status, hcode, hfinish⟩ := h.finish_run_eq he
  refine ⟨?_, ?_, ?_⟩
  · rw [← hcode, Environment.execute, hfinish]
    rfl
  · rw [stdout_execute, hfinish]
    rfl
  · rw [stderr_execute, hfinish, Outcome.report, Outcome.stderr, List.map_singleton, String.join_cons]
    exact congrArg _ String.append_empty

/-! ## The run -/

/-- What is logged decides neither about the exit code of a run nor about what it prints. -/
theorem loop_log (he : env.errors.Lawful) (log : Log.Subscriber) (executed : Nat)
    (m : Machine o.config) :
    (loop env o executed m).status = (loop { env with log } o executed m).status ∧
      (loop env o executed m).stdout = (loop { env with log } o executed m).stdout := by
  -- induction on the memory ahead, which every round makes smaller
  induction hn : m.remaining using Nat.strong_induction_on generalizing executed m with
  | _ n ih =>
    have he' : ({ env with log } : Environment).errors.Lawful := he
    rcases hbudget : nextBudget o executed with _ | budget
    · rw [loop_of_limit hbudget, loop_of_limit hbudget, stdout_ending, stdout_ending]
      exact ⟨rfl, rfl⟩
    · by_cases hcompleted : (m.runSlice budget).exit.reason = .completed
      · have hnearer : (drained (m.runSlice budget).machine).remaining < m.remaining :=
          Machine.remaining_runSlice_lt (nextBudget_pos hbudget) hcompleted
        obtain ⟨hstatus, hstdout⟩ := ih _ (hn ▸ hnearer)
          (executed + (m.runSlice budget).exit.executed) (drained (m.runSlice budget).machine) rfl
        rw [loop_of_completed hbudget hcompleted, loop_of_completed hbudget hcompleted,
          Outcome.stdout_after, Outcome.stdout_after, stdout_sliceChunks, stdout_sliceChunks,
          hstdout]
        exact ⟨hstatus, rfl⟩
      · rw [loop_of_ended he hbudget hcompleted, loop_of_ended he' hbudget hcompleted,
          Outcome.stdout_after, Outcome.stdout_after, stdout_sliceChunks, stdout_sliceChunks,
          stdout_ending, stdout_ending]
        exact ⟨rfl, rfl⟩

/-- With a program that was loaded, the command prints what the run prints and ends as it ends,
whatever is logged. -/
theorem execute_of_load (he : env.errors.Lawful) {valid : o.config.Valid} {program : List UInt8}
    {m : Machine o.config} (hfile : Image.ofFile o.program content = .ok program)
    (hload : (Machine.new valid).load program = .ok m) :
    (env.execute o content).stdout = Line.render (m.runSlice o.limit).machine.output ∧
      (env.execute o content).status = endStatus (m.runSlice o.limit).exit.reason := by
  -- what is logged before the rounds of the loop is on standard error
  have hrounds : ∀ env : Environment,
      (env.execute o content).status = (loop env o 0 m).status ∧
        (env.execute o content).stdout = (loop env o 0 m).stdout := by
    intro env
    rw [execute_eq hfile hload env, Outcome.stdout_after]
    exact ⟨rfl, String.empty_append⟩
  obtain ⟨hstatus, hstdout⟩ := loop_log he .errors 0 m
  have he' : ({ env with log := .errors } : Environment).errors.Lawful := he
  have hquiet := execute_reports he' Log.Subscriber.errorsOnly_errors hfile hload
  constructor
  · rw [(hrounds env).2, hstdout, ← (hrounds { env with log := .errors }).2]
    exact hquiet.stdout_eq
  · rw [(hrounds env).1, hstatus, ← (hrounds { env with log := .errors }).1]
    exact hquiet.status_eq

/-- The command reports the first stage that fails, in a fixed order: a memory size that no machine
has, a stack pointer above the memory, a file that is missing or cannot be read, bytes that are not
UTF-8, a line that is no byte, and an image larger than the memory. Each has its exit code, whatever
is wrong with the stages after it, and its line on standard error, behind what is said about the
log; standard output is empty. If no stage fails, the file holds a program that was loaded into a
new machine, standard output is what the run of that machine prints, and the exit code tells whether
it faulted. All this is so whatever the command was called by, whatever is logged and however errors
are carried. -/
theorem execute_first_failure {env : Environment} (he : env.errors.Lawful) (o : Options)
    (content : Except ReadError ByteArray) :
    let outcome := env.execute o content
    (∀ code line, FirstFailure env.name o content code line →
      outcome.status.code = code ∧ outcome.stdout = "" ∧
        outcome.stderr = env.log.notice ++ (line ++ "\n")) ∧
    ((∀ code line, ¬ FirstFailure env.name o content code line) →
      ∃ (valid : o.config.Valid) (program : List UInt8) (m : Machine o.config),
        Image.ofFile o.program content = .ok program ∧
        (Machine.new valid).load program = .ok m ∧
        let r := m.runSlice (o.maxInstructions.getD Machine.unlimited)
        outcome.stdout = Line.render r.machine.output ∧
          outcome.status.code = match r.exit.reason with | .faulted .. => 4 | _ => 0) := by
  refine ⟨fun code line h => h.execute_eq he, fun h => ?_⟩
  obtain ⟨valid, program, m, hfile, hload⟩ := exists_load_of_no_failure h
  obtain ⟨hstdout, hstatus⟩ := execute_of_load he hfile hload
  refine ⟨valid, program, m, hfile, hload, hstdout, ?_⟩
  rw [hstatus]
  exact code_endStatus _

/-- The command for a machine with two cells. -/
def cramped : Options where
  program := "cramped.ls8"
  config := ⟨2, 0, .print, false⟩
  maxInstructions := none

/-- A text with a line that is no byte, among more bytes than the machine has cells. -/
def crampedText : String :=
  "1\n102 # no byte\n10\n11\n"

/-- A file that is missing is told of by the name of the command. A line that is no byte is told of
in place of a memory that is too small. -/
theorem execute_cramped :
    called.errors.Lawful ∧
      (called.execute cramped (.error .missing)).status.code = 2 ∧
      (called.execute cramped (.error .missing)).stderr =
        "target/ls8: cramped.ls8 not found\n" ∧
      (called.execute cramped (.ok crampedText.toByteArray)).status.code = 3 ∧
      (called.execute cramped (.ok crampedText.toByteArray)).stdout = "" ∧
      (called.execute cramped (.ok crampedText.toByteArray)).stderr =
        "error: line 2: \"102\" is not an 8-bit binary literal\n" := by
  have he : called.errors.Lawful := Explained.lawful_carrier
  have hvalid : cramped.config.Valid := ⟨by decide, by decide, by decide⟩
  have htokens : Image.TokensOf crampedText.toList
      ([['1']] ++ ['1', '0', '2'] :: [['1', '0'], ['1', '1']]) :=
    Image.tokensOf_iff.mpr (by decide +kernel)
  have hbefore : ∀ t ∈ [['1']], t ≠ [] → Image.IsLiteral t := by
    intro t ht _
    rw [List.mem_singleton.mp ht]
    exact ⟨fun c hc => Or.inr (List.mem_singleton.mp hc), by decide +kernel⟩
  have hnot : ¬ Image.IsLiteral ['1', '0', '2'] := by
    rintro ⟨hdigits, -⟩
    exact absurd (hdigits '2' (by simp)) (by decide)
  obtain ⟨hcode, -, hstderr⟩ :=
    (execute_first_failure he cramped (.error .missing)).1 _ _ (.missing hvalid)
  obtain ⟨hcode', hstdout', hstderr'⟩ :=
    (execute_first_failure he cramped (.ok crampedText.toByteArray)).1 _ _
      (.malformed hvalid htokens hbefore (by decide) hnot)
  refine ⟨he, hcode, ?_, hcode', hstdout', ?_⟩
  · rw [hstderr]
    decide +kernel
  · rw [hstderr']
    decide +kernel

end Command

end EightBit
