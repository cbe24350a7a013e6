import EightBit.Proofs.Interrupts
import EightBit.Proofs.Records

/-!
# Output that is taken in pieces

The output of a machine may be taken at any time, and what waits to be taken is not looked at by
anything but the requests that read it (`serve_prepend`). So taking it early only moves lines from
the machine to the pieces that were taken (`exists_taken`), and neither what is printed nor anything
else depends on when it is done (`output_independent_of_drains`).

Each piece is made of whole lines. The lines are those that instructions print, a byte or a product
of two bytes, and their text is `IsOutputLine`.
-/

namespace EightBit

/-! ## The text of a line -/

/-- The digits of a number in decimal, without leading zeros. -/
structure IsDecimal (digits : List Char) (n : Nat) : Prop where
  isDigit : ∀ c ∈ digits, c.isDigit = true
  value : Nat.ofDigitChars 10 digits 0 = n
  ne_nil : digits ≠ []
  eq_of_leading_zero : digits.head? = some '0' → digits = ['0']

/-- The lines of text that a program can print, without their ends. -/
inductive IsOutputLine : String → Prop where
  | value {digits : List Char} {v : Nat} (hdigits : IsDecimal digits v) (hv : v ≤ 255) :
      IsOutputLine ("Value = " ++ String.ofList digits)
  | product {digits : List Char} {p : Nat} (hdigits : IsDecimal digits p) (hp : p ≤ 65025) :
      IsOutputLine ("Multiplying operation result: " ++ String.ofList digits)

/-- Only the numeral of zero begins with a zero. -/
theorem toDigits_of_leading_zero (n : Nat) (h : (Nat.toDigits 10 n).head? = some '0') :
    n = 0 := by
  -- induction on the digits but the last, which begin with the same digit
  induction n using Nat.strongRecOn with
  | ind n ih =>
    rcases Nat.lt_or_ge n 10 with hlt | hge
    · rw [Nat.toDigits_of_lt_base hlt, List.head?_cons] at h
      exact Nat.digitChar_eq_zero.mp (Option.some.inj h)
    · have hfront : Nat.toDigits 10 (n / 10) ≠ [] := Nat.toDigits_ne_nil
      rw [Nat.toDigits_of_base_le (by decide) hge, List.head?_append_of_ne_nil _ hfront] at h
      have hzero : n / 10 = 0 := ih (n / 10) (by omega) h
      omega

theorem isDecimal_toDigits (n : Nat) : IsDecimal (Nat.toDigits 10 n) n where
  isDigit _ hc := Nat.isDigit_of_mem_toDigits (by decide) (by decide) hc
  value := Nat.ofDigitChars_ten_toDigits
  ne_nil := Nat.toDigits_ne_nil
  eq_of_leading_zero h := by
    rw [toDigits_of_leading_zero n h]
    rfl

/-- What a line tells is a byte or a product of two bytes. -/
def Line.InRange : Line → Prop
  | .value _ => True
  | .product n => n ≤ 255 * 255

theorem Line.isOutputLine_text {line : Line} (h : line.InRange) : IsOutputLine line.text := by
  cases line with
  | value byte =>
    have hbyte : byte.toNat < 256 := byte.toNat_lt
    have htext : (Line.value byte).text =
        "Value = " ++ String.ofList (Nat.toDigits 10 byte.toNat) :=
      congrArg ("Value = " ++ ·) Nat.toString_eq_ofList_toDigits
    rw [htext]
    exact .value (isDecimal_toDigits byte.toNat) (by omega)
  | product n =>
    have htext : (Line.product n).text =
        "Multiplying operation result: " ++ String.ofList (Nat.toDigits 10 n) :=
      congrArg ("Multiplying operation result: " ++ ·) Nat.toString_eq_ofList_toDigits
    rw [htext]
    exact .product (isDecimal_toDigits n) h

/-- The line of an instruction is in range, whatever the registers hold. -/
theorem Instruction.inRange_of_line? {i : Instruction} {registers : Registers} {line : Line}
    (h : i.line? registers = some line) : line.InRange := by
  cases i with
  | prn name =>
    simp only [line?] at h
    split at h
    · cases h
      trivial
    · cases h
  | mul left right =>
    simp only [line?] at h
    split at h
    · rename_i x y _ _
      cases h
      have hx : x.toNat < 256 := x.toNat_lt
      have hy : y.toNat < 256 := y.toNat_lt
      exact Nat.mul_le_mul (by omega) (by omega)
    · cases h
  | hlt | ldi | push | pop => cases h

/-! ## Requests that read the output -/

/-- Whether the reply to a request is the output that waits. -/
def Request.readsOutput : Request → Bool
  | .peekOutput | .takeOutput => true
  | .load _ | .loadImage _ | .readMemory _ | .readRegister _ | .write .. | .setRegister ..
  | .setPc _ | .combineNamed .. | .combine .. | .step | .run | .runSlice _ | .traceLine
  | .takeSnapshots | .dumpMemory | .stackPointer | .reset | .interrupt | .isInterruptPending
  | .config | .dumpInLine | .dumpInLines => false

/-- A history in which the output is never taken. -/
def withoutDrains (history : List Request) : List Request :=
  history.filter (· ≠ .takeOutput)

theorem withoutDrains_cons_takeOutput (rest : List Request) :
    withoutDrains (.takeOutput :: rest) = withoutDrains rest :=
  rfl

theorem withoutDrains_cons_of_ne {request : Request} (h : request ≠ .takeOutput)
    (rest : List Request) :
    withoutDrains (request :: rest) = request :: withoutDrains rest :=
  List.filter_cons_of_pos (decide_eq_true h)

theorem ne_takeOutput_of_mem {request : Request} {history : List Request}
    (h : request ∈ withoutDrains history) : request ≠ .takeOutput :=
  of_decide_eq_true (List.mem_filter.mp h).2

theorem reset_not_mem_withoutDrains {history : List Request} (h : .reset ∉ history) :
    .reset ∉ withoutDrains history :=
  fun hmem => h (List.mem_of_mem_filter hmem)

namespace Machine

variable {config : Config}

/-- What came of a history, reply by reply with what the log learned, apart from the replies of the
requests that read the output. -/
def resultsIn (m : Machine config) : List Request → List (Reply × List Event)
  | [] => []
  | request :: rest =>
    let served := m.serve request
    let results := served.machine.resultsIn rest
    if request.readsOutput then results else (served.reply, served.events) :: results

theorem resultsIn_cons_of_reads (m : Machine config) {request : Request}
    (h : request.readsOutput = true) (rest : List Request) :
    m.resultsIn (request :: rest) = (m.serve request).machine.resultsIn rest :=
  if_pos h

theorem resultsIn_cons_of_not_reads (m : Machine config) {request : Request}
    (h : request.readsOutput = false) (rest : List Request) :
    m.resultsIn (request :: rest) = ((m.serve request).reply, (m.serve request).events) ::
      (m.serve request).machine.resultsIn rest :=
  if_neg (by rw [h]; exact Bool.false_ne_true)

/-! ## Lines in front of the output -/

/-- The machine with more lines in front of the output that waits. -/
def prepend (m : Machine config) (lines : List Line) : Machine config :=
  { m with output := lines ++ m.output }

theorem prepend_prepend (m : Machine config) (first rest : List Line) :
    (m.prepend rest).prepend first = m.prepend (first ++ rest) := by
  simp only [prepend, List.append_assoc]

/-- A machine that goes the same way with lines in front of its output keeps them there. -/
theorem SameWay.eq_prepend {m n n' : Machine config} {lines : List Line}
    (h : @SameWay config config.tracing m n (m.prepend lines) n') : n' = n.prepend lines := by
  obtain ⟨printed, houtput, houtput'⟩ := h.output
  obtain ⟨taken, hsnapshots, hsnapshots'⟩ := h.snapshots
  refine eq_of_core_eq h.core ?_ (hsnapshots'.trans hsnapshots.symm)
    (h.interruptPending'.trans h.interruptPending.symm)
  show n'.output = lines ++ n.output
  rw [houtput', houtput]
  exact List.append_assoc _ _ _

theorem runSlice_prepend (m : Machine config) (lines : List Line) (budget : Nat) :
    (m.prepend lines).runSlice budget =
      ⟨(m.runSlice budget).exit, (m.runSlice budget).machine.prepend lines,
        (m.runSlice budget).events⟩ := by
  by_cases h : m.interruptPending = false ∨ budget = 0
  · obtain ⟨hexit, hevents, hway⟩ :=
      @runFrom_of_core_eq config config.tracing m (m.prepend lines) rfl budget h h 0
    rw [runSlice, runSlice, ← hexit, ← hevents, ← hway.eq_prepend]
  · rw [not_or, Bool.not_eq_false] at h
    have hpending : (m.prepend lines).interruptPending = true := h.1
    rw [runSlice_of_pending h.1 h.2, runSlice_of_pending hpending h.2]
    rfl

/-- A request that does not read the output does not look at it either. -/
theorem serve_prepend (m : Machine config) (lines : List Line) {request : Request}
    (hreads : request.readsOutput = false) (hreset : request ≠ .reset) :
    (m.prepend lines).serve request =
      ⟨(m.serve request).reply, (m.serve request).machine.prepend lines,
        (m.serve request).events⟩ := by
  by_cases hcore : request.isAboutCore = true
  · obtain ⟨hreply, hevents, hway⟩ :=
      @serve_of_core_eq config config.tracing m (m.prepend lines) rfl request hcore
    rw [← hreply, ← hevents, ← hway.eq_prepend]
  · cases request
    case run => exact congrArg replyRun (m.runSlice_prepend lines unlimited)
    case runSlice budget => exact congrArg replyRun (m.runSlice_prepend lines budget)
    case takeSnapshots | interrupt | isInterruptPending | config | dumpInLine | dumpInLines => rfl
    case peekOutput | takeOutput => cases hreads
    case reset => exact absurd rfl hreset
    all_goals exact absurd rfl hcore

theorem machine_serve_prepend (m : Machine config) (lines : List Line) {request : Request}
    (htake : request ≠ .takeOutput) (hreset : request ≠ .reset) :
    ((m.prepend lines).serve request).machine = (m.serve request).machine.prepend lines := by
  rcases hreads : request.readsOutput with _ | _
  · rw [m.serve_prepend lines hreads hreset]
  · cases request
    case peekOutput => rfl
    case takeOutput => exact absurd rfl htake
    all_goals cases hreads

/-- As long as the output is not taken, lines in front of it stay there, and all else goes on as
without them. -/
theorem after_prepend (m : Machine config) (lines : List Line) {history : List Request}
    (htake : .takeOutput ∉ history) (hreset : .reset ∉ history) :
    (m.prepend lines).after history = (m.after history).prepend lines ∧
      (m.prepend lines).resultsIn history = m.resultsIn history := by
  induction history generalizing m with
  | nil => exact ⟨rfl, rfl⟩
  | cons request rest ih =>
    rw [List.mem_cons, not_or] at htake hreset
    have hmachine := m.machine_serve_prepend lines (Ne.symm htake.1) (Ne.symm hreset.1)
    obtain ⟨hafter, hresults⟩ := ih (m.serve request).machine htake.2 hreset.2
    rw [after_cons, after_cons, hmachine]
    refine ⟨hafter, ?_⟩
    rcases hreads : request.readsOutput with _ | _
    · rw [resultsIn_cons_of_not_reads _ hreads, resultsIn_cons_of_not_reads _ hreads, hmachine,
        hresults, m.serve_prepend lines hreads (Ne.symm hreset.1)]
    · rw [resultsIn_cons_of_reads _ hreads, resultsIn_cons_of_reads _ hreads, hmachine, hresults]

/-! ## Histories without drains -/

/-- Without the drains of a history, what they take waits in front of the other output at its end,
and all else is the same. -/
theorem exists_taken (m : Machine config) {history : List Request} (hreset : .reset ∉ history) :
    ∃ taken, m.drainedIn history = Line.render taken ∧
      m.after (withoutDrains history) = (m.after history).prepend taken ∧
      m.resultsIn (withoutDrains history) = m.resultsIn history := by
  -- induction on the history; a drain leaves a machine that had lines in front of its output
  induction history generalizing m with
  | nil => exact ⟨[], rfl, rfl, rfl⟩
  | cons request rest ih =>
    rw [List.mem_cons, not_or] at hreset
    obtain ⟨taken, hdrained, hafter, hresults⟩ := ih (m.serve request).machine hreset.2
    rw [drainedIn_cons, hdrained, after_cons]
    by_cases htake : request = .takeOutput
    · subst htake
      have hm : m = (m.serve .takeOutput).machine.prepend m.output := by
        show m = { m with output := m.output ++ [] }
        rw [List.append_nil]
      have hfree : .takeOutput ∉ withoutDrains rest := fun h => ne_takeOutput_of_mem h rfl
      obtain ⟨hafter', hresults'⟩ := (m.serve .takeOutput).machine.after_prepend m.output hfree
        (reset_not_mem_withoutDrains hreset.2)
      rw [← hm] at hafter' hresults'
      rw [withoutDrains_cons_takeOutput, hafter', hafter, prepend_prepend, hresults', hresults]
      exact ⟨m.output ++ taken, (Line.render_append _ _).symm, rfl, rfl⟩
    · rw [withoutDrains_cons_of_ne htake, drained_of_ne htake, String.empty_append, after_cons,
        hafter]
      refine ⟨taken, rfl, rfl, ?_⟩
      rcases hreads : request.readsOutput with _ | _
      · rw [resultsIn_cons_of_not_reads _ hreads, resultsIn_cons_of_not_reads _ hreads, hresults]
      · rw [resultsIn_cons_of_reads _ hreads, resultsIn_cons_of_reads _ hreads, hresults]

/-! ## Whole lines -/

/-- All the lines that wait to be taken are in range. -/
def OutputInRange (m : Machine config) : Prop :=
  ∀ line ∈ m.output, line.InRange

theorem inRange_of_printed? {m : Machine config} {line : Line} (h : m.printed? = some line) :
    line.InRange := by
  rw [printed?, Option.bind_eq_some_iff] at h
  obtain ⟨i, -, hline⟩ := h
  exact i.inRange_of_line? hline

theorem OutputInRange.of_append {m m' : Machine config} (h : m.OutputInRange)
    {lines : List Line} (houtput : m'.output = m.output ++ lines)
    (hlines : ∀ line ∈ lines, line.InRange) : m'.OutputInRange := by
  rw [OutputInRange, houtput]
  exact List.forall_mem_append.mpr ⟨h, hlines⟩

theorem OutputInRange.step {m : Machine config} (h : m.OutputInRange) :
    m.step.machine.OutputInRange :=
  h.of_append m.output_step fun _ hline => inRange_of_printed? (Option.mem_toList.mp hline)

theorem OutputInRange.runSlice {m : Machine config} (h : m.OutputInRange) (budget : Nat) :
    (m.runSlice budget).machine.OutputInRange := by
  refine h.of_append (m.attempts_runSlice budget).output_eq fun line hline => ?_
  obtain ⟨s, -, hprinted⟩ := List.mem_filterMap.mp hline
  exact inRange_of_printed? hprinted

theorem output_serveLoad (m : Machine config) (program : List UInt8) (success : Reply) :
    (m.serveLoad program success).machine.output = m.output := by
  unfold serveLoad load
  rcases m.memory.load 0 program with fault | memory <;> rfl

theorem output_replyDone (m : Machine config)
    (changed : Except Fault (Store config.memorySize)) :
    (m.replyDone (changed.map fun store => { m with store })).machine.output = m.output := by
  rcases changed with fault | store <;> rfl

/-- A change from outside is none of the output, unless it is a reset. -/
theorem output_serve_of_changesProgram (m : Machine config) {request : Request}
    (h : request.changesProgram = true) (hreset : request ≠ .reset) :
    (m.serve request).machine.output = m.output := by
  cases request
  case load program => exact m.output_serveLoad program .done
  case loadImage text =>
    simp only [serve]
    split
    · exact m.output_serveLoad _ _
    · rfl
  case write address byte =>
    rw [serve, write_eq_map]
    exact m.output_replyDone _
  case setRegister name value =>
    rw [serve, setRegister_eq_map]
    exact m.output_replyDone _
  case combineNamed name a b =>
    rw [serve, combineNamed_eq_map]
    exact m.output_replyDone _
  case combine op a b =>
    rw [serve, combine_eq_map]
    exact m.output_replyDone _
  case setPc => rfl
  case reset => exact absurd rfl hreset
  all_goals cases h

theorem OutputInRange.serve {m : Machine config} (h : m.OutputInRange) (request : Request) :
    (m.serve request).machine.OutputInRange := by
  -- where no line is added, those that wait are still the same, or there are none
  have hsame : ∀ served : Served config, served.machine.output = m.output →
      served.machine.OutputInRange := by
    intro served houtput
    rw [OutputInRange, houtput]
    exact h
  have hnone : ∀ served : Served config, served.machine.output = [] →
      served.machine.OutputInRange := by
    intro served houtput
    rw [OutputInRange, houtput]
    exact List.forall_mem_nil _
  rcases hchanges : request.changesProgram with _ | _
  · cases request
    case load | loadImage | write | setRegister | setPc | combineNamed | combine | reset =>
      cases hchanges
    case readMemory address => exact hsame _ (congrArg Machine.output (m.machine_replyByte _))
    case readRegister name => exact hsame _ (congrArg Machine.output (m.machine_replyByte _))
    case step =>
      rw [machine_serve_step]
      exact h.step
    case run => exact h.runSlice unlimited
    case runSlice budget => exact h.runSlice budget
    case takeOutput => exact hnone _ rfl
    all_goals exact hsame _ rfl
  · by_cases hreset : request = .reset
    · subst hreset
      exact hnone _ rfl
    · exact hsame _ (m.output_serve_of_changesProgram hchanges hreset)

theorem OutputInRange.after {m : Machine config} (h : m.OutputInRange)
    (history : List Request) : (m.after history).OutputInRange := by
  induction history generalizing m with
  | nil => exact h
  | cons request rest ih => exact ih (h.serve request)

/-- The output that waits is whole lines. -/
theorem OutputInRange.render_eq {m : Machine config} (h : m.OutputInRange) :
    ∃ lines : List String, (∀ line ∈ lines, IsOutputLine line) ∧
      Line.render m.output = String.join (lines.map (· ++ "\n")) := by
  refine ⟨m.output.map Line.text, ?_, ?_⟩
  · intro text htext
    obtain ⟨line, hline, rfl⟩ := List.mem_map.mp htext
    exact Line.isOutputLine_text (h line hline)
  · rw [Line.render, List.map_map]
    rfl

/-- Output is never lost, repeated, reordered or torn. Take a fresh machine and any history without
a reset, in which the output is taken any number of times. The pieces that are taken, one after the
other, with the output that waits in the end are the output of the same history in which it is never
taken. This history leads to the same machine in all other respects, and all its results are the
same but for the replies that are output themselves. Each piece is made of whole lines, each of
which tells a byte or a product of two bytes in decimal. -/
theorem output_independent_of_drains {fresh : Machine config}
    (hnew : ofConfig config = .ok fresh) {history : List Request} (hreset : .reset ∉ history) :
    let m := fresh.after history
    let undrained := fresh.after (withoutDrains history)
    fresh.drainedIn history ++ Line.render m.output = Line.render undrained.output ∧
      undrained = { m with output := undrained.output } ∧
      fresh.resultsIn (withoutDrains history) = fresh.resultsIn history ∧
      ∀ before rest, history = before ++ .takeOutput :: rest →
        ∃ lines : List String, (∀ line ∈ lines, IsOutputLine line) ∧
          ((fresh.after before).serve .takeOutput).reply =
            .text (String.join (lines.map (· ++ "\n"))) := by
  obtain ⟨taken, hdrained, hafter, hresults⟩ := fresh.exists_taken hreset
  intro m undrained
  have hundrained : undrained = m.prepend taken := hafter
  refine ⟨?_, ?_, hresults, fun before rest _ => ?_⟩
  · rw [hundrained, hdrained, ← Line.render_append]
    rfl
  · rw [hundrained]
    rfl
  · have hfresh : fresh.OutputInRange := by
      rw [eq_new_of_ofConfig hnew]
      exact List.forall_mem_nil _
    obtain ⟨lines, hlines, hrender⟩ := (hfresh.after before).render_eq
    exact ⟨lines, hlines, congrArg Reply.text hrender⟩

/-- A program that prints a value and the product of two, carried out twice, with the output taken
in between, when nothing was printed since, and after an interrupted run. -/
def drainedUsage : List Request :=
  [.load [71, 2, 162, 2, 3, 1], .setRegister 2 9, .setRegister 3 200, .step, .takeOutput,
    .takeOutput, .run, .setPc 0, .interrupt, .run, .takeOutput, .runSlice 1]

/-- The second line is printed before the interrupt and taken after it, and the last one still
waits. -/
theorem output_independent_of_drains_small :
    let fresh : Machine small := new valid_small
    let lines : List Line := [.value 9, .product 1800, .value 8]
    ofConfig small = .ok fresh ∧ .reset ∉ drainedUsage ∧
      (fresh.after drainedUsage).output = [.value 8] ∧
      (fresh.after (withoutDrains drainedUsage)).output = lines ∧
      fresh.drainedIn drainedUsage ++ Line.render [.value 8] = Line.render lines := by
  intro fresh lines
  have hnew : ofConfig small = .ok fresh := ofConfig_of_valid valid_small
  have hreset : .reset ∉ drainedUsage := by decide
  have hwaits : (fresh.after drainedUsage).output = [.value 8] := by decide +kernel
  have hundrained : (fresh.after (withoutDrains drainedUsage)).output = lines := by
    decide +kernel
  obtain ⟨houtput, -, -, -⟩ := output_independent_of_drains hnew hreset
  rw [hwaits, hundrained] at houtput
  exact ⟨hnew, hreset, hwaits, hundrained, houtput⟩

end Machine

end EightBit
