import Telescope.Terraform.ElapsedTime

namespace Telescope.Terraform

open Telescope

/-! Logs whose runs do not overlap.  Each run is its start line, the lines of its
body and possibly its own completion line, after which further lines may follow
before the next run starts. -/

/-- A line that reports an elapsed time.  Any text may stand before the time as long
as the time is a whole token and that text reports no elapsed time itself. -/
structure ProgressLine where
  before : Text
  report : Report
  tail : Text
  announced : ∃ action : Action, action.progressText <:+: before
  oneLine : '\n' ∉ before
  whole : Whole before report.time
  quiet : elapsedPattern.search before = none
  notStart : startPattern.search (before ++ (report.text ++ tail)) = none
  notCompletion : completePattern.search (before ++ (report.text ++ tail)) = none

example : ProgressLine where
  before := lit "module.a.x: Still destroying... [id=b84m5s," ++ [' ']
  report :=
    { time := .seconds (digitsOf (lit "10") (by decide) (by decide))
      spaces := [' ']
      nonempty := by decide
      blank := List.forall_mem_singleton.mpr (by decide) }
  tail := []
  announced := ⟨.destroy, by decide⟩
  oneLine := by decide
  whole := whole_of_separator _ _ (by decide)
  quiet := by decide
  notStart := by decide
  notCompletion := by decide

inductive BodyLine where
  | progress (line : ProgressLine)
  | other (text : Text) (notStart : startPattern.search text = none)
      (notCompletion : completePattern.search text = none)
      (notElapsed : elapsedPattern.search text = none)

namespace BodyLine

def render : BodyLine → Text
  | .progress line => line.before ++ (line.report.text ++ line.tail)
  | .other text _ _ _ => text

def elapsed? : BodyLine → Option Duration
  | .progress line => some line.report.time
  | .other _ _ _ _ => none

end BodyLine

def lastElapsed : List BodyLine → Option Duration
  | [] => none
  | line :: rest => (lastElapsed rest).or line.elapsed?

def deadlineIn (body : List BodyLine) : Bool :=
  body.any fun line => mentionsDeadline line.render

structure OwnCompletion (address : Address) where
  action : Action
  duration : Duration
  tail : Text
  notStart : startPattern.search (completionText address action duration tail) = none
  following : List BodyLine

structure SequentialRun where
  address : Address
  action : Action
  startTail : Text
  body : List BodyLine
  completion : Option (OwnCompletion address)

namespace SequentialRun

def startLine (run : SequentialRun) : Text :=
  startText run.address run.action run.startTail

def completionLines (run : SequentialRun) : List Text :=
  match run.completion with
  | none => []
  | some own =>
      completionText run.address own.action own.duration own.tail ::
        own.following.map BodyLine.render

def lines (run : SequentialRun) : List Text :=
  run.startLine :: (run.body.map BodyLine.render ++ run.completionLines)

/-- The completion time of a completed run, the last elapsed time of a failed one. -/
def seconds (run : SequentialRun) (convert : Duration → Nat) : Nat :=
  match run.completion with
  | some own => convert own.duration
  | none =>
      match lastElapsed run.body with
      | some duration => convert duration
      | none => 0

def record (context : LogContext) (run : SequentialRun) (index : Nat)
    (nextDeadline : Bool) : OperationResult :=
  let path := parseModulePath run.address.text
  { timestamp := context.now index
    runId := context.runId
    scenarioType := context.scenarioType
    scenarioName := context.scenarioName
    moduleName := path.moduleName
    submoduleName := path.submodulePath
    resourceName := path.resourceName
    action := context.commandType
    timeTakenSeconds := run.seconds Duration.measured
    success := run.completion.isSome
    timedOut := run.completion.isNone && (deadlineIn run.body || nextDeadline) }

end SequentialRun

structure SequentialLog where
  preamble : List BodyLine
  runs : List SequentialRun

def SequentialLog.file (log : SequentialLog) : LogFile :=
  { lines := log.preamble.map BodyLine.render ++ log.runs.flatMap SequentialRun.lines }

/-- The start line of a run is scanned for a deadline while the run before it is
still the current one. -/
def nextDeadline (rest : List SequentialRun) : Bool :=
  rest.head?.any fun run => mentionsDeadline run.startLine

def records (context : LogContext) (index : Nat) :
    List SequentialRun → List OperationResult
  | [] => []
  | run :: rest =>
      run.record context index (nextDeadline rest) :: records context (index + 1) rest

private theorem timeToSeconds_orDefault (elapsed : Option Duration) :
    timeToSeconds (orDefault (elapsed.map Duration.text) (lit "0s")) =
      match elapsed with
      | some duration => duration.measured
      | none => 0 := by
  cases elapsed with
  | none => decide
  | some duration =>
      obtain ⟨head, tail, text, -⟩ := duration.text_eq_cons
      have read := timeToSeconds_text duration
      rw [text] at read
      simpa [orDefault, text] using read

namespace ScanState

private theorem processLine_body (context : LogContext) (state : ScanState) (line : BodyLine) :
    state.processLine context line.render =
      { state with
        currentElapsedTimeStr :=
          (line.elapsed?.map Duration.text).or state.currentElapsedTimeStr
        currentTimedOut := state.currentTimedOut || mentionsDeadline line.render } := by
  unfold processLine
  rw [mark_eq_ite]
  cases line with
  | progress line =>
      have found := search_elapsedPattern line.before line.report line.tail line.announced
        line.oneLine line.whole line.quiet
      simp only [BodyLine.render, BodyLine.elapsed?, line.notStart, line.notCompletion, found]
      rfl
  | other text notStart notCompletion notElapsed =>
      simp only [BodyLine.render, BodyLine.elapsed?, notStart, notCompletion, notElapsed]
      rfl

/-- The lines of a body only move the elapsed time and the timeout flag. -/
theorem foldl_body (context : LogContext) (body : List BodyLine) (state : ScanState) :
    (body.map BodyLine.render).foldl (processLine context) state =
      { state with
        currentElapsedTimeStr :=
          ((lastElapsed body).map Duration.text).or state.currentElapsedTimeStr
        currentTimedOut := state.currentTimedOut || deadlineIn body } := by
  induction body generalizing state with
  | nil => simp [lastElapsed, deadlineIn]
  | cons line rest induction =>
      rw [List.map_cons, List.foldl_cons, processLine_body, induction]
      simp [lastElapsed, deadlineIn, Option.map_or, Option.or_assoc, Bool.or_assoc]

def opened (address : Address) (results : List OperationResult) : ScanState :=
  { currentFullPath := some address.text
    results := results }

def flushed (context : LogContext) (state : ScanState) (deadline : Bool) :
    List OperationResult :=
  ((state.mark deadline).flush context).results

private theorem processLine_startLine (context : LogContext) (state : ScanState)
    (run : SequentialRun) :
    state.processLine context run.startLine =
      opened run.address (state.flushed context (mentionsDeadline run.startLine)) :=
  processLine_startText context state run.address run.action run.startTail

/-- From its start line to the next one, a run adds exactly its record. -/
theorem flushed_run (context : LogContext) (run : SequentialRun)
    (results : List OperationResult) (deadline : Bool) :
    ((run.body.map BodyLine.render ++ run.completionLines).foldl (processLine context)
        (opened run.address results)).flushed context deadline =
      results ++ [run.record context results.length deadline] := by
  rw [List.foldl_append, foldl_body]
  cases completed : run.completion with
  | none =>
      rw [SequentialRun.completionLines, completed, List.foldl_nil, flushed,
        flush_of_path context rfl]
      have time := timeToSeconds_orDefault (lastElapsed run.body)
      simp [opened, mark, append, buildResult, SequentialRun.record, SequentialRun.seconds,
        completed, time]
  | some own =>
      rw [SequentialRun.completionLines, completed, List.foldl_cons,
        processLine_completionText _ _ _ _ _ _ own.notStart, foldl_body, flushed,
        flush_of_path context rfl]
      simp [opened, mark, buildResult, SequentialRun.record, SequentialRun.seconds,
        completed, timeToSeconds_text]

private theorem flush_foldl_runs (context : LogContext) (runs : List SequentialRun)
    (state : ScanState) :
    (((runs.flatMap SequentialRun.lines).foldl (processLine context) state).flush
        context).results =
      state.flushed context (nextDeadline runs) ++
        records context (state.flushed context (nextDeadline runs)).length runs := by
  induction runs generalizing state with
  | nil => simp [nextDeadline, flushed, mark_false, records]
  | cons run rest induction =>
      rw [List.flatMap_cons, List.foldl_append, SequentialRun.lines, List.foldl_cons,
        processLine_startLine, induction, flushed_run]
      simp [nextDeadline, records]

end ScanState

theorem processTerraformLogs_sequential (context : LogContext) (log : SequentialLog) :
    processTerraformLogs context (some log.file) = records context 0 log.runs := by
  have scanned := ScanState.flush_foldl_runs context log.runs
    ((log.preamble.map BodyLine.render).foldl (ScanState.processLine context) {})
  have noRun : ScanState.flushed context
      ((log.preamble.map BodyLine.render).foldl (ScanState.processLine context) {})
      (nextDeadline log.runs) = [] := by
    rw [ScanState.foldl_body]
    rfl
  rw [noRun, List.nil_append, List.length_nil] at scanned
  simpa [processTerraformLogs, SequentialLog.file] using scanned

private theorem length_records (context : LogContext) (index : Nat) (runs : List SequentialRun) :
    (records context index runs).length = runs.length := by
  induction runs generalizing index with
  | nil => rfl
  | cons run rest induction => simp [records, induction]

private theorem getElem?_records (context : LogContext) (index : Nat) (runs : List SequentialRun)
    (position : Nat) :
    (records context index runs)[position]? =
      (runs[position]?).map fun run =>
        run.record context (index + position) (nextDeadline (runs.drop (position + 1))) := by
  induction runs generalizing index position with
  | nil => rfl
  | cons run rest induction =>
      cases position with
      | zero => simp [records]
      | succ position =>
          rw [records, List.getElem?_cons_succ, induction, List.getElem?_cons_succ,
            List.drop_succ_cons, Nat.add_assoc, Nat.add_comm 1]

/-- There is one record per run, in the order of the log.  A completed run has its
completion time and is not timed out.  A failed run has the last elapsed time it
reported, and is timed out exactly if a deadline is mentioned in its lines or in
the start line that ends it. -/
theorem sequential_runs_measured (context : LogContext) (log : SequentialLog) :
    (processTerraformLogs context (some log.file)).length = log.runs.length ∧
      ∀ position : Fin log.runs.length,
        (processTerraformLogs context (some log.file))[position.val]? =
          some ((log.runs.get position).record context position
            (nextDeadline (log.runs.drop (position + 1)))) := by
  rw [processTerraformLogs_sequential]
  refine ⟨length_records context 0 log.runs, ?_⟩
  intro position
  rw [getElem?_records, List.getElem?_eq_getElem position.isLt, Option.map_some, Nat.zero_add]
  rfl

/-! Three logs on which the records differ from the written times and deadlines: a
number too long to convert, an identifier that itself reports an elapsed time, and
an address that mentions the deadline. -/

private theorem le_foldl_digits (digits : Text) (value : Nat) :
    value ≤ digits.foldl (fun value c => 10 * value + (digitValue? c).getD 0) value := by
  induction digits generalizing value with
  | nil => exact Nat.le_refl value
  | cons head tail induction =>
      exact Nat.le_trans (by omega) (induction (10 * value + (digitValue? head).getD 0))

def onePadded (zeros : Nat) : Digits where
  chars := '1' :: List.replicate zeros '0'
  nonempty := by simp
  decimal := by
    intro c member
    rcases List.mem_cons.mp member with rfl | member
    · decide
    · rw [List.eq_of_mem_replicate member]
      decide

private theorem digitsValue_onePadded_pos (zeros : Nat) : 0 < digitsValue (onePadded zeros).chars :=
  le_foldl_digits (List.replicate zeros '0') 1

def longDuration : Duration := .seconds (onePadded intMaxStrDigits)

private theorem longDuration_measured : longDuration.measured = 0 := by
  have long : longDuration.convertible = false := by
    simp [Duration.convertible, longDuration, Duration.parts, onePadded]
  rw [Duration.measured, long, if_neg Bool.false_ne_true]

def longLog : SequentialLog where
  preamble := []
  runs :=
    let address : Address := .sample
    [{ address := address
       action := .create
       startTail := lit "..."
       body := []
       completion := some
        { action := .create
          duration := longDuration
          tail := []
          notStart := search_startPattern_completionText address .create longDuration (by simp)
          following := [] } }]

def emptyContext : LogContext := ⟨[], [], [], [], fun _ => []⟩

theorem sequential_runs_misread :
    (¬ ∀ (context : LogContext) (log : SequentialLog),
      (processTerraformLogs context (some log.file)).map OperationResult.timeTakenSeconds =
        log.runs.map fun run => run.seconds Duration.total) ∧
    (processTerraformLogs emptyContext (some
        { lines := [lit "module.a.x: Destroying...",
            lit "module.a.x: Still destroying... [id=7s elapsed], 10s elapsed]"] })).map
        OperationResult.timeTakenSeconds = [7] ∧
    (processTerraformLogs emptyContext (some
        { lines := [lit "module.a.x: Creating...",
            lit "module.b[context deadline exceeded].x: Creating..."] })).map
        OperationResult.timedOut = [true, false] := by
  refine ⟨?_, ?_, ?_⟩
  · intro measured
    have times := measured emptyContext longLog
    rw [processTerraformLogs_sequential] at times
    have zero : longDuration.measured = longDuration.total := by
      simpa [records, longLog, SequentialRun.record, SequentialRun.seconds] using times
    rw [longDuration_measured] at zero
    exact absurd zero (digitsValue_onePadded_pos intMaxStrDigits).ne
  · decide
  · decide

end Telescope.Terraform
