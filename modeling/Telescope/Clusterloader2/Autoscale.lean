import Telescope.Clusterloader2.Junit
import Telescope.Data.Json
import Telescope.Data.Store
import Telescope.Text.Edit

namespace Telescope

namespace Clusterloader2

/-! The rows of an autoscaling run, from the test cases of its JUnit report. -/

inductive Direction where
  | up
  | down
  deriving DecidableEq

def Direction.text : Direction → Text
  | .up => lit "up"
  | .down => lit "down"

structure MetricMapping where
  testKey : Text
  category : Direction
  summaryKey : Text

def dataMetrics (isComplex : Bool) : List Text :=
  if isComplex then [lit "wait_for_pods_seconds"]
  else
    [lit "wait_for_nodes_seconds", lit "wait_for_50Perc_nodes_seconds",
      lit "wait_for_70Perc_nodes_seconds", lit "wait_for_90Perc_nodes_seconds",
      lit "wait_for_99Perc_nodes_seconds", lit "wait_for_pods_seconds"]

def metricMappings (isComplex : Bool) : List MetricMapping :=
  if isComplex then
    [⟨lit "WaitForRunningPodsUp", .up, lit "wait_for_pods_seconds"⟩,
      ⟨lit "WaitForRunningPodsDown", .down, lit "wait_for_pods_seconds"⟩]
  else
    [⟨lit "WaitForRunningPodsUp", .up, lit "wait_for_pods_seconds"⟩,
      ⟨lit "WaitForNodesUpPerc50", .up, lit "wait_for_50Perc_nodes_seconds"⟩,
      ⟨lit "WaitForNodesUpPerc70", .up, lit "wait_for_70Perc_nodes_seconds"⟩,
      ⟨lit "WaitForNodesUpPerc90", .up, lit "wait_for_90Perc_nodes_seconds"⟩,
      ⟨lit "WaitForNodesUpPerc99", .up, lit "wait_for_99Perc_nodes_seconds"⟩,
      ⟨lit "WaitForNodesUpPerc100", .up, lit "wait_for_nodes_seconds"⟩,
      ⟨lit "WaitForRunningPodsDown", .down, lit "wait_for_pods_seconds"⟩,
      ⟨lit "WaitForNodesDownPerc50", .down, lit "wait_for_50Perc_nodes_seconds"⟩,
      ⟨lit "WaitForNodesDownPerc70", .down, lit "wait_for_70Perc_nodes_seconds"⟩,
      ⟨lit "WaitForNodesDownPerc90", .down, lit "wait_for_90Perc_nodes_seconds"⟩,
      ⟨lit "WaitForNodesDownPerc99", .down, lit "wait_for_99Perc_nodes_seconds"⟩,
      ⟨lit "WaitForNodesDownPerc100", .down, lit "wait_for_nodes_seconds"⟩]

/-- The search for `(\d+)$`, where `$` also matches before a last newline. -/
def loopIndex (name : Text) : Option Text :=
  let line := if name.getLast? = some '\n' then name.dropLast else name
  presentText (some (line.rtakeWhile isDecimal))

structure DirectionSummary where
  failures : Nat
  metrics : Fields

structure LoopSummary where
  up : DirectionSummary
  down : DirectionSummary

def LoopSummary.empty : LoopSummary := ⟨⟨0, []⟩, ⟨0, []⟩⟩

def LoopSummary.get (summary : LoopSummary) : Direction → DirectionSummary
  | .up => summary.up
  | .down => summary.down

def metricValue (testcase : CaseResult) : Json :=
  if failed testcase then .num (-1) else .str testcase.time

def DirectionSummary.record (summary : DirectionSummary) (summaryKey : Text)
    (testcase : CaseResult) : DirectionSummary where
  failures := summary.failures + if failed testcase then 1 else 0
  metrics := summary.metrics.set summaryKey (metricValue testcase)

def LoopSummary.record (summary : LoopSummary) (category : Direction) (summaryKey : Text)
    (testcase : CaseResult) : LoopSummary :=
  match category with
  | .up => { summary with up := summary.up.record summaryKey testcase }
  | .down => { summary with down := summary.down.record summaryKey testcase }

def matchedMetric (isComplex : Bool) (name : Text) : Option MetricMapping :=
  (metricMappings isComplex).find? fun mapping => containsText mapping.testKey name

/-- One round of the loop over the test cases; a new index starts a summary. -/
def recordCase (isComplex : Bool) (summary : Store Text LoopSummary) (testcase : CaseResult) :
    Store Text LoopSummary :=
  match loopIndex testcase.name with
  | none => summary
  | some index =>
      let current := (summary.get? index).getD .empty
      match matchedMetric isComplex testcase.name with
      | none => summary.put index current
      | some mapping =>
          summary.put index (current.record mapping.category mapping.summaryKey testcase)

def directionData (isComplex : Bool) (summary : DirectionSummary) : Fields :=
  Fields.set
    ((dataMetrics isComplex).map fun metric => (metric, (summary.metrics.get? metric).getD .null))
    (lit "autoscale_result")
    (.str (if summary.failures = 0 then lit "success" else lit "failure"))

/-- What the rows of one call have in common; `now` reads the clock for a row. -/
structure ReportInputs where
  now : Text → Direction → Text
  cpuPerNode : Json
  capacityType : Json
  nodeCount : Json
  podCount : Json
  cloudInfo : Json
  runId : Json
  runUrl : Json
  podCpuRequest : Json
  podMemoryRequest : Json

def buildReportTemplate (inputs : ReportInputs) (isComplex : Bool) (index : Text)
    (direction : Direction) (data : Fields) : Fields :=
  [(lit "timestamp", .str (inputs.now index direction)),
    (lit "autoscale_type", .str direction.text), (lit "capacity_type", inputs.capacityType),
    (lit "pod_count", inputs.podCount), (lit "data", .obj data),
    (lit "cloud_info", inputs.cloudInfo), (lit "run_id", inputs.runId),
    (lit "run_url", inputs.runUrl)] ++
  if isComplex then
    [(lit "group", .str []), (lit "measurement", .str []), (lit "result", .str []),
      (lit "pod_memory", inputs.podMemoryRequest), (lit "pod_cpu", inputs.podCpuRequest)]
  else [(lit "cpu_per_node", inputs.cpuPerNode), (lit "node_count", inputs.nodeCount)]

def loopRows (inputs : ReportInputs) (isComplex : Bool) (index : Text)
    (data : Direction → Fields) : List Fields :=
  [.up, .down].map fun direction =>
    buildReportTemplate inputs isComplex index direction (data direction)

/-- `_process_test_results`; the content is kept as the objects of its lines. -/
def processTestResults (inputs : ReportInputs) (isComplex : Bool)
    (testsuites : List SuiteResult) : Except Error (List Fields) :=
  match testsuites with
  | [] => .error ⟨.indexError, lit "list index out of range"⟩
  | testsuite :: _ =>
      let summary := testsuite.testcases.foldl (recordCase isComplex) .empty
      .ok (summary.entries.flatMap fun entry =>
        loopRows inputs isComplex entry.1 fun direction =>
          directionData isComplex (entry.2.get direction))

/-! Which test cases a row rests on. -/

/-- The name carries the loop index and, first in the table, the identifier of
the metric in the direction. -/
def Measures (isComplex : Bool) (index : Text) (direction : Direction) (metric : Text)
    (testcase : CaseResult) : Prop :=
  loopIndex testcase.name = some index ∧
    ∃ mapping, matchedMetric isComplex testcase.name = some mapping ∧
      mapping.category = direction ∧ mapping.summaryKey = metric

def directionOf (summary : Store Text LoopSummary) (index : Text) (direction : Direction) :
    DirectionSummary :=
  ((summary.get? index).getD .empty).get direction

private theorem LoopSummary.get_record_self (summary : LoopSummary) (direction : Direction)
    (summaryKey : Text) (testcase : CaseResult) :
    (summary.record direction summaryKey testcase).get direction =
      (summary.get direction).record summaryKey testcase := by
  cases direction <;> rfl

private theorem LoopSummary.get_record_of_ne (summary : LoopSummary)
    {category direction : Direction}
    (different : category ≠ direction) (summaryKey : Text) (testcase : CaseResult) :
    (summary.record category summaryKey testcase).get direction = summary.get direction := by
  cases category <;> cases direction <;> first | exact absurd rfl different | rfl

private theorem mem_keys_recordCase (isComplex : Bool) (summary : Store Text LoopSummary)
    (testcase : CaseResult) (index : Text) :
    index ∈ (recordCase isComplex summary testcase).keys ↔
      index ∈ summary.keys ∨ loopIndex testcase.name = some index := by
  unfold recordCase
  cases loopIndex testcase.name with
  | none => simp
  | some found =>
      cases matchedMetric isComplex testcase.name with
      | none => simp [Store.mem_keys_put, or_comm, eq_comm]
      | some mapping => simp [Store.mem_keys_put, or_comm, eq_comm]

/-- A test case changes the summary of the one direction and index it measures. -/
theorem directionOf_recordCase (isComplex : Bool) (summary : Store Text LoopSummary)
    (testcase : CaseResult) (index : Text) (direction : Direction) :
    (∃ metric, Measures isComplex index direction metric testcase ∧
      directionOf (recordCase isComplex summary testcase) index direction =
        (directionOf summary index direction).record metric testcase) ∨
    ((∀ metric, ¬Measures isComplex index direction metric testcase) ∧
      directionOf (recordCase isComplex summary testcase) index direction =
        directionOf summary index direction) := by
  unfold recordCase Measures
  cases loopIndex testcase.name with
  | none => exact .inr ⟨by simp, rfl⟩
  | some found =>
      by_cases sameIndex : found = index
      · subst sameIndex
        cases matchedMetric isComplex testcase.name with
        | none => exact .inr ⟨by simp, by simp [directionOf]⟩
        | some mapping =>
            by_cases sameDirection : mapping.category = direction
            · subst sameDirection
              refine .inl ⟨mapping.summaryKey, ⟨rfl, mapping, rfl, rfl, rfl⟩, ?_⟩
              simp [directionOf, LoopSummary.get_record_self]
            · refine .inr ⟨by simp [sameDirection], ?_⟩
              simp [directionOf, LoopSummary.get_record_of_ne _ sameDirection]
      · have other : index ≠ found := fun equal => sameIndex equal.symm
        refine .inr ⟨by simp [sameIndex], ?_⟩
        cases matchedMetric isComplex testcase.name with
        | none => simp [directionOf, Store.get?_put_of_ne _ other]
        | some mapping => simp [directionOf, Store.get?_put_of_ne _ other]

structure Summarises (isComplex : Bool) (testcases : List CaseResult) (index : Text)
    (direction : Direction) (summary : DirectionSummary) : Prop where
  failures : summary.failures = 0 ↔ ∀ testcase ∈ testcases, ∀ metric,
    Measures isComplex index direction metric testcase → failed testcase = false
  metrics : ∀ metric,
    (summary.metrics.get? metric = none ∧
      ∀ testcase ∈ testcases, ¬Measures isComplex index direction metric testcase) ∨
    ∃ testcase ∈ testcases, Measures isComplex index direction metric testcase ∧
      summary.metrics.get? metric = some (metricValue testcase)

private theorem Measures.metric_unique {isComplex : Bool} {index : Text} {direction : Direction}
    {metric other : Text} {testcase : CaseResult}
    (first : Measures isComplex index direction metric testcase)
    (second : Measures isComplex index direction other testcase) : metric = other := by
  obtain ⟨-, mapping, found, -, rfl⟩ := first
  obtain ⟨-, mappingToo, foundToo, -, rfl⟩ := second
  rw [found] at foundToo
  cases foundToo
  rfl

theorem Summarises.record {isComplex : Bool} {testcases : List CaseResult} {index : Text}
    {direction : Direction} {summary : DirectionSummary} {testcase : CaseResult} {metric : Text}
    (summarised : Summarises isComplex testcases index direction summary)
    (measures : Measures isComplex index direction metric testcase) :
    Summarises isComplex (testcases ++ [testcase]) index direction
      (summary.record metric testcase) where
  failures := by
    have earlier := summarised.failures
    simp only [DirectionSummary.record, List.forall_mem_append, List.forall_mem_singleton]
    rw [← earlier]
    constructor
    · intro none
      split at none
      · omega
      · next notFailed => exact ⟨by omega, fun _ _ => by simpa using notFailed⟩
    · rintro ⟨none, notFailed⟩
      simp [none, notFailed metric measures]
  metrics := by
    intro other
    by_cases same : other = metric
    · subst same
      exact .inr ⟨testcase, by simp, measures, Fields.get?_set_self _ _ _⟩
    · have unchanged : (summary.record metric testcase).metrics.get? other =
          summary.metrics.get? other := Fields.get?_set_of_ne _ same _
      rw [unchanged]
      rcases summarised.metrics other with ⟨absent, none⟩ | ⟨found, member, measured, value⟩
      · refine .inl ⟨absent, ?_⟩
        simp only [List.forall_mem_append, List.forall_mem_singleton]
        exact ⟨none, fun measuresOther => same (measuresOther.metric_unique measures)⟩
      · exact .inr ⟨found, List.mem_append_left _ member, measured, value⟩

theorem Summarises.skip {isComplex : Bool} {testcases : List CaseResult} {index : Text}
    {direction : Direction} {summary : DirectionSummary} {testcase : CaseResult}
    (summarised : Summarises isComplex testcases index direction summary)
    (other : ∀ metric, ¬Measures isComplex index direction metric testcase) :
    Summarises isComplex (testcases ++ [testcase]) index direction summary where
  failures := by
    simp only [List.forall_mem_append, List.forall_mem_singleton]
    rw [summarised.failures]
    exact ⟨fun earlier => ⟨earlier, fun metric measures => absurd measures (other metric)⟩,
      fun all => all.1⟩
  metrics := by
    intro metric
    rcases summarised.metrics metric with ⟨absent, none⟩ | ⟨found, member, measured, value⟩
    · refine .inl ⟨absent, ?_⟩
      simp only [List.forall_mem_append, List.forall_mem_singleton]
      exact ⟨none, other metric⟩
    · exact .inr ⟨found, List.mem_append_left _ member, measured, value⟩

private theorem summarises_foldl (isComplex : Bool) (testcases : List CaseResult) (index : Text)
    (direction : Direction) :
    Summarises isComplex testcases index direction
      (directionOf (testcases.foldl (recordCase isComplex) .empty) index direction) := by
  induction testcases using List.reverseRecOn with
  | nil =>
      have start : directionOf .empty index direction = ⟨0, []⟩ := by cases direction <;> rfl
      rw [List.foldl_nil, start]
      exact ⟨by simp, fun _ => .inl ⟨rfl, by simp⟩⟩
  | append_singleton earlier testcase induction =>
      rw [List.foldl_append, List.foldl_cons, List.foldl_nil]
      rcases directionOf_recordCase isComplex _ testcase index direction with
        ⟨metric, measures, step⟩ | ⟨other, step⟩
      · rw [step]
        exact induction.record measures
      · rw [step]
        exact induction.skip other

private theorem mem_keys_foldl (isComplex : Bool) (testcases : List CaseResult) (index : Text) :
    index ∈ (testcases.foldl (recordCase isComplex) .empty).keys ↔
      ∃ testcase ∈ testcases, loopIndex testcase.name = some index := by
  induction testcases using List.reverseRecOn with
  | nil => simp [Store.keys, Store.empty]
  | append_singleton earlier testcase induction =>
      rw [List.foldl_append, List.foldl_cons, List.foldl_nil, mem_keys_recordCase, induction]
      simp [or_and_right, exists_or]

structure RowReports (isComplex : Bool) (testcases : List CaseResult) (index : Text)
    (direction : Direction) (data : Fields) : Prop where
  result : data.get? (lit "autoscale_result") = some (.str (lit "success")) ↔
    ∀ testcase ∈ testcases, ∀ metric,
      Measures isComplex index direction metric testcase → failed testcase = false
  metrics : ∀ metric ∈ dataMetrics isComplex,
    (data.get? metric = some .null ∧
      ∀ testcase ∈ testcases, ¬Measures isComplex index direction metric testcase) ∨
    ∃ testcase ∈ testcases, Measures isComplex index direction metric testcase ∧
      data.get? metric = some (metricValue testcase)

private theorem rowReports_directionData {isComplex : Bool} {testcases : List CaseResult}
    {index : Text}
    {direction : Direction} {summary : DirectionSummary}
    (summarised : Summarises isComplex testcases index direction summary) :
    RowReports isComplex testcases index direction (directionData isComplex summary) where
  result := by
    rw [← summarised.failures, directionData, Fields.get?_set_self]
    by_cases none : summary.failures = 0
    · simp [none]
    · have different : lit "failure" ≠ lit "success" := by decide
      simp [none, different]
  metrics := by
    intro metric member
    have notResult : metric ≠ lit "autoscale_result" := by
      rintro rfl
      revert member
      cases isComplex <;> decide
    have value : (directionData isComplex summary).get? metric =
        some ((summary.metrics.get? metric).getD .null) := by
      rw [directionData, Fields.get?_set_of_ne _ notResult]
      exact Fields.get?_map member fun metric => (summary.metrics.get? metric).getD .null
    rw [value]
    rcases summarised.metrics metric with ⟨absent, none⟩ | ⟨found, listed, measured, recorded⟩
    · exact .inl ⟨by rw [absent]; rfl, none⟩
    · exact .inr ⟨found, listed, measured, by rw [recorded]; rfl⟩

/-- Every loop index in the report gives one row per direction; a row is a
success exactly when none of the cases measured for it failed, each of its values
is that of a case with the metric's identifier, and a metric without one is null. -/
theorem processTestResults_rows (inputs : ReportInputs) (isComplex : Bool)
    (testsuite : SuiteResult) (others : List SuiteResult) :
    ∃ (indices : List Text) (data : Text → Direction → Fields),
      indices.Nodup ∧
      (∀ index, index ∈ indices ↔
        ∃ testcase ∈ testsuite.testcases, loopIndex testcase.name = some index) ∧
      processTestResults inputs isComplex (testsuite :: others) =
        .ok (indices.flatMap fun index => loopRows inputs isComplex index (data index)) ∧
      ∀ index direction,
        RowReports isComplex testsuite.testcases index direction (data index direction) := by
  let summary := testsuite.testcases.foldl (recordCase isComplex) .empty
  refine ⟨summary.keys,
    fun index direction => directionData isComplex (directionOf summary index direction),
    summary.keysNodup, mem_keys_foldl isComplex testsuite.testcases, ?_, ?_⟩
  · have own : ∀ entry ∈ summary.entries, ∀ direction,
        directionOf summary entry.1 direction = entry.2.get direction := by
      intro entry member direction
      have found : summary.get? entry.1 = some entry.2 := summary.get?_eq_some_iff.mpr member
      rw [directionOf, found]
      rfl
    rw [processTestResults, Store.keys, List.flatMap_map]
    refine congrArg Except.ok (List.flatMap_congr ?_)
    intro entry member
    simp only [own entry member]
  · intro index direction
    exact rowReports_directionData (summarises_foldl isComplex testsuite.testcases index direction)

def abortedSuite : SuiteResult where
  name := lit "ClusterLoaderV2"
  tests := 1
  failures := 0
  errors := 0
  testcases := [⟨lit "autoscale: [step: 01] Create deployment 0", lit "ClusterLoaderV2",
    lit "1.2", none⟩]

def abortedInputs : ReportInputs where
  now := fun _ _ => lit "2026-02-25T13:51:31Z"
  cpuPerNode := .num 4
  capacityType := .str (lit "on-demand")
  nodeCount := .num 10
  podCount := .num 100
  cloudInfo := .str (lit "azure")
  runId := .str (lit "1")
  runUrl := .str (lit "https")
  podCpuRequest := .num 0
  podMemoryRequest := .str []

/-- Its rows are successes, although no metric was measured. -/
theorem abortedSuite_success :
    (∃ up down data, processTestResults abortedInputs false [abortedSuite] = .ok [up, down] ∧
      Fields.get? up (lit "autoscale_type") = some (.str (lit "up")) ∧
      Fields.get? up (lit "data") = some (.obj data) ∧
      Fields.get? data (lit "autoscale_result") = some (.str (lit "success"))) ∧
    ∀ testcase ∈ abortedSuite.testcases, ∀ direction metric,
      ¬Measures false (lit "0") direction metric testcase := by
  refine ⟨⟨_, _, _, rfl, rfl, rfl, rfl⟩, ?_⟩
  rw [abortedSuite, List.forall_mem_singleton]
  rintro direction metric ⟨-, mapping, found, -⟩
  have unmatched : matchedMetric false (lit "autoscale: [step: 01] Create deployment 0") = none :=
    rfl
  rw [unmatched] at found
  exact nomatch found

end Clusterloader2

end Telescope
