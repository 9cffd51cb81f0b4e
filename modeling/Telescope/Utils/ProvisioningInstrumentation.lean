import Telescope.Aks.NodePool
import Telescope.Data.ForkJoin
import Telescope.Utils.ProvisioningRetry

namespace Telescope.Provisioning

open Telescope Crud

/-! `instrument_nodepool_provisioning`: the ARM operation and the readiness wait run in
two threads, and leaving the executor waits for both.  A task reads the clock when it has
returned; local code takes no time. -/

def RetryExit.outcome : RetryExit → Except ArmError Bool
  | .returned retryOccurred => .ok retryOccurred
  | .raised error => .error error
  | .fellThrough retryOccurred => .ok retryOccurred

section Instrumentation

variable {ε ν : Type}

/-- What follows the `with` block, from the outcome of each task and the time it ended. -/
def reportTasks (startTime : ℚ) (op : Operation) (arm : Except ε Bool × ℚ)
    (k8s : Except ε (List ν) × ℚ) : Except ε (List ν) × Operation :=
  match arm.1, k8s.1 with
  | .error armExc, _ => (.error armExc, op)
  | .ok _, .error k8sExc => (.error k8sExc, op)
  | .ok armResult, .ok readyNodes =>
      let nodeReadinessTime := k8s.2 - startTime
      let commandExecutionTime := arm.2 - startTime
      (.ok readyNodes,
        ((op.addMetadata (lit "node_readiness_time") (.num nodeReadinessTime)).addMetadata
          (lit "command_execution_time") (.num commandExecutionTime)).addMetadata
            (lit "retry_occurred") (.bool armResult))

/-- The state of a call after some steps of its threads. -/
def instrumentNodepoolProvisioning (arm : Except ε Bool) (k8s : Except ε (List ν))
    (startTime : ℚ) (op : Operation) (events : List ForkJoinEvent) :
    ForkJoin (Except ε Bool) (Except ε (List ν)) (Except ε (List ν) × Operation) :=
  ForkJoin.after arm k8s (reportTasks startTime op) startTime events

end Instrumentation

def timingKeys : List Text :=
  [lit "node_readiness_time", lit "command_execution_time", lit "retry_occurred"]

/-- How a call ends whose tasks ended at these times. -/
structure RecordsOrFails {ν : Type} (history : RetryHistory) (k8s : Except ArmError (List ν))
    (startTime : ℚ) (op : Operation) (armTime readyTime : ℚ)
    (finished : Except ArmError (List ν) × Operation) : Prop where
  returns : (∃ nodes, finished.1 = .ok nodes) ↔
    (∃ flag, history.exit.outcome = .ok flag) ∧ ∃ nodes, k8s = .ok nodes
  readyNodes : ∀ nodes, finished.1 = .ok nodes → k8s = .ok nodes
  readiness : finished.1.isOk = true → finished.2.metadata.get? (lit "node_readiness_time") =
    some (.num (readyTime - startTime))
  execution : finished.1.isOk = true →
    finished.2.metadata.get? (lit "command_execution_time") = some (.num (armTime - startTime))
  retry : finished.1.isOk = true → finished.2.metadata.get? (lit "retry_occurred") =
    some (.bool (decide (1 < history.attempts.length)))
  others : ∀ key ∉ timingKeys, finished.2.metadata.get? key = op.metadata.get? key
  armRaises : ∀ error, history.exit.outcome = .error error → finished.1 = .error error
  k8sRaises : ∀ flag error, history.exit.outcome = .ok flag → k8s = .error error →
    finished.1 = .error error
  unrecorded : ∀ error, finished.1 = .error error → finished.2 = op

private theorem timingKeys_distinct : timingKeys.Nodup := by decide

/-- The ARM task returns `True` exactly if there was more than one attempt. -/
theorem retried_iff {args : RetryArgs} {world : Nat → UpdateAnswers} {fuel : Nat}
    {history : RetryHistory} {flag : Bool}
    (ran : beginCreateOrUpdateWithRetry args world fuel = some history)
    (returned : history.exit.outcome = .ok flag) :
    flag = true ↔ 1 < history.attempts.length := by
  cases Nat.eq_zero_or_pos args.retries with
  | inl none =>
      rw [beginCreateOrUpdateWithRetry, none, retryLoop] at ran
      cases ran
      cases returned
      simp
  | inr some =>
      obtain ⟨earlier, last, attempts, protocol⟩ :=
        retryProtocol_of_retryLoop (Nat.zero_add _) some ran
      have exit : history.exit = .returned flag := by
        cases exit : history.exit with
        | returned value =>
            rw [exit] at returned
            cases returned
            rfl
        | raised error =>
            rw [exit] at returned
            cases returned
        | fellThrough value => exact absurd exit (protocol.reached value)
      rw [protocol.flag flag exit, attempts, List.length_append, List.length_singleton]
      cases earlier with
      | nil => simp
      | cons record others =>
          refine iff_of_true (.inr ⟨record, List.mem_cons_self, ?_⟩) (by simp)
          exact protocol.rejected record List.mem_cons_self

private theorem metadata_reportTasks (ε : Type) {ν : Type} (startTime armTime readyTime : ℚ)
    (op : Operation)
    (flag : Bool) (nodes : List ν) :
    let finished : Except ε (List ν) × Operation :=
      reportTasks startTime op (.ok flag, armTime) (.ok nodes, readyTime)
    finished.2.metadata.get? (lit "node_readiness_time") = some (.num (readyTime - startTime)) ∧
    finished.2.metadata.get? (lit "command_execution_time") =
      some (.num (armTime - startTime)) ∧
    finished.2.metadata.get? (lit "retry_occurred") = some (.bool flag) ∧
    ∀ key ∉ timingKeys, finished.2.metadata.get? key = op.metadata.get? key := by
  obtain ⟨firstApart, rest⟩ := List.nodup_cons.mp timingKeys_distinct
  obtain ⟨secondApart, -⟩ := List.nodup_cons.mp rest
  rw [List.mem_cons, List.mem_singleton, not_or] at firstApart
  rw [List.mem_singleton] at secondApart
  simp only [reportTasks, Operation.addMetadata]
  refine ⟨?_, ?_, ?_, ?_⟩
  · rw [Fields.get?_set_of_ne _ firstApart.2, Fields.get?_set_of_ne _ firstApart.1,
      Fields.get?_set_self]
  · rw [Fields.get?_set_of_ne _ secondApart, Fields.get?_set_self]
  · rw [Fields.get?_set_self]
  · intro key other
    simp only [timingKeys, List.mem_cons, List.not_mem_nil, or_false, not_or] at other
    rw [Fields.get?_set_of_ne _ other.2.2, Fields.get?_set_of_ne _ other.2.1,
      Fields.get?_set_of_ne _ other.1]

private theorem recordsOrFails_reportTasks {ν : Type} {args : RetryArgs}
    {world : Nat → UpdateAnswers} {fuel : Nat} {history : RetryHistory}
    (ran : beginCreateOrUpdateWithRetry args world fuel = some history)
    (k8s : Except ArmError (List ν)) (startTime armTime readyTime : ℚ) (op : Operation) :
    RecordsOrFails history k8s startTime op armTime readyTime
      (reportTasks startTime op (history.exit.outcome, armTime) (k8s, readyTime)) := by
  cases arm : history.exit.outcome with
  | error armExc =>
      have finished : reportTasks startTime op (.error armExc, armTime) (k8s, readyTime) =
          (.error armExc, op) := rfl
      rw [finished]
      constructor <;> simp [arm, Except.isOk, Except.toBool]
  | ok flag =>
      cases k8s with
      | error k8sExc =>
          have finished : reportTasks startTime op (.ok flag, armTime)
              ((.error k8sExc : Except ArmError (List ν)), readyTime) =
            (.error k8sExc, op) := rfl
          rw [finished]
          constructor <;> simp [arm, Except.isOk, Except.toBool]
      | ok nodes =>
          obtain ⟨readiness, execution, retry, others⟩ :=
            metadata_reportTasks ArmError startTime armTime readyTime op flag nodes
          have flagIs : flag = decide (1 < history.attempts.length) := by
            rw [Bool.eq_iff_iff, decide_eq_true_eq]
            exact retried_iff ran arm
          exact
            { returns := iff_of_true ⟨nodes, rfl⟩ ⟨⟨flag, arm⟩, nodes, rfl⟩
              readyNodes := fun _ same => same
              readiness := fun _ => readiness
              execution := fun _ => execution
              retry := fun _ => flagIs ▸ retry
              others := others
              armRaises := fun _ raised => nomatch arm.symm.trans raised
              k8sRaises := fun _ _ _ raised => nomatch raised
              unrecorded := fun _ raised => nomatch raised }

/-- In every order of the two ends, a call that has returned or raised did so after both
tasks had ended, with the timings of their ends or the exception of the first that
failed; and once both have ended the call can end. -/
theorem instrument_records_or_fails {ν : Type} (args : RetryArgs) (world : Nat → UpdateAnswers)
    (fuel : Nat) (history : RetryHistory) (k8s : Except ArmError (List ν)) (startTime : ℚ)
    (op : Operation) (events : List ForkJoinEvent)
    (ran : beginCreateOrUpdateWithRetry args world fuel = some history)
    (run : ForkJoin.IsRun history.exit.outcome k8s (reportTasks startTime op) startTime
      events) :
    (∀ finished,
      (instrumentNodepoolProvisioning history.exit.outcome k8s startTime op events).joined =
        some finished →
      ∃ armTime readyTime,
        ForkJoin.OccursAt history.exit.outcome k8s (reportTasks startTime op) startTime events
          .leftEnds armTime ∧
        ForkJoin.OccursAt history.exit.outcome k8s (reportTasks startTime op) startTime events
          .rightEnds readyTime ∧
        RecordsOrFails history k8s startTime op armTime readyTime finished) ∧
    (∀ armTime readyTime,
      ForkJoin.OccursAt history.exit.outcome k8s (reportTasks startTime op) startTime events
        .leftEnds armTime →
      ForkJoin.OccursAt history.exit.outcome k8s (reportTasks startTime op) startTime events
        .rightEnds readyTime →
      ∃ finished,
        (instrumentNodepoolProvisioning history.exit.outcome k8s startTime op
          (events ++ [.join])).joined = some finished ∧
        RecordsOrFails history k8s startTime op armTime readyTime finished) := by
  have reports := recordsOrFails_reportTasks ran k8s startTime
  constructor
  · intro finished joined
    obtain ⟨armTime, readyTime, armOccurs, readyOccurs, same⟩ := run.joined joined
    exact ⟨armTime, readyTime, armOccurs, readyOccurs, same ▸ reports armTime readyTime op⟩
  · intro armTime readyTime armOccurs readyOccurs
    exact ⟨_, run.join armOccurs readyOccurs, reports armTime readyTime op⟩

/-- The nodes are ready before the second attempt of the update is done. -/
def readyFirst : List ForkJoinEvent :=
  [.elapse 60, .rightEnds, .elapse 30, .leftEnds, .join]

private theorem readyFirst_isRun {ν : Type} (arm : Except ArmError Bool)
    (k8s : Except ArmError (List ν)) (startTime : ℚ) (op : Operation) :
    ForkJoin.IsRun arm k8s (reportTasks startTime op) startTime readyFirst := by
  have waits : (0 : ℚ) ≤ 60 ∧ (0 : ℚ) ≤ 30 := by norm_num
  refine allowedRun_cons.mpr ⟨?_, allowedRun_cons.mpr ⟨rfl, allowedRun_cons.mpr ⟨?_,
    allowedRun_cons.mpr ⟨rfl, allowedRun_cons.mpr ⟨⟨rfl, rfl, rfl⟩, allowedRun_nil _⟩⟩⟩⟩⟩
  · exact waits.1
  · exact waits.2

theorem instrument_records_readyFirst :
    ∃ history finished armTime readyTime,
      (instrumentNodepoolProvisioning history.exit.outcome (.ok [lit "node-1"]) 0
        { name := lit "scale_up", cloud := lit "azure" } readyFirst).joined = some finished ∧
      RecordsOrFails history (.ok [lit "node-1"]) 0
        { name := lit "scale_up", cloud := lit "azure" } armTime readyTime finished := by
  have pauses : (defaultArgs (lit "user")).pollInterval ≠ 0 := by
    rw [(defaultArgs_pauses _).1]
    norm_num
  obtain ⟨bound, ends⟩ :=
    exists_retryLoop (fun _ zero => absurd zero pauses) (defaultArgs (lit "user")).retries 0 false
  obtain ⟨history, ran⟩ := ends bound (Nat.le_refl bound)
  have both := instrument_records_or_fails (defaultArgs (lit "user")) rejectedOnce bound history
    (.ok [lit "node-1"]) 0 { name := lit "scale_up", cloud := lit "azure" } readyFirst ran
    (readyFirst_isRun _ _ _ _)
  obtain ⟨armTime, readyTime, -, -, records⟩ := both.1 _ rfl
  exact ⟨history, _, armTime, readyTime, rfl, records⟩

/-- When the tasks end after the latencies of a scaling step's calls, the call ends as the
step has it: with its exception, or with its notes in the metadata. -/
theorem instrument_refines_step {ν : Type} (count : Int) (world : Aks.AksStepWorld)
    (nodes : List ν) (startTime : ℚ) (op : Operation) (events : List ForkJoinEvent)
    {finished : Except Error (List ν) × Operation}
    (run : ForkJoin.IsRun (world.arm.result.map fun _ => world.retryOccurred)
      (world.nodesReady.result.map fun _ => nodes) (reportTasks startTime op) startTime events)
    (armEnds : ForkJoin.OccursAt (world.arm.result.map fun _ => world.retryOccurred)
      (world.nodesReady.result.map fun _ => nodes) (reportTasks startTime op) startTime events
      .leftEnds (startTime + world.arm.latency))
    (readyEnds : ForkJoin.OccursAt (world.arm.result.map fun _ => world.retryOccurred)
      (world.nodesReady.result.map fun _ => nodes) (reportTasks startTime op) startTime events
      .rightEnds (startTime + world.nodesReady.latency))
    (joined : (instrumentNodepoolProvisioning (world.arm.result.map fun _ => world.retryOccurred)
      (world.nodesReady.result.map fun _ => nodes) startTime op events).joined =
        some finished) :
    finished =
      match (perform (Aks.instrumentNodepoolProvisioning count world)).raised with
      | some error => (.error error, op)
      | none => (.ok nodes, (perform (Aks.instrumentNodepoolProvisioning count world)).notes.foldl
          (fun op note => op.addMetadata note.1 note.2) op) := by
  obtain ⟨armTime, readyTime, armOccurs, readyOccurs, rfl⟩ := run.joined joined
  rw [run.leftEnds_unique armOccurs armEnds, run.rightEnds_unique readyOccurs readyEnds]
  cases arm : world.arm.raises with
  | some error => simp [Call.result, arm, reportTasks, Except.map,
      Aks.instrumentNodepoolProvisioning, perform, Activity.performed, Call.both]
  | none =>
      cases ready : world.nodesReady.raises with
      | some error => simp [Call.result, arm, ready, reportTasks, Except.map,
          Aks.instrumentNodepoolProvisioning, perform, Activity.performed, Call.both]
      | none => simp [Call.result, arm, ready, reportTasks, Except.map,
          Aks.instrumentNodepoolProvisioning, perform, Activity.performed, Call.both,
          Performed.join, Performed.nothing]

end Telescope.Provisioning
