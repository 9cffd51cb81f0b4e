import Telescope.Crud.Operation
import Telescope.Machine.Agentpool
import Telescope.Machine.Envelope

namespace Telescope.Machine

open Telescope Crud

/-! Scaling a Machine-mode agentpool (`AKSMachineClient.scale_machine`): the node
snapshot, the fan-out of PUTs, the agentpool wait, the readiness wait and the
verdict, inside one operation context. -/

structure ScaleArgs where
  agentPoolName : Text
  vmSize : Text
  scaleMachineCount : Int
  clusterName : Option Text
  useBatchApi : Bool
  machineWorkers : Int
  timeout : Int
  readinessWaitTimeout : Int

def getMachineNamePrefix (scaleMachineCount : Int) : Text :=
  if 1000 ≤ scaleMachineCount ∧ scaleMachineCount % 1000 = 0 then
    lit "scale" ++ intText (scaleMachineCount / 1000) ++ lit "k"
  else lit "scale" ++ intText scaleMachineCount

def machineNames (scaleMachineCount : Int) : List Text :=
  (List.range scaleMachineCount.toNat).map fun i =>
    getMachineNamePrefix scaleMachineCount ++ lit "-machine-" ++ natText (i + 1)

/-- What the run meets, phase by phase.  `reply` answers the PUT of a machine and
`completed` is the order in which these PUTs end; Python renders the tracebacks,
attribute errors and failed machines. -/
structure ScaleWorld (args : ScaleArgs) where
  defaultClusterName : Text
  entered : ℚ
  baseline : Except Error Nat
  commandStarted : ℚ
  commandEnded : ℚ
  reply : Text → Reply
  completed : List Text
  completedAll : completed.Perm (machineNames args.scaleMachineCount)
  batch : BatchRun args.machineWorkers.toNat
  agentpool : AgentpoolTrace
  readiness : PollTrace
  timePasses : ∀ time, ∃ i, time ≤ (readiness.poll i).loopClock
  clusterData : Except Error Json
  exited : ℚ
  traceback : Error → Text
  attributeText : Json → Text
  failedText : List FailedMachine → Text

def singleSuccessCodes : List Nat := [200, 201, 202]

/-- `_create_single_machine` returned `True`. -/
def singleAccepted : Reply → Bool
  | .ok response => decide (response.statusCode ∈ singleSuccessCodes)
  | .error _ => false

def scaleMachineIndividually (reply : Text → Reply) (completed : List Text) : List Text :=
  completed.filter fun name => singleAccepted (reply name)

def envelopeJson (envelope : Envelope) : Json :=
  .obj (Percentile.all.map fun p =>
    (lit "P" ++ natText p.value,
      .obj
        [(lit "target_nodes", .num (envelope p).targetNodes),
          (lit "elapsed_time_seconds",
            match (envelope p).elapsedTimeSeconds with
            | none => .null
            | some elapsed => .num elapsed),
          (lit "percentage", .num (envelope p).percentage),
          (lit "success", .bool (envelope p).success)]))

def timingJson (timing : Text × BatchTiming) : Text × Json :=
  (timing.1, .obj
    [(lit "start_time", .num timing.2.startTime),
      (lit "end_time", .num timing.2.endTime),
      (lit "execution_time_seconds", .num timing.2.executionTimeSeconds),
      (lit "total_machines_in_batch", .num timing.2.totalMachinesInBatch)])

namespace ScaleArgs

def cluster (args : ScaleArgs) (world : ScaleWorld args) : Text :=
  match args.clusterName with
  | none => world.defaultClusterName
  | some [] => world.defaultClusterName
  | some name => name

def context (args : ScaleArgs) (world : ScaleWorld args) : OperationContext :=
  { name := lit "scale_machine"
    cloud := lit "azure"
    metadata :=
      [(lit "cluster_name", .str (args.cluster world)),
        (lit "agent_pool_name", .str args.agentPoolName),
        (lit "vm_size", .str args.vmSize),
        (lit "scale_machine_count", .num args.scaleMachineCount),
        (lit "use_batch_api", .bool args.useBatchApi),
        (lit "machine_workers", .num args.machineWorkers)] }

def request (args : ScaleArgs) (client : MachineClient) (world : ScaleWorld args) :
    ScaleRequest :=
  { agentPoolName := args.agentPoolName
    clusterName := args.cluster world
    resourceGroup := client.resourceGroup
    vmSize := args.vmSize
    machineWorkers := args.machineWorkers
    timeout := args.timeout }

def agentpoolUrl (args : ScaleArgs) (client : MachineClient) (world : ScaleWorld args) :
    Text :=
  agentPoolPath client.subscriptionId client.resourceGroup (args.cluster world)
    args.agentPoolName ++ lit "?api-version=" ++ agentpoolApiVersion

def baselineCount {args : ScaleArgs} (world : ScaleWorld args) : Nat :=
  match world.baseline with
  | .ok count => count
  | .error _ => 0

end ScaleArgs

/-- The names that landed, and the batch timings. -/
structure Landing where
  successful : List Text
  timings : List (Text × BatchTiming)

def landMachines (client : MachineClient) (args : ScaleArgs) (world : ScaleWorld args) :
    Except Error Landing :=
  if args.useBatchApi then
    let outcome := scaleMachineBatch client (args.request client world)
      (machineNames args.scaleMachineCount) world.batch
    match outcome.result with
    | .error raised => .error raised
    | .ok successful => .ok ⟨successful, outcome.timings⟩
  else .ok ⟨scaleMachineIndividually world.reply world.completed, []⟩

def landingActions (args : ScaleArgs) (world : ScaleWorld args) (landing : Landing) :
    List BodyAction :=
  .addMetadata (lit "command_execution_time")
      (.num (world.commandEnded - world.commandStarted)) ::
    (if args.useBatchApi then
      [.addMetadata (lit "batch_command_execution_times")
        (.obj (landing.timings.map timingJson))]
    else []) ++
    [.addMetadata (lit "successful_machines") (.num landing.successful.length)]

def waitArgs (args : ScaleArgs) (world : ScaleWorld args) (landing : Landing) :
    WaitArgs :=
  { expectedCount := landing.successful.length
    timeout := args.readinessWaitTimeout
    baselineCount := ScaleArgs.baselineCount world
    clusterName := some (args.cluster world)
    expectedMachineNames := some (machineNames args.scaleMachineCount) }

def readinessFailure (args : ScaleArgs) (world : ScaleWorld args) (wait : WaitExit) :
    Option Error :=
  match wait.outcome with
  | .returned _ => none
  | .raised failedMachines _ =>
      some ⟨.machineProvisioningFailed,
        lit "machine provisioning failed in agentpool " ++ args.agentPoolName ++
          lit ": failed_machines=" ++ world.failedText failedMachines⟩

def readinessActions (wait : WaitExit) : List BodyAction :=
  (match wait.outcome with
    | .returned _ => []
    | .raised failedMachines _ =>
        [.addMetadata (lit "failed_machines") (.arr (failedMachines.map Json.obj))]) ++
    [.addMetadata (lit "percentile_node_readiness_times") (envelopeJson wait.envelope),
      .addMetadata (lit "node_readiness_time")
        (.num ((wait.envelope .p100).elapsedTimeSeconds.getD 0))]

/-- The raise decision after both waits; `none` returns. -/
def scaleVerdict (args : ScaleArgs) (world : ScaleWorld args) (agentpoolOk : Bool)
    (wait : WaitExit) : Option Error :=
  match readinessFailure args world wait with
  | some raised => some raised
  | none =>
      if !agentpoolOk then
        some (.runtimeError (lit "agentpool " ++ args.agentPoolName ++
          lit " did not reach Succeeded within " ++ intText args.timeout ++ lit "s"))
      else if !(wait.envelope .p100).success then
        some (.runtimeError (lit "node readiness P100 did not complete within " ++
          intText args.readinessWaitTimeout ++ lit "s for agentpool " ++
          args.agentPoolName))
      else none

/-- What the body of the context did: its metadata, the exception it raised, the
agentpool polls begun and the readiness iterations. -/
structure ScaleBody where
  actions : List BodyAction
  raised : Option Error
  agentpoolPolls : Nat
  observations : List Observation

def reportScale (args : ScaleArgs) (world : ScaleWorld args) (landing : Landing)
    (agentpoolPolls : Nat) (agentpoolOk : Bool) (wait : WaitExit) : ScaleBody :=
  let actions := landingActions args world landing ++ readinessActions wait
  match world.clusterData with
  | .error raised => ⟨actions, some raised, agentpoolPolls, wait.observations⟩
  | .ok clusterInfo =>
      ⟨actions ++ [.addMetadata (lit "cluster_info") clusterInfo],
        scaleVerdict args world agentpoolOk wait, agentpoolPolls, wait.observations⟩

/-- Both waits and the report, once all machines landed. -/
def awaitScale (client : MachineClient) (args : ScaleArgs) (world : ScaleWorld args)
    (landing : Landing) (fuel : Nat) : Option ScaleBody :=
  match waitForAgentpoolProvisioning world.attributeText (args.agentpoolUrl client world)
      args.timeout world.agentpool fuel with
  | none => none
  | some ⟨polls, .error raised⟩ =>
      some ⟨landingActions args world landing, some raised, polls, []⟩
  | some ⟨polls, .ok agentpoolOk⟩ =>
      (waitForMachineNodeReadiness (waitArgs args world landing) world.readiness fuel).map
        fun wait => reportScale args world landing polls agentpoolOk wait

def scaleBody (client : MachineClient) (args : ScaleArgs) (world : ScaleWorld args)
    (fuel : Nat) : Option ScaleBody :=
  match landMachines client args world with
  | .error raised => some ⟨[], some raised, 0, []⟩
  | .ok landing =>
      if (landing.successful.length : Int) ≠ args.scaleMachineCount then
        some ⟨landingActions args world landing,
          some (.runtimeError (lit "scale_machine landed " ++
            natText landing.successful.length ++ lit "/" ++
            intText args.scaleMachineCount ++ lit " machines")), 0, []⟩
      else awaitScale client args world landing fuel

/-- `raised` is `none` when `scale_machine` returns; `saved` is the record that the
context writes. -/
structure ScaleExit where
  raised : Option Error
  saved : Operation
  agentpoolPolls : Nat
  observations : List Observation

def scaleMachine (client : MachineClient) (args : ScaleArgs) (world : ScaleWorld args)
    (fuel : Nat) : Option ScaleExit :=
  (scaleBody client args world fuel).map fun body =>
    { raised := body.raised
      saved := ContextUse.saved
        { context := args.context world
          entered := world.entered
          actions := body.actions
          raised := body.raised.map fun error =>
            { message := error.message, traceback := world.traceback error }
          exited := world.exited }
      agentpoolPolls := body.agentpoolPolls
      observations := body.observations }

/-! What the run achieved, told from what it met. -/

/-- The machine names whose PUT was accepted. -/
def acceptedNames (client : MachineClient) (args : ScaleArgs) (world : ScaleWorld args) :
    List Text :=
  if args.useBatchApi then
    if BatchFits (args.request client world) (machineNames args.scaleMachineCount) then
      landedNames (args.request client world) (machineNames args.scaleMachineCount)
        world.batch
    else []
  else
    (machineNames args.scaleMachineCount).filter fun name =>
      singleAccepted (world.reply name)

structure ScaleAchieved (client : MachineClient) (args : ScaleArgs)
    (world : ScaleWorld args) (exit : ScaleExit) : Prop where
  positive : 1 ≤ args.scaleMachineCount
  accepted : acceptedNames client args world = machineNames args.scaleMachineCount
  provisioned : ∃ k, k < exit.agentpoolPolls ∧
    (world.agentpool.poll k).clock < world.agentpool.start + args.timeout ∧
      ReportsSucceeded world.attributeText (world.agentpool.poll k).reply
  noFailure : ∀ seen ∈ exit.observations, seen.failedMachines = []
  ready : ∃ i, i < exit.observations.length ∧
    (ScaleArgs.baselineCount world : Int) + args.scaleMachineCount ≤
      readyAt world.readiness i

private theorem acceptedNames_sublist (client : MachineClient) (args : ScaleArgs)
    (world : ScaleWorld args) :
    (acceptedNames client args world).Sublist (machineNames args.scaleMachineCount) := by
  rw [acceptedNames]
  split
  · split
    · rename_i fits
      exact landedNames_sublist _ _ world.batch fits
    · exact List.nil_sublist _
  · exact List.filter_sublist

private theorem landMachines_ok (client : MachineClient) (args : ScaleArgs)
    (world : ScaleWorld args) (landing : Landing)
    (landed : landMachines client args world = .ok landing) :
    landing.successful.Perm (acceptedNames client args world) := by
  cases batch : args.useBatchApi with
  | false =>
      rw [landMachines, batch] at landed
      simp only [Bool.false_eq_true, if_false, Except.ok.injEq] at landed
      rw [acceptedNames, batch, ← landed]
      exact world.completedAll.filter _
  | true =>
      rw [landMachines, batch] at landed
      rw [acceptedNames, batch]
      by_cases fits : BatchFits (args.request client world)
          (machineNames args.scaleMachineCount)
      · obtain ⟨successful, result, perm⟩ := scaleMachineBatch_result client
          (args.request client world) (machineNames args.scaleMachineCount) world.batch fits
        simp only [if_true, result, Except.ok.injEq] at landed
        simp only [if_true, if_pos fits, ← landed]
        exact perm
      · obtain ⟨message, rejected⟩ := scaleMachineBatch_of_not_fits client
          (args.request client world) (machineNames args.scaleMachineCount) world.batch fits
        simp [rejected, batchRejected] at landed

private theorem length_machineNames (scaleMachineCount : Int) :
    (machineNames scaleMachineCount).length = scaleMachineCount.toNat := by
  simp [machineNames]

/-- A wait that returns with P100 marked expected machines, reported no failure and
saw the full count. -/
theorem readiness_of_p100 (args : WaitArgs) (trace : PollTrace) (fuel : Nat)
    (wait : WaitExit) (envelope : Envelope)
    (ran : waitForMachineNodeReadiness args trace fuel = some wait)
    (returned : wait.outcome = .returned envelope)
    (success : (wait.envelope .p100).success = true) :
    1 ≤ args.expectedCount ∧ (∀ seen ∈ wait.observations, seen.failedMachines = []) ∧
      ∃ i, i < wait.observations.length ∧
        (args.baselineCount : Int) + args.expectedCount ≤ readyAt trace i := by
  by_cases expected : args.expectedCount ≤ 0
  · rw [waitForMachineNodeReadiness, if_pos expected] at ran
    have exitEquation := Option.some.inj ran
    rw [← exitEquation] at success
    exact Bool.noConfusion success
  · have positive : 1 ≤ args.expectedCount := by omega
    have shape := waitForMachineNodeReadiness_shape args trace fuel wait positive ran
    cases shape with
    | raised recorded last quiet ordered polled failed =>
        exact WaitOutcome.noConfusion returned
    | returned recorded quiet ordered polled ended =>
        refine ⟨positive, quiet, ?_⟩
        have found := (buildReadinessEnvelope_success_iff args recorded .p100).mp success
        rw [polled.reachedBefore, args.target_p100 positive] at found
        exact found

private theorem scaleVerdict_none (args : ScaleArgs) (world : ScaleWorld args)
    (agentpoolOk : Bool) (wait : WaitExit)
    (returns : scaleVerdict args world agentpoolOk wait = none) :
    (∃ envelope, wait.outcome = .returned envelope) ∧ agentpoolOk = true ∧
      (wait.envelope .p100).success = true := by
  cases outcome : wait.outcome with
  | raised failedMachines envelope =>
      simp [scaleVerdict, readinessFailure, outcome] at returns
  | returned envelope =>
      simp only [scaleVerdict, readinessFailure, outcome] at returns
      cases agentpoolOk with
      | false => simp at returns
      | true =>
          refine ⟨⟨envelope, rfl⟩, rfl, ?_⟩
          cases success : (wait.envelope .p100).success with
          | true => rfl
          | false => simp [success] at returns

private theorem awaitScale_cases (client : MachineClient) (args : ScaleArgs)
    (world : ScaleWorld args) (landing : Landing) (fuel : Nat) (body : ScaleBody)
    (ran : awaitScale client args world landing fuel = some body)
    (returns : body.raised = none) :
    ∃ polls wait,
      waitForAgentpoolProvisioning world.attributeText (args.agentpoolUrl client world)
          args.timeout world.agentpool fuel = some ⟨polls, .ok true⟩ ∧
        waitForMachineNodeReadiness (waitArgs args world landing) world.readiness fuel =
          some wait ∧
        (∃ envelope, wait.outcome = .returned envelope) ∧
        (wait.envelope .p100).success = true ∧
        body.agentpoolPolls = polls ∧ body.observations = wait.observations := by
  rw [awaitScale] at ran
  split at ran
  · exact absurd ran.symm (Option.some_ne_none _)
  · have bodyEquation := Option.some.inj ran
    rw [← bodyEquation] at returns
    exact absurd returns (Option.some_ne_none _)
  · rename_i polls agentpoolOk agentpool
    obtain ⟨wait, waited, bodyEquation⟩ := Option.map_eq_some_iff.mp ran
    subst bodyEquation
    rw [reportScale] at returns ⊢
    cases clusterData : world.clusterData with
    | error raised =>
        rw [clusterData] at returns
        exact absurd returns (Option.some_ne_none _)
    | ok clusterInfo =>
        rw [clusterData] at returns
        obtain ⟨returned, provisioned, success⟩ :=
          scaleVerdict_none args world agentpoolOk wait returns
        rw [provisioned] at agentpool
        exact ⟨polls, wait, agentpool, waited, returned, success, rfl, rfl⟩

/-- Either the body fails fast, without polling, or every machine landed. -/
theorem scaleBody_cases (client : MachineClient) (args : ScaleArgs)
    (world : ScaleWorld args) (fuel : Nat) (body : ScaleBody)
    (ran : scaleBody client args world fuel = some body) :
    (body.raised ≠ none ∧ body.agentpoolPolls = 0 ∧ body.observations = []) ∨
      ((acceptedNames client args world).length : Int) = args.scaleMachineCount ∧
        ∃ landing, (landing.successful.length : Int) = args.scaleMachineCount ∧
          awaitScale client args world landing fuel = some body := by
  rw [scaleBody] at ran
  cases landed : landMachines client args world with
  | error raised =>
      rw [landed] at ran
      have bodyEquation := Option.some.inj ran
      rw [← bodyEquation]
      exact .inl ⟨Option.some_ne_none _, rfl, rfl⟩
  | ok landing =>
      simp only [landed] at ran
      split at ran
      · have bodyEquation := Option.some.inj ran
        rw [← bodyEquation]
        exact .inl ⟨Option.some_ne_none _, rfl, rfl⟩
      · rename_i complete
        have count := not_not.mp complete
        have accepted := landMachines_ok client args world landing landed
        refine .inr ⟨?_, landing, count, ran⟩
        rw [← accepted.length_eq]
        exact count

private theorem scaleMachine_achieved (client : MachineClient) (args : ScaleArgs)
    (world : ScaleWorld args) (fuel : Nat) (exit : ScaleExit)
    (ran : scaleMachine client args world fuel = some exit)
    (returns : exit.raised = none) : ScaleAchieved client args world exit := by
  obtain ⟨body, bodyRan, exitEquation⟩ := Option.map_eq_some_iff.mp ran
  subst exitEquation
  rcases scaleBody_cases client args world fuel body bodyRan with
    ⟨raised, -⟩ | ⟨accepted, landing, count, awaited⟩
  · exact absurd returns raised
  · obtain ⟨polls, wait, agentpool, waited, ⟨envelope, returned⟩, success,
      pollsEquation, observations⟩ :=
      awaitScale_cases client args world landing fuel body awaited returns
    obtain ⟨positive, quiet, i, inside, reached⟩ :=
      readiness_of_p100 _ _ fuel wait envelope waited returned success
    simp only [waitArgs] at positive reached
    constructor
    · omega
    · apply (acceptedNames_sublist client args world).eq_of_length
      rw [length_machineNames]
      omega
    · rw [pollsEquation]
      exact agentpoolLoop_true _ _ _ _ fuel 0 _ agentpool rfl
    · rw [observations]
      exact quiet
    · refine ⟨i, ?_, ?_⟩
      · rw [observations]
        exact inside
      · omega

/-- Too few accepted machines end the run before any polling. -/
theorem scaleMachine_of_fewer (client : MachineClient) (args : ScaleArgs)
    (world : ScaleWorld args) (fuel : Nat) (exit : ScaleExit)
    (ran : scaleMachine client args world fuel = some exit)
    (fewer : ((acceptedNames client args world).length : Int) < args.scaleMachineCount) :
    exit.raised ≠ none ∧ exit.agentpoolPolls = 0 ∧ exit.observations = [] := by
  obtain ⟨body, bodyRan, exitEquation⟩ := Option.map_eq_some_iff.mp ran
  subst exitEquation
  rcases scaleBody_cases client args world fuel body bodyRan with
    failedFast | ⟨accepted, -⟩
  · exact failedFast
  · omega

/-- The saved record says exactly whether the run raised. -/
theorem scaleMachine_saved (client : MachineClient) (args : ScaleArgs)
    (world : ScaleWorld args) (fuel : Nat) (exit : ScaleExit)
    (ran : scaleMachine client args world fuel = some exit) :
    exit.saved.success = exit.raised.isNone := by
  obtain ⟨body, -, exitEquation⟩ := Option.map_eq_some_iff.mp ran
  subst exitEquation
  cases raised : body.raised with
  | none => rfl
  | some error => exact success_exit_of_raised _ _ _

/-! The run ends: every wait polls until its deadline at most. -/

private theorem AgentpoolTrace.clock_mono (trace : AgentpoolTrace) :
    Monotone fun i => (trace.poll i).clock := by
  apply monotone_nat_of_le_succ
  intro i
  have next := trace.slept i
  rw [pollIntervalSeconds] at next
  linarith

private theorem waitForMachineNodeReadiness_terminates (args : WaitArgs) (trace : PollTrace)
    (remaining : Nat)
    (late : trace.start + args.timeout ≤ (trace.poll remaining).loopClock) :
    ∃ wait, waitForMachineNodeReadiness args trace (remaining + 1) = some wait := by
  rw [waitForMachineNodeReadiness]
  split
  · exact ⟨_, rfl⟩
  · apply waitLoop_terminates
    rwa [Nat.zero_add]

private theorem scaleMachine_terminates (client : MachineClient) (args : ScaleArgs)
    (world : ScaleWorld args) :
    ∃ fuel exit, scaleMachine client args world fuel = some exit := by
  obtain ⟨first, agentpoolLate⟩ :=
    world.agentpool.exists_late (world.agentpool.start + args.timeout)
  obtain ⟨second, readinessLate⟩ :=
    world.timePasses (world.readiness.start + args.readinessWaitTimeout)
  have agentpoolEnds := agentpoolLoop_terminates
    (agentpoolVerdict world.attributeText (args.agentpoolUrl client world)) args.timeout
    world.agentpool (max first second) 0
    (by
      rw [Nat.zero_add]
      exact agentpoolLate.trans (world.agentpool.clock_mono (le_max_left _ _)))
  have readinessEnds : ∀ landing, ∃ wait, waitForMachineNodeReadiness
      (waitArgs args world landing) world.readiness (max first second + 1) = some wait := by
    intro landing
    apply waitForMachineNodeReadiness_terminates
    exact readinessLate.trans (world.readiness.loopClock_mono (le_max_right _ _))
  refine ⟨max first second + 1, ?_⟩
  rw [scaleMachine, scaleBody]
  cases landMachines client args world with
  | error raised => exact ⟨_, rfl⟩
  | ok landing =>
      simp only
      split
      · exact ⟨_, rfl⟩
      · obtain ⟨⟨polls, result⟩, agentpool⟩ := agentpoolEnds
        obtain ⟨wait, waited⟩ := readinessEnds landing
        rw [awaitScale, waitForAgentpoolProvisioning, agentpool]
        cases result with
        | error raised => exact ⟨_, rfl⟩
        | ok agentpoolOk =>
            simp only [waited]
            exact ⟨_, rfl⟩

/-- Every run ends; it returns only when everything asked for was achieved, any
other run is saved as failed, and too few accepted machines raise without
polling. -/
theorem scale_machine_reports_soundly (client : MachineClient) (args : ScaleArgs)
    (world : ScaleWorld args) :
    (∃ fuel exit, scaleMachine client args world fuel = some exit) ∧
      ∀ fuel exit, scaleMachine client args world fuel = some exit →
        (exit.raised = none → ScaleAchieved client args world exit) ∧
        (exit.raised ≠ none → exit.saved.success = false) ∧
        (((acceptedNames client args world).length : Int) < args.scaleMachineCount →
          exit.raised ≠ none ∧ exit.agentpoolPolls = 0 ∧ exit.observations = []) := by
  refine ⟨scaleMachine_terminates client args world, ?_⟩
  intro fuel exit ran
  refine ⟨scaleMachine_achieved client args world fuel exit ran, ?_,
    scaleMachine_of_fewer client args world fuel exit ran⟩
  intro raised
  rw [scaleMachine_saved client args world fuel exit ran]
  exact Option.isNone_eq_false_iff.mpr (Option.isSome_iff_ne_none.mpr raised)

def oneMachine : ScaleArgs :=
  { agentPoolName := lit "machines"
    vmSize := lit "Standard_D2_v3"
    scaleMachineCount := 1
    clusterName := some (lit "aks")
    useBatchApi := false
    machineWorkers := 1
    timeout := 600
    readinessWaitTimeout := 1200 }

/-- The machine is accepted, the agentpool succeeds at the second poll and the node
is ready ten seconds later. -/
def smoothWorld (clusterData : Except Error Json) : ScaleWorld oneMachine where
  defaultClusterName := []
  entered := 0
  baseline := .error ⟨.external, lit "no kubeconfig"⟩
  commandStarted := 0
  commandEnded := 2
  reply := fun _ => .ok ⟨201, [], none⟩
  completed := machineNames 1
  completedAll := List.Perm.refl _
  batch :=
    { worker := fun _ => { replies := fun _ => .ok ⟨201, [], none⟩, started := 0, ended := 1 }
      order := [0]
      complete := List.Perm.refl _ }
  agentpool :=
    { start := 0
      poll := fun i =>
        { clock := 10 * i
          reply := .ok ⟨200, [], some (.obj [(lit "properties",
            .obj [(lit "provisioningState",
              .str (if i = 0 then lit "Creating" else lit "Succeeded"))])])⟩ }
      slept := fun i => by
        rw [pollIntervalSeconds]
        push_cast
        linarith }
  readiness := steadyTrace some fun _ => .ok []
  timePasses := fun time => by
    obtain ⟨i, large⟩ := exists_nat_ge time
    have count : (0 : ℚ) ≤ i := Nat.cast_nonneg i
    refine ⟨i, ?_⟩
    simp only [steadyTrace]
    linarith
  clusterData := clusterData
  exited := 60
  traceback := fun _ => []
  attributeText := fun _ => []
  failedText := fun _ => []

example : (scaleMachine ⟨lit "sub", lit "rg"⟩ oneMachine (smoothWorld (.ok .null)) 3).map
    (fun exit => exit.saved.success) = some true := by
  decide +kernel

end Telescope.Machine
