import Telescope.Eks.ScalingConfigs
import Telescope.Scaling.Plan
import Telescope.Scaling.Steps

namespace Telescope.Eks

open Telescope Crud Scaling

/-! `EKSClient.scale_node_group` with its operations and its clock.  What the account
stores is as in `scaleNodeGroup`; the calls of a step take time and may raise. -/

inductive EksEvent where
  | describeNodegroup
  | updateNodegroupConfig (config : ScalingConfig)
  | waitForNodeGroupActive
  | waitForNodesReady
  | readCluster
  | verifyNvidiaSmi

def EksEvent.request? : EksEvent → Option Int
  | .updateNodegroupConfig config => some config.desiredSize
  | _ => none

structure EksStepCalls where
  described : Call Error
  updated : Call Error
  active : Call Error
  nodesReady : Call Error
  readyNodes : Nat
  nodeGroupInfo : Reading
  clusterInfo : Reading
  driverLogs : Reading

structure EksScaleCalls where
  read : Call Error
  step : Nat → EksStepCalls
  traceback : Error → Text

/-- The arguments of `scale_node_group` that all steps of a scaling share. -/
structure GroupArgs where
  nodeGroupName : Text
  clusterName : Text
  gpuNodeGroup : Bool
  targetCount : Int

abbrev EksActivity := Activity EksEvent Note Error

/-- After the update, the waits and the reads, then the check of the drivers. -/
def settleBody (args : GroupArgs) (verifies : Bool) (calls : EksStepCalls) :
    List EksActivity :=
  [.call .waitForNodeGroupActive calls.active,
   .call .waitForNodesReady calls.nodesReady,
   .note (lit "ready_nodes", .num calls.readyNodes),
   .note (lit "node_pool_name", .str args.nodeGroupName),
   .call .describeNodegroup calls.nodeGroupInfo.call,
   .note (lit "nodepool_info", calls.nodeGroupInfo.value),
   .call .readCluster calls.clusterInfo.call,
   .note (lit "cluster_info", calls.clusterInfo.value)] ++
  if verifies then
    [.call .verifyNvidiaSmi calls.driverLogs.call,
     .note (lit "nvidia_driver_logs", calls.driverLogs.value)]
  else []

def vmSizeJson : Option Text → Json
  | none => .null
  | some vmSize => .str vmSize

def scaleBody (args : GroupArgs) (vmSize : Option Text) (config : ScalingConfig)
    (nodeCount : Int) (verifies : Bool) (calls : EksStepCalls) : List EksActivity :=
  [.note (lit "vm_size", vmSizeJson vmSize),
   .note (lit "current_count", .num config.desiredSize)] ++
  .call (.updateNodegroupConfig (config.scaledTo nodeCount)) calls.updated ::
    settleBody args verifies calls

def operationType (current nodeCount : Int) : Text :=
  if current < nodeCount then lit "scale_up"
  else if nodeCount < current then lit "scale_down"
  else lit "scale"

def verifiesDrivers (args : GroupArgs) (current nodeCount : Int) : Bool :=
  decide (args.gpuNodeGroup ∧ current < nodeCount ∧ 0 < nodeCount ∧
    nodeCount = args.targetCount)

def EksStepCalls.world (calls : EksStepCalls) (args : GroupArgs) (verifies : Bool) :
    ScaleStepWorld where
  described := calls.described.result
  updated := calls.updated.result
  settled := resultOf (perform (settleBody args verifies calls)).raised

/-- The operation of one scaling request; the group has been read. -/
def timedOperation (args : GroupArgs) (progressive : Bool) (scaleStepSize : Int)
    (traceback : Error → Text) (system : System) (clock : ℚ) (group : NodeGroup)
    (nodeCount : Int) (calls : EksStepCalls) : ScaleRun System EksEvent :=
  let config := group.scalingConfig
  let verifies := verifiesDrivers args config.desiredSize nodeCount
  let performed := perform
    (scaleBody args system.client.vmSize config nodeCount verifies calls)
  { cloud := (updateScaling system args.nodeGroupName group nodeCount
      (calls.world args verifies)).system
    clock := clock + performed.elapsed
    events := performed.events
    records := [recordOf
      { name := operationType config.desiredSize nodeCount
        cloud := lit "aws"
        metadata :=
          [(lit "cluster_name", .str args.clusterName),
           (lit "node_count", .num nodeCount),
           (lit "gpu_node_group", .bool args.gpuNodeGroup),
           (lit "progressive_scaling", .bool progressive),
           (lit "scale_step_size", .num scaleStepSize)] }
      clock performed (fun _ => []) traceback]
    result := resultOf performed.raised }

/-- `scale_node_group(..., progressive=False)` with the default step size. -/
def timedStep (args : GroupArgs) (traceback : Error → Text) (system : System) (clock : ℚ)
    (nodeCount : Int) (calls : EksStepCalls) : ScaleRun System EksEvent :=
  let clock := clock + calls.described.latency
  match readNodeGroup system args.nodeGroupName calls.described.result with
  | .error raised => ⟨system, clock, [.describeNodegroup], [], .error raised⟩
  | .ok group =>
      let run := timedOperation args false 1 traceback system clock group nodeCount calls
      { run with events := .describeNodegroup :: run.events }

def stepDelay : ℚ := 10

/-- One step of `_progressive_scale`, with the delay after all but the last. -/
def timedProgressiveStep (args : GroupArgs) (calls : EksScaleCalls) (total : Nat)
    (system : System) (clock : ℚ) (index : Nat) (_previous count : Int) :
    ScaleRun System EksEvent :=
  let run := timedStep args calls.traceback system clock count (calls.step index)
  match run.result with
  | .error _ => run
  | .ok () =>
      if index + 1 < total then { run with clock := run.clock + stepDelay } else run

def timedScaleNodeGroup (args : GroupArgs) (nodeCount : Int) (progressive : Bool)
    (scaleStepSize : Int) (calls : EksScaleCalls) (system : System) (clock : ℚ) :
    ScaleRun System EksEvent :=
  let clock := clock + calls.read.latency
  match readNodeGroup system args.nodeGroupName calls.read.result with
  | .error raised => ⟨system, clock, [.describeNodegroup], [], .error raised⟩
  | .ok group =>
      let current := group.scalingConfig.desiredSize
      let run :=
        if progressive ∧ scaleStepSize < |nodeCount - current| then
          match progressiveSteps current nodeCount scaleStepSize with
          | .error raised => ⟨system, clock, [], [], .error raised⟩
          | .ok steps =>
              forSteps
                (timedProgressiveStep { args with targetCount := nodeCount } calls
                  steps.length)
                system clock 0 current steps
        else
          timedOperation args progressive scaleStepSize calls.traceback system clock group
            nodeCount (calls.step 0)
      { run with events := .describeNodegroup :: run.events }

/-! The operation of one request. -/

private theorem request?_of_mem_settleBody {args : GroupArgs} {verifies : Bool}
    {calls : EksStepCalls} {event : EksEvent} {made : Call Error}
    (member : .call event made ∈ settleBody args verifies calls) :
    event.request? = none := by
  cases verifies <;> simp [settleBody] at member
  · rcases member with ⟨rfl, -⟩ | ⟨rfl, -⟩ | ⟨rfl, -⟩ | ⟨rfl, -⟩ <;> rfl
  · rcases member with ⟨rfl, -⟩ | ⟨rfl, -⟩ | ⟨rfl, -⟩ | ⟨rfl, -⟩ | ⟨rfl, -⟩ <;> rfl

/-- The keys that an operation notes after its request. -/
def settleKeys : List Text :=
  [lit "ready_nodes", lit "node_pool_name", lit "nodepool_info", lit "cluster_info",
   lit "nvidia_driver_logs"]

private theorem key_of_mem_settleBody {args : GroupArgs} {verifies : Bool} {calls : EksStepCalls}
    {note : Note} (member : .note note ∈ settleBody args verifies calls) :
    note.1 ∈ settleKeys := by
  cases verifies <;> simp [settleBody] at member
  · rcases member with rfl | rfl | rfl | rfl <;> simp [settleKeys]
  · rcases member with rfl | rfl | rfl | rfl | rfl <;> simp [settleKeys]

theorem requests_scaleBody (args : GroupArgs) (vmSize : Option Text)
    (config : ScalingConfig) (nodeCount : Int) (verifies : Bool) (calls : EksStepCalls) :
    (perform (scaleBody args vmSize config nodeCount verifies calls)).events.filterMap
        EksEvent.request? = [nodeCount] ∧
      ∀ refused, calls.updated.raises = some refused →
        (perform (scaleBody args vmSize config nodeCount verifies calls)).raised =
          some refused := by
  have noted : ∀ other call, Activity.call other call ∉
      ([.note (lit "vm_size", vmSizeJson vmSize),
        .note (lit "current_count", .num config.desiredSize)] : List EksActivity) := by
    simp
  rcases requests_perform EksEvent.request?
      (show EksEvent.request? (.updateNodegroupConfig (config.scaledTo nodeCount)) =
        some nodeCount from rfl)
      (fun other call member => absurd member (noted other call))
      (fun _ _ => request?_of_mem_settleBody) with ⟨error, raised, -⟩ | sent
  · exact nomatch raised
  · exact sent

/-- What a request that the account takes leaves for the rest of the operation. -/
theorem raised_scaleBody {args : GroupArgs} {vmSize : Option Text}
    {config : ScalingConfig} {nodeCount : Int} {verifies : Bool} {calls : EksStepCalls}
    (accepted : calls.updated.raises = none) :
    (perform (scaleBody args vmSize config nodeCount verifies calls)).raised =
      (perform (settleBody args verifies calls)).raised := by
  rw [scaleBody, perform_append_of_returned rfl, perform_call_of_returned _ accepted]
  rfl

/-- The metadata of the operation: the count read and the count requested. -/
def RecordsStep (previous count : Int) (use : ContextUse) : Prop :=
  recordedField use (lit "current_count") = some (.num previous) ∧
    recordedField use (lit "node_count") = some (.num count)

theorem recordsStep (args : GroupArgs) (vmSize : Option Text) (config : ScalingConfig)
    (nodeCount : Int) (verifies : Bool) (calls : EksStepCalls) (name : Text) (clock : ℚ)
    (progressive : Bool) (scaleStepSize : Int) (traceback : Error → Text) :
    RecordsStep config.desiredSize nodeCount (recordOf
      { name := name
        cloud := lit "aws"
        metadata :=
          [(lit "cluster_name", .str args.clusterName),
           (lit "node_count", .num nodeCount),
           (lit "gpu_node_group", .bool args.gpuNodeGroup),
           (lit "progressive_scaling", .bool progressive),
           (lit "scale_step_size", .num scaleStepSize)] }
      clock (perform (scaleBody args vmSize config nodeCount verifies calls)) (fun _ => [])
      traceback).use := by
  obtain ⟨later, notes, settled⟩ : ∃ later : List Note,
      (perform (scaleBody args vmSize config nodeCount verifies calls)).notes =
        (lit "vm_size", vmSizeJson vmSize) ::
          (lit "current_count", .num config.desiredSize) :: later ∧
      ∀ note ∈ later, note.1 ∈ settleKeys := by
    refine ⟨_, rfl, ?_⟩
    intro note member
    have noted := mem_notes_perform member
    rcases List.mem_cons.mp noted with update | settles
    · exact nomatch update
    · exact key_of_mem_settleBody settles
  have unraised : ∀ raised : Option Error, raised.elim [] (fun _ => []) = ([] : List Note) := by
    intro raised
    cases raised <;> rfl
  have absent : ∀ key, key ∉ settleKeys → ∀ note ∈ later, note.1 ≠ key := by
    intro key other note member same
    exact other (same ▸ settled note member)
  constructor
  · rw [recordedField_recordOf, unraised, List.append_nil, notes, Fields.setAll_cons,
      Fields.setAll_cons, Fields.get?_setAll_of_absent (absent _ (by decide)),
      Fields.get?_set_self]
  · rw [recordedField_recordOf, unraised, List.append_nil, notes, Fields.setAll_cons,
      Fields.setAll_cons, Fields.get?_setAll_of_absent (absent _ (by decide)),
      Fields.get?_set_of_ne _ (show lit "node_count" ≠ lit "current_count" by decide),
      Fields.get?_set_of_ne _ (show lit "node_count" ≠ lit "vm_size" by decide)]
    simp [Fields.get?, lit]

/-! The account holds the count of the group between the steps. -/

def HoldsCount (name : Text) (system : System) (count : Int) : Prop :=
  ∃ group, system.account.nodeGroups.get? name = some group ∧
    group.scalingConfig.desiredSize = count

theorem updateScaling_ok {system : System} {name : Text} {group : NodeGroup}
    {nodeCount : Int} {world : ScaleStepWorld}
    (found : system.account.nodeGroups.get? name = some group)
    (accepted : world.updated = .ok ()) :
    HoldsCount name (updateScaling system name group nodeCount world).system nodeCount ∧
      (updateScaling system name group nodeCount world).result = world.settled := by
  rw [updateScaling, accepted]
  simp only
  split
  · rename_i raised refused
    rw [Account.updateNodegroupConfig] at refused
    split at refused
    · rename_i absent
      rw [found] at absent
      cases absent
    · cases refused
  · rename_i account stored
    obtain ⟨old, -, put⟩ := Account.updateNodegroupConfig_ok stored
    refine ⟨⟨{ old with scalingConfig := group.scalingConfig.scaledTo nodeCount }, ?_, rfl⟩,
      rfl⟩
    rw [put, Store.get?_put_self]

/-- The facts about the operation of one request that the plan needs. -/
theorem timedOperation_returned {args : GroupArgs} {progressive : Bool}
    {scaleStepSize : Int} {traceback : Error → Text} {system : System} {clock : ℚ}
    {group : NodeGroup} {nodeCount : Int} {calls : EksStepCalls}
    (found : system.account.nodeGroups.get? args.nodeGroupName = some group)
    (returns : (timedOperation args progressive scaleStepSize traceback system clock group
      nodeCount calls).result = .ok ()) :
    calls.updated.raises = none ∧ HoldsCount args.nodeGroupName
      (timedOperation args progressive scaleStepSize traceback system clock group
        nodeCount calls).cloud nodeCount := by
  have finished := resultOf_eq_ok.mp returns
  have accepted : calls.updated.raises = none := by
    cases refusal : calls.updated.raises with
    | none => rfl
    | some refused =>
        rw [(requests_scaleBody ..).2 refused refusal] at finished
        exact nomatch finished
  exact ⟨accepted, (updateScaling_ok found (Call.result_of_returned accepted)).1⟩

theorem timedOperation_requests (args : GroupArgs) (progressive : Bool)
    (scaleStepSize : Int) (traceback : Error → Text) (system : System) (clock : ℚ)
    (group : NodeGroup) (nodeCount : Int) (calls : EksStepCalls) :
    (timedOperation args progressive scaleStepSize traceback system clock group nodeCount
      calls).requests EksEvent.request? = [nodeCount] :=
  (requests_scaleBody ..).1

theorem timedOperation_refused {args : GroupArgs} {progressive : Bool}
    {scaleStepSize : Int} {traceback : Error → Text} {system : System} {clock : ℚ}
    {group : NodeGroup} {nodeCount : Int} {calls : EksStepCalls} {error : Error}
    (raises : (timedOperation args progressive scaleStepSize traceback system clock group
      nodeCount calls).result = .error error) {refused : Error}
    (refuses : calls.updated.raises = some refused) : error = refused := by
  have failed := resultOf_eq_error.mp raises
  rw [(requests_scaleBody ..).2 refused refuses] at failed
  exact (Option.some.inj failed).symm

/-- The delay after a step only moves the clock. -/
theorem timedProgressiveStep_eq (args : GroupArgs) (calls : EksScaleCalls) (total : Nat)
    (system : System) (clock : ℚ) (index : Nat) (previous count : Int) :
    ∃ later, timedProgressiveStep args calls total system clock index previous count =
      { timedStep args calls.traceback system clock count (calls.step index) with
        clock := later } := by
  rw [timedProgressiveStep]
  split
  · exact ⟨_, rfl⟩
  · split
    · exact ⟨_, rfl⟩
    · exact ⟨_, rfl⟩

theorem timedStep_of_read {args : GroupArgs} {traceback : Error → Text} {system : System}
    {clock : ℚ} {nodeCount : Int} {calls : EksStepCalls} {group : NodeGroup}
    (read : readNodeGroup system args.nodeGroupName calls.described.result = .ok group) :
    timedStep args traceback system clock nodeCount calls =
      let run := timedOperation args false 1 traceback system
        (clock + calls.described.latency) group nodeCount calls
      { run with events := .describeNodegroup :: run.events } := by
  rw [timedStep, read]

theorem timedProgressiveStep_spec (args : GroupArgs) (calls : EksScaleCalls)
    (total : Nat) :
    StepSpec EksEvent.request? RecordsStep (HoldsCount args.nodeGroupName)
      (fun index => (calls.step index).updated.raises)
      (timedProgressiveStep args calls total) := by
  constructor
  · intro system clock index previous count stored returns
    obtain ⟨later, equation⟩ :=
      timedProgressiveStep_eq args calls total system clock index previous count
    rw [equation] at returns ⊢
    cases read : readNodeGroup system args.nodeGroupName
        (calls.step index).described.result with
    | error raised =>
        rw [timedStep, read] at returns
        exact nomatch returns
    | ok group =>
        have found := readNodeGroup_ok read
        obtain ⟨held, heldFound, heldCount⟩ := stored
        obtain rfl : held = group := Option.some.inj (heldFound.symm.trans found)
        rw [timedStep_of_read read] at returns ⊢
        have finished : (timedOperation args false 1 calls.traceback system
          (clock + (calls.step index).described.latency) held count
            (calls.step index)).result = .ok () := returns
        obtain ⟨accepted, holds⟩ := timedOperation_returned found finished
        refine ⟨timedOperation_requests .., holds, accepted, _, rfl, ?_⟩
        rw [← heldCount]
        exact recordsStep ..
  · intro system clock index previous count error stored raises
    obtain ⟨later, equation⟩ :=
      timedProgressiveStep_eq args calls total system clock index previous count
    rw [equation] at raises ⊢
    cases read : readNodeGroup system args.nodeGroupName
        (calls.step index).described.result with
    | error raised =>
        rw [timedStep, read]
        exact .inl rfl
    | ok group =>
        have found := readNodeGroup_ok read
        obtain ⟨held, heldFound, heldCount⟩ := stored
        obtain rfl : held = group := Option.some.inj (heldFound.symm.trans found)
        rw [timedStep_of_read read] at raises ⊢
        have failed : (timedOperation args false 1 calls.traceback system
          (clock + (calls.step index).described.latency) held count
            (calls.step index)).result = .error error := raises
        refine .inr ⟨timedOperation_requests .., fun refused refuses =>
          timedOperation_refused failed refuses, _, rfl, ?_⟩
        rw [← heldCount]
        exact recordsStep ..

/-- A direct scaling is a plan of one step. -/
theorem timedOperation_followsPlan (args : GroupArgs) (progressive : Bool)
    (scaleStepSize : Int) (calls : EksScaleCalls) (system : System) (clock : ℚ)
    (group : NodeGroup)
    (found : system.account.nodeGroups.get? args.nodeGroupName = some group)
    (nodeCount : Int) :
    FollowsPlan EksEvent.request? RecordsStep
      (fun index => (calls.step index).updated.raises) group.scalingConfig.desiredSize
      [nodeCount]
      (timedOperation args progressive scaleStepSize calls.traceback system clock group
        nodeCount (calls.step 0)) := by
  cases ended : (timedOperation args progressive scaleStepSize calls.traceback system
      clock group nodeCount (calls.step 0)).result with
  | error error =>
      exact .refusedFirst ended (timedOperation_requests ..)
        (fun refused refuses => timedOperation_refused ended refuses) rfl (recordsStep ..)
  | ok done =>
      exact .single (timedOperation_requests ..) (timedOperation_returned found ended).1
        rfl (recordsStep ..)

/-! Without its clock and its operations, the timed client is the plain one. -/

def Forgets (run : ScaleRun System EksEvent) (outcome : Outcome) : Prop :=
  run.cloud = outcome.system ∧ run.result = outcome.result

theorem timedOperation_forgets (args : GroupArgs) (progressive : Bool)
    (scaleStepSize : Int) (traceback : Error → Text) (system : System) (clock : ℚ)
    (group : NodeGroup)
    (found : system.account.nodeGroups.get? args.nodeGroupName = some group)
    (nodeCount : Int) (calls : EksStepCalls) :
    Forgets
      (timedOperation args progressive scaleStepSize traceback system clock group
        nodeCount calls)
      (updateScaling system args.nodeGroupName group nodeCount
        (calls.world args
          (verifiesDrivers args group.scalingConfig.desiredSize nodeCount))) := by
  refine ⟨rfl, ?_⟩
  cases refusal : calls.updated.raises with
  | some refused =>
      have updated : calls.updated.result = .error refused := by
        rw [Call.result, refusal]
      have raised := (requests_scaleBody args system.client.vmSize group.scalingConfig
        nodeCount (verifiesDrivers args group.scalingConfig.desiredSize nodeCount)
        calls).2 refused refusal
      simp only [timedOperation, updateScaling, EksStepCalls.world, updated, raised,
        resultOf]
  | none =>
      rw [(updateScaling_ok found (Call.result_of_returned refusal)).2, timedOperation,
        raised_scaleBody refusal]
      rfl

theorem runSteps_congr {name : Text} (left right : Nat → ScaleStepWorld)
    (steps : List Int) (system : System) (index : Nat)
    (same : ∀ other, index ≤ other → left other = right other) :
    runSteps system name left index steps = runSteps system name right index steps := by
  induction steps generalizing system index with
  | nil => rfl
  | cons count rest induction =>
      rw [runSteps, runSteps, same index (le_refl index)]
      cases (scaleDirectly system name count (right index)).result with
      | error raised => rfl
      | ok done =>
          exact induction _ (index + 1) fun other later =>
            same other (Nat.le_of_succ_le later)

private theorem timedStep_forgets (args : GroupArgs) (traceback : Error → Text)
    (system : System) (clock : ℚ) (nodeCount : Int) (calls : EksStepCalls) :
    ∃ world, Forgets (timedStep args traceback system clock nodeCount calls)
      (scaleDirectly system args.nodeGroupName nodeCount world) := by
  cases read : readNodeGroup system args.nodeGroupName calls.described.result with
  | error raised =>
      refine ⟨calls.world args false, ?_⟩
      rw [timedStep, read, scaleDirectly]
      simp only [EksStepCalls.world, read]
      exact ⟨rfl, rfl⟩
  | ok group =>
      refine ⟨calls.world args
        (verifiesDrivers args group.scalingConfig.desiredSize nodeCount), ?_⟩
      have forgets := timedOperation_forgets args false 1 traceback system
        (clock + calls.described.latency) group (readNodeGroup_ok read) nodeCount calls
      have described : (calls.world args
        (verifiesDrivers args group.scalingConfig.desiredSize nodeCount)).described =
          calls.described.result := rfl
      rw [timedStep_of_read read, scaleDirectly, described, read]
      exact forgets

private theorem timedProgressive_forgets (args : GroupArgs) (calls : EksScaleCalls) (total : Nat)
    (steps : List Int) (system : System) (clock : ℚ) (index : Nat) (previous : Int)
    (first : Nat) :
    ∃ world, Forgets
      (forSteps (timedProgressiveStep args calls total) system clock index previous steps)
      (runSteps system args.nodeGroupName world first steps) := by
  induction steps generalizing system clock index previous first with
  | nil => exact ⟨fun _ => (calls.step 0).world args false, rfl, rfl⟩
  | cons count rest induction =>
      obtain ⟨later, equation⟩ :=
        timedProgressiveStep_eq args calls total system clock index previous count
      obtain ⟨here, cloud, result⟩ := timedStep_forgets args calls.traceback system clock
        count (calls.step index)
      rw [forSteps, equation]
      cases ended : (timedStep args calls.traceback system clock count
          (calls.step index)).result with
      | error raised =>
          refine ⟨fun _ => here, ?_⟩
          rw [ended] at result
          rw [runSteps, ← result]
          exact ⟨cloud, ended⟩
      | ok done =>
          obtain ⟨world, rest⟩ := induction (timedStep args calls.traceback system clock
            count (calls.step index)).cloud later (index + 1) count (first + 1)
          refine ⟨fun other => if other = first then here else world other, ?_⟩
          rw [ended] at result
          rw [runSteps, if_pos rfl, ← result, ← cloud]
          rw [runSteps_congr _ world _ _ _ fun other after => if_neg (by omega)]
          exact rest

/-- The plain model of scaling, with some answers of AWS, is what the timed one does
to the account. -/
theorem timedScaleNodeGroup_forgets (args : GroupArgs) (nodeCount : Int)
    (progressive : Bool) (scaleStepSize : Int) (calls : EksScaleCalls) (system : System)
    (clock : ℚ) :
    ∃ world, Forgets
      (timedScaleNodeGroup args nodeCount progressive scaleStepSize calls system clock)
      (scaleNodeGroup system args.nodeGroupName nodeCount progressive scaleStepSize
        world) := by
  let answers (verifies : Bool) : ScaleStepWorld :=
    { (calls.step 0).world args verifies with described := calls.read.result }
  cases read : readNodeGroup system args.nodeGroupName calls.read.result with
  | error raised =>
      refine ⟨fun _ => answers false, ?_⟩
      rw [timedScaleNodeGroup, scaleNodeGroup, read]
      exact ⟨rfl, rfl⟩
  | ok group =>
      have found := readNodeGroup_ok read
      rw [timedScaleNodeGroup, read]
      by_cases far : progressive ∧
          scaleStepSize < |nodeCount - group.scalingConfig.desiredSize|
      · cases planned : progressiveSteps group.scalingConfig.desiredSize nodeCount
            scaleStepSize with
        | error raised =>
            refine ⟨fun _ => answers false, ?_⟩
            rw [scaleNodeGroup, read]
            simp only [if_pos far, planned]
            exact ⟨rfl, rfl⟩
        | ok steps =>
            obtain ⟨world, forgets⟩ := timedProgressive_forgets
              { args with targetCount := nodeCount } calls steps.length steps system
              (clock + calls.read.latency) 0 group.scalingConfig.desiredSize 1
            refine ⟨fun other => if other = 0 then answers false else world other, ?_⟩
            rw [scaleNodeGroup, if_pos rfl, read]
            simp only [if_pos far, planned]
            rw [runSteps_congr _ world _ _ _ fun other after => if_neg (by omega)]
            exact forgets
      · refine ⟨fun _ => answers
          (verifiesDrivers args group.scalingConfig.desiredSize nodeCount), ?_⟩
        rw [scaleNodeGroup, read]
        simp only [if_neg far]
        exact timedOperation_forgets args progressive scaleStepSize calls.traceback system
          (clock + calls.read.latency) group found nodeCount (calls.step 0)

end Telescope.Eks
