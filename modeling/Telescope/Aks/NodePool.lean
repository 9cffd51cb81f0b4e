import Telescope.Scaling.Plan
import Telescope.Scaling.Steps

namespace Telescope.Aks

open Telescope Crud Scaling

/-! `AKSClient.scale_node_pool`, directly and in progressive steps.  The answers and
latencies of the Azure and Kubernetes calls are inputs; local code takes no time. -/

structure GpuOptions where
  gpuNodePool : Bool
  enableManagedGpu : Bool
  gpuInstanceProfile : Option Text
  gpuMigStrategy : Option Text

def textJson : Option Text → Json
  | none => .null
  | some text => .str text

/-- `_gpu_mode_metadata`; of `str.lower` only the ASCII letters matter to the two
accepted words, and the quotes are those that `repr` puts around a plain text. -/
def gpuModeMetadata (gpu : GpuOptions) : Except Error (List Note) :=
  let strategy := (presentText gpu.gpuMigStrategy).map fun text => text.map Char.toLower
  if strategy = none ∨ strategy = some (lit "single") ∨ strategy = some (lit "mixed") then
    let fullyManaged := gpu.gpuNodePool && gpu.enableManagedGpu
    let gpuMode := if !gpu.gpuNodePool then lit "none"
      else if fullyManaged then lit "fully_managed" else lit "managed"
    let profile := if fullyManaged then gpu.gpuInstanceProfile else none
    let strategy := if fullyManaged then strategy else none
    .ok
      [(lit "gpu_mode", .str gpuMode),
       (lit "enable_managed_gpu", .bool fullyManaged),
       (lit "mig_enabled", .bool ((presentText profile).isSome || strategy.isSome)),
       (lit "gpu_instance_profile", textJson profile),
       (lit "gpu_mig_strategy", textJson strategy)]
  else
    .error (.valueError (lit "invalid gpu_mig_strategy '" ++
      gpu.gpuMigStrategy.getD [] ++ lit "' (want single/mixed/None)"))

/-- The agent pool as ARM stores it. -/
structure AgentPool where
  count : Int
  vmSize : Text

inductive AksEvent where
  | readNodePool
  | readCluster
  | provision (count : Int)
  | addManagedGpuNodePool (count : Int)
  | waitForNodesReady (count : Int)
  | verifyNvidiaSmi
  | verifyManagedGpuServices
  | verifyMigAllocatable (profile : Text)

def AksEvent.request? : AksEvent → Option Int
  | .provision count => some count
  | _ => none

/-- The answers that one scaling operation gets.  `arm` is the whole of
`begin_create_or_update_with_retry`, whose retries repeat the same request. -/
structure AksStepWorld where
  nodePoolInfo : Reading
  clusterInfo : Reading
  arm : Call Error
  retryOccurred : Bool
  nodesReady : Call Error
  readyNodes : Nat
  driverLogs : Reading
  serviceStatus : Reading
  migStatus : Reading

abbrev AksActivity := Activity AksEvent Note Error

def readMetadata (world : AksStepWorld) : List AksActivity :=
  [.call .readNodePool world.nodePoolInfo.call,
   .note (lit "nodepool_info", world.nodePoolInfo.value),
   .call .readCluster world.clusterInfo.call,
   .note (lit "cluster_info", world.clusterInfo.value)]

/-- `instrument_nodepool_provisioning`: the ARM operation and the readiness wait run
at once, and an ARM exception is the one raised. -/
def instrumentNodepoolProvisioning (count : Int) (world : AksStepWorld) :
    List AksActivity :=
  [.call (.provision count) (world.arm.both world.nodesReady),
   .note (lit "node_readiness_time", .num world.nodesReady.latency),
   .note (lit "command_execution_time", .num world.arm.latency),
   .note (lit "retry_occurred", .bool world.retryOccurred)]

def verifyNvidiaSmi (world : AksStepWorld) : List AksActivity :=
  [.call .verifyNvidiaSmi world.driverLogs.call,
   .note (lit "nvidia_driver_logs", world.driverLogs.value)]

def verifyManagedGpuServices (world : AksStepWorld) : List AksActivity :=
  [.call .verifyManagedGpuServices world.serviceStatus.call,
   .note (lit "managed_gpu_service_status", world.serviceStatus.value)]

def verifyMigAllocatable (profile : Option Text) (world : AksStepWorld) :
    List AksActivity :=
  match presentText profile with
  | none => []
  | some profile =>
      [.call (.verifyMigAllocatable profile) world.migStatus.call,
       .note (lit "mig_allocatable", world.migStatus.value)]

structure ScaleArgs where
  nodePoolName : Text
  nodeCount : Int
  gpu : GpuOptions
  progressive : Bool
  scaleStepSize : Int

def operationType (scalingUp : Bool) : Text :=
  if scalingUp then lit "scale_up" else lit "scale_down"

/-! Direct scaling. -/

def directBody (args : ScaleArgs) (pool : AgentPool) (scalingUp : Bool)
    (world : AksStepWorld) : List AksActivity :=
  let verifies := scalingUp ∧ 0 < args.nodeCount
  [.note (lit "vm_size", .str pool.vmSize),
   .note (lit "current_count", .num pool.count),
   .note (lit "node_pool_name", .str args.nodePoolName)] ++
  readMetadata world ++
  instrumentNodepoolProvisioning args.nodeCount world ++
  (if args.gpu.gpuNodePool ∧ ¬ args.gpu.enableManagedGpu ∧ verifies then
    verifyNvidiaSmi world else []) ++
  (if args.gpu.enableManagedGpu ∧ verifies then
    verifyManagedGpuServices world ++ verifyNvidiaSmi world ++
      verifyMigAllocatable args.gpu.gpuInstanceProfile world else []) ++
  [.note (lit "ready_nodes", .num world.readyNodes)]

/-! Creating a node pool (`create_node_pool`).  `leftBehind` tells whether a
provisioning that raised has created the pool all the same. -/

structure CreateArgs where
  nodePoolName : Text
  vmSize : Text
  nodeCount : Int
  gpu : GpuOptions

structure CreateWorld where
  clusterName : Except Error Text
  managedAdded : Call Error
  step : AksStepWorld
  leftBehind : Bool
  traceback : Error → Text

/-- Fully managed GPU pools are added by the CLI and then awaited. -/
def provisionPool (args : CreateArgs) (world : CreateWorld) : List AksActivity :=
  if args.gpu.enableManagedGpu then
    [.call (.addManagedGpuNodePool args.nodeCount) world.managedAdded,
     .call (.waitForNodesReady args.nodeCount) world.step.nodesReady]
  else instrumentNodepoolProvisioning args.nodeCount world.step

def createBody (args : CreateArgs) (world : CreateWorld) : List AksActivity :=
  provisionPool args world ++
  (if args.gpu.gpuNodePool ∧ ¬ args.gpu.enableManagedGpu ∧ 0 < args.nodeCount then
    verifyNvidiaSmi world.step else []) ++
  (if args.gpu.enableManagedGpu ∧ 0 < args.nodeCount then
    verifyManagedGpuServices world.step ++ verifyNvidiaSmi world.step else []) ++
  [.note (lit "ready_nodes", .num world.step.readyNodes),
   .note (lit "node_pool_name", .str args.nodePoolName)] ++
  readMetadata world.step

/-- The call that makes Azure create the pool. -/
def creatingCall (args : CreateArgs) (world : CreateWorld) : Call Error :=
  if args.gpu.enableManagedGpu then world.managedAdded else world.step.arm

def createNodePool (resourceGroup : Option Text) (args : CreateArgs)
    (world : CreateWorld) (clock : ℚ) : ScaleRun (Option AgentPool) AksEvent :=
  match presentText resourceGroup with
  | none => ⟨none, clock, [], [],
      .error (.valueError (lit "Resource group is required to create node pool"))⟩
  | some _ =>
      match world.clusterName with
      | .error raised => ⟨none, clock, [], [], .error raised⟩
      | .ok clusterName =>
          match gpuModeMetadata args.gpu with
          | .error raised => ⟨none, clock, [], [], .error raised⟩
          | .ok modes =>
              let performed := perform (createBody args world)
              { cloud :=
                  if (creatingCall args world).raises.isNone ∨ world.leftBehind then
                    some { count := args.nodeCount, vmSize := args.vmSize }
                  else none
                clock := clock + performed.elapsed
                events := performed.events
                records := [recordOf
                  { name := lit "create_node_pool"
                    cloud := lit "azure"
                    metadata :=
                      [(lit "cluster_name", .str clusterName),
                       (lit "vm_size", .str args.vmSize),
                       (lit "node_count", .num args.nodeCount),
                       (lit "gpu_node_pool", .bool args.gpu.gpuNodePool)] ++ modes }
                  clock performed (fun _ => []) world.traceback]
                result := resultOf performed.raised }

/-! Progressive scaling. -/

def waitTime : ℚ := 30

/-- `_progressive_scale`: the steps. -/
def progressiveSteps (current target stepSize : Int) : Except Error (List Int) :=
  if stepSize = 0 then .error (.valueError (lit "range() arg 3 must not be zero"))
  else
    let steps := if current < target then
        Eks.pyRange (current + stepSize) (target + 1) stepSize
      else Eks.pyRange (current - stepSize) (target - 1) (-stepSize)
    let steps := match steps.getLast? with
      | none => steps
      | some last => if last ≠ target ∧ target ∉ steps then steps ++ [target] else steps
    .ok (if steps = [] then [target] else steps)

/-- The body of one step's operation; the pause before the next step is inside. -/
def stepBody (gpu : GpuOptions) (target last : Int) (scalingUp : Bool)
    (world : AksStepWorld) (step : Int) : List AksActivity :=
  let verifies := step = target ∧ scalingUp ∧ 0 < step
  readMetadata world ++
  instrumentNodepoolProvisioning step world ++
  [.note (lit "ready_nodes", .num world.readyNodes)] ++
  (if step ≠ last ∧ 0 < waitTime then [.pause waitTime] else []) ++
  (if gpu.gpuNodePool ∧ verifies then verifyNvidiaSmi world else []) ++
  (if gpu.enableManagedGpu ∧ verifies then verifyManagedGpuServices world else []) ++
  (if verifies then verifyMigAllocatable gpu.gpuInstanceProfile world else [])

def stepMetadata (args : ScaleArgs) (clusterName : Text) (previous step : Int)
    (modes : List Note) : Fields :=
  [(lit "node_pool_name", .str args.nodePoolName),
   (lit "current_count", .num previous),
   (lit "target_count", .num step),
   (lit "scale_step_size", .num args.scaleStepSize),
   (lit "cluster_name", .str clusterName),
   (lit "gpu_node_pool", .bool args.gpu.gpuNodePool)] ++ modes

/-- ARM stores the requested count when its operation succeeds. -/
def AgentPool.stored (pool : AgentPool) (count : Int) (world : AksStepWorld)
    (performed : Performed AksEvent Note Error) : AgentPool :=
  if world.arm.raises.isNone ∧ count ∈ performed.events.filterMap AksEvent.request? then
    { pool with count := count }
  else pool

structure ScaleWorld where
  clusterName : Except Error Text
  nodePool : Call Error
  step : Nat → AksStepWorld
  traceback : Error → Text

def scaleStep (args : ScaleArgs) (clusterName : Text) (last : Int) (scalingUp : Bool)
    (world : ScaleWorld) (pool : AgentPool) (clock : ℚ) (index : Nat)
    (previous step : Int) : ScaleRun AgentPool AksEvent :=
  match gpuModeMetadata args.gpu with
  | .error raised => ⟨pool, clock, [], [], .error raised⟩
  | .ok modes =>
      let performed := perform
        (stepBody args.gpu args.nodeCount last scalingUp (world.step index) step)
      { cloud := pool.stored step (world.step index) performed
        clock := clock + performed.elapsed
        events := performed.events
        records := [recordOf
          { name := operationType scalingUp
            cloud := lit "azure"
            metadata := stepMetadata args clusterName previous step modes }
          clock performed (fun error => [(lit "error", .str error.message)])
          world.traceback]
        result := resultOf performed.raised }

def progressiveScale (args : ScaleArgs) (clusterName : Text) (world : ScaleWorld)
    (pool : AgentPool) (clock : ℚ) : ScaleRun AgentPool AksEvent :=
  match progressiveSteps pool.count args.nodeCount args.scaleStepSize with
  | .error raised => ⟨pool, clock, [], [], .error raised⟩
  | .ok steps =>
      forSteps
        (scaleStep args clusterName (steps.getLast?.getD args.nodeCount)
          (decide (pool.count < args.nodeCount)) world)
        pool clock 0 pool.count steps

def scaleDirectly (args : ScaleArgs) (clusterName : Text) (modes : List Note)
    (world : ScaleWorld) (pool : AgentPool) (clock : ℚ) : ScaleRun AgentPool AksEvent :=
  let scalingUp := decide (pool.count < args.nodeCount)
  let performed := perform (directBody args pool scalingUp (world.step 0))
  { cloud := pool.stored args.nodeCount (world.step 0) performed
    clock := clock + performed.elapsed
    events := performed.events
    records := [recordOf
      { name := operationType scalingUp
        cloud := lit "azure"
        metadata :=
          [(lit "cluster_name", .str clusterName),
           (lit "node_count", .num args.nodeCount),
           (lit "gpu_node_pool", .bool args.gpu.gpuNodePool),
           (lit "progressive_scaling", .bool args.progressive),
           (lit "scale_step_size", .num args.scaleStepSize)] ++ modes }
      clock performed (fun _ => []) world.traceback]
    result := resultOf performed.raised }

def scaleNodePool (resourceGroup : Option Text) (args : ScaleArgs) (world : ScaleWorld)
    (pool : AgentPool) (clock : ℚ) : ScaleRun AgentPool AksEvent :=
  match presentText resourceGroup with
  | none => ⟨pool, clock, [], [],
      .error (.valueError (lit "Resource group is required to scale node pool"))⟩
  | some _ =>
      match world.clusterName with
      | .error raised => ⟨pool, clock, [], [], .error raised⟩
      | .ok clusterName =>
          match gpuModeMetadata args.gpu with
          | .error raised => ⟨pool, clock, [], [], .error raised⟩
          | .ok modes =>
              let clock := clock + world.nodePool.latency
              match world.nodePool.raises with
              | some raised => ⟨pool, clock, [], [], .error raised⟩
              | none =>
                  if args.nodeCount = pool.count then ⟨pool, clock, [], [], .ok ()⟩
                  else if args.progressive then
                    progressiveScale args clusterName world pool clock
                  else scaleDirectly args clusterName modes world pool clock

/-! The steps of a progressive scaling follow the chain of counts. -/

theorem progressiveSteps_chain {current target size : Int} (positive : 0 < size)
    (different : current ≠ target) :
    ∃ steps, progressiveSteps current target size = .ok steps ∧
      StepChain target size current steps := by
  obtain ⟨delta, rest, count, range, division⟩ := exists_division positive different
  refine ⟨_, ?_, stepChain_stepPlan positive division⟩
  rw [plannedRange] at range
  rw [progressiveSteps, if_neg positive.ne', range, stepPlan]
  rcases Nat.eq_zero_or_pos count with none | steps
  · have apart : rest ≠ 0 := division.moves.resolve_left (by omega)
    rw [none, if_neg apart]
    rfl
  · have nonempty : fullSteps current delta count ≠ [] := by
      intro empty
      have last := @Division.getLast? current delta count steps
      rw [empty] at last
      cases last
    simp only [Division.getLast? steps]
    by_cases exact : rest = 0
    · rw [if_pos exact, List.append_nil]
      simp [division.reaches_iff.mpr exact, nonempty]
    · have apart : current + count * delta ≠ target :=
        fun reached => exact (division.reaches_iff.mp reached)
      have absent := division.target_not_mem positive exact
      rw [if_neg exact]
      simp [apart, absent]

/-- What follows the request in the body of a step. -/
def stepTail (gpu : GpuOptions) (target last : Int) (scalingUp : Bool)
    (world : AksStepWorld) (step : Int) : List AksActivity :=
  let verifies := step = target ∧ scalingUp ∧ 0 < step
  [.note (lit "node_readiness_time", .num world.nodesReady.latency),
   .note (lit "command_execution_time", .num world.arm.latency),
   .note (lit "retry_occurred", .bool world.retryOccurred),
   .note (lit "ready_nodes", .num world.readyNodes)] ++
  (if step ≠ last ∧ 0 < waitTime then [.pause waitTime] else []) ++
  (if gpu.gpuNodePool ∧ verifies then verifyNvidiaSmi world else []) ++
  (if gpu.enableManagedGpu ∧ verifies then verifyManagedGpuServices world else []) ++
  (if verifies then verifyMigAllocatable gpu.gpuInstanceProfile world else [])

theorem stepBody_eq (gpu : GpuOptions) (target last : Int) (scalingUp : Bool)
    (world : AksStepWorld) (step : Int) :
    stepBody gpu target last scalingUp world step =
      readMetadata world ++ .call (.provision step) (world.arm.both world.nodesReady) ::
        stepTail gpu target last scalingUp world step := rfl

private theorem request?_of_mem_readMetadata {world : AksStepWorld} {event : AksEvent}
    {made : Call Error} (member : .call event made ∈ readMetadata world) :
    event.request? = none := by
  simp [readMetadata] at member
  rcases member with ⟨rfl, -⟩ | ⟨rfl, -⟩ <;> rfl

theorem request?_of_mem_verify {world : AksStepWorld} (profile : Option Text)
    {event : AksEvent} {made : Call Error}
    (member : .call event made ∈ verifyNvidiaSmi world ∨
      .call event made ∈ verifyManagedGpuServices world ∨
        .call event made ∈ verifyMigAllocatable profile world) :
    event.request? = none := by
  rcases member with smi | services | mig
  · simp [verifyNvidiaSmi] at smi
    rw [smi.1]
    rfl
  · simp [verifyManagedGpuServices] at services
    rw [services.1]
    rfl
  · rw [verifyMigAllocatable] at mig
    split at mig
    · exact absurd mig List.not_mem_nil
    · simp at mig
      rw [mig.1]
      rfl

private theorem request?_of_mem_stepTail {gpu : GpuOptions} {target last : Int}
    {scalingUp : Bool} {world : AksStepWorld} {step : Int} {event : AksEvent}
    {made : Call Error}
    (member : .call event made ∈ stepTail gpu target last scalingUp world step) :
    event.request? = none := by
  simp only [stepTail, List.mem_append] at member
  rcases member with (((notes | pause) | smi) | services) | mig
  · simp at notes
  · split at pause <;> simp at pause
  · split at smi
    · exact request?_of_mem_verify none (.inl smi)
    · exact absurd smi List.not_mem_nil
  · split at services
    · exact request?_of_mem_verify none (.inr (.inl services))
    · exact absurd services List.not_mem_nil
  · split at mig
    · exact request?_of_mem_verify _ (.inr (.inr mig))
    · exact absurd mig List.not_mem_nil

/-- The keys that a step notes. -/
def stepKeys : List Text :=
  [lit "nodepool_info", lit "cluster_info", lit "node_readiness_time",
   lit "command_execution_time", lit "retry_occurred", lit "ready_nodes",
   lit "nvidia_driver_logs", lit "managed_gpu_service_status", lit "mig_allocatable"]

private theorem key_of_mem_stepTail {gpu : GpuOptions} {target last : Int} {scalingUp : Bool}
    {world : AksStepWorld} {step : Int} {note : Note}
    (member : .note note ∈ stepTail gpu target last scalingUp world step) :
    note.1 ∈ stepKeys := by
  simp only [stepTail, List.mem_append] at member
  rcases member with (((notes | pause) | smi) | services) | mig
  · simp at notes
    rcases notes with rfl | rfl | rfl | rfl <;> simp [stepKeys]
  · split at pause <;> simp at pause
  · split at smi
    · simp [verifyNvidiaSmi] at smi
      simp [smi, stepKeys]
    · exact absurd smi List.not_mem_nil
  · split at services
    · simp [verifyManagedGpuServices] at services
      simp [services, stepKeys]
    · exact absurd services List.not_mem_nil
  · split at mig
    · rw [verifyMigAllocatable] at mig
      split at mig
      · exact absurd mig List.not_mem_nil
      · simp at mig
        simp [mig, stepKeys]
    · exact absurd mig List.not_mem_nil

private theorem key_of_mem_stepBody {gpu : GpuOptions} {target last : Int} {scalingUp : Bool}
    {world : AksStepWorld} {step : Int} {note : Note}
    (member : .note note ∈ stepBody gpu target last scalingUp world step) :
    note.1 ∈ stepKeys := by
  rw [stepBody_eq, List.mem_append, List.mem_cons] at member
  rcases member with reads | provision | tail
  · simp [readMetadata] at reads
    rcases reads with rfl | rfl <;> simp [stepKeys]
  · exact nomatch provision
  · exact key_of_mem_stepTail tail

/-- The metadata a step is recorded with: the counts before and after it. -/
def RecordsStep (previous step : Int) (use : ContextUse) : Prop :=
  recordedField use (lit "current_count") = some (.num previous) ∧
    recordedField use (lit "target_count") = some (.num step)

theorem recordsStep (args : ScaleArgs) (clusterName : Text) (previous step : Int)
    (modes : List Note) (name : Text) (clock : ℚ) (last : Int) (scalingUp : Bool)
    (world : AksStepWorld) (traceback : Error → Text) :
    RecordsStep previous step (recordOf
      { name := name
        cloud := lit "azure"
        metadata := stepMetadata args clusterName previous step modes }
      clock (perform (stepBody args.gpu args.nodeCount last scalingUp world step))
      (fun error => [(lit "error", .str error.message)]) traceback).use := by
  have kept : ∀ key, key ∉ stepKeys → key ≠ lit "error" →
      ∀ note ∈ (perform
          (stepBody args.gpu args.nodeCount last scalingUp world step)).notes ++
        (perform (stepBody args.gpu args.nodeCount last scalingUp world step)).raised.elim
          [] (fun error => [(lit "error", .str error.message)]), note.1 ≠ key := by
    intro key other notError note member same
    rcases List.mem_append.mp member with noted | failed
    · rw [← same] at other
      exact other (key_of_mem_stepBody (mem_notes_perform noted))
    · cases raised : (perform
          (stepBody args.gpu args.nodeCount last scalingUp world step)).raised with
      | none =>
          rw [raised] at failed
          exact absurd failed List.not_mem_nil
      | some error =>
          rw [raised] at failed
          rw [List.mem_singleton.mp failed] at same
          exact notError same.symm
  constructor
  · rw [recordedField_recordOf, Fields.get?_setAll_of_absent
      (kept _ (by decide) (by decide))]
    simp [stepMetadata, Fields.get?, lit]
  · rw [recordedField_recordOf, Fields.get?_setAll_of_absent
      (kept _ (by decide) (by decide))]
    simp [stepMetadata, Fields.get?, lit]

theorem requests_stepBody (gpu : GpuOptions) (target last : Int) (scalingUp : Bool)
    (world : AksStepWorld) (step : Int) :
    ((perform (stepBody gpu target last scalingUp world step)).events.filterMap
          AksEvent.request? = [] ∧
        (perform (stepBody gpu target last scalingUp world step)).raised ≠ none) ∨
      ((perform (stepBody gpu target last scalingUp world step)).events.filterMap
          AksEvent.request? = [step] ∧
        ∀ refused, world.arm.raises = some refused →
          (perform (stepBody gpu target last scalingUp world step)).raised =
            some refused) := by
  rw [stepBody_eq]
  rcases requests_perform AksEvent.request?
      (show AksEvent.request? (.provision step) = some step from rfl)
      (fun _ _ => request?_of_mem_readMetadata) (fun _ _ => request?_of_mem_stepTail) with
    ⟨error, -, raised, unsent⟩ | ⟨sent, refuses⟩
  · refine .inl ⟨unsent, ?_⟩
    rw [raised]
    exact Option.some_ne_none error
  · refine .inr ⟨sent, fun refused raises => refuses refused ?_⟩
    rw [Call.both, raises]
    rfl

theorem scaleStep_spec (args : ScaleArgs) (clusterName : Text) (last : Int)
    (scalingUp : Bool) (world : ScaleWorld) :
    StepSpec AksEvent.request? RecordsStep (fun _ _ => True)
      (fun index => (world.step index).arm.raises)
      (scaleStep args clusterName last scalingUp world) := by
  cases modesEquation : gpuModeMetadata args.gpu with
  | error raised =>
      constructor
      · intro pool clock index previous step _ returns
        rw [scaleStep, modesEquation] at returns
        exact nomatch returns
      · intro pool clock index previous step error _ _
        rw [scaleStep, modesEquation]
        exact .inl rfl
  | ok modes =>
      constructor
      · intro pool clock index previous step _ returns
        rw [scaleStep, modesEquation] at returns ⊢
        have finished := resultOf_eq_ok.mp returns
        rcases requests_stepBody args.gpu args.nodeCount last scalingUp
            (world.step index) step with ⟨-, raised⟩ | ⟨sent, refuses⟩
        · exact absurd finished raised
        · refine ⟨sent, trivial, ?_, _, rfl, recordsStep ..⟩
          cases refusal : (world.step index).arm.raises with
          | none => rfl
          | some refused =>
              rw [refuses refused refusal] at finished
              exact absurd finished (Option.some_ne_none refused)
      · intro pool clock index previous step error _ raises
        rw [scaleStep, modesEquation] at raises ⊢
        have failed := resultOf_eq_error.mp raises
        rcases requests_stepBody args.gpu args.nodeCount last scalingUp
            (world.step index) step with ⟨none, -⟩ | ⟨sent, refuses⟩
        · exact .inl none
        · refine .inr ⟨sent, ?_, _, rfl, recordsStep ..⟩
          intro refused refusal
          rw [refuses refused refusal] at failed
          exact (Option.some.inj failed).symm

end Telescope.Aks
