import Telescope.Aks.NodePool
import Telescope.Eks.Client

namespace Telescope.Crud

open Telescope

/-! `NodePoolCRUD.all` of both clouds: create, scale up, scale down, delete. -/

/-- What a client call returns: `True`, or the node pool that needed no scaling. -/
inductive Returned where
  | done
  | nodePool

/-- A create that raises may have created the pool before; `sys.exit` comes before
the creation and passes every handler. -/
inductive CreateOutcome where
  | returned (value : Returned)
  | raised (error : Error) (created : Bool)
  | exited

/-- How the four client calls of one lifecycle would end. -/
structure LifecycleWorld where
  create : CreateOutcome
  scaleUp : Except Error Returned
  scaleDown : Except Error Returned
  delete : Except Error Returned

namespace CreateOutcome

def poolExists : CreateOutcome → Bool
  | .returned _ => true
  | .raised _ created => created
  | .exited => false

def Succeeds : CreateOutcome → Prop
  | .returned _ => True
  | .raised _ _ => False
  | .exited => False

/-- The pool is there although the call raised. -/
def RaisedAfterCreation : CreateOutcome → Prop
  | .returned _ => False
  | .raised _ created => created = true
  | .exited => False

end CreateOutcome

def Succeeded (outcome : Except Error Returned) : Prop := ∃ value, outcome = .ok value

/-- The client calls made, and what `all` returned unless the process exited. -/
structure Lifecycle (ρ : Type) where
  calls : List ρ
  returned : Option Bool

/-- The four client calls of `all`, in the order of its steps. -/
structure Operations (ρ : Type) where
  creating : ρ
  scalingUp : ρ
  scalingDown : ρ
  deleting : ρ

/-- The wrappers of the client calls turn an exception into `False`, here `none`. -/
def wrapped (outcome : Except Error Returned) : Option Returned := outcome.toOption

/-- `time.sleep`: a negative length is refused, and so is one that a 64-bit count of
nanoseconds cannot hold. -/
def sleep (seconds : Int) : Except Error Unit :=
  if seconds < 0 then .error (.valueError (lit "sleep length must be non-negative"))
  else if 2 ^ 63 ≤ seconds * 10 ^ 9 then
    .error ⟨.external, lit "timestamp too large to convert to C PyTime_t"⟩
  else .ok ()

/-- The pause before the next step.  When it raises, the handler around the body
returns `False` with only the calls made so far. -/
def afterPause {ρ : Type} (stepWaitTime : Int) (made : List ρ) (next : Lifecycle ρ) :
    Lifecycle ρ :=
  match sleep stepWaitTime with
  | .error _ => { calls := made, returned := some false }
  | .ok () => next

/-- The body of `all`: only a failed creation and a pause that raises end it early. -/
def performAll {ρ : Type} (operations : Operations ρ) (stepWaitTime : Int)
    (world : LifecycleWorld) : Lifecycle ρ :=
  match world.create with
  | .exited => { calls := [operations.creating], returned := none }
  | .raised _ _ => { calls := [operations.creating], returned := some false }
  | .returned value =>
      afterPause stepWaitTime [operations.creating] <|
      afterPause stepWaitTime [operations.creating, operations.scalingUp] <|
      afterPause stepWaitTime
        [operations.creating, operations.scalingUp, operations.scalingDown]
        (let results := [some value, wrapped world.scaleUp, wrapped world.scaleDown,
          wrapped world.delete]
        { calls := [operations.creating, operations.scalingUp, operations.scalingDown,
            operations.deleting]
          returned := some (results.all Option.isSome) })

/-! How the creations of the two clients end, seen from `all`. -/

def azureCreateOutcome (run : Scaling.ScaleRun (Option Aks.AgentPool) Aks.AksEvent) :
    CreateOutcome :=
  match run.result with
  | .ok () => .returned .done
  | .error raised => .raised raised run.cloud.isSome

def awsCreateOutcome (nodeGroupName : Text) (outcome : Eks.Outcome) : CreateOutcome :=
  match outcome.result with
  | .ok () => .returned .done
  | .error raised =>
      match raised.kind with
      | .systemExit => .exited
      | _ => .raised raised (outcome.system.account.nodeGroups.get? nodeGroupName).isSome

/-! Azure. -/

structure AzureArgs where
  nodePoolName : Text
  vmSize : Text
  nodeCount : Int
  targetCount : Int
  progressive : Bool
  scaleStepSize : Int
  gpu : Aks.GpuOptions
  stepWaitTime : Int

inductive AzureCall where
  | createNodePool (args : Aks.CreateArgs)
  | scaleNodePool (args : Aks.ScaleArgs)
  | deleteNodePool (nodePoolName : Text)

def AzureArgs.scaleTo (args : AzureArgs) (nodeCount : Int) : Aks.ScaleArgs where
  nodePoolName := args.nodePoolName
  nodeCount := nodeCount
  gpu := args.gpu
  progressive := args.progressive
  scaleStepSize := args.scaleStepSize

def AzureArgs.operations (args : AzureArgs) : Operations AzureCall where
  creating := .createNodePool
    { nodePoolName := args.nodePoolName
      vmSize := args.vmSize
      nodeCount := args.nodeCount
      gpu := args.gpu }
  scalingUp := .scaleNodePool (args.scaleTo args.targetCount)
  scalingDown := .scaleNodePool (args.scaleTo args.nodeCount)
  deleting := .deleteNodePool args.nodePoolName

def azureAll (args : AzureArgs) (world : LifecycleWorld) : Lifecycle AzureCall :=
  performAll args.operations args.stepWaitTime world

/-! AWS. -/

structure AwsArgs where
  nodePoolName : Text
  vmSize : Text
  nodeCount : Int
  targetCount : Int
  progressive : Bool
  scaleStepSize : Int
  gpuNodePool : Bool
  capacityType : Text
  stepWaitTime : Int

inductive AwsCall where
  | createNodeGroup (args : Eks.CreateArgs) (gpuNodeGroup : Bool)
  | scaleNodeGroup (nodeGroupName : Text) (nodeCount targetCount : Int)
      (gpuNodeGroup progressive : Bool) (scaleStepSize : Int)
  | deleteNodeGroup (nodeGroupName : Text)

def AwsArgs.scaleTo (args : AwsArgs) (nodeCount : Int) : AwsCall :=
  .scaleNodeGroup args.nodePoolName nodeCount nodeCount args.gpuNodePool args.progressive
    args.scaleStepSize

def AwsArgs.operations (args : AwsArgs) : Operations AwsCall where
  creating := .createNodeGroup
    { nodeGroupName := args.nodePoolName
      instanceType := args.vmSize
      nodeCount := args.nodeCount
      maxNodeCount := args.targetCount
      capacityType := args.capacityType }
    args.gpuNodePool
  scalingUp := args.scaleTo args.targetCount
  scalingDown := args.scaleTo args.nodeCount
  deleting := .deleteNodeGroup args.nodePoolName

def awsAll (args : AwsArgs) (world : LifecycleWorld) : Lifecycle AwsCall :=
  performAll args.operations args.stepWaitTime world

/-- The lifecycle reports success exactly when all four operations were made and
succeeded, and a pool that exists after the creation is deleted before it returns. -/
structure CleansUp {ρ : Type} (operations : Operations ρ) (world : LifecycleWorld)
    (run : Lifecycle ρ) : Prop where
  truthful : run.returned = some true ↔
    run.calls = [operations.creating, operations.scalingUp, operations.scalingDown,
        operations.deleting] ∧
      world.create.Succeeds ∧ Succeeded world.scaleUp ∧ Succeeded world.scaleDown ∧
        Succeeded world.delete
  cleaned : world.create.poolExists = true → run.returned.isSome = true →
    operations.deleting ∈ run.calls

/-- The lengths that `time.sleep` accepts. -/
def SleepsFor (seconds : Int) : Prop := 0 ≤ seconds ∧ seconds * 10 ^ 9 < 2 ^ 63

instance (seconds : Int) : Decidable (SleepsFor seconds) :=
  inferInstanceAs (Decidable (_ ∧ _))

private theorem sleep_of_sleepsFor {seconds : Int} (accepted : SleepsFor seconds) :
    sleep seconds = .ok () := by
  obtain ⟨nonneg, representable⟩ := accepted
  rw [sleep, if_neg (by omega), if_neg (by omega)]

private theorem sleep_of_not_sleepsFor {seconds : Int}
    (refused : ¬ SleepsFor seconds) : ∃ raised, sleep seconds = .error raised := by
  rw [sleep]
  split
  · exact ⟨_, rfl⟩
  · rename_i nonneg
    have overflows : 2 ^ 63 ≤ seconds * 10 ^ 9 := by
      by_contra representable
      exact refused ⟨by omega, by omega⟩
    rw [if_pos overflows]
    exact ⟨_, rfl⟩

private theorem isSome_wrapped (outcome : Except Error Returned) :
    (wrapped outcome).isSome = true ↔ Succeeded outcome := by
  cases outcome with
  | error raised => simp [wrapped, Except.toOption, Succeeded]
  | ok value => simp [wrapped, Except.toOption, Succeeded]

section Runs

variable {ρ : Type} {operations : Operations ρ} {stepWaitTime : Int}
  {world : LifecycleWorld}

/-- With pauses that `sleep` accepts, a pool whose creation returned goes through
every step. -/
private theorem performAll_of_sleepsFor {value : Returned}
    (created : world.create = .returned value) (sleeps : SleepsFor stepWaitTime) :
    performAll operations stepWaitTime world =
      { calls := [operations.creating, operations.scalingUp, operations.scalingDown,
          operations.deleting]
        returned := some ([some value, wrapped world.scaleUp, wrapped world.scaleDown,
          wrapped world.delete].all Option.isSome) } := by
  simp only [performAll, created, afterPause, sleep_of_sleepsFor sleeps]

/-- The first pause already raises. -/
private theorem performAll_of_not_sleepsFor {value : Returned}
    (created : world.create = .returned value) (refused : ¬ SleepsFor stepWaitTime) :
    performAll operations stepWaitTime world =
      { calls := [operations.creating], returned := some false } := by
  obtain ⟨raised, sleeping⟩ := sleep_of_not_sleepsFor refused
  simp only [performAll, created, afterPause, sleeping]

theorem performAll_cleansUp_iff (distinct : operations.deleting ≠ operations.creating) :
    CleansUp operations world (performAll operations stepWaitTime world) ↔
      ¬ world.create.RaisedAfterCreation ∧
        (world.create.Succeeds → SleepsFor stepWaitTime) := by
  cases created : world.create with
  | exited =>
      constructor
      · intro _
        exact ⟨id, nofun⟩
      · intro _
        constructor
        · simp [performAll, created, CreateOutcome.Succeeds]
        · intro present
          rw [created] at present
          exact nomatch present
  | raised error leaked =>
      constructor
      · intro cleansUp
        refine ⟨?_, nofun⟩
        -- the pool is there, and the only call made is the creation
        intro present
        have deleted := cleansUp.cleaned (by rw [created]; exact present)
          (by simp [performAll, created])
        simp only [performAll, created, List.mem_singleton] at deleted
        exact distinct deleted
      · intro ⟨tidy, _⟩
        constructor
        · simp [performAll, created, CreateOutcome.Succeeds]
        · intro present
          rw [created] at present
          exact absurd present tidy
  | returned value =>
      constructor
      · intro cleansUp
        refine ⟨id, fun _ => ?_⟩
        by_contra refused
        have deleted := cleansUp.cleaned (by rw [created]; rfl)
          (by rw [performAll_of_not_sleepsFor created refused]; rfl)
        rw [performAll_of_not_sleepsFor created refused] at deleted
        exact distinct (List.mem_singleton.mp deleted)
      · intro ⟨_, sleeps⟩
        have performed : performAll operations stepWaitTime world = _ :=
          performAll_of_sleepsFor created (sleeps trivial)
        constructor
        · rw [performed]
          simp [created, CreateOutcome.Succeeds, isSome_wrapped]
        · intro _ _
          rw [performed]
          simp

end Runs

/-- On both clouds the run is truthful and the pool is cleaned up exactly when its
creation does not raise after the pool has come to exist and, once it returned,
`sleep` accepts the time between the steps: otherwise `all` returns at once. -/
theorem lifecycle_cleans_up_iff (azure : AzureArgs) (aws : AwsArgs)
    (world : LifecycleWorld) :
    (CleansUp azure.operations world (azureAll azure world) ↔
        ¬ world.create.RaisedAfterCreation ∧
          (world.create.Succeeds → SleepsFor azure.stepWaitTime)) ∧
      (CleansUp aws.operations world (awsAll aws world) ↔
        ¬ world.create.RaisedAfterCreation ∧
          (world.create.Succeeds → SleepsFor aws.stepWaitTime)) := by
  constructor
  · exact performAll_cleansUp_iff (by simp [AzureArgs.operations])
  · exact performAll_cleansUp_iff (by simp [AwsArgs.operations])

/-! A pool of one node that is provisioned and whose node does not become ready
within ten minutes: `wait_for_nodes_ready` raises after the creation. -/

def nodeNeverReady : Error :=
  ⟨.external, lit "Only 0 nodes are ready, expected 1 nodes!"⟩

def userPool : Aks.CreateArgs where
  nodePoolName := lit "userpool"
  vmSize := lit "Standard_D4s_v5"
  nodeCount := 1
  gpu := ⟨false, false, none, none⟩

private theorem readinessTimeout_nonneg : (0 : ℚ) ≤ 600 := by norm_num

def readinessTimesOut : Aks.CreateWorld where
  clusterName := .ok (lit "aks")
  managedAdded := .instant
  step :=
    { nodePoolInfo := ⟨.instant, .null⟩
      clusterInfo := ⟨.instant, .null⟩
      arm := .instant
      retryOccurred := false
      nodesReady := ⟨600, readinessTimeout_nonneg, some nodeNeverReady⟩
      readyNodes := 0
      driverLogs := ⟨.instant, .null⟩
      serviceStatus := ⟨.instant, .null⟩
      migStatus := ⟨.instant, .null⟩ }
  leftBehind := false
  traceback := fun _ => []

def azureLifecycle : AzureArgs where
  nodePoolName := userPool.nodePoolName
  vmSize := userPool.vmSize
  nodeCount := 1
  targetCount := 2
  progressive := false
  scaleStepSize := 1
  gpu := userPool.gpu
  stepWaitTime := 30

def awsLifecycle : AwsArgs where
  nodePoolName := lit "userpool"
  vmSize := lit "m5.xlarge"
  nodeCount := 1
  targetCount := 2
  progressive := false
  scaleStepSize := 1
  gpuNodePool := false
  capacityType := lit "ON_DEMAND"
  stepWaitTime := 30

def azureCreation : CreateOutcome :=
  azureCreateOutcome (Aks.createNodePool (some (lit "rg")) userPool readinessTimesOut 0)

def awsCreation : CreateOutcome :=
  awsCreateOutcome (lit "userpool") (Eks.createNodeGroup
    { account := .empty, client := .withOneSubnet, calls := [] }
    { nodeGroupName := lit "userpool"
      instanceType := lit "m5.xlarge"
      nodeCount := 1
      maxNodeCount := 2
      capacityType := lit "ON_DEMAND" }
    { Eks.CreateWorld.smooth [] with settled := .error nodeNeverReady })

def lifecycleAfter (creation : CreateOutcome) : LifecycleWorld where
  create := creation
  scaleUp := .ok .done
  scaleDown := .ok .done
  delete := .ok .done

theorem unready_pool_not_deleted :
    (¬ ∀ (args : AzureArgs) (world : LifecycleWorld),
      CleansUp args.operations world (azureAll args world)) ∧
    ¬ ∀ (args : AwsArgs) (world : LifecycleWorld),
      CleansUp args.operations world (awsAll args world) := by
  constructor
  · intro cleansUp
    have tidy := (performAll_cleansUp_iff (by simp [AzureArgs.operations])).mp
      (cleansUp azureLifecycle (lifecycleAfter azureCreation))
    exact tidy.1 rfl
  · intro cleansUp
    have tidy := (performAll_cleansUp_iff (by simp [AwsArgs.operations])).mp
      (cleansUp awsLifecycle (lifecycleAfter awsCreation))
    exact tidy.1 rfl

end Telescope.Crud
