import Telescope.Aks.NodePool
import Telescope.Eks.TimedScaling

namespace Telescope.Scaling

open Telescope Crud

/-! Both clouds scale progressively along one plan. -/

/-- Reads before the first request do not count as requests. -/
theorem FollowsPlan.prepend {σ ε : Type} {request? : ε → Option Int}
    {recorded : Int → Int → ContextUse → Prop} {refusal : Nat → Option Error}
    {current : Int} {plan : List Int} {run : ScaleRun σ ε} {event : ε}
    (quiet : request? event = none)
    (follows : FollowsPlan request? recorded refusal current plan run) :
    FollowsPlan request? recorded refusal current plan
      { run with events := event :: run.events } := by
  have same : ScaleRun.requests request? { run with events := event :: run.events } =
      run.requests request? := by
    simp [ScaleRun.requests, quiet]
  exact ⟨by rw [same]; exact follows.requested,
    by rw [same]; exact follows.completed,
    by rw [same]; exact follows.recorded,
    by rw [same]; exact follows.stopped⟩

private theorem progressiveScale_followsPlan {current target size : Int} {plan : List Int}
    (positive : 0 < size) (different : current ≠ target)
    (chain : StepChain target size current plan) (args : Aks.ScaleArgs)
    (clusterName : Text) (world : Aks.ScaleWorld) (pool : Aks.AgentPool) (clock : ℚ)
    (wants : args.nodeCount = target) (sized : args.scaleStepSize = size)
    (stored : pool.count = current) :
    FollowsPlan Aks.AksEvent.request? Aks.RecordsStep
      (fun index => (world.step index).arm.raises) current plan
      (Aks.progressiveScale args clusterName world pool clock) := by
  obtain ⟨steps, planned, stepsChain⟩ := Aks.progressiveSteps_chain positive different
  obtain rfl := chain.unique stepsChain
  rw [Aks.progressiveScale, stored, wants, sized, planned]
  have follows := (Aks.scaleStep_spec args clusterName (plan.getLast?.getD target)
    (decide (current < target)) world).followsPlan plan pool clock 0 current trivial
  simpa only [Nat.zero_add] using follows

private theorem scaleNodePool_followsPlan {current target size : Int} {plan : List Int}
    (positive : 0 < size) (different : current ≠ target)
    (chain : StepChain target size current plan) (resourceGroup : Option Text)
    (args : Aks.ScaleArgs) (world : Aks.ScaleWorld) (pool : Aks.AgentPool) (clock : ℚ)
    (wants : args.nodeCount = target) (inSteps : args.progressive = true)
    (sized : args.scaleStepSize = size) (stored : pool.count = current) :
    FollowsPlan Aks.AksEvent.request? Aks.RecordsStep
      (fun index => (world.step index).arm.raises) current plan
      (Aks.scaleNodePool resourceGroup args world pool clock) := by
  obtain ⟨first, rest, rfl⟩ := List.exists_cons_of_ne_nil chain.ne_nil
  rw [Aks.scaleNodePool]
  -- whatever raises before the plan is made sends no request
  split
  · exact .unsent rfl rfl
  split
  · exact .unsent rfl rfl
  split
  · exact .unsent rfl rfl
  simp only
  split
  · exact .unsent rfl rfl
  rw [if_neg (by omega), if_pos inSteps]
  exact progressiveScale_followsPlan positive different chain args _ world pool _ wants
    sized stored

private theorem timedScaleNodeGroup_followsPlan {current target size : Int} {plan : List Int}
    (positive : 0 < size) (chain : StepChain target size current plan)
    (args : Eks.GroupArgs) (calls : Eks.EksScaleCalls) (system : Eks.System) (clock : ℚ)
    (stored : Eks.HoldsCount args.nodeGroupName system current) :
    FollowsPlan Eks.EksEvent.request? Eks.RecordsStep
      (fun index => (calls.step index).updated.raises) current plan
      (Eks.timedScaleNodeGroup args target true size calls system clock) := by
  obtain ⟨group, found, count⟩ := stored
  rw [Eks.timedScaleNodeGroup]
  split
  · obtain ⟨first, rest, rfl⟩ := List.exists_cons_of_ne_nil chain.ne_nil
    exact .unsent rfl rfl
  · rename_i read equation
    obtain rfl : group = read :=
      Option.some.inj (found.symm.trans (Eks.readNodeGroup_ok equation))
    apply FollowsPlan.prepend rfl
    rw [count]
    by_cases far : size < |target - current|
    · obtain ⟨steps, planned, stepsChain⟩ := progressiveSteps_chain positive far
      obtain rfl := chain.unique stepsChain
      rw [if_pos ⟨rfl, far⟩, planned]
      have follows := (Eks.timedProgressiveStep_spec { args with targetCount := target }
        calls plan.length).followsPlan plan system (clock + calls.read.latency) 0 current
        ⟨group, found, count⟩
      simpa only [Nat.zero_add] using follows
    · rw [if_neg fun both => far both.2]
      cases chain with
      | step farther later => exact absurd farther far
      | last different near =>
          rw [← count]
          exact Eks.timedOperation_followsPlan args true size calls system _ group found
            target

private theorem exists_chain {current target size : Int} (positive : 0 < size)
    (different : current ≠ target) : ∃ plan, StepChain target size current plan := by
  obtain ⟨plan, -, chain⟩ := Aks.progressiveSteps_chain positive different
  exact ⟨plan, chain⟩

/-- Progressive scaling from `current` to `target` follows one plan on both clouds,
whatever the calls answer. -/
theorem progressive_scaling_shares_plan {current target size : Int}
    (different : current ≠ target) (positive : 1 ≤ size) :
    ∃ plan, IsPlan current target size plan ∧
      (∀ (resourceGroup : Option Text) (args : Aks.ScaleArgs) (world : Aks.ScaleWorld)
        (pool : Aks.AgentPool) (clock : ℚ), args.nodeCount = target →
        args.progressive = true → args.scaleStepSize = size → pool.count = current →
          FollowsPlan Aks.AksEvent.request? Aks.RecordsStep
            (fun index => (world.step index).arm.raises) current plan
            (Aks.scaleNodePool resourceGroup args world pool clock)) ∧
      (∀ (args : Eks.GroupArgs) (calls : Eks.EksScaleCalls) (system : Eks.System)
        (clock : ℚ), Eks.HoldsCount args.nodeGroupName system current →
          FollowsPlan Eks.EksEvent.request? Eks.RecordsStep
            (fun index => (calls.step index).updated.raises) current plan
            (Eks.timedScaleNodeGroup args target true size calls system clock)) ∧
      (size < |target - current| →
        Eks.progressiveSteps current target size = .ok plan) := by
  obtain ⟨plan, chain⟩ := exists_chain positive different
  refine ⟨plan, chain.isPlan positive, ?_, ?_, ?_⟩
  · intro resourceGroup args world pool clock wants inSteps sized stored
    exact scaleNodePool_followsPlan positive different chain resourceGroup args world
      pool clock wants inSteps sized stored
  · intro args calls system clock stored
    exact timedScaleNodeGroup_followsPlan positive chain args calls system clock stored
  · intro far
    obtain ⟨steps, planned, stepsChain⟩ := progressiveSteps_chain positive far
    rw [planned, chain.unique stepsChain]

/-- A cloud whose calls all return at once. -/
def quietReading : Reading := ⟨.instant, .null⟩

def quietAks : Aks.ScaleWorld where
  clusterName := .ok (lit "aks")
  nodePool := .instant
  step := fun _ =>
    { nodePoolInfo := quietReading
      clusterInfo := quietReading
      arm := .instant
      retryOccurred := false
      nodesReady := .instant
      readyNodes := 0
      driverLogs := quietReading
      serviceStatus := quietReading
      migStatus := quietReading }
  traceback := fun _ => []

def quietEks : Eks.EksScaleCalls where
  read := .instant
  step := fun _ =>
    { described := .instant
      updated := .instant
      active := .instant
      nodesReady := .instant
      readyNodes := 0
      nodeGroupInfo := quietReading
      clusterInfo := quietReading
      driverLogs := quietReading }
  traceback := fun _ => []

def stepsOfTwo : Aks.ScaleArgs where
  nodePoolName := lit "pool"
  nodeCount := 4
  gpu := ⟨false, false, none, none⟩
  progressive := true
  scaleStepSize := 2

def poolOfOne : Eks.System where
  account := Eks.Account.empty.putNodegroup (lit "pool")
    { scalingConfig := ⟨1, 4, 1⟩, launchTemplate := none } (fun _ none => nomatch none)
  client := Eks.EksClient.withOneSubnet
  calls := []

def scaledGroup : Eks.GroupArgs where
  nodeGroupName := lit "pool"
  clusterName := lit "eks"
  gpuNodeGroup := false
  targetCount := 4

/-- From one node to four in steps of two. -/
theorem one_to_four_shares_plan : ∃ plan : List Int,
    (Aks.scaleNodePool (some (lit "rg")) stepsOfTwo quietAks ⟨1, lit "vm"⟩ 0).requests
        Aks.AksEvent.request? = plan ∧
      (Eks.timedScaleNodeGroup scaledGroup 4 true 2 quietEks poolOfOne 0).requests
        Eks.EksEvent.request? = plan := by
  obtain ⟨plan, -, azure, aws, -⟩ :=
    progressive_scaling_shares_plan (show (1 : Int) ≠ 4 by decide) (show (1 : Int) ≤ 2 by decide)
  refine ⟨plan, ?_, ?_⟩
  · exact ((azure _ stepsOfTwo quietAks ⟨1, lit "vm"⟩ 0 rfl rfl rfl rfl).completed rfl).1
  · exact ((aws scaledGroup quietEks poolOfOne 0 ⟨_, rfl, rfl⟩).completed rfl).1

end Telescope.Scaling
