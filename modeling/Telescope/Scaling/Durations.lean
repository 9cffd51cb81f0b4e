import Telescope.Scaling.Agreement

namespace Telescope.Scaling

open Telescope Crud

/-! How the recorded duration of a step relates to the time that its calls took.
Timestamps show whole seconds, so a faithful duration is off by less than one. -/

def StepRecord.Measured (record : StepRecord) : Prop :=
  ∃ duration : Int, record.use.saved.duration = some duration ∧
    |(duration : ℚ) - record.inCalls| < 1

private theorem startTimestamp_foldl_perform (actions : List BodyAction) (operation : Operation) :
    (actions.foldl BodyAction.perform operation).startTimestamp =
      operation.startTimestamp := by
  induction actions generalizing operation with
  | nil => rfl
  | cons action rest induction =>
      rw [List.foldl_cons, induction]
      cases action <;> rfl

private theorem duration_saved (use : ContextUse) :
    use.saved.duration = some (⌊use.exited⌋ - ⌊use.entered⌋) := by
  have started : use.bodyEnd.startTimestamp = some ⌊use.entered⌋ :=
    startTimestamp_foldl_perform _ _
  unfold ContextUse.saved OperationContext.exit Operation.finish
  cases use.raised with
  | none => simp [started]
  | some raised =>
      cases truthy : raised.truthy <;> simp [truthy, started, Operation.setError]

theorem abs_floor_sub_floor_lt (start spent : ℚ) :
    |((⌊start + spent⌋ - ⌊start⌋ : ℤ) : ℚ) - spent| < 1 := by
  have startLower := Int.floor_le start
  have startUpper := Int.lt_floor_add_one start
  have endLower := Int.floor_le (start + spent)
  have endUpper := Int.lt_floor_add_one (start + spent)
  rw [abs_lt]
  push_cast
  constructor <;> linarith

section Record

variable {ε : Type} (context : OperationContext) (clock : ℚ)
  (performed : Performed ε Note Error) (onError : Error → List Note)
  (traceback : Error → Text)

theorem duration_recordOf :
    (recordOf context clock performed onError traceback).use.saved.duration =
      some (⌊clock + performed.elapsed⌋ - ⌊clock⌋) :=
  duration_saved _

theorem measured_of_unpaused (unpaused : performed.elapsed = performed.inCalls) :
    (recordOf context clock performed onError traceback).Measured := by
  refine ⟨_, duration_recordOf .., ?_⟩
  rw [unpaused]
  exact abs_floor_sub_floor_lt clock performed.inCalls

private theorem not_measured_of_paused {seconds : ℚ} (long : 2 ≤ seconds)
    (paused : performed.elapsed = performed.inCalls + seconds) :
    ¬ (recordOf context clock performed onError traceback).Measured := by
  rintro ⟨duration, recorded, near⟩
  rw [duration_recordOf, Option.some.injEq] at recorded
  have close := abs_floor_sub_floor_lt clock performed.elapsed
  rw [recorded, paused] at close
  rw [abs_lt] at near close
  have inCalls : (recordOf context clock performed onError traceback).inCalls =
    performed.inCalls := rfl
  rw [inCalls] at near
  linarith

end Record

theorem mem_records_forSteps {σ ε : Type} {step : σ → ℚ → Nat → Int → Int → ScaleRun σ ε}
    {steps : List Int} {cloud : σ} {clock : ℚ} {index : Nat} {previous : Int}
    {record : StepRecord}
    (member : record ∈ (forSteps step cloud clock index previous steps).records) :
    ∃ cloud clock index previous count, count ∈ steps ∧
      record ∈ (step cloud clock index previous count).records := by
  induction steps generalizing cloud clock index previous with
  | nil => exact absurd member List.not_mem_nil
  | cons count rest induction =>
      rw [forSteps] at member
      cases ended : (step cloud clock index previous count).result with
      | error raised =>
          rw [ended] at member
          exact ⟨cloud, clock, index, previous, count, List.mem_cons_self, member⟩
      | ok done =>
          rw [ended] at member
          rcases List.mem_append.mp member with first | later
          · exact ⟨cloud, clock, index, previous, count, List.mem_cons_self, first⟩
          · obtain ⟨cloud, clock, index, previous, other, inRest, made⟩ := induction later
            exact ⟨cloud, clock, index, previous, other, List.mem_cons_of_mem _ inRest,
              made⟩

private theorem records_head_forSteps {σ ε : Type}
    (step : σ → ℚ → Nat → Int → Int → ScaleRun σ ε) (cloud : σ) (clock : ℚ) (index : Nat)
    (previous count : Int) (rest : List Int) {record : StepRecord}
    (made : record ∈ (step cloud clock index previous count).records) :
    record ∈ (forSteps step cloud clock index previous (count :: rest)).records := by
  rw [forSteps]
  cases (step cloud clock index previous count).result with
  | error raised => exact made
  | ok done => exact List.mem_append_left _ made

private theorem forSteps_of_raised {σ ε : Type} {step : σ → ℚ → Nat → Int → Int → ScaleRun σ ε}
    {cloud : σ} {clock : ℚ} {index : Nat} {previous count : Int} {error : Error}
    (raises : (step cloud clock index previous count).result = .error error)
    (rest : List Int) :
    forSteps step cloud clock index previous (count :: rest) =
      step cloud clock index previous count := by
  rw [forSteps, raises]

/-! EKS waits between its operations, never inside one. -/

theorem timedOperation_measured (args : Eks.GroupArgs) (progressive : Bool)
    (scaleStepSize : Int) (traceback : Error → Text) (system : Eks.System) (clock : ℚ)
    (group : Eks.NodeGroup) (nodeCount : Int) (calls : Eks.EksStepCalls) :
    ∀ record ∈ (Eks.timedOperation args progressive scaleStepSize traceback system clock
      group nodeCount calls).records, record.Measured := by
  intro record member
  rw [List.mem_singleton.mp member]
  apply measured_of_unpaused
  apply elapsed_eq_inCalls
  intro activity inBody paused
  cases activity with
  | call event made => exact paused
  | note value => exact paused
  | pause seconds =>
      simp [Eks.scaleBody, Eks.settleBody] at inBody

private theorem timedStep_measured (args : Eks.GroupArgs) (traceback : Error → Text)
    (system : Eks.System) (clock : ℚ) (nodeCount : Int) (calls : Eks.EksStepCalls) :
    ∀ record ∈ (Eks.timedStep args traceback system clock nodeCount calls).records,
      record.Measured := by
  intro record member
  rw [Eks.timedStep] at member
  split at member
  · exact absurd member List.not_mem_nil
  · exact timedOperation_measured _ _ _ _ _ _ _ _ _ record member

private theorem timedScaleNodeGroup_measured (args : Eks.GroupArgs) (nodeCount : Int)
    (progressive : Bool) (scaleStepSize : Int) (calls : Eks.EksScaleCalls)
    (system : Eks.System) (clock : ℚ) :
    ∀ record ∈ (Eks.timedScaleNodeGroup args nodeCount progressive scaleStepSize calls
      system clock).records, record.Measured := by
  intro record member
  rw [Eks.timedScaleNodeGroup] at member
  split at member
  · exact absurd member List.not_mem_nil
  · simp only at member
    split at member
    · split at member
      · exact absurd member List.not_mem_nil
      · obtain ⟨system, clock, index, previous, count, -, made⟩ :=
          mem_records_forSteps member
        obtain ⟨later, equation⟩ := Eks.timedProgressiveStep_eq
          { args with targetCount := nodeCount } calls _ system clock index previous count
        rw [equation] at made
        exact timedStep_measured _ _ _ _ _ _ record made
    · exact timedOperation_measured _ _ _ _ _ _ _ _ _ record member

/-! AKS waits inside the operation of every step but the last. -/

/-- The body of a step up to the pause. -/
def provisionBody (world : Aks.AksStepWorld) (step : Int) : List Aks.AksActivity :=
  Aks.readMetadata world ++ Aks.instrumentNodepoolProvisioning step world ++
    [.note (lit "ready_nodes", .num world.readyNodes)]

/-- Every call of a step up to the pause returns. -/
def Provisions (world : Aks.AksStepWorld) : Prop :=
  world.nodePoolInfo.call.raises = none ∧ world.clusterInfo.call.raises = none ∧
    world.arm.raises = none ∧ world.nodesReady.raises = none

theorem raised_provisionBody (world : Aks.AksStepWorld) (step : Int) :
    (perform (provisionBody world step)).raised = none ↔ Provisions world := by
  rw [provisionBody, Aks.readMetadata, Aks.instrumentNodepoolProvisioning, Provisions]
  cases info : world.nodePoolInfo.call.raises with
  | some raised => simp [perform, Activity.performed, info]
  | none =>
      cases cluster : world.clusterInfo.call.raises with
      | some raised =>
          simp [perform, Activity.performed, Performed.join, info, cluster]
      | none =>
          cases arm : world.arm.raises <;> cases ready : world.nodesReady.raises <;>
            simp [perform, Activity.performed, Performed.join, Performed.nothing, Call.both,
              info, cluster, arm, ready]

theorem provisionBody_unpaused (world : Aks.AksStepWorld) (step : Int) :
    ∀ activity ∈ provisionBody world step, ¬ activity.IsPause := by
  simp [provisionBody, Aks.readMetadata, Aks.instrumentNodepoolProvisioning,
    Activity.IsPause]

theorem stepBody_eq (gpu : Aks.GpuOptions) (target : Int) (scalingUp : Bool)
    (world : Aks.AksStepWorld) (step : Int) (other : step ≠ target) :
    Aks.stepBody gpu target target scalingUp world step =
      provisionBody world step ++ [.pause Aks.waitTime] := by
  have waits : (0 : ℚ) < Aks.waitTime := by norm_num [Aks.waitTime]
  simp [Aks.stepBody, provisionBody, other, waits]

private theorem pause_not_mem_stepTail (gpu : Aks.GpuOptions) (target : Int) (scalingUp : Bool)
    (world : Aks.AksStepWorld) (seconds : ℚ) :
    .pause seconds ∉ Aks.stepTail gpu target target scalingUp world target := by
  intro member
  simp only [Aks.stepTail, List.mem_append] at member
  rcases member with (((notes | pause) | smi) | services) | mig
  · simp at notes
  · rw [if_neg fun both => both.1 rfl] at pause
    exact absurd pause List.not_mem_nil
  · split at smi <;> simp [Aks.verifyNvidiaSmi] at smi
  · split at services <;> simp [Aks.verifyManagedGpuServices] at services
  · split at mig
    · rw [Aks.verifyMigAllocatable] at mig
      split at mig <;> simp at mig
    · exact absurd mig List.not_mem_nil

/-- The body of the last step, and of a step that raises early, has no pause. -/
theorem elapsed_of_unpaused {gpu : Aks.GpuOptions} {target : Int} {scalingUp : Bool}
    {world : Aks.AksStepWorld} {step : Int} (spared : step = target ∨ ¬ Provisions world) :
    (perform (Aks.stepBody gpu target target scalingUp world step)).elapsed =
      (perform (Aks.stepBody gpu target target scalingUp world step)).inCalls := by
  by_cases last : step = target
  · apply elapsed_eq_inCalls
    intro activity inBody paused
    cases activity with
    | call event made => exact paused
    | note value => exact paused
    | pause seconds =>
        rw [Aks.stepBody_eq, List.mem_append, List.mem_cons] at inBody
        rcases inBody with reads | provision | tail
        · simp [Aks.readMetadata] at reads
        · cases provision
        · rw [last] at tail
          exact pause_not_mem_stepTail gpu target scalingUp world seconds tail
  · rw [stepBody_eq gpu target scalingUp world step last]
    have early : (perform (provisionBody world step)).raised ≠ none := by
      rw [Ne, raised_provisionBody]
      exact spared.resolve_left last
    obtain ⟨raised, raises⟩ := Option.ne_none_iff_exists'.mp early
    rw [perform_append_of_raised raises]
    exact elapsed_eq_inCalls (provisionBody_unpaused world step)

private theorem elapsed_of_paused {gpu : Aks.GpuOptions} {target : Int} {scalingUp : Bool}
    {world : Aks.AksStepWorld} {step : Int} (other : step ≠ target)
    (provisions : Provisions world) :
    (perform (Aks.stepBody gpu target target scalingUp world step)).elapsed =
      (perform (Aks.stepBody gpu target target scalingUp world step)).inCalls +
        Aks.waitTime := by
  rw [stepBody_eq gpu target scalingUp world step other,
    perform_append_of_returned ((raised_provisionBody world step).mpr provisions)]
  have same := elapsed_eq_inCalls (provisionBody_unpaused world step)
  simp [Performed.join, perform, Activity.performed, Performed.nothing, same]

/-- A step whose provisioning raises, raises. -/
theorem raised_stepBody {gpu : Aks.GpuOptions} {target : Int} {scalingUp : Bool}
    {world : Aks.AksStepWorld} {step : Int} (fails : ¬ Provisions world) :
    ∃ error,
      (perform (Aks.stepBody gpu target target scalingUp world step)).raised =
        some error := by
  have early : (perform (provisionBody world step)).raised ≠ none := by
    rw [Ne, raised_provisionBody]
    exact fails
  obtain ⟨error, raises⟩ := Option.ne_none_iff_exists'.mp early
  have body : ∃ tail, Aks.stepBody gpu target target scalingUp world step =
      provisionBody world step ++ tail := by
    simp only [Aks.stepBody, provisionBody, List.append_assoc]
    exact ⟨_, rfl⟩
  obtain ⟨tail, equation⟩ := body
  rw [equation, perform_append_of_raised raises]
  exact ⟨error, raises⟩

section Aks

variable {current target size : Int} {args : Aks.ScaleArgs} (world : Aks.ScaleWorld)
  {pool : Aks.AgentPool} {modes : List Note}

theorem scaleStep_of_modes (ready : Aks.gpuModeMetadata args.gpu = .ok modes)
    (wants : args.nodeCount = target) (clusterName : Text) (scalingUp : Bool)
    (pool : Aks.AgentPool) (clock : ℚ) (index : Nat) (previous step : Int) :
    (Aks.scaleStep args clusterName target scalingUp world pool clock index previous
        step).result =
      resultOf (perform (Aks.stepBody args.gpu target target scalingUp (world.step index)
        step)).raised ∧
    ∃ context onError, (Aks.scaleStep args clusterName target scalingUp world pool clock
        index previous step).records =
      [recordOf context clock (perform (Aks.stepBody args.gpu target target scalingUp
        (world.step index) step)) onError world.traceback] := by
  rw [Aks.scaleStep, ready, wants]
  exact ⟨rfl, _, _, rfl⟩

private theorem progressiveScale_measured_iff (positive : 0 < size) (different : current ≠ target)
    (ready : Aks.gpuModeMetadata args.gpu = .ok modes) (wants : args.nodeCount = target)
    (sized : args.scaleStepSize = size) (stored : pool.count = current)
    (clusterName : Text) (clock : ℚ) :
    (∀ record ∈ (Aks.progressiveScale args clusterName world pool clock).records,
        record.Measured) ↔
      |target - current| ≤ size ∨ ¬ Provisions (world.step 0) := by
  obtain ⟨steps, planned, chain⟩ := Aks.progressiveSteps_chain positive different
  have last : steps.getLast? = some target := (chain.isPlan positive).ends
  have step := scaleStep_of_modes world ready wants clusterName (decide (current < target))
  rw [Aks.progressiveScale, stored, wants, sized, planned]
  simp only [last, Option.getD_some]
  constructor
  · intro measured
    by_contra still
    push Not at still
    cases chain with
    | last _ near => exact absurd near (not_le.mpr still.1)
    | step far later =>
        obtain ⟨-, context, onError, records⟩ := step pool clock 0 current
          (current + (target - current).sign * size)
        have other : current + (target - current).sign * size ≠ target := by
          rcases StepChain.next_cases positive far with ⟨-, next, before⟩ | ⟨-, next, before⟩
          all_goals omega
        have kept := measured _ (records_head_forSteps _ pool clock 0 current _ _
          (records ▸ List.mem_singleton_self _))
        exact not_measured_of_paused _ _ _ _ _ (by norm_num [Aks.waitTime])
          (elapsed_of_paused other still.2) kept
  · rintro (near | fails) record member
    · cases chain with
      | step far _ => exact absurd near (not_le.mpr far)
      | last _ _ =>
          obtain ⟨pool, clock, index, previous, count, only, made⟩ :=
            mem_records_forSteps member
          obtain ⟨-, context, onError, records⟩ := step pool clock index previous count
          rw [records, List.mem_singleton] at made
          rw [made]
          exact measured_of_unpaused _ _ _ _ _
            (elapsed_of_unpaused (.inl (List.mem_singleton.mp only)))
    · obtain ⟨first, rest, rfl⟩ := List.exists_cons_of_ne_nil chain.ne_nil
      obtain ⟨result, context, onError, records⟩ := step pool clock 0 current first
      obtain ⟨error, raised⟩ := raised_stepBody fails
      rw [raised] at result
      rw [forSteps_of_raised result, records, List.mem_singleton] at member
      rw [member]
      exact measured_of_unpaused _ _ _ _ _ (elapsed_of_unpaused (.inr fails))

/-- The scaling gets as far as the pause of its first step. -/
def ReachesPause (resourceGroup : Option Text) (args : Aks.ScaleArgs)
    (world : Aks.ScaleWorld) : Prop :=
  (presentText resourceGroup).isSome ∧ (∃ name, world.clusterName = .ok name) ∧
    (∃ modes, Aks.gpuModeMetadata args.gpu = .ok modes) ∧
      world.nodePool.raises = none ∧ Provisions (world.step 0)

theorem scaleNodePool_measured_iff (positive : 0 < size) (different : current ≠ target)
    (wants : args.nodeCount = target) (inSteps : args.progressive = true)
    (sized : args.scaleStepSize = size) (stored : pool.count = current)
    (resourceGroup : Option Text) (clock : ℚ) :
    (∀ record ∈ (Aks.scaleNodePool resourceGroup args world pool clock).records,
        record.Measured) ↔
      |target - current| ≤ size ∨ ¬ ReachesPause resourceGroup args world := by
  -- a scaling that raises before its first step has nothing recorded
  have unrecorded : ¬ ReachesPause resourceGroup args world →
      ((∀ record ∈ ([] : List StepRecord), record.Measured) ↔
        |target - current| ≤ size ∨ ¬ ReachesPause resourceGroup args world) :=
    fun early => iff_of_true (by simp) (.inr early)
  rw [Aks.scaleNodePool]
  split
  · rename_i absent
    exact unrecorded fun reaches => by simp [ReachesPause, absent] at reaches
  rename_i name present
  split
  · rename_i raised unnamed
    exact unrecorded fun reaches => by simp [ReachesPause, unnamed] at reaches
  rename_i clusterName named
  split
  · rename_i raised invalid
    exact unrecorded fun reaches => by simp [ReachesPause, invalid] at reaches
  rename_i modes ready
  simp only
  split
  · rename_i raised unread
    exact unrecorded fun reaches => by simp [ReachesPause, unread] at reaches
  rename_i read
  rw [if_neg (by omega), if_pos inSteps, progressiveScale_measured_iff world positive
    different ready wants sized stored]
  have same : ReachesPause resourceGroup args world ↔ Provisions (world.step 0) := by
    simp [ReachesPause, present, named, ready, read]
  rw [same]

end Aks

/-- Each step's duration is the time of its own calls, so that steps with equal calls
have equal durations, up to the truncation of timestamps. -/
structure DurationsMeasured (azure aws : List StepRecord) : Prop where
  azureMeasured : ∀ record ∈ azure, record.Measured
  awsMeasured : ∀ record ∈ aws, record.Measured
  comparable : ∀ left ∈ azure, ∀ right ∈ aws, left.inCalls = right.inCalls →
    ∃ leftDuration rightDuration : Int, left.use.saved.duration = some leftDuration ∧
      right.use.saved.duration = some rightDuration ∧
        |leftDuration - rightDuration| ≤ 1

private theorem DurationsMeasured.of_each {azure aws : List StepRecord}
    (azureMeasured : ∀ record ∈ azure, record.Measured)
    (awsMeasured : ∀ record ∈ aws, record.Measured) : DurationsMeasured azure aws := by
  refine ⟨azureMeasured, awsMeasured, ?_⟩
  intro left leftMember right rightMember same
  obtain ⟨leftDuration, leftRecorded, leftNear⟩ := azureMeasured left leftMember
  obtain ⟨rightDuration, rightRecorded, rightNear⟩ := awsMeasured right rightMember
  refine ⟨leftDuration, rightDuration, leftRecorded, rightRecorded, ?_⟩
  rw [same] at leftNear
  have apart : |((leftDuration - rightDuration : ℤ) : ℚ)| < 2 := by
    rw [abs_lt] at leftNear rightNear ⊢
    push_cast
    constructor <;> linarith
  have below : |leftDuration - rightDuration| < 2 := by exact_mod_cast apart
  omega

/-- Durations are measured exactly when AKS never gets to pause inside a step: one
step is enough, or the scaling raises before the nodes of the first one are ready. -/
theorem step_durations_measured_iff {current target size : Int}
    (different : current ≠ target) (positive : 1 ≤ size) (resourceGroup : Option Text)
    (args : Aks.ScaleArgs) (world : Aks.ScaleWorld) (pool : Aks.AgentPool)
    (azureClock : ℚ) (wants : args.nodeCount = target) (inSteps : args.progressive = true)
    (sized : args.scaleStepSize = size) (stored : pool.count = current)
    (group : Eks.GroupArgs) (calls : Eks.EksScaleCalls) (system : Eks.System)
    (awsClock : ℚ) :
    DurationsMeasured
        (Aks.scaleNodePool resourceGroup args world pool azureClock).records
        (Eks.timedScaleNodeGroup group target true size calls system awsClock).records ↔
      |target - current| ≤ size ∨ ¬ ReachesPause resourceGroup args world := by
  have azure := scaleNodePool_measured_iff world positive different wants inSteps sized
    stored resourceGroup azureClock
  constructor
  · intro measured
    exact azure.mp measured.azureMeasured
  · intro spared
    exact .of_each (azure.mpr spared)
      (timedScaleNodeGroup_measured group target true size calls system awsClock)

/-- One step of two is enough from two nodes to four. -/
theorem two_to_four_measured : DurationsMeasured
    (Aks.scaleNodePool (some (lit "rg")) stepsOfTwo quietAks ⟨2, lit "vm"⟩ 0).records
    (Eks.timedScaleNodeGroup scaledGroup 4 true 2 quietEks poolOfOne 0).records :=
  (step_durations_measured_iff (show (2 : Int) ≠ 4 by decide) (show (1 : Int) ≤ 2 by decide)
    (some (lit "rg")) stepsOfTwo quietAks ⟨2, lit "vm"⟩ 0 rfl rfl rfl rfl scaledGroup
    quietEks poolOfOne 0).mpr (.inl (by decide))

/-- From one node to four, the first of the two steps also records the pause. -/
theorem paused_step_not_measured : ¬ ∀ (resourceGroup : Option Text)
    (args : Aks.ScaleArgs) (world : Aks.ScaleWorld) (pool : Aks.AgentPool) (clock : ℚ)
    (group : Eks.GroupArgs) (calls : Eks.EksScaleCalls) (system : Eks.System),
    args.progressive = true → 1 ≤ args.scaleStepSize → pool.count ≠ args.nodeCount →
      DurationsMeasured (Aks.scaleNodePool resourceGroup args world pool clock).records
        (Eks.timedScaleNodeGroup group args.nodeCount true args.scaleStepSize calls system
          clock).records := by
  intro measured
  have azure := scaleNodePool_measured_iff quietAks (show (0 : Int) < 2 by decide)
    (show (1 : Int) ≠ 4 by decide) (show stepsOfTwo.nodeCount = 4 from rfl) rfl rfl
    (show (Aks.AgentPool.mk 1 (lit "vm")).count = 1 from rfl) (some (lit "rg")) 0
  rcases azure.mp (measured (some (lit "rg")) stepsOfTwo quietAks ⟨1, lit "vm"⟩ 0
    scaledGroup quietEks poolOfOne rfl (by decide) (by decide)).azureMeasured with
    near | early
  · exact absurd near (by decide)
  · exact early ⟨rfl, ⟨_, rfl⟩, ⟨_, rfl⟩, rfl, rfl, rfl, rfl, rfl⟩

end Telescope.Scaling
