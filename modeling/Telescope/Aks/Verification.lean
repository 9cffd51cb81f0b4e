import Telescope.Aks.NodePool

namespace Telescope.Aks

open Telescope Crud Scaling

/-! The verifications of a scale-up: which of them the direct and the progressive path of
`scale_node_pool` perform, and when. -/

section Events

variable {ε ν χ : Type}

theorem events_call (event : ε) (made : Call χ) (rest : List (Activity ε ν χ)) :
    (perform (.call event made :: rest)).events =
      event :: if made.raises = none then (perform rest).events else [] := by
  cases raises : made.raises <;> simp [perform, Activity.performed, raises, Performed.join]

theorem events_note (value : ν) (rest : List (Activity ε ν χ)) :
    (perform (.note value :: rest)).events = (perform rest).events := by
  simp [perform, Activity.performed, Performed.join]

theorem events_nil : (perform ([] : List (Activity ε ν χ))).events = [] := rfl

end Events

def AksEvent.isVerification : AksEvent → Bool
  | .verifyNvidiaSmi | .verifyManagedGpuServices | .verifyMigAllocatable _ => true
  | _ => false

def verifications (events : List AksEvent) : List AksEvent :=
  events.filter AksEvent.isVerification

/-- Everything up to the verifications succeeds. -/
structure AksStepWorld.Provisions (world : AksStepWorld) : Prop where
  nodePoolInfo : world.nodePoolInfo.call.raises = none
  clusterInfo : world.clusterInfo.call.raises = none
  arm : world.arm.raises = none
  nodesReady : world.nodesReady.raises = none

/-! ## One scaling operation -/

/-- What the direct path verifies when it scales up to a positive count. -/
def directVerifying (gpu : GpuOptions) (world : AksStepWorld) : List AksActivity :=
  (if gpu.gpuNodePool ∧ ¬ gpu.enableManagedGpu then verifyNvidiaSmi world else []) ++
  (if gpu.enableManagedGpu then
    verifyManagedGpuServices world ++ verifyNvidiaSmi world ++
      verifyMigAllocatable gpu.gpuInstanceProfile world else [])

/-- What the last step of the progressive path verifies when it scales up to a positive
count. -/
def progressiveVerifying (gpu : GpuOptions) (world : AksStepWorld) : List AksActivity :=
  (if gpu.gpuNodePool then verifyNvidiaSmi world else []) ++
  (if gpu.enableManagedGpu then verifyManagedGpuServices world else []) ++
  verifyMigAllocatable gpu.gpuInstanceProfile world

section Bodies

variable {world : AksStepWorld}

theorem raised_both (provisions : world.Provisions) :
    (world.arm.both world.nodesReady).raises = none := by
  rw [Call.both, provisions.arm, provisions.nodesReady]
  rfl

theorem events_readMetadata (provisions : world.Provisions) (rest : List AksActivity) :
    (perform (readMetadata world ++ rest)).events =
      [.readNodePool, .readCluster] ++ (perform rest).events := by
  simp [readMetadata, events_call, events_note, provisions.nodePoolInfo, provisions.clusterInfo]

theorem events_instrument (provisions : world.Provisions) (count : Int)
    (rest : List AksActivity) :
    (perform (instrumentNodepoolProvisioning count world ++ rest)).events =
      .provision count :: (perform rest).events := by
  simp [instrumentNodepoolProvisioning, events_call, events_note, raised_both provisions]

/-- Notes behind the calls do not show in the events. -/
theorem events_append_note (activities : List AksActivity) (value : Note) :
    (perform (activities ++ [.note value])).events = (perform activities).events := by
  cases raises : (perform activities).raised with
  | some error => rw [perform_append_of_raised raises]
  | none =>
      rw [perform_append_of_returned raises]
      simp [Performed.join, events_note, events_nil]

private theorem events_directBody (provisions : world.Provisions) (args : ScaleArgs)
    (pool : AgentPool) :
    (perform (directBody args pool true world)).events =
      [.readNodePool, .readCluster, .provision args.nodeCount] ++
        if 0 < args.nodeCount then (perform (directVerifying args.gpu world)).events else [] := by
  have body : directBody args pool true world =
      .note (lit "vm_size", .str pool.vmSize) :: .note (lit "current_count", .num pool.count) ::
        .note (lit "node_pool_name", .str args.nodePoolName) ::
        (readMetadata world ++ (instrumentNodepoolProvisioning args.nodeCount world ++
          ((if 0 < args.nodeCount then directVerifying args.gpu world else []) ++
            [.note (lit "ready_nodes", .num world.readyNodes)]))) := by
    by_cases positive : 0 < args.nodeCount
    · simp [directBody, directVerifying, positive]
    · simp [directBody, positive]
  rw [body, events_note, events_note, events_note, events_readMetadata provisions,
    events_instrument provisions, events_append_note]
  split
  · rfl
  · rfl

private theorem events_stepBody (provisions : world.Provisions) (gpu : GpuOptions) (target : Int) :
    (perform (stepBody gpu target target true world target)).events =
      [.readNodePool, .readCluster, .provision target] ++
        if 0 < target then (perform (progressiveVerifying gpu world)).events else [] := by
  have body : stepBody gpu target target true world target =
      readMetadata world ++ (instrumentNodepoolProvisioning target world ++
        (.note (lit "ready_nodes", .num world.readyNodes) ::
          if 0 < target then progressiveVerifying gpu world else [])) := by
    by_cases positive : 0 < target
    · simp [stepBody, progressiveVerifying, positive]
    · simp [stepBody, positive]
  rw [body, events_readMetadata provisions, events_instrument provisions, events_note]
  split
  · rfl
  · rfl

/-- An intermediate step returns without a verification. -/
theorem perform_intermediate (provisions : world.Provisions) (gpu : GpuOptions)
    {target step : Int} (last : Int) (scalingUp : Bool) (intermediate : step ≠ target) :
    (perform (stepBody gpu target last scalingUp world step)).raised = none ∧
      (perform (stepBody gpu target last scalingUp world step)).events =
        [.readNodePool, .readCluster, .provision step] := by
  have provisioned := raised_both provisions
  have pauses : (perform (if step ≠ last ∧ 0 < waitTime then
      [.pause waitTime] else [] : List AksActivity)).raised = none ∧
        (perform (if step ≠ last ∧ 0 < waitTime then
          [.pause waitTime] else [] : List AksActivity)).events = [] := by
    split
    · exact ⟨rfl, rfl⟩
    · exact ⟨rfl, rfl⟩
  simp [stepBody, intermediate, readMetadata, instrumentNodepoolProvisioning, perform,
    Activity.performed, provisions.nodePoolInfo, provisions.clusterInfo, provisioned,
    Performed.join, pauses]

end Bodies

/-! ## The whole progressive scaling -/

structure ScaleWorld.Provisions (world : ScaleWorld) : Prop where
  nodePool : world.nodePool.raises = none
  steps : ∀ index, (world.step index).Provisions

section Run

variable {args : ScaleArgs} {world : ScaleWorld} {modes : List Note}

theorem scaleStep_of_modes (clusterName : Text) (world : ScaleWorld)
    (supported : gpuModeMetadata args.gpu = .ok modes) (last : Int)
    (scalingUp : Bool) (pool : AgentPool) (clock : ℚ) (index : Nat) (previous step : Int) :
    (scaleStep args clusterName last scalingUp world pool clock index previous step).events =
        (perform (stepBody args.gpu args.nodeCount last scalingUp (world.step index) step)).events ∧
      (scaleStep args clusterName last scalingUp world pool clock index previous step).result =
        resultOf
          (perform (stepBody args.gpu args.nodeCount last scalingUp (world.step index) step)).raised := by
  rw [scaleStep, supported]
  exact ⟨rfl, rfl⟩

/-- The events of a progressive scale-up: provisioning alone before the last step, and then
what the last step does. -/
theorem events_progressive (args : ScaleArgs) (clusterName : Text)
    (provisions : world.Provisions) (supported : gpuModeMetadata args.gpu = .ok modes)
    (positive : 0 < args.scaleStepSize)
    {current : Int} {steps : List Int}
    (chain : StepChain args.nodeCount args.scaleStepSize current steps) (pool : AgentPool)
    (clock : ℚ) (index : Nat) :
    ∃ before, (forSteps (scaleStep args clusterName args.nodeCount true world) pool clock index
        current steps).events =
          before ++ (perform (stepBody args.gpu args.nodeCount args.nodeCount true
            (world.step (index + (steps.length - 1))) args.nodeCount)).events ∧
      verifications before = [] := by
  induction chain generalizing pool clock index with
  | @last current different near =>
      refine ⟨[], ?_, rfl⟩
      obtain ⟨events, -⟩ := scaleStep_of_modes clusterName world supported args.nodeCount true
        pool clock index current args.nodeCount
      rw [forSteps]
      cases ended : (scaleStep args clusterName args.nodeCount true world pool clock index current
          args.nodeCount).result with
      | error error =>
          simp only
          exact events
      | ok value =>
          simp only [forSteps, List.append_nil]
          exact events
  | @step current rest far later induction =>
      have intermediate : current + (args.nodeCount - current).sign * args.scaleStepSize ≠
          args.nodeCount := by
        rcases StepChain.next_cases positive far with ⟨-, next, short⟩ | ⟨-, next, short⟩ <;>
          omega
      generalize current + (args.nodeCount - current).sign * args.scaleStepSize = next at *
      obtain ⟨events, result⟩ := scaleStep_of_modes clusterName world supported args.nodeCount
        true pool clock index current next
      obtain ⟨returns, quiet⟩ := perform_intermediate (provisions.steps index) args.gpu
        args.nodeCount true intermediate
      rw [returns] at result
      rw [quiet] at events
      obtain ⟨before, rest_events, silent⟩ := induction
        (scaleStep args clusterName args.nodeCount true world pool clock index current next).cloud
        (scaleStep args clusterName args.nodeCount true world pool clock index current next).clock
        (index + 1)
      have shift : index + 1 + (rest.length - 1) = index + ((next :: rest).length - 1) := by
        have nonempty := List.length_pos_of_ne_nil later.ne_nil
        simp only [List.length_cons]
        omega
      rw [shift] at rest_events
      refine ⟨[.readNodePool, .readCluster, .provision next] ++ before, ?_, ?_⟩
      · rw [forSteps, result]
        simp only [resultOf, events, rest_events, List.append_assoc]
      · simpa [verifications, AksEvent.isVerification] using silent

end Run

/-! ## Both paths -/

/-- On which flags, and on which verifications that raise, both paths verify the same. -/
def VerifiesAlike (gpu : GpuOptions) (direct progressive : AksStepWorld) : Prop :=
  if gpu.enableManagedGpu then
    if gpu.gpuNodePool then
      direct.serviceStatus.call.raises = none ∧ progressive.driverLogs.call.raises = none ∧
        (presentText gpu.gpuInstanceProfile ≠ none →
          (direct.driverLogs.call.raises = none ↔ progressive.serviceStatus.call.raises = none))
    else
      direct.serviceStatus.call.raises ≠ none ∧
        (presentText gpu.gpuInstanceProfile ≠ none →
          progressive.serviceStatus.call.raises ≠ none)
  else
    presentText gpu.gpuInstanceProfile ≠ none →
      gpu.gpuNodePool = true ∧ progressive.driverLogs.call.raises ≠ none

/-- Where no verification raises, only the flags matter. -/
theorem verifiesAlike_iff_of_answered {gpu : GpuOptions} {direct progressive : AksStepWorld}
    (directDrivers : direct.driverLogs.call.raises = none)
    (directServices : direct.serviceStatus.call.raises = none)
    (progressiveDrivers : progressive.driverLogs.call.raises = none)
    (progressiveServices : progressive.serviceStatus.call.raises = none) :
    VerifiesAlike gpu direct progressive ↔
      (gpu.enableManagedGpu = true → gpu.gpuNodePool = true) ∧
        (presentText gpu.gpuInstanceProfile ≠ none → gpu.enableManagedGpu = true) := by
  unfold VerifiesAlike
  cases gpu.enableManagedGpu <;> cases gpu.gpuNodePool <;>
    simp [directDrivers, directServices, progressiveDrivers, progressiveServices]

def migEvents (gpu : GpuOptions) : List AksEvent :=
  match presentText gpu.gpuInstanceProfile with
  | none => []
  | some profile => [.verifyMigAllocatable profile]

theorem events_verifyMigAllocatable (gpu : GpuOptions) (world : AksStepWorld) :
    (perform (verifyMigAllocatable gpu.gpuInstanceProfile world)).events = migEvents gpu := by
  unfold verifyMigAllocatable migEvents
  cases presentText gpu.gpuInstanceProfile with
  | none => rfl
  | some profile => simp [events_call, events_note, events_nil]

theorem events_directVerifying (gpu : GpuOptions) (world : AksStepWorld) :
    (perform (directVerifying gpu world)).events =
      if gpu.enableManagedGpu then
        .verifyManagedGpuServices :: if world.serviceStatus.call.raises = none then
          .verifyNvidiaSmi :: if world.driverLogs.call.raises = none then migEvents gpu else []
        else []
      else if gpu.gpuNodePool then [.verifyNvidiaSmi] else [] := by
  unfold directVerifying
  cases gpu.enableManagedGpu <;> cases gpu.gpuNodePool <;>
    simp [verifyNvidiaSmi, verifyManagedGpuServices, events_call, events_note, events_nil,
      events_verifyMigAllocatable]

theorem events_progressiveVerifying (gpu : GpuOptions) (world : AksStepWorld) :
    (perform (progressiveVerifying gpu world)).events =
      (if gpu.gpuNodePool then [.verifyNvidiaSmi] else []) ++
        if gpu.gpuNodePool = true → world.driverLogs.call.raises = none then
          (if gpu.enableManagedGpu then [.verifyManagedGpuServices] else []) ++
            if gpu.enableManagedGpu = true → world.serviceStatus.call.raises = none then
              migEvents gpu else []
        else [] := by
  unfold progressiveVerifying
  cases gpu.enableManagedGpu <;> cases gpu.gpuNodePool <;>
    simp [verifyNvidiaSmi, verifyManagedGpuServices, events_call, events_note,
      events_verifyMigAllocatable]

theorem isVerification_of_mem_perform {gpu : GpuOptions} {world : AksStepWorld} {event : AksEvent}
    (occurred : event ∈ (perform (directVerifying gpu world)).events ∨
      event ∈ (perform (progressiveVerifying gpu world)).events) :
    event.isVerification = true := by
  have mig (profile : AksEvent) (member : profile ∈ migEvents gpu) :
      profile.isVerification = true := by
    unfold migEvents at member
    split at member
    · exact absurd member List.not_mem_nil
    · rw [List.mem_singleton.mp member]
      rfl
  rw [events_directVerifying, events_progressiveVerifying] at occurred
  rcases occurred with direct | progressive
  · grind [AksEvent.isVerification]
  · grind [AksEvent.isVerification]

/-- Lists of verifications are compared one kind at a time. -/
theorem same_iff_kinds {first second : List AksEvent}
    (inFirst : ∀ event ∈ first, event.isVerification = true)
    (inSecond : ∀ event ∈ second, event.isVerification = true) :
    (∀ event, event ∈ first ↔ event ∈ second) ↔
      (.verifyNvidiaSmi ∈ first ↔ .verifyNvidiaSmi ∈ second) ∧
      (.verifyManagedGpuServices ∈ first ↔ .verifyManagedGpuServices ∈ second) ∧
      ∀ profile, .verifyMigAllocatable profile ∈ first ↔ .verifyMigAllocatable profile ∈ second := by
  constructor
  · intro same
    exact ⟨same _, same _, fun profile => same _⟩
  · rintro ⟨smi, services, mig⟩ event
    cases event with
    | verifyNvidiaSmi => exact smi
    | verifyManagedGpuServices => exact services
    | verifyMigAllocatable profile => exact mig profile
    | _ =>
        constructor
        · intro member
          exact nomatch inFirst _ member
        · intro member
          exact nomatch inSecond _ member

private theorem same_verifications_iff (gpu : GpuOptions) (direct progressive : AksStepWorld) :
    (∀ event, event ∈ (perform (progressiveVerifying gpu progressive)).events ↔
        event ∈ (perform (directVerifying gpu direct)).events) ↔
      VerifiesAlike gpu direct progressive := by
  rw [same_iff_kinds (fun event member => isVerification_of_mem_perform (.inr member))
    (fun event member => isVerification_of_mem_perform (.inl member)), events_directVerifying,
    events_progressiveVerifying, VerifiesAlike, migEvents]
  generalize direct.serviceStatus.call.raises = directServices
  generalize direct.driverLogs.call.raises = directDrivers
  generalize progressive.serviceStatus.call.raises = progressiveServices
  generalize progressive.driverLogs.call.raises = progressiveDrivers
  cases presentText gpu.gpuInstanceProfile <;> cases gpu.enableManagedGpu <;>
    cases gpu.gpuNodePool <;> cases directServices <;> cases directDrivers <;>
    cases progressiveServices <;> cases progressiveDrivers <;> simp

/-- A scale-up of the pool gets as far as its steps, whose provisioning calls succeed. -/
structure ScalesUp (resourceGroup : Option Text) (args : ScaleArgs) (pool : AgentPool)
    (world : ScaleWorld) : Prop where
  group : presentText resourceGroup ≠ none
  clusterName : ∃ name, world.clusterName = .ok name
  modes : ∃ modes, gpuModeMetadata args.gpu = .ok modes
  provisions : world.Provisions
  up : pool.count < args.nodeCount

section Paths

variable {resourceGroup : Option Text} {args : ScaleArgs} {pool : AgentPool} {world : ScaleWorld}

private theorem events_scaleDirectly (scales : ScalesUp resourceGroup args pool world) (clock : ℚ) :
    (scaleNodePool resourceGroup { args with progressive := false } world pool clock).events =
      [.readNodePool, .readCluster, .provision args.nodeCount] ++
        if 0 < args.nodeCount then (perform (directVerifying args.gpu (world.step 0))).events
        else [] := by
  obtain ⟨group, present⟩ := Option.ne_none_iff_exists'.mp scales.group
  obtain ⟨name, named⟩ := scales.clusterName
  obtain ⟨modes, supported⟩ := scales.modes
  have different : args.nodeCount ≠ pool.count := scales.up.ne'
  simp only [scaleNodePool, present, named, supported, scales.provisions.nodePool, if_neg different,
    Bool.false_eq_true, if_false, scaleDirectly, decide_eq_true scales.up]
  exact events_directBody (scales.provisions.steps 0) { args with progressive := false } pool

private theorem events_scaleProgressively (scales : ScalesUp resourceGroup args pool world)
    (positive : 0 < args.scaleStepSize) (clock : ℚ) :
    ∃ (last : Nat) (before : List AksEvent),
      (last + 1 : Int) = ⌈(|args.nodeCount - pool.count| : ℚ) / args.scaleStepSize⌉ ∧
      (scaleNodePool resourceGroup { args with progressive := true } world pool clock).events =
        before ++ ([.readNodePool, .readCluster, .provision args.nodeCount] ++
          if 0 < args.nodeCount then
            (perform (progressiveVerifying args.gpu (world.step last))).events
          else []) ∧
      verifications before = [] := by
  obtain ⟨group, present⟩ := Option.ne_none_iff_exists'.mp scales.group
  obtain ⟨name, named⟩ := scales.clusterName
  obtain ⟨modes, supported⟩ := scales.modes
  have different : args.nodeCount ≠ pool.count := scales.up.ne'
  obtain ⟨steps, planned, chain⟩ := progressiveSteps_chain positive different.symm
  have plan := chain.isPlan positive
  have nonempty := List.length_pos_of_ne_nil chain.ne_nil
  obtain ⟨before, events, quiet⟩ := events_progressive
    { args with progressive := true } name scales.provisions supported positive chain pool
    (clock + world.nodePool.latency) 0
  refine ⟨steps.length - 1, before, ?_, ?_, quiet⟩
  · rw [← plan.length]
    omega
  · simp only [scaleNodePool, present, named, supported, scales.provisions.nodePool,
      if_neg different, if_true, progressiveScale, planned, plan.ends, Option.getD_some,
      decide_eq_true scales.up]
    rw [events, Nat.zero_add,
      events_stepBody (scales.provisions.steps (steps.length - 1)) args.gpu args.nodeCount]

end Paths

theorem verifications_eq_self {events : List AksEvent}
    (only : ∀ event ∈ events, event.isVerification = true) : verifications events = events :=
  List.filter_eq_self.mpr only

/-- Verifications make no request. -/
theorem getLast?_requests (before : List AksEvent) {after : List AksEvent} {count : Int}
    (only : ∀ event ∈ after, event.isVerification = true) :
    ((before ++ .provision count :: after).filterMap AksEvent.request?).getLast? =
      some count := by
  have quiet : after.filterMap AksEvent.request? = [] := by
    rw [List.filterMap_eq_nil_iff]
    intro event member
    have verifies := only event member
    cases event <;> first | rfl | exact nomatch verifies
  rw [List.filterMap_append, List.filterMap_cons_some (f := AksEvent.request?) rfl, quiet,
    List.getLast?_concat]

/-- The progressive path verifies after the last step only, and verifies what the direct path
does exactly on the flags and answers of `VerifiesAlike`; both request the target last. -/
theorem progressive_verifies_like_direct_iff (resourceGroup : Option Text) (args : ScaleArgs)
    (pool : AgentPool) (direct progressive : ScaleWorld) (clock : ℚ)
    (directScales : ScalesUp resourceGroup args pool direct)
    (progressiveScales : ScalesUp resourceGroup args pool progressive)
    (positive : 1 ≤ args.scaleStepSize) :
    let directRun :=
      scaleNodePool resourceGroup { args with progressive := false } direct pool clock
    let progressiveRun :=
      scaleNodePool resourceGroup { args with progressive := true } progressive pool clock
    ∃ (last : Nat) (before after : List AksEvent),
      (last + 1 : Int) = ⌈(|args.nodeCount - pool.count| : ℚ) / args.scaleStepSize⌉ ∧
      progressiveRun.events = before ++ .provision args.nodeCount :: after ∧
      verifications before = [] ∧
      (directRun.requests AksEvent.request?).getLast? = some args.nodeCount ∧
      (progressiveRun.requests AksEvent.request?).getLast? = some args.nodeCount ∧
      ((∀ event, event ∈ verifications after ↔ event ∈ verifications directRun.events) ↔
        args.nodeCount ≤ 0 ∨ VerifiesAlike args.gpu (direct.step 0) (progressive.step last)) := by
  obtain ⟨last, before, planned, events, quiet⟩ :=
    events_scaleProgressively progressiveScales (by omega) clock
  have only {events : List AksEvent} (verifying : ∀ event ∈ events, event.isVerification = true) :
      ∀ event ∈ if 0 < args.nodeCount then events else [], event.isVerification = true := by
    intro event member
    split at member
    · exact verifying event member
    · exact absurd member List.not_mem_nil
  have directOnly : ∀ event ∈ if 0 < args.nodeCount then
      (perform (directVerifying args.gpu (direct.step 0))).events else [],
      event.isVerification = true :=
    only fun event member => isVerification_of_mem_perform (.inl member)
  have progressiveOnly : ∀ event ∈ if 0 < args.nodeCount then
      (perform (progressiveVerifying args.gpu (progressive.step last))).events else [],
      event.isVerification = true :=
    only fun event member => isVerification_of_mem_perform (.inr member)
  have directEvents := events_scaleDirectly directScales clock
  generalize directVerified : (if 0 < args.nodeCount then
    (perform (directVerifying args.gpu (direct.step 0))).events else []) = checked at *
  generalize progressiveVerified : (if 0 < args.nodeCount then
    (perform (progressiveVerifying args.gpu (progressive.step last))).events else []) = after at *
  have split : before ++ ([.readNodePool, .readCluster, .provision args.nodeCount] ++ after) =
      (before ++ [.readNodePool, .readCluster]) ++ .provision args.nodeCount :: after := by
    simp
  rw [split] at events
  refine ⟨last, before ++ [.readNodePool, .readCluster], after, planned, events, ?_, ?_, ?_, ?_⟩
  · rw [verifications] at quiet
    rw [verifications, List.filter_append, quiet]
    rfl
  · rw [ScaleRun.requests, directEvents]
    exact getLast?_requests [.readNodePool, .readCluster] directOnly
  · rw [ScaleRun.requests, events]
    exact getLast?_requests _ progressiveOnly
  · have directChecks : verifications (scaleNodePool resourceGroup
        { args with progressive := false } direct pool clock).events = checked := by
      rw [directEvents, verifications, List.filter_append]
      exact verifications_eq_self directOnly
    rw [directChecks, verifications_eq_self progressiveOnly, ← directVerified,
      ← progressiveVerified]
    by_cases above : 0 < args.nodeCount
    · rw [if_pos above, if_pos above, or_iff_right (not_le.mpr above)]
      exact same_verifications_iff args.gpu (direct.step 0) (progressive.step last)
    · rw [if_neg above, if_neg above]
      exact iff_of_true (fun event => Iff.rfl) (.inl (not_lt.mp above))

/-! Three nodes from one, with every call answered. -/

def answeredStep : AksStepWorld where
  nodePoolInfo := ⟨.instant, .null⟩
  clusterInfo := ⟨.instant, .null⟩
  arm := .instant
  retryOccurred := false
  nodesReady := .instant
  readyNodes := 3
  driverLogs := ⟨.instant, .null⟩
  serviceStatus := ⟨.instant, .null⟩
  migStatus := ⟨.instant, .null⟩

def answeredWorld : ScaleWorld where
  clusterName := .ok (lit "c")
  nodePool := .instant
  step _ := answeredStep
  traceback _ := []

def scaleToThree (gpuNodePool progressive : Bool) : ScaleArgs where
  nodePoolName := lit "p"
  nodeCount := 3
  gpu := ⟨gpuNodePool, true, none, none⟩
  progressive := progressive
  scaleStepSize := 1

theorem scaleToThree_scalesUp (gpuNodePool progressive : Bool) :
    ScalesUp (some (lit "g")) (scaleToThree gpuNodePool progressive) ⟨1, lit "v"⟩
      answeredWorld where
  group := by decide
  clusterName := ⟨_, rfl⟩
  modes := by cases gpuNodePool <;> exact ⟨_, rfl⟩
  provisions := ⟨rfl, fun _ => ⟨rfl, rfl, rfl, rfl⟩⟩
  up := by
    change (1 : Int) < 3
    decide

theorem managed_gpu_pool_verified_alike :
    ∃ before after,
      (scaleNodePool (some (lit "g")) (scaleToThree true true) answeredWorld ⟨1, lit "v"⟩ 0).events =
        before ++ .provision 3 :: after ∧
      verifications before = [] ∧
      ∀ event, event ∈ verifications after ↔ event ∈ verifications
        (scaleNodePool (some (lit "g")) (scaleToThree true false) answeredWorld ⟨1, lit "v"⟩
          0).events := by
  obtain ⟨last, before, after, -, events, quiet, -, -, same⟩ :=
    progressive_verifies_like_direct_iff (some (lit "g")) (scaleToThree true false) ⟨1, lit "v"⟩
      answeredWorld answeredWorld 0 (scaleToThree_scalesUp true false)
      (scaleToThree_scalesUp true false) (by decide)
  refine ⟨before, after, events, quiet, same.mpr (.inr ?_)⟩
  exact ⟨rfl, rfl, fun _ => ⟨fun _ => rfl, fun _ => rfl⟩⟩

/-- With managed GPUs on a pool that is not marked as a GPU pool, the progressive path leaves
out the check of the drivers. -/
theorem managed_pool_drivers_unverified :
    verifications (scaleNodePool (some (lit "g")) (scaleToThree false false) answeredWorld
      ⟨1, lit "v"⟩ 0).events = [.verifyManagedGpuServices, .verifyNvidiaSmi] ∧
    verifications (scaleNodePool (some (lit "g")) (scaleToThree false true) answeredWorld
      ⟨1, lit "v"⟩ 0).events = [.verifyManagedGpuServices] := by
  constructor <;> rfl

end Telescope.Aks
