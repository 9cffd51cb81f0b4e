import Mathlib.Tactic.Linarith
import Telescope.Data.Run
import Telescope.Eks.Client

namespace Telescope.Eks

open Telescope

/-! The crud commands on one node group (`handle_node_pool_operation`), and the
scaling configurations that they send.  Every command runs in its own process,
with a new client. -/

structure PoolArgs where
  vmSize : Text
  capacityType : Text

inductive PoolCommand where
  | create (args : PoolArgs) (nodeCount : Int) (world : CreateWorld)
  | scale (targetCount scaleStepSize : Int) (world : Nat → ScaleStepWorld)
  | delete (world : DeleteWorld)
  | all (args : PoolArgs) (nodeCount targetCount scaleStepSize : Int)
      (created : CreateWorld) (up down : Nat → ScaleStepWorld) (deleted : DeleteWorld)

def checkForProgressiveScaling (scaleStepSize targetCount : Int) : Bool :=
  decide (scaleStepSize ≠ targetCount)

def System.restart (system : System) : System :=
  { system with
    client := { system.client with launchTemplateId := none, vmSize := none } }

/-- `NodePoolCRUD.create_node_pool` -/
def createNodePool (system : System) (name : Text) (args : PoolArgs)
    (nodeCount maxNodeCount : Int) (world : CreateWorld) : Outcome :=
  createNodeGroup system
    { nodeGroupName := name
      instanceType := args.vmSize
      nodeCount := nodeCount
      maxNodeCount := maxNodeCount
      capacityType := args.capacityType }
    world

/-- `NodePoolCRUD.all`: a failed creation stops it, failed scalings do not. -/
def allOperations (system : System) (name : Text) (args : PoolArgs)
    (nodeCount targetCount : Int) (progressive : Bool) (scaleStepSize : Int)
    (created : CreateWorld) (up down : Nat → ScaleStepWorld) (deleted : DeleteWorld) :
    System :=
  let creation := createNodePool system name args nodeCount targetCount created
  match creation.result with
  | .error _ => creation.system
  | .ok () =>
      let scaledUp :=
        scaleNodeGroup creation.system name targetCount progressive scaleStepSize up
      let scaledDown :=
        scaleNodeGroup scaledUp.system name nodeCount progressive scaleStepSize down
      (deleteNodeGroup scaledDown.system name deleted).system

/-- The `create` command leaves `max_node_count` at its default. -/
def handleNodePoolOperation (name : Text) (system : System) : PoolCommand → System
  | .create args nodeCount world =>
      (createNodePool system.restart name args nodeCount 1 world).system
  | .scale targetCount scaleStepSize world =>
      (scaleNodeGroup system.restart name targetCount
        (checkForProgressiveScaling scaleStepSize targetCount) scaleStepSize world).system
  | .delete world => (deleteNodeGroup system.restart name world).system
  | .all args nodeCount targetCount scaleStepSize created up down deleted =>
      allOperations system.restart name args nodeCount targetCount
        (checkForProgressiveScaling scaleStepSize targetCount) scaleStepSize created up
        down deleted

def runCommands (name : Text) (system : System) (commands : List PoolCommand) : System :=
  commands.foldl (handleNodePoolOperation name) system

def ApiCall.scalingConfig? : ApiCall → Option ScalingConfig
  | .createNodegroup params => some params.scalingConfig
  | .updateNodegroupConfig _ config => some config
  | _ => none

def System.sentConfigs (system : System) : List ScalingConfig :=
  system.calls.filterMap ApiCall.scalingConfig?

structure ScalingConfig.WellFormed (config : ScalingConfig) : Prop where
  minDesired : config.minSize ≤ config.desiredSize
  desiredMax : config.desiredSize ≤ config.maxSize
  maxPositive : 1 ≤ config.maxSize

/-- A creation asks for no more nodes than the maximum it sends, and a scaling for
no fewer than the stored minimum. -/
def PoolCommand.Fits (name : Text) (system : System) : PoolCommand → Prop
  | .create _ nodeCount _ => nodeCount ≤ 1
  | .scale targetCount _ _ => ∀ group, system.account.nodeGroups.get? name = some group →
      group.scalingConfig.minSize ≤ targetCount
  | .delete _ => True
  | .all _ nodeCount targetCount _ _ _ _ _ => nodeCount ≤ targetCount

/-! Every sent configuration is well formed, and so is the stored one, whose
minimum is known. -/

structure Held (name : Text) (minimum : Int) (system : System) : Prop where
  sent : ∀ config ∈ system.sentConfigs, config.WellFormed
  stored : ∀ group, system.account.nodeGroups.get? name = some group →
    group.scalingConfig.WellFormed ∧ group.scalingConfig.minSize = minimum

theorem ScalingConfig.WellFormed.scaledTo {config : ScalingConfig}
    (wellFormed : config.WellFormed) (nodeCount : Int)
    (enough : config.minSize ≤ nodeCount) : (config.scaledTo nodeCount).WellFormed := by
  obtain ⟨-, -, positive⟩ := wellFormed
  rw [ScalingConfig.scaledTo]
  split
  · rename_i raise
    exact ⟨enough, le_refl _, by simp only; omega⟩
  · rename_i keep
    exact ⟨enough, not_lt.mp keep, positive⟩

private theorem sentConfigs_send (system : System) (call : ApiCall) :
    (system.send call).sentConfigs = system.sentConfigs ++ call.scalingConfig?.toList := by
  rw [System.sentConfigs, System.send, List.filterMap_append]
  cases sent : call.scalingConfig? with
  | none => simp [sent, System.sentConfigs]
  | some config => simp [sent, System.sentConfigs]

theorem Held.send {name : Text} {minimum : Int} {system : System}
    (held : Held name minimum system) (call : ApiCall)
    (wellFormed : ∀ config, call.scalingConfig? = some config → config.WellFormed) :
    Held name minimum (system.send call) where
  sent := by
    intro config member
    rw [sentConfigs_send, List.mem_append, Option.mem_toList] at member
    rcases member with early | last
    · exact held.sent config early
    · exact wellFormed config last
  stored := held.stored

/-- Storing a well formed configuration under the name. -/
theorem Held.store {name : Text} {old minimum : Int} {system : System}
    (held : Held name old system) (account : Account) (group : NodeGroup)
    (stored : account.nodeGroups = system.account.nodeGroups.put name group)
    (wellFormed : group.scalingConfig.WellFormed)
    (same : group.scalingConfig.minSize = minimum) :
    Held name minimum { system with account := account } where
  sent := held.sent
  stored := by
    intro other found
    rw [stored, Store.get?_put_self] at found
    rw [← Option.some.inj found]
    exact ⟨wellFormed, same⟩

theorem Account.updateNodegroupConfig_ok {account updated : Account} {name : Text}
    {config : ScalingConfig}
    (accepted : account.updateNodegroupConfig name config = .ok updated) :
    ∃ group, account.nodeGroups.get? name = some group ∧
      updated.nodeGroups = account.nodeGroups.put name
        { group with scalingConfig := config } := by
  rw [Account.updateNodegroupConfig] at accepted
  split at accepted
  · simp at accepted
  · rename_i group found
    rw [← Except.ok.inj accepted]
    exact ⟨group, found, rfl⟩

theorem Held.updateScaling {name : Text} {minimum : Int} {system : System}
    (held : Held name minimum system) (group : NodeGroup)
    (found : system.account.nodeGroups.get? name = some group) (nodeCount : Int)
    (enough : minimum ≤ nodeCount) (world : ScaleStepWorld) :
    Held name minimum (updateScaling system name group nodeCount world).system := by
  obtain ⟨wellFormed, same⟩ := held.stored group found
  have scaled := wellFormed.scaledTo nodeCount (by omega)
  have sent := held.send
    (.updateNodegroupConfig name (group.scalingConfig.scaledTo nodeCount)) (by
      intro config equation
      rw [← Option.some.inj equation]
      exact scaled)
  rw [Eks.updateScaling]
  cases world.updated with
  | error raised => exact sent
  | ok done =>
      simp only
      split
      · exact sent
      · rename_i account accepted
        obtain ⟨stored, storedFound, put⟩ := Account.updateNodegroupConfig_ok accepted
        exact sent.store account _ put scaled same

theorem readNodeGroup_ok {system : System} {name : Text} {described : Except Error Unit}
    {group : NodeGroup} (read : readNodeGroup system name described = .ok group) :
    system.account.nodeGroups.get? name = some group := by
  cases described with
  | error raised => simp [readNodeGroup] at read
  | ok done =>
      rw [readNodeGroup, Account.describeNodegroup] at read
      split at read
      · rename_i stored found
        rw [found, Except.ok.inj read]
      · simp at read

theorem Held.scaleDirectly {name : Text} {minimum : Int} {system : System}
    (held : Held name minimum system) (nodeCount : Int) (enough : minimum ≤ nodeCount)
    (world : ScaleStepWorld) :
    Held name minimum (scaleDirectly system name nodeCount world).system := by
  rw [Eks.scaleDirectly]
  split
  · exact held
  · rename_i group read
    exact held.updateScaling group (readNodeGroup_ok read) nodeCount enough world

theorem Held.runSteps {name : Text} {minimum : Int} (world : Nat → ScaleStepWorld)
    (steps : List Int) (enough : ∀ count ∈ steps, minimum ≤ count) {system : System}
    (held : Held name minimum system) (i : Nat) :
    Held name minimum (runSteps system name world i steps).system := by
  induction steps generalizing system i with
  | nil => exact held
  | cons count rest induction =>
      have next := held.scaleDirectly count (enough count List.mem_cons_self) (world i)
      rw [Eks.runSteps]
      split
      · exact next
      · exact induction (fun other member =>
          enough other (List.mem_cons_of_mem count member)) next (i + 1)

/-! The steps of a progressive scaling stay between the current and the target
count. -/

private theorem le_of_mem_pyRange {start stop step : Int} (up : 0 < step) {count : Int}
    (member : count ∈ pyRange start stop step) : start ≤ count := by
  obtain ⟨i, -, rfl⟩ := List.mem_map.mp member
  have advance : 0 ≤ (i : Int) * step :=
    Int.mul_nonneg (Int.natCast_nonneg i) (Int.le_of_lt up)
  omega

private theorem pyRange_nil_of_down {start stop step : Int} (down : step < 0)
    (before : start ≤ stop) : pyRange start stop step = [] := by
  have none : (start - stop - step - 1) / (-step) ≤ 0 := by
    have small : start - stop - step - 1 < -step := by omega
    rcases lt_or_ge (start - stop - step - 1) 0 with negative | nonnegative
    · exact Int.le_of_lt (Int.ediv_neg_of_neg_of_pos negative (by omega))
    · rw [Int.ediv_eq_zero_of_lt nonnegative small]
  rw [pyRange, if_neg (not_lt.mpr (Int.le_of_lt down)), Int.toNat_eq_zero.mpr none]
  rfl

private theorem progressiveSteps_ge {current target stepSize : Int} {steps : List Int}
    (planned : progressiveSteps current target stepSize = .ok steps) :
    ∀ count ∈ steps, min current target ≤ count := by
  rw [progressiveSteps] at planned
  split at planned
  · simp at planned
  · rename_i nonzero
    have reached : ∀ count ∈ (if current < target then
        (pyRange (current + stepSize) (target + 1) stepSize).map fun count =>
          min count target
      else
        (pyRange (current - stepSize) (target - 1) (-stepSize)).map fun count =>
          max count target), min current target ≤ count := by
      intro count member
      split at member
      · obtain ⟨raw, inRange, rfl⟩ := List.mem_map.mp member
        rcases lt_or_gt_of_ne nonzero with down | up
        · rw [pyRange_nil_of_down down (by omega)] at inRange
          exact absurd inRange List.not_mem_nil
        · have above := le_of_mem_pyRange up inRange
          omega
      · obtain ⟨raw, -, rfl⟩ := List.mem_map.mp member
        omega
    simp only at planned
    split at planned
    · simp at planned
    · have stepsEquation := Except.ok.inj planned
      intro count member
      rw [← stepsEquation] at member
      split at member
      · rcases List.mem_append.mp member with early | last
        · exact reached count early
        · rw [List.mem_singleton.mp last]
          exact min_le_right _ _
      · exact reached count member

theorem Held.scaleNodeGroup {name : Text} {minimum : Int} {system : System}
    (held : Held name minimum system) (nodeCount : Int) (enough : minimum ≤ nodeCount)
    (progressive : Bool) (scaleStepSize : Int) (world : Nat → ScaleStepWorld) :
    Held name minimum
      (scaleNodeGroup system name nodeCount progressive scaleStepSize world).system := by
  rw [Eks.scaleNodeGroup]
  split
  · exact held
  · rename_i group read
    have found := readNodeGroup_ok read
    obtain ⟨wellFormed, same⟩ := held.stored group found
    simp only
    split
    · split
      · exact held
      · rename_i steps planned
        apply held.runSteps
        intro count member
        have above := progressiveSteps_ge planned count member
        have current := wellFormed.minDesired
        omega
    · exact held.updateScaling group found nodeCount enough (world 0)

/-! Creations and deletions. -/

private theorem Account.createNodegroup_ok {account created : Account} {params : CreateParams}
    (accepted : account.createNodegroup params = .ok created) :
    created.nodeGroups = account.nodeGroups.put params.nodegroupName
      { scalingConfig := params.scalingConfig
        launchTemplate := some params.launchTemplate } := by
  rw [Account.createNodegroup] at accepted
  split at accepted
  · simp at accepted
  · split at accepted
    · simp at accepted
    · rw [← Except.ok.inj accepted]
      rfl

theorem Held.withNewTemplate {name : Text} {minimum : Int} {system : System}
    (held : Held name minimum system) (template : Text) (data : LaunchTemplateData) :
    Held name minimum (system.withNewTemplate template data) := by
  have created : Held name minimum
      { system with account := system.account.createLaunchTemplate template data } :=
    ⟨held.sent, held.stored⟩
  have sent := created.send (.createLaunchTemplate ⟨system.account.nextTemplate⟩)
    (by simp [ApiCall.scalingConfig?])
  exact ⟨sent.sent, sent.stored⟩

theorem Held.prepareNodeGroup {name : Text} {minimum : Int} {system ready : System}
    {args : CreateArgs} {world : CreateWorld} {result : Except Error CreateParams}
    (held : Held name minimum system)
    (prepared : prepareNodeGroup system args world = (result, ready)) :
    Held name minimum ready := by
  have noted : Held name minimum (system.noteVmSize args) := ⟨held.sent, held.stored⟩
  cases result with
  | error raised =>
      rw [prepareNodeGroup_error prepared]
      exact noted
  | ok params =>
      obtain ⟨amiType, placement, id, -, created, -⟩ := prepareNodeGroup_ok prepared
      rcases createLaunchTemplate_ok created with ⟨-, same⟩ | ⟨-, -, maxNic, same⟩
      · rw [same]
        exact ⟨noted.sent, noted.stored⟩
      · rw [same]
        exact noted.withNewTemplate _ _

/-- A creation that fits keeps what was held, and when it returns the new group
holds its own count. -/
theorem Held.createNodeGroup {minimum : Int} {system : System} (args : CreateArgs)
    (held : Held args.nodeGroupName minimum system)
    (fits : args.nodeCount ≤ max args.maxNodeCount 1) (world : CreateWorld) :
    (∃ kept, Held args.nodeGroupName kept (createNodeGroup system args world).system) ∧
      ((createNodeGroup system args world).result = .ok () →
        Held args.nodeGroupName args.nodeCount
          (createNodeGroup system args world).system) := by
  rw [Eks.createNodeGroup]
  split
  · rename_i raised ready prepared
    refine ⟨⟨minimum, held.prepareNodeGroup prepared⟩, ?_⟩
    intro returned
    simp at returned
  · rename_i params ready prepared
    obtain ⟨amiType, placement, id, -, -, paramsEquation⟩ := prepareNodeGroup_ok prepared
    have wellFormed : params.scalingConfig.WellFormed := by
      rw [paramsEquation]
      exact ⟨le_refl _, fits, le_max_right _ _⟩
    have same : params.scalingConfig.minSize = args.nodeCount := by
      rw [paramsEquation]
      rfl
    have named : params.nodegroupName = args.nodeGroupName := by
      rw [paramsEquation]
      rfl
    have sent := (held.prepareNodeGroup prepared).send (.createNodegroup params) (by
      intro config equation
      rw [← Option.some.inj equation]
      exact wellFormed)
    rw [sendCreateNodegroup]
    cases world.groupAccepted with
    | error raised =>
        refine ⟨⟨minimum, sent⟩, ?_⟩
        intro returned
        simp at returned
    | ok done =>
        simp only
        split
        · refine ⟨⟨minimum, sent⟩, ?_⟩
          intro returned
          simp at returned
        · rename_i account accepted
          have stored := Account.createNodegroup_ok accepted
          rw [named] at stored
          have created := sent.store account _ stored wellFormed same
          exact ⟨⟨args.nodeCount, created⟩, fun _ => created⟩

theorem Held.sendDeleteNodegroup {name : Text} {minimum : Int} {system : System}
    (held : Held name minimum system) (world : DeleteWorld) :
    Held name minimum (sendDeleteNodegroup system name world).system := by
  have sent := held.send (.deleteNodegroup name) (by simp [ApiCall.scalingConfig?])
  rw [Eks.sendDeleteNodegroup]
  split
  · exact sent
  · rename_i account deleted
    refine ⟨sent.sent, ?_⟩
    intro group found
    rw [Account.deleteNodegroup] at deleted
    split at deleted
    · simp at deleted
    · rw [← Except.ok.inj deleted] at found
      simp only [Account.eraseNodegroup, Store.get?_erase_self] at found
      exact absurd found (Option.some_ne_none group).symm

theorem Held.deleteNodeGroup {name : Text} {minimum : Int} {system : System}
    (held : Held name minimum system) (world : DeleteWorld) :
    Held name minimum (deleteNodeGroup system name world).system := by
  rw [Eks.deleteNodeGroup]
  split
  · exact held
  · split
    · exact held
    · split
      · exact held.sendDeleteNodegroup world
      · rename_i id remembered
        have sent := held.send (.deleteLaunchTemplate id) (by simp [ApiCall.scalingConfig?])
        simp only
        split
        · exact sent
        · rename_i account deleted
          apply Held.sendDeleteNodegroup
          rw [Account.deleteLaunchTemplate] at deleted
          split at deleted
          · rw [← Except.ok.inj deleted]
            exact ⟨sent.sent, sent.stored⟩
          · simp at deleted

theorem Held.allOperations {name : Text} {minimum : Int} {system : System}
    (held : Held name minimum system) (args : PoolArgs) {nodeCount targetCount : Int}
    (fits : nodeCount ≤ targetCount) (progressive : Bool) (scaleStepSize : Int)
    (created : CreateWorld) (up down : Nat → ScaleStepWorld) (deleted : DeleteWorld) :
    ∃ kept, Held name kept (allOperations system name args nodeCount targetCount
      progressive scaleStepSize created up down deleted) := by
  have create := Held.createNodeGroup
    ⟨name, args.vmSize, nodeCount, targetCount, args.capacityType⟩ held
    (fits.trans (le_max_left _ _)) created
  rw [Eks.allOperations]
  simp only [createNodePool]
  split
  · exact create.1
  · rename_i returned
    have started := create.2 returned
    have scaledUp := started.scaleNodeGroup targetCount fits progressive scaleStepSize up
    have scaledDown := scaledUp.scaleNodeGroup nodeCount (le_refl _) progressive
      scaleStepSize down
    exact ⟨nodeCount, scaledDown.deleteNodeGroup deleted⟩

/-! One command, and a run of commands. -/

theorem Held.command {name : Text} {minimum : Int} {system : System}
    (held : Held name minimum system) (command : PoolCommand)
    (fits : command.Fits name system) :
    ∃ kept, Held name kept (handleNodePoolOperation name system command) := by
  have restarted : Held name minimum system.restart := ⟨held.sent, held.stored⟩
  cases command with
  | create args nodeCount world =>
      have create := Held.createNodeGroup
        ⟨name, args.vmSize, nodeCount, 1, args.capacityType⟩ restarted
        (fits.trans (le_max_left _ _)) world
      exact create.1
  | scale targetCount scaleStepSize world =>
      cases found : system.account.nodeGroups.get? name with
      | none =>
          refine ⟨targetCount, ?_⟩
          apply Held.scaleNodeGroup _ targetCount (le_refl _)
          refine ⟨held.sent, ?_⟩
          intro group stored
          exact absurd (found.symm.trans stored) (Option.some_ne_none group).symm
      | some group =>
          have enough := fits group found
          rw [(held.stored group found).2] at enough
          exact ⟨minimum, restarted.scaleNodeGroup targetCount enough _ scaleStepSize world⟩
  | delete world => exact ⟨minimum, restarted.deleteNodeGroup world⟩
  | all args nodeCount targetCount scaleStepSize created up down deleted =>
      exact restarted.allOperations args fits _ scaleStepSize created up down deleted

/-- Every command of the run fits the state it is issued in. -/
abbrev FittingRun (name : Text) (start : System) (commands : List PoolCommand) : Prop :=
  AllowedRun (handleNodePoolOperation name) (PoolCommand.Fits name) start commands

/-- In a run of fitting commands on a group that did not exist before, every scaling
configuration ever sent is well formed. -/
theorem fitting_run_sends_wellFormed_configs (name : Text) (account : Account)
    (client : EksClient) (commands : List PoolCommand)
    (absent : account.nodeGroups.get? name = none)
    (fits : FittingRun name ⟨account, client, []⟩ commands) :
    ∀ config ∈ (runCommands name ⟨account, client, []⟩ commands).sentConfigs,
      config.WellFormed := by
  have initial : ∃ minimum, Held name minimum ⟨account, client, []⟩ := by
    refine ⟨0, ?_, ?_⟩
    · intro config member
      exact absurd member List.not_mem_nil
    · intro group found
      exact absurd (absent.symm.trans found) (Option.some_ne_none group).symm
  obtain ⟨kept, final⟩ := fits.invariant (fun state => ∃ kept, Held name kept state)
    initial fun _ command ⟨_, held⟩ fitting => held.command command fitting
  exact final.sent

theorem create_then_scale_sends_wellFormed_configs :
    FittingRun (lit "pool") ⟨.empty, .withOneSubnet, []⟩
        [.create ⟨lit "m5.large", lit "ON_DEMAND"⟩ 1 (.smooth []),
          .scale 3 1 fun _ => ⟨.ok (), .ok (), .ok ()⟩] ∧
      ∀ config ∈ (runCommands (lit "pool") ⟨.empty, .withOneSubnet, []⟩
        [.create ⟨lit "m5.large", lit "ON_DEMAND"⟩ 1 (.smooth []),
          .scale 3 1 fun _ => ⟨.ok (), .ok (), .ok ()⟩]).sentConfigs,
        config.WellFormed := by
  have fits : FittingRun (lit "pool") ⟨.empty, .withOneSubnet, []⟩
      [.create ⟨lit "m5.large", lit "ON_DEMAND"⟩ 1 (.smooth []),
        .scale 3 1 fun _ => ⟨.ok (), .ok (), .ok ()⟩] := by
    refine allowedRun_cons.mpr ⟨le_refl _, allowedRun_cons.mpr ⟨?_, allowedRun_nil _⟩⟩
    intro group found
    rw [← Option.some.inj found]
    decide
  exact ⟨fits, fitting_run_sends_wellFormed_configs _ _ _ _ rfl fits⟩

/-- Five nodes are created with the default maximum of one. -/
theorem create_five_sends_small_maximum :
    ∃ config ∈ (runCommands (lit "pool") ⟨.empty, .withOneSubnet, []⟩
      [.create ⟨lit "m5.large", lit "ON_DEMAND"⟩ 5 (.smooth [])]).sentConfigs,
      ¬ config.WellFormed := by
  refine ⟨⟨5, 1, 5⟩, List.mem_singleton.mpr rfl, ?_⟩
  intro wellFormed
  exact absurd wellFormed.desiredMax (by decide)

end Telescope.Eks
