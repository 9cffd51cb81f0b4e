import Telescope.Eks.Account
import Telescope.Text.CharClass

namespace Telescope.Eks

open Telescope

/-! `EKSClient`: creating, scaling and deleting node groups.  What AWS, the
Kubernetes waits and the environment answer is an input of each call; the account
keeps what was stored. -/

structure Subnet where
  subnetId : Text
  availabilityZone : Text
  publicSubnet : Bool

structure EksClient where
  clusterName : Text
  subnetMap : List Subnet
  launchTemplateId : Option TemplateId
  vmSize : Option Text

def EksClient.subnetAzs (client : EksClient) : List Text :=
  (client.subnetMap.map Subnet.availabilityZone).dedup

inductive ApiCall where
  | createLaunchTemplate (id : TemplateId)
  | createNodegroup (params : CreateParams)
  | updateNodegroupConfig (name : Text) (config : ScalingConfig)
  | deleteLaunchTemplate (id : TemplateId)
  | deleteNodegroup (name : Text)

/-- The account, the client and the mutating calls sent so far. -/
structure System where
  account : Account
  client : EksClient
  calls : List ApiCall

def System.send (system : System) (call : ApiCall) : System :=
  { system with calls := system.calls ++ [call] }

structure Outcome where
  system : System
  result : Except Error Unit

inductive ReservationState where
  | active
  | other
  deriving DecidableEq

structure CapacityReservation where
  reservationId : Text
  idNonempty : reservationId ≠ []
  instanceType : Text
  availabilityZone : Text
  state : ReservationState
  totalInstanceCount : Int
  availableInstanceCount : Int

structure CreateArgs where
  nodeGroupName : Text
  instanceType : Text
  nodeCount : Int
  maxNodeCount : Int
  capacityType : Text

/-- The answers that one `create_node_group` call gets: the AMI type for the
cluster version, the capacity reservations, the template lookup apart from its
outcome, the network cards of the instance type, the cluster read, the two
creations apart from their outcome, and everything after the creation. -/
structure CreateWorld where
  amiType : Except Error Text
  reservations : Except Error (List CapacityReservation)
  lookup : Except Error Unit
  instanceTypes : Except Error (List (Option Nat))
  clusterData : Except Error Unit
  templateAccepted : Except Error Unit
  groupAccepted : Except Error Unit
  settled : Except Error Unit

def capacityBlock : Text := lit "CAPACITY_BLOCK"

/-- EC2 applies the filters of the request. -/
def describeCapacityReservations (reservations : List CapacityReservation)
    (instanceType : Text) (availabilityZones : List Text) : List CapacityReservation :=
  reservations.filter fun reservation =>
    reservation.instanceType = instanceType ∧
      reservation.availabilityZone ∈ availabilityZones ∧ reservation.state = .active

/-- `none` also when EC2 raises. -/
def getCapacityReservationId (world : CreateWorld) (instanceType : Text)
    (targetCount : Int) (availabilityZones : List Text) : Option CapacityReservation :=
  match world.reservations with
  | .error _ => none
  | .ok reservations =>
      (describeCapacityReservations reservations instanceType availabilityZones).find?
        fun reservation => ¬ reservation.availableInstanceCount < targetCount

/-- The reservation to use, if any, and the subnets to pass. -/
structure Placement where
  reservation : Option CapacityReservation
  subnets : List Text

def selectPlacement (client : EksClient) (args : CreateArgs) (world : CreateWorld) :
    Except Error Placement :=
  if args.capacityType = capacityBlock then
    match getCapacityReservationId world args.instanceType args.maxNodeCount
        client.subnetAzs with
    | none => .error .systemExit
    | some reservation =>
        let filteredSubnets := (client.subnetMap.filter fun subnet =>
          subnet.availabilityZone = reservation.availabilityZone ∧
            ¬ subnet.publicSubnet).map Subnet.subnetId
        if filteredSubnets.isEmpty then
          .error ⟨.external, lit "No subnets available in capacity reservation AZ " ++
            reservation.availabilityZone⟩
        else .ok { reservation := some reservation, subnets := filteredSubnets }
  else
    .ok
      { reservation := none
        subnets := (client.subnetMap.filter fun subnet =>
          ¬ subnet.publicSubnet).map Subnet.subnetId }

def launchTemplateName (client : EksClient) (args : CreateArgs) : Text :=
  (client.clusterName ++ lit "-" ++ args.nodeGroupName ++ lit "-" ++
    args.instanceType).take 128

def networkInterfaces (maxNic : Nat) : List NetworkInterface :=
  (List.range maxNic).map fun i =>
    { networkCardIndex := i, deviceIndex := if i = 0 then 0 else 1 }

def launchTemplateData (args : CreateArgs) (reservationId : Option Text) (maxNic : Nat) :
    LaunchTemplateData :=
  let reserved := if args.capacityType = capacityBlock then
    reservationId.filter fun id => id ≠ [] else none
  { instanceType := args.instanceType
    marketType := reserved.map fun _ => lit "capacity-block"
    capacityReservationId := reserved
    networkInterfaces := networkInterfaces maxNic }

/-- `self.launch_template_id = id` -/
def System.remember (system : System) (id : TemplateId) : System :=
  { system with client := { system.client with launchTemplateId := some id } }

/-- What a new template needs from AWS: the network cards of the instance type. -/
def templateNetworkCards (args : CreateArgs) (world : CreateWorld) : Except Error Nat :=
  match world.instanceTypes with
  | .error raised => .error raised
  | .ok [] => .error (.valueError (lit "Instance type " ++ args.instanceType ++
      lit " not found"))
  | .ok (details :: _) =>
      match world.clusterData with
      | .error raised => .error raised
      | .ok () =>
          match world.templateAccepted with
          | .error raised => .error raised
          | .ok () => .ok (details.getD 1)

/-- `_create_launch_template`: reuse by name, else create; every failure exits the
process. -/
def createLaunchTemplate (system : System) (args : CreateArgs)
    (reservationId : Option Text) (world : CreateWorld) :
    Except Error TemplateId × System :=
  match world.lookup with
  | .error _ => (.error .systemExit, system)
  | .ok () =>
      match system.account.describeLaunchTemplates
          (launchTemplateName system.client args) with
      | some existing => (.ok existing, system.remember existing)
      | none =>
          match templateNetworkCards args world with
          | .error _ => (.error .systemExit, system)
          | .ok maxNic =>
              let id : TemplateId := ⟨system.account.nextTemplate⟩
              let account := system.account.createLaunchTemplate
                (launchTemplateName system.client args)
                (launchTemplateData args reservationId maxNic)
              (.ok id, (({ system with account := account }).send
                (.createLaunchTemplate id)).remember id)

def createParams (args : CreateArgs) (amiType : Text) (subnets : List Text)
    (id : TemplateId) : CreateParams :=
  { nodegroupName := args.nodeGroupName
    scalingConfig :=
      { minSize := args.nodeCount
        maxSize := max args.maxNodeCount 1
        desiredSize := args.nodeCount }
    capacityType := args.capacityType
    amiType := amiType
    subnets := subnets
    launchTemplate := { id := id, version := 1 } }

def sendCreateNodegroup (system : System) (params : CreateParams) (world : CreateWorld) :
    Outcome :=
  let sent := system.send (.createNodegroup params)
  match world.groupAccepted with
  | .error raised => { system := sent, result := .error raised }
  | .ok () =>
      match system.account.createNodegroup params with
      | .error raised => { system := sent, result := .error raised }
      | .ok account =>
          { system := { sent with account := account }, result := world.settled }

/-- `create_node_group` up to the call of `eks.create_nodegroup`. -/
def prepareNodeGroup (system : System) (args : CreateArgs) (world : CreateWorld) :
    Except Error CreateParams × System :=
  let system :=
    { system with client := { system.client with vmSize := some args.instanceType } }
  match world.amiType with
  | .error raised => (.error raised, system)
  | .ok amiType =>
      match selectPlacement system.client args world with
      | .error raised => (.error raised, system)
      | .ok placement =>
          match createLaunchTemplate system args
              (placement.reservation.map CapacityReservation.reservationId) world with
          | (.error raised, system) => (.error raised, system)
          | (.ok id, system) => (.ok (createParams args amiType placement.subnets id), system)

def createNodeGroup (system : System) (args : CreateArgs) (world : CreateWorld) :
    Outcome :=
  match prepareNodeGroup system args world with
  | (.error raised, system) => { system := system, result := .error raised }
  | (.ok params, system) => sendCreateNodegroup system params world

/-- The answers that one scaling request gets. -/
structure ScaleStepWorld where
  described : Except Error Unit
  updated : Except Error Unit
  settled : Except Error Unit

/-- `scaling_config` of the update: only the desired size moves, and the maximum up
to it. -/
def ScalingConfig.scaledTo (config : ScalingConfig) (nodeCount : Int) : ScalingConfig :=
  { config with
    desiredSize := nodeCount
    maxSize := if config.maxSize < nodeCount then nodeCount else config.maxSize }

def updateScaling (system : System) (name : Text) (group : NodeGroup) (nodeCount : Int)
    (world : ScaleStepWorld) : Outcome :=
  let config := group.scalingConfig.scaledTo nodeCount
  let sent := system.send (.updateNodegroupConfig name config)
  match world.updated with
  | .error raised => { system := sent, result := .error raised }
  | .ok () =>
      match system.account.updateNodegroupConfig name config with
      | .error raised => { system := sent, result := .error raised }
      | .ok account =>
          { system := { sent with account := account }, result := world.settled }

def readNodeGroup (system : System) (name : Text) (described : Except Error Unit) :
    Except Error NodeGroup :=
  match described with
  | .error raised => .error raised
  | .ok () => system.account.describeNodegroup name

/-- `scale_node_group` without progressive steps. -/
def scaleDirectly (system : System) (name : Text) (nodeCount : Int)
    (world : ScaleStepWorld) : Outcome :=
  match readNodeGroup system name world.described with
  | .error raised => { system := system, result := .error raised }
  | .ok group => updateScaling system name group nodeCount world

/-- Python's `range(start, stop, step)` for a nonzero step. -/
def pyRange (start stop step : Int) : List Int :=
  let count := if 0 < step then (stop - start + step - 1) / step
    else (start - stop - step - 1) / (-step)
  (List.range count.toNat).map fun i : Nat => start + i * step

/-- The counts that `_progressive_scale` requests one after the other. -/
def progressiveSteps (current target stepSize : Int) : Except Error (List Int) :=
  if stepSize = 0 then .error (.valueError (lit "range() arg 3 must not be zero"))
  else
    let steps := if current < target then
        (pyRange (current + stepSize) (target + 1) stepSize).map fun count =>
          min count target
      else
        (pyRange (current - stepSize) (target - 1) (-stepSize)).map fun count =>
          max count target
    match steps.getLast? with
    | none => .error ⟨.indexError, lit "list index out of range"⟩
    | some last => .ok (if last ≠ target then steps ++ [target] else steps)

def runSteps (system : System) (name : Text) (world : Nat → ScaleStepWorld) :
    Nat → List Int → Outcome
  | _, [] => { system := system, result := .ok () }
  | i, count :: rest =>
      let outcome := scaleDirectly system name count (world i)
      match outcome.result with
      | .error raised => { system := outcome.system, result := .error raised }
      | .ok () => runSteps outcome.system name world (i + 1) rest

def scaleNodeGroup (system : System) (name : Text) (nodeCount : Int)
    (progressive : Bool) (scaleStepSize : Int) (world : Nat → ScaleStepWorld) : Outcome :=
  match readNodeGroup system name (world 0).described with
  | .error raised => { system := system, result := .error raised }
  | .ok group =>
      let current := group.scalingConfig.desiredSize
      if progressive ∧ scaleStepSize < |nodeCount - current| then
        match progressiveSteps current nodeCount scaleStepSize with
        | .error raised => { system := system, result := .error raised }
        | .ok steps => runSteps system name world 1 steps
      else updateScaling system name group nodeCount (world 0)

structure DeleteWorld where
  clusterData : Except Error Unit
  settled : Except Error Unit

def sendDeleteNodegroup (system : System) (name : Text) (world : DeleteWorld) : Outcome :=
  let sent := system.send (.deleteNodegroup name)
  match system.account.deleteNodegroup name with
  | .error raised => { system := sent, result := .error raised }
  | .ok account => { system := { sent with account := account }, result := world.settled }

def deleteNodeGroup (system : System) (name : Text) (world : DeleteWorld) : Outcome :=
  match system.account.describeNodegroup name with
  | .error raised => { system := system, result := .error raised }
  | .ok _ =>
      match world.clusterData with
      | .error raised => { system := system, result := .error raised }
      | .ok () =>
          match system.client.launchTemplateId with
          | none => sendDeleteNodegroup system name world
          | some id =>
              let sent := system.send (.deleteLaunchTemplate id)
              match system.account.deleteLaunchTemplate id with
              | .error raised => { system := sent, result := .error raised }
              | .ok account => sendDeleteNodegroup { sent with account := account } name world

/-! What the preparation of a node group leaves behind. -/

/-- The system with a template of this name newly created and remembered. -/
def System.withNewTemplate (system : System) (name : Text) (data : LaunchTemplateData) :
    System :=
  (({ system with account := system.account.createLaunchTemplate name data }).send
    (.createLaunchTemplate ⟨system.account.nextTemplate⟩)).remember
      ⟨system.account.nextTemplate⟩

private theorem createLaunchTemplate_error {system ready : System} {args : CreateArgs}
    {reservationId : Option Text} {world : CreateWorld} {raised : Error}
    (stopped : createLaunchTemplate system args reservationId world =
      (.error raised, ready)) : ready = system := by
  rw [createLaunchTemplate] at stopped
  split at stopped
  · exact (Prod.mk.inj stopped).2.symm
  · split at stopped
    · simp at stopped
    · split at stopped
      · exact (Prod.mk.inj stopped).2.symm
      · simp at stopped

theorem createLaunchTemplate_ok {system ready : System} {args : CreateArgs}
    {reservationId : Option Text} {world : CreateWorld} {id : TemplateId}
    (prepared : createLaunchTemplate system args reservationId world = (.ok id, ready)) :
    (system.account.describeLaunchTemplates (launchTemplateName system.client args) =
        some id ∧ ready = system.remember id) ∨
      (system.account.describeLaunchTemplates (launchTemplateName system.client args) =
          none ∧ id = ⟨system.account.nextTemplate⟩ ∧
        ∃ maxNic, ready = system.withNewTemplate (launchTemplateName system.client args)
          (launchTemplateData args reservationId maxNic)) := by
  rw [createLaunchTemplate] at prepared
  split at prepared
  · simp at prepared
  · split at prepared
    · rename_i existing found
      obtain ⟨idEquation, readyEquation⟩ := Prod.mk.inj prepared
      rw [Except.ok.injEq] at idEquation
      rw [← idEquation]
      exact .inl ⟨found, readyEquation.symm⟩
    · rename_i absent
      split at prepared
      · simp at prepared
      · rename_i maxNic cards
        obtain ⟨idEquation, readyEquation⟩ := Prod.mk.inj prepared
        rw [Except.ok.injEq] at idEquation
        exact .inr ⟨absent, idEquation.symm, maxNic, readyEquation.symm⟩

/-- The client with the instance type noted for later records. -/
def System.noteVmSize (system : System) (args : CreateArgs) : System :=
  { system with client := { system.client with vmSize := some args.instanceType } }

theorem prepareNodeGroup_error {system ready : System} {args : CreateArgs}
    {world : CreateWorld} {raised : Error}
    (stopped : prepareNodeGroup system args world = (.error raised, ready)) :
    ready = system.noteVmSize args := by
  rw [prepareNodeGroup] at stopped
  split at stopped
  · exact (Prod.mk.inj stopped).2.symm
  · split at stopped
    · exact (Prod.mk.inj stopped).2.symm
    · split at stopped
      · rename_i failed
        rw [← (Prod.mk.inj stopped).2]
        exact createLaunchTemplate_error failed
      · simp at stopped

theorem prepareNodeGroup_ok {system ready : System} {args : CreateArgs}
    {world : CreateWorld} {params : CreateParams}
    (prepared : prepareNodeGroup system args world = (.ok params, ready)) :
    ∃ amiType placement id,
      selectPlacement system.client args world = .ok placement ∧
        createLaunchTemplate (system.noteVmSize args) args
          (placement.reservation.map CapacityReservation.reservationId) world =
            (.ok id, ready) ∧
        params = createParams args amiType placement.subnets id := by
  rw [prepareNodeGroup] at prepared
  split at prepared
  · simp at prepared
  · rename_i amiType ami
    split at prepared
    · simp at prepared
    · rename_i placement placed
      split at prepared
      · simp at prepared
      · rename_i id system' created
        obtain ⟨paramsEquation, readyEquation⟩ := Prod.mk.inj prepared
        rw [Except.ok.injEq] at paramsEquation
        rw [readyEquation] at created
        exact ⟨amiType, placement, id, placed, created, paramsEquation.symm⟩

/-- Every call of a creation is answered without error. -/
def CreateWorld.smooth (reservations : List CapacityReservation) : CreateWorld :=
  { amiType := .ok (lit "AL2023_x86_64_STANDARD")
    reservations := .ok reservations
    lookup := .ok ()
    instanceTypes := .ok [some 1]
    clusterData := .ok ()
    templateAccepted := .ok ()
    groupAccepted := .ok ()
    settled := .ok () }

def EksClient.withOneSubnet : EksClient :=
  { clusterName := lit "eks"
    subnetMap := [⟨lit "subnet-1", lit "us-east-2a", false⟩]
    launchTemplateId := none
    vmSize := none }

end Telescope.Eks
