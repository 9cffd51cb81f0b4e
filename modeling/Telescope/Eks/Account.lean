import Telescope.Data.Exception
import Telescope.Data.Store

namespace Telescope.Eks

open Telescope

/-! The part of an AWS account that the EKS client reads and writes.  A call
succeeds exactly when the object it names exists, or for a creation is absent, and
EC2 never hands out a launch template id twice. -/

structure TemplateId where
  index : Nat
  deriving DecidableEq

structure NetworkInterface where
  networkCardIndex : Nat
  deviceIndex : Nat
  deriving DecidableEq

structure LaunchTemplateData where
  instanceType : Text
  marketType : Option Text
  capacityReservationId : Option Text
  networkInterfaces : List NetworkInterface
  deriving DecidableEq

structure LaunchTemplate where
  name : Text
  versions : List (Nat × LaunchTemplateData)

def LaunchTemplate.version? (template : LaunchTemplate) (number : Nat) :
    Option LaunchTemplateData :=
  (template.versions.find? fun version => version.1 = number).map Prod.snd

structure ScalingConfig where
  minSize : Int
  maxSize : Int
  desiredSize : Int
  deriving DecidableEq

structure TemplateSpec where
  id : TemplateId
  version : Nat
  deriving DecidableEq

/-- The arguments of `eks.create_nodegroup`. -/
structure CreateParams where
  nodegroupName : Text
  scalingConfig : ScalingConfig
  capacityType : Text
  amiType : Text
  subnets : List Text
  launchTemplate : TemplateSpec
  deriving DecidableEq

structure NodeGroup where
  scalingConfig : ScalingConfig
  launchTemplate : Option TemplateSpec

structure Account where
  launchTemplates : Store TemplateId LaunchTemplate
  nodeGroups : Store Text NodeGroup
  nextTemplate : Nat
  templatesIssued : ∀ id template,
    launchTemplates.get? id = some template → id.index < nextTemplate
  attachedIssued : ∀ name group spec, nodeGroups.get? name = some group →
    group.launchTemplate = some spec → spec.id.index < nextTemplate

namespace Account

def empty : Account where
  launchTemplates := .empty
  nodeGroups := .empty
  nextTemplate := 0
  templatesIssued := by
    intro id template found
    exact absurd found (Option.some_ne_none template).symm
  attachedIssued := by
    intro name group spec found
    exact absurd found (Option.some_ne_none group).symm

def resourceNotFound : Error := .clientError (lit "ResourceNotFoundException")

def describeNodegroup (account : Account) (name : Text) : Except Error NodeGroup :=
  match account.nodeGroups.get? name with
  | some group => .ok group
  | none => .error resourceNotFound

/-- The id of a launch template of this name. -/
def describeLaunchTemplates (account : Account) (name : Text) : Option TemplateId :=
  (account.launchTemplates.entries.find? fun entry => entry.2.name = name).map Prod.fst

def createLaunchTemplate (account : Account) (name : Text) (data : LaunchTemplateData) :
    Account where
  launchTemplates := account.launchTemplates.put ⟨account.nextTemplate⟩
    { name := name, versions := [(1, data)] }
  nodeGroups := account.nodeGroups
  nextTemplate := account.nextTemplate + 1
  templatesIssued := by
    intro id template found
    by_cases same : id = ⟨account.nextTemplate⟩
    · rw [same]
      exact Nat.lt_succ_self _
    · rw [Store.get?_put_of_ne _ same] at found
      exact Nat.lt_succ_of_lt (account.templatesIssued id template found)
  attachedIssued := by
    intro other group spec found attached
    exact Nat.lt_succ_of_lt (account.attachedIssued other group spec found attached)

def eraseLaunchTemplate (account : Account) (id : TemplateId) : Account where
  launchTemplates := account.launchTemplates.erase id
  nodeGroups := account.nodeGroups
  nextTemplate := account.nextTemplate
  templatesIssued := by
    intro other template found
    rw [Store.get?_eq_some_iff, Store.mem_entries_erase] at found
    exact account.templatesIssued other template
      (account.launchTemplates.get?_eq_some_iff.mpr found.1)
  attachedIssued := account.attachedIssued

def deleteLaunchTemplate (account : Account) (id : TemplateId) : Except Error Account :=
  match account.launchTemplates.get? id with
  | some _ => .ok (account.eraseLaunchTemplate id)
  | none => .error (.clientError (lit "InvalidLaunchTemplateId.NotFound"))

def putNodegroup (account : Account) (name : Text) (group : NodeGroup)
    (issued : ∀ spec, group.launchTemplate = some spec →
      spec.id.index < account.nextTemplate) : Account where
  launchTemplates := account.launchTemplates
  nodeGroups := account.nodeGroups.put name group
  nextTemplate := account.nextTemplate
  templatesIssued := account.templatesIssued
  attachedIssued := by
    intro other old spec found attached
    by_cases same : other = name
    · rw [same, Store.get?_put_self] at found
      rw [← Option.some.inj found] at attached
      exact issued spec attached
    · rw [Store.get?_put_of_ne _ same] at found
      exact account.attachedIssued other old spec found attached

def createNodegroup (account : Account) (params : CreateParams) : Except Error Account :=
  match account.nodeGroups.get? params.nodegroupName with
  | some _ => .error (.clientError (lit "ResourceInUseException"))
  | none =>
      match found : account.launchTemplates.get? params.launchTemplate.id with
      | none => .error (.clientError (lit "InvalidRequestException"))
      | some template =>
          .ok (account.putNodegroup params.nodegroupName
            { scalingConfig := params.scalingConfig
              launchTemplate := some params.launchTemplate }
            (by
              intro spec attached
              rw [← Option.some.inj attached]
              exact account.templatesIssued _ template found))

def updateNodegroupConfig (account : Account) (name : Text) (config : ScalingConfig) :
    Except Error Account :=
  match found : account.nodeGroups.get? name with
  | none => .error resourceNotFound
  | some group =>
      .ok (account.putNodegroup name { group with scalingConfig := config }
        (account.attachedIssued name group · found))

def eraseNodegroup (account : Account) (name : Text) : Account where
  launchTemplates := account.launchTemplates
  nodeGroups := account.nodeGroups.erase name
  nextTemplate := account.nextTemplate
  templatesIssued := account.templatesIssued
  attachedIssued := by
    intro other group spec found attached
    rw [Store.get?_eq_some_iff, Store.mem_entries_erase] at found
    exact account.attachedIssued other group spec
      (account.nodeGroups.get?_eq_some_iff.mpr found.1) attached

def deleteNodegroup (account : Account) (name : Text) : Except Error Account :=
  match account.nodeGroups.get? name with
  | none => .error resourceNotFound
  | some _ => .ok (account.eraseNodegroup name)

end Account

end Telescope.Eks
