import Telescope.Data.Exception
import Telescope.Data.Store
import Telescope.Text.Edit

namespace Telescope.Kubernetes

open Telescope

/-! Manifests, and the objects of the API server that `_apply_single_manifest`,
`_update_single_manifest` and `_delete_single_manifest` address for them. -/

/-- What `mapping.get(key, {})` finds under a key. -/
inductive Section (α : Type) where
  | absent
  | mistyped (typeName : Text)
  | mapping (fields : α)

structure Metadata where
  name : Option Text
  «namespace» : Option Text

structure FlowSchemaSpec where
  priorityLevelName : Section (Option Text)

/-- A YAML mapping, as far as the client reads it.  The rest of the document is its
`content`. -/
structure Manifest where
  kind : Option Text
  apiVersion : Option Text
  metadata : Section Metadata
  spec : Section FlowSchemaSpec
  content : Text

/-- `.get` on something that is not a mapping. -/
def notAMapping (typeName : Text) : Error :=
  ⟨.attributeError, lit "'" ++ typeName ++ lit "' object has no attribute 'get'"⟩

def Section.read {α : Type} (field : Section α) (empty : α) : Except Error α :=
  match field with
  | .absent => .ok empty
  | .mistyped typeName => .error (notAMapping typeName)
  | .mapping fields => .ok fields

def Manifest.readMetadata (manifest : Manifest) : Except Error Metadata :=
  manifest.metadata.read ⟨none, none⟩

/-- `manifest.get("spec", {}).get("priorityLevelConfiguration", {}).get("name")` -/
def Manifest.priorityLevelRef (manifest : Manifest) : Except Error (Option Text) := do
  let spec ← manifest.spec.read ⟨.absent⟩
  spec.priorityLevelName.read none

inductive Kind where
  | deployment | daemonSet | statefulSet | job | service | configMap | secret
  | serviceAccount | clusterRole | clusterRoleBinding | role | roleBinding | «namespace»
  | customResourceDefinition | flowSchema | stage | mpiJob | nodeFeatureRule
  | nicClusterPolicy | resourceSlice | deviceClass
  deriving DecidableEq

def Kind.text : Kind → Text
  | .deployment => lit "Deployment"
  | .daemonSet => lit "DaemonSet"
  | .statefulSet => lit "StatefulSet"
  | .job => lit "Job"
  | .service => lit "Service"
  | .configMap => lit "ConfigMap"
  | .secret => lit "Secret"
  | .serviceAccount => lit "ServiceAccount"
  | .clusterRole => lit "ClusterRole"
  | .clusterRoleBinding => lit "ClusterRoleBinding"
  | .role => lit "Role"
  | .roleBinding => lit "RoleBinding"
  | .namespace => lit "Namespace"
  | .customResourceDefinition => lit "CustomResourceDefinition"
  | .flowSchema => lit "FlowSchema"
  | .stage => lit "Stage"
  | .mpiJob => lit "MPIJob"
  | .nodeFeatureRule => lit "NodeFeatureRule"
  | .nicClusterPolicy => lit "NicClusterPolicy"
  | .resourceSlice => lit "ResourceSlice"
  | .deviceClass => lit "DeviceClass"

def Kind.supported : List Kind :=
  [.deployment, .daemonSet, .statefulSet, .job, .service, .configMap, .secret,
   .serviceAccount, .clusterRole, .clusterRoleBinding, .role, .roleBinding, .namespace,
   .customResourceDefinition, .flowSchema, .stage, .mpiJob, .nodeFeatureRule,
   .nicClusterPolicy, .resourceSlice, .deviceClass]

/-- The branch of the dispatch chains that a manifest takes, if any. -/
def Manifest.dispatch (manifest : Manifest) : Option Kind :=
  Kind.supported.find? fun kind => some kind.text = manifest.kind

structure ApiGroup where
  group : Text
  version : Text
  deriving DecidableEq

def coreV1 : ApiGroup := ⟨[], lit "v1"⟩

def appsV1 : ApiGroup := ⟨lit "apps", lit "v1"⟩

def batchV1 : ApiGroup := ⟨lit "batch", lit "v1"⟩

def rbacV1 : ApiGroup := ⟨lit "rbac.authorization.k8s.io", lit "v1"⟩

def apiextensionsV1 : ApiGroup := ⟨lit "apiextensions.k8s.io", lit "v1"⟩

def flowcontrolV1 : ApiGroup := ⟨lit "flowcontrol.apiserver.k8s.io", lit "v1"⟩

/-- `group, version = api_version.split("/") if "/" in api_version else ("", api_version)` -/
def Manifest.customApi (manifest : Manifest) : Except Error ApiGroup :=
  let apiVersion := manifest.apiVersion.getD []
  if '/' ∈ apiVersion then
    match apiVersion.splitOn '/' with
    | [group, version] => .ok ⟨group, version⟩
    | _ => .error (.valueError (lit "too many values to unpack (expected 2)"))
  else .ok ⟨[], apiVersion⟩

/-- The object that a request addresses; without a namespace it is cluster scoped. -/
structure Target where
  api : ApiGroup
  plural : Text
  «namespace» : Option Text
  name : Option Text
  deriving DecidableEq

def namespaced (api : ApiGroup) (plural : String) (space : Text) (name : Option Text) :
    Target := ⟨api, lit plural, some space, name⟩

def clusterScoped (api : ApiGroup) (plural : String) (name : Option Text) : Target :=
  ⟨api, lit plural, none, name⟩

def exempt : Text := lit "exempt"

/-- FlowSchemas of the exempt priority level are skipped. -/
def flowSchemaTarget (manifest : Manifest) (name : Option Text) :
    Except Error (Option Target) := do
  let reference ← manifest.priorityLevelRef
  if reference = some exempt then .ok none
  else .ok (some (clusterScoped flowcontrolV1 "flowschemas" name))

/-- The object that `_apply_single_manifest` creates; `none` when it skips. -/
def createTarget (manifest : Manifest) (space : Text) (name : Option Text) :
    Except Error (Option Target) :=
  match manifest.dispatch with
  | some .deployment => .ok (some (namespaced appsV1 "deployments" space name))
  | some .daemonSet => .ok (some (namespaced appsV1 "daemonsets" space name))
  | some .statefulSet => .ok (some (namespaced appsV1 "statefulsets" space name))
  | some .job => .ok (some (namespaced batchV1 "jobs" space name))
  | some .service => .ok (some (namespaced coreV1 "services" space name))
  | some .configMap => .ok (some (namespaced coreV1 "configmaps" space name))
  | some .secret => .ok (some (namespaced coreV1 "secrets" space name))
  | some .serviceAccount => .ok (some (namespaced coreV1 "serviceaccounts" space name))
  | some .clusterRole => .ok (some (clusterScoped rbacV1 "clusterroles" name))
  | some .clusterRoleBinding =>
      .ok (some (clusterScoped rbacV1 "clusterrolebindings" name))
  | some .role => .ok (some (namespaced rbacV1 "roles" space name))
  | some .roleBinding => .ok (some (namespaced rbacV1 "rolebindings" space name))
  | some .namespace => .ok (some (clusterScoped coreV1 "namespaces" name))
  | some .customResourceDefinition =>
      .ok (some (clusterScoped apiextensionsV1 "customresourcedefinitions" name))
  | some .flowSchema => flowSchemaTarget manifest name
  | some .stage => do
      let api ← manifest.customApi
      .ok (some (clusterScoped api "stages" name))
  | some .mpiJob => do
      let api ← manifest.customApi
      .ok (some (namespaced api "mpijobs" space name))
  | some .nodeFeatureRule => do
      let api ← manifest.customApi
      .ok (some (clusterScoped api "nodefeaturerules" name))
  | some .nicClusterPolicy => do
      let api ← manifest.customApi
      .ok (some (clusterScoped api "nicclusterpolicies" name))
  | some .resourceSlice => do
      let api ← manifest.customApi
      .ok (some (clusterScoped api "resourceslices" name))
  | some .deviceClass => do
      let api ← manifest.customApi
      .ok (some (clusterScoped api "deviceclasses" name))
  | none => .ok none

def requiresNamespace (kind : Kind) : Error :=
  .valueError (kind.text ++ lit " requires a namespace")

/-- `if namespace: ... else: raise ValueError("... requires a namespace")` -/
def inNamespace (kind : Kind) (api : ApiGroup) (plural : String) (space : Option Text)
    (name : Option Text) : Except Error (Option Target) :=
  match space with
  | some space => .ok (some (namespaced api plural space name))
  | none => .error (requiresNamespace kind)

/-- The object that `_update_single_manifest` patches. -/
def patchTarget (manifest : Manifest) (space : Option Text) (name : Option Text) :
    Except Error (Option Target) :=
  match manifest.dispatch with
  | some .deployment => inNamespace .deployment appsV1 "deployments" space name
  | some .daemonSet => inNamespace .daemonSet appsV1 "daemonsets" space name
  | some .statefulSet => inNamespace .statefulSet appsV1 "statefulsets" space name
  | some .job => inNamespace .job batchV1 "jobs" space name
  | some .service => inNamespace .service coreV1 "services" space name
  | some .configMap => inNamespace .configMap coreV1 "configmaps" space name
  | some .secret => inNamespace .secret coreV1 "secrets" space name
  | some .serviceAccount => inNamespace .serviceAccount coreV1 "serviceaccounts" space name
  | some .clusterRole => .ok (some (clusterScoped rbacV1 "clusterroles" name))
  | some .clusterRoleBinding =>
      .ok (some (clusterScoped rbacV1 "clusterrolebindings" name))
  | some .role => inNamespace .role rbacV1 "roles" space name
  | some .roleBinding => inNamespace .roleBinding rbacV1 "rolebindings" space name
  | some .namespace => .ok (some (clusterScoped coreV1 "namespaces" name))
  | some .customResourceDefinition =>
      .ok (some (clusterScoped apiextensionsV1 "customresourcedefinitions" name))
  | some .flowSchema => flowSchemaTarget manifest name
  | some .stage => do
      let api ← manifest.customApi
      .ok (some (clusterScoped api "stages" name))
  | some .mpiJob => do
      let api ← manifest.customApi
      inNamespace .mpiJob api "mpijobs" space name
  | some .nodeFeatureRule => do
      let api ← manifest.customApi
      .ok (some (clusterScoped api "nodefeaturerules" name))
  | some .nicClusterPolicy => do
      let api ← manifest.customApi
      .ok (some (clusterScoped api "nicclusterpolicies" name))
  | some .resourceSlice => do
      let api ← manifest.customApi
      .ok (some (clusterScoped api "resourceslices" name))
  | some .deviceClass => do
      let api ← manifest.customApi
      .ok (some (clusterScoped api "deviceclasses" name))
  | none => .ok none

/-- The object that `_delete_single_manifest` deletes, for a manifest with a name. -/
def deleteTarget (manifest : Manifest) (space : Option Text) (name : Option Text) :
    Except Error (Option Target) :=
  match manifest.dispatch with
  | some .deployment => inNamespace .deployment appsV1 "deployments" space name
  | some .daemonSet => inNamespace .daemonSet appsV1 "daemonsets" space name
  | some .statefulSet => inNamespace .statefulSet appsV1 "statefulsets" space name
  | some .job => inNamespace .job batchV1 "jobs" space name
  | some .service => inNamespace .service coreV1 "services" space name
  | some .configMap => inNamespace .configMap coreV1 "configmaps" space name
  | some .secret => inNamespace .secret coreV1 "secrets" space name
  | some .serviceAccount => inNamespace .serviceAccount coreV1 "serviceaccounts" space name
  | some .clusterRole => .ok (some (clusterScoped rbacV1 "clusterroles" name))
  | some .clusterRoleBinding =>
      .ok (some (clusterScoped rbacV1 "clusterrolebindings" name))
  | some .role => inNamespace .role rbacV1 "roles" space name
  | some .roleBinding => inNamespace .roleBinding rbacV1 "rolebindings" space name
  | some .namespace => .ok (some (clusterScoped coreV1 "namespaces" name))
  | some .customResourceDefinition =>
      .ok (some (clusterScoped apiextensionsV1 "customresourcedefinitions" name))
  | some .flowSchema => flowSchemaTarget manifest name
  | some .stage => do
      let api ← manifest.customApi
      .ok (some (clusterScoped api "stages" name))
  | some .mpiJob => do
      let api ← manifest.customApi
      inNamespace .mpiJob api "mpijobs" space name
  | some .nodeFeatureRule => do
      let api ← manifest.customApi
      .ok (some (clusterScoped api "nodefeaturerules" name))
  | some .nicClusterPolicy => do
      let api ← manifest.customApi
      .ok (some (clusterScoped api "nicclusterpolicies" name))
  | some .resourceSlice => do
      let api ← manifest.customApi
      .ok (some (clusterScoped api "resourceslices" name))
  | some .deviceClass => do
      let api ← manifest.customApi
      .ok (some (clusterScoped api "deviceclasses" name))
  | none => .ok none

/-! ## The object of a manifest -/

def Kind.plural : Kind → Text
  | .deployment => lit "deployments"
  | .daemonSet => lit "daemonsets"
  | .statefulSet => lit "statefulsets"
  | .job => lit "jobs"
  | .service => lit "services"
  | .configMap => lit "configmaps"
  | .secret => lit "secrets"
  | .serviceAccount => lit "serviceaccounts"
  | .clusterRole => lit "clusterroles"
  | .clusterRoleBinding => lit "clusterrolebindings"
  | .role => lit "roles"
  | .roleBinding => lit "rolebindings"
  | .namespace => lit "namespaces"
  | .customResourceDefinition => lit "customresourcedefinitions"
  | .flowSchema => lit "flowschemas"
  | .stage => lit "stages"
  | .mpiJob => lit "mpijobs"
  | .nodeFeatureRule => lit "nodefeaturerules"
  | .nicClusterPolicy => lit "nicclusterpolicies"
  | .resourceSlice => lit "resourceslices"
  | .deviceClass => lit "deviceclasses"

def Kind.isNamespaced : Kind → Bool
  | .clusterRole | .clusterRoleBinding | .namespace | .customResourceDefinition
  | .flowSchema | .stage | .nodeFeatureRule | .nicClusterPolicy | .resourceSlice
  | .deviceClass => false
  | _ => true

/-- The kinds that are sent through `CustomObjectsApi`. -/
def Kind.isCustom : Kind → Bool
  | .stage | .mpiJob | .nodeFeatureRule | .nicClusterPolicy | .resourceSlice
  | .deviceClass => true
  | _ => false

/-- What identifies an object: its kind, its namespace if it has one, and its name. -/
structure ObjectKey where
  plural : Text
  «namespace» : Option Text
  name : Text
  deriving DecidableEq

def Target.key? (target : Target) : Option ObjectKey :=
  (presentText target.name).map fun name => ⟨target.plural, target.namespace, name⟩

def Kind.objectKey (kind : Kind) (space name : Text) : ObjectKey :=
  ⟨kind.plural, if kind.isNamespaced then some space else none, name⟩

/-- With a namespace, an update addresses what a creation there addresses. -/
theorem patchTarget_some (manifest : Manifest) (space : Text) (name : Option Text) :
    patchTarget manifest (some space) name = createTarget manifest space name := by
  unfold patchTarget createTarget
  cases manifest.dispatch with
  | none => rfl
  | some kind => cases kind <;> rfl

theorem deleteTarget_some (manifest : Manifest) (space : Text) (name : Option Text) :
    deleteTarget manifest (some space) name = createTarget manifest space name := by
  unfold deleteTarget createTarget
  cases manifest.dispatch with
  | none => rfl
  | some kind => cases kind <;> rfl

theorem deleteTarget_of_clusterScoped {manifest : Manifest} {kind : Kind}
    (dispatched : manifest.dispatch = some kind) (clusterScoped : kind.isNamespaced = false)
    (space : Text) (name : Option Text) :
    deleteTarget manifest none name = createTarget manifest space name := by
  rw [deleteTarget, createTarget, dispatched]
  cases kind <;> first | rfl | exact nomatch clusterScoped

/-- Without a namespace, the deletion of a namespaced object always raises. -/
theorem deleteTarget_none_of_namespaced {manifest : Manifest} {kind : Kind}
    (dispatched : manifest.dispatch = some kind) (isNamespaced : kind.isNamespaced = true)
    (name : Option Text) : ∃ error, deleteTarget manifest none name = .error error := by
  rw [deleteTarget, dispatched]
  cases kind with
  | mpiJob =>
      cases read : manifest.customApi with
      | error error => exact ⟨error, rfl⟩
      | ok api => exact ⟨requiresNamespace .mpiJob, rfl⟩
  | _ => first | exact ⟨_, rfl⟩ | exact nomatch isNamespaced

private theorem customApi_ok_iff (manifest : Manifest) :
    (∃ api, manifest.customApi = .ok api) ↔
      (manifest.apiVersion.getD []).count '/' ≤ 1 := by
  have parts := length_splitOn '/' (manifest.apiVersion.getD [])
  unfold Manifest.customApi
  by_cases slash : '/' ∈ manifest.apiVersion.getD []
  · have positive := List.count_pos_iff.mpr slash
    simp only [slash, if_true]
    split
    next group version split =>
      rw [split] at parts
      simp only [List.length_cons, List.length_nil] at parts
      exact ⟨fun _ => by omega, fun _ => ⟨_, rfl⟩⟩
    next notTwo =>
      refine ⟨fun ⟨_, equal⟩ => (nomatch equal), fun atMostOne => ?_⟩
      have two : ((manifest.apiVersion.getD []).splitOn '/').length = 2 := by omega
      obtain ⟨group, version, split⟩ := List.length_eq_two.mp two
      exact absurd split (notTwo group version)
  · simp [slash, List.count_eq_zero_of_not_mem slash]

/-- The parts of a manifest that its kind makes the client read. -/
def Manifest.Readable (manifest : Manifest) (kind : Kind) : Prop :=
  (kind.isCustom = true → (manifest.apiVersion.getD []).count '/' ≤ 1) ∧
    (kind = .flowSchema → ∃ reference, manifest.priorityLevelRef = .ok reference)

theorem createTarget_ok_iff {manifest : Manifest} {kind : Kind}
    (dispatched : manifest.dispatch = some kind) (space : Text) (name : Option Text) :
    (∃ target?, createTarget manifest space name = .ok target?) ↔
      manifest.Readable kind := by
  rw [createTarget, dispatched, Manifest.Readable, ← customApi_ok_iff]
  cases kind with
  | stage | mpiJob | nodeFeatureRule | nicClusterPolicy | resourceSlice | deviceClass =>
      cases manifest.customApi with
      | error error => simp [Kind.isCustom, bind, Except.bind]
      | ok api => simp [Kind.isCustom, bind, Except.bind]
  | flowSchema =>
      simp only [flowSchemaTarget]
      cases manifest.priorityLevelRef with
      | error error => simp [Kind.isCustom, bind, Except.bind]
      | ok reference =>
          by_cases skipped : reference = some exempt
          · simp [Kind.isCustom, bind, Except.bind, skipped]
          · simp [Kind.isCustom, bind, Except.bind, skipped]
  | _ => simp [Kind.isCustom]

theorem createTarget_key {manifest : Manifest} {kind : Kind} {space : Text}
    {name : Option Text} {target : Target} (dispatched : manifest.dispatch = some kind)
    (created : createTarget manifest space name = .ok (some target)) :
    target.key? = (presentText name).map (kind.objectKey space) := by
  rw [createTarget, dispatched] at created
  cases kind with
  | stage | mpiJob | nodeFeatureRule | nicClusterPolicy | resourceSlice | deviceClass =>
      obtain ⟨api, -, addressed⟩ := exists_of_bind_eq_ok created
      cases addressed
      rfl
  | flowSchema =>
      obtain ⟨reference, -, addressed⟩ := exists_of_bind_eq_ok created
      split at addressed
      · exact nomatch addressed
      · cases addressed
        rfl
  | _ =>
      cases created
      rfl

theorem createTarget_name {manifest : Manifest} {space : Text} {name : Option Text}
    {target : Target} (created : createTarget manifest space name = .ok (some target)) :
    target.name = name := by
  unfold createTarget at created
  cases dispatched : manifest.dispatch with
  | none =>
      rw [dispatched] at created
      exact nomatch created
  | some kind =>
      rw [dispatched] at created
      cases kind with
      | stage | mpiJob | nodeFeatureRule | nicClusterPolicy | resourceSlice | deviceClass =>
          obtain ⟨api, -, addressed⟩ := exists_of_bind_eq_ok created
          cases addressed
          rfl
      | flowSchema =>
          obtain ⟨reference, -, addressed⟩ := exists_of_bind_eq_ok created
          split at addressed
          · exact nomatch addressed
          · cases addressed
            rfl
      | _ =>
          cases created
          rfl

/-- Both chains skip the same manifests. -/
theorem createTarget_skips_iff (manifest : Manifest) (space : Text)
    (otherSpace name : Option Text) :
    createTarget manifest space name = .ok none ↔
      patchTarget manifest otherSpace name = .ok none := by
  unfold createTarget patchTarget
  cases manifest.dispatch with
  | none => simp
  | some kind =>
      cases kind with
      | flowSchema => rfl
      | stage | nodeFeatureRule | nicClusterPolicy | resourceSlice | deviceClass => rfl
      | mpiJob =>
          cases manifest.customApi with
          | error error => simp [bind, Except.bind]
          | ok api => cases otherSpace <;> simp [bind, Except.bind, inNamespace]
      | _ => cases otherSpace <;> simp [inNamespace]

private theorem customApi_error {manifest : Manifest} {error : Error}
    (raised : manifest.customApi = .error error) :
    error = .valueError (lit "too many values to unpack (expected 2)") := by
  unfold Manifest.customApi at raised
  dsimp only at raised
  split at raised
  · split at raised
    · exact nomatch raised
    · exact (Except.error.inj raised).symm
  · exact nomatch raised

private theorem requiresNamespace_ne_unpack (kind : Kind) :
    requiresNamespace kind ≠ .valueError (lit "too many values to unpack (expected 2)") := by
  intro equal
  have lasts := congrArg (fun error => error.message.getLast?) equal
  simp [requiresNamespace, Error.valueError, lit] at lasts

theorem read_ne_requiresNamespace {α : Type} (field : Section α) (empty : α) (kind : Kind) :
    field.read empty ≠ .error (requiresNamespace kind) := by
  cases field with
  | mistyped typeName => simp [Section.read, notAMapping, requiresNamespace, Error.valueError]
  | _ => simp [Section.read]

theorem createTarget_ne_requiresNamespace (manifest : Manifest) (space : Text)
    (name : Option Text) (kind : Kind) :
    createTarget manifest space name ≠ .error (requiresNamespace kind) := by
  have custom : ∀ target : ApiGroup → Target,
      (manifest.customApi >>= fun api => .ok (some (target api))) ≠
        .error (requiresNamespace kind) := by
    intro target
    cases read : manifest.customApi with
    | ok api => simp [bind, Except.bind]
    | error error =>
        rw [customApi_error read]
        simpa [bind, Except.bind] using (requiresNamespace_ne_unpack kind).symm
  unfold createTarget
  cases manifest.dispatch with
  | none => simp
  | some taken =>
      cases taken with
      | stage | mpiJob | nodeFeatureRule | nicClusterPolicy | resourceSlice | deviceClass =>
          exact custom _
      | flowSchema =>
          have spec := read_ne_requiresNamespace manifest.spec ⟨.absent⟩ kind
          unfold flowSchemaTarget Manifest.priorityLevelRef
          cases read : manifest.spec.read ⟨.absent⟩ with
          | error error =>
              rw [read] at spec
              simpa [bind, Except.bind] using spec
          | ok fields =>
              have level := read_ne_requiresNamespace fields.priorityLevelName none kind
              simp only [bind, Except.bind]
              cases readLevel : fields.priorityLevelName.read none with
              | error error =>
                  rw [readLevel] at level
                  simpa using level
              | ok reference => by_cases skipped : reference = some exempt <;> simp [skipped]
      | _ => simp

end Telescope.Kubernetes
