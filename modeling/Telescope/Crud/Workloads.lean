import Telescope.Data.Footprint
import Telescope.Kubernetes.ManifestUrl
import Telescope.Kubernetes.PodWaits
import Telescope.Text.PrefixCode

namespace Telescope.Crud

open Telescope Telescope.Kubernetes

/-! Workloads of a node pool (`_create_workloads` and `_apply_workload`). -/

inductive WorkloadType where
  | deployment | statefulset | job
  deriving DecidableEq

structure WorkloadConfig where
  templateFile : Text
  resourceType : Text
  waitCondition : Text
  verifyPodsReady : Bool

def WorkloadType.config : WorkloadType → WorkloadConfig
  | .deployment => ⟨lit "deployment.yml", lit "deployment", lit "available", true⟩
  | .statefulset => ⟨lit "statefulset.yml", lit "statefulset", lit "ready", true⟩
  | .job => ⟨lit "job.yml", lit "job", lit "complete", false⟩

def WorkloadType.resourceType : WorkloadType → ResourceType
  | .deployment => .deployment
  | .statefulset => .statefulset
  | .job => .job

structure WorkloadsCall where
  workloadType : WorkloadType
  nodePoolName : Text
  count : Int
  numberOfWorkloads : Int
  templateDir : Text
  labelSelector : Text
  «namespace» : Text
  stepTimeout : Int

/-! ## A server on which objects do not affect each other -/

/-- The objects of the server by kind, namespace and name. -/
abbrev Slots (ν : Type) := ObjectKey → Option ν

/-- The server answers a request from the object that it addresses, and changes only that
object, in any way: it can keep what is being deleted, and requests can fail with or without
an effect. -/
structure Server (ν : Type) where
  respond : Request → Option ν → Option Refusal × Option ν
  unnamed : Request → Refusal

def Server.api {ν : Type} (server : Server ν) : Api (Slots ν) where
  answer request slots :=
    match request.target.key? with
    | none => (some (server.unnamed request), slots)
    | some key =>
        ((server.respond request (slots key)).1,
          Function.update slots key (server.respond request (slots key)).2)

/-! ## The call -/

/-- What the client meets for each index besides the requests: whether the template is
there, and what its two waits see. -/
structure WorkloadsRun where
  templateFound : Nat → Bool
  wait : Nat → WaitTrace
  pods : Nat → PodsTrace

private theorem kind_ne_list (kind : Kind) : some kind.text ≠ some (lit "List") := by
  cases kind <;> decide

/-- A rendered document of a template. -/
structure Rendered where
  kind : Kind
  apiVersion : Text
  name : Text
  content : Text

def Rendered.manifest (rendered : Rendered) : Manifest where
  kind := some rendered.kind.text
  apiVersion := some rendered.apiVersion
  metadata := .mapping ⟨some rendered.name, none⟩
  spec := .mapping ⟨.absent⟩
  content := rendered.content

def Rendered.document (rendered : Rendered) : Document :=
  .object rendered.manifest (kind_ne_list rendered.kind)

/-- The object that applying the document creates. -/
def Rendered.key (rendered : Rendered) (space : Text) : ObjectKey :=
  rendered.kind.objectKey (appliedNamespace (some space) ⟨some rendered.name, none⟩) rendered.name

namespace WorkloadsCall

/-! ## The names and the documents of an index -/

def resourceName (call : WorkloadsCall) (index : Nat) : Text :=
  lit "myapp-" ++ call.nodePoolName ++ lit "-" ++ natText index

/-- `label_selector.split('=', 1)[-1]` -/
def labelValue (call : WorkloadsCall) : Text :=
  match call.labelSelector.dropWhile (fun c => c ≠ '=') with
  | [] => call.labelSelector
  | _ :: value => value

def workloadLabel (call : WorkloadsCall) (index : Nat) : Text :=
  call.labelValue ++ lit "-" ++ call.workloadType.config.resourceType ++ lit "-" ++ natText index

def templatePath (call : WorkloadsCall) : Text :=
  call.templateDir ++ lit "/" ++ call.workloadType.config.templateFile

def service (call : WorkloadsCall) (index : Nat) : Rendered where
  kind := .service
  apiVersion := lit "v1"
  name := call.resourceName index
  content := lit "port: 80, clusterIP: None, app: " ++ call.workloadLabel index

/-- The documents of the three templates, rendered. -/
def renderedTemplate (call : WorkloadsCall) (index : Nat) : List Rendered :=
  let name := call.resourceName index
  let count := intText call.count
  let app := lit ", app: " ++ call.workloadLabel index
  match call.workloadType with
  | .deployment =>
      [⟨.deployment, lit "apps/v1", name, lit "replicas: " ++ count ++ app⟩, call.service index]
  | .statefulset =>
      [⟨.statefulSet, lit "apps/v1", name,
        lit "serviceName: " ++ name ++ lit ", replicas: " ++ count ++ app⟩, call.service index]
  | .job => [⟨.job, lit "batch/v1", name, lit "completions: " ++ count ++ app⟩]

/-! ## One workload -/

def waitRequest (call : WorkloadsCall) (index : Nat) : WaitRequest where
  resourceType := call.workloadType.config.resourceType
  waitConditionType := call.workloadType.config.waitCondition
  timeoutSeconds := call.stepTimeout
  resourceName := some (call.resourceName index)
  waitAll := false

def podsRequest (call : WorkloadsCall) (index : Nat) : PodsRequest where
  labelSelector := lit "app=" ++ call.workloadLabel index
  «namespace» := call.namespace
  podCount := some call.count

def timeoutError (call : WorkloadsCall) (index : Nat) : Error :=
  ⟨.external, capitalized call.workloadType.config.resourceType ++ lit " " ++
    call.resourceName index ++ lit " failed to become " ++
    call.workloadType.config.waitCondition ++ lit " within timeout"⟩
where
  capitalized : Text → Text
    | [] => []
    | head :: tail => head.toUpper :: tail.map Char.toLower

def operationTimeoutInMinutes : ℚ := 5

section Client

variable {σ : Type} (call : WorkloadsCall) (api : Api σ)

/-- A job of the same name is deleted first, and whatever the deletion raises is ignored. -/
def deleteExisting (index : Nat) (state : σ) : σ :=
  match call.workloadType with
  | .job => (api.answer
      (.delete (namespaced batchV1 "jobs" call.namespace (some (call.resourceName index))))
      state).2
  | _ => state

/-- The waits after the documents have been applied.  They are given as many polls as fit
into their time. -/
def awaitWorkload (run : WorkloadsRun) (index : Nat) : Option (Except Error Unit) :=
  match waitForCondition (call.waitRequest index) (run.wait index)
      (⌈(call.stepTimeout : ℚ) / 5⌉₊ + 1) with
  | .error error => some (.error error)
  | .ok none => none
  | .ok (some exit) =>
      if exit.passed then
        if call.workloadType.config.verifyPodsReady then
          (waitForPodsReady (call.podsRequest index) operationTimeoutInMinutes (run.pods index)
            (⌈operationTimeoutInMinutes * 60 / 10⌉₊ + 1)).map fun pods => pods.map fun _ => ()
        else some (.ok ())
      else some (.error (call.timeoutError index))

def applyDocuments (index : Nat) : σ → Except Error Unit × σ :=
  forEach (fun rendered =>
      applyManifestFromFile api ⟨none, rendered.document⟩ (some call.namespace))
    (call.renderedTemplate index)

/-- `_apply_workload`; `none` if a wait were not over after its polls. -/
def applyWorkload (run : WorkloadsRun) (index : Nat) (state : σ) :
    Option (Except Error Unit) × σ :=
  if run.templateFound index then
    let applied := call.applyDocuments api index (call.deleteExisting api index state)
    match applied.1 with
    | .error error => (some (.error error), applied.2)
    | .ok () => (call.awaitWorkload run index, applied.2)
  else
    (some (.error ⟨.external, lit "Template file not found: " ++ call.templatePath⟩), state)

def indices : List Nat :=
  (List.range call.numberOfWorkloads.toNat).map (· + 1)

def created : Option (Except Error Unit) → Bool
  | some (.ok ()) => true
  | _ => false

/-- `_create_workloads`, with a client: a failed workload is logged and passed over. -/
def createWorkloads (run : WorkloadsRun) (state : σ) : Bool × σ :=
  let attempted := attemptAll (call.applyWorkload api run) call.indices state
  (decide ((attempted.1.countP created : Int) = call.numberOfWorkloads), attempted.2)

end Client

/-! ## The names of the objects -/

/-- The objects with the name of an index. -/
def Named (call : WorkloadsCall) (index : Nat) (key : ObjectKey) : Prop :=
  key.name = call.resourceName index

theorem resourceName_injective (call : WorkloadsCall) : Function.Injective call.resourceName := by
  intro first second same
  exact natText_injective (List.append_cancel_left same)

theorem mem_indices_iff {call : WorkloadsCall} {index : Nat} :
    index ∈ call.indices ↔ 1 ≤ index ∧ (index : Int) ≤ call.numberOfWorkloads := by
  simp only [indices, List.mem_map, List.mem_range]
  constructor
  · rintro ⟨previous, below, rfl⟩
    omega
  · rintro ⟨positive, within⟩
    exact ⟨index - 1, by omega, by omega⟩

theorem indices_nodup (call : WorkloadsCall) : call.indices.Nodup :=
  List.nodup_range.map fun _ _ same => Nat.succ.inj same

theorem applyManifestFromFile_document {σ : Type} (api : Api σ) (rendered : Rendered)
    (space : Option Text) :
    applyManifestFromFile api ⟨none, rendered.document⟩ space =
      applySingleManifest api rendered.manifest space := by
  funext state
  exact applyManifestFromFile_object api rendered.manifest _ space state

theorem name_of_key? {target : Target} {name : Text} {key : ObjectKey}
    (named : target.name = some name) (addressed : target.key? = some key) :
    key.name = name := by
  rw [Target.key?, named] at addressed
  obtain ⟨present, kept, rfl⟩ := Option.map_eq_some_iff.mp addressed
  exact (Option.some.inj (Option.eq_some_of_filter_eq_some kept)).symm

theorem renderedTemplate_name {call : WorkloadsCall} {index : Nat} {rendered : Rendered}
    (member : rendered ∈ call.renderedTemplate index) :
    rendered.name = call.resourceName index := by
  simp only [renderedTemplate] at member
  split at member
  · rcases List.mem_pair.mp member with rfl | rfl <;> rfl
  · rcases List.mem_pair.mp member with rfl | rfl <;> rfl
  · rw [List.mem_singleton.mp member]

private theorem dispatch_text (kind : Kind) :
    Kind.supported.find? (fun other => some other.text = some kind.text) = some kind := by
  cases kind <;> decide

/-- The kinds of the documents are created without further conditions. -/
theorem creationTarget_rendered {rendered : Rendered} (space : Text)
    (kind : rendered.kind ∈ [.deployment, .statefulSet, .job, .service])
    (nonempty : rendered.name ≠ []) :
    ∃ target, creationTarget rendered.manifest (some space) = .ok (some target) ∧
      target.key? = some (rendered.key space) := by
  have identifies : rendered.manifest.Identifies rendered.kind ⟨some rendered.name, none⟩
      rendered.name := by
    exact ⟨dispatch_text rendered.kind, rfl, rfl, nonempty⟩
  obtain ⟨target, created⟩ : ∃ target,
      creationTarget rendered.manifest (some space) = .ok (some target) := by
    rw [identifies.creationTarget_eq, createTarget, identifies.dispatched]
    simp only [List.mem_cons, List.not_mem_nil, or_false] at kind
    rcases kind with same | same | same | same <;> rw [same] <;> exact ⟨_, rfl⟩
  exact ⟨target, created, identifies.key_of_creationTarget created⟩

private theorem renderedTemplate_kind {call : WorkloadsCall} {index : Nat} {rendered : Rendered}
    (member : rendered ∈ call.renderedTemplate index) :
    rendered.kind ∈ [.deployment, .statefulSet, .job, .service] := by
  simp only [renderedTemplate] at member
  split at member
  · rcases List.mem_pair.mp member with rfl | rfl <;> simp [service]
  · rcases List.mem_pair.mp member with rfl | rfl <;> simp [service]
  · simp [List.mem_singleton.mp member]

private theorem resourceName_ne_nil (call : WorkloadsCall) (index : Nat) :
    call.resourceName index ≠ [] := by
  simp [resourceName, natText_ne_nil]

/-! ## What the waits of an index have seen -/

/-- The object of this name met its condition while the wait was on, and then as many pods
with its label were ready as it was given. -/
structure Verified (call : WorkloadsCall) (run : WorkloadsRun) (index : Nat) : Prop where
  condition : ∃ poll, (run.wait index).due (call.waitRequest index) poll = true ∧
    StatedSatisfied (call.waitRequest index) call.workloadType.resourceType
      ((run.wait index).view poll)
  pods : call.workloadType ≠ .job → ∃ round pods,
    (run.pods index).clock.due (operationTimeoutInMinutes * 60) round = true ∧
      AllReady (call.podsRequest index) (run.pods index) round pods

private theorem waitRequest_validate (call : WorkloadsCall) (index : Nat) :
    (call.waitRequest index).validate = .ok call.workloadType.resourceType := by
  unfold waitRequest
  cases call.workloadType <;> rfl

private theorem waitRequest_condition_ne_ready {call : WorkloadsCall} {index : Nat}
    (deploys : call.workloadType.resourceType = .deployment) :
    (call.waitRequest index).condition ≠ ready := by
  unfold waitRequest
  cases type : call.workloadType with
  | deployment =>
      exact fun same => absurd (show lit "available" = lit "ready" from same) (by decide)
  | statefulset | job =>
      rw [type] at deploys
      cases deploys

/-- A wait for one name cannot see an empty list. -/
theorem not_selectsNothing_of_named {request : WaitRequest} {name : Text} {view : View}
    (named : presentText request.resourceName = some name) (one : request.waitAll = false)
    (resourceType : ResourceType) : ¬ SelectsNothing request resourceType view := by
  have selected {α : Type} (answers : Answers α) : request.select answers ≠ .ok [] := by
    rw [WaitRequest.select, named]
    simp only [one]
    cases answers.read name with
    | error refusal => exact fun same => nomatch same
    | ok resource => exact fun same => nomatch same
  cases resourceType with
  | deployment | statefulset | job => exact selected _

theorem resourceName_present (call : WorkloadsCall) (index : Nat) :
    presentText (call.waitRequest index).resourceName = some (call.resourceName index) := rfl

private theorem exists_waited (call : WorkloadsCall) (run : WorkloadsRun) (index : Nat) :
    ∃ exit, waitForCondition (call.waitRequest index) (run.wait index)
        (⌈(call.stepTimeout : ℚ) / 5⌉₊ + 1) = .ok (some exit) ∧
      (exit.passed = true → ∃ poll,
        (run.wait index).due (call.waitRequest index) poll = true ∧
          StatedSatisfied (call.waitRequest index) call.workloadType.resourceType
            ((run.wait index).view poll)) := by
  have late : (run.wait index).due (call.waitRequest index) ⌈(call.stepTimeout : ℚ) / 5⌉₊ = false :=
    (run.wait index).clock.not_due_ceil (by norm_num) call.stepTimeout
  let check (poll : Nat) : Bool := checkResourceCondition (call.waitRequest index)
    call.workloadType.resourceType (call.waitRequest index).condition ((run.wait index).view poll)
  obtain ⟨last, exit, returned, ends⟩ :
      ∃ last exit, pollUntil ((run.wait index).due (call.waitRequest index)) check
          (⌈(call.stepTimeout : ℚ) / 5⌉₊ + 1) 0 = some exit ∧
        EndsAt ((run.wait index).due (call.waitRequest index)) check last exit :=
    exists_endsAt (fun earlier below => absurd below (Nat.not_lt_zero earlier))
      ⟨_, Nat.lt_of_lt_of_eq (Nat.lt_succ_self _) (Nat.zero_add _).symm, late⟩
  refine ⟨exit, ?_, ?_⟩
  · rw [waitForCondition, waitRequest_validate]
    exact congrArg Except.ok returned
  · intro passed
    rcases ends.ending with ⟨isDue, checked, -⟩ | ⟨-, rfl⟩
    · refine ⟨last, isDue, ?_⟩
      have notable := (checkResourceCondition_iff waitRequest_condition_ne_ready _).mp checked
      exact notable.resolve_left
        (not_selectsNothing_of_named (call.resourceName_present index) rfl _)
    · cases passed

private theorem awaitWorkload_spec (call : WorkloadsCall) (run : WorkloadsRun) (index : Nat) :
    ∃ outcome, call.awaitWorkload run index = some outcome ∧
      (outcome = .ok () → call.Verified run index) := by
  obtain ⟨exit, waited, satisfied⟩ := call.exists_waited run index
  obtain ⟨readied, ended, returns⟩ :=
    exists_readied (call.podsRequest index) operationTimeoutInMinutes (run.pods index)
  have pods : ∀ pods, readied = .ok pods → ∃ round,
      (run.pods index).clock.due (operationTimeoutInMinutes * 60) round = true ∧
        AllReady (call.podsRequest index) (run.pods index) round pods := by
    intro pods returned
    obtain ⟨round, -, isDue, all⟩ := (returns pods).mp returned
    exact ⟨round, isDue, all⟩
  unfold awaitWorkload
  simp only [waited, ended]
  by_cases passed : exit.passed = true
  · cases type : call.workloadType with
    | job =>
        refine ⟨.ok (), by simp [passed, WorkloadType.config], fun _ => ⟨satisfied passed, ?_⟩⟩
        exact fun notJob => absurd type notJob
    | deployment | statefulset =>
        refine ⟨readied.map fun _ => (), by simp [passed, WorkloadType.config], ?_⟩
        intro returned
        refine ⟨satisfied passed, fun _ => ?_⟩
        cases readied with
        | error error => cases returned
        | ok found => exact (pods found rfl).imp fun round seen => ⟨found, seen⟩
  · exact ⟨.error (call.timeoutError index), by simp [passed], fun returned => nomatch returned⟩

/-! ## Whatever the server answers -/

section Client

variable {σ : Type} {call : WorkloadsCall} {api : Api σ} {run : WorkloadsRun} {index : Nat}

theorem applyWorkload_spec (call : WorkloadsCall) (api : Api σ) (run : WorkloadsRun)
    (index : Nat) (state : σ) :
    let applied := call.applyDocuments api index (call.deleteExisting api index state)
    ∃ outcome, (call.applyWorkload api run index state).1 = some outcome ∧
      (outcome = .ok () → call.Verified run index ∧ applied.1 = .ok () ∧
        (call.applyWorkload api run index state).2 = applied.2) := by
  intro applied
  unfold applyWorkload
  by_cases found : run.templateFound index = true
  · rw [if_pos found]
    rcases ran : call.applyDocuments api index (call.deleteExisting api index state) with
      ⟨result, after⟩
    simp only [applied, ran]
    cases result with
    | error error => exact ⟨.error error, rfl, fun returned => nomatch returned⟩
    | ok value =>
        obtain ⟨outcome, ended, verified⟩ := call.awaitWorkload_spec run index
        exact ⟨outcome, ended, fun returned => ⟨verified returned, rfl, rfl⟩⟩
  · rw [if_neg found]
    exact ⟨_, rfl, fun returned => nomatch returned⟩

theorem applyWorkload_of_created {state : σ}
    (returned : (call.applyWorkload api run index state).1 = some (.ok ())) :
    let applied := call.applyDocuments api index (call.deleteExisting api index state)
    call.Verified run index ∧ applied.1 = .ok () ∧
      (call.applyWorkload api run index state).2 = applied.2 := by
  obtain ⟨outcome, ended, spec⟩ := call.applyWorkload_spec api run index state
  exact spec (Option.some.inj (ended.symm.trans returned))

/-- What deleting and applying keep, a workload keeps, however it ends. -/
theorem applyWorkload_keeps {holds : σ → Prop}
    (deletes : ∀ state, holds state → holds (call.deleteExisting api index state))
    (applies : ∀ state, holds state → holds (call.applyDocuments api index state).2)
    {state : σ} (start : holds state) : holds (call.applyWorkload api run index state).2 := by
  unfold applyWorkload
  by_cases found : run.templateFound index = true
  · rw [if_pos found]
    have kept := applies _ (deletes state start)
    rcases ran : call.applyDocuments api index (call.deleteExisting api index state) with
      ⟨result, after⟩
    rw [ran] at kept
    cases result with
    | error error => exact kept
    | ok value => exact kept
  · rw [if_neg found]
    exact start

private theorem created_eq_true_iff {outcome : Option (Except Error Unit)} :
    created outcome = true ↔ outcome = some (.ok ()) := by
  rcases outcome with - | result
  · simp [created]
  · cases result <;> simp [created]

theorem createWorkloads_eq_true_iff (call : WorkloadsCall) (api : Api σ) (run : WorkloadsRun)
    (state : σ) :
    (call.createWorkloads api run state).1 = true ↔
      0 ≤ call.numberOfWorkloads ∧
        ∀ outcome ∈ (attemptAll (call.applyWorkload api run) call.indices state).1,
          outcome = some (.ok ()) := by
  have length := attemptAll_length (call.applyWorkload api run) call.indices state
  have counted : call.indices.length = call.numberOfWorkloads.toNat := by simp [indices]
  rw [createWorkloads, decide_eq_true_iff]
  generalize (attemptAll (call.applyWorkload api run) call.indices state).1 = outcomes at length
  have all : outcomes.countP created = outcomes.length ↔
      ∀ outcome ∈ outcomes, outcome = some (.ok ()) := by
    simp only [List.countP_eq_length, created_eq_true_iff]
  have bounded := List.countP_le_length (p := created) (l := outcomes)
  rw [← all]
  omega

end Client

/-! ## Workloads that keep to their own objects -/

section Apart

variable {ν : Type}

theorem answer_keepsTo {own : ObjectKey → Prop} (server : Server ν) (request : Request)
    (mine : ∀ key, request.target.key? = some key → own key) :
    KeepsTo own (server.api.answer request) := by
  cases addressed : request.target.key? with
  | none =>
      have unanswered : server.api.answer request =
          fun slots => (some (server.unnamed request), slots) := by
        funext slots
        simp [Server.api, addressed]
      rw [unanswered]
      exact KeepsTo.pure _
  | some key =>
      have answered : server.api.answer request = fun slots =>
          ((server.respond request (slots key)).1,
            Function.update slots key (server.respond request (slots key)).2) := by
        funext slots
        simp [Server.api, addressed]
      rw [answered]
      exact KeepsTo.access (mine key addressed) (server.respond request)

private theorem patchExisting_keepsTo {own : ObjectKey → Prop} (server : Server ν)
    (manifest : Manifest)
    {target : Target} (mine : ∀ key, target.key? = some key → own key) :
    KeepsTo own (patchExisting server.api manifest target) := by
  let action := lit "updating " ++ manifest.kindText
  let next (refusal? : Option Refusal) (slots : Slots ν) : Except Error Unit × Slots ν :=
    match refusal? with
    | none => (.ok (), slots)
    | some (.api _ text) => (.error (Kubernetes.wrapped action text), slots)
    | some (.other error) => (.error (Kubernetes.wrapped action error.message), slots)
  have nextKeeps (refusal? : Option Refusal) : KeepsTo own (next refusal?) := by
    rcases refusal? with - | refusal
    · exact KeepsTo.pure _
    · cases refusal <;> exact KeepsTo.pure _
  refine (answer_keepsTo server (.patch target manifest) mine).bind nextKeeps fun slots => ?_
  rw [patchExisting]
  rcases server.api.answer (.patch target manifest) slots with ⟨refusal?, after⟩
  rcases refusal? with - | refusal
  · rfl
  · cases refusal <;> rfl

private theorem applySingleManifest_keepsTo {own : ObjectKey → Prop} (server : Server ν)
    (manifest : Manifest) (space : Option Text)
    (mine : ∀ target key, creationTarget manifest space = .ok (some target) →
      target.key? = some key → own key) :
    KeepsTo own (applySingleManifest server.api manifest space) := by
  have steps := applySingleManifest_eq server.api manifest space
  cases addressed : creationTarget manifest space with
  | error error =>
      rw [funext fun slots => (steps slots).trans (by rw [addressed])]
      exact KeepsTo.pure _
  | ok target? =>
      rcases target? with - | target
      · rw [funext fun slots => (steps slots).trans (by rw [addressed])]
        exact KeepsTo.pure _
      · have targetMine : ∀ key, target.key? = some key → own key :=
          fun key => mine target key addressed
        let next (refusal? : Option Refusal) (slots : Slots ν) : Except Error Unit × Slots ν :=
          match refusal? with
          | none => (.ok (), slots)
          | some (.api status text) =>
              if status = 409 then patchExisting server.api manifest target slots
              else (.error (Kubernetes.wrapped (lit "creating " ++ manifest.kindText) text), slots)
          | some (.other error) => (.error error, slots)
        have nextKeeps (refusal? : Option Refusal) : KeepsTo own (next refusal?) := by
          rcases refusal? with - | refusal
          · exact KeepsTo.pure _
          · cases refusal with
            | other error => exact KeepsTo.pure _
            | api status text =>
                by_cases conflict : status = 409
                · simp only [next, conflict, if_true]
                  exact patchExisting_keepsTo server manifest targetMine
                · simp only [next, conflict, if_false]
                  exact KeepsTo.pure _
        refine (answer_keepsTo server (.create target manifest) targetMine).bind nextKeeps
          fun slots => ?_
        rw [steps, addressed]
        dsimp only
        rcases server.api.answer (.create target manifest) slots with ⟨refusal?, after⟩
        rcases refusal? with - | refusal
        · rfl
        · cases refusal <;> rfl

private theorem applyDocuments_keepsTo (call : WorkloadsCall) (server : Server ν) (index : Nat) :
    KeepsTo (call.Named index) (call.applyDocuments server.api index) := by
  refine KeepsTo.forEach fun rendered member => ?_
  rw [applyManifestFromFile_document]
  refine applySingleManifest_keepsTo server _ _ fun target key created addressed => ?_
  have named : target.name = some rendered.name := creationTarget_name rfl created
  exact (name_of_key? named addressed).trans (renderedTemplate_name member)

private theorem deleteExisting_keepsTo (call : WorkloadsCall) (server : Server ν) (index : Nat) :
    KeepsTo (call.Named index) fun slots => ((), call.deleteExisting server.api index slots) := by
  unfold deleteExisting
  cases call.workloadType with
  | deployment | statefulset => exact KeepsTo.pure ()
  | job =>
      refine (answer_keepsTo server _ fun key addressed => ?_).bind
        (fun _ => KeepsTo.pure ()) fun slots => rfl
      exact name_of_key? rfl addressed

private theorem applyWorkload_keepsTo (call : WorkloadsCall) (server : Server ν)
    (run : WorkloadsRun)
    (index : Nat) : KeepsTo (call.Named index) (call.applyWorkload server.api run index) := by
  unfold applyWorkload
  by_cases found : run.templateFound index = true
  · simp only [found, if_true]
    let next (result : Except Error Unit) (slots : Slots ν) :
        Option (Except Error Unit) × Slots ν :=
      match result with
      | .error error => (some (.error error), slots)
      | .ok () => (call.awaitWorkload run index, slots)
    have nextKeeps (result : Except Error Unit) : KeepsTo (call.Named index) (next result) := by
      cases result <;> exact KeepsTo.pure _
    have applied : KeepsTo (call.Named index) fun slots =>
        call.applyDocuments server.api index (call.deleteExisting server.api index slots) :=
      (call.deleteExisting_keepsTo server index).bind
        (fun _ => call.applyDocuments_keepsTo server index) fun slots => rfl
    refine applied.bind nextKeeps fun slots => ?_
    rcases call.applyDocuments server.api index (call.deleteExisting server.api index slots) with
      ⟨result, after⟩
    cases result <;> rfl
  · simp only [found]
    exact KeepsTo.pure _

private theorem indices_apart (call : WorkloadsCall) :
    call.indices.Pairwise fun first second =>
      ∀ key, call.Named first key → ¬ call.Named second key := by
  refine call.indices_nodup.imp fun different key named alsoNamed => different ?_
  exact call.resourceName_injective (named.symm.trans alsoNamed)

/-- Every workload ends, on the server and for the caller, as if it were the only one of the
call: a failed one changes nothing for the others, objects of other names are not touched,
and the call returns whether all have been created. -/
theorem workloads_end_alone (call : WorkloadsCall) (server : Server ν) (run : WorkloadsRun)
    (slots : Slots ν) :
    (∀ index, ∃ outcome, (call.applyWorkload server.api run index slots).1 = some outcome) ∧
      ((call.createWorkloads server.api run slots).1 = true ↔
        0 ≤ call.numberOfWorkloads ∧
          ∀ index : Nat, 1 ≤ index → (index : Int) ≤ call.numberOfWorkloads →
            (call.applyWorkload server.api run index slots).1 = some (.ok ())) ∧
      (∀ index : Nat, 1 ≤ index → (index : Int) ≤ call.numberOfWorkloads →
        ∀ key, key.name = call.resourceName index →
          (call.createWorkloads server.api run slots).2 key =
            (call.applyWorkload server.api run index slots).2 key) ∧
      ∀ key, (∀ index : Nat, 1 ≤ index → (index : Int) ≤ call.numberOfWorkloads →
          key.name ≠ call.resourceName index) →
        (call.createWorkloads server.api run slots).2 key = slots key := by
  obtain ⟨outcomes, own, others⟩ := attemptAll_apart
    (fun index _ => call.applyWorkload_keepsTo server run index) call.indices_apart slots
  refine ⟨fun index => ?_, ?_, ?_, ?_⟩
  · exact (call.applyWorkload_spec server.api run index slots).imp fun _ ended => ended.1
  · rw [createWorkloads_eq_true_iff, outcomes]
    simp only [List.forall_mem_map, mem_indices_iff, and_imp]
  · intro index positive within key named
    exact own index (mem_indices_iff.mpr ⟨positive, within⟩) key named
  · intro key foreign
    refine others key fun index member => ?_
    obtain ⟨positive, within⟩ := mem_indices_iff.mp member
    exact foreign index positive within

end Apart

/-! ## A server on which a deleted object can stay -/

section Lingering

variable {ν : Type} {server : LingeringServer ν} {call : WorkloadsCall} {run : WorkloadsRun}
  {index : Nat} {objects : LingeringObjects ν}

/-- Nothing stands in the way of an object: it is not on its way out and, as a job is deleted
before it is applied, there is no job. -/
def Unhindered (call : WorkloadsCall) (server : LingeringServer ν) (slot : Option ν) : Prop :=
  match call.workloadType with
  | .job => slot = none
  | _ => Settled server.terminating slot

theorem Unhindered.undisturbed {before after : Option ν}
    (unhindered : call.Unhindered server before)
    (undisturbed : Undisturbed server.terminating before after) :
    call.Unhindered server after := by
  unfold Unhindered at unhindered ⊢
  cases type : call.workloadType with
  | job =>
      rw [type] at unhindered
      obtain rfl : before = none := unhindered
      rcases undisturbed with rfl | ⟨-, gone⟩
      · rfl
      · exact gone
  | deployment | statefulset =>
      rw [type] at unhindered
      exact undisturbed.settled unhindered

theorem deleteExisting_shrunk (call : WorkloadsCall) (server : LingeringServer ν) (index : Nat)
    (objects : LingeringObjects ν) :
    server.Shrunk (call.Named index) objects.slots
      (call.deleteExisting server.api index objects).slots := by
  unfold deleteExisting
  cases call.workloadType with
  | deployment | statefulset => exact .refl objects.slots
  | job => exact LingeringServer.answer_shrunk (fun _ => name_of_key? rfl) objects

private theorem deleteExisting_settled {key : ObjectKey}
    (unhindered : call.Unhindered server (objects.slots key)) :
    Settled server.terminating ((call.deleteExisting server.api index objects).slots key) := by
  have recedes := (call.deleteExisting_shrunk server index objects).recedes key
  unfold Unhindered at unhindered
  cases type : call.workloadType with
  | job =>
      rw [type] at unhindered
      rw [show objects.slots key = none from unhindered] at recedes
      intro object found
      rcases recedes object found with same | ⟨present, -⟩
      · cases same
      · cases present
  | deployment | statefulset =>
      rw [type] at unhindered
      simp only [deleteExisting, type]
      exact unhindered

theorem createdKey?_rendered {rendered : Rendered}
    (member : rendered ∈ call.renderedTemplate index) :
    createdKey? (some call.namespace) rendered.manifest =
      some (rendered.key call.namespace) := by
  have nonempty : rendered.name ≠ [] := by
    rw [renderedTemplate_name member]
    exact call.resourceName_ne_nil index
  obtain ⟨target, created, addressed⟩ :=
    creationTarget_rendered call.namespace (renderedTemplate_kind member) nonempty
  rw [LingeringServer.createdKey?_of_creationTarget created, addressed]

private theorem applyDocuments_grown (call : WorkloadsCall) (server : LingeringServer ν)
    (index : Nat)
    (objects : LingeringObjects ν) :
    server.Grown (call.Named index) objects.slots
      (call.applyDocuments server.api index objects).2.slots := by
  let holds (after : LingeringObjects ν) : Prop :=
    server.Grown (call.Named index) objects.slots after.slots
  suffices kept : ∀ rendered ∈ call.renderedTemplate index, ∀ state, holds state →
      holds (applyManifestFromFile server.api ⟨none, rendered.document⟩
        (some call.namespace) state).2 from
    forEach_invariant kept (LingeringServer.Grown.refl objects.slots)
  intro rendered member state grown
  rw [applyManifestFromFile_document]
  refine grown.trans (LingeringServer.apply_grown (fun key created => ?_) state)
  rw [createdKey?_rendered member] at created
  obtain rfl := Option.some.inj created
  exact renderedTemplate_name member

/-- Once all its documents have been applied, the objects of an index stay. -/
theorem applyDocuments_live
    (returned : (call.applyDocuments server.api index objects).1 = .ok ()) {rendered : Rendered}
    (member : rendered ∈ call.renderedTemplate index)
    (settled : Settled server.terminating (objects.slots (rendered.key call.namespace))) :
    Live server.terminating ((call.applyDocuments server.api index objects).2.slots
      (rendered.key call.namespace)) := by
  let kept (after : LingeringObjects ν) : Prop :=
    Settled server.terminating (after.slots (rendered.key call.namespace))
  let apply (next : Rendered) := applyManifestFromFile server.api ⟨none, next.document⟩
    (some call.namespace)
  have grows (next : Rendered) (state : LingeringObjects ν) :
      server.Grown (fun _ => True) state.slots (apply next state).2.slots := by
    simp only [apply, applyManifestFromFile_document]
    exact server.apply_grows next.manifest (some call.namespace) state
  have keeps : ∀ next ∈ call.renderedTemplate index, ∀ state, kept state →
      kept (apply next state).2 :=
    fun next _ state => (grows next state).settled _
  refine forEach_establishes (fun next after => next = rendered →
    Live server.terminating (after.slots (rendered.key call.namespace))) keeps ?_ ?_
    (show kept objects from settled) returned rendered member rfl
  · rintro next - state reached applied rfl
    simp only [apply, applyManifestFromFile_document] at applied ⊢
    exact LingeringServer.apply_live (createdKey?_rendered member) reached applied
  · intro next _ other _ state _ _ live same
    exact (grows next state).live _ (live same)

/-- A workload leaves the objects of other names alone. -/
theorem applyWorkload_undisturbed (run : WorkloadsRun) {key : ObjectKey}
    (foreign : ¬ call.Named index key) (objects : LingeringObjects ν) :
    Undisturbed server.terminating (objects.slots key)
      ((call.applyWorkload server.api run index objects).2.slots key) := by
  let holds (after : LingeringObjects ν) : Prop :=
    Undisturbed server.terminating (objects.slots key) (after.slots key)
  refine applyWorkload_keeps (fun state (reached : holds state) => ?_)
    (fun state (reached : holds state) => ?_) (show holds objects from .inl rfl)
  · exact reached.trans ((call.deleteExisting_shrunk server index state).frame key foreign)
  · exact reached.trans ((call.applyDocuments_grown server index state).frame key foreign)

private theorem applyWorkload_live
    (returned : (call.applyWorkload server.api run index objects).1 = some (.ok ()))
    {rendered : Rendered} (member : rendered ∈ call.renderedTemplate index)
    (unhindered : call.Unhindered server (objects.slots (rendered.key call.namespace))) :
    Live server.terminating ((call.applyWorkload server.api run index objects).2.slots
      (rendered.key call.namespace)) := by
  obtain ⟨-, applied, ended⟩ := applyWorkload_of_created returned
  rw [ended]
  exact applyDocuments_live applied member (deleteExisting_settled unhindered)

/-- When the call returns that all workloads have been created, each object met its condition,
the pods of a deployment or statefulset were ready in the given number, and each document of
which nothing stood in the way has its object on the server, where it stays. -/
theorem created_workloads_verified (call : WorkloadsCall) (server : LingeringServer ν)
    (run : WorkloadsRun) (objects : LingeringObjects ν)
    (returned : (call.createWorkloads server.api run objects).1 = true) (index : Nat)
    (positive : 1 ≤ index) (within : (index : Int) ≤ call.numberOfWorkloads) :
    call.Verified run index ∧ ∀ rendered ∈ call.renderedTemplate index,
      call.Unhindered server (objects.slots (rendered.key call.namespace)) →
        Live server.terminating ((call.createWorkloads server.api run objects).2.slots
          (rendered.key call.namespace)) := by
  have member : index ∈ call.indices := mem_indices_iff.mpr ⟨positive, within⟩
  obtain ⟨-, all⟩ := (call.createWorkloads_eq_true_iff server.api run objects).mp returned
  constructor
  · let ready (_ : LingeringObjects ν) : Prop := True
    let holds (_ : LingeringObjects ν) : Prop := call.Verified run index
    exact attemptAll_establishes ready holds call.indices_nodup member
      (fun _ _ _ _ => trivial) (fun _ _ _ verified => verified)
      (fun _ _ created => (applyWorkload_of_created created).1) trivial all
  · intro rendered inTemplate unhindered
    have named : call.Named index (rendered.key call.namespace) :=
      renderedTemplate_name inTemplate
    have foreign {other : Nat} (different : other ≠ index) :
        ¬ call.Named other (rendered.key call.namespace) :=
      fun alsoNamed => different (call.resourceName_injective (alsoNamed.symm.trans named))
    let ready (state : LingeringObjects ν) : Prop :=
      call.Unhindered server (state.slots (rendered.key call.namespace))
    let holds (state : LingeringObjects ν) : Prop :=
      Live server.terminating (state.slots (rendered.key call.namespace))
    refine attemptAll_establishes ready holds call.indices_nodup member
      ?_ ?_ ?_ (show ready objects from unhindered) all
    · intro other different state reached
      exact reached.undisturbed (applyWorkload_undisturbed run (foreign different) state)
    · intro other different state live
      exact (applyWorkload_undisturbed run (foreign different) state).live live
    · intro state reached created
      exact applyWorkload_live created inTemplate reached
end Lingering

/-! The first of two deployments is already there, and both are available at once. -/

def availableView : View where
  deployments :=
    ⟨.ok [], fun _ => .ok ⟨some ⟨some [⟨lit "Available", lit "True"⟩], some 1, some 1⟩⟩⟩
  statefulsets := ⟨.ok [], fun _ => .error notFound⟩
  jobs := ⟨.ok [], fun _ => .error notFound⟩

private theorem promptClock_start : (0 : ℚ) ≤ 10 * (0 : Nat) := by simp

private theorem promptClock_pauses (index : Nat) :
    (10 * index : ℚ) + 10 ≤ 10 * (index + 1 : Nat) := by
  push_cast
  linarith

def oneReadyPod : PodsTrace where
  clock :=
    { start := 0
      now := fun index => 10 * index
      startBefore := promptClock_start
      pauses := promptClock_pauses }
  labelled _ := .ok []
  listed _ := .ok [⟨lit "myapp", lit "Running", some [⟨lit "Ready", lit "True"⟩]⟩]

def twoDeployments : WorkloadsCall where
  workloadType := .deployment
  nodePoolName := lit "userpool"
  count := 1
  numberOfWorkloads := 2
  templateDir := lit "crud/workload_templates"
  labelSelector := lit "app=nginx-container"
  «namespace» := lit "default"
  stepTimeout := 600

def availableRun : WorkloadsRun where
  templateFound _ := true
  wait _ := steadyTrace availableView
  pods _ := oneReadyPod

def earlierDeployment : Manifest :=
  { (twoDeployments.service 1).manifest with
    kind := some (lit "Deployment")
    apiVersion := some (lit "apps/v1")
    content := lit "replicas: 3" }

def firstDeployed : LingeringObjects LingeringServer.Stored where
  slots key :=
    if key = Kind.deployment.objectKey (lit "default") (lit "myapp-userpool-1") then
      some ⟨earlierDeployment, false⟩
    else none
  moment := 0

def patchingServer : LingeringServer LingeringServer.Stored :=
  .slow (fun _ body => body) fun moment _ => decide (5 < moment)

private theorem firstDeployed_unhindered (key : ObjectKey) :
    twoDeployments.Unhindered patchingServer (firstDeployed.slots key) := by
  intro object found
  simp only [firstDeployed] at found
  split at found
  · cases found
    rfl
  · cases found

theorem twoDeployments_verified :
    let created := twoDeployments.createWorkloads patchingServer.api availableRun firstDeployed
    created.1 = true ∧ twoDeployments.Verified availableRun 1 ∧
      ∀ rendered ∈ twoDeployments.renderedTemplate 1,
        Live patchingServer.terminating (created.2.slots (rendered.key (lit "default"))) := by
  intro created
  have returned : created.1 = true := by decide +kernel
  obtain ⟨verified, live⟩ := created_workloads_verified twoDeployments patchingServer
    availableRun firstDeployed returned 1 (by decide) (by decide)
  refine ⟨returned, verified, fun rendered member => ?_⟩
  exact live rendered member (firstDeployed_unhindered _)

end WorkloadsCall

end Telescope.Crud
