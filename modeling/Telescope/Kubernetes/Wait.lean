import Telescope.Data.Polling
import Telescope.Kubernetes.Apply
import Telescope.Text.CharClass

namespace Telescope.Kubernetes

open Telescope

/-! Waiting for a condition of deployments, statefulsets and jobs
(`KubernetesClient.wait_for_condition`).  The answers of the API server to each poll
are inputs. -/

structure Condition where
  type : Text
  status : Text

structure DeploymentStatus where
  conditions : Option (List Condition)
  readyReplicas : Option Nat
  replicas : Option Nat

structure Deployment where
  status : Option DeploymentStatus

structure StatefulSet where
  replicas : Option Nat
  readyReplicas : Option (Option Nat)

structure JobStatus where
  conditions : Option (List Condition)
  succeeded : Option Nat

structure Job where
  completions : Option Nat
  status : Option JobStatus

/-- How the server answers one poll of a resource type: a listing of the namespace, and
a read by name. -/
structure Answers (α : Type) where
  list : Except Refusal (List α)
  read : Text → Except Refusal α

structure View where
  deployments : Answers Deployment
  statefulsets : Answers StatefulSet
  jobs : Answers Job

/-- Of `str.lower` only the ASCII letters matter: no other letter is lowered to one that
occurs in the names compared here. -/
def lowerText (text : Text) : Text := text.map Char.toLower

def ready : Text := lit "ready"

def complete : Text := lit "complete"

/-! ## One resource -/

/-- `condition.type.lower() == condition_type and condition.status == "True"` for some
condition. -/
def carries (conditions : Option (List Condition)) (conditionType : Text) : Bool :=
  (conditions.getD []).any fun condition =>
    lowerText condition.type = conditionType ∧ condition.status = lit "True"

/-- The counters of a deployment without replicas compare `None` with a number. -/
def isDeploymentConditionMet (deployment : Deployment) (conditionType : Text) :
    Except Error Bool :=
  match deployment.status with
  | none => .ok false
  | some status =>
      if (status.conditions.getD []).isEmpty then .ok false
      else if carries status.conditions conditionType then .ok true
      else if conditionType = ready then
        if status.readyReplicas = status.replicas then
          match status.replicas with
          | some replicas => .ok (decide (replicas > 0))
          | none => .error ⟨.external,
              lit "'>' not supported between instances of 'NoneType' and 'int'"⟩
        else .ok false
      else .ok false

def isStatefulsetReady (statefulset : StatefulSet) : Bool :=
  match statefulset.readyReplicas with
  | some (some readyReplicas) => decide (readyReplicas = statefulset.replicas.getD 0)
  | _ => false

/-- `job.spec.completions or 1` -/
def specCompletions (job : Job) : Nat :=
  match job.completions with
  | some (completions + 1) => completions + 1
  | _ => 1

def isJobConditionMet (job : Job) (conditionType : Text) : Bool :=
  match job.status with
  | none => false
  | some status =>
      if carries status.conditions conditionType then true
      else if conditionType = complete then
        match status.succeeded with
        | some succeeded => decide (specCompletions job ≤ succeeded)
        | none => false
      else false

/-! ## One poll -/

structure WaitRequest where
  resourceType : Text
  waitConditionType : Text
  timeoutSeconds : Int
  resourceName : Option Text
  waitAll : Bool

def WaitRequest.select {α : Type} (request : WaitRequest) (answers : Answers α) :
    Except Refusal (List α) :=
  match presentText request.resourceName with
  | none => answers.list
  | some name =>
      if request.waitAll then answers.list
      else (answers.read name).map fun resource => [resource]

/-- The first resource that does not meet the condition ends the loop. -/
def allMet {α : Type} (met : α → Except Error Bool) : List α → Except Error Bool
  | [] => .ok true
  | resource :: rest => do
      if ← met resource then allMet met rest else .ok false

/-- The three checkers differ in what they read and in the condition of one resource. -/
def checkCondition {α : Type} (request : WaitRequest) (answers : Answers α)
    (met : α → Except Error Bool) : Except Error Bool :=
  match request.select answers with
  | .ok resources => allMet met resources
  | .error (.api status text) =>
      if status = 404 then .ok false else .error (Refusal.api status text).error
  | .error (.other error) => .error error

def checkDeploymentCondition (request : WaitRequest) (conditionType : Text) (view : View) :
    Except Error Bool :=
  checkCondition request view.deployments
    fun deployment => isDeploymentConditionMet deployment conditionType

def checkStatefulsetCondition (request : WaitRequest) (view : View) : Except Error Bool :=
  checkCondition request view.statefulsets
    fun statefulset => .ok (isStatefulsetReady statefulset)

def checkJobCondition (request : WaitRequest) (conditionType : Text) (view : View) :
    Except Error Bool :=
  checkCondition request view.jobs fun job => .ok (isJobConditionMet job conditionType)

inductive ResourceType where
  | deployment | statefulset | job
  deriving DecidableEq

def resourceType? (text : Text) : Option ResourceType :=
  if lowerText text ∈ [lit "deployment", lit "deployments"] then some .deployment
  else if lowerText text ∈ [lit "statefulset", lit "statefulsets"] then some .statefulset
  else if lowerText text ∈ [lit "job", lit "jobs"] then some .job
  else none

/-- An exception of a checker counts as an unmet condition. -/
def checkResourceCondition (request : WaitRequest) (resourceType : ResourceType)
    (conditionType : Text) (view : View) : Bool :=
  let checked := match resourceType with
    | .deployment => checkDeploymentCondition request conditionType view
    | .statefulset => checkStatefulsetCondition request view
    | .job => checkJobCondition request conditionType view
  match checked with
  | .ok met => met
  | .error _ => false

/-! ## The loop -/

def validConditions : ResourceType → List Text
  | .deployment => [lit "available", lit "progressing", lit "replicafailure", ready]
  | .statefulset => [ready]
  | .job => [complete, lit "failed"]

def WaitRequest.condition (request : WaitRequest) : Text :=
  stripText (lowerText request.waitConditionType)

def quoted (text : Text) : Text := lit "'" ++ text ++ lit "'"

def WaitRequest.validate (request : WaitRequest) : Except Error ResourceType :=
  if request.waitConditionType = [] then
    .error (.valueError (lit "wait_condition_type must be a non-empty string"))
  else
    match resourceType? request.resourceType with
    | none => .error (.valueError (lit "Resource type " ++ quoted request.resourceType ++
        lit " is not supported for condition checking"))
    | some resourceType =>
        if request.condition ∈ validConditions resourceType then .ok resourceType
        else .error (.valueError (lit "Invalid condition " ++
          quoted request.waitConditionType ++ lit " for resource type " ++
          quoted request.resourceType ++ lit ". Valid conditions: " ++
          joinText (lit ", ") (validConditions resourceType)))

/-- The readings of the loop's clock, which sleeps between two polls, and the answers. -/
structure WaitTrace where
  clock : PausedClock 5
  view : Nat → View

def WaitTrace.due (trace : WaitTrace) (request : WaitRequest) (index : Nat) : Bool :=
  decide (trace.clock.now index < trace.clock.start + request.timeoutSeconds)

def waitForCondition (request : WaitRequest) (trace : WaitTrace) (fuel : Nat) :
    Except Error (Option PollExit) := do
  let resourceType ← request.validate
  .ok (pollUntil (trace.due request) (fun index =>
    checkResourceCondition request resourceType request.condition (trace.view index)) fuel 0)

/-! ## What the condition means

A number that a resource does not carry is zero: the API omits zeros. -/

def Deployment.Meets (deployment : Deployment) (conditionType : Text) : Prop :=
  carries (deployment.status.bind DeploymentStatus.conditions) conditionType = true

def StatefulSet.Meets (statefulset : StatefulSet) : Prop :=
  (statefulset.readyReplicas.join).getD 0 = statefulset.replicas.getD 0

def Job.Meets (job : Job) (conditionType : Text) : Prop :=
  carries (job.status.bind JobStatus.conditions) conditionType = true ∨
    (conditionType = complete ∧
      job.completions.getD 0 ≤ (job.status.bind JobStatus.succeeded).getD 0)

/-- The number of ready replicas stands in the answer, be it zero. -/
def StatefulSet.StatesReady (statefulset : StatefulSet) : Prop :=
  statefulset.readyReplicas.join.isSome = true

/-- The answer carries the condition or counts a success. -/
def Job.StatesSuccess (job : Job) (conditionType : Text) : Prop :=
  carries (job.status.bind JobStatus.conditions) conditionType = true ∨
    1 ≤ (job.status.bind JobStatus.succeeded).getD 0

def SelectionMeets {α : Type} (selected : Except Refusal (List α)) (meets : α → Prop) :
    Prop :=
  ∃ resources, selected = .ok resources ∧ resources ≠ [] ∧
    ∀ resource ∈ resources, meets resource

def Satisfied (request : WaitRequest) (resourceType : ResourceType) (view : View) : Prop :=
  match resourceType with
  | .deployment => SelectionMeets (request.select view.deployments)
      fun deployment => deployment.Meets request.condition
  | .statefulset => SelectionMeets (request.select view.statefulsets) StatefulSet.Meets
  | .job => SelectionMeets (request.select view.jobs)
      fun job => job.Meets request.condition

/-- Satisfied by what the resources state, not by what their answers leave out. -/
def StatedSatisfied (request : WaitRequest) (resourceType : ResourceType) (view : View) :
    Prop :=
  match resourceType with
  | .deployment => SelectionMeets (request.select view.deployments)
      fun deployment => deployment.Meets request.condition
  | .statefulset => SelectionMeets (request.select view.statefulsets)
      fun statefulset => statefulset.Meets ∧ statefulset.StatesReady
  | .job => SelectionMeets (request.select view.jobs)
      fun job => job.Meets request.condition ∧ job.StatesSuccess request.condition

def SelectsNothing (request : WaitRequest) (resourceType : ResourceType) (view : View) :
    Prop :=
  match resourceType with
  | .deployment => request.select view.deployments = .ok []
  | .statefulset => request.select view.statefulsets = .ok []
  | .job => request.select view.jobs = .ok []

/-! ## The check against its meaning -/

private theorem allMet_eq_true_iff {α : Type} {met : α → Except Error Bool} {resources : List α} :
    allMet met resources = .ok true ↔ ∀ resource ∈ resources, met resource = .ok true := by
  induction resources with
  | nil => simp [allMet]
  | cons resource rest induction =>
      rw [allMet, List.forall_mem_cons, ← induction]
      cases met resource with
      | error error => simp [bind, Except.bind]
      | ok passes => cases passes <;> simp [bind, Except.bind]

theorem checkCondition_eq_true_iff {α : Type} {request : WaitRequest} {answers : Answers α}
    {met : α → Except Error Bool} :
    checkCondition request answers met = .ok true ↔
      ∃ resources, request.select answers = .ok resources ∧
        ∀ resource ∈ resources, met resource = .ok true := by
  unfold checkCondition
  cases request.select answers with
  | ok resources => simp [allMet_eq_true_iff]
  | error refusal =>
      cases refusal with
      | other error => simp
      | api status text => by_cases absent : status = 404 <;> simp [absent]

/-- A check of what resources show passes on an empty list, and when all of them show
it. -/
private theorem checkCondition_shows_iff {α : Type} {request : WaitRequest}
    {answers : Answers α} {met : α → Except Error Bool} {shows : α → Prop}
    (decides : ∀ resource, met resource = .ok true ↔ shows resource) :
    checkCondition request answers met = .ok true ↔
      request.select answers = .ok [] ∨ SelectionMeets (request.select answers) shows := by
  rw [checkCondition_eq_true_iff]
  constructor
  · rintro ⟨resources, selected, all⟩
    cases resources with
    | nil => exact .inl selected
    | cons resource rest =>
        refine .inr ⟨resource :: rest, selected, List.cons_ne_nil _ _, ?_⟩
        intro other member
        exact (decides other).mp (all other member)
  · rintro (empty | ⟨resources, selected, -, all⟩)
    · exact ⟨[], empty, List.forall_mem_nil _⟩
    · exact ⟨resources, selected,
        fun resource member => (decides resource).mpr (all resource member)⟩

private theorem isDeploymentConditionMet_iff {conditionType : Text}
    (notReady : conditionType ≠ ready) (deployment : Deployment) :
    isDeploymentConditionMet deployment conditionType = .ok true ↔
      deployment.Meets conditionType := by
  unfold isDeploymentConditionMet Deployment.Meets
  cases deployment.status with
  | none => simp [carries]
  | some status =>
      cases conditions : status.conditions.getD [] with
      | nil => simp [carries, conditions]
      | cons condition rest =>
          cases carried : carries status.conditions conditionType with
          | true => simp [conditions, carried]
          | false => simp [conditions, carried, notReady]

private theorem isStatefulsetReady_iff (statefulset : StatefulSet) :
    isStatefulsetReady statefulset = true ↔
      statefulset.Meets ∧ statefulset.StatesReady := by
  unfold isStatefulsetReady StatefulSet.Meets StatefulSet.StatesReady
  match statefulset.readyReplicas with
  | none => simp
  | some none => simp
  | some (some readyReplicas) => simp

/-- `completions or 1` asks for at least one success, and for all completions. -/
private theorem specCompletions_le_iff {job : Job} {successes : Nat} :
    specCompletions job ≤ successes ↔
      job.completions.getD 0 ≤ successes ∧ 1 ≤ successes := by
  unfold specCompletions
  match job.completions with
  | none => simp
  | some 0 => simp
  | some (completions + 1) =>
      simp only [Option.getD_some]
      omega

theorem isJobConditionMet_iff (job : Job) (conditionType : Text) :
    isJobConditionMet job conditionType = true ↔
      job.Meets conditionType ∧ job.StatesSuccess conditionType := by
  unfold isJobConditionMet Job.Meets Job.StatesSuccess
  cases job.status with
  | none => simp [carries]
  | some status =>
      cases carried : carries status.conditions conditionType with
      | true => simp [carried]
      | false =>
          cases Decidable.em (conditionType = complete) with
          | inr other => simp [carried, other]
          | inl completes =>
              subst completes
              cases counted : status.succeeded with
              | none => simp [carried, counted]
              | some successes => simp [carried, counted, specCompletions_le_iff]

/-- The job carries the condition `Complete`, or it has counted a success and as many as
its completions; a job without completions is complete after one success. -/
def Job.Completed (job : Job) : Prop :=
  carries (job.status.bind JobStatus.conditions) complete = true ∨
    (1 ≤ (job.status.bind JobStatus.succeeded).getD 0 ∧
      job.completions.getD 0 ≤ (job.status.bind JobStatus.succeeded).getD 0)

theorem isJobConditionMet_complete_iff (job : Job) :
    isJobConditionMet job complete = true ↔ job.Completed := by
  rw [isJobConditionMet_iff, Job.Meets, Job.StatesSuccess, ← or_and_left, Job.Completed]
  refine or_congr_right ?_
  rw [and_comm, and_congr_right_iff]
  intro _
  exact and_iff_right rfl

theorem eq_ok_of_passes {checked : Except Error Bool}
    (passes : (match checked with | .ok met => met | .error _ => false) = true) :
    checked = .ok true := by
  cases checked with
  | error error => exact nomatch passes
  | ok met => rw [show met = true from passes]

private theorem passes_iff {checked : Except Error Bool} :
    (match checked with | .ok met => met | .error _ => false) = true ↔
      checked = .ok true := by
  constructor
  · exact eq_ok_of_passes
  · intro passed
    rw [passed]

/-- The check passes when nothing is selected, and when everything selected states that
it meets the condition. -/
theorem checkResourceCondition_iff {request : WaitRequest} {resourceType : ResourceType}
    (notReady : resourceType = .deployment → request.condition ≠ ready) (view : View) :
    checkResourceCondition request resourceType request.condition view = true ↔
      SelectsNothing request resourceType view ∨
        StatedSatisfied request resourceType view := by
  cases resourceType with
  | deployment =>
      exact passes_iff.trans
        (checkCondition_shows_iff (isDeploymentConditionMet_iff (notReady rfl)))
  | statefulset =>
      refine passes_iff.trans (checkCondition_shows_iff fun statefulset => ?_)
      rw [Except.ok.injEq]
      exact isStatefulsetReady_iff statefulset
  | job =>
      refine passes_iff.trans (checkCondition_shows_iff fun job => ?_)
      rw [Except.ok.injEq]
      exact isJobConditionMet_iff job request.condition

private theorem SelectionMeets.imp {α : Type} {selected : Except Refusal (List α)}
    {shows meets : α → Prop} (sound : ∀ resource, shows resource → meets resource)
    (all : SelectionMeets selected shows) : SelectionMeets selected meets := by
  obtain ⟨resources, answered, nonempty, shown⟩ := all
  exact ⟨resources, answered, nonempty,
    fun resource member => sound resource (shown resource member)⟩

theorem StatedSatisfied.satisfied {request : WaitRequest} {resourceType : ResourceType}
    {view : View} (stated : StatedSatisfied request resourceType view) :
    Satisfied request resourceType view := by
  cases resourceType with
  | deployment => exact stated
  | statefulset => exact stated.imp fun _ shown => shown.1
  | job => exact stated.imp fun _ shown => shown.1

theorem Satisfied.not_selectsNothing {request : WaitRequest} {resourceType : ResourceType}
    {view : View} (satisfied : Satisfied request resourceType view) :
    ¬ SelectsNothing request resourceType view := by
  intro empty
  cases resourceType with
  | deployment | statefulset | job =>
      obtain ⟨resources, selected, nonempty, -⟩ := satisfied
      exact nonempty (Except.ok.inj (selected.symm.trans empty))

/-! ## The wait against its meaning -/

/-- The wait returns, and says whether one of its polls was satisfied. -/
def MeansKubectlWait (request : WaitRequest) (resourceType : ResourceType)
    (trace : WaitTrace) : Prop :=
  ∃ fuel exit, waitForCondition request trace fuel = .ok (some exit) ∧
    (exit.passed = true ↔
      ∃ index < exit.polls, Satisfied request resourceType (trace.view index))

/-- At the first due poll that selects nothing or is satisfied, something is selected,
and at that poll or a later due one the answer is empty or states that the condition is
met. -/
def Recognised (request : WaitRequest) (resourceType : ResourceType) (trace : WaitTrace) :
    Prop :=
  let notable index := SelectsNothing request resourceType (trace.view index) ∨
    Satisfied request resourceType (trace.view index)
  ∀ index, trace.due request index = true → notable index →
    (∀ earlier < index, ¬ notable earlier) →
    ¬ SelectsNothing request resourceType (trace.view index) ∧
      ∃ later, index ≤ later ∧ trace.due request later = true ∧
        (SelectsNothing request resourceType (trace.view later) ∨
          StatedSatisfied request resourceType (trace.view later))

theorem WaitTrace.due_of_le {trace : WaitTrace} {request : WaitRequest}
    {earlier later : Nat} (ordered : earlier ≤ later)
    (isDue : trace.due request later = true) : trace.due request earlier = true := by
  rw [WaitTrace.due, decide_eq_true_iff] at isDue ⊢
  exact (trace.clock.now_monotone (by norm_num) ordered).trans_lt isDue

private theorem waitForCondition_returns {request : WaitRequest} {resourceType : ResourceType}
    (valid : request.validate = .ok resourceType) (trace : WaitTrace) :
    ∃ fuel exit, waitForCondition request trace fuel = .ok (some exit) := by
  obtain ⟨index, passed⟩ := trace.clock.exists_le_now (by norm_num)
    (trace.clock.start + request.timeoutSeconds)
  have late : trace.due request index = false := by
    rw [WaitTrace.due, decide_eq_false_iff_not]
    exact not_lt.mpr passed
  obtain ⟨fuel, exit, returned⟩ : ∃ fuel exit, pollUntil (trace.due request)
      (fun index => checkResourceCondition request resourceType request.condition
        (trace.view index)) fuel 0 = some exit :=
    exists_pollUntil ⟨index, Nat.zero_le index, late⟩
  refine ⟨fuel, exit, ?_⟩
  rw [waitForCondition, valid, ← returned]
  rfl

theorem waitForCondition_endsAt {request : WaitRequest} {resourceType : ResourceType}
    (valid : request.validate = .ok resourceType) {trace : WaitTrace} {fuel : Nat}
    {exit : PollExit} (returned : waitForCondition request trace fuel = .ok (some exit)) :
    ∃ last, EndsAt (trace.due request)
      (fun index => checkResourceCondition request resourceType request.condition
        (trace.view index)) last exit := by
  rw [waitForCondition, valid] at returned
  exact exists_endsAt_of_pollUntil (fun earlier below => absurd below (Nat.not_lt_zero _))
    (Except.ok.inj returned)

/-- Except for the readiness of deployments, `wait_for_condition` means what
`kubectl wait` means exactly when the answers let its check recognise the first notable
poll: an empty list must not come first, and a satisfied poll whose counters are left
out must be followed by one that the check accepts. -/
theorem wait_means_kubectl_wait_iff (request : WaitRequest) (resourceType : ResourceType)
    (valid : request.validate = .ok resourceType)
    (notReady : resourceType = .deployment → request.condition ≠ ready)
    (trace : WaitTrace) :
    MeansKubectlWait request resourceType trace ↔ Recognised request resourceType trace := by
  have passes : ∀ index, checkResourceCondition request resourceType request.condition
      (trace.view index) = true ↔ SelectsNothing request resourceType (trace.view index) ∨
        StatedSatisfied request resourceType (trace.view index) :=
    fun index => checkResourceCondition_iff notReady (trace.view index)
  have recognises : FirstNotablePasses (trace.due request)
      (fun index => checkResourceCondition request resourceType request.condition
        (trace.view index))
      (fun index => SelectsNothing request resourceType (trace.view index))
      (fun index => Satisfied request resourceType (trace.view index)) ↔
      Recognised request resourceType trace := by
    simp only [FirstNotablePasses, Recognised, passes]
  have reports {exit : PollExit} {last : Nat}
      (ends : EndsAt (trace.due request) (fun index =>
        checkResourceCondition request resourceType request.condition
          (trace.view index)) last exit) :=
    ends.reports_iff (fun _ _ => WaitTrace.due_of_le)
      (fun index passed => ((passes index).mp passed).imp_right StatedSatisfied.satisfied)
      (fun index empty => (passes index).mpr (.inl empty))
      (fun index => Satisfied.not_selectsNothing)
  rw [← recognises]
  constructor
  · rintro ⟨fuel, exit, returned, means⟩
    obtain ⟨last, ends⟩ := waitForCondition_endsAt valid returned
    exact (reports ends).mp means
  · intro recognised
    obtain ⟨fuel, exit, returned⟩ := waitForCondition_returns valid trace
    obtain ⟨last, ends⟩ := waitForCondition_endsAt valid returned
    exact ⟨fuel, exit, returned, (reports ends).mpr recognised⟩

/-! ## Unchanging answers -/

theorem steadyTrace_start : (0 : ℚ) ≤ 5 * (0 : Nat) := by simp

theorem steadyTrace_pauses (index : Nat) :
    (5 * index : ℚ) + 5 ≤ 5 * (index + 1 : Nat) := by
  push_cast
  linarith

def steadyTrace (view : View) : WaitTrace where
  clock :=
    { start := 0
      now := fun index => 5 * index
      startBefore := steadyTrace_start
      pauses := steadyTrace_pauses }
  view _ := view

def notFound : Refusal := .api 404 (lit "NotFound")

def jobsOf (answers : Answers Job) : View where
  deployments := ⟨.ok [], fun _ => .error notFound⟩
  statefulsets := ⟨.ok [], fun _ => .error notFound⟩
  jobs := answers

def statefulsetsOf (answers : Answers StatefulSet) : View where
  deployments := ⟨.ok [], fun _ => .error notFound⟩
  statefulsets := answers
  jobs := ⟨.ok [], fun _ => .error notFound⟩

def waitOn (resourceType condition : Text) (resourceName : Option Text) : WaitRequest where
  resourceType := resourceType
  waitConditionType := condition
  timeoutSeconds := 10
  resourceName := resourceName
  waitAll := false

def completedJob : Job where
  completions := some 1
  status := some ⟨some [⟨lit "Complete", lit "True"⟩], some 1⟩

/-- A statefulset scaled to zero: the server omits the zero of `readyReplicas`. -/
def emptyStatefulSet : StatefulSet where
  replicas := some 0
  readyReplicas := some none

theorem steadyTrace_exit {resourceType : ResourceType} {typeText condition : Text}
    {resourceName : Option Text} {view : View} {fuel : Nat} {exit : PollExit}
    (valid : (waitOn typeText condition resourceName).validate = .ok resourceType)
    (returned : waitForCondition (waitOn typeText condition resourceName)
      (steadyTrace view) fuel = .ok (some exit)) :
    0 < exit.polls ∧ exit.passed =
      checkResourceCondition (waitOn typeText condition resourceName) resourceType
        (waitOn typeText condition resourceName).condition view := by
  obtain ⟨last, ends⟩ := waitForCondition_endsAt valid returned
  have started : (steadyTrace view).due (waitOn typeText condition resourceName) 0 = true := by
    rw [WaitTrace.due, decide_eq_true_iff]
    norm_num [steadyTrace, waitOn]
  rcases ends.ending with ⟨-, checked, rfl⟩ | ⟨late, rfl⟩
  · exact ⟨Nat.succ_pos last, checked.symm⟩
  · rcases Nat.eq_zero_or_pos last with rfl | positive
    · rw [started] at late
      exact nomatch late
    · exact ⟨positive, (ends.before 0 positive).2.symm⟩

theorem completed_job_means_kubectl_wait :
    MeansKubectlWait (waitOn (lit "job") (lit "complete") (some (lit "build"))) .job
      (steadyTrace (jobsOf ⟨.ok [], fun _ => .ok completedJob⟩)) := by
  refine (wait_means_kubectl_wait_iff _ .job rfl (fun other => nomatch other) _).mpr ?_
  intro index isDue notable isFirst
  have stated : completedJob.Meets complete ∧ completedJob.StatesSuccess complete :=
    (isJobConditionMet_iff completedJob complete).mp (by decide)
  refine ⟨fun empty => (nomatch empty), index, le_refl index, isDue, .inr ?_⟩
  exact ⟨[completedJob], rfl, List.cons_ne_nil _ _, List.forall_mem_singleton.mpr stated⟩

/-- No job in the namespace counts as every job complete, and a statefulset scaled to
zero is never ready. -/
theorem empty_list_and_scale_to_zero_misread :
    ¬ MeansKubectlWait (waitOn (lit "job") (lit "complete") none) .job
        (steadyTrace (jobsOf ⟨.ok [], fun _ => .error notFound⟩)) ∧
      ¬ MeansKubectlWait (waitOn (lit "statefulset") (lit "ready") (some (lit "web")))
        .statefulset (steadyTrace (statefulsetsOf ⟨.ok [], fun _ => .ok emptyStatefulSet⟩)) := by
  constructor
  · rintro ⟨fuel, exit, returned, means⟩
    obtain ⟨-, passed⟩ := @steadyTrace_exit .job _ _ _ _ _ _ rfl returned
    obtain ⟨index, -, satisfied⟩ := means.mp (passed.trans (by decide))
    exact satisfied.not_selectsNothing rfl
  · rintro ⟨fuel, exit, returned, means⟩
    obtain ⟨polled, passed⟩ := @steadyTrace_exit .statefulset _ _ _ _ _ _ rfl returned
    have satisfied : Satisfied (waitOn (lit "statefulset") (lit "ready")
        (some (lit "web"))) .statefulset
        (statefulsetsOf ⟨.ok [], fun _ => .ok emptyStatefulSet⟩) :=
      ⟨[emptyStatefulSet], rfl, List.cons_ne_nil _ _,
        by simp [StatefulSet.Meets, emptyStatefulSet]⟩
    rw [passed] at means
    exact absurd (means.mpr ⟨0, polled, satisfied⟩) (by decide)

end Telescope.Kubernetes
