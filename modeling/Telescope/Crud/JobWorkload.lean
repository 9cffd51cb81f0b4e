import Telescope.Kubernetes.ObjectStore
import Telescope.Kubernetes.Wait

namespace Telescope.Crud

open Telescope Telescope.Kubernetes

/-! Job workloads (`NodePoolCRUD._apply_workload` with `workload_type` "job"): delete a
job of the same name, apply the rendered template, wait for completion.  The API server
and its controllers act between the calls. -/

structure WorkloadArgs where
  nodePoolName : Text
  index : Nat
  count : Nat
  labelSelector : Text
  «namespace» : Text
  namespaceNonempty : «namespace» ≠ []
  stepTimeout : Int

def WorkloadArgs.resourceName (args : WorkloadArgs) : Text :=
  lit "myapp-" ++ args.nodePoolName ++ lit "-" ++ natText args.index

/-- `label_selector.split('=', 1)[-1]`, then the type and the index. -/
def WorkloadArgs.workloadLabel (args : WorkloadArgs) : Text :=
  let value := match args.labelSelector.dropWhile (fun c => c ≠ '=') with
    | [] => args.labelSelector
    | _ :: value => value
  value ++ lit "-job-" ++ natText args.index

/-- The one document of `job.yml`, rendered. -/
def renderedJob (args : WorkloadArgs) : Manifest where
  kind := some (lit "Job")
  apiVersion := some (lit "batch/v1")
  metadata := .mapping ⟨some args.resourceName, none⟩
  spec := .mapping ⟨.absent⟩
  content := lit "completions: " ++ natText args.count ++ lit ", app: " ++ args.workloadLabel

def jobSources (args : WorkloadArgs) : Sources where
  manifestPath := none
  manifestDict := .object (renderedJob args)
    (show some (lit "Job") ≠ some (lit "List") by decide)

def waitRequest (args : WorkloadArgs) : WaitRequest where
  resourceType := lit "job"
  waitConditionType := lit "complete"
  timeoutSeconds := args.stepTimeout
  resourceName := some args.resourceName
  waitAll := false

/-! ## The job under the workload's name -/

inductive Origin where
  | earlier
  | thisCall
  deriving DecidableEq

structure JobObject where
  origin : Origin
  shown : Job

/-- What happens to the object without the client: its status changes, or a deletion
that is in progress ends. -/
inductive Change where
  | progress (shown : Job)
  | disappear

def change (slot : Option JobObject) : Change → Option JobObject
  | .progress shown => slot.map fun object => { object with shown := shown }
  | .disappear => none

def evolve (slot : Option JobObject) (changes : List Change) : Option JobObject :=
  changes.foldl change slot

/-- How the server answers the deletion before the creation: the job is gone, its
deletion is in progress, or the call raises (the job is not found, or any other error). -/
inductive Deletion where
  | removed
  | pending
  | failed (refusal : Refusal)

/-- The exception is swallowed. -/
def preDelete (slot : Option JobObject) : Deletion → Option JobObject
  | .removed => none
  | .pending => slot
  | .failed _ => slot

structure Opening where
  deletion : Deletion
  beforeCreate : List Change

def jobAtCreate (prior : Option Job) (opening : Opening) : Option JobObject :=
  evolve (preDelete (prior.map fun shown => ⟨.earlier, shown⟩) opening.deletion)
    opening.beforeCreate

structure Fault where
  refusal : Refusal
  effective : Bool

structure Continuation where
  shownAtCreation : Job
  createFault : Option Fault
  beforePatch : List Change
  patchFault : Option Refusal
  clock : PausedClock 5
  beforePoll : Nat → List Change
  readFault : Nat → Option Refusal

def Continuation.createJob (rest : Continuation) (slot : Option JobObject) :
    Option JobObject :=
  match slot with
  | some object => some object
  | none => some ⟨.thisCall, rest.shownAtCreation⟩

def jobApi (rest : Continuation) : Api (Option JobObject) where
  answer
    | .create _ _, slot =>
        match rest.createFault with
        | some fault =>
            (some fault.refusal, if fault.effective then rest.createJob slot else slot)
        | none =>
            match slot with
            | some object => (some (.api 409 (lit "AlreadyExists")), some object)
            | none => (none, rest.createJob none)
    | .patch _ _, slot =>
        let slot := evolve slot rest.beforePatch
        match rest.patchFault with
        | some refusal => (some refusal, slot)
        | none =>
            match slot with
            | some object => (none, some object)
            | none => (some notFound, none)
    | .delete _, slot => (some notFound, slot)

def appliedJob (args : WorkloadArgs) (prior : Option Job) (opening : Opening)
    (rest : Continuation) : Except Error Unit × Option JobObject :=
  applyManifestFromFile (jobApi rest) (jobSources args) (some args.namespace)
    (jobAtCreate prior opening)

def jobAtPoll (rest : Continuation) (applied : Option JobObject) : Nat → Option JobObject
  | 0 => evolve applied (rest.beforePoll 0)
  | index + 1 => evolve (jobAtPoll rest applied index) (rest.beforePoll (index + 1))

def readJob (rest : Continuation) (applied : Option JobObject) (index : Nat) :
    Except Refusal Job :=
  match rest.readFault index with
  | some refusal => .error refusal
  | none =>
      match jobAtPoll rest applied index with
      | some object => .ok object.shown
      | none => .error notFound

def waitTrace (rest : Continuation) (applied : Option JobObject) : WaitTrace where
  clock := rest.clock
  view index := jobsOf ⟨.ok [], fun _ => readJob rest applied index⟩

def timeoutError (args : WorkloadArgs) : Error :=
  ⟨.external, lit "Job " ++ args.resourceName ++
    lit " failed to become complete within timeout"⟩

/-- `_apply_workload`; when it returns, the wait has passed after the polls it reports. -/
def applyWorkload (args : WorkloadArgs) (prior : Option Job) (opening : Opening)
    (rest : Continuation) (fuel : Nat) : Except Error (Option PollExit) :=
  match appliedJob args prior opening rest with
  | (.error error, _) => .error error
  | (.ok (), applied) =>
      match waitForCondition (waitRequest args) (waitTrace rest applied) fuel with
      | .error error => .error error
      | .ok none => .ok none
      | .ok (some exit) =>
          if exit.passed then .ok (some exit) else .error (timeoutError args)

/-! ## Where the observed job comes from -/

def From (origin : Origin) (slot : Option JobObject) : Prop :=
  ∀ object, slot = some object → object.origin = origin

theorem From.none (origin : Origin) : From origin none := fun _ found => nomatch found

theorem From.change {origin : Origin} {slot : Option JobObject} (slotFrom : From origin slot)
    (step : Change) : From origin (change slot step) := by
  cases step with
  | disappear => exact From.none origin
  | progress shown =>
      intro object found
      obtain ⟨before, present, rfl⟩ := Option.map_eq_some_iff.mp found
      exact slotFrom before present

theorem From.evolve {origin : Origin} {slot : Option JobObject} (slotFrom : From origin slot)
    (changes : List Change) : From origin (evolve slot changes) := by
  induction changes generalizing slot with
  | nil => exact slotFrom
  | cons step rest induction => exact induction (slotFrom.change step)

private theorem jobAtCreate_earlier (prior : Option Job) (opening : Opening) :
    From .earlier (jobAtCreate prior opening) := by
  have before : From .earlier (prior.map fun shown => ⟨.earlier, shown⟩) := by
    intro object found
    obtain ⟨shown, -, rfl⟩ := Option.map_eq_some_iff.mp found
    rfl
  apply From.evolve
  cases opening.deletion with
  | removed => exact From.none .earlier
  | pending => exact before
  | failed refusal => exact before

theorem From.jobAtPoll {origin : Origin} {applied : Option JobObject}
    (appliedFrom : From origin applied) (rest : Continuation) (index : Nat) :
    From origin (jobAtPoll rest applied index) := by
  induction index with
  | zero => exact appliedFrom.evolve _
  | succ index induction => exact induction.evolve _

/-! ## Applying the template -/

def jobTarget (args : WorkloadArgs) : Target :=
  namespaced batchV1 "jobs" args.namespace (some args.resourceName)

theorem creationTarget_renderedJob (args : WorkloadArgs) :
    creationTarget (renderedJob args) (some args.namespace) = .ok (some (jobTarget args)) := by
  have dispatched : (renderedJob args).dispatch = some .job :=
    show Kind.supported.find? (fun kind => some kind.text = some (lit "Job")) = some .job by
      decide
  have chosen : appliedNamespace (some args.namespace) ⟨some args.resourceName, none⟩ =
      args.namespace := by
    rw [appliedNamespace, chosenNamespace_of_nonempty args.namespaceNonempty]
    rfl
  have read : (renderedJob args).readMetadata = .ok ⟨some args.resourceName, none⟩ := rfl
  simp only [creationTarget, read, bind, Except.bind, chosen, createTarget, dispatched]
  rfl

theorem appliedJob_eq (args : WorkloadArgs) (prior : Option Job) (opening : Opening)
    (rest : Continuation) :
    appliedJob args prior opening rest =
      applySingleManifest (jobApi rest) (renderedJob args) (some args.namespace)
        (jobAtCreate prior opening) := by
  have declared : expandAndValidateManifests [(jobSources args).manifestDict] =
      [renderedJob args] := rfl
  have loaded : loadManifestsFromSources (jobSources args) =
      .ok [(jobSources args).manifestDict] := rfl
  simp only [appliedJob, applyManifestFromFile, loaded, declared, forEach]
  rcases applySingleManifest (jobApi rest) (renderedJob args) (some args.namespace)
    (jobAtCreate prior opening) with ⟨outcome, after⟩
  cases outcome with
  | ok value => rfl
  | error error => rfl

private theorem patchExisting_from {origin : Origin} {slot : Option JobObject}
    (slotFrom : From origin slot) (rest : Continuation) (manifest : Manifest)
    (target : Target) : From origin (patchExisting (jobApi rest) manifest target slot).2 := by
  have evolved := slotFrom.evolve rest.beforePatch
  simp only [patchExisting, jobApi]
  cases rest.patchFault with
  | some refusal => cases refusal <;> exact evolved
  | none =>
      simp only
      cases found : evolve slot rest.beforePatch with
      | none => exact From.none origin
      | some object =>
          rw [found] at evolved
          exact evolved

private theorem create_thisCall (rest : Continuation) (target : Target) (body : Manifest) :
    From .thisCall ((jobApi rest).answer (.create target body) none).2 := by
  have created : From .thisCall (rest.createJob none) := by
    intro object found
    rw [← Option.some.inj found]
  simp only [jobApi]
  cases rest.createFault with
  | none => exact created
  | some fault =>
      dsimp only
      split
      · exact created
      · exact From.none .thisCall

/-- When no job is there, the template's job is the one of this call. -/
theorem appliedJob_thisCall {args : WorkloadArgs} {prior : Option Job} {opening : Opening}
    (absent : jobAtCreate prior opening = none) (rest : Continuation) :
    From .thisCall (appliedJob args prior opening rest).2 := by
  have created := create_thisCall rest (jobTarget args) (renderedJob args)
  rw [appliedJob_eq, applySingleManifest_eq, creationTarget_renderedJob, absent]
  dsimp only
  rcases answered : (jobApi rest).answer (.create (jobTarget args) (renderedJob args)) none
    with ⟨refusal?, after⟩
  rw [answered] at created
  match refusal? with
  | none => exact created
  | some (.other error) => exact created
  | some (.api status text) =>
      by_cases conflict : status = 409
      · simp only [conflict, if_true]
        exact patchExisting_from created rest _ _
      · simp only [conflict, if_false]
        exact created

/-- A job that is there is patched and stays. -/
theorem appliedJob_of_present {args : WorkloadArgs} {prior : Option Job}
    {opening : Opening} {object : JobObject}
    (present : jobAtCreate prior opening = some object) {rest : Continuation}
    (noCreateFault : rest.createFault = none) (noPatchFault : rest.patchFault = none)
    (unchanged : rest.beforePatch = []) :
    appliedJob args prior opening rest = (.ok (), some object) := by
  rw [appliedJob_eq, applySingleManifest_eq, creationTarget_renderedJob, present]
  simp [jobApi, noCreateFault, patchExisting, noPatchFault, unchanged, evolve]

/-! ## Whose completion the wait observes -/

/-- If the call returns, the poll that passed read a job that this call created. -/
def ObservesOwnJob (args : WorkloadArgs) (prior : Option Job) (opening : Opening)
    (rest : Continuation) : Prop :=
  ∀ fuel exit, applyWorkload args prior opening rest fuel = .ok (some exit) →
    ∃ object, jobAtPoll rest (appliedJob args prior opening rest).2 (exit.polls - 1) =
      some object ∧ object.origin = .thisCall

theorem waitRequest_valid (args : WorkloadArgs) :
    (waitRequest args).validate = .ok .job := rfl

theorem resourceName_present (args : WorkloadArgs) :
    presentText (waitRequest args).resourceName = some args.resourceName := rfl

private theorem jobAtPoll_of_check {args : WorkloadArgs} {rest : Continuation}
    {applied : Option JobObject} {index : Nat} {conditionType : Text}
    (passes : checkResourceCondition (waitRequest args) .job conditionType
      ((waitTrace rest applied).view index) = true) :
    ∃ object, jobAtPoll rest applied index = some object := by
  cases found : jobAtPoll rest applied index with
  | some object => exact ⟨object, rfl⟩
  | none =>
      have refused : ∃ refusal, readJob rest applied index = .error refusal := by
        unfold readJob
        rw [found]
        cases rest.readFault index with
        | some refusal => exact ⟨refusal, rfl⟩
        | none => exact ⟨notFound, rfl⟩
      obtain ⟨refusal, read⟩ := refused
      have selected : (waitRequest args).select ((waitTrace rest applied).view index).jobs =
          .error refusal := by
        rw [WaitRequest.select, resourceName_present]
        simp [waitRequest, waitTrace, jobsOf, read, Except.map]
      obtain ⟨jobs, read, -⟩ := checkCondition_eq_true_iff.mp (eq_ok_of_passes passes)
      exact nomatch selected.symm.trans read

private theorem applyWorkload_returned {args : WorkloadArgs} {prior : Option Job}
    {opening : Opening} {rest : Continuation} {fuel : Nat} {exit : PollExit}
    (returned : applyWorkload args prior opening rest fuel = .ok (some exit)) :
    waitForCondition (waitRequest args)
        (waitTrace rest (appliedJob args prior opening rest).2) fuel = .ok (some exit) ∧
      exit.passed = true := by
  unfold applyWorkload at returned
  rcases applied : appliedJob args prior opening rest with ⟨outcome, slot⟩
  rw [applied] at returned
  cases outcome with
  | error error => exact nomatch returned
  | ok value =>
      dsimp only at returned
      cases waited : waitForCondition (waitRequest args) (waitTrace rest slot) fuel with
      | error error => simp [waited] at returned
      | ok exit? =>
          cases exit? with
          | none => simp [waited] at returned
          | some waitExit =>
              simp only [waited] at returned
              split at returned
              next passed =>
                cases returned
                exact ⟨rfl, passed⟩
              next => exact nomatch returned

/-- The clock of prompt polls, and a controller that completes the job before the
first of them. -/
def completingContinuation : Continuation where
  shownAtCreation := completedJob
  createFault := none
  beforePatch := []
  patchFault := none
  clock :=
    { start := 0
      now := fun index => 5 * index
      startBefore := steadyTrace_start
      pauses := steadyTrace_pauses }
  beforePoll _ := [.progress completedJob]
  readFault _ := none

/-- An earlier job that the creation meets can be taken for the new one. -/
theorem earlier_job_observed {args : WorkloadArgs} {prior : Option Job} {opening : Opening}
    {object : JobObject} (present : jobAtCreate prior opening = some object)
    (polled : 0 < args.stepTimeout) :
    ¬ ObservesOwnJob args prior opening completingContinuation := by
  intro own
  have applied : appliedJob args prior opening completingContinuation = (.ok (), some object) :=
    appliedJob_of_present present rfl rfl rfl
  have isDue : (waitTrace completingContinuation (some object)).due (waitRequest args) 0 =
      true := by
    rw [WaitTrace.due, decide_eq_true_iff]
    simpa [waitTrace, completingContinuation, waitRequest] using polled
  have passes : checkResourceCondition (waitRequest args) .job (waitRequest args).condition
      ((waitTrace completingContinuation (some object)).view 0) = true := rfl
  have waited : waitForCondition (waitRequest args)
      (waitTrace completingContinuation (some object)) 1 = .ok (some ⟨true, 1⟩) := by
    rw [waitForCondition, waitRequest_valid]
    simp only [bind, Except.bind, pollUntil, isDue, passes, if_true]
  have returned : applyWorkload args prior opening completingContinuation 1 =
      .ok (some ⟨true, 1⟩) := by
    simp only [applyWorkload, applied, waited, if_true]
  obtain ⟨observed, found, created⟩ := own 1 ⟨true, 1⟩ returned
  have earlier : From .earlier (jobAtPoll completingContinuation (some object) 0) :=
    From.jobAtPoll (present ▸ jobAtCreate_earlier prior opening) _ _
  rw [applied] at found
  rw [earlier observed found] at created
  cases created

/-- Whatever the server does after the creation, a return is about a job of this call
exactly when no job of that name is there any more when the creation is requested (or the
timeout leaves no time for a poll). -/
theorem job_success_is_own_iff (args : WorkloadArgs) (prior : Option Job)
    (opening : Opening) :
    (∀ rest, ObservesOwnJob args prior opening rest) ↔
      jobAtCreate prior opening = none ∨ args.stepTimeout ≤ 0 := by
  constructor
  · intro own
    cases present : jobAtCreate prior opening with
    | none => exact .inl rfl
    | some object =>
        right
        by_contra positive
        exact earlier_job_observed present (not_le.mp positive) (own completingContinuation)
  · intro condition rest fuel exit returned
    obtain ⟨waited, passed⟩ := applyWorkload_returned returned
    obtain ⟨last, ends⟩ := waitForCondition_endsAt (waitRequest_valid args) waited
    rcases ends.ending with ⟨isDue, checked, rfl⟩ | ⟨-, rfl⟩
    · rcases condition with absent | expired
      · obtain ⟨object, found⟩ := jobAtPoll_of_check checked
        exact ⟨object, found, (appliedJob_thisCall absent rest).jobAtPoll rest last object found⟩
      · have late := WaitTrace.due_of_le (Nat.zero_le last) isDue
        rw [WaitTrace.due, decide_eq_true_iff] at late
        have started := rest.clock.startBefore
        have noTime : ((waitRequest args).timeoutSeconds : ℚ) ≤ 0 := by exact_mod_cast expired
        exact absurd late (by simp only [waitTrace] at *; linarith)
    · cases passed

/-- The swallowed failure of the deletion lets a completed job of the same name pass for
the new one. -/
theorem completed_job_reused :
    ¬ ∀ rest, ObservesOwnJob
      { nodePoolName := lit "pool"
        index := 1
        count := 1
        labelSelector := lit "app=nginx-container"
        «namespace» := lit "default"
        namespaceNonempty := by decide
        stepTimeout := 600 }
      (some completedJob)
      ⟨.failed (.api 500 (lit "Internal error")), []⟩ rest :=
  fun own => earlier_job_observed rfl (by decide) (own completingContinuation)

end Telescope.Crud
