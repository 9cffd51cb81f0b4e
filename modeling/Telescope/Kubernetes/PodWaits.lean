import Telescope.Data.Decision
import Telescope.Kubernetes.ReadyNodes
import Telescope.Kubernetes.Wait

namespace Telescope.Kubernetes

open Telescope

/-! Waiting for pods to be ready, for pods to complete and for a job to complete
(`wait_for_pods_ready`, `wait_for_pods_completed`, `wait_for_job_completed`).  What the API
server answers to each request is an input. -/

structure ListedPod where
  name : Text
  phase : Text
  conditions : Option (List Condition)

abbrev Listing := Except Error (List ListedPod)

/-- The selectors of a wait, and the number of pods, if it is given. -/
structure PodsRequest where
  labelSelector : Text
  «namespace» : Text
  podCount : Option Int

def PodsRequest.noPodsFound (request : PodsRequest) : Error :=
  ⟨.external, lit "No pods found with selector '" ++ request.labelSelector ++
    lit "' in namespace '" ++ request.namespace ++ lit "'"⟩

def ListedPod.isReadyPod (pod : ListedPod) : Except Error Bool :=
  match pod.conditions with
  | none => .error noneNotIterable
  | some conditions =>
      .ok (conditions.any fun condition =>
        condition.type = lit "Ready" ∧ condition.status = lit "True")

/-- The conditions are only read of a running pod. -/
def ListedPod.isRunningAndReady (pod : ListedPod) : Except Error Bool :=
  if pod.phase = lit "Running" then pod.isReadyPod else .ok false

def selectReadyPods : List ListedPod → Listing
  | [] => .ok []
  | pod :: rest => do
      let selected ← pod.isRunningAndReady
      let others ← selectReadyPods rest
      return if selected then pod :: others else others

def getReadyPodsByNamespace (listing : Listing) : Listing := do
  let pods ← listing
  selectReadyPods pods

/-! ## `wait_for_pods_ready` -/

/-- What the wait lists in each round: all labelled pods, when their number is not given,
and then the pods of which the ready ones are selected. -/
structure PodsTrace where
  clock : PausedClock 10
  labelled : Nat → Listing
  listed : Nat → Listing

def currentPodCount (request : PodsRequest) (trace : PodsTrace) (index : Nat) :
    Except Error Int :=
  match request.podCount with
  | some podCount => .ok podCount
  | none => do
      let labelledPods ← trace.labelled index
      if labelledPods.length = 0 then .error request.noPodsFound
      else .ok labelledPods.length

def readyPoll (request : PodsRequest) (trace : PodsTrace) (index : Nat) : Option Listing :=
  match currentPodCount request trace index with
  | .error error => some (.error error)
  | .ok podCount =>
      match getReadyPodsByNamespace (trace.listed index) with
      | .error error => some (.error error)
      | .ok pods => if (pods.length : Int) = podCount then some (.ok pods) else none

/-- The message of a timeout, with the number of ready pods of the last round. -/
def readyTimeout (request : PodsRequest) (trace : PodsTrace) (polls : Nat) : Error :=
  let pods : List ListedPod :=
    match polls with
    | 0 => []
    | last + 1 =>
        match getReadyPodsByNamespace (trace.listed last) with
        | .ok pods => pods
        | .error _ => []
  let expected : Except Error Int :=
    match request.podCount with
    | some podCount => .ok podCount
    | none => (trace.labelled polls).map fun labelledPods => (labelledPods.length : Int)
  match expected with
  | .error error => error
  | .ok expected => ⟨.external, lit "Only " ++ natText pods.length ++
      lit " pods are ready, expected " ++ intText expected ++ lit " pods!"⟩

def waitForPodsReady (request : PodsRequest) (operationTimeoutInMinutes : ℚ)
    (trace : PodsTrace) (fuel : Nat) : Option Listing :=
  (decideUntil (trace.clock.due (operationTimeoutInMinutes * 60)) (readyPoll request trace)
    fuel 0).map fun waited =>
      waited.decision.getD (.error (readyTimeout request trace waited.polls))

/-! ## `wait_for_pods_completed` -/

/-- The loop over the pods, which returns as soon as enough have succeeded. -/
def collectCompleted (podCount : Int) : List ListedPod → List ListedPod →
    Option (List ListedPod)
  | [], _ => none
  | pod :: rest, completedPods =>
      let completedPods :=
        if pod.phase = lit "Succeeded" then completedPods ++ [pod] else completedPods
      if (completedPods.length : Int) = podCount then some completedPods
      else collectCompleted podCount rest completedPods

def completedPoll (request : PodsRequest) (listed : Nat → Listing) (index : Nat) :
    Option Listing :=
  match listed index with
  | .error error => some (.error error)
  | .ok [] => some (.error request.noPodsFound)
  | .ok pods =>
      (collectCompleted (request.podCount.getD pods.length) pods []).map fun completedPods =>
        .ok completedPods

def waitForPodsCompleted (request : PodsRequest) (timeout : Int) (clock : PausedClock 10)
    (listed : Nat → Listing) (fuel : Nat) : Option Listing :=
  (decideUntil (clock.due timeout) (completedPoll request listed) fuel 0).map fun waited =>
    waited.decision.getD (.error ⟨.external, lit "Pods with label '" ++
      request.labelSelector ++ lit "' in namespace '" ++ request.namespace ++
      lit "' did not complete within " ++ intText timeout ++ lit " seconds."⟩)

/-! ## `wait_for_job_completed` -/

def jobInNamespace (name space : Text) : Text :=
  lit "Job '" ++ name ++ lit "' in namespace '" ++ space ++ lit "'"

def jobNotFound (name space : Text) : Error :=
  ⟨.external, lit "Job '" ++ name ++ lit "' not found in namespace '" ++ space ++ lit "'."⟩

/-- A job that is complete and failed counts as complete. -/
def jobPoll (name space : Text) (read : Nat → Except Refusal Job) (index : Nat) :
    Option (Except Error Text) :=
  match read index with
  | .ok job =>
      if isJobConditionMet job complete then some (.ok name)
      else if isJobConditionMet job (lit "failed") then
        some (.error ⟨.external, jobInNamespace name space ++ lit " has failed."⟩)
      else none
  | .error (.api status text) =>
      if status = 404 then some (.error (jobNotFound name space))
      else some (.error (Refusal.api status text).error)
  | .error (.other error) => some (.error error)

def waitForJobCompleted (name space : Text) (timeout : Int) (clock : PausedClock 30)
    (read : Nat → Except Refusal Job) (fuel : Nat) : Option (Except Error Text) :=
  (decideUntil (clock.due timeout) (jobPoll name space read) fuel 0).map fun waited =>
    waited.decision.getD (.error ⟨.external, jobInNamespace name space ++
      lit " did not complete within " ++ intText timeout ++ lit " seconds."⟩)

/-! ## What a wait for ready pods returns -/

def ListedPod.Ready (pod : ListedPod) : Prop :=
  pod.phase = lit "Running" ∧ ∃ condition ∈ pod.conditions.getD [],
    condition.type = lit "Ready" ∧ condition.status = lit "True"

instance (pod : ListedPod) : Decidable pod.Ready :=
  inferInstanceAs (Decidable (_ ∧ ∃ condition ∈ pod.conditions.getD [], _))

/-- The conditions of a running pod are reported. -/
def ListedPod.Reported (pod : ListedPod) : Prop :=
  pod.phase = lit "Running" → pod.conditions.isSome = true

theorem isRunningAndReady_of_reported {pod : ListedPod} (reported : pod.Reported) :
    pod.isRunningAndReady = .ok (decide pod.Ready) := by
  unfold ListedPod.isRunningAndReady
  by_cases running : pod.phase = lit "Running"
  · obtain ⟨conditions, found⟩ := Option.isSome_iff_exists.mp (reported running)
    rw [if_pos running]
    simp [ListedPod.isReadyPod, found, ListedPod.Ready, running, List.any_eq]
  · have notReady : ¬ pod.Ready := fun isReady => running isReady.1
    rw [if_neg running, decide_eq_false notReady]

private theorem isRunningAndReady_of_unreported {pod : ListedPod} (unreported : ¬ pod.Reported) :
    pod.isRunningAndReady = .error noneNotIterable := by
  unfold ListedPod.Reported at unreported
  push Not at unreported
  obtain ⟨running, absent⟩ := unreported
  rw [ListedPod.isRunningAndReady, if_pos running, ListedPod.isReadyPod,
    Option.not_isSome_iff_eq_none.mp absent]

private theorem selectReadyPods_of_reported {pods : List ListedPod}
    (reported : ∀ pod ∈ pods, pod.Reported) :
    selectReadyPods pods = .ok (pods.filter fun pod => pod.Ready) := by
  induction pods with
  | nil => rfl
  | cons pod rest induction =>
      obtain ⟨here, later⟩ := List.forall_mem_cons.mp reported
      rw [selectReadyPods, isRunningAndReady_of_reported here, induction later,
        List.filter_cons]
      rfl

private theorem selectReadyPods_of_unreported {pods : List ListedPod}
    (unreported : ¬ ∀ pod ∈ pods, pod.Reported) :
    selectReadyPods pods = .error noneNotIterable := by
  induction pods with
  | nil => exact absurd (fun pod member => absurd member List.not_mem_nil) unreported
  | cons pod rest induction =>
      rw [selectReadyPods]
      by_cases here : pod.Reported
      · rw [List.forall_mem_cons, not_and] at unreported
        rw [isRunningAndReady_of_reported here, induction (unreported here)]
        rfl
      · rw [isRunningAndReady_of_unreported here]
        rfl

private theorem getReadyPodsByNamespace_ok_iff {listing : Listing} {selected : List ListedPod} :
    getReadyPodsByNamespace listing = .ok selected ↔
      ∃ pods, listing = .ok pods ∧ (∀ pod ∈ pods, pod.Reported) ∧
        selected = pods.filter fun pod => pod.Ready := by
  cases listing with
  | error error => simp [getReadyPodsByNamespace, bind, Except.bind]
  | ok pods =>
      change selectReadyPods pods = _ ↔ _
      by_cases reported : ∀ pod ∈ pods, pod.Reported
      · rw [selectReadyPods_of_reported reported]
        constructor
        · intro same
          exact ⟨pods, rfl, reported, (Except.ok.inj same).symm⟩
        · rintro ⟨listed, read, -, rfl⟩
          rw [Except.ok.inj read]
      · rw [selectReadyPods_of_unreported reported]
        simp [reported]

/-- A round in which as many pods are ready as are expected. -/
structure AllReady (request : PodsRequest) (trace : PodsTrace) (index : Nat)
    (pods : List ListedPod) : Prop where
  listed : ∃ listed, trace.listed index = .ok listed ∧ (∀ pod ∈ listed, pod.Reported) ∧
    pods = listed.filter fun pod => pod.Ready
  count : ∀ podCount, request.podCount = some podCount → (pods.length : Int) = podCount
  labelled : request.podCount = none → ∃ labelledPods, trace.labelled index = .ok labelledPods ∧
    labelledPods ≠ [] ∧ pods.length = labelledPods.length

private theorem currentPodCount_ok_iff {request : PodsRequest} {trace : PodsTrace} {index : Nat}
    {podCount : Int} :
    currentPodCount request trace index = .ok podCount ↔
      request.podCount = some podCount ∨ (request.podCount = none ∧
        ∃ labelledPods, trace.labelled index = .ok labelledPods ∧ labelledPods ≠ [] ∧
          (labelledPods.length : Int) = podCount) := by
  unfold currentPodCount
  cases request.podCount with
  | some given => simp
  | none =>
      cases trace.labelled index with
      | error error => simp [bind, Except.bind]
      | ok labelledPods => cases labelledPods <;> simp [bind, Except.bind]

private theorem readyPoll_eq_ok_iff {request : PodsRequest} {trace : PodsTrace} {index : Nat}
    {pods : List ListedPod} :
    readyPoll request trace index = some (.ok pods) ↔ AllReady request trace index pods := by
  have polled : readyPoll request trace index = some (.ok pods) ↔
      currentPodCount request trace index = .ok (pods.length : Int) ∧
        getReadyPodsByNamespace (trace.listed index) = .ok pods := by
    unfold readyPoll
    cases currentPodCount request trace index with
    | error error => simp
    | ok podCount =>
        cases getReadyPodsByNamespace (trace.listed index) with
        | error error => simp
        | ok selected =>
            by_cases enough : (selected.length : Int) = podCount
            · subst enough
              simp only [if_true, Option.some.injEq, Except.ok.injEq]
              exact ⟨fun same => ⟨by rw [same], same⟩, fun both => both.2⟩
            · simp only [if_neg enough, reduceCtorEq, Except.ok.injEq, false_iff, not_and]
              rintro rfl rfl
              exact enough rfl
  rw [polled, currentPodCount_ok_iff, getReadyPodsByNamespace_ok_iff]
  constructor
  · rintro ⟨count, listed⟩
    refine ⟨listed, ?_, ?_⟩
    · intro podCount given
      rcases count with same | ⟨absent, -⟩
      · rw [given] at same
        exact (Option.some.inj same).symm
      · rw [given] at absent
        cases absent
    · intro absent
      rcases count with same | ⟨-, labelledPods, read, nonempty, same⟩
      · rw [absent] at same
        cases same
      · exact ⟨labelledPods, read, nonempty, by omega⟩
  · rintro ⟨listed, count, labelled⟩
    refine ⟨?_, listed⟩
    cases given : request.podCount with
    | some podCount => exact .inl (by rw [count podCount given])
    | none =>
        obtain ⟨labelledPods, read, nonempty, same⟩ := labelled given
        exact .inr ⟨rfl, labelledPods, read, nonempty, by omega⟩

theorem exists_readied (request : PodsRequest) (minutes : ℚ) (trace : PodsTrace) :
    ∃ outcome,
      waitForPodsReady request minutes trace (⌈minutes * 60 / 10⌉₊ + 1) = some outcome ∧
      ∀ pods, outcome = .ok pods ↔
        ∃ index, UndecidedBefore (trace.clock.due (minutes * 60)) (readyPoll request trace) index ∧
          trace.clock.due (minutes * 60) index = true ∧ AllReady request trace index pods := by
  obtain ⟨outcome, ended, decided⟩ := trace.clock.exists_outcome (by norm_num) (minutes * 60)
    (readyPoll request trace) (readyTimeout request trace)
  refine ⟨outcome, ended, fun pods => ?_⟩
  rw [decided]
  exact exists_congr fun index => and_congr_right fun _ => and_congr_right fun _ =>
    readyPoll_eq_ok_iff

/-- The wait ends after at most one round for each ten seconds of its timeout, rounded up.
It returns exactly the ready pods of the first round that decides, if in that round as many
pods are ready as are expected; when the number is read in each round, and pods do not
change within a round, these are all pods with the label. -/
theorem ready_wait_returns_iff (request : PodsRequest) (minutes : ℚ) (trace : PodsTrace) :
    ∃ outcome,
      waitForPodsReady request minutes trace (⌈minutes * 60 / 10⌉₊ + 1) = some outcome ∧
      (∀ pods, outcome = .ok pods ↔
        ∃ index, UndecidedBefore (trace.clock.due (minutes * 60)) (readyPoll request trace) index ∧
          trace.clock.due (minutes * 60) index = true ∧ AllReady request trace index pods) ∧
      (request.podCount = none → (∀ index, trace.labelled index = trace.listed index) →
        ∀ pods, outcome = .ok pods →
          pods ≠ [] ∧ (∀ pod ∈ pods, pod.Ready) ∧ ∃ index, trace.listed index = .ok pods) := by
  obtain ⟨outcome, ended, returns⟩ := exists_readied request minutes trace
  refine ⟨outcome, ended, returns, ?_⟩
  intro dynamic unchanged pods returned
  obtain ⟨index, -, -, all⟩ := (returns pods).mp returned
  obtain ⟨listed, read, -, selected⟩ := all.listed
  obtain ⟨labelledPods, alsoRead, nonempty, sameLength⟩ := all.labelled dynamic
  have same : listed = labelledPods := by
    rw [unchanged index, read] at alsoRead
    exact Except.ok.inj alsoRead
  subst same
  have everyReady : ∀ pod ∈ listed, decide pod.Ready = true := by
    rw [← List.length_filter_eq_length_iff, ← selected]
    exact sameLength
  have isAll : pods = listed := selected.trans (List.filter_eq_self.mpr everyReady)
  subst isAll
  exact ⟨nonempty, fun pod member => of_decide_eq_true (everyReady pod member), index, read⟩

/-! ## What the other waits return -/

def succeeded (pods : List ListedPod) : List ListedPod :=
  pods.filter fun pod => pod.phase = lit "Succeeded"

/-- With enough succeeded pods, the first of them; a number of zero is only met before the
first succeeded pod. -/
structure Completed (podCount : Int) (pods completedPods : List ListedPod) : Prop where
  first : completedPods = (succeeded pods).take podCount.toNat
  length : (completedPods.length : Int) = podCount
  zero : podCount = 0 → ∃ pod rest, pods = pod :: rest ∧ pod.phase ≠ lit "Succeeded"

private theorem collectCompleted_eq {podCount : Int} (pods : List ListedPod)
    {completedPods : List ListedPod} (missing : (completedPods.length : Int) < podCount) :
    collectCompleted podCount pods completedPods =
      if podCount ≤ completedPods.length + (succeeded pods).length then
        some (completedPods ++
          (succeeded pods).take (podCount - completedPods.length).toNat)
      else none := by
  induction pods generalizing completedPods with
  | nil => simp [collectCompleted, succeeded, missing]
  | cons pod rest induction =>
      unfold collectCompleted
      by_cases success : pod.phase = lit "Succeeded"
      · have more : succeeded (pod :: rest) = pod :: succeeded rest := by
          simp [succeeded, success]
        rw [if_pos success, more]
        by_cases enough : ((completedPods ++ [pod]).length : Int) = podCount
        · rw [if_pos enough]
          rw [List.length_append, List.length_singleton] at enough
          have one : (podCount - completedPods.length).toNat = 1 := by omega
          rw [if_pos (by rw [List.length_cons]; omega), one]
          rfl
        · rw [if_neg enough]
          rw [List.length_append, List.length_singleton] at enough
          rw [induction (by rw [List.length_append, List.length_singleton]; omega)]
          simp only [List.length_append, List.length_cons, List.length_nil]
          by_cases reached : podCount ≤ completedPods.length + ((succeeded rest).length + 1 : Nat)
          · have next : (podCount - completedPods.length).toNat =
                (podCount - (completedPods.length + (0 + 1) : Nat)).toNat + 1 := by omega
            rw [if_pos (by omega), if_pos reached, next, List.take_succ_cons,
              List.append_assoc]
            rfl
          · rw [if_neg (by omega), if_neg reached]
      · have same : succeeded (pod :: rest) = succeeded rest := by
          simp [succeeded, success]
        rw [if_neg success, if_neg (by omega), induction missing, same]

theorem collectCompleted_of_exceeded {podCount : Int} (pods : List ListedPod)
    {completedPods : List ListedPod} (exceeded : podCount < (completedPods.length : Int)) :
    collectCompleted podCount pods completedPods = none := by
  induction pods generalizing completedPods with
  | nil => rfl
  | cons pod rest induction =>
      unfold collectCompleted
      by_cases success : pod.phase = lit "Succeeded"
      · have more : podCount < ((completedPods ++ [pod]).length : Int) := by
          rw [List.length_append, List.length_singleton]
          omega
        rw [if_pos success, if_neg (by omega), induction more]
      · rw [if_neg success, if_neg (by omega), induction exceeded]

private theorem collectCompleted_zero_iff {pods completedPods : List ListedPod} :
    collectCompleted 0 pods [] = some completedPods ↔ completedPods = [] ∧
      ∃ pod rest, pods = pod :: rest ∧ pod.phase ≠ lit "Succeeded" := by
  cases pods with
  | nil => simp [collectCompleted]
  | cons pod rest =>
      unfold collectCompleted
      by_cases success : pod.phase = lit "Succeeded"
      · rw [if_pos success, if_neg (by simp)]
        rw [collectCompleted_of_exceeded rest (by simp)]
        simp [success]
      · rw [if_neg success]
        change some [] = some completedPods ↔ _
        rw [Option.some.injEq, eq_comm]
        exact (and_iff_left ⟨pod, rest, rfl, success⟩).symm

private theorem collectCompleted_eq_some_iff {podCount : Int}
    {pods completedPods : List ListedPod} :
    collectCompleted podCount pods [] = some completedPods ↔
      Completed podCount pods completedPods := by
  rcases lt_trichotomy podCount 0 with negative | rfl | positive
  · rw [collectCompleted_of_exceeded pods (by simpa using negative)]
    constructor
    · rintro ⟨⟩
    · intro completed
      have := completed.length
      omega
  · rw [collectCompleted_zero_iff]
    constructor
    · rintro ⟨rfl, unfinished⟩
      exact ⟨by simp, rfl, fun _ => unfinished⟩
    · intro completed
      have none : (completedPods.length : Int) = 0 := completed.length
      exact ⟨List.length_eq_zero_iff.mp (by omega), completed.zero rfl⟩
  · rw [collectCompleted_eq pods (by simpa using positive)]
    simp only [List.length_nil, Nat.cast_zero, zero_add, sub_zero, List.nil_append]
    constructor
    · intro returned
      split at returned
      · rename_i enough
        cases returned
        refine ⟨rfl, ?_, fun zero => by omega⟩
        rw [List.length_take]
        omega
      · cases returned
    · intro completed
      have long := completed.length
      rw [completed.first, List.length_take] at long
      rw [if_pos (by omega), completed.first]

private theorem completedPoll_eq_ok_iff {request : PodsRequest} {listed : Nat → Listing}
    {index : Nat}
    {completedPods : List ListedPod} :
    completedPoll request listed index = some (.ok completedPods) ↔
      ∃ pods, listed index = .ok pods ∧ pods ≠ [] ∧
        Completed (request.podCount.getD pods.length) pods completedPods := by
  unfold completedPoll
  cases listed index with
  | error error => simp
  | ok pods =>
      cases pods with
      | nil => simp
      | cons pod rest =>
          simp [← collectCompleted_eq_some_iff]

/-- When all pods are expected, they have all succeeded. -/
theorem Completed.all {pods completedPods : List ListedPod}
    (completed : Completed pods.length pods completedPods) :
    completedPods = pods ∧ ∀ pod ∈ pods, pod.phase = lit "Succeeded" := by
  have long := completed.length
  rw [completed.first, List.length_take, Int.toNat_natCast] at long
  have everySucceeded : ∀ pod ∈ pods, decide (pod.phase = lit "Succeeded") = true := by
    rw [← List.length_filter_eq_length_iff]
    have short := List.length_filter_le (fun pod : ListedPod => pod.phase = lit "Succeeded") pods
    unfold succeeded at long
    omega
  refine ⟨?_, fun pod member => of_decide_eq_true (everySucceeded pod member)⟩
  rw [completed.first, Int.toNat_natCast, succeeded, List.filter_eq_self.mpr everySucceeded,
    List.take_length]

theorem exists_completed (request : PodsRequest) (timeout : Int) (clock : PausedClock 10)
    (listed : Nat → Listing) :
    ∃ outcome,
      waitForPodsCompleted request timeout clock listed (⌈(timeout : ℚ) / 10⌉₊ + 1) =
        some outcome ∧
      ∀ completedPods, outcome = .ok completedPods ↔
        ∃ index, UndecidedBefore (clock.due timeout) (completedPoll request listed) index ∧
          clock.due timeout index = true ∧ ∃ pods, listed index = .ok pods ∧ pods ≠ [] ∧
            Completed (request.podCount.getD pods.length) pods completedPods := by
  obtain ⟨outcome, ended, decided⟩ := clock.exists_outcome (by norm_num) timeout
    (completedPoll request listed) (fun _ => ⟨.external, lit "Pods with label '" ++
      request.labelSelector ++ lit "' in namespace '" ++ request.namespace ++
      lit "' did not complete within " ++ intText timeout ++ lit " seconds."⟩)
  refine ⟨outcome, ended, ?_⟩
  intro completedPods
  rw [decided]
  exact exists_congr fun index => and_congr_right fun _ => and_congr_right fun _ =>
    completedPoll_eq_ok_iff

theorem waitForPodsCompleted_isSome (request : PodsRequest) (timeout : Int)
    (clock : PausedClock 10) (listed : Nat → Listing) :
    (waitForPodsCompleted request timeout clock listed
      (⌈(timeout : ℚ) / 10⌉₊ + 1)).isSome = true := by
  obtain ⟨outcome, ended, -⟩ := exists_completed request timeout clock listed
  rw [ended]
  rfl

/-- The wait ends, and returns exactly the first succeeded pods of the first round that
decides, as many as are expected; when no number is given, every listed pod has
succeeded. -/
theorem completed_wait_returns_iff (request : PodsRequest) (timeout : Int)
    (clock : PausedClock 10) (listed : Nat → Listing) :
    ∃ outcome,
      waitForPodsCompleted request timeout clock listed (⌈(timeout : ℚ) / 10⌉₊ + 1) =
        some outcome ∧
      (∀ completedPods, outcome = .ok completedPods ↔
        ∃ index, UndecidedBefore (clock.due timeout) (completedPoll request listed) index ∧
          clock.due timeout index = true ∧ ∃ pods, listed index = .ok pods ∧ pods ≠ [] ∧
            Completed (request.podCount.getD pods.length) pods completedPods) ∧
      (request.podCount = none → ∀ completedPods, outcome = .ok completedPods →
        (∀ pod ∈ completedPods, pod.phase = lit "Succeeded") ∧
          ∃ index, listed index = .ok completedPods) := by
  obtain ⟨outcome, ended, returns⟩ := exists_completed request timeout clock listed
  refine ⟨outcome, ended, returns, ?_⟩
  intro dynamic completedPods returned
  obtain ⟨index, -, -, pods, read, -, completed⟩ := (returns completedPods).mp returned
  rw [dynamic] at completed
  obtain ⟨same, all⟩ := completed.all
  exact ⟨same ▸ all, index, same ▸ read⟩

/-! ## What a wait for a job returns -/

/-- The job has neither ended well nor failed. -/
def Job.Unfinished (job : Job) : Prop :=
  isJobConditionMet job complete = false ∧ isJobConditionMet job (lit "failed") = false

private theorem jobPoll_eq_none_iff {name space : Text} {read : Nat → Except Refusal Job}
    {index : Nat} :
    jobPoll name space read index = none ↔ ∃ job, read index = .ok job ∧ job.Unfinished := by
  unfold jobPoll Job.Unfinished
  cases read index with
  | error refusal =>
      cases refusal with
      | other error => simp only [reduceCtorEq, false_and, exists_false]
      | api status text => by_cases absent : status = 404 <;> simp [absent]
  | ok job =>
      simp only [Except.ok.injEq, exists_eq_left']
      cases isJobConditionMet job complete with
      | true => simp only [if_true, reduceCtorEq, Bool.true_eq_false, false_and]
      | false => cases isJobConditionMet job (lit "failed") <;> simp only [if_true,
          Bool.false_eq_true, if_false, reduceCtorEq, Bool.true_eq_false, and_true, and_false]

private theorem jobPoll_eq_ok_iff {name space returned : Text} {read : Nat → Except Refusal Job}
    {index : Nat} :
    jobPoll name space read index = some (.ok returned) ↔
      returned = name ∧ ∃ job, read index = .ok job ∧ isJobConditionMet job complete = true := by
  unfold jobPoll
  cases read index with
  | error refusal =>
      cases refusal with
      | other error => simp
      | api status text => by_cases absent : status = 404 <;> simp [absent]
  | ok job =>
      simp only [Except.ok.injEq, exists_eq_left']
      cases isJobConditionMet job complete with
      | true => simp only [if_true, Option.some.injEq, Except.ok.injEq, and_true, eq_comm]
      | false => cases isJobConditionMet job (lit "failed") <;> simp only [if_true,
          Bool.false_eq_true, if_false, reduceCtorEq, Option.some.injEq, and_false]

/-- The wait ends, and returns the job's name exactly if a poll in time reads a complete job
and the polls before it read an unfinished one: a failed job, a missing one and any failed
request end it at once.  A complete job carries the condition or has its successes. -/
theorem job_wait_returns_iff (name space : Text) (timeout : Int) (clock : PausedClock 30)
    (read : Nat → Except Refusal Job) :
    ∃ outcome,
      waitForJobCompleted name space timeout clock read (⌈(timeout : ℚ) / 30⌉₊ + 1) =
        some outcome ∧
      (∀ returned, outcome = .ok returned ↔ returned = name ∧
        ∃ last, clock.due timeout last = true ∧
          (∃ job, read last = .ok job ∧ isJobConditionMet job complete = true) ∧
          ∀ earlier < last, ∃ job, read earlier = .ok job ∧ job.Unfinished) ∧
      ∀ returned, outcome = .ok returned →
        ∃ index job, read index = .ok job ∧ job.Completed := by
  obtain ⟨outcome, ended, decided⟩ := clock.exists_outcome (by norm_num) timeout
    (jobPoll name space read) (fun _ => ⟨.external, jobInNamespace name space ++
      lit " did not complete within " ++ intText timeout ++ lit " seconds."⟩)
  have dueBefore {last : Nat} (due : clock.due timeout last = true) :
      UndecidedBefore (clock.due timeout) (jobPoll name space read) last ↔
        ∀ earlier < last, ∃ job, read earlier = .ok job ∧ job.Unfinished := by
    refine forall₂_congr fun earlier below => ?_
    rw [jobPoll_eq_none_iff, and_iff_right]
    exact clock.due_of_le (by norm_num) below.le due
  have returns (returned : Text) : outcome = .ok returned ↔ returned = name ∧
      ∃ last, clock.due timeout last = true ∧
        (∃ job, read last = .ok job ∧ isJobConditionMet job complete = true) ∧
        ∀ earlier < last, ∃ job, read earlier = .ok job ∧ job.Unfinished := by
    rw [decided]
    simp only [jobPoll_eq_ok_iff]
    constructor
    · rintro ⟨last, before, due, same, completes⟩
      exact ⟨same, last, due, completes, (dueBefore due).mp before⟩
    · rintro ⟨same, last, due, completes, before⟩
      exact ⟨last, (dueBefore due).mpr before, due, same, completes⟩
  refine ⟨outcome, ended, returns, ?_⟩
  intro returned ok
  obtain ⟨-, last, -, ⟨job, found, completes⟩, -⟩ := (returns returned).mp ok
  exact ⟨last, job, found, (isJobConditionMet_complete_iff job).mp completes⟩

end Telescope.Kubernetes
