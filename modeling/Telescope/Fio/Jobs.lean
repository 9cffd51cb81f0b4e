import Telescope.Data.Store
import Telescope.Fio.Benchmark

namespace Telescope.Fio

/-! The jobs that `execute` creates in the cluster and deletes again. The names fio-0,
fio-1, ... are those of every run, and `kubectl apply` leaves a job of the same name as it
is, so a job is known by the run that created it. -/

/-- The calls about a job; `owner` is the run whose job the call finds under the name. -/
inductive JobEvent
  | applied (jobName : Text)
  | waited (jobName : Text) (owner : Option Nat)
  | readLogs (jobName : Text) (owner : Option Nat)
  | deleted (jobName : Text)
deriving DecidableEq

namespace JobEvent

def applied? : JobEvent → Option Text
  | .applied jobName => some jobName
  | _ => none

def deleted? : JobEvent → Option Text
  | .deleted jobName => some jobName
  | _ => none

/-- The run whose job is waited on or read. -/
def owner? : JobEvent → Option Nat
  | .waited _ owner | .readLogs _ owner => owner
  | _ => none

end JobEvent

/-- The jobs in the cluster with the run that created each, and the calls of one run. -/
structure JobLog where
  jobs : Store Text Nat
  events : List JobEvent

namespace JobLog

def record (log : JobLog) (event : JobEvent) : JobLog :=
  { log with events := log.events ++ [event] }

def wait (log : JobLog) (jobName : Text) : JobLog :=
  log.record (.waited jobName (log.jobs.get? jobName))

def read (log : JobLog) (jobName : Text) : JobLog :=
  log.record (.readLogs jobName (log.jobs.get? jobName))

/-- `kubectl apply`; a job that is there is kept. -/
def apply (log : JobLog) (run : Nat) (jobName : Text) (created : Except Error Unit) : JobLog :=
  match created, log.jobs.get? jobName with
  | .ok (), none => { log.record (.applied jobName) with jobs := log.jobs.put jobName run }
  | _, _ => log.record (.applied jobName)

def delete (log : JobLog) (jobName : Text) (deleted : Except Error Unit) : JobLog :=
  match deleted with
  | .ok () => { log.record (.deleted jobName) with jobs := log.jobs.erase jobName }
  | .error _ => log.record (.deleted jobName)

def appliedNames (log : JobLog) : List Text := log.events.filterMap JobEvent.applied?

def deletedNames (log : JobLog) : List Text := log.events.filterMap JobEvent.deleted?

end JobLog

def jobName (i : Nat) : Text := lit "fio-" ++ natText i

def createJob (run : Nat) (node : NodeRun × Nat) (log : JobLog) : Except Error Unit × JobLog :=
  (node.1.created, log.apply run (jobName node.2) node.1.created)

/-- `processJob` with the calls about the job. -/
def handleJob (job : Job) (log : JobLog) : Except Error Unit × JobLog :=
  let waited := log.wait job.jobName
  match job.outcome.completed, job.outcome.pods with
  | .error error, _ => (.error error, waited)
  | .ok (), .error error => (.error error, waited)
  | .ok (), .ok [] => (.ok (), waited)
  | .ok (), .ok (_ :: _ :: _) => (.ok (), waited)
  | .ok (), .ok [_] =>
      let read := waited.read job.jobName
      match job.outcome.logs, job.outcome.parsed with
      | .error error, _ => (.error error, read)
      | .ok (), none => (.error (.valueError (lit "Expecting value")), read)
      | .ok (), some _ => (job.outcome.deleted, read.delete job.jobName job.outcome.deleted)

/-- `execute` as the run of the given number, in a cluster with the given jobs. -/
def executeJobs (number : Nat) (run : Run) (jobs : Store Text Nat) : Except Error Unit × JobLog :=
  match run.nodes with
  | .error error => (.error error, ⟨jobs, []⟩)
  | .ok [] =>
      (.error (.runtimeError
        (lit "No ready and schedulable nodes found with label 'fio-dedicated=true'.")), ⟨jobs, []⟩)
  | .ok nodes =>
      match forEach (createJob number) nodes.zipIdx ⟨jobs, []⟩ with
      | (.error error, created) => (.error error, created)
      | (.ok (), created) => forEach handleJob (jobsOf nodes) created

/-- The jobs that runs on a cluster without fio jobs leave there. -/
def jobsAfter (runs : List Run) : Store Text Nat :=
  runs.zipIdx.foldl (fun jobs (run, number) => (executeJobs number run jobs).2.jobs) Store.empty

/-- What a run does behind earlier ones. -/
def logBehind (earlier : List Run) (run : Run) : JobLog :=
  (executeJobs earlier.length run (jobsAfter earlier)).2

/-! Whether a run returns does not depend on the jobs. -/

private theorem handleJob_result (parameters : Parameters) (job : Job) (log : JobLog)
    (files : Files) :
    (handleJob job log).1 = (processJob parameters job files).1 := by
  unfold handleJob processJob
  cases job.outcome.completed with
  | error error => rfl
  | ok value =>
      cases job.outcome.pods with
      | error error => rfl
      | ok pods =>
          match pods with
          | [] => rfl
          | _ :: _ :: _ => rfl
          | [pod] =>
              cases job.outcome.logs with
              | error error => rfl
              | ok value => cases job.outcome.parsed <;> rfl

private theorem forEach_handleJob_result (parameters : Parameters) (jobs : List Job) (log : JobLog)
    (files : Files) :
    (forEach handleJob jobs log).1 = (forEach (processJob parameters) jobs files).1 := by
  induction jobs generalizing log files with
  | nil => rfl
  | cons job rest induction =>
      have same := handleJob_result parameters job log files
      rw [forEach, forEach]
      generalize handleJob job log = handled at same ⊢
      generalize processJob parameters job files = processed at same ⊢
      obtain ⟨result, after⟩ := handled
      obtain ⟨expected, written⟩ := processed
      obtain rfl : result = expected := same
      cases result with
      | error error => rfl
      | ok value => exact induction after written

private theorem forEach_createJob_result (number : Nat) (nodes : List NodeRun) (first : Nat)
    (log : JobLog) :
    (forEach (createJob number) (nodes.zipIdx first) log).1 = nodes.forM (·.created) := by
  induction nodes generalizing first log with
  | nil => rfl
  | cons node rest induction =>
      rw [List.zipIdx_cons, forEach, createJob, List.forM_eq_forM, List.forM_cons]
      cases node.created with
      | error error => rfl
      | ok value => exact induction (first + 1) _

private theorem executeJobs_result (parameters : Parameters) (number : Nat) (run : Run)
    (jobs : Store Text Nat) (files : Files) :
    (executeJobs number run jobs).1 = (execute parameters run files).1 := by
  unfold executeJobs execute
  cases run.nodes with
  | error error => rfl
  | ok nodes =>
      cases nodes with
      | nil => rfl
      | cons node rest =>
          have same := forEach_createJob_result number (node :: rest) 0 ⟨jobs, []⟩
          dsimp only
          rw [← same]
          rcases forEach (createJob number) ((node :: rest).zipIdx) ⟨jobs, []⟩ with
            ⟨result, created⟩
          cases result with
          | error error => rfl
          | ok value => exact forEach_handleJob_result parameters _ created files

/-! The calls of a run find its own jobs, when no other run's are there. -/

/-- All jobs in the cluster, and all that were waited on or read, are of one run. -/
structure JobLog.OwnedBy (number : Nat) (log : JobLog) : Prop where
  jobs : ∀ name owner, log.jobs.get? name = some owner → owner = number
  events : ∀ event ∈ log.events, ∀ owner, event.owner? = some owner → owner = number

namespace JobLog.OwnedBy

variable {number : Nat} {log : JobLog}

theorem record (owned : log.OwnedBy number) {event : JobEvent}
    (own : ∀ owner, event.owner? = some owner → owner = number) :
    (log.record event).OwnedBy number := by
  refine ⟨owned.jobs, ?_⟩
  intro other member
  rcases List.mem_append.mp member with earlier | here
  · exact owned.events other earlier
  · obtain rfl := List.mem_singleton.mp here
    exact own

theorem wait (owned : log.OwnedBy number) (name : Text) : (log.wait name).OwnedBy number :=
  owned.record (owned.jobs name)

theorem read (owned : log.OwnedBy number) (name : Text) : (log.read name).OwnedBy number :=
  owned.record (owned.jobs name)

theorem apply (owned : log.OwnedBy number) (name : Text) (created : Except Error Unit) :
    (log.apply number name created).OwnedBy number := by
  have recorded : (log.record (.applied name)).OwnedBy number :=
    owned.record fun owner found => nomatch found
  unfold JobLog.apply
  split
  · refine ⟨?_, recorded.events⟩
    intro other owner found
    cases Decidable.em (other = name) with
    | inl same =>
        subst same
        rw [Store.get?_put_self] at found
        exact (Option.some.inj found).symm
    | inr different =>
        rw [log.jobs.get?_put_of_ne different] at found
        exact owned.jobs other owner found
  · exact recorded

theorem delete (owned : log.OwnedBy number) (name : Text) (deleted : Except Error Unit) :
    (log.delete name deleted).OwnedBy number := by
  have recorded : (log.record (.deleted name)).OwnedBy number :=
    owned.record fun owner found => nomatch found
  unfold JobLog.delete
  split
  · refine ⟨?_, recorded.events⟩
    intro other owner found
    apply owned.jobs other owner
    rw [Store.get?_eq_some_iff] at found ⊢
    exact (log.jobs.mem_entries_erase.mp found).1
  · exact recorded

theorem handleJob (owned : log.OwnedBy number) (job : Job) :
    (Fio.handleJob job log).2.OwnedBy number := by
  have waited := owned.wait job.jobName
  unfold Fio.handleJob
  split
  · exact waited
  · exact waited
  · exact waited
  · exact waited
  · split
    · exact waited.read job.jobName
    · exact waited.read job.jobName
    · exact (waited.read job.jobName).delete job.jobName job.outcome.deleted

theorem executeJobs {jobs : Store Text Nat} (empty : ∀ name, jobs.get? name = none) (run : Run) :
    (Fio.executeJobs number run jobs).2.OwnedBy number := by
  have start : OwnedBy number ⟨jobs, []⟩ := by
    refine ⟨?_, by simp⟩
    intro name owner found
    exact nomatch (empty name).symm.trans found
  unfold Fio.executeJobs
  split
  · exact start
  · exact start
  · rename_i nodes _ _
    have created : (forEach (createJob number) nodes.zipIdx ⟨jobs, []⟩).2.OwnedBy number := by
      apply forEach_invariant
      · intro node _ log owned
        exact owned.apply (jobName node.2) node.1.created
      · exact start
    generalize forEach (createJob number) nodes.zipIdx ⟨jobs, []⟩ = looped at *
    obtain ⟨result, log⟩ := looped
    cases result with
    | error error => exact created
    | ok value =>
        apply forEach_invariant
        · intro job _ log owned
          exact owned.handleJob job
        · exact created

end JobLog.OwnedBy

/-! A run that returns deletes the jobs that have exactly one pod. -/

namespace JobLog

theorem mem_appliedNames {log : JobLog} {name : Text} :
    name ∈ log.appliedNames ↔ .applied name ∈ log.events := by
  rw [appliedNames, List.mem_filterMap]
  constructor
  · rintro ⟨event, member, same⟩
    cases event <;> cases same
    exact member
  · intro member
    exact ⟨_, member, rfl⟩

theorem mem_deletedNames {log : JobLog} {name : Text} :
    name ∈ log.deletedNames ↔ .deleted name ∈ log.events := by
  rw [deletedNames, List.mem_filterMap]
  constructor
  · rintro ⟨event, member, same⟩
    cases event <;> cases same
    exact member
  · intro member
    exact ⟨_, member, rfl⟩

theorem events_apply (log : JobLog) (run : Nat) (name : Text) (created : Except Error Unit) :
    (log.apply run name created).events = log.events ++ [.applied name] := by
  unfold apply
  split <;> rfl

private theorem mem_keys_apply {log : JobLog} {run : Nat} {name other : Text}
    {created : Except Error Unit} (member : other ∈ (log.apply run name created).jobs.keys) :
    other = name ∨ other ∈ log.jobs.keys := by
  unfold apply at member
  split at member
  · exact log.jobs.mem_keys_put.mp member
  · exact .inr member

/-- The jobs in the cluster are among those that were created and not yet deleted. -/
def Remaining (log : JobLog) : Prop :=
  ∀ name ∈ log.jobs.keys, name ∈ log.appliedNames ∧ name ∉ log.deletedNames

end JobLog

def JobLog.DeletesAll (log : JobLog) : Prop :=
  ∀ name, .applied name ∈ log.events → .deleted name ∈ log.events

def Job.hasOnePod (job : Job) : Bool :=
  match job.outcome.pods with
  | .ok [_] => true
  | _ => false

private theorem Job.hasOnePod_iff (job : Job) :
    job.hasOnePod = true ↔ ∃ pod, job.outcome.pods = .ok [pod] := by
  unfold hasOnePod
  split
  · rename_i pod found
    simp [found]
  · rename_i other
    exact ⟨nofun, fun ⟨pod, found⟩ => absurd found (other pod)⟩

private theorem createJob_ok {number : Nat} {node : NodeRun × Nat} {log after : JobLog}
    (created : createJob number node log = (.ok (), after))
    (held : log.deletedNames = [] ∧ log.Remaining) :
    (after.deletedNames = [] ∧ after.Remaining) ∧
      after.appliedNames = log.appliedNames ++ [jobName node.2] := by
  obtain ⟨fresh, remaining⟩ := held
  obtain rfl : log.apply number (jobName node.2) node.1.created = after :=
    (Prod.mk.inj created).2
  have applied : (log.apply number (jobName node.2) node.1.created).appliedNames =
      log.appliedNames ++ [jobName node.2] := by
    simp [JobLog.appliedNames, JobLog.events_apply, JobEvent.applied?]
  have deleted : (log.apply number (jobName node.2) node.1.created).deletedNames = [] := by
    simpa [JobLog.deletedNames, JobLog.events_apply, JobEvent.deleted?] using fresh
  refine ⟨⟨deleted, ?_⟩, applied⟩
  intro name member
  rw [applied, deleted]
  refine ⟨?_, List.not_mem_nil⟩
  rcases JobLog.mem_keys_apply member with rfl | earlier
  · exact List.mem_append_right _ (List.mem_singleton_self _)
  · exact List.mem_append_left _ (remaining name earlier).1

theorem handleJob_ok {job : Job} {log after : JobLog}
    (handled : handleJob job log = (.ok (), after)) :
    after.appliedNames = log.appliedNames ∧
      if job.hasOnePod then
        after.deletedNames = log.deletedNames ++ [job.jobName] ∧
          after.jobs = log.jobs.erase job.jobName
      else after.deletedNames = log.deletedNames ∧ after.jobs = log.jobs := by
  unfold handleJob at handled
  unfold Job.hasOnePod
  split at handled
  · cases handled
  · cases handled
  · rename_i noPod
    cases handled
    simp [noPod, JobLog.wait, JobLog.record, JobLog.appliedNames, JobLog.deletedNames,
      JobEvent.applied?, JobEvent.deleted?]
  · rename_i several
    cases handled
    simp [several, JobLog.wait, JobLog.record, JobLog.appliedNames, JobLog.deletedNames,
      JobEvent.applied?, JobEvent.deleted?]
  · rename_i one
    split at handled
    · cases handled
    · cases handled
    · obtain ⟨deleted, rfl⟩ := Prod.mk.inj handled
      simp [one, deleted, JobLog.wait, JobLog.read, JobLog.delete, JobLog.record,
        JobLog.appliedNames, JobLog.deletedNames, JobEvent.applied?, JobEvent.deleted?,
        List.filterMap_cons]

private theorem handleJob_remaining {job : Job} {log after : JobLog}
    (handled : handleJob job log = (.ok (), after)) (remaining : log.Remaining) :
    after.Remaining ∧
      after.deletedNames = log.deletedNames ++ if job.hasOnePod then [job.jobName] else [] := by
  obtain ⟨applied, rest⟩ := handleJob_ok handled
  unfold JobLog.Remaining
  rw [applied]
  cases one : job.hasOnePod with
  | false =>
      simp only [one, Bool.false_eq_true, if_false] at rest ⊢
      rw [rest.1, rest.2]
      exact ⟨remaining, (List.append_nil _).symm⟩
  | true =>
      simp only [one, if_true] at rest ⊢
      rw [rest.1, rest.2]
      refine ⟨?_, rfl⟩
      intro name member
      obtain ⟨earlier, different⟩ := log.jobs.mem_keys_erase.mp member
      refine ⟨(remaining name earlier).1, ?_⟩
      rw [List.mem_append, List.mem_singleton]
      exact not_or.mpr ⟨(remaining name earlier).2, different⟩

theorem map_jobName_jobsOf (nodes : List NodeRun) :
    (jobsOf nodes).map (·.jobName) = nodes.zipIdx.map fun node => jobName node.2 := by
  rw [jobsOf, List.map_map]
  rfl

private theorem nodup_jobName_jobsOf (nodes : List NodeRun) :
    ((jobsOf nodes).map (·.jobName)).Nodup := by
  have numbers : (nodes.zipIdx.map Prod.snd).Nodup := by
    rw [List.zipIdx_map_snd]
    exact List.nodup_range' _
  have composed : (nodes.zipIdx.map fun node => jobName node.2) =
      (nodes.zipIdx.map Prod.snd).map jobName := by
    rw [List.map_map]
    rfl
  rw [map_jobName_jobsOf, composed]
  apply numbers.map
  intro first second same
  exact natText_injective (List.append_cancel_left same)

private theorem flatMap_if_eq_map_filter {α β : Type*} (kept : α → Bool) (f : α → β)
    (items : List α) :
    (items.flatMap fun item => if kept item then [f item] else []) =
      (items.filter kept).map f := by
  induction items with
  | nil => rfl
  | cons item rest induction =>
      rw [List.flatMap_cons, induction, List.filter_cons]
      cases kept item <;> rfl

/-- A run that returns goes through both of its loops. -/
theorem executeJobs_returned {number : Nat} {run : Run} {jobs : Store Text Nat}
    (returned : (executeJobs number run jobs).1 = .ok ()) :
    ∃ nodes created after, run.nodes = .ok nodes ∧
      forEach (createJob number) nodes.zipIdx ⟨jobs, []⟩ = (.ok (), created) ∧
      forEach handleJob (jobsOf nodes) created = (.ok (), after) ∧
      (executeJobs number run jobs).2 = after := by
  unfold executeJobs at returned ⊢
  split at returned
  · exact nomatch returned
  · exact nomatch returned
  · rename_i nodes nonempty found
    split at returned
    · exact nomatch returned
    · rename_i created looped
      exact ⟨nodes, created, _, found, looped, Prod.ext returned rfl, rfl⟩

/-- What a run that returns created and deleted, and that nothing else remains. -/
theorem executeJobs_ok {number : Nat} {run : Run} {jobs : Store Text Nat}
    (returned : (executeJobs number run jobs).1 = .ok ()) (empty : ∀ name, jobs.get? name = none) :
    (executeJobs number run jobs).2.Remaining ∧
      (executeJobs number run jobs).2.appliedNames = run.jobs.map (·.jobName) ∧
      (executeJobs number run jobs).2.deletedNames =
        (run.jobs.filter (·.hasOnePod)).map (·.jobName) := by
  obtain ⟨nodes, created, after, found, looped, handled, rfl⟩ := executeJobs_returned returned
  have start : JobLog.Remaining ⟨jobs, []⟩ := by
    intro name member
    exact absurd member (jobs.get?_eq_none_iff.mp (empty name))
  obtain ⟨⟨fresh, remaining⟩, applied⟩ := forEach_collects
    (fun log => log.deletedNames = [] ∧ log.Remaining) JobLog.appliedNames
    (fun node _ _ _ held created => createJob_ok created held) ⟨rfl, start⟩ looped
  have step : ∀ job ∈ jobsOf nodes, ∀ log after : JobLog,
      log.Remaining ∧ log.appliedNames = created.appliedNames →
      handleJob job log = (.ok (), after) →
      (after.Remaining ∧ after.appliedNames = created.appliedNames) ∧
        after.deletedNames = log.deletedNames ++ if job.hasOnePod then [job.jobName] else [] := by
    intro job _ log after held handled
    obtain ⟨remaining, deleted⟩ := handleJob_remaining handled held.1
    exact ⟨⟨remaining, (handleJob_ok handled).1.trans held.2⟩, deleted⟩
  obtain ⟨⟨left, same⟩, deleted⟩ :=
    forEach_collects _ JobLog.deletedNames step ⟨remaining, rfl⟩ handled
  unfold Run.jobs
  rw [found]
  refine ⟨left, ?_, ?_⟩
  · rw [same, applied, map_jobName_jobsOf, List.map_eq_flatMap]
    rfl
  · rw [deleted, fresh, List.nil_append, flatMap_if_eq_map_filter]

private theorem nodup_jobName (run : Run) : (run.jobs.map (·.jobName)).Nodup := by
  unfold Run.jobs
  cases run.nodes with
  | error error => exact List.nodup_nil
  | ok nodes => exact nodup_jobName_jobsOf nodes

/-- On a cluster without fio jobs. -/
theorem deletesAll_iff {number : Nat} {run : Run} {jobs : Store Text Nat}
    (returned : (executeJobs number run jobs).1 = .ok ()) (empty : ∀ name, jobs.get? name = none) :
    (executeJobs number run jobs).2.DeletesAll ↔
      ∀ job ∈ run.jobs, ∃ pod, job.outcome.pods = .ok [pod] := by
  obtain ⟨-, applied, deleted⟩ := executeJobs_ok returned empty
  simp only [JobLog.DeletesAll, ← JobLog.mem_appliedNames, ← JobLog.mem_deletedNames, applied,
    deleted, ← Job.hasOnePod_iff]
  constructor
  · intro all job member
    obtain ⟨other, kept, same⟩ :=
      List.mem_map.mp (all job.jobName (List.mem_map_of_mem member))
    obtain ⟨otherMember, one⟩ := List.mem_filter.mp kept
    obtain rfl := List.inj_on_of_nodup_map (nodup_jobName run) otherMember member same
    exact one
  · intro one name member
    rwa [List.filter_eq_self.mpr one]

private theorem empty_of_deletesAll {number : Nat} {run : Run} {jobs : Store Text Nat}
    (returned : (executeJobs number run jobs).1 = .ok ()) (empty : ∀ name, jobs.get? name = none)
    (deletes : (executeJobs number run jobs).2.DeletesAll) (name : Text) :
    (executeJobs number run jobs).2.jobs.get? name = none := by
  obtain ⟨remaining, -⟩ := executeJobs_ok returned empty
  rw [Store.get?_eq_none_iff]
  intro member
  obtain ⟨applied, kept⟩ := remaining name member
  rw [JobLog.mem_appliedNames] at applied
  rw [JobLog.mem_deletedNames] at kept
  exact kept (deletes name applied)

/-! The runs. -/

/-- Every run deletes the jobs it created, and a run behind some of them waits on and reads
its own jobs only. -/
structure LeaveNoJob (runs : List Run) : Prop where
  deleted : ∀ earlier run, earlier ++ [run] <+: runs → (logBehind earlier run).DeletesAll
  own : ∀ earlier, earlier <+: runs → ∀ next, ∀ event ∈ (logBehind earlier next).events,
    ∀ owner, event.owner? = some owner → owner = earlier.length

private theorem jobsAfter_append (earlier : List Run) (run : Run) :
    jobsAfter (earlier ++ [run]) = (logBehind earlier run).jobs := by
  simp [jobsAfter, logBehind, List.zipIdx_append]

/-- While every run that finds no job deletes its own, none is left. -/
theorem jobsAfter_empty {runs : List Run}
    (returned : ∀ earlier run, earlier ++ [run] <+: runs →
      (executeJobs earlier.length run (jobsAfter earlier)).1 = .ok ())
    (deletes : ∀ earlier run, earlier ++ [run] <+: runs →
      (∀ name, (jobsAfter earlier).get? name = none) → (logBehind earlier run).DeletesAll)
    {earlier : List Run} (part : earlier <+: runs) (name : Text) :
    (jobsAfter earlier).get? name = none := by
  induction earlier using List.reverseRecOn generalizing name with
  | nil => rfl
  | append_singleton before run induction =>
      have empty := induction ((List.prefix_append before [run]).trans part)
      rw [jobsAfter_append]
      exact empty_of_deletesAll (returned before run part) empty (deletes before run part empty) name

/-- Runs that return leave no job behind just when every job of theirs had exactly one pod. -/
theorem execute_leaves_no_job_iff (parameters : Parameters) (files : Files) (runs : List Run)
    (returns : ∀ run ∈ runs, (execute parameters run files).1 = .ok ()) :
    LeaveNoJob runs ↔ ∀ run ∈ runs, ∀ job ∈ run.jobs, ∃ pod, job.outcome.pods = .ok [pod] := by
  have returned (earlier : List Run) (run : Run) (part : earlier ++ [run] <+: runs) :
      (executeJobs earlier.length run (jobsAfter earlier)).1 = .ok () :=
    (executeJobs_result ..).trans (returns run (part.subset (by simp)))
  constructor
  · intro leave run member
    obtain ⟨earlier, later, rfl⟩ := List.append_of_mem member
    have part : earlier ++ [run] <+: earlier ++ run :: later := by simp
    have empty := jobsAfter_empty returned (fun before other part _ => leave.deleted before other part)
      (List.prefix_append earlier (run :: later))
    exact (deletesAll_iff (returned earlier run part) empty).mp (leave.deleted earlier run part)
  · intro one
    have deletes (earlier : List Run) (run : Run) (part : earlier ++ [run] <+: runs)
        (empty : ∀ name, (jobsAfter earlier).get? name = none) :
        (logBehind earlier run).DeletesAll :=
      (deletesAll_iff (returned earlier run part) empty).mpr (one run (part.subset (by simp)))
    refine ⟨?_, ?_⟩
    · intro earlier run part
      apply deletes earlier run part
      exact jobsAfter_empty returned deletes ((List.prefix_append earlier [run]).trans part)
    · intro earlier part next
      have owned : (logBehind earlier next).OwnedBy earlier.length :=
        JobLog.OwnedBy.executeJobs (jobsAfter_empty returned deletes part) next
      exact owned.events

/-- A run on one ready node, whose job completes and lists the given pods. -/
def singleNodeRun (pods : List Pod) : Run where
  nodes := .ok [
    { nodeName := lit "node-1"
      created := .ok ()
      outcome := ⟨.ok (), .ok pods, .ok (), some (.obj []), .ok ()⟩ }]

def benchmarkParameters : Parameters where
  blockSize := .str (lit "4k")
  iodepth := .num 16
  method := .str (lit "read")
  fileSize := .str (lit "10G")
  runtime := .num 60
  numjobs := .num 1
  storageName := .str (lit "fio")

theorem runs_with_one_pod_leave_no_job :
    LeaveNoJob [singleNodeRun [⟨lit "fio-0-x2x7k", none, none⟩],
      singleNodeRun [⟨lit "fio-0-9s4qd", none, none⟩]] := by
  apply (execute_leaves_no_job_iff benchmarkParameters ⟨[], []⟩ _ ?_).mpr
  · intro run member job listed
    simp only [List.mem_cons, List.not_mem_nil, or_false] at member
    rcases member with rfl | rfl
    · obtain rfl := List.mem_singleton.mp listed
      exact ⟨_, rfl⟩
    · obtain rfl := List.mem_singleton.mp listed
      exact ⟨_, rfl⟩
  · intro run member
    simp only [List.mem_cons, List.not_mem_nil, or_false] at member
    rcases member with rfl | rfl <;> rfl

/-- Without a pod the job fio-0 stays, and the next run waits on it. -/
theorem job_without_pod_stays :
    (execute benchmarkParameters (singleNodeRun []) ⟨[], []⟩).1 = .ok () ∧
      (logBehind [] (singleNodeRun [])).events =
        [.applied (lit "fio-0"), .waited (lit "fio-0") (some 0)] ∧
      (logBehind [singleNodeRun []] (singleNodeRun [])).events =
        [.applied (lit "fio-0"), .waited (lit "fio-0") (some 0)] ∧
      ¬ LeaveNoJob [singleNodeRun []] := by
  have first : (logBehind [] (singleNodeRun [])).events =
      [.applied (lit "fio-0"), .waited (lit "fio-0") (some 0)] := by decide
  have second : (logBehind [singleNodeRun []] (singleNodeRun [])).events =
      [.applied (lit "fio-0"), .waited (lit "fio-0") (some 0)] := by decide
  refine ⟨rfl, first, second, ?_⟩
  intro leave
  have stale := leave.own [singleNodeRun []] List.prefix_rfl (singleNodeRun [])
    (.waited (lit "fio-0") (some 0)) (by simp [second]) 0 rfl
  exact absurd stale (by decide)

end Telescope.Fio
