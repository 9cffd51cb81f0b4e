import Telescope.Data.Exception
import Telescope.Data.Json
import Telescope.Data.Loop
import Telescope.Text.CharClass

namespace Telescope.Fio

/-! The fio benchmark: its runs append one line per measured job to a file of raw
results and one to a file of metadata, and the collection pairs the lines by
position. -/

/-- A `datetime`, with or without a time zone. -/
structure Timestamp where
  aware : Bool
  seconds : ℚ

/-- The start of the terminated container, where the status has one. -/
structure ContainerStatus where
  name : Text
  terminated : Option (Option Timestamp)

structure Pod where
  name : Text
  creationTimestamp : Option Timestamp
  containerStatuses : Option (List ContainerStatus)

def timeBetween (later earlier : Timestamp) : Except Error ℚ :=
  if later.aware = earlier.aware then .ok (later.seconds - earlier.seconds)
  else .error (.typeError (lit "can't subtract offset-naive and offset-aware datetimes"))

/-- The body of the `try` statement. -/
def measureStartupLatency (pod : Pod) : Except Error (Option ℚ) :=
  match pod.creationTimestamp with
  | none => .ok none
  | some created =>
      let started := (pod.containerStatuses.getD []).findSome? fun status =>
        if status.name = lit "fio" then status.terminated else none
      match started.join with
      | none => .ok none
      | some startedAt => do return some (← timeBetween startedAt created)

def calculatePodStartupLatency (pod : Pod) : Option ℚ :=
  match measureStartupLatency pod with
  | .ok latency => latency
  | .error _ => none

structure Parameters where
  blockSize : Json
  iodepth : Json
  method : Json
  fileSize : Json
  runtime : Json
  numjobs : Json
  storageName : Json

/-- What the calls made for one job return or raise; `parsed` is what
`json.loads` makes of the logs, if anything. -/
structure JobOutcome where
  completed : Except Error Unit
  pods : Except Error (List Pod)
  logs : Except Error Unit
  parsed : Option Json
  deleted : Except Error Unit

structure Job where
  jobName : Text
  nodeName : Text
  outcome : JobOutcome

structure Files where
  raw : List Json
  metadata : List Json

def metadataLine (parameters : Parameters) (job : Job) (pod : Pod) : Json :=
  .obj [(lit "block_size", parameters.blockSize), (lit "iodepth", parameters.iodepth),
    (lit "method", parameters.method), (lit "file_size", parameters.fileSize),
    (lit "runtime", parameters.runtime), (lit "numjobs", parameters.numjobs),
    (lit "storage_name", parameters.storageName),
    (lit "pod_startup_latency_seconds",
      match calculatePodStartupLatency pod with
      | none => .null
      | some latency => .num latency),
    (lit "node_name", .str job.nodeName), (lit "job_name", .str job.jobName),
    (lit "pod_name", .str pod.name)]

def processJob (parameters : Parameters) (job : Job) (files : Files) :
    Except Error Unit × Files :=
  match job.outcome.completed, job.outcome.pods with
  | .error error, _ => (.error error, files)
  | .ok (), .error error => (.error error, files)
  | .ok (), .ok [] => (.ok (), files)
  | .ok (), .ok (_ :: _ :: _) => (.ok (), files)
  | .ok (), .ok [pod] =>
      match job.outcome.logs, job.outcome.parsed with
      | .error error, _ => (.error error, files)
      | .ok (), none => (.error (.valueError (lit "Expecting value")), files)
      | .ok (), some logs =>
          let saved : Files := { files with raw := files.raw ++ [logs] }
          let described : Files :=
            { saved with metadata := saved.metadata ++ [metadataLine parameters job pod] }
          (job.outcome.deleted, described)

/-- A ready node: the outcome of creating its job, and what then happens to it. -/
structure NodeRun where
  nodeName : Text
  created : Except Error Unit
  outcome : JobOutcome

structure Run where
  nodes : Except Error (List NodeRun)

def jobsOf (nodes : List NodeRun) : List Job :=
  nodes.zipIdx.map fun (node, i) => ⟨lit "fio-" ++ natText i, node.nodeName, node.outcome⟩

def execute (parameters : Parameters) (run : Run) (files : Files) : Except Error Unit × Files :=
  match run.nodes with
  | .error error => (.error error, files)
  | .ok [] =>
      (.error (.runtimeError
        (lit "No ready and schedulable nodes found with label 'fio-dedicated=true'.")), files)
  | .ok nodes =>
      match nodes.forM (·.created) with
      | .error error => (.error error, files)
      | .ok () => forEach (processJob parameters) (jobsOf nodes) files

/-- Runs with the same parameters, each ending as it may. -/
def executeAll (parameters : Parameters) (runs : List Run) : Files :=
  runs.foldl (fun files run => (execute parameters run files).2) ⟨[], []⟩

/-! The collection. -/

/-- `value[key]` for a text key; only objects have one. -/
def item? (key : Text) : Json → Option Json
  | .obj fields => Fields.get? fields key
  | _ => none

def getOr? (key : Text) (default : Json) : Json → Option Json
  | .obj fields => some ((Fields.get? fields key).getD default)
  | _ => none

def firstJob? (rawResult : Json) : Option Json := do
  match ← item? (lit "jobs") rawResult with
  | .arr items => items.head?
  | _ => none

def latency? (side : Text) (jobResults : Json) : Option Json := do
  item? (lit "mean") (← item? (lit "clat_ns") (← item? side jobResults))

def percentile? (side key : Text) (jobResults : Json) : Option Json := do
  let results ← getOr? side (.obj []) jobResults
  let latencies ← getOr? (lit "clat_ns") (.obj []) results
  let percentiles ← getOr? (lit "percentile") (.obj []) latencies
  getOr? key (.num 0) percentiles

structure CollectInputs where
  now : Nat → Text
  vmSize : Json
  cloudInfo : Json
  runUrl : Json

/-- The row of one pair of lines; an exception is logged and gives no row. -/
def collectRow (inputs : CollectInputs) (entry : Nat) (rawResult metadata : Json) :
    Option Fields := do
  let jobResults ← firstJob? rawResult
  let read ← item? (lit "read") jobResults
  let write ← item? (lit "write") jobResults
  return [(lit "timestamp", .str (inputs.now entry)), (lit "vm_size", inputs.vmSize),
    (lit "cloud_info", inputs.cloudInfo),
    (lit "read_iops_avg", ← item? (lit "iops_mean") read),
    (lit "read_bw_avg", ← item? (lit "bw_mean") read),
    (lit "read_lat_avg", ← latency? (lit "read") jobResults),
    (lit "write_iops_avg", ← item? (lit "iops_mean") write),
    (lit "write_bw_avg", ← item? (lit "bw_mean") write),
    (lit "write_lat_avg", ← latency? (lit "write") jobResults),
    (lit "read_lat_p50", ← percentile? (lit "read") (lit "50.000000") jobResults),
    (lit "read_lat_p99", ← percentile? (lit "read") (lit "99.000000") jobResults),
    (lit "read_lat_p999", ← percentile? (lit "read") (lit "99.900000") jobResults),
    (lit "write_lat_p50", ← percentile? (lit "write") (lit "50.000000") jobResults),
    (lit "write_lat_p99", ← percentile? (lit "write") (lit "99.000000") jobResults),
    (lit "write_lat_p999", ← percentile? (lit "write") (lit "99.900000") jobResults),
    (lit "metadata", metadata), (lit "raw_result", rawResult), (lit "run_url", inputs.runUrl)]

def fileNotFound : Error := ⟨.external, lit "No such file or directory"⟩

/-- The rows that `collect` appends; a file without lines was never created. -/
def collect (inputs : CollectInputs) (files : Files) : Except Error (List Fields) :=
  if files.raw.isEmpty || files.metadata.isEmpty then .error fileNotFound
  else
    .ok ((files.raw.zip files.metadata).zipIdx.filterMap fun (pair, entry) =>
      collectRow inputs entry pair.1 pair.2)

/-! Which jobs the runs measured. -/

/-- A job that completed with exactly one pod and readable logs. -/
structure Measured where
  job : Job
  pod : Pod
  logs : Json

namespace Job

def measured? (job : Job) : Option Measured :=
  match job.outcome.completed, job.outcome.pods, job.outcome.logs, job.outcome.parsed with
  | .ok (), .ok [pod], .ok (), some logs => some ⟨job, pod, logs⟩
  | _, _, _, _ => none

def raises (job : Job) : Bool :=
  match job.outcome.completed, job.outcome.pods with
  | .error _, _ => true
  | .ok (), .error _ => true
  | .ok (), .ok [_] =>
      match job.outcome.logs, job.outcome.parsed, job.outcome.deleted with
      | .ok (), some _, .ok () => false
      | _, _, _ => true
  | .ok (), .ok _ => false

end Job

/-- The measured jobs up to the first exception, in order. -/
def measuredJobs : List Job → List Measured
  | [] => []
  | job :: rest => job.measured?.toList ++ if job.raises then [] else measuredJobs rest

def Run.jobs (run : Run) : List Job :=
  match run.nodes with
  | .error _ => []
  | .ok nodes => jobsOf nodes

def Run.measured (run : Run) : List Measured :=
  match run.nodes with
  | .error _ => []
  | .ok nodes =>
      match nodes.forM (·.created) with
      | .error _ => []
      | .ok () => measuredJobs (jobsOf nodes)

def Files.append (files : Files) (parameters : Parameters) (measured : List Measured) : Files where
  raw := files.raw ++ measured.map (·.logs)
  metadata := files.metadata ++ measured.map fun entry =>
    metadataLine parameters entry.job entry.pod

theorem Files.append_nil (files : Files) (parameters : Parameters) :
    files.append parameters [] = files := by
  simp [Files.append]

end Telescope.Fio
