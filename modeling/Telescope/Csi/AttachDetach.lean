import Telescope.Data.Exception
import Telescope.Data.Json
import Telescope.Data.Store
import Telescope.Text.Edit
import Telescope.Text.Lines

namespace Telescope.Csi

open Telescope

/-! The attach-detach benchmark of `csi.py`: the main thread, the monitors that it
starts, the clock (in microseconds) and the log file that they share.  Each action is one
indivisible step of one thread, and every list of actions is a schedule; an action that
its thread cannot take where it stands changes nothing. -/

def calculatePercentiles (diskNumber : Nat) : Nat × Nat × Nat × Nat :=
  (diskNumber / 2, diskNumber * 9 / 10, diskNumber * 99 / 100, diskNumber)

def attachThresholds (diskNumber : Nat) : List (Nat × Text) :=
  let (p50, p90, p99, p100) := calculatePercentiles diskNumber
  [(p50, lit "p50"), (p90, lit "p90"), (p99, lit "p99"), (p100, lit "p100")]

def detachThresholds (diskNumber : Nat) : List (Nat × Text) :=
  let (p50, p90, p99, p100) := calculatePercentiles diskNumber
  [(p100 - p50, lit "p50"), (p100 - p90, lit "p90"), (p100 - p99, lit "p99"), (0, lit "p100")]

inductive Comparison where
  | gte
  | lte
  deriving DecidableEq

def Comparison.satisfied : Comparison → Nat → Nat → Bool
  | .gte, current, target => target ≤ current
  | .lte, current, target => current ≤ target

/-- `int((end_time - start_time).total_seconds())` -/
def wholeSeconds (startTime endTime : Int) : Int := (endTime - startTime).tdiv 1000000

/-- The line that `log_duration` appends. -/
def durationLine (description : Text) (duration : Int) : Except Error Text :=
  if ':' ∈ description then
    .error ⟨.external, lit "Description cannot contain a colon ':' character!"⟩
  else .ok (description ++ lit ": " ++ intText duration ++ lit "\n")

/-! ## Monitors -/

/-- Where `monitor_thresholds` stands in one round of its loop: in
`wait_for_condition`, after it returned a count, or in `log_duration` after the clock was
read.  An exception ends the thread. -/
inductive Stage where
  | checking
  | satisfied (current : Nat)
  | measured (current : Nat) (duration : Int)
  | raised
  deriving DecidableEq

/-- A thread in `monitor_thresholds`.  The head of `thresholds` is the current one, and
`logged` keeps what the thread has logged. -/
structure Monitor where
  description : Text
  thresholds : List (Nat × Text)
  comparison : Comparison
  startTime : Int
  stage : Stage
  logged : List (Text × Int)

namespace Monitor

def new (description : Text) (thresholds : List (Nat × Text)) (comparison : Comparison)
    (startTime : Int) : Monitor :=
  ⟨description, thresholds, comparison, startTime, .checking, []⟩

/-- One round of `wait_for_condition`. -/
def check (monitor : Monitor) (current : Nat) : Monitor :=
  match monitor.stage, monitor.thresholds with
  | .checking, (target, _) :: _ =>
      if monitor.comparison.satisfied current target then
        { monitor with stage := .satisfied current }
      else monitor
  | _, _ => monitor

/-- `log_duration` up to the duration. -/
def measure (monitor : Monitor) (now : Int) : Monitor :=
  match monitor.stage with
  | .satisfied current =>
      { monitor with stage := .measured current (wholeSeconds monitor.startTime now) }
  | _ => monitor

/-- The rest of `log_duration`, with the text that it appends to the file. -/
def append (monitor : Monitor) : Monitor × Option Text :=
  match monitor.stage, monitor.thresholds with
  | .measured _ duration, (_, thresholdDesc) :: rest =>
      match durationLine (monitor.description ++ lit " " ++ thresholdDesc) duration with
      | .error _ => ({ monitor with stage := .raised }, none)
      | .ok line =>
          ({ monitor with
              thresholds := rest
              stage := .checking
              logged := monitor.logged ++ [(thresholdDesc, duration)] }, some line)
  | _, _ => (monitor, none)

def returned (monitor : Monitor) : Bool :=
  monitor.thresholds.isEmpty && decide (monitor.stage = .checking)

/-- Checking the cluster or opening the file raises. -/
def raise (monitor : Monitor) : Monitor :=
  if monitor.returned then monitor else { monitor with stage := .raised }

end Monitor

/-! ## The benchmark -/

inductive Phase where
  | creation
  | attachment
  | detachment
  deriving DecidableEq

namespace Phase

def description : Phase → Text
  | .creation => lit "PV creation"
  | .attachment => lit "PV attachment"
  | .detachment => lit "PV detachment"

def thresholds (diskNumber : Nat) : Phase → List (Nat × Text)
  | .creation | .attachment => attachThresholds diskNumber
  | .detachment => detachThresholds diskNumber

def comparison : Phase → Comparison
  | .creation | .attachment => .gte
  | .detachment => .lte

end Phase

inductive Control where
  | makeResultDir
  | createNamespace
  | startCreationTimer
  | createStatefulset (creationStartTime : Int)
  | submitCreation (creationStartTime : Int)
  | submitAttachment (creationStartTime : Int)
  | joinAttach
  | startDeletionTimer
  | deleteStatefulset (deletionStartTime : Int)
  | deleteClaims (deletionStartTime : Int)
  | submitDetachment (deletionStartTime : Int)
  | joinDetach
  | deleteNamespace
  | finished
  | raised
  deriving DecidableEq

structure State where
  now : Int
  log : Option Text
  control : Control
  monitor : Phase → Option Monitor

namespace State

/-- No log file, and no thread but the main one. -/
def start (now : Int) : State where
  now := now
  log := none
  control := .makeResultDir
  monitor _ := none

def returned (state : State) (phase : Phase) : Bool :=
  (state.monitor phase).any Monitor.returned

def ended (state : State) (phase : Phase) : Bool :=
  (state.monitor phase).any fun monitor => monitor.returned || monitor.stage = .raised

def logged (state : State) (phase : Phase) : List (Text × Int) :=
  (state.monitor phase).elim [] Monitor.logged

def withMonitor (state : State) (phase : Phase) (monitor : Monitor) : State :=
  { state with monitor := Function.update state.monitor phase (some monitor) }

def submit (state : State) (diskNumber : Nat) (phase : Phase) (startTime : Int)
    (next : Control) : State :=
  { state.withMonitor phase
      (Monitor.new phase.description (phase.thresholds diskNumber) phase.comparison startTime)
    with control := next }

/-- The futures' results: an exception of a thread is raised again once all have
ended. -/
def join (state : State) (phases : List Phase) (next : Control) : State :=
  if phases.all state.returned then { state with control := next }
  else if phases.all state.ended then { state with control := .raised }
  else state

/-- The next statement of `execute_attach_detach` succeeds. -/
def advance (diskNumber : Nat) (state : State) : State :=
  match state.control with
  | .makeResultDir => { state with control := .createNamespace }
  | .createNamespace => { state with control := .startCreationTimer }
  | .startCreationTimer => { state with control := .createStatefulset state.now }
  | .createStatefulset startTime => { state with control := .submitCreation startTime }
  | .submitCreation startTime =>
      state.submit diskNumber .creation startTime (.submitAttachment startTime)
  | .submitAttachment startTime => state.submit diskNumber .attachment startTime .joinAttach
  | .joinAttach => state.join [.creation, .attachment] .startDeletionTimer
  | .startDeletionTimer => { state with control := .deleteStatefulset state.now }
  | .deleteStatefulset startTime => { state with control := .deleteClaims startTime }
  | .deleteClaims startTime => { state with control := .submitDetachment startTime }
  | .submitDetachment startTime => state.submit diskNumber .detachment startTime .joinDetach
  | .joinDetach => state.join [.detachment] .deleteNamespace
  | .deleteNamespace => { state with control := .finished }
  | .finished | .raised => state

/-- The next statement of `execute_attach_detach` raises. -/
def raise (state : State) : State :=
  if state.control = .finished then state else { state with control := .raised }

def append (state : State) (phase : Phase) (monitor : Monitor) : State :=
  match monitor.append with
  | (after, none) => state.withMonitor phase after
  | (after, some line) =>
      { state.withMonitor phase after with log := some (state.log.getD [] ++ line) }

end State

/-- A step of the clock, which never goes back, of the main thread or of a monitor. -/
inductive Action where
  | elapse (time : Nat)
  | advance
  | raise
  | check (phase : Phase) (current : Nat)
  | measure (phase : Phase)
  | append (phase : Phase)
  | monitorRaise (phase : Phase)

def Action.perform (diskNumber : Nat) (state : State) : Action → State
  | .elapse time => { state with now := state.now + time }
  | .advance => state.advance diskNumber
  | .raise => state.raise
  | .check phase current =>
      (state.monitor phase).elim state fun monitor =>
        state.withMonitor phase (monitor.check current)
  | .measure phase =>
      (state.monitor phase).elim state fun monitor =>
        state.withMonitor phase (monitor.measure state.now)
  | .append phase => (state.monitor phase).elim state fun monitor => state.append phase monitor
  | .monitorRaise phase =>
      (state.monitor phase).elim state fun monitor => state.withMonitor phase monitor.raise

def executeAttachDetach (diskNumber : Nat) (now : Int) (actions : List Action) : State :=
  actions.foldl (Action.perform diskNumber) (.start now)

/-! ## Results -/

structure CollectArgs where
  timestamp : Text
  caseName : Text
  nodeNumber : Int
  diskNumber : Int
  storageClass : Text
  cloudInfo : Text
  runId : Text
  runUrl : Text

/-- One line of the raw result file; a line without a colon is skipped. -/
def parseLine (metrics : Store Text Text) (line : Text) : Store Text Text :=
  if ':' ∈ line then
    let (key, value) := splitOnce ':' line
    metrics.put (replaceText [' '] ['_'] (stripText key)) (stripText value)
  else metrics

def parseMetrics (content : Text) : Store Text Text :=
  (splitLines content).foldl parseLine .empty

def CollectArgs.content (args : CollectArgs) (metrics : Store Text Text) : Json :=
  .obj
    [(lit "timestamp", .str args.timestamp),
     (lit "case_name", .str args.caseName),
     (lit "node_number", .num args.nodeNumber),
     (lit "disk_number", .num args.diskNumber),
     (lit "storage_class", .str args.storageClass),
     (lit "result", .obj (metrics.entries.map fun (key, value) => (key, .str value))),
     (lit "cloud_info", .str args.cloudInfo),
     (lit "run_id", .str args.runId),
     (lit "run_url", .str args.runUrl)]

/-- `collect_attach_detach`, from the raw result file to the content of the result
file. -/
def collectAttachDetach (args : CollectArgs) (rawResultFile : Option Text) : Except Error Json :=
  match rawResultFile with
  | none => .error ⟨.external, lit "No such file or directory"⟩
  | some content => .ok (args.content (parseMetrics content))

end Telescope.Csi
