import Telescope.Text.CharClass
import Telescope.Text.Edit

namespace Telescope.Terraform

open Telescope

/-! Extraction of operation metadata from Terraform logs
(`terraform/extract_terraform_operation_metadata.py`).  The patterns are those
of the source: `modulePathPattern` is `(module\.[^:]+)`, `durationPattern` is
`(\d+h\d+m\d+s|\d+h\d+s|\d+m\d+s|\d+s)` and `timePartPattern` is `(\d+)([hms])`. -/

def modulePathPattern : Regex :=
  .group (.seq (.literal (lit "module.")) (.many1 (· != ':')))

def unitPattern (unit : Char) (rest : Regex) : Regex :=
  .seq (.many1 isDecimal) (.seq (.literal [unit]) rest)

def durationPattern : Regex :=
  .group
    (.alt (unitPattern 'h' (unitPattern 'm' (unitPattern 's' (.literal []))))
      (.alt (unitPattern 'h' (unitPattern 's' (.literal [])))
        (.alt (unitPattern 'm' (unitPattern 's' (.literal [])))
          (unitPattern 's' (.literal [])))))

def completePattern : Regex :=
  .seq modulePathPattern
    (.seq (.literal (lit ": "))
      (.seq (.alt (.literal (lit "Creation")) (.literal (lit "Destruction")))
        (.seq (.literal (lit " complete after ")) durationPattern)))

def startPattern : Regex :=
  .seq modulePathPattern
    (.seq (.literal (lit ": "))
      (.alt (.literal (lit "Creating")) (.literal (lit "Destroying"))))

def elapsedPattern : Regex :=
  .seq (.literal (lit "Still "))
    (.seq (.alt (.literal (lit "creating")) (.literal (lit "destroying")))
      (.seq (.literal (lit "..."))
        (.seq (.manyLazy (· != '\n'))
          (.seq durationPattern
            (.seq (.many1 isSpace) (.literal (lit "elapsed]")))))))

def timePartPattern : Regex :=
  .seq (.group (.many1 isDecimal))
    (.group (.char fun c => c == 'h' || c == 'm' || c == 's'))

def partSeconds : List Text → Option Nat
  | [value, unit] =>
      (parseInt? value).map fun amount =>
        if unit = ['h'] then amount * 3600
        else if unit = ['m'] then amount * 60
        else if unit = ['s'] then amount
        else 0
  | _ => some 0

/-- The sum over all parts, or zero when a conversion raises `ValueError`. -/
def timeToSeconds (timeStr : Text) : Nat :=
  match (timePartPattern.findall (timeStr.length + 1) timeStr).mapM partSeconds with
  | some seconds => seconds.sum
  | none => 0

structure ModulePath where
  moduleName : Text
  submodulePath : Text
  resourceName : Text
  deriving DecidableEq

def parseModulePath (fullPath : Text) : ModulePath :=
  let path := replaceText (lit "module.") [] fullPath
  let parts := path.splitOn '.'
  { moduleName := parts.head?.getD []
    submodulePath :=
      if parts.length > 2 then joinText ['.'] (parts.drop 1).dropLast else []
    resourceName := if parts.length > 1 then parts.getLast?.getD [] else [] }

/-- The arguments that are the same for every record of a log, and the clock
text read when the n-th record is built. -/
structure LogContext where
  runId : Text
  commandType : Text
  scenarioType : Text
  scenarioName : Text
  now : Nat → Text

structure OperationResult where
  timestamp : Text
  runId : Text
  scenarioType : Text
  scenarioName : Text
  moduleName : Text
  submoduleName : Text
  resourceName : Text
  action : Text
  timeTakenSeconds : Nat
  success : Bool
  timedOut : Bool
  deriving DecidableEq

def buildResult (context : LogContext) (index : Nat) (fullPath timeStr : Text)
    (completed timedOut : Bool) : OperationResult :=
  let path := parseModulePath fullPath
  { timestamp := context.now index
    runId := context.runId
    scenarioType := context.scenarioType
    scenarioName := context.scenarioName
    moduleName := path.moduleName
    submoduleName := path.submodulePath
    resourceName := path.resourceName
    action := context.commandType
    timeTakenSeconds := timeToSeconds timeStr
    success := completed
    timedOut := timedOut }

/-! The scanning loop.  `ScanState` holds its local variables and `processLine`
is one iteration of `for line in f`. -/

structure ScanState where
  currentFullPath : Option Text := none
  currentElapsedTimeStr : Option Text := none
  currentCompleted : Bool := false
  currentTimedOut : Bool := false
  results : List OperationResult := []

def orDefault (value : Option Text) (default : Text) : Text :=
  match value with
  | none => default
  | some [] => default
  | some text => text

namespace ScanState

def append (context : LogContext) (state : ScanState)
    (fullPath timeStr : Text) (completed timedOut : Bool) : ScanState :=
  { state with
    results := state.results ++
      [buildResult context state.results.length fullPath timeStr completed timedOut] }

def flush (context : LogContext) (state : ScanState) : ScanState :=
  match state.currentFullPath with
  | none => state
  | some [] => state
  | some fullPath =>
      if state.currentCompleted then state
      else state.append context fullPath
        (orDefault state.currentElapsedTimeStr (lit "0s")) false
        state.currentTimedOut

def processLine (context : LogContext) (state : ScanState) (line : Text) :
    ScanState :=
  let state :=
    if containsText (lit "context deadline exceeded") line then
      { state with currentTimedOut := true }
    else state
  match startPattern.search line with
  | some found =>
      { state.flush context with
        currentFullPath := found.groups.head?
        currentElapsedTimeStr := none
        currentCompleted := false
        currentTimedOut := false }
  | none =>
      match completePattern.search line with
      | some found =>
          { state with currentCompleted := true }.append context
            (found.groups.head?.getD []) (found.groups.getD 1 []) true false
      | none =>
          match elapsedPattern.search line with
          | some found => { state with currentElapsedTimeStr := found.groups.head? }
          | none => state

end ScanState

/-- A readable log: its decoded lines, and whether iteration reached the end of
the file or stopped on a read error after those lines. -/
structure LogFile where
  lines : List Text
  intact : Bool := true

def processTerraformLogs (context : LogContext) :
    Option LogFile → List OperationResult
  | none => []
  | some file =>
      let scanned := file.lines.foldl (ScanState.processLine context) {}
      if file.intact then (scanned.flush context).results else scanned.results

end Telescope.Terraform
