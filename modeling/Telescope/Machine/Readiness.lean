import Mathlib.Data.Rat.Floor
import Mathlib.Tactic.Linarith
import Telescope.Data.Json
import Telescope.Data.Sequence

namespace Telescope.Machine

open Telescope

/-! Waiting for new nodes to become Ready
(`AKSMachineClient._wait_for_machine_node_readiness`).  The clock readings, node
listings and failure checks of the iterations are inputs; sleeping only moves the
clock, which is any nondecreasing one. -/

inductive Percentile where
  | p50
  | p70
  | p90
  | p99
  | p100
  deriving DecidableEq

namespace Percentile

def value : Percentile → Nat
  | .p50 => 50
  | .p70 => 70
  | .p90 => 90
  | .p99 => 99
  | .p100 => 100

def all : List Percentile := [.p50, .p70, .p90, .p99, .p100]

end Percentile

abbrev FailedMachine := Fields

structure ReadinessEntry where
  targetNodes : Int
  elapsedTimeSeconds : Option ℚ
  percentage : Nat
  success : Bool

/-- The envelope has one entry for each of the keys `P50` to `P100`. -/
abbrev Envelope := Percentile → ReadinessEntry

abbrev ReadinessTimes := Percentile → Option ℚ

def emptyEnvelope : Envelope := fun p =>
  { targetNodes := 0
    elapsedTimeSeconds := none
    percentage := p.value
    success := false }

def buildReadinessEnvelope (targets : Percentile → Int) (times : ReadinessTimes) :
    Envelope := fun p =>
  { targetNodes := targets p
    elapsedTimeSeconds := times p
    percentage := p.value
    success := (times p).isSome }

/-- What one iteration of the loop reads.  `readyNodes` is `none` when listing the
nodes raised. -/
structure Poll where
  loopClock : ℚ
  checkClock : ℚ
  readyNodes : Option Nat
  failures : Except Text (List FailedMachine)
  recheckClock : ℚ
  elapsedClock : ℚ

structure PollTrace where
  start : ℚ
  poll : Nat → Poll
  startBefore : start ≤ (poll 0).loopClock
  loopBefore : ∀ i, (poll i).loopClock ≤ (poll i).checkClock
  checkBefore : ∀ i, (poll i).checkClock ≤ (poll i).recheckClock
  recheckBefore : ∀ i, (poll i).recheckClock ≤ (poll i).elapsedClock
  elapsedBefore : ∀ i, (poll i).elapsedClock ≤ (poll (i + 1)).loopClock

structure WaitArgs where
  expectedCount : Int
  timeout : Int
  baselineCount : Nat
  clusterName : Option Text
  expectedMachineNames : Option (List Text)

def machineFailureCheckIntervalSeconds : ℚ := 30

namespace WaitArgs

def targetTotal (args : WaitArgs) : Int := args.baselineCount + args.expectedCount

def target (args : WaitArgs) (p : Percentile) : Int :=
  max (args.baselineCount + 1) ⌈((p.value : ℚ) / 100) * (args.targetTotal : ℚ)⌉

def checksMachines (args : WaitArgs) : Bool :=
  (args.clusterName.getD []) ≠ [] && (args.expectedMachineNames.getD []) ≠ []

end WaitArgs

/-- `_get_ready_node_count` treats a failed listing as no ready node. -/
def getReadyNodeCount (readyNodes : Option Nat) : Nat := readyNodes.getD 0

/-- What one iteration saw: the ready count, the reported terminal failures and
the time after the start. -/
structure Observation where
  ready : Nat
  failedMachines : List FailedMachine
  elapsed : ℚ

structure WaitState where
  readinessTimes : ReadinessTimes
  nextMachineFailureCheckAt : Option ℚ
  observations : List Observation

inductive WaitOutcome where
  | returned (envelope : Envelope)
  | raised (failedMachines : List FailedMachine) (envelope : Envelope)

/-- How the wait ended, and what its iterations saw. -/
structure WaitExit where
  outcome : WaitOutcome
  observations : List Observation

def WaitExit.envelope (exit : WaitExit) : Envelope :=
  match exit.outcome with
  | .returned envelope => envelope
  | .raised _ envelope => envelope

def checkDue (args : WaitArgs) (nextCheck : Option ℚ) (poll : Poll) : Bool :=
  args.checksMachines &&
    match nextCheck with
    | none => false
    | some due => decide (due ≤ poll.checkClock)

/-- A check that raises is retried on the next cadence and reports nothing. -/
def reportedFailures (args : WaitArgs) (nextCheck : Option ℚ) (poll : Poll) :
    List FailedMachine :=
  if checkDue args nextCheck poll then
    match poll.failures with
    | .ok failed => failed
    | .error _ => []
  else []

def observe (args : WaitArgs) (start : ℚ) (state : WaitState) (poll : Poll) :
    Observation :=
  { ready := getReadyNodeCount poll.readyNodes
    failedMachines := reportedFailures args state.nextMachineFailureCheckAt poll
    elapsed := poll.elapsedClock - start }

def recordTimes (args : WaitArgs) (seen : Observation) (times : ReadinessTimes) :
    ReadinessTimes := fun p =>
  match times p with
  | some elapsed => some elapsed
  | none => if args.target p ≤ seen.ready then some seen.elapsed else none

def recordedCount (times : ReadinessTimes) : Nat :=
  Percentile.all.countP fun p => (times p).isSome

/-- The `while` loop from iteration `i` on; `none` when the fuel runs out. -/
def waitLoop (args : WaitArgs) (trace : PollTrace) :
    Nat → Nat → WaitState → Option WaitExit
  | 0, _, _ => none
  | fuel + 1, i, state =>
      let poll := trace.poll i
      if poll.loopClock < trace.start + args.timeout ∧
          recordedCount state.readinessTimes < Percentile.all.length then
        let seen := observe args trace.start state poll
        let observations := state.observations ++ [seen]
        if seen.failedMachines.isEmpty then
          waitLoop args trace fuel (i + 1)
            { readinessTimes := recordTimes args seen state.readinessTimes
              nextMachineFailureCheckAt :=
                if checkDue args state.nextMachineFailureCheckAt poll then
                  some (poll.recheckClock + machineFailureCheckIntervalSeconds)
                else state.nextMachineFailureCheckAt
              observations := observations }
        else
          some
            { outcome := .raised seen.failedMachines
                (buildReadinessEnvelope args.target state.readinessTimes)
              observations := observations }
      else
        some
          { outcome :=
              .returned (buildReadinessEnvelope args.target state.readinessTimes)
            observations := state.observations }

def initialState (args : WaitArgs) (trace : PollTrace) : WaitState :=
  { readinessTimes := fun _ => none
    nextMachineFailureCheckAt := if args.checksMachines then some trace.start else none
    observations := [] }

def waitForMachineNodeReadiness (args : WaitArgs) (trace : PollTrace) (fuel : Nat) :
    Option WaitExit :=
  if args.expectedCount ≤ 0 then
    some { outcome := .returned emptyEnvelope, observations := [] }
  else waitLoop args trace fuel 0 (initialState args trace)

/-! Every exit of the loop.  The recorded times are those of the first
observation that reaches each target; an iteration that reports terminal failures
ends the wait and is not recorded. -/

def reaches (args : WaitArgs) (p : Percentile) (seen : Observation) : Bool :=
  decide (args.target p ≤ seen.ready)

def timesOf (args : WaitArgs) (recorded : List Observation) : ReadinessTimes := fun p =>
  (recorded.find? (reaches args p)).map Observation.elapsed

abbrev Ordered (observations : List Observation) : Prop :=
  observations.Pairwise fun earlier later => earlier.elapsed ≤ later.elapsed

/-- When the next check is due, had the wait come to iteration `i`. -/
def nextCheckAt (args : WaitArgs) (trace : PollTrace) : Nat → Option ℚ
  | 0 => if args.checksMachines then some trace.start else none
  | i + 1 =>
      if checkDue args (nextCheckAt args trace i) (trace.poll i) then
        some ((trace.poll i).recheckClock + machineFailureCheckIntervalSeconds)
      else nextCheckAt args trace i

/-- The terminal failures that iteration `i` reports, if the wait comes to it. -/
def reportsAt (args : WaitArgs) (trace : PollTrace) (i : Nat) : List FailedMachine :=
  reportedFailures args (nextCheckAt args trace i) (trace.poll i)

def readyAt (trace : PollTrace) (i : Nat) : Nat :=
  getReadyNodeCount (trace.poll i).readyNodes

/-- The observation is what poll `i` of the trace read, before the deadline. -/
structure ReadAt (args : WaitArgs) (trace : PollTrace) (i : Nat)
    (seen : Observation) : Prop where
  ready : seen.ready = readyAt trace i
  failedMachines : seen.failedMachines = reportsAt args trace i
  elapsed : seen.elapsed = (trace.poll i).elapsedClock - trace.start
  beforeDeadline : (trace.poll i).loopClock < trace.start + args.timeout

def Polled (args : WaitArgs) (trace : PollTrace) (observations : List Observation) :
    Prop :=
  ∀ i seen, observations[i]? = some seen → ReadAt args trace i seen

inductive ExitShape (args : WaitArgs) (trace : PollTrace) : WaitExit → Prop
  | returned (recorded : List Observation)
      (quiet : ∀ seen ∈ recorded, seen.failedMachines = [])
      (ordered : Ordered recorded)
      (polled : Polled args trace recorded)
      (ended : ¬ ((trace.poll recorded.length).loopClock < trace.start + args.timeout ∧
        recordedCount (timesOf args recorded) < Percentile.all.length)) :
      ExitShape args trace
        { outcome :=
            .returned (buildReadinessEnvelope args.target (timesOf args recorded))
          observations := recorded }
  | raised (recorded : List Observation) (last : Observation)
      (quiet : ∀ seen ∈ recorded, seen.failedMachines = [])
      (ordered : Ordered (recorded ++ [last]))
      (polled : Polled args trace (recorded ++ [last]))
      (failed : last.failedMachines ≠ []) :
      ExitShape args trace
        { outcome := .raised last.failedMachines
            (buildReadinessEnvelope args.target (timesOf args recorded))
          observations := recorded ++ [last] }

structure LoopInvariant (args : WaitArgs) (trace : PollTrace) (i : Nat)
    (state : WaitState) : Prop where
  times : state.readinessTimes = timesOf args state.observations
  quiet : ∀ seen ∈ state.observations, seen.failedMachines = []
  ordered : Ordered state.observations
  count : state.observations.length = i
  nextCheck : state.nextMachineFailureCheckAt = nextCheckAt args trace i
  polled : Polled args trace state.observations
  past : ∀ seen ∈ state.observations,
    seen.elapsed ≤ (trace.poll i).loopClock - trace.start

private theorem recordTimes_timesOf (args : WaitArgs) (recorded : List Observation)
    (seen : Observation) :
    recordTimes args seen (timesOf args recorded) =
      timesOf args (recorded ++ [seen]) := by
  funext p
  simp only [recordTimes, timesOf, List.find?_append]
  cases recorded.find? (reaches args p) with
  | some first => rfl
  | none =>
      by_cases reached : args.target p ≤ seen.ready
      · simp [reaches, reached]
      · simp [reaches, reached]

theorem PollTrace.loopClock_le_elapsedClock (trace : PollTrace) (i : Nat) :
    (trace.poll i).loopClock ≤ (trace.poll i).elapsedClock :=
  (trace.loopBefore i).trans ((trace.checkBefore i).trans (trace.recheckBefore i))

private theorem ordered_append_seen {args : WaitArgs} {trace : PollTrace} {i : Nat}
    {state : WaitState} (invariant : LoopInvariant args trace i state)
    (seen : Observation)
    (now : seen.elapsed = (trace.poll i).elapsedClock - trace.start) :
    Ordered (state.observations ++ [seen]) := by
  rw [Ordered, List.pairwise_append]
  refine ⟨invariant.ordered, List.pairwise_singleton _ _, ?_⟩
  intro earlier member later laterMember
  rw [List.mem_singleton] at laterMember
  subst laterMember
  have past := invariant.past earlier member
  have advance := trace.loopClock_le_elapsedClock i
  rw [now]
  linarith

private theorem polled_append_seen {args : WaitArgs} {trace : PollTrace} {i : Nat}
    {state : WaitState} (invariant : LoopInvariant args trace i state)
    (early : (trace.poll i).loopClock < trace.start + args.timeout) :
    Polled args trace
      (state.observations ++ [observe args trace.start state (trace.poll i)]) := by
  intro k seen found
  rcases Nat.lt_or_ge k state.observations.length with earlier | last
  · rw [List.getElem?_append_left earlier] at found
    exact invariant.polled k seen found
  · rw [List.getElem?_append_right last, invariant.count] at found
    obtain ⟨offset, same⟩ := List.getElem?_eq_some_iff.mp found
    have position : k = i := by
      rw [invariant.count] at last
      rw [List.length_singleton] at offset
      omega
    subst position
    simp only [Nat.sub_self, List.getElem_cons_zero] at same
    rw [← same]
    refine ⟨rfl, ?_, rfl, early⟩
    simp only [observe, reportsAt, invariant.nextCheck]

theorem LoopInvariant.next {args : WaitArgs} {trace : PollTrace} {i : Nat}
    {state : WaitState} (invariant : LoopInvariant args trace i state)
    (early : (trace.poll i).loopClock < trace.start + args.timeout)
    (quiet : (observe args trace.start state (trace.poll i)).failedMachines = []) :
    LoopInvariant args trace (i + 1)
      { readinessTimes :=
          recordTimes args (observe args trace.start state (trace.poll i))
            state.readinessTimes
        nextMachineFailureCheckAt :=
          if checkDue args state.nextMachineFailureCheckAt (trace.poll i) then
            some ((trace.poll i).recheckClock + machineFailureCheckIntervalSeconds)
          else state.nextMachineFailureCheckAt
        observations :=
          state.observations ++ [observe args trace.start state (trace.poll i)] } where
  times := by
    simp only [invariant.times, recordTimes_timesOf]
  quiet := by
    intro other member
    rcases List.mem_append.mp member with earlier | last
    · exact invariant.quiet other earlier
    · rw [List.mem_singleton.mp last]
      exact quiet
  ordered := ordered_append_seen invariant _ rfl
  count := by
    rw [List.length_append, invariant.count, List.length_singleton]
  nextCheck := by
    simp only [invariant.nextCheck, nextCheckAt]
  polled := polled_append_seen invariant early
  past := by
    intro other member
    have advance := trace.elapsedBefore i
    rcases List.mem_append.mp member with earlier | last
    · have past := invariant.past other earlier
      have within := trace.loopClock_le_elapsedClock i
      linarith
    · rw [List.mem_singleton.mp last]
      simp only [observe]
      linarith

private theorem waitLoop_shape (args : WaitArgs) (trace : PollTrace) (fuel i : Nat)
    (state : WaitState) (exit : WaitExit)
    (invariant : LoopInvariant args trace i state)
    (ran : waitLoop args trace fuel i state = some exit) :
    ExitShape args trace exit := by
  induction fuel generalizing i state with
  | zero => simp [waitLoop] at ran
  | succ fuel induction =>
      simp only [waitLoop] at ran
      split at ran
      · rename_i entered
        split at ran
        · rename_i noFailure
          refine induction _ _ (invariant.next entered.1 ?_) ran
          exact List.isEmpty_iff.mp noFailure
        · rename_i failure
          have exitEquation := Option.some.inj ran
          subst exitEquation
          rw [invariant.times]
          refine ExitShape.raised state.observations _ invariant.quiet
            (ordered_append_seen invariant _ rfl)
            (polled_append_seen invariant entered.1) ?_
          exact fun none => failure (List.isEmpty_iff.mpr none)
      · rename_i ended
        have exitEquation := Option.some.inj ran
        subst exitEquation
        rw [invariant.times] at ended ⊢
        rw [← invariant.count] at ended
        exact ExitShape.returned state.observations invariant.quiet invariant.ordered
          invariant.polled ended

private theorem initialState_invariant (args : WaitArgs) (trace : PollTrace) :
    LoopInvariant args trace 0 (initialState args trace) where
  times := rfl
  quiet := by simp [initialState]
  ordered := List.Pairwise.nil
  count := rfl
  nextCheck := rfl
  polled := by simp [Polled, initialState]
  past := by simp [initialState]

theorem waitForMachineNodeReadiness_shape (args : WaitArgs) (trace : PollTrace)
    (fuel : Nat) (exit : WaitExit) (positive : 1 ≤ args.expectedCount)
    (ran : waitForMachineNodeReadiness args trace fuel = some exit) :
    ExitShape args trace exit := by
  have notEmpty : ¬ args.expectedCount ≤ 0 := by omega
  rw [waitForMachineNodeReadiness, if_neg notEmpty] at ran
  exact waitLoop_shape args trace fuel 0 _ exit (initialState_invariant args trace) ran

/-- The wait ends once the clock has reached the deadline. -/
theorem waitLoop_terminates (args : WaitArgs) (trace : PollTrace) (remaining i : Nat)
    (state : WaitState)
    (late : trace.start + args.timeout ≤ (trace.poll (i + remaining)).loopClock) :
    ∃ exit, waitLoop args trace (remaining + 1) i state = some exit := by
  induction remaining generalizing i state with
  | zero =>
      have ended : ¬ ((trace.poll i).loopClock < trace.start + args.timeout ∧
          recordedCount state.readinessTimes < Percentile.all.length) := by
        rintro ⟨early, -⟩
        exact absurd late (not_le.mpr early)
      simp only [waitLoop, if_neg ended]
      exact ⟨_, rfl⟩
  | succ remaining induction =>
      have later : trace.start + args.timeout ≤
          (trace.poll (i + 1 + remaining)).loopClock := by
        rwa [Nat.add_assoc, Nat.add_comm 1]
      rw [waitLoop]
      by_cases running : (trace.poll i).loopClock < trace.start + args.timeout ∧
          recordedCount state.readinessTimes < Percentile.all.length
      · simp only [if_pos running]
        cases failed : (observe args trace.start state
            (trace.poll i)).failedMachines.isEmpty with
        | true =>
            rw [if_pos rfl]
            exact induction (i + 1) _ later
        | false =>
            rw [if_neg Bool.false_ne_true]
            exact ⟨_, rfl⟩
      · simp only [if_neg running]
        exact ⟨_, rfl⟩

end Telescope.Machine
