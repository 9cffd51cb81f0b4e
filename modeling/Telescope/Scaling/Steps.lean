import Telescope.Crud.Operation
import Telescope.Data.Activity
import Telescope.Data.Exception
import Telescope.Text.Edit

namespace Telescope.Scaling

open Telescope Crud

/-! Scaling step by step: every step is one timed operation, and the first step
that raises ends the scaling.  `cloud` is what the provider stores, `events` the
calls that were made. -/

abbrev Note := Text × Json

/-- A call and the value that it returns. -/
structure Reading where
  call : Call Error
  value : Json

/-- The operation of one step and the time its own calls took. -/
structure StepRecord where
  use : ContextUse
  inCalls : ℚ

structure ScaleRun (σ : Type) (ε : Type) where
  cloud : σ
  clock : ℚ
  events : List ε
  records : List StepRecord
  result : Except Error Unit

/-- An operation around straight-line code: what the code notes is metadata, and
`onError` is what the handler adds before it raises again. -/
def recordOf {ε : Type} (context : OperationContext) (entered : ℚ)
    (performed : Performed ε Note Error) (onError : Error → List Note)
    (traceback : Error → Text) : StepRecord where
  use :=
    { context := context
      entered := entered
      actions := (performed.notes ++ performed.raised.elim [] onError).map fun note =>
        .addMetadata note.1 note.2
      raised := performed.raised.map fun error =>
        { message := error.message, traceback := traceback error }
      exited := entered + performed.elapsed }
  inCalls := performed.inCalls

def resultOf (raised : Option Error) : Except Error Unit :=
  match raised with
  | some error => .error error
  | none => .ok ()

theorem resultOf_eq_ok {raised : Option Error} : resultOf raised = .ok () ↔ raised = none := by
  cases raised <;> simp [resultOf]

theorem resultOf_eq_error {raised : Option Error} {error : Error} :
    resultOf raised = .error error ↔ raised = some error := by
  cases raised <;> simp [resultOf]

/-- The metadata of a saved operation. -/
def recordedField (use : ContextUse) (key : Text) : Option Json :=
  use.saved.metadata.get? key

private theorem metadata_exit (operation : Operation) (raised : Option Raised) (now : ℚ) :
    (OperationContext.exit operation raised now).metadata = operation.metadata := by
  unfold OperationContext.exit Operation.finish
  cases raised with
  | none => rfl
  | some raised => cases truthy : raised.truthy <;> simp [truthy, Operation.setError]

private theorem metadata_foldl_perform (notes : List Note) (operation : Operation) :
    ((notes.map fun note => BodyAction.addMetadata note.1 note.2).foldl
      BodyAction.perform operation).metadata = operation.metadata.setAll notes := by
  induction notes generalizing operation with
  | nil => rfl
  | cons note rest induction =>
      rw [List.map_cons, List.foldl_cons, induction]
      rfl

theorem recordedField_recordOf {ε : Type} (context : OperationContext) (entered : ℚ)
    (performed : Performed ε Note Error) (onError : Error → List Note)
    (traceback : Error → Text) (key : Text) :
    recordedField (recordOf context entered performed onError traceback).use key =
      (context.metadata.setAll
        (performed.notes ++ performed.raised.elim [] onError)).get? key := by
  rw [recordedField, ContextUse.saved, metadata_exit, ContextUse.bodyEnd, recordOf,
    metadata_foldl_perform]
  rfl

section Loop

variable {σ ε : Type}

/-- `for index, count in enumerate(steps)`, with the count before each step. -/
def forSteps (step : σ → ℚ → Nat → Int → Int → ScaleRun σ ε) :
    σ → ℚ → Nat → Int → List Int → ScaleRun σ ε
  | cloud, clock, _, _, [] => ⟨cloud, clock, [], [], .ok ()⟩
  | cloud, clock, index, previous, count :: rest =>
      let first := step cloud clock index previous count
      match first.result with
      | .error _ => first
      | .ok () =>
          let later := forSteps step first.cloud first.clock (index + 1) count rest
          { later with
            events := first.events ++ later.events
            records := first.records ++ later.records }

/-- The records pair off with the requests; each is kept for the count before it. -/
def RecordedChain (recorded : Int → Int → ContextUse → Prop) :
    Int → List Int → List StepRecord → Prop
  | _, [], _ => True
  | _, _ :: _, [] => False
  | previous, count :: rest, record :: records =>
      recorded previous count record.use ∧ RecordedChain recorded count rest records

variable (request? : ε → Option Int)

def ScaleRun.requests (run : ScaleRun σ ε) : List Int := run.events.filterMap request?

/-- What one step does: its request and its operation, and how it fails.  `holds`
says which count the cloud stores, `refusal` what the request of a step raises. -/
structure StepSpec (recorded : Int → Int → ContextUse → Prop) (holds : σ → Int → Prop)
    (refusal : Nat → Option Error) (step : σ → ℚ → Nat → Int → Int → ScaleRun σ ε) :
    Prop where
  returned : ∀ cloud clock index previous count, holds cloud previous →
    (step cloud clock index previous count).result = .ok () →
      (step cloud clock index previous count).requests request? = [count] ∧
        holds (step cloud clock index previous count).cloud count ∧
          refusal index = none ∧
            ∃ record, (step cloud clock index previous count).records = [record] ∧
              recorded previous count record.use
  raised : ∀ cloud clock index previous count error, holds cloud previous →
    (step cloud clock index previous count).result = .error error →
      (step cloud clock index previous count).requests request? = [] ∨
        ((step cloud clock index previous count).requests request? = [count] ∧
          (∀ refused, refusal index = some refused → error = refused) ∧
            ∃ record, (step cloud clock index previous count).records = [record] ∧
              recorded previous count record.use)

/-- Code with one request in it makes that request or raises before it, and raises
what the request raises. -/
theorem requests_perform {before after : List (Activity ε Note Error)} {event : ε}
    {made : Call Error} {count : Int} (asks : request? event = some count)
    (quietBefore : ∀ other call, .call other call ∈ before → request? other = none)
    (quietAfter : ∀ other call, .call other call ∈ after → request? other = none) :
    (∃ error, (perform before).raised = some error ∧
        (perform (before ++ .call event made :: after)).raised = some error ∧
          (perform (before ++ .call event made :: after)).events.filterMap request? =
            []) ∨
      ((perform (before ++ .call event made :: after)).events.filterMap request? =
          [count] ∧
        ∀ refused, made.raises = some refused →
          (perform (before ++ .call event made :: after)).raised = some refused) := by
  have quiet : ∀ activities : List (Activity ε Note Error),
      (∀ other call, .call other call ∈ activities → request? other = none) →
        (perform activities).events.filterMap request? = [] := by
    intro activities none
    rw [List.filterMap_eq_nil_iff]
    intro other occurred
    obtain ⟨call, member⟩ := mem_events_perform occurred
    exact none other call member
  cases raises : (perform before).raised with
  | some error =>
      rw [perform_append_of_raised raises]
      exact .inl ⟨error, rfl, raises, quiet before quietBefore⟩
  | none =>
      rw [perform_append_of_returned raises, Performed.join, List.filterMap_append,
        quiet before quietBefore, List.nil_append, perform]
      cases refuses : made.raises with
      | some error =>
          simp only [Activity.performed, refuses]
          refine .inr ⟨by simp [asks], fun refused same => same⟩
      | none =>
          simp only [Activity.performed, refuses]
          refine .inr ⟨?_, fun refused same => absurd same.symm (Option.some_ne_none refused)⟩
          rw [Performed.join, List.filterMap_append, quiet after quietAfter]
          simp [asks]

/-- How a run of steps relates to its plan. -/
structure FollowsPlan (recorded : Int → Int → ContextUse → Prop)
    (refusal : Nat → Option Error) (current : Int) (plan : List Int)
    (run : ScaleRun σ ε) : Prop where
  requested : run.requests request? <+: plan
  completed : run.result = .ok () →
    run.requests request? = plan ∧ run.records.length = plan.length
  recorded : RecordedChain recorded current (run.requests request?) run.records
  stopped : ∀ index refused, index < (run.requests request?).length →
    refusal index = some refused →
      (run.requests request?).length = index + 1 ∧ run.result = .error refused

variable {request?}

namespace FollowsPlan

variable {recorded : Int → Int → ContextUse → Prop} {refusal : Nat → Option Error}
  {current count : Int} {rest : List Int}

/-- The first step raised before its request. -/
theorem unsent {run : ScaleRun σ ε} {error : Error} (raises : run.result = .error error)
    (none : run.requests request? = []) :
    FollowsPlan request? recorded refusal current (count :: rest) run where
  requested := by
    rw [none]
    exact List.nil_prefix
  completed := by
    intro returns
    rw [returns] at raises
    exact nomatch raises
  recorded := by
    rw [none]
    trivial
  stopped := by
    intro index refused early
    rw [none] at early
    exact absurd early (Nat.not_lt_zero index)

/-- The first step raised at or after its request. -/
theorem refusedFirst {run : ScaleRun σ ε} {error : Error} {record : StepRecord}
    (raises : run.result = .error error) (one : run.requests request? = [count])
    (refusedHere : ∀ refused, refusal 0 = some refused → error = refused)
    (records : run.records = [record]) (kept : recorded current count record.use) :
    FollowsPlan request? recorded refusal current (count :: rest) run where
  requested := by
    rw [one]
    exact List.prefix_append [count] rest
  completed := by
    intro returns
    rw [returns] at raises
    exact nomatch raises
  recorded := by
    rw [one, records]
    exact ⟨kept, trivial⟩
  stopped := by
    intro index refused early refusing
    rw [one] at early ⊢
    obtain rfl : index = 0 := Nat.lt_one_iff.mp early
    rw [raises, refusedHere refused refusing]
    exact ⟨rfl, rfl⟩

/-- The only step, accepted. -/
theorem single {run : ScaleRun σ ε} {record : StepRecord}
    (one : run.requests request? = [count]) (accepted : refusal 0 = none)
    (records : run.records = [record]) (kept : recorded current count record.use) :
    FollowsPlan request? recorded refusal current [count] run where
  requested := by
    rw [one]
  completed := by
    intro _
    rw [one, records]
    exact ⟨rfl, rfl⟩
  recorded := by
    rw [one, records]
    exact ⟨kept, trivial⟩
  stopped := by
    intro index refused early refusing
    rw [one] at early
    obtain rfl : index = 0 := Nat.lt_one_iff.mp early
    rw [accepted] at refusing
    exact nomatch refusing

/-- The first step returned and the later ones follow the rest of the plan. -/
theorem after {first later : ScaleRun σ ε} {record : StepRecord}
    (one : first.requests request? = [count]) (accepted : refusal 0 = none)
    (records : first.records = [record]) (kept : recorded current count record.use)
    (follows : FollowsPlan request? recorded (fun index => refusal (index + 1)) count
      rest later) :
    FollowsPlan request? recorded refusal current (count :: rest)
      { later with
        events := first.events ++ later.events
        records := first.records ++ later.records } := by
  have requests : ScaleRun.requests request?
      { later with
        events := first.events ++ later.events
        records := first.records ++ later.records } =
      count :: later.requests request? := by
    rw [ScaleRun.requests, List.filterMap_append]
    exact congrArg (· ++ later.requests request?) one
  refine ⟨?_, ?_, ?_, ?_⟩
  · rw [requests]
    exact List.cons_prefix_cons.mpr ⟨rfl, follows.requested⟩
  · intro returns
    obtain ⟨same, length⟩ := follows.completed returns
    rw [requests, same, records]
    exact ⟨rfl, congrArg (· + 1) length⟩
  · rw [requests, records]
    exact ⟨kept, follows.recorded⟩
  · intro index refused early refusing
    rw [requests, List.length_cons] at early ⊢
    cases index with
    | zero =>
        rw [accepted] at refusing
        exact nomatch refusing
    | succ index =>
        obtain ⟨length, result⟩ :=
          follows.stopped index refused (Nat.lt_of_succ_lt_succ early) refusing
        exact ⟨congrArg (· + 1) length, result⟩

end FollowsPlan

theorem StepSpec.followsPlan {recorded : Int → Int → ContextUse → Prop}
    {holds : σ → Int → Prop} {refusal : Nat → Option Error}
    {step : σ → ℚ → Nat → Int → Int → ScaleRun σ ε}
    (spec : StepSpec request? recorded holds refusal step) (plan : List Int) (cloud : σ)
    (clock : ℚ) (index : Nat) (current : Int) (stored : holds cloud current) :
    FollowsPlan request? recorded (fun offset => refusal (index + offset)) current plan
      (forSteps step cloud clock index current plan) := by
  induction plan generalizing cloud clock index current with
  | nil =>
      refine ⟨List.nil_prefix, fun _ => ⟨rfl, rfl⟩, trivial, ?_⟩
      intro offset refused early
      exact absurd early (Nat.not_lt_zero offset)
  | cons count rest induction =>
      rw [forSteps]
      cases ended : (step cloud clock index current count).result with
      | error error =>
          rcases spec.raised cloud clock index current count error stored ended with
            unsent | ⟨sent, refusedHere, record, records, kept⟩
          · exact .unsent ended unsent
          · exact .refusedFirst ended sent refusedHere records kept
      | ok done =>
          obtain ⟨sent, storedNext, accepted, record, records, kept⟩ :=
            spec.returned cloud clock index current count stored ended
          have later := induction (step cloud clock index current count).cloud
            (step cloud clock index current count).clock (index + 1) count storedNext
          have shifted : (fun offset => refusal (index + 1 + offset)) =
              fun offset => refusal (index + (offset + 1)) := by
            funext offset
            rw [Nat.add_assoc, Nat.add_comm 1 offset]
          rw [shifted] at later
          exact .after sent accepted records kept later

end Loop

end Telescope.Scaling
