import Mathlib.Data.Rat.Floor
import Telescope.Data.Json

namespace Telescope.Crud

open Telescope

/-! Operation records and the context that times and saves them
(`crud/operation.py`).  A timestamp is the whole UTC second its text shows; the
clock is read in seconds. -/

structure Raised where
  message : Text
  traceback : Text
  truthy : Bool := true

structure Operation where
  name : Text
  cloud : Text
  startTimestamp : Option Int := none
  endTimestamp : Option Int := none
  duration : Option Int := none
  unit : Text := lit "seconds"
  success : Bool := true
  errorMessage : Option Text := none
  errorTraceback : Option Text := none
  metadata : Fields := []

namespace Operation

def start (operation : Operation) (now : ℚ) : Operation :=
  { operation with startTimestamp := some ⌊now⌋ }

def setError (operation : Operation) (error : Raised) : Operation :=
  { operation with
    success := false
    errorMessage := some error.message
    errorTraceback := some error.traceback }

def addMetadata (operation : Operation) (key : Text) (value : Json) : Operation :=
  { operation with metadata := operation.metadata.set key value }

/-- `Operation.end` -/
def finish (operation : Operation) (success : Bool) (error : Option Raised)
    (now : ℚ) : Operation :=
  let ended :=
    { operation with
      endTimestamp := some ⌊now⌋
      duration := operation.startTimestamp.map fun started => ⌊now⌋ - started
      success := success }
  match error with
  | some raised => if raised.truthy then ended.setError raised else ended
  | none => ended

end Operation

/-! What the body of a context does to its operation, and the two ways out. -/

inductive BodyAction where
  | markFailed
  | setError (error : Raised)
  | addMetadata (key : Text) (value : Json)
  | rename (name : Text)

def BodyAction.perform (operation : Operation) : BodyAction → Operation
  | .markFailed => { operation with success := false }
  | .setError error => operation.setError error
  | .addMetadata key value => operation.addMetadata key value
  | .rename name => { operation with name := name }

def BodyAction.marksFailure : BodyAction → Bool
  | .markFailed => true
  | .setError _ => true
  | .addMetadata _ _ => false
  | .rename _ => false

structure OperationContext where
  name : Text
  cloud : Text
  metadata : Fields := []

namespace OperationContext

def enter (context : OperationContext) (now : ℚ) : Operation :=
  Operation.start
    { name := context.name, cloud := context.cloud, metadata := context.metadata }
    now

def exit (operation : Operation) (raised : Option Raised) (now : ℚ) : Operation :=
  operation.finish raised.isNone raised now

end OperationContext

/-- One use of a context: entry time, body, exception if any, exit time. -/
structure ContextUse where
  context : OperationContext
  entered : ℚ
  actions : List BodyAction
  raised : Option Raised
  exited : ℚ

namespace ContextUse

def bodyEnd (use : ContextUse) : Operation :=
  use.actions.foldl BodyAction.perform (use.context.enter use.entered)

def saved (use : ContextUse) : Operation :=
  OperationContext.exit use.bodyEnd use.raised use.exited

/-- A failure that the body raised or marked is recorded, and an error message is
only recorded with a failure. -/
def FailureRecorded (use : ContextUse) : Prop :=
  (use.raised.isSome = true ∨ use.bodyEnd.success = false →
    use.saved.success = false) ∧
  (use.saved.errorMessage ≠ none → use.saved.success = false)

end ContextUse

theorem success_exit_of_raised (operation : Operation) (raised : Raised) (now : ℚ) :
    (OperationContext.exit operation (some raised) now).success = false := by
  unfold OperationContext.exit Operation.finish
  cases truthy : raised.truthy with
  | true => simp [truthy, Operation.setError]
  | false => simp [truthy]

private theorem exit_of_returned (operation : Operation) (now : ℚ) :
    (OperationContext.exit operation none now).success = true ∧
      (OperationContext.exit operation none now).errorMessage =
        operation.errorMessage := ⟨rfl, rfl⟩

private theorem success_foldl_perform (actions : List BodyAction) (operation : Operation) :
    (actions.foldl BodyAction.perform operation).success =
      (operation.success && !actions.any BodyAction.marksFailure) := by
  induction actions generalizing operation with
  | nil => simp
  | cons action rest induction =>
      rw [List.foldl_cons, induction, List.any_cons]
      cases action <;>
        simp [BodyAction.perform, BodyAction.marksFailure, Operation.setError,
          Operation.addMetadata]

private theorem errorMessage_foldl_perform (actions : List BodyAction)
    (operation : Operation)
    (unmarked : actions.any BodyAction.marksFailure = false) :
    (actions.foldl BodyAction.perform operation).errorMessage =
      operation.errorMessage := by
  induction actions generalizing operation with
  | nil => rfl
  | cons action rest induction =>
      rw [List.any_cons, Bool.or_eq_false_iff] at unmarked
      rw [List.foldl_cons, induction _ unmarked.2]
      cases action with
      | markFailed => exact absurd unmarked.1 (by simp [BodyAction.marksFailure])
      | setError error => exact absurd unmarked.1 (by simp [BodyAction.marksFailure])
      | addMetadata key value => rfl
      | rename name => rfl

namespace ContextUse

private theorem saved_of_raised {use : ContextUse} {raised : Raised}
    (raises : use.raised = some raised) : use.saved.success = false := by
  rw [saved, raises]
  exact success_exit_of_raised use.bodyEnd raised use.exited

private theorem saved_of_returned {use : ContextUse} (returns : use.raised = none) :
    use.saved.success = true ∧ use.saved.errorMessage = use.bodyEnd.errorMessage := by
  rw [saved, returns]
  exact exit_of_returned use.bodyEnd use.exited

theorem bodyEnd_success (use : ContextUse) :
    use.bodyEnd.success = !use.actions.any BodyAction.marksFailure :=
  success_foldl_perform use.actions (use.context.enter use.entered)

/-- After a normal exit a mark is recorded only if there is none. -/
theorem failureRecorded_of_returned {use : ContextUse} (returns : use.raised = none) :
    use.FailureRecorded ↔ ∀ action ∈ use.actions, action.marksFailure = false := by
  obtain ⟨savedSuccess, savedMessage⟩ := saved_of_returned returns
  have unmarkedIff : (∀ action ∈ use.actions, action.marksFailure = false) ↔
      use.actions.any BodyAction.marksFailure = false := by
    simp
  rw [unmarkedIff]
  constructor
  · rintro ⟨recorded, -⟩
    by_contra marked
    rw [Bool.not_eq_false] at marked
    have bodyFailed : use.bodyEnd.success = false := by
      rw [bodyEnd_success, marked]
      rfl
    have failed := recorded (.inr bodyFailed)
    rw [savedSuccess] at failed
    exact Bool.noConfusion failed
  · intro unmarked
    have noMessage : use.bodyEnd.errorMessage = none :=
      errorMessage_foldl_perform use.actions _ unmarked
    constructor
    · rintro (raised | failed)
      · rw [returns] at raised
        exact Bool.noConfusion raised
      · rw [bodyEnd_success, unmarked] at failed
        exact Bool.noConfusion failed
    · intro message
      rw [savedMessage, noMessage] at message
      exact absurd rfl message

end ContextUse

/-- Failures are recorded exactly when the body raises or never marks its
operation: `finish` overwrites the flag with the absence of an exception. -/
theorem failureRecorded_iff (use : ContextUse) :
    use.FailureRecorded ↔
      use.raised.isSome = true ∨
        ∀ action ∈ use.actions, action.marksFailure = false := by
  cases raises : use.raised with
  | some raised =>
      have failed := ContextUse.saved_of_raised raises
      exact iff_of_true ⟨fun _ => failed, fun _ => failed⟩ (.inl rfl)
  | none =>
      rw [ContextUse.failureRecorded_of_returned raises]
      constructor
      · exact .inr
      · rintro (raised | unmarked)
        · exact Bool.noConfusion raised
        · exact unmarked

/-- The GPU plugin installation marks its operation failed and returns. -/
def unverifiedPluginInstall : ContextUse where
  context := { name := lit "install_gpu_plugin", cloud := lit "azure" }
  entered := 0
  actions := [.markFailed]
  raised := none
  exited := 1

theorem marked_failure_saved_as_success : ¬ ∀ use : ContextUse, use.FailureRecorded := by
  intro recorded
  have failed : unverifiedPluginInstall.saved.success = false :=
    (recorded unverifiedPluginInstall).1 (.inr rfl)
  exact Bool.noConfusion failed

end Telescope.Crud
