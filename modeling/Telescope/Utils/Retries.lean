import Mathlib.Order.Nat

namespace Telescope

universe u

/-! `execute_with_retries`: call a function until it returns or the retries are used
up.  The function may change a state whether it returns or raises, and attempts are
numbered from zero. -/

structure Attempted (ε α σ : Type u) where
  result : Except ε α
  state : σ
  attempts : Nat
  sleeps : List Nat

section Retries

variable {ε α σ : Type u} (func : Nat → σ → Except ε α × σ) (backoffTime : Nat)

/-- The loop with `left` retries to go; the last exception is raised again. -/
def retryFrom : Nat → Nat → σ → Attempted ε α σ
  | 0, retryCount, state =>
      { result := (func retryCount state).1
        state := (func retryCount state).2
        attempts := retryCount + 1
        sleeps := [] }
  | left + 1, retryCount, state =>
      match func retryCount state with
      | (.ok value, after) =>
          { result := .ok value
            state := after
            attempts := retryCount + 1
            sleeps := [] }
      | (.error _, after) =>
          let later := retryFrom left (retryCount + 1) after
          { later with sleeps := backoffTime * (retryCount + 1) :: later.sleeps }

def executeWithRetries (maxRetries : Nat) (state : σ) : Attempted ε α σ :=
  retryFrom func backoffTime maxRetries 0 state

theorem executeWithRetries_of_first {state after : σ} {value : α}
    (returned : func 0 state = (.ok value, after)) (maxRetries : Nat) :
    (executeWithRetries func backoffTime maxRetries state).result = .ok value ∧
      (executeWithRetries func backoffTime maxRetries state).state = after := by
  unfold executeWithRetries
  cases maxRetries with
  | zero => simp [retryFrom, returned]
  | succ left => simp [retryFrom, returned]

variable {func backoffTime} {holds : σ → Prop}
  (kept : ∀ attempt state, holds state → holds (func attempt state).2)

include kept

/-- The outcome is that of the last attempt, which met what the earlier ones kept. -/
theorem exists_last_of_retryFrom (left retryCount : Nat) {state : σ} (start : holds state) :
    ∃ attempt before, retryCount ≤ attempt ∧ attempt ≤ retryCount + left ∧ holds before ∧
      func attempt before = ((retryFrom func backoffTime left retryCount state).result,
        (retryFrom func backoffTime left retryCount state).state) := by
  induction left generalizing retryCount state with
  | zero => exact ⟨retryCount, state, Nat.le_refl _, Nat.le_refl _, start, rfl⟩
  | succ left induction =>
      rw [retryFrom]
      rcases attempted : func retryCount state with ⟨result, after⟩
      cases result with
      | ok value => exact ⟨retryCount, state, Nat.le_refl _, Nat.le_add_right _ _, start, attempted⟩
      | error error =>
          have next := kept retryCount state start
          rw [attempted] at next
          obtain ⟨attempt, before, above, below, reached, last⟩ :=
            induction (retryCount + 1) next
          exact ⟨attempt, before, by omega, by omega, reached, last⟩

/-- One attempt within the budget that returns is enough. -/
theorem retryFrom_ok {left retryCount : Nat} {state : σ} (start : holds state)
    (succeeds : ∃ attempt, retryCount ≤ attempt ∧ attempt ≤ retryCount + left ∧
      ∀ before, holds before → ∃ value, (func attempt before).1 = .ok value) :
    ∃ value, (retryFrom func backoffTime left retryCount state).result = .ok value := by
  induction left generalizing retryCount state with
  | zero =>
      obtain ⟨attempt, above, below, returns⟩ := succeeds
      obtain rfl : attempt = retryCount := by omega
      exact returns state start
  | succ left induction =>
      rw [retryFrom]
      rcases attempted : func retryCount state with ⟨result, after⟩
      cases result with
      | ok value => exact ⟨value, rfl⟩
      | error error =>
          have next := kept retryCount state start
          rw [attempted] at next
          obtain ⟨attempt, above, below, returns⟩ := succeeds
          have later : retryCount + 1 ≤ attempt := by
            rcases above.lt_or_eq with later | rfl
            · exact later
            · obtain ⟨value, returned⟩ := returns state start
              rw [attempted] at returned
              exact nomatch returned
          exact induction next ⟨attempt, later, by omega, returns⟩

/-- What every attempt establishes from what the attempts keep, the helper
establishes. -/
theorem executeWithRetries_post (post : Except ε α → σ → Prop) {maxRetries : Nat}
    {state : σ} (start : holds state)
    (reaches : ∀ attempt before, holds before →
      post (func attempt before).1 (func attempt before).2) :
    post (executeWithRetries func backoffTime maxRetries state).result
      (executeWithRetries func backoffTime maxRetries state).state := by
  obtain ⟨attempt, before, -, -, reached, last⟩ :=
    exists_last_of_retryFrom kept maxRetries 0 start
  have established := reaches attempt before reached
  rw [last] at established
  exact established

theorem executeWithRetries_ok {maxRetries : Nat} {state : σ} (start : holds state)
    (succeeds : ∃ attempt ≤ maxRetries,
      ∀ before, holds before → ∃ value, (func attempt before).1 = .ok value) :
    ∃ value, (executeWithRetries func backoffTime maxRetries state).result = .ok value := by
  obtain ⟨attempt, below, returns⟩ := succeeds
  exact retryFrom_ok kept start ⟨attempt, Nat.zero_le _, by omega, returns⟩

end Retries

/-- The outcome is that of one of the attempts. -/
theorem exists_attempt {ε α σ : Type u} (func : Nat → σ → Except ε α × σ)
    (backoffTime maxRetries : Nat) (state : σ) :
    ∃ attempt ≤ maxRetries, ∃ before, func attempt before =
      ((executeWithRetries func backoffTime maxRetries state).result,
        (executeWithRetries func backoffTime maxRetries state).state) := by
  have kept (attempt : Nat) (before : σ) (_ : True) : True := trivial
  obtain ⟨attempt, before, -, within, -, last⟩ := exists_last_of_retryFrom kept maxRetries 0 trivial
  exact ⟨attempt, by omega, before, last⟩

section Establishes

variable {ε α σ : Type u} {func : Nat → σ → Except ε α × σ} {holds : σ → Prop}
  {post : α → σ → Prop}
  (attempts : ∀ attempt state, holds state →
    (∀ value, (func attempt state).1 = .ok value → post value (func attempt state).2) ∧
      (∀ error, (func attempt state).1 = .error error → holds (func attempt state).2))

include attempts

/-- What an attempt that returns establishes from what those that raise keep, the helper
establishes. -/
theorem retryFrom_establishes (backoffTime left retryCount : Nat) {state : σ}
    (start : holds state) :
    let ended := retryFrom func backoffTime left retryCount state
    (∀ value, ended.result = .ok value → post value ended.state) ∧
      (∀ error, ended.result = .error error → holds ended.state) := by
  induction left generalizing retryCount state with
  | zero => exact attempts retryCount state start
  | succ left induction =>
      obtain ⟨returns, raises⟩ := attempts retryCount state start
      rw [retryFrom]
      rcases attempted : func retryCount state with ⟨result, after⟩
      rw [attempted] at returns raises
      cases result with
      | ok value => exact ⟨returns, fun error failed => nomatch failed⟩
      | error error => exact induction (retryCount + 1) (raises error rfl)

end Establishes

end Telescope
