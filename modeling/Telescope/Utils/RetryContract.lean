import Mathlib.Algebra.BigOperators.Group.List.Basic
import Mathlib.Data.ENat.Lattice
import Mathlib.Tactic.Ring
import Telescope.Utils.Retries

namespace Telescope

/-! `execute_with_retries` as the source writes it: the `while` loop with its three tests
of `retry_count` and the `return None` behind it.  Errors are what `except Exception` catches,
and the sleeps return. -/

inductive RetryEnd (ε α : Type) where
  | returned (value : α)
  | raised (error : ε)
  | fellThrough

def RetryEnd.ofResult {ε α : Type} : Except ε α → RetryEnd ε α
  | .ok value => .returned value
  | .error error => .raised error

/-- The outcomes of all calls of the function in order, the sleeps between them, and how
the helper ended. -/
structure RetryTrace (ε α σ : Type) where
  attempts : List (Except ε α)
  sleeps : List Nat
  ended : RetryEnd ε α
  state : σ

def failed {ε α : Type} : Except ε α → Bool
  | .ok _ => false
  | .error _ => true

namespace RetryTrace

variable {ε α σ : Type}

/-- The number of failed attempts that were followed by another attempt. -/
def retried (trace : RetryTrace ε α σ) : Nat := trace.attempts.dropLast.countP failed

/-- One failed attempt and the sleep after it, in front of a trace. -/
def afterFailure (error : ε) (sleepTime : Nat) (later : RetryTrace ε α σ) :
    RetryTrace ε α σ :=
  { later with
    attempts := .error error :: later.attempts
    sleeps := sleepTime :: later.sleeps }

end RetryTrace

section Loop

variable {ε α σ : Type} (func : σ → Except ε α × σ) (maxRetries : Int) (backoffTime : Nat)

/-- `while retry_count <= max_retries`; `none` when the fuel runs out. -/
def whileRetries : Nat → Nat → σ → Option (RetryTrace ε α σ)
  | 0, _, _ => none
  | fuel + 1, retryCount, state =>
      if retryCount ≤ maxRetries then
        match func state with
        | (.ok value, after) => some ⟨[.ok value], [], .returned value, after⟩
        | (.error error, after) =>
            if retryCount < maxRetries then
              (whileRetries fuel (retryCount + 1) after).map
                (.afterFailure error (backoffTime * (retryCount + 1)))
            else some ⟨[.error error], [], .raised error, after⟩
      else some ⟨[], [], .fellThrough, state⟩

variable {func maxRetries} (fuel : Nat) {retryCount : Nat} {state after : σ}

theorem whileRetries_returned {value : α} (called : func state = (.ok value, after))
    (within : (retryCount : Int) ≤ maxRetries) :
    whileRetries func maxRetries backoffTime (fuel + 1) retryCount state =
      some ⟨[.ok value], [], .returned value, after⟩ := by
  rw [whileRetries, if_pos within, called]

theorem whileRetries_raised {error : ε} (called : func state = (.error error, after))
    (last : (retryCount : Int) = maxRetries) :
    whileRetries func maxRetries backoffTime (fuel + 1) retryCount state =
      some ⟨[.error error], [], .raised error, after⟩ := by
  simp only [whileRetries, if_pos last.le, called, if_neg last.not_lt]

theorem whileRetries_retried {error : ε} (called : func state = (.error error, after))
    (left : (retryCount : Int) < maxRetries) :
    whileRetries func maxRetries backoffTime (fuel + 1) retryCount state =
      (whileRetries func maxRetries backoffTime fuel (retryCount + 1) after).map
        (.afterFailure error (backoffTime * (retryCount + 1))) := by
  simp only [whileRetries, if_pos left.le, called, if_pos left]

end Loop

section Outcomes

variable {ε α : Type} (outcomes : Nat → Except ε α)

/-- A function whose calls have the given outcomes; its state counts the calls. -/
def nextOutcome (calls : Nat) : Except ε α × Nat := (outcomes calls, calls + 1)

noncomputable def firstSuccess : ℕ∞ :=
  ⨅ success : { index : Nat // failed (outcomes index) = false }, (success.val : ℕ∞)

variable {outcomes}

private theorem firstSuccess_eq {index : Nat} (succeeds : failed (outcomes index) = false)
    (earlier : ∀ before < index, failed (outcomes before) = true) :
    firstSuccess outcomes = index := by
  apply le_antisymm
  · exact iInf_le (fun success : { index : Nat // failed (outcomes index) = false } =>
      (success.val : ℕ∞)) ⟨index, succeeds⟩
  · apply le_iInf
    intro success
    apply Nat.cast_le.mpr
    by_contra before
    have fails := earlier success.val (not_le.mp before)
    rw [success.property] at fails
    exact nomatch fails

private theorem lt_firstSuccess {index : Nat}
    (fails : ∀ attempt ≤ index, failed (outcomes attempt) = true) :
    (index : ℕ∞) < firstSuccess outcomes := by
  apply lt_of_lt_of_le (Nat.cast_lt.mpr (Nat.lt_succ_self index))
  apply le_iInf
  intro success
  apply Nat.cast_le.mpr
  by_contra early
  have refused := fails success.val (Nat.lt_succ_iff.mp (not_le.mp early))
  rw [success.property] at refused
  exact nomatch refused

variable (outcomes) in
/-- The trace of `count` failed attempts from attempt `start` on and one more. -/
def traceOf (backoffTime start count : Nat) (ended : RetryEnd ε α) : RetryTrace ε α Nat where
  attempts := (List.range (count + 1)).map fun index => outcomes (start + index)
  sleeps := (List.range count).map fun index => backoffTime * (start + index + 1)
  ended := ended
  state := start + count + 1

private theorem afterFailure_traceOf {error : ε} {start : Nat}
    (fails : outcomes start = .error error)
    (backoffTime count : Nat) (ended : RetryEnd ε α) :
    (traceOf outcomes backoffTime (start + 1) count ended).afterFailure error
        (backoffTime * (start + 1)) =
      traceOf outcomes backoffTime start (count + 1) ended := by
  have shift (index : Nat) : start + 1 + index = start + (index + 1) := by omega
  simp only [RetryTrace.afterFailure, traceOf, List.range_succ_eq_map (n := count + 1),
    List.range_succ_eq_map (n := count), List.map_cons, List.map_map, Function.comp_def, shift,
    Nat.succ_eq_add_one, add_zero, fails]

/-- How the loop ends from attempt `start` on: with the first success, or with the error of
its last attempt. -/
inductive Ends (outcomes : Nat → Except ε α) (start left count : Nat) : RetryEnd ε α → Prop
  | returned {value : α} (within : count ≤ left)
      (succeeds : outcomes (start + count) = .ok value) : Ends outcomes start left count
        (.returned value)
  | raised {error : ε} (last : count = left)
      (fails : outcomes (start + count) = .error error) : Ends outcomes start left count
        (.raised error)

theorem nextOutcome_eq {start : Nat} {result : Except ε α} (outcome : outcomes start = result) :
    nextOutcome outcomes start = (result, start + 1) := by
  rw [nextOutcome, outcome]

private theorem whileRetries_spec (backoffTime left start : Nat) :
    ∃ count ended, (∀ index < count, failed (outcomes (start + index)) = true) ∧
      Ends outcomes start left count ended ∧
      ∀ fuel, left < fuel →
        whileRetries (nextOutcome outcomes) ((start + left : Nat) : Int) backoffTime fuel start
          start = some (traceOf outcomes backoffTime start count ended) := by
  induction left generalizing start with
  | zero =>
      cases outcome : outcomes start with
      | ok value =>
          refine ⟨0, .returned value, fun index before => absurd before (Nat.not_lt_zero index),
            .returned (Nat.le_refl 0) outcome, ?_⟩
          intro fuel fueled
          obtain ⟨fuel, rfl⟩ := Nat.exists_eq_succ_of_ne_zero fueled.ne'
          have ran := whileRetries_returned backoffTime fuel (nextOutcome_eq outcome)
            (Int.le_refl start)
          simpa [traceOf, outcome] using ran
      | error error =>
          refine ⟨0, .raised error, fun index before => absurd before (Nat.not_lt_zero index),
            .raised rfl outcome, ?_⟩
          intro fuel fueled
          obtain ⟨fuel, rfl⟩ := Nat.exists_eq_succ_of_ne_zero fueled.ne'
          have ran := whileRetries_raised backoffTime fuel (nextOutcome_eq outcome)
            (Eq.refl (start : Int))
          simpa [traceOf, outcome] using ran
  | succ left induction =>
      have below : ((start : Nat) : Int) < ((start + (left + 1) : Nat) : Int) := by
        push_cast
        omega
      cases outcome : outcomes start with
      | ok value =>
          refine ⟨0, .returned value, fun index before => absurd before (Nat.not_lt_zero index),
            .returned (Nat.zero_le _) outcome, ?_⟩
          intro fuel fueled
          obtain ⟨fuel, rfl⟩ := Nat.exists_eq_succ_of_ne_zero (Nat.ne_zero_of_lt fueled)
          rw [whileRetries_returned backoffTime fuel (nextOutcome_eq outcome) below.le]
          simp [traceOf, outcome]
      | error error =>
          obtain ⟨count, ended, fails, ends, runs⟩ := induction (start + 1)
          have shift (index : Nat) : start + 1 + index = start + (index + 1) := by omega
          refine ⟨count + 1, ended, ?_, ?_, ?_⟩
          · intro index before
            cases index with
            | zero =>
                rw [add_zero, outcome]
                rfl
            | succ index =>
                rw [← shift]
                exact fails index (Nat.lt_of_succ_lt_succ before)
          · cases ends with
            | returned within succeeds =>
                rw [shift] at succeeds
                exact .returned (Nat.succ_le_succ within) succeeds
            | raised last fails =>
                rw [shift] at fails
                exact .raised (congrArg (· + 1) last) fails
          · intro fuel fueled
            obtain ⟨fuel, rfl⟩ := Nat.exists_eq_succ_of_ne_zero (Nat.ne_zero_of_lt fueled)
            have later := runs fuel (Nat.lt_of_succ_lt_succ fueled)
            rw [shift] at later
            rw [whileRetries_retried backoffTime fuel (nextOutcome_eq outcome) below, later, Option.map_some,
              afterFailure_traceOf outcome]

private theorem sum_backoff (backoffTime count : Nat) :
    ((List.range count).map fun index => backoffTime * (0 + index + 1)).sum =
      backoffTime * (count * (count + 1) / 2) := by
  induction count with
  | zero => rfl
  | succ count induction =>
      have triangle : (count + 1) * (count + 1 + 1) / 2 = count * (count + 1) / 2 + (count + 1) := by
        have next : (count + 1) * (count + 1 + 1) = count * (count + 1) + (count + 1) * 2 := by ring
        rw [next, Nat.add_mul_div_right _ _ (by decide)]
      rw [List.range_succ, List.map_append, List.sum_append, induction, triangle,
        List.map_singleton, List.sum_singleton, zero_add]
      exact (Nat.mul_add _ _ _).symm

private theorem retried_traceOf {backoffTime start count : Nat} {ended : RetryEnd ε α}
    (fails : ∀ index < count, failed (outcomes (start + index)) = true) :
    (traceOf outcomes backoffTime start count ended).retried = count := by
  rw [RetryTrace.retried, traceOf, List.range_succ, List.map_append, List.map_singleton,
    List.dropLast_concat, List.countP_map]
  have all : (List.range count).countP (failed ∘ fun index => outcomes (start + index)) =
      (List.range count).length := by
    apply List.countP_eq_length.mpr
    intro index member
    exact fails index (List.mem_range.mp member)
  rw [all, List.length_range]

/-- What the helper promises of a function with the given outcomes. -/
structure MeetsRetryContract (outcomes : Nat → Except ε α) (maxRetries backoffTime : Nat)
    (trace : RetryTrace ε α Nat) : Prop where
  calls : (trace.attempts.length : ℕ∞) = min (firstSuccess outcomes + 1) (maxRetries + 1)
  inOrder : trace.attempts = (List.range trace.attempts.length).map outcomes
  returns : ∀ first : Nat, firstSuccess outcomes = first → first ≤ maxRetries →
    ∃ value, outcomes first = .ok value ∧ trace.ended = .returned value
  raises : (maxRetries : ℕ∞) < firstSuccess outcomes →
    ∃ error, trace.attempts.getLast? = some (.error error) ∧ trace.ended = .raised error
  neverNone : trace.ended ≠ .fellThrough
  sleeps : trace.sleeps.sum = backoffTime * (trace.retried * (trace.retried + 1) / 2)

private theorem traceOf_meets {maxRetries backoffTime count : Nat} {ended : RetryEnd ε α}
    (fails : ∀ index < count, failed (outcomes (0 + index)) = true)
    (ends : Ends outcomes 0 maxRetries count ended) :
    MeetsRetryContract outcomes maxRetries backoffTime
      (traceOf outcomes backoffTime 0 count ended) := by
  have length : (traceOf outcomes backoffTime 0 count ended).attempts.length = count + 1 := by
    simp [traceOf]
  have inOrder : (traceOf outcomes backoffTime 0 count ended).attempts =
      (List.range (count + 1)).map outcomes := by
    simp [traceOf]
  have retried : (traceOf outcomes backoffTime 0 count ended).retried = count :=
    retried_traceOf fails
  have sleeps : (traceOf outcomes backoffTime 0 count ended).sleeps.sum =
      backoffTime * ((traceOf outcomes backoffTime 0 count ended).retried *
        ((traceOf outcomes backoffTime 0 count ended).retried + 1) / 2) := by
    rw [retried]
    exact sum_backoff backoffTime count
  have failsBefore (before : Nat) (early : before < count) : failed (outcomes before) = true := by
    have refused := fails before early
    rwa [zero_add] at refused
  cases ends with
  | @returned value within succeeds =>
      rw [zero_add] at succeeds
      have first : firstSuccess outcomes = count :=
        firstSuccess_eq (by rw [succeeds]; rfl) failsBefore
      refine ⟨?_, by rw [length, inOrder], ?_, ?_, (fun none => nomatch none), sleeps⟩
      · rw [length, first]
        push_cast
        rw [min_eq_left]
        exact add_le_add_left (Nat.cast_le.mpr within) 1
      · intro index same _
        rw [first, Nat.cast_inj] at same
        exact ⟨value, same ▸ succeeds, rfl⟩
      · intro never
        rw [first, Nat.cast_lt] at never
        exact absurd within (not_le.mpr never)
  | @raised error last refuses =>
      subst last
      rw [zero_add] at refuses
      have never : (count : ℕ∞) < firstSuccess outcomes := by
        apply lt_firstSuccess
        intro attempt upTo
        rcases upTo.lt_or_eq with early | rfl
        · exact failsBefore attempt early
        · rw [refuses]
          rfl
      refine ⟨?_, by rw [length, inOrder], ?_, ?_, (fun none => nomatch none), sleeps⟩
      · rw [length, min_eq_right (add_le_add_left never.le 1)]
        rfl
      · intro index same within
        rw [same, Nat.cast_lt] at never
        exact absurd within (not_le.mpr never)
      · intro _
        refine ⟨error, ?_, rfl⟩
        rw [inOrder, List.range_succ, List.map_append, List.map_singleton, List.getLast?_concat,
          refuses]

theorem execute_with_retries_contract (outcomes : Nat → Except ε α)
    (maxRetries backoffTime : Nat) :
    ∃ trace, (∀ fuel, maxRetries < fuel →
      whileRetries (nextOutcome outcomes) maxRetries backoffTime fuel 0 0 = some trace) ∧
      MeetsRetryContract outcomes maxRetries backoffTime trace := by
  obtain ⟨count, ended, fails, ends, runs⟩ := whileRetries_spec backoffTime maxRetries 0
  rw [zero_add] at runs
  exact ⟨_, runs, traceOf_meets fails ends⟩

end Outcomes

section Refinement

variable {ε α σ : Type} (func : Nat → σ → Except ε α × σ)

/-- The function that the helper is given, which knows the number of its calls. -/
def counted (calls : Nat × σ) : Except ε α × (Nat × σ) :=
  ((func calls.1 calls.2).1, calls.1 + 1, (func calls.1 calls.2).2)

/-- The recursion over the retries that are left is the loop of the source. -/
theorem whileRetries_refines (backoffTime left retryCount : Nat) (state : σ) :
    ∃ trace, (∀ fuel, left < fuel →
      whileRetries (counted func) ((retryCount + left : Nat) : Int) backoffTime fuel retryCount
        (retryCount, state) = some trace) ∧
      trace.ended = .ofResult (retryFrom func backoffTime left retryCount state).result ∧
      retryCount + trace.attempts.length =
        (retryFrom func backoffTime left retryCount state).attempts ∧
      trace.sleeps = (retryFrom func backoffTime left retryCount state).sleeps ∧
      trace.state.2 = (retryFrom func backoffTime left retryCount state).state := by
  induction left generalizing retryCount state with
  | zero =>
      rcases attempted : func retryCount state with ⟨result, after⟩
      have called : counted func (retryCount, state) = (result, (retryCount + 1, after)) := by
        rw [counted, attempted]
      cases result with
      | ok value =>
          refine ⟨⟨[.ok value], [], .returned value, retryCount + 1, after⟩, ?_, ?_⟩
          · intro fuel fueled
            obtain ⟨fuel, rfl⟩ := Nat.exists_eq_succ_of_ne_zero fueled.ne'
            exact whileRetries_returned backoffTime fuel called (Int.le_refl _)
          · simp [retryFrom, attempted, RetryEnd.ofResult]
      | error error =>
          refine ⟨⟨[.error error], [], .raised error, retryCount + 1, after⟩, ?_, ?_⟩
          · intro fuel fueled
            obtain ⟨fuel, rfl⟩ := Nat.exists_eq_succ_of_ne_zero fueled.ne'
            exact whileRetries_raised backoffTime fuel called rfl
          · simp [retryFrom, attempted, RetryEnd.ofResult]
  | succ left induction =>
      have below : ((retryCount : Nat) : Int) < ((retryCount + (left + 1) : Nat) : Int) := by
        push_cast
        omega
      rcases attempted : func retryCount state with ⟨result, after⟩
      have called : counted func (retryCount, state) = (result, (retryCount + 1, after)) := by
        rw [counted, attempted]
      cases result with
      | ok value =>
          refine ⟨⟨[.ok value], [], .returned value, retryCount + 1, after⟩, ?_, ?_⟩
          · intro fuel fueled
            obtain ⟨fuel, rfl⟩ := Nat.exists_eq_succ_of_ne_zero (Nat.ne_zero_of_lt fueled)
            exact whileRetries_returned backoffTime fuel called below.le
          · simp [retryFrom, attempted, RetryEnd.ofResult]
      | error error =>
          obtain ⟨later, runs, ended, attempts, sleeps, final⟩ := induction (retryCount + 1) after
          have shift : retryCount + 1 + left = retryCount + (left + 1) := by omega
          refine ⟨later.afterFailure error (backoffTime * (retryCount + 1)), ?_, ?_, ?_, ?_, ?_⟩
          · intro fuel fueled
            obtain ⟨fuel, rfl⟩ := Nat.exists_eq_succ_of_ne_zero (Nat.ne_zero_of_lt fueled)
            have rest := runs fuel (Nat.lt_of_succ_lt_succ fueled)
            rw [shift] at rest
            rw [whileRetries_retried backoffTime fuel called below, rest, Option.map_some]
          · simpa only [retryFrom, attempted, RetryTrace.afterFailure] using ended
          · simp only [retryFrom, attempted, RetryTrace.afterFailure, List.length_cons, ← attempts]
            omega
          · simp only [retryFrom, attempted, RetryTrace.afterFailure, sleeps]
          · simpa only [retryFrom, attempted, RetryTrace.afterFailure] using final

end Refinement

end Telescope
