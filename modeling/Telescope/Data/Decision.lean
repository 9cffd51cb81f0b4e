import Mathlib.Algebra.Order.Floor.Semiring
import Telescope.Data.Polling

namespace Telescope

universe u

/-! Polling loops in which every poll may end the loop with a decision of its own. -/

/-- The decision that ended a loop, if polls did not stop being due before, and the number
of polls made. -/
structure Waited (δ : Type u) where
  decision : Option δ
  polls : Nat

variable {δ : Type u}

/-- `while due: poll`, from poll `index` on; `none` when the fuel runs out. -/
def decideUntil (due : Nat → Bool) (poll : Nat → Option δ) : Nat → Nat → Option (Waited δ)
  | 0, _ => none
  | fuel + 1, index =>
      if due index then
        match poll index with
        | some decision => some ⟨some decision, index + 1⟩
        | none => decideUntil due poll fuel (index + 1)
      else some ⟨none, index⟩

/-- Polls before this one were due and decided nothing. -/
def UndecidedBefore (due : Nat → Bool) (poll : Nat → Option δ) (index : Nat) : Prop :=
  ∀ earlier < index, due earlier = true ∧ poll earlier = none

/-- The poll at which a loop ends: the first that is not due or decides. -/
inductive DecidesAt (due : Nat → Bool) (poll : Nat → Option δ) : Nat → Waited δ → Prop
  | decided {last : Nat} {decision : δ} (before : UndecidedBefore due poll last)
      (isDue : due last = true) (decides : poll last = some decision) :
      DecidesAt due poll last ⟨some decision, last + 1⟩
  | late {last : Nat} (before : UndecidedBefore due poll last) (notDue : due last = false) :
      DecidesAt due poll last ⟨none, last⟩

section Decision

variable {due : Nat → Bool} {poll : Nat → Option δ} {last : Nat} {waited : Waited δ}

theorem DecidesAt.before (ends : DecidesAt due poll last waited) :
    UndecidedBefore due poll last := by
  cases ends with
  | decided before _ _ => exact before
  | late before _ => exact before

/-- A loop that starts undecided ends once the fuel reaches a poll that is not due. -/
theorem exists_decideUntil {fuel index : Nat} (before : UndecidedBefore due poll index)
    (late : ∃ later < index + fuel, due later = false) :
    ∃ last waited, decideUntil due poll fuel index = some waited ∧
      DecidesAt due poll last waited := by
  induction fuel generalizing index with
  | zero =>
      obtain ⟨later, below, ended⟩ := late
      rw [(before later below).1] at ended
      cases ended
  | succ fuel induction =>
      rw [decideUntil]
      by_cases isDue : due index = true
      · rw [if_pos isDue]
        cases decides : poll index with
        | some decision =>
            exact ⟨index, ⟨some decision, index + 1⟩, rfl, .decided before isDue decides⟩
        | none =>
            obtain ⟨later, below, ended⟩ := late
            exact induction (Nat.forall_lt_succ_right.mpr ⟨before, isDue, decides⟩)
              ⟨later, by omega, ended⟩
      · rw [if_neg isDue]
        exact ⟨index, ⟨none, index⟩, rfl, .late before (Bool.eq_false_iff.mpr isDue)⟩

/-- A loop decides what the first deciding poll does, if all before it are due. -/
theorem DecidesAt.decision_eq_some_iff (ends : DecidesAt due poll last waited)
    {decision : δ} :
    waited.decision = some decision ↔
      ∃ index, UndecidedBefore due poll index ∧ due index = true ∧
        poll index = some decision := by
  constructor
  · intro reached
    cases ends with
    | decided before isDue decides =>
        cases reached
        exact ⟨last, before, isDue, decides⟩
    | late before notDue => cases reached
  · rintro ⟨index, before, isDue, decides⟩
    have notEarlier : ¬ index < last := by
      intro earlier
      rw [(ends.before index earlier).2] at decides
      cases decides
    cases ends with
    | decided lastBefore lastDue lastDecides =>
        have notLater : ¬ last < index := by
          intro later
          rw [(before last later).2] at lastDecides
          cases lastDecides
        obtain rfl : index = last := by omega
        rw [lastDecides] at decides
        exact decides
    | late lastBefore notDue =>
        rcases Nat.lt_or_ge last index with later | same
        · rw [(before last later).1] at notDue
          cases notDue
        · obtain rfl : index = last := by omega
          rw [isDue] at notDue
          cases notDue

end Decision

/-! With a pause after each poll, the number of polls is bounded. -/

namespace PausedClock

variable {pause : ℚ} (clock : PausedClock pause)

def due (seconds : ℚ) (index : Nat) : Bool := decide (clock.now index < clock.start + seconds)

theorem due_of_le (positive : 0 < pause) {seconds : ℚ} {earlier later : Nat}
    (ordered : earlier ≤ later) (isDue : clock.due seconds later = true) :
    clock.due seconds earlier = true := by
  rw [due, decide_eq_true_iff] at isDue ⊢
  exact (clock.now_monotone positive ordered).trans_lt isDue

theorem not_due_ceil (positive : 0 < pause) (seconds : ℚ) :
    clock.due seconds ⌈seconds / pause⌉₊ = false := by
  have reached := clock.start_add_le ⌈seconds / pause⌉₊
  have enough : seconds ≤ ⌈seconds / pause⌉₊ * pause :=
    (div_le_iff₀ positive).mp (Nat.le_ceil _)
  rw [due, decide_eq_false_iff_not, not_lt]
  linarith

/-- A loop makes at most as many polls as pauses fit into its time, rounded up. -/
theorem exists_decided (positive : 0 < pause) (seconds : ℚ) (poll : Nat → Option δ) :
    ∃ last waited,
      decideUntil (clock.due seconds) poll (⌈seconds / pause⌉₊ + 1) 0 = some waited ∧
        DecidesAt (clock.due seconds) poll last waited :=
  exists_decideUntil (fun _ below => absurd below (Nat.not_lt_zero _))
    ⟨_, by omega, clock.not_due_ceil positive seconds⟩

/-- A loop that raises when it is late returns what the first deciding poll returns, and
raises if there is no such poll or it raises. -/
theorem exists_outcome {ε α : Type} (positive : 0 < pause) (seconds : ℚ)
    (poll : Nat → Option (Except ε α)) (late : Nat → ε) :
    ∃ outcome,
      (decideUntil (clock.due seconds) poll (⌈seconds / pause⌉₊ + 1) 0).map
          (fun waited => waited.decision.getD (.error (late waited.polls))) = some outcome ∧
        ∀ value, outcome = .ok value ↔
          ∃ index, UndecidedBefore (clock.due seconds) poll index ∧
            clock.due seconds index = true ∧ poll index = some (.ok value) := by
  obtain ⟨last, waited, ended, ends⟩ := clock.exists_decided positive seconds poll
  refine ⟨waited.decision.getD (.error (late waited.polls)), by rw [ended, Option.map_some], ?_⟩
  intro value
  rw [← ends.decision_eq_some_iff]
  cases waited.decision with
  | none => simp
  | some decision => simp

end PausedClock

end Telescope
