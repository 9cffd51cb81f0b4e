import Mathlib.Algebra.Order.Ring.Rat
import Mathlib.Data.List.Induction
import Telescope.Data.Run

namespace Telescope

universe u v w

/-! Two tasks that run at once, and the caller that waits for both.  The runs are those
of any scheduler: time passes between the steps as it likes. -/

/-- Of a task that has ended, its outcome and when it ended. -/
structure ForkJoin (α : Type u) (β : Type v) (ρ : Type w) where
  now : ℚ
  left : Option (α × ℚ)
  right : Option (β × ℚ)
  joined : Option ρ

inductive ForkJoinEvent where
  | elapse (seconds : ℚ)
  | leftEnds
  | rightEnds
  | join
  deriving DecidableEq

namespace ForkJoin

variable {α : Type u} {β : Type v} {ρ : Type w}

def fork (now : ℚ) : ForkJoin α β ρ := ⟨now, none, none, none⟩

def Allowed (state : ForkJoin α β ρ) : ForkJoinEvent → Prop
  | .elapse seconds => 0 ≤ seconds
  | .leftEnds => state.left = none
  | .rightEnds => state.right = none
  | .join => state.left.isSome ∧ state.right.isSome ∧ state.joined = none

section Run

variable (leftOutcome : α) (rightOutcome : β) (resume : α × ℚ → β × ℚ → ρ)

def step (state : ForkJoin α β ρ) : ForkJoinEvent → ForkJoin α β ρ
  | .elapse seconds => { state with now := state.now + seconds }
  | .leftEnds => { state with left := some (leftOutcome, state.now) }
  | .rightEnds => { state with right := some (rightOutcome, state.now) }
  | .join =>
      { state with
        joined := state.left.bind fun left => state.right.map fun right => resume left right }

def after (begun : ℚ) (events : List ForkJoinEvent) : ForkJoin α β ρ :=
  events.foldl (step leftOutcome rightOutcome resume) (fork begun)

/-- The event occurs in the run, at this time. -/
def OccursAt (begun : ℚ) (events : List ForkJoinEvent) (event : ForkJoinEvent) (time : ℚ) :
    Prop :=
  ∃ before later, events = before ++ event :: later ∧
    (after leftOutcome rightOutcome resume begun before).now = time

abbrev IsRun (begun : ℚ) (events : List ForkJoinEvent) : Prop :=
  AllowedRun (step leftOutcome rightOutcome resume) Allowed (fork begun) events

variable {leftOutcome rightOutcome resume} {begun : ℚ} {events : List ForkJoinEvent}

theorem after_concat (event : ForkJoinEvent) :
    after leftOutcome rightOutcome resume begun (events ++ [event]) =
      step leftOutcome rightOutcome resume
        (after leftOutcome rightOutcome resume begun events) event := by
  rw [after, List.foldl_append]
  rfl

theorem OccursAt.concat {event : ForkJoinEvent} {time : ℚ}
    (occurs : OccursAt leftOutcome rightOutcome resume begun events event time)
    (last : ForkJoinEvent) :
    OccursAt leftOutcome rightOutcome resume begun (events ++ [last]) event time := by
  obtain ⟨before, later, rfl, now⟩ := occurs
  exact ⟨before, later ++ [last], by simp, now⟩

theorem occursAt_concat_iff {event last : ForkJoinEvent} {time : ℚ} :
    OccursAt leftOutcome rightOutcome resume begun (events ++ [last]) event time ↔
      OccursAt leftOutcome rightOutcome resume begun events event time ∨
        event = last ∧ (after leftOutcome rightOutcome resume begun events).now = time := by
  constructor
  · intro occurs
    obtain ⟨before, later, split, now⟩ := occurs
    rcases List.eq_nil_or_concat' later with rfl | ⟨others, final, rfl⟩
    · obtain ⟨same, final⟩ := List.append_inj' split rfl
      exact .inr ⟨(List.singleton_inj.mp final).symm, by rw [same]; exact now⟩
    · rw [← List.cons_append, ← List.append_assoc] at split
      exact .inl ⟨before, others, (List.append_inj' split rfl).1, now⟩
  · intro occurs
    rcases occurs with earlier | ⟨rfl, now⟩
    · exact earlier.concat last
    · exact ⟨events, [], rfl, now⟩

theorem IsRun.last {event : ForkJoinEvent}
    (run : IsRun leftOutcome rightOutcome resume begun (events ++ [event])) :
    Allowed (after leftOutcome rightOutcome resume begun events) event :=
  run events event [] rfl

/-- What a run has recorded: each end once, with its time, and the joined result from
the recorded ends. -/
structure Recorded (leftOutcome : α) (rightOutcome : β) (resume : α × ℚ → β × ℚ → ρ)
    (begun : ℚ) (events : List ForkJoinEvent) (state : ForkJoin α β ρ) : Prop where
  left : ∀ ended, state.left = some ended ↔ ended.1 = leftOutcome ∧
    OccursAt leftOutcome rightOutcome resume begun events .leftEnds ended.2
  right : ∀ ended, state.right = some ended ↔ ended.1 = rightOutcome ∧
    OccursAt leftOutcome rightOutcome resume begun events .rightEnds ended.2
  joined : ∀ result, state.joined = some result → ∃ left right,
    state.left = some left ∧ state.right = some right ∧ result = resume left right

theorem step_left (state : ForkJoin α β ρ) (event : ForkJoinEvent) :
    (step leftOutcome rightOutcome resume state event).left =
      if event = .leftEnds then some (leftOutcome, state.now) else state.left := by
  cases event <;> rfl

theorem step_right (state : ForkJoin α β ρ) (event : ForkJoinEvent) :
    (step leftOutcome rightOutcome resume state event).right =
      if event = .rightEnds then some (rightOutcome, state.now) else state.right := by
  cases event <;> rfl

theorem step_joined (state : ForkJoin α β ρ) (event : ForkJoinEvent) :
    (step leftOutcome rightOutcome resume state event).joined =
      if event = .join then
        state.left.bind fun left => state.right.map fun right => resume left right
      else state.joined := by
  cases event <;> rfl

/-- A record that is written at one event keeps to the run while that event occurs at
most once. -/
theorem recorded_concat {γ : Type*} {outcome : γ} {record : Option (γ × ℚ)}
    {target last : ForkJoinEvent}
    (earlier : ∀ ended, record = some ended ↔ ended.1 = outcome ∧
      OccursAt leftOutcome rightOutcome resume begun events target ended.2)
    (fresh : last = target → record = none) (ended : γ × ℚ) :
    (if last = target then
        some (outcome, (after leftOutcome rightOutcome resume begun events).now)
      else record) = some ended ↔
      ended.1 = outcome ∧
        OccursAt leftOutcome rightOutcome resume begun (events ++ [last]) target ended.2 := by
  rw [occursAt_concat_iff]
  cases Decidable.em (last = target) with
  | inl same =>
      have unrecorded := fresh same
      have never : ¬ OccursAt leftOutcome rightOutcome resume begun events target ended.2 := by
        intro occurs
        have found := (earlier (outcome, ended.2)).mpr ⟨rfl, occurs⟩
        exact Option.some_ne_none _ (found.symm.trans unrecorded)
      rw [if_pos same, Option.some.injEq, Prod.ext_iff]
      simp only [never, same, true_and, false_or]
      exact and_congr_left' eq_comm
  | inr different =>
      rw [if_neg different, earlier]
      simp only [Ne.symm different, false_and, or_false]

theorem IsRun.recorded (run : IsRun leftOutcome rightOutcome resume begun events) :
    Recorded leftOutcome rightOutcome resume begun events
      (after leftOutcome rightOutcome resume begun events) := by
  induction events using List.reverseRecOn with
  | nil =>
      have never (event : ForkJoinEvent) (time : ℚ) :
          ¬ OccursAt leftOutcome rightOutcome resume begun [] event time := by
        intro occurs
        obtain ⟨before, later, split, -⟩ := occurs
        exact absurd split (by simp)
      constructor
      · intro ended
        exact iff_of_false (fun recorded => nomatch recorded) fun both => never _ _ both.2
      · intro ended
        exact iff_of_false (fun recorded => nomatch recorded) fun both => never _ _ both.2
      · intro result joined
        exact nomatch joined
  | append_singleton events last induction =>
      have earlier := induction run.left
      have allowed := run.last
      rw [after_concat]
      constructor
      · rw [step_left]
        apply recorded_concat earlier.left
        intro same
        rw [same] at allowed
        exact allowed
      · rw [step_right]
        apply recorded_concat earlier.right
        intro same
        rw [same] at allowed
        exact allowed
      · intro result joined
        rw [step_joined] at joined
        cases last with
        | join =>
            rw [if_pos rfl] at joined
            obtain ⟨left, leftEnded, rest⟩ := Option.bind_eq_some_iff.mp joined
            obtain ⟨right, rightEnded, same⟩ := Option.map_eq_some_iff.mp rest
            exact ⟨left, right, leftEnded, rightEnded, same.symm⟩
        | elapse seconds => exact earlier.joined result joined
        | leftEnds =>
            -- The joiner has resumed, so the left task had ended before.
            obtain ⟨left, right, leftEnded, -, -⟩ := earlier.joined result joined
            exact absurd leftEnded (by rw [show _ = none from allowed]; exact nofun)
        | rightEnds =>
            obtain ⟨left, right, -, rightEnded, -⟩ := earlier.joined result joined
            exact absurd rightEnded (by rw [show _ = none from allowed]; exact nofun)

/-- Once both tasks have ended, the caller can go on. -/
theorem IsRun.join (run : IsRun leftOutcome rightOutcome resume begun events)
    {leftTime rightTime : ℚ}
    (leftOccurs : OccursAt leftOutcome rightOutcome resume begun events .leftEnds leftTime)
    (rightOccurs : OccursAt leftOutcome rightOutcome resume begun events .rightEnds rightTime) :
    (after leftOutcome rightOutcome resume begun (events ++ [.join])).joined =
      some (resume (leftOutcome, leftTime) (rightOutcome, rightTime)) := by
  have recorded := run.recorded
  have left := (recorded.left (leftOutcome, leftTime)).mpr ⟨rfl, leftOccurs⟩
  have right := (recorded.right (rightOutcome, rightTime)).mpr ⟨rfl, rightOccurs⟩
  rw [after_concat, step_joined, if_pos rfl, left, right]
  rfl

/-- A caller that has gone on did so after both ends, with what was recorded there. -/
theorem IsRun.joined (run : IsRun leftOutcome rightOutcome resume begun events) {result : ρ}
    (joined : (after leftOutcome rightOutcome resume begun events).joined = some result) :
    ∃ leftTime rightTime,
      OccursAt leftOutcome rightOutcome resume begun events .leftEnds leftTime ∧
      OccursAt leftOutcome rightOutcome resume begun events .rightEnds rightTime ∧
      result = resume (leftOutcome, leftTime) (rightOutcome, rightTime) := by
  have recorded := run.recorded
  obtain ⟨⟨left, leftTime⟩, ⟨right, rightTime⟩, leftEnded, rightEnded, same⟩ :=
    recorded.joined result joined
  obtain ⟨rfl, leftOccurs⟩ := (recorded.left _).mp leftEnded
  obtain ⟨rfl, rightOccurs⟩ := (recorded.right _).mp rightEnded
  exact ⟨leftTime, rightTime, leftOccurs, rightOccurs, same⟩

/-- Each task ends at one time. -/
theorem IsRun.leftEnds_unique (run : IsRun leftOutcome rightOutcome resume begun events)
    {first second : ℚ}
    (firstOccurs : OccursAt leftOutcome rightOutcome resume begun events .leftEnds first)
    (secondOccurs : OccursAt leftOutcome rightOutcome resume begun events .leftEnds second) :
    first = second := by
  have recorded := run.recorded
  have here := (recorded.left (leftOutcome, first)).mpr ⟨rfl, firstOccurs⟩
  have there := (recorded.left (leftOutcome, second)).mpr ⟨rfl, secondOccurs⟩
  exact (Prod.mk.inj (Option.some.inj (here.symm.trans there))).2

theorem IsRun.rightEnds_unique (run : IsRun leftOutcome rightOutcome resume begun events)
    {first second : ℚ}
    (firstOccurs : OccursAt leftOutcome rightOutcome resume begun events .rightEnds first)
    (secondOccurs : OccursAt leftOutcome rightOutcome resume begun events .rightEnds second) :
    first = second := by
  have recorded := run.recorded
  have here := (recorded.right (rightOutcome, first)).mpr ⟨rfl, firstOccurs⟩
  have there := (recorded.right (rightOutcome, second)).mpr ⟨rfl, secondOccurs⟩
  exact (Prod.mk.inj (Option.some.inj (here.symm.trans there))).2

end Run

end ForkJoin

end Telescope
