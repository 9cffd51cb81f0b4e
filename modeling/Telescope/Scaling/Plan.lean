import Mathlib.Algebra.Order.Floor.Ring
import Mathlib.Data.Rat.Floor
import Mathlib.Tactic.Linarith
import Telescope.Eks.Client

namespace Telescope.Scaling

open Telescope

/-! Progressive scaling: the counts requested one after the other, and the two
planners that compute them with `range` arithmetic. -/

/-- From `current`, full steps towards the target until it is within one step, then
the target. -/
inductive StepChain (target size : Int) : Int → List Int → Prop
  | last {current : Int} (different : current ≠ target)
      (near : |target - current| ≤ size) : StepChain target size current [target]
  | step {current : Int} {rest : List Int} (far : size < |target - current|)
      (later : StepChain target size (current + (target - current).sign * size) rest) :
      StepChain target size current
        ((current + (target - current).sign * size) :: rest)

/-- What a progressive plan promises, for the chain of counts that starts at
`current`. -/
structure IsPlan (current target size : Int) (steps : List Int) : Prop where
  towards : (current :: steps).IsChain fun previous next =>
    (current < target → previous < next) ∧ (target < current → next < previous)
  bounded : (current :: steps).IsChain fun previous next => |next - previous| ≤ size
  full : (current :: steps).dropLast.IsChain fun previous next =>
    |next - previous| = size
  ends : steps.getLast? = some target
  length : (steps.length : ℤ) = ⌈(|target - current| : ℚ) / size⌉

/-- The `count` full steps of `delta` from `current`. -/
def fullSteps (current delta : Int) (count : Nat) : List Int :=
  (List.range count).map fun i : Nat => current + delta + i * delta

/-- The full steps, and the target when they do not reach it. -/
def stepPlan (current target delta rest : Int) (count : Nat) : List Int :=
  fullSteps current delta count ++ if rest = 0 then [] else [target]

namespace StepChain

theorem ne_nil {target size current : Int} {steps : List Int}
    (chain : StepChain target size current steps) : steps ≠ [] := by
  cases chain with
  | last different near => exact List.cons_ne_nil _ _
  | step far later => exact List.cons_ne_nil _ _

/-- The chain is determined by where it starts. -/
theorem unique {target size current : Int} {left right : List Int}
    (first : StepChain target size current left)
    (second : StepChain target size current right) : left = right := by
  induction first generalizing right with
  | last different near =>
      cases second with
      | last _ _ => rfl
      | step far _ => exact absurd near (not_le.mpr far)
  | step far later induction =>
      cases second with
      | last _ near => exact absurd near (not_le.mpr far)
      | step _ other => rw [induction other]

/-- A full step stays on its side of the target. -/
theorem next_cases {target size current : Int} (positive : 0 < size)
    (far : size < |target - current|) :
    (current < target ∧ current + (target - current).sign * size = current + size ∧
        current + size < target) ∨
      (target < current ∧ current + (target - current).sign * size = current - size ∧
        target < current - size) := by
  rcases lt_trichotomy current target with up | same | down
  · rw [abs_of_pos (by omega)] at far
    rw [Int.sign_eq_one_of_pos (by omega), one_mul]
    exact .inl ⟨up, rfl, by omega⟩
  · rw [same, sub_self, abs_zero] at far
    exact absurd positive (by omega)
  · rw [abs_of_neg (by omega)] at far
    rw [Int.sign_eq_neg_one_of_neg (by omega), neg_one_mul]
    exact .inr ⟨down, rfl, by omega⟩

private theorem length_of_near {target size current : Int} (different : current ≠ target)
    (positive : 0 < size) (near : |target - current| ≤ size) :
    ⌈(|target - current| : ℚ) / size⌉ = 1 := by
  have sizePositive : (0 : ℚ) < size := by exact_mod_cast positive
  have apart : (target : ℚ) - current ≠ 0 := by
    intro same
    exact different (by exact_mod_cast (sub_eq_zero.mp same).symm)
  have within : |(target : ℚ) - current| ≤ size := by exact_mod_cast near
  rw [Int.ceil_eq_iff]
  constructor
  · simpa using div_pos (abs_pos.mpr apart) sizePositive
  · simpa using (div_le_one sizePositive).mpr within

private theorem length_of_far {target size current next : Int} (positive : 0 < size)
    (closer : |target - next| = |target - current| - size) :
    ⌈(|target - current| : ℚ) / size⌉ = ⌈(|target - next| : ℚ) / size⌉ + 1 := by
  have sizePositive : (0 : ℚ) < size := by exact_mod_cast positive
  have distance : |(target : ℚ) - next| = |(target : ℚ) - current| - size := by
    exact_mod_cast closer
  rw [← Int.ceil_add_one, distance, sub_div, div_self sizePositive.ne']
  simp

/-- One full step in front of a plan. -/
theorem isPlan_cons {current next target size : Int} {steps : List Int}
    (positive : 0 < size) (nonempty : steps ≠ [])
    (move : (current < target ∧ next = current + size ∧ next < target) ∨
      (target < current ∧ next = current - size ∧ target < next))
    (plan : IsPlan next target size steps) :
    IsPlan current target size (next :: steps) := by
  have moved : |next - current| = size := by
    rcases move with ⟨-, equal, -⟩ | ⟨-, equal, -⟩
    · rw [equal, add_sub_cancel_left, abs_of_pos positive]
    · rw [equal, sub_sub_cancel_left, abs_neg, abs_of_pos positive]
  have closer : |target - next| = |target - current| - size := by
    rcases move with ⟨side, equal, before⟩ | ⟨side, equal, before⟩
    · rw [abs_of_pos (by omega), abs_of_pos (by omega)]
      omega
    · rw [abs_of_neg (by omega), abs_of_neg (by omega)]
      omega
  refine ⟨List.isChain_cons_cons.mpr ⟨?_, ?_⟩,
    List.isChain_cons_cons.mpr ⟨moved.le, plan.bounded⟩, ?_, ?_, ?_⟩
  · rcases move with ⟨side, equal, before⟩ | ⟨side, equal, before⟩
    · exact ⟨fun _ => by omega, fun _ => by omega⟩
    · exact ⟨fun _ => by omega, fun _ => by omega⟩
  · refine plan.towards.imp fun previous following moves => ?_
    rcases move with ⟨side, -, before⟩ | ⟨side, -, before⟩
    · exact ⟨fun _ => moves.1 before, fun other => by omega⟩
    · exact ⟨fun other => by omega, fun _ => moves.2 before⟩
  · have full := plan.full
    rw [List.dropLast_cons_of_ne_nil nonempty] at full
    rw [List.dropLast_cons_of_ne_nil (List.cons_ne_nil _ _),
      List.dropLast_cons_of_ne_nil nonempty]
    exact List.isChain_cons_cons.mpr ⟨moved, full⟩
  · rw [List.getLast?_cons, plan.ends]
    rfl
  · rw [List.length_cons, Nat.cast_succ, plan.length, length_of_far positive closer]

theorem isPlan {target size current : Int} {steps : List Int} (positive : 0 < size)
    (chain : StepChain target size current steps) :
    IsPlan current target size steps := by
  induction chain with
  | @last current different near =>
      refine ⟨List.isChain_cons_cons.mpr ⟨⟨id, id⟩, .singleton _⟩,
        List.isChain_cons_cons.mpr ⟨near, .singleton _⟩, .singleton _, rfl, ?_⟩
      rw [length_of_near different positive near]
      rfl
  | @step current rest far later induction =>
      apply isPlan_cons positive later.ne_nil ?_ induction
      rcases next_cases positive far with ⟨side, next, before⟩ | ⟨side, next, before⟩
      · exact .inl ⟨side, next, by omega⟩
      · exact .inr ⟨side, next, by omega⟩

end StepChain

private theorem fullSteps_succ (current delta : Int) (count : Nat) :
    fullSteps current delta (count + 1) =
      (current + delta) :: fullSteps (current + delta) delta count := by
  rw [fullSteps, List.range_succ_eq_map, List.map_cons, List.map_map, fullSteps]
  congr 1
  · simp
  · apply List.map_congr_left
    intro i _
    simp only [Function.comp_apply, Nat.cast_succ]
    ring

/-- The way to the target as full steps of `delta` and a shorter rest. -/
structure Division (current target size delta rest : Int) (count : Nat) : Prop where
  side : (delta = size ∧ 0 ≤ rest ∧ rest < size) ∨
    (delta = -size ∧ rest ≤ 0 ∧ -size < rest)
  reaches : target = current + count * delta + rest
  moves : 0 < count ∨ rest ≠ 0

namespace Division

variable {current target size delta rest : Int} {count : Nat}

theorem distance (positive : 0 < size)
    (division : Division current target size delta rest (count + 1)) :
    |target - current| = count * size + size + |rest| := by
  have advance : 0 ≤ (count : Int) * size := by positivity
  rcases division.side with ⟨up, lower, -⟩ | ⟨down, upper, -⟩
  · rw [abs_of_nonneg lower, division.reaches, up]
    push_cast
    rw [abs_of_nonneg (by linarith)]
    ring
  · rw [abs_of_nonpos upper, division.reaches, down]
    push_cast
    rw [abs_of_nonpos (by linarith)]
    ring

theorem sign_mul (positive : 0 < size)
    (division : Division current target size delta rest (count + 1)) :
    (target - current).sign * size = delta := by
  have advance : 0 ≤ (count : Int) * size := by positivity
  have reaches := division.reaches
  push_cast at reaches
  rcases division.side with ⟨up, lower, -⟩ | ⟨down, upper, -⟩
  · rw [up] at reaches ⊢
    rw [Int.sign_eq_one_of_pos (by linarith), one_mul]
  · rw [down] at reaches ⊢
    rw [Int.sign_eq_neg_one_of_neg (by linarith), neg_one_mul]

theorem far (positive : 0 < size)
    (division : Division current target size delta rest (count + 1))
    (unfinished : 0 < count ∨ rest ≠ 0) : size < |target - current| := by
  have advance : 0 ≤ (count : Int) * size := by positivity
  have remains := abs_nonneg rest
  rw [division.distance positive]
  rcases unfinished with nonzero | apart
  · have : size ≤ (count : Int) * size :=
      le_mul_of_one_le_left positive.le (by exact_mod_cast nonzero)
    linarith
  · have := abs_pos.mpr apart
    linarith

theorem later (division : Division current target size delta rest (count + 1))
    (unfinished : 0 < count ∨ rest ≠ 0) :
    Division (current + delta) target size delta rest count := by
  refine ⟨division.side, ?_, unfinished⟩
  rw [division.reaches]
  push_cast
  ring

end Division

theorem stepChain_stepPlan {current target size delta rest : Int} {count : Nat}
    (positive : 0 < size) (division : Division current target size delta rest count) :
    StepChain target size current (stepPlan current target delta rest count) := by
  induction count generalizing current with
  | zero =>
      have apart : rest ≠ 0 := division.moves.resolve_left (lt_irrefl 0)
      have reaches := division.reaches
      have side := division.side
      push_cast at reaches
      rw [stepPlan, if_neg apart]
      refine .last (by omega) ?_
      rw [abs_le]
      omega
  | succ count induction =>
      have unfolded : stepPlan current target delta rest (count + 1) =
          (current + delta) :: stepPlan (current + delta) target delta rest count := by
        rw [stepPlan, fullSteps_succ, List.cons_append, stepPlan]
      by_cases unfinished : 0 < count ∨ rest ≠ 0
      · rw [unfolded, ← division.sign_mul positive]
        apply StepChain.step (division.far positive unfinished)
        rw [division.sign_mul positive]
        exact induction (division.later unfinished)
      · -- The last full step arrives.
        obtain ⟨rfl, rfl⟩ : count = 0 ∧ rest = 0 := by
          push Not at unfinished
          exact ⟨by omega, unfinished.2⟩
        have arrives : current + delta = target := by
          rw [division.reaches]
          push_cast
          ring
        have distance := division.distance positive
        have side := division.side
        rw [unfolded, stepPlan, if_pos rfl, List.append_nil, arrives]
        refine .last ?_ (by rw [distance, abs_zero]; simp)
        rcases side with ⟨up, -⟩ | ⟨down, -⟩ <;> omega

/-! Both planners start from a `range` that holds exactly the full steps. -/

private theorem pyRange_up {current target size : Int} (positive : 0 < size) :
    Eks.pyRange (current + size) (target + 1) size =
      fullSteps current size ((target - current) / size).toNat := by
  rw [Eks.pyRange, if_pos positive, fullSteps]
  congr 3
  congr 1
  ring

private theorem pyRange_down {current target size : Int} (positive : 0 < size) :
    Eks.pyRange (current - size) (target - 1) (-size) =
      fullSteps current (-size) ((current - target) / size).toNat := by
  rw [Eks.pyRange, if_neg (by omega), fullSteps, neg_neg]
  have same : current - size - (target - 1) - -size - 1 = current - target := by ring
  rw [same]
  apply List.map_congr_left
  intro i _
  ring

/-- The `range` of a planner, in the direction of the target. -/
def plannedRange (current target size : Int) : List Int :=
  if current < target then Eks.pyRange (current + size) (target + 1) size
  else Eks.pyRange (current - size) (target - 1) (-size)

theorem exists_division {current target size : Int} (positive : 0 < size)
    (different : current ≠ target) :
    ∃ delta rest count, plannedRange current target size = fullSteps current delta count ∧
      Division current target size delta rest count := by
  have quotient : ∀ distance : Int, 0 < distance →
      (((distance / size).toNat : Nat) : Int) * size + distance % size = distance ∧
        0 ≤ distance % size ∧ distance % size < size ∧
          (0 < (distance / size).toNat ∨ distance % size ≠ 0) := by
    intro distance farther
    have nonneg : 0 ≤ distance / size := Int.ediv_nonneg farther.le positive.le
    have whole : distance / size * size + distance % size = distance := Int.ediv_mul_add_emod ..
    rw [Int.toNat_of_nonneg nonneg]
    refine ⟨whole, Int.emod_nonneg _ positive.ne', Int.emod_lt_of_pos _ positive, ?_⟩
    by_contra still
    push Not at still
    have none : distance / size = 0 := by omega
    rw [none, still.2] at whole
    omega
  by_cases up : current < target
  · obtain ⟨whole, lower, upper, moves⟩ := quotient (target - current) (by omega)
    refine ⟨size, (target - current) % size, _, ?_, .inl ⟨rfl, lower, upper⟩, ?_, moves⟩
    · rw [plannedRange, if_pos up, pyRange_up positive]
    · omega
  · obtain ⟨whole, lower, upper, moves⟩ := quotient (current - target) (by omega)
    refine ⟨-size, -((current - target) % size), ((current - target) / size).toNat, ?_,
      .inr ⟨rfl, by omega, by omega⟩, ?_, ?_⟩
    · rw [plannedRange, if_neg up, pyRange_down positive]
    · rw [mul_neg]
      omega
    · omega

namespace Division

variable {current target size delta rest : Int} {count : Nat}

theorem getLast? (steps : 0 < count) :
    (fullSteps current delta count).getLast? = some (current + count * delta) := by
  obtain ⟨count, rfl⟩ := Nat.exists_eq_succ_of_ne_zero steps.ne'
  rw [fullSteps, List.range_succ, List.map_append, List.map_singleton,
    List.getLast?_concat]
  congr 1
  push_cast
  ring

/-- No full step goes past the end of the full steps. -/
theorem within (division : Division current target size delta rest count)
    (positive : 0 < size) {step : Int} (member : step ∈ fullSteps current delta count) :
    (delta = size → current < step ∧ step ≤ target - rest) ∧
      (delta = -size → step < current ∧ target - rest ≤ step) := by
  obtain ⟨i, inRange, rfl⟩ := List.mem_map.mp member
  have below : (i : Int) * size + size ≤ count * size := by
    have next : (i : Int) + 1 ≤ count := by exact_mod_cast List.mem_range.mp inRange
    calc (i : Int) * size + size = (i + 1) * size := by ring
      _ ≤ count * size := Int.mul_le_mul_of_nonneg_right next positive.le
  have started : 0 ≤ (i : Int) * size := by positivity
  have reaches := division.reaches
  constructor
  · intro up
    rw [up] at reaches ⊢
    exact ⟨by linarith, by linarith⟩
  · intro down
    rw [down, mul_neg] at reaches
    rw [down, mul_neg]
    exact ⟨by linarith, by linarith⟩

theorem clamp (division : Division current target size delta rest count)
    (positive : 0 < size) {step : Int} (member : step ∈ fullSteps current delta count) :
    (current < target → step ≤ target) ∧ (¬ current < target → target ≤ step) := by
  obtain ⟨upwards, downwards⟩ := division.within positive member
  rcases division.side with ⟨up, lower, -⟩ | ⟨down, upper, -⟩
  · have := upwards up
    exact ⟨fun _ => by omega, fun _ => by omega⟩
  · have := downwards down
    exact ⟨fun _ => by omega, fun _ => by omega⟩

theorem target_not_mem (division : Division current target size delta rest count)
    (positive : 0 < size) (apart : rest ≠ 0) :
    target ∉ fullSteps current delta count := by
  intro member
  obtain ⟨upwards, downwards⟩ := division.within positive member
  rcases division.side with ⟨up, lower, -⟩ | ⟨down, upper, -⟩
  · have := upwards up
    omega
  · have := downwards down
    omega

theorem reaches_iff (division : Division current target size delta rest count) :
    current + count * delta = target ↔ rest = 0 := by
  have reaches := division.reaches
  constructor <;> intro equal <;> linarith

private theorem count_pos (division : Division current target size delta rest count)
    (far : size < |target - current|) : 0 < count := by
  rw [lt_abs] at far
  have reaches := division.reaches
  have side := division.side
  rcases Nat.eq_zero_or_pos count with zero | positive
  · rw [zero, Nat.cast_zero, zero_mul, add_zero] at reaches
    omega
  · exact positive

end Division

/-- The EKS planner follows the chain, and never indexes an empty list of steps. -/
theorem progressiveSteps_chain {current target size : Int} (positive : 0 < size)
    (far : size < |target - current|) :
    ∃ steps, Eks.progressiveSteps current target size = .ok steps ∧
      StepChain target size current steps := by
  have different : current ≠ target := by
    intro same
    rw [same, sub_self, abs_zero] at far
    omega
  obtain ⟨delta, rest, count, range, division⟩ := exists_division positive different
  refine ⟨_, ?_, stepChain_stepPlan positive division⟩
  have clamped : (if current < target then
        (Eks.pyRange (current + size) (target + 1) size).map fun step => min step target
      else
        (Eks.pyRange (current - size) (target - 1) (-size)).map fun step =>
          max step target) = fullSteps current delta count := by
    rw [plannedRange] at range
    split at range
    · rename_i up
      rw [if_pos up, range]
      refine (List.map_congr_left fun step member => ?_).trans (List.map_id _)
      exact min_eq_left ((division.clamp positive member).1 up)
    · rename_i down
      rw [if_neg down, range]
      refine (List.map_congr_left fun step member => ?_).trans (List.map_id _)
      exact max_eq_left ((division.clamp positive member).2 down)
  have steps : 0 < count := division.count_pos far
  rw [Eks.progressiveSteps, if_neg positive.ne']
  simp only [clamped, Division.getLast? steps]
  rw [stepPlan]
  by_cases exact : rest = 0
  · rw [if_pos exact, if_neg (not_not.mpr (division.reaches_iff.mpr exact)),
      List.append_nil]
  · rw [if_neg exact, if_pos (fun reached => exact (division.reaches_iff.mp reached))]

end Telescope.Scaling
