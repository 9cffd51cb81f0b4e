import Mathlib.Data.Rat.Floor
import Mathlib.Algebra.Order.Archimedean.Basic
import Mathlib.Tactic.Linarith

namespace Telescope

/-! Polling until a check passes or the polls are no longer due. -/

/-- How a polling loop ended, and how many checks it made. -/
structure PollExit where
  passed : Bool
  polls : Nat

/-- `while due: if check: return True` followed by `return False`, from poll `index` on;
`none` when the fuel runs out. -/
def pollUntil (due check : Nat → Bool) : Nat → Nat → Option PollExit
  | 0, _ => none
  | fuel + 1, index =>
      if due index then
        if check index then some ⟨true, index + 1⟩
        else pollUntil due check fuel (index + 1)
      else some ⟨false, index⟩

section Polling

variable {due check : Nat → Bool}

/-- The poll at which a loop ends: the first that is not due or passes the check. -/
structure EndsAt (due check : Nat → Bool) (last : Nat) (exit : PollExit) : Prop where
  before : ∀ index < last, due index = true ∧ check index = false
  ending : (due last = true ∧ check last = true ∧ exit = ⟨true, last + 1⟩) ∨
    (due last = false ∧ exit = ⟨false, last⟩)

theorem exists_endsAt_of_pollUntil {fuel index : Nat} {exit : PollExit}
    (before : ∀ earlier < index, due earlier = true ∧ check earlier = false)
    (returned : pollUntil due check fuel index = some exit) :
    ∃ last, EndsAt due check last exit := by
  induction fuel generalizing index with
  | zero => exact nomatch returned
  | succ fuel induction =>
      rw [pollUntil] at returned
      by_cases isDue : due index = true
      · rw [if_pos isDue] at returned
        by_cases passes : check index = true
        · rw [if_pos passes] at returned
          exact ⟨index, before, .inl ⟨isDue, passes, (Option.some.inj returned).symm⟩⟩
        · rw [if_neg passes] at returned
          have failed : check index = false := Bool.eq_false_iff.mpr passes
          exact induction (Nat.forall_lt_succ_right.mpr ⟨before, isDue, failed⟩) returned
      · rw [if_neg isDue] at returned
        exact ⟨index, before,
          .inr ⟨Bool.eq_false_iff.mpr isDue, (Option.some.inj returned).symm⟩⟩

/-- A loop that has not passed ends once the fuel reaches a poll that is not due. -/
theorem exists_endsAt {fuel index : Nat}
    (before : ∀ earlier < index, due earlier = true ∧ check earlier = false)
    (late : ∃ later < index + fuel, due later = false) :
    ∃ last exit, pollUntil due check fuel index = some exit ∧ EndsAt due check last exit := by
  induction fuel generalizing index with
  | zero =>
      obtain ⟨later, below, ended⟩ := late
      rw [(before later below).1] at ended
      cases ended
  | succ fuel induction =>
      rw [pollUntil]
      by_cases isDue : due index = true
      · rw [if_pos isDue]
        by_cases passes : check index = true
        · rw [if_pos passes]
          exact ⟨index, ⟨true, index + 1⟩, rfl, before, .inl ⟨isDue, passes, rfl⟩⟩
        · rw [if_neg passes]
          obtain ⟨later, below, ended⟩ := late
          have failed : check index = false := Bool.eq_false_iff.mpr passes
          exact induction (Nat.forall_lt_succ_right.mpr ⟨before, isDue, failed⟩)
            ⟨later, by omega, ended⟩
      · rw [if_neg isDue]
        exact ⟨index, ⟨false, index⟩, rfl, before, .inr ⟨Bool.eq_false_iff.mpr isDue, rfl⟩⟩

/-- A loop returns once some poll is no longer due. -/
theorem exists_pollUntil {index : Nat} (late : ∃ later, index ≤ later ∧ due later = false) :
    ∃ fuel exit, pollUntil due check fuel index = some exit := by
  obtain ⟨later, reaches, ended⟩ := late
  obtain ⟨distance, rfl⟩ := Nat.exists_eq_add_of_le reaches
  clear reaches
  induction distance generalizing index with
  | zero => exact ⟨1, ⟨false, index⟩, by simpa [pollUntil] using ended⟩
  | succ distance induction =>
      by_cases isDue : due index = true
      · by_cases passes : check index = true
        · exact ⟨1, ⟨true, index + 1⟩, by simp [pollUntil, isDue, passes]⟩
        · have later : due (index + 1 + distance) = false := by
            rw [show index + 1 + distance = index + (distance + 1) by omega]
            exact ended
          obtain ⟨fuel, exit, returned⟩ := induction later
          exact ⟨fuel + 1, exit, by simpa [pollUntil, isDue, passes] using returned⟩
      · exact ⟨1, ⟨false, index⟩, by simp [pollUntil, isDue]⟩

theorem exists_first (holds : Nat → Prop) {index : Nat} (here : holds index) :
    ∃ first ≤ index, holds first ∧ ∀ earlier < first, ¬ holds earlier := by
  classical
  have found : ∃ index, holds index := ⟨index, here⟩
  exact ⟨Nat.find found, Nat.find_le here, Nat.find_spec found,
    fun earlier below => Nat.find_min found below⟩

/-- The first poll that is vacuous or genuine is a genuine one, and the check passes then
or later while polls are due. -/
def FirstNotablePasses (due check : Nat → Bool) (vacuous genuine : Nat → Prop) : Prop :=
  ∀ index, due index = true → vacuous index ∨ genuine index →
    (∀ earlier < index, ¬ (vacuous earlier ∨ genuine earlier)) →
    ¬ vacuous index ∧ ∃ later, index ≤ later ∧ due later = true ∧ check later = true

section Reports

variable {last : Nat} {vacuous genuine : Nat → Prop}
  (dueBefore : ∀ earlier later, earlier ≤ later → due later = true → due earlier = true)

theorem not_vacuous_before {exit : PollExit} (ends : EndsAt due check last exit)
    (passes : ∀ index, vacuous index → check index = true) :
    ∀ index < last, ¬ vacuous index := by
  intro index below empty
  have missed := (ends.before index below).2
  rw [passes index empty] at missed
  exact nomatch missed

include dueBefore

/-- The loop passed, so the first notable poll is one that it made. -/
theorem genuine_iff_of_passed (isDue : due last = true) (checked : check last = true)
    (noVacuous : ∀ index < last, ¬ vacuous index)
    (sound : ∀ index, check index = true → vacuous index ∨ genuine index)
    (apart : ∀ index, genuine index → ¬ vacuous index) :
    (∃ index ≤ last, genuine index) ↔ FirstNotablePasses due check vacuous genuine := by
  constructor
  · rintro ⟨hit, made, isGenuine⟩ index - notable isFirst
    have early : index ≤ hit := by
      by_contra above
      exact isFirst hit (not_le.mp above) (.inr isGenuine)
    refine ⟨?_, last, early.trans made, isDue, checked⟩
    rcases (early.trans made).lt_or_eq with below | rfl
    · exact noVacuous index below
    · exact apart index (le_antisymm made early ▸ isGenuine)
  · intro recognised
    obtain ⟨first, made, notable, isFirst⟩ :=
      exists_first (fun index => vacuous index ∨ genuine index) (sound last checked)
    obtain ⟨notVacuous, -⟩ :=
      recognised first (dueBefore first last made isDue) notable isFirst
    exact ⟨first, made, notable.resolve_left notVacuous⟩

/-- The loop timed out: no poll that was due passed the check. -/
theorem not_genuine_iff_of_late {exit : PollExit} (ends : EndsAt due check last exit)
    (late : due last = false) (noVacuous : ∀ index < last, ¬ vacuous index) :
    (∀ index < last, ¬ genuine index) ↔ FirstNotablePasses due check vacuous genuine := by
  have dueLess : ∀ index, due index = true → index < last := by
    intro index isDue
    by_contra above
    rw [dueBefore last index (not_lt.mp above) isDue] at late
    exact nomatch late
  constructor
  · intro none index isDue notable
    have below := dueLess index isDue
    rcases notable with empty | isGenuine
    · exact absurd empty (noVacuous index below)
    · exact absurd isGenuine (none index below)
  · intro recognised index below isGenuine
    obtain ⟨first, before, notable, isFirst⟩ :=
      exists_first (fun index => vacuous index ∨ genuine index) (.inr isGenuine)
    have firstDue := (ends.before first (before.trans_lt below)).1
    obtain ⟨-, later, -, laterDue, checked⟩ := recognised first firstDue notable isFirst
    rw [(ends.before later (dueLess later laterDue)).2] at checked
    exact nomatch checked

/-- A check that also passes on vacuous polls, and may miss genuine ones, reports the
genuine polls exactly when the first notable poll is recognised. -/
theorem EndsAt.reports_iff {exit : PollExit} (ends : EndsAt due check last exit)
    (sound : ∀ index, check index = true → vacuous index ∨ genuine index)
    (passes : ∀ index, vacuous index → check index = true)
    (apart : ∀ index, genuine index → ¬ vacuous index) :
    (exit.passed = true ↔ ∃ index < exit.polls, genuine index) ↔
      FirstNotablePasses due check vacuous genuine := by
  have noVacuous := not_vacuous_before ends passes
  rcases ends.ending with ⟨isDue, checked, rfl⟩ | ⟨late, rfl⟩
  · have reported : (true = true ↔ ∃ index < last + 1, genuine index) ↔
        ∃ index ≤ last, genuine index := by
      simp only [Nat.lt_succ_iff, true_iff]
    rw [reported]
    exact genuine_iff_of_passed dueBefore isDue checked noVacuous sound apart
  · have reported : (false = true ↔ ∃ index < last, genuine index) ↔
        ∀ index < last, ¬ genuine index := by
      simp
    rw [reported]
    exact not_genuine_iff_of_late dueBefore ends late noVacuous

end Reports

end Polling

/-! Clocks that pause between readings. -/

structure PausedClock (pause : ℚ) where
  start : ℚ
  now : Nat → ℚ
  startBefore : start ≤ now 0
  pauses : ∀ index, now index + pause ≤ now (index + 1)

namespace PausedClock

variable {pause : ℚ} (clock : PausedClock pause)

theorem start_add_le (index : Nat) : clock.start + index * pause ≤ clock.now index := by
  induction index with
  | zero => simpa using clock.startBefore
  | succ index induction =>
      have next := clock.pauses index
      push_cast
      linarith

theorem now_monotone (positive : 0 < pause) : Monotone clock.now := by
  apply monotone_nat_of_le_succ
  intro index
  linarith [clock.pauses index]

theorem steady_startBefore (pause : ℚ) : (0 : ℚ) ≤ (0 : Nat) * pause := by simp

theorem steady_pauses (pause : ℚ) (index : Nat) :
    (index : ℚ) * pause + pause ≤ (index + 1 : Nat) * pause := by
  push_cast
  linarith

/-- The clock of a loop that spends its time in the pauses. -/
def steady (pause : ℚ) : PausedClock pause where
  start := 0
  now index := index * pause
  startBefore := steady_startBefore pause
  pauses := steady_pauses pause

/-- Every deadline passes. -/
theorem exists_le_now (positive : 0 < pause) (deadline : ℚ) :
    ∃ index, deadline ≤ clock.now index := by
  obtain ⟨index, large⟩ := Archimedean.arch (deadline - clock.start) positive
  refine ⟨index, ?_⟩
  have reached := clock.start_add_le index
  rw [nsmul_eq_mul] at large
  linarith

end PausedClock

end Telescope
