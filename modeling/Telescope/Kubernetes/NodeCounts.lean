import Telescope.Data.Decision
import Telescope.Kubernetes.ReadyNodes

namespace Telescope.Kubernetes

open Telescope

/-! Three loops that wait for a number of ready nodes: `validate_node_count` (csi),
`validate_clusterloader2` (large cluster) and `wait_for_nodes_ready`. -/

section Loops

variable (clock : PausedClock 10) (operationTimeoutInMinutes : ℚ)
  (listing : Nat → Except Error (List ListedNode)) (nodeCount : Nat)

def checkNodeCount (readyNodeCount : Nat) : Except Error Unit :=
  if readyNodeCount = nodeCount then .ok ()
  else .error ⟨.external, lit "Only " ++ natText readyNodeCount ++
    lit " nodes are ready, expected " ++ natText nodeCount ++ lit " nodes!"⟩

/-- The loop of both validations; a tolerant one goes on when a listing raises. -/
def validateCount (tolerant : Bool) : Nat → Nat → Nat → Option (Except Error Unit)
  | 0, _, _ => none
  | fuel + 1, index, readyNodeCount =>
      if clock.now index < clock.start + operationTimeoutInMinutes * 60 then
        match getReadyNodes (listing index) with
        | .error error =>
            if tolerant then validateCount tolerant fuel (index + 1) readyNodeCount
            else some (.error error)
        | .ok readyNodes =>
            if readyNodes.length = nodeCount then
              some (checkNodeCount nodeCount readyNodes.length)
            else validateCount tolerant fuel (index + 1) readyNodes.length
      else some (checkNodeCount nodeCount readyNodeCount)

def validateNodeCount (fuel : Nat) : Option (Except Error Unit) :=
  validateCount clock operationTimeoutInMinutes listing nodeCount false fuel 0 0

def validateClusterloader2 (fuel : Nat) : Option (Except Error Unit) :=
  validateCount clock operationTimeoutInMinutes listing nodeCount true fuel 0 0

/-- A round that starts in time. -/
def RoundDue (index : Nat) : Prop :=
  clock.now index < clock.start + operationTimeoutInMinutes * 60

/-- A round in time that counts as many ready nodes as expected. -/
def RoundPasses (index : Nat) : Prop :=
  RoundDue clock operationTimeoutInMinutes index ∧
    ∃ readyNodes, getReadyNodes (listing index) = .ok readyNodes ∧ readyNodes.length = nodeCount

def RoundRaises (index : Nat) : Prop := ∃ error, getReadyNodes (listing index) = .error error

end Loops

section Spec

variable {clock : PausedClock 10} {operationTimeoutInMinutes : ℚ}
  {listing : Nat → Except Error (List ListedNode)} {nodeCount : Nat} {tolerant : Bool}

theorem RoundDue.of_le {earlier later : Nat} (ordered : earlier ≤ later)
    (due : RoundDue clock operationTimeoutInMinutes later) :
    RoundDue clock operationTimeoutInMinutes earlier :=
  (clock.now_monotone (by norm_num) ordered).trans_lt due

variable (clock operationTimeoutInMinutes listing nodeCount tolerant) in
/-- From round `index` on a round passes, before which none ends the loop. -/
def PassesFrom (index : Nat) : Prop :=
  ∃ last, index ≤ last ∧ RoundPasses clock operationTimeoutInMinutes listing nodeCount last ∧
    ∀ earlier, index ≤ earlier → earlier < last → tolerant = true ∨ ¬ RoundRaises listing earlier

variable (clock operationTimeoutInMinutes listing nodeCount tolerant) in
/-- From round `index` on a round passes, or the last count was right and none is made. -/
def ValidFrom (index readyNodeCount : Nat) : Prop :=
  PassesFrom clock operationTimeoutInMinutes listing nodeCount tolerant index ∨
    (readyNodeCount = nodeCount ∧ ∀ later, index ≤ later →
      RoundDue clock operationTimeoutInMinutes later →
        tolerant = true ∧ RoundRaises listing later)

variable {index readyNodeCount : Nat}

theorem RoundRaises.not_passes (raises : RoundRaises listing index) :
    ¬ RoundPasses clock operationTimeoutInMinutes listing nodeCount index := by
  rintro ⟨-, readyNodes, read, -⟩
  obtain ⟨error, raised⟩ := raises
  rw [read] at raised
  cases raised

theorem passesFrom_of_passes
    (passes : RoundPasses clock operationTimeoutInMinutes listing nodeCount index) :
    PassesFrom clock operationTimeoutInMinutes listing nodeCount tolerant index :=
  ⟨index, Nat.le_refl index, passes, fun earlier ordered below => by omega⟩

theorem not_passesFrom_of_late (late : ¬ RoundDue clock operationTimeoutInMinutes index) :
    ¬ PassesFrom clock operationTimeoutInMinutes listing nodeCount tolerant index := by
  rintro ⟨last, later, ⟨due, -⟩, -⟩
  exact late (due.of_le later)

theorem not_passesFrom_of_raised (raises : RoundRaises listing index) :
    ¬ PassesFrom clock operationTimeoutInMinutes listing nodeCount false index := by
  rintro ⟨last, later, passes, before⟩
  rcases Nat.eq_or_lt_of_le later with rfl | after
  · exact raises.not_passes passes
  · rcases before index (Nat.le_refl index) after with tolerates | reads
    · cases tolerates
    · exact reads raises

/-- A round that does not end the loop leaves it to the later ones. -/
theorem passesFrom_succ
    (fails : ¬ RoundPasses clock operationTimeoutInMinutes listing nodeCount index)
    (goesOn : tolerant = true ∨ ¬ RoundRaises listing index) :
    PassesFrom clock operationTimeoutInMinutes listing nodeCount tolerant index ↔
      PassesFrom clock operationTimeoutInMinutes listing nodeCount tolerant (index + 1) := by
  constructor
  · rintro ⟨last, later, passes, before⟩
    have after : last ≠ index := by
      rintro rfl
      exact fails passes
    exact ⟨last, by omega, passes, fun earlier ordered => before earlier (by omega)⟩
  · rintro ⟨last, later, passes, before⟩
    refine ⟨last, by omega, passes, fun earlier ordered below => ?_⟩
    rcases Nat.eq_or_lt_of_le ordered with rfl | after
    · exact goesOn
    · exact before earlier after below

private theorem validFrom_of_late (late : ¬ RoundDue clock operationTimeoutInMinutes index) :
    ValidFrom clock operationTimeoutInMinutes listing nodeCount tolerant index readyNodeCount ↔
      readyNodeCount = nodeCount := by
  unfold ValidFrom
  rw [or_iff_right (not_passesFrom_of_late late), and_iff_left]
  exact fun later ordered due => absurd (due.of_le ordered) late

private theorem validFrom_of_raised (raises : RoundRaises listing index) :
    ValidFrom clock operationTimeoutInMinutes listing nodeCount true index readyNodeCount ↔
      ValidFrom clock operationTimeoutInMinutes listing nodeCount true (index + 1)
        readyNodeCount := by
  unfold ValidFrom
  rw [passesFrom_succ raises.not_passes (.inl rfl)]
  refine or_congr_right (and_congr_right fun _ => ⟨?_, ?_⟩)
  · exact fun raise later ordered => raise later (by omega)
  · intro raise later ordered due
    rcases Nat.eq_or_lt_of_le ordered with rfl | after
    · exact ⟨rfl, raises⟩
    · exact raise later after due

private theorem not_validFrom_of_raised (due : RoundDue clock operationTimeoutInMinutes index)
    (raises : RoundRaises listing index) :
    ¬ ValidFrom clock operationTimeoutInMinutes listing nodeCount false index
      readyNodeCount := by
  rintro (passes | ⟨-, raise⟩)
  · exact not_passesFrom_of_raised raises passes
  · cases (raise index (Nat.le_refl index) due).1

section Counted

variable {readyNodes : List ListedNode} (due : RoundDue clock operationTimeoutInMinutes index)
  (read : getReadyNodes (listing index) = .ok readyNodes)
  (different : readyNodes.length ≠ nodeCount)

include read in
theorem not_raises_of_read : ¬ RoundRaises listing index := by
  rintro ⟨error, raised⟩
  rw [read] at raised
  cases raised

include read different in
theorem passesFrom_of_counted :
    PassesFrom clock operationTimeoutInMinutes listing nodeCount tolerant index ↔
      PassesFrom clock operationTimeoutInMinutes listing nodeCount tolerant (index + 1) := by
  refine passesFrom_succ ?_ (.inr (not_raises_of_read read))
  rintro ⟨-, others, again, same⟩
  rw [read] at again
  exact different (Except.ok.inj again ▸ same)

include due read different in
private theorem validFrom_of_counted :
    ValidFrom clock operationTimeoutInMinutes listing nodeCount tolerant index readyNodeCount ↔
      ValidFrom clock operationTimeoutInMinutes listing nodeCount tolerant (index + 1)
        readyNodes.length := by
  unfold ValidFrom
  rw [passesFrom_of_counted read different]
  refine or_congr_right (iff_of_false ?_ ?_)
  · rintro ⟨-, raise⟩
    exact not_raises_of_read read (raise index (Nat.le_refl index) due).2
  · rintro ⟨same, -⟩
    exact different same

end Counted

theorem checkNodeCount_eq_ok_iff :
    checkNodeCount nodeCount readyNodeCount = .ok () ↔ readyNodeCount = nodeCount := by
  unfold checkNodeCount
  split
  · rename_i same
    exact iff_of_true rfl same
  · rename_i different
    exact iff_of_false (fun checked => nomatch checked) different

theorem late_succ {fuel : Nat} (due : RoundDue clock operationTimeoutInMinutes index)
    (late : ∃ later, index ≤ later ∧ later < index + (fuel + 1) ∧
      ¬ RoundDue clock operationTimeoutInMinutes later) :
    ∃ later, index + 1 ≤ later ∧ later < index + 1 + fuel ∧
      ¬ RoundDue clock operationTimeoutInMinutes later := by
  obtain ⟨later, ordered, below, ended⟩ := late
  have different : later ≠ index := by
    rintro rfl
    exact ended due
  exact ⟨later, by omega, by omega, ended⟩

/-- The loop ends once the fuel reaches a round that is late, with what it needs. -/
theorem exists_validateCount {fuel : Nat}
    (late : ∃ later, index ≤ later ∧ later < index + fuel ∧
      ¬ RoundDue clock operationTimeoutInMinutes later) :
    ∃ outcome, validateCount clock operationTimeoutInMinutes listing nodeCount tolerant fuel index
        readyNodeCount = some outcome ∧
      (outcome = .ok () ↔ ValidFrom clock operationTimeoutInMinutes listing nodeCount tolerant
        index readyNodeCount) := by
  induction fuel generalizing index readyNodeCount with
  | zero =>
      obtain ⟨later, ordered, below, -⟩ := late
      omega
  | succ fuel induction =>
      rw [validateCount]
      by_cases due : RoundDue clock operationTimeoutInMinutes index
      · have next := late_succ due late
        rw [if_pos (show clock.now index < _ from due)]
        cases read : getReadyNodes (listing index) with
        | error error =>
            have raises : RoundRaises listing index := ⟨error, read⟩
            cases tolerant with
            | true =>
                obtain ⟨outcome, ended, spec⟩ := induction next
                exact ⟨outcome, ended, spec.trans (validFrom_of_raised raises).symm⟩
            | false =>
                refine ⟨.error error, rfl, iff_of_false (fun same => nomatch same) ?_⟩
                exact not_validFrom_of_raised due raises
        | ok readyNodes =>
            dsimp only
            split
            · rename_i same
              refine ⟨_, rfl, iff_of_true (checkNodeCount_eq_ok_iff.mpr same) (.inl ?_)⟩
              exact passesFrom_of_passes ⟨due, readyNodes, read, same⟩
            · rename_i different
              obtain ⟨outcome, ended, spec⟩ := induction next
              exact ⟨outcome, ended, spec.trans (validFrom_of_counted due read different).symm⟩
      · rw [if_neg (show ¬ clock.now index < _ from due)]
        exact ⟨_, rfl, checkNodeCount_eq_ok_iff.trans (validFrom_of_late due).symm⟩

private theorem exists_waitForReadyCount {fuel : Nat}
    (late : ∃ later, index ≤ later ∧ later < index + fuel ∧
      ¬ RoundDue clock operationTimeoutInMinutes later) :
    ∃ outcome, waitForReadyCount getReadyNodes clock operationTimeoutInMinutes listing nodeCount
        fuel index readyNodeCount = some outcome ∧
      ((∃ readyNodes, outcome = .ok readyNodes) ↔
        PassesFrom clock operationTimeoutInMinutes listing nodeCount false index) := by
  induction fuel generalizing index readyNodeCount with
  | zero =>
      obtain ⟨later, ordered, below, -⟩ := late
      omega
  | succ fuel induction =>
      rw [waitForReadyCount]
      by_cases due : RoundDue clock operationTimeoutInMinutes index
      · have next := late_succ due late
        rw [if_pos (show clock.now index < _ from due)]
        cases read : getReadyNodes (listing index) with
        | error error =>
            refine ⟨.error error, rfl, iff_of_false ?_ (not_passesFrom_of_raised ⟨error, read⟩)⟩
            rintro ⟨readyNodes, same⟩
            cases same
        | ok readyNodes =>
            dsimp only
            split
            · rename_i same
              exact ⟨_, rfl, iff_of_true ⟨readyNodes, rfl⟩
                (passesFrom_of_passes ⟨due, readyNodes, read, same⟩)⟩
            · rename_i different
              obtain ⟨outcome, ended, spec⟩ := induction next
              exact ⟨outcome, ended, spec.trans (passesFrom_of_counted read different).symm⟩
      · rw [if_neg (show ¬ clock.now index < _ from due)]
        refine ⟨_, rfl, iff_of_false ?_ (not_passesFrom_of_late due)⟩
        rintro ⟨readyNodes, same⟩
        cases same

end Spec

/-- All three waits end within their time's number of rounds.  The wait returns, and the strict
validation accepts, exactly if a round in time counts the expected nodes and none before it
raises; the tolerant one goes on after the rounds that raise.  When no nodes are expected, the
validations also accept if they have counted none because no round was made or, for the
tolerant one, none could be read. -/
theorem node_count_waits (clock : PausedClock 10) (operationTimeoutInMinutes : ℚ)
    (listing : Nat → Except Error (List ListedNode)) (nodeCount : Nat) :
    let rounds := ⌈operationTimeoutInMinutes * 60 / 10⌉₊ + 1
    let passes := RoundPasses clock operationTimeoutInMinutes listing nodeCount
    let due := RoundDue clock operationTimeoutInMinutes
    ∃ waited strict tolerant,
      waitForNodesReady clock operationTimeoutInMinutes listing nodeCount rounds = some waited ∧
      validateNodeCount clock operationTimeoutInMinutes listing nodeCount rounds = some strict ∧
      validateClusterloader2 clock operationTimeoutInMinutes listing nodeCount rounds =
        some tolerant ∧
      ((∃ readyNodes, waited = .ok readyNodes) ↔
        ∃ last, passes last ∧ ∀ earlier < last, ¬ RoundRaises listing earlier) ∧
      (strict = .ok () ↔
        (∃ last, passes last ∧ ∀ earlier < last, ¬ RoundRaises listing earlier) ∨
          (nodeCount = 0 ∧ ¬ due 0)) ∧
      (tolerant = .ok () ↔
        (∃ last, passes last) ∨
          (nodeCount = 0 ∧ ∀ later, due later → RoundRaises listing later)) := by
  intro rounds passes due
  have late : ∃ later, 0 ≤ later ∧ later < 0 + rounds ∧ ¬ due later := by
    refine ⟨⌈operationTimeoutInMinutes * 60 / 10⌉₊, Nat.zero_le _, by omega, ?_⟩
    have ended := clock.not_due_ceil (by norm_num) (operationTimeoutInMinutes * 60)
    rw [PausedClock.due, decide_eq_false_iff_not] at ended
    exact ended
  obtain ⟨waited, waits, waitSpec⟩ := exists_waitForReadyCount late
  obtain ⟨strict, checks, strictSpec⟩ := exists_validateCount late
  obtain ⟨tolerant, tolerates, tolerantSpec⟩ := exists_validateCount late
  refine ⟨waited, strict, tolerant, waits, checks, tolerates, ?_, ?_, ?_⟩
  · rw [waitSpec]
    simp [PassesFrom, passes]
  · rw [strictSpec]
    have noRound : (∀ later, due later → False) ↔ ¬ due 0 :=
      ⟨fun never => never 0, fun first later isDue => first (isDue.of_le (Nat.zero_le later))⟩
    simpa [ValidFrom, PassesFrom, passes, eq_comm] using or_congr_right
      (and_congr_right fun _ => noRound)
  · rw [tolerantSpec]
    simp [ValidFrom, PassesFrom, passes, due, eq_comm]

end Telescope.Kubernetes
