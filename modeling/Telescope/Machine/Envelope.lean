import Telescope.Machine.Readiness

namespace Telescope.Machine

/-! The percentile targets lie above the baseline and grow with the percentile. -/

private theorem WaitArgs.baseline_lt_target (args : WaitArgs) (p : Percentile) :
    (args.baselineCount : Int) < args.target p := by
  have clamp : (args.baselineCount + 1 : Int) ≤ args.target p := le_max_left _ _
  omega

theorem WaitArgs.target_mono (args : WaitArgs) (enough : 0 ≤ args.expectedCount)
    (p q : Percentile) (below : p.value ≤ q.value) :
    args.target p ≤ args.target q := by
  have total : (0 : ℚ) ≤ (args.targetTotal : ℚ) := by
    rw [Int.cast_nonneg_iff, WaitArgs.targetTotal]
    omega
  have fraction : (p.value : ℚ) / 100 ≤ (q.value : ℚ) / 100 := by
    have cast : (p.value : ℚ) ≤ (q.value : ℚ) := Nat.cast_le.mpr below
    linarith
  apply max_le_max (le_refl _)
  apply Int.ceil_le_ceil
  exact mul_le_mul_of_nonneg_right fraction total

theorem WaitArgs.target_p100 (args : WaitArgs) (enough : 1 ≤ args.expectedCount) :
    args.target .p100 = args.baselineCount + args.expectedCount := by
  have whole : ⌈((Percentile.p100.value : ℚ) / 100) * (args.targetTotal : ℚ)⌉ =
      args.targetTotal := by
    have one : ((Percentile.p100.value : ℚ) / 100) = 1 := by norm_num [Percentile.value]
    rw [one, one_mul, Int.ceil_intCast]
  rw [WaitArgs.target, whole, WaitArgs.targetTotal]
  omega

/-! Soundness of the envelope, on both exits. -/

def MarkedAt (exit : WaitExit) (p : Percentile) (elapsed : ℚ) : Prop :=
  (exit.envelope p).success = true ∧
    (exit.envelope p).elapsedTimeSeconds = some elapsed

structure SoundEnvelope (args : WaitArgs) (trace : PollTrace) (exit : WaitExit) :
    Prop where
  targetNodes : ∀ p, (exit.envelope p).targetNodes = args.target p
  polled : Polled args trace exit.observations
  firstHit : ∀ p, (exit.envelope p).success = true →
    ∃ first, exit.observations.find? (reaches args p) = some first ∧
      MarkedAt exit p first.elapsed
  nested : ∀ p q, p.value < q.value → (exit.envelope q).success = true →
    ∃ early late, MarkedAt exit p early ∧ MarkedAt exit q late ∧ early ≤ late

/-- The observations whose targets are recorded: all but one that ended the wait
by reporting terminal failures. -/
theorem ExitShape.recorded {args : WaitArgs} {trace : PollTrace} {exit : WaitExit}
    (shape : ExitShape args trace exit) :
    ∃ recorded lost, exit.observations = recorded ++ lost ∧
      Ordered recorded ∧ (∀ seen ∈ recorded, seen.failedMachines = []) ∧
      Polled args trace exit.observations ∧
      (∀ seen ∈ lost, seen.failedMachines ≠ []) ∧
      exit.envelope = buildReadinessEnvelope args.target (timesOf args recorded) := by
  cases shape with
  | returned recorded quiet ordered polled ended =>
      refine ⟨recorded, [], (List.append_nil recorded).symm, ordered, quiet, polled, ?_,
        rfl⟩
      simp
  | raised recorded last quiet ordered polled failed =>
      refine ⟨recorded, [last], rfl, (List.pairwise_append.mp ordered).1, quiet, polled,
        ?_, rfl⟩
      intro seen member
      rw [List.mem_singleton.mp member]
      exact failed

theorem buildReadinessEnvelope_success_iff (args : WaitArgs)
    (recorded : List Observation) (p : Percentile) :
    (buildReadinessEnvelope args.target (timesOf args recorded) p).success = true ↔
      ∃ first, recorded.find? (reaches args p) = some first := by
  simp only [buildReadinessEnvelope, timesOf, Option.isSome_map]
  exact Option.isSome_iff_exists

theorem ExitShape.sound {args : WaitArgs} {trace : PollTrace} {exit : WaitExit}
    (enough : 0 ≤ args.expectedCount) (shape : ExitShape args trace exit) :
    SoundEnvelope args trace exit := by
  obtain ⟨recorded, lost, observations, ordered, -, polled, -, envelope⟩ :=
    shape.recorded
  have marked : ∀ p first, recorded.find? (reaches args p) = some first →
      MarkedAt exit p first.elapsed := by
    intro p first found
    rw [MarkedAt, envelope, buildReadinessEnvelope_success_iff]
    exact ⟨⟨first, found⟩, by simp [buildReadinessEnvelope, timesOf, found]⟩
  constructor
  · intro p
    rw [envelope]
    rfl
  · exact polled
  · intro p success
    rw [envelope, buildReadinessEnvelope_success_iff] at success
    obtain ⟨first, found⟩ := success
    refine ⟨first, ?_, marked p first found⟩
    rw [observations, List.find?_append, found]
    rfl
  · intro p q below success
    rw [envelope, buildReadinessEnvelope_success_iff] at success
    obtain ⟨hit, found⟩ := success
    have weaker : ∀ seen, reaches args q seen = true → reaches args p seen = true := by
      intro seen reached
      have order := args.target_mono enough p q (Nat.le_of_lt below)
      simp only [reaches, decide_eq_true_eq] at reached ⊢
      omega
    obtain ⟨first, firstFound, position⟩ := exists_find?_of_imp ordered weaker found
    refine ⟨first.elapsed, hit.elapsed, marked p first firstFound, marked q hit found, ?_⟩
    rcases position with same | earlier
    · rw [same]
    · exact earlier

/-- Targets above the baseline, nested successes, and times of the first poll that
reached each target, whichever way the wait ends. -/
theorem readiness_envelope_sound (args : WaitArgs) (trace : PollTrace) (fuel : Nat)
    (exit : WaitExit) (expected : 1 ≤ args.expectedCount)
    (ran : waitForMachineNodeReadiness args trace fuel = some exit) :
    (∀ p, (args.baselineCount : Int) < args.target p) ∧
      (∀ p q : Percentile, p.value < q.value → args.target p ≤ args.target q) ∧
      args.target .p100 = args.baselineCount + args.expectedCount ∧
      SoundEnvelope args trace exit := by
  have enough : 0 ≤ args.expectedCount := by omega
  refine ⟨args.baseline_lt_target, ?_, args.target_p100 expected, ?_⟩
  · intro p q below
    exact args.target_mono enough p q (Nat.le_of_lt below)
  · exact (waitForMachineNodeReadiness_shape args trace fuel exit expected ran).sound enough

/-- A trace that polls every ten seconds and lists machines without delay. -/
def steadyTrace (readyNodes : Nat → Option Nat)
    (failures : Nat → Except Text (List FailedMachine)) : PollTrace where
  start := 0
  poll i :=
    { loopClock := 10 * i
      checkClock := 10 * i
      readyNodes := readyNodes i
      failures := failures i
      recheckClock := 10 * i
      elapsedClock := 10 * i }
  startBefore := by norm_num
  loopBefore _ := le_refl _
  checkBefore _ := le_refl _
  recheckBefore _ := le_refl _
  elapsedBefore i := by
    push_cast
    linarith

def twoMachines : WaitArgs :=
  { expectedCount := 2
    timeout := 1200
    baselineCount := 0
    clusterName := some (lit "aks")
    expectedMachineNames := some [lit "scale2-machine-1", lit "scale2-machine-2"] }

theorem two_machines_envelope_sound :
    ∃ exit, waitForMachineNodeReadiness twoMachines
        (steadyTrace (fun i => if i = 1 then none else some i) fun _ => .ok []) 4 =
          some exit ∧
      SoundEnvelope twoMachines
        (steadyTrace (fun i => if i = 1 then none else some i) fun _ => .ok []) exit := by
  have ends : (waitForMachineNodeReadiness twoMachines
      (steadyTrace (fun i => if i = 1 then none else some i) fun _ => .ok []) 4).isSome =
        true := by
    decide +kernel
  obtain ⟨exit, ran⟩ := Option.isSome_iff_exists.mp ends
  exact ⟨exit, ran, (readiness_envelope_sound _ _ _ exit (by decide) ran).2.2.2⟩

/-! Completeness of the envelope.  The raise comes before the iteration's own
ready count is recorded, so a target first reached in the failing iteration is
lost. -/

def CompleteEnvelope (args : WaitArgs) (exit : WaitExit) : Prop :=
  ∀ p, (∃ seen ∈ exit.observations, reaches args p seen = true) →
    (exit.envelope p).success = true

/-- Poll `i`, begun before the deadline, is the first to report terminal failures
and the first whose ready count reaches the target of `p`. -/
structure FirstHitFails (args : WaitArgs) (trace : PollTrace) (i : Nat)
    (p : Percentile) : Prop where
  beforeDeadline : (trace.poll i).loopClock < trace.start + args.timeout
  reports : reportsAt args trace i ≠ []
  quietBefore : ∀ j < i, reportsAt args trace j = []
  hits : args.target p ≤ readyAt trace i
  missedBefore : ∀ j < i, (readyAt trace j : Int) < args.target p

theorem PollTrace.loopClock_mono (trace : PollTrace) :
    Monotone fun i => (trace.poll i).loopClock := by
  apply monotone_nat_of_le_succ
  intro i
  exact (trace.loopClock_le_elapsedClock i).trans (trace.elapsedBefore i)

theorem Polled.readAt_append {args : WaitArgs} {trace : PollTrace}
    {recorded : List Observation} {last : Observation}
    (polled : Polled args trace (recorded ++ [last])) :
    ReadAt args trace recorded.length last :=
  polled recorded.length last (by simp)

theorem Polled.reachedBefore {args : WaitArgs} {trace : PollTrace}
    {recorded : List Observation} (polled : Polled args trace recorded)
    (p : Percentile) :
    (∃ first, recorded.find? (reaches args p) = some first) ↔
      ∃ j < recorded.length, args.target p ≤ readyAt trace j := by
  rw [← Option.isSome_iff_exists, List.find?_isSome]
  constructor
  · rintro ⟨seen, member, reached⟩
    obtain ⟨j, inside, same⟩ := List.mem_iff_getElem.mp member
    have read := polled j seen (List.getElem?_eq_some_iff.mpr ⟨inside, same⟩)
    refine ⟨j, inside, ?_⟩
    rw [← read.ready]
    exact of_decide_eq_true reached
  · rintro ⟨j, inside, reached⟩
    refine ⟨recorded[j], List.getElem_mem inside, ?_⟩
    have read := polled j _ (List.getElem?_eq_getElem inside)
    rw [reaches, read.ready]
    exact decide_eq_true reached

theorem Polled.left {args : WaitArgs} {trace : PollTrace}
    {recorded : List Observation} {last : Observation}
    (polled : Polled args trace (recorded ++ [last])) : Polled args trace recorded := by
  intro i seen found
  apply polled i seen
  obtain ⟨inside, same⟩ := List.getElem?_eq_some_iff.mp found
  rw [List.getElem?_append_left inside]
  exact found

private theorem recordedCount_eq_iff (times : ReadinessTimes) :
    ¬ recordedCount times < Percentile.all.length ↔
      ∀ p, (times p).isSome = true := by
  have bounded : recordedCount times ≤ Percentile.all.length := List.countP_le_length
  have full : recordedCount times = Percentile.all.length ↔
      ∀ p ∈ Percentile.all, (times p).isSome = true := List.countP_eq_length
  have everyone : ∀ p, p ∈ Percentile.all := by
    intro p
    cases p <;> decide
  constructor
  · intro notLess p
    exact full.mp (by omega) p (everyone p)
  · intro recorded
    have complete := full.mpr fun p _ => recorded p
    omega

theorem quiet_reportsAt {args : WaitArgs} {trace : PollTrace}
    {recorded : List Observation} (polled : Polled args trace recorded)
    (quiet : ∀ seen ∈ recorded, seen.failedMachines = []) (j : Nat)
    (inside : j < recorded.length) : reportsAt args trace j = [] := by
  have read := polled j _ (List.getElem?_eq_getElem inside)
  rw [← read.failedMachines]
  exact quiet _ (List.getElem_mem inside)

/-- A target is marked exactly when a recorded poll reached it. -/
theorem Polled.success_iff {args : WaitArgs} {trace : PollTrace}
    {recorded : List Observation} (polled : Polled args trace recorded)
    (p : Percentile) :
    (buildReadinessEnvelope args.target (timesOf args recorded) p).success = true ↔
      ∃ j < recorded.length, args.target p ≤ readyAt trace j := by
  rw [buildReadinessEnvelope_success_iff, polled.reachedBefore]

/-- A wait that returns reported no failure while a target was open. -/
theorem not_firstHitFails_of_returned {args : WaitArgs} {trace : PollTrace}
    {recorded : List Observation}
    (quiet : ∀ seen ∈ recorded, seen.failedMachines = [])
    (polled : Polled args trace recorded)
    (ended : ¬ ((trace.poll recorded.length).loopClock < trace.start + args.timeout ∧
      recordedCount (timesOf args recorded) < Percentile.all.length))
    (i : Nat) (p : Percentile) : ¬ FirstHitFails args trace i p := by
  intro lost
  rcases Nat.lt_or_ge i recorded.length with inside | outside
  · exact lost.reports (quiet_reportsAt polled quiet i inside)
  · have early : (trace.poll recorded.length).loopClock < trace.start + args.timeout :=
      (trace.loopClock_mono outside).trans_lt lost.beforeDeadline
    have allRecorded := (recordedCount_eq_iff _).mp fun less => ended ⟨early, less⟩
    obtain ⟨j, inside, reached⟩ := (polled.success_iff p).mp (allRecorded p)
    have missed := lost.missedBefore j (by omega)
    omega

/-- In a wait that raises, only the last poll can be such a poll. -/
theorem firstHitFails_of_raised_iff {args : WaitArgs} {trace : PollTrace}
    {recorded : List Observation} {last : Observation}
    (quiet : ∀ seen ∈ recorded, seen.failedMachines = [])
    (polled : Polled args trace (recorded ++ [last]))
    (failed : last.failedMachines ≠ []) (i : Nat) (p : Percentile) :
    FirstHitFails args trace i p ↔ i = recorded.length ∧
      args.target p ≤ readyAt trace recorded.length ∧
        ∀ j < recorded.length, (readyAt trace j : Int) < args.target p := by
  have read := polled.readAt_append
  have quietBefore := quiet_reportsAt polled.left quiet
  rw [read.failedMachines] at failed
  constructor
  · intro lost
    rcases Nat.lt_trichotomy i recorded.length with inside | here | outside
    · exact absurd (quietBefore i inside) lost.reports
    · subst here
      exact ⟨rfl, lost.hits, lost.missedBefore⟩
    · exact absurd (lost.quietBefore recorded.length outside) failed
  · rintro ⟨rfl, hits, missed⟩
    exact ⟨read.beforeDeadline, failed, quietBefore, hits, missed⟩

private theorem ExitShape.complete_iff {args : WaitArgs} {trace : PollTrace} {exit : WaitExit}
    (shape : ExitShape args trace exit) :
    CompleteEnvelope args exit ↔ ∀ i p, ¬ FirstHitFails args trace i p := by
  cases shape with
  | returned recorded quiet ordered polled ended =>
      refine iff_of_true ?_ (not_firstHitFails_of_returned quiet polled ended)
      rintro p ⟨seen, member, reached⟩
      refine (buildReadinessEnvelope_success_iff args recorded p).mpr ?_
      rw [← Option.isSome_iff_exists, List.find?_isSome]
      exact ⟨seen, member, reached⟩
  | raised recorded last quiet ordered polled failed =>
      have marked := polled.left.success_iff
      have lostIff := firstHitFails_of_raised_iff quiet polled failed
      constructor
      · intro complete i p lost
        obtain ⟨-, hits, missed⟩ := (lostIff i p).mp lost
        have reached : reaches args p last = true := by
          rw [reaches, polled.readAt_append.ready]
          exact decide_eq_true hits
        obtain ⟨j, inside, hit⟩ := (marked p).mp (complete p ⟨last, by simp, reached⟩)
        have missedThere := missed j inside
        omega
      · rintro none p ⟨seen, member, reached⟩
        obtain ⟨j, inside, same⟩ := List.mem_iff_getElem.mp member
        have read := polled j seen (List.getElem?_eq_some_iff.mpr ⟨inside, same⟩)
        have hit : args.target p ≤ readyAt trace j := by
          rw [← read.ready]
          exact of_decide_eq_true reached
        refine (marked p).mpr ?_
        by_contra missed
        apply none recorded.length p
        have missedBefore : ∀ k < recorded.length,
            (readyAt trace k : Int) < args.target p := by
          intro k early
          by_contra reachedThere
          exact missed ⟨k, early, by omega⟩
        have position : j = recorded.length := by
          by_contra other
          rw [List.length_append, List.length_singleton] at inside
          have missedThere := missedBefore j (by omega)
          omega
        rw [position] at hit
        exact (lostIff recorded.length p).mpr ⟨rfl, hit, missedBefore⟩

/-- The envelope keeps every reached target unless the first poll that reports
terminal failures is also the first to reach some target. -/
theorem readiness_envelope_complete_iff (args : WaitArgs) (trace : PollTrace)
    (fuel : Nat) (exit : WaitExit) (expected : 1 ≤ args.expectedCount)
    (ran : waitForMachineNodeReadiness args trace fuel = some exit) :
    CompleteEnvelope args exit ↔ ∀ i p, ¬ FirstHitFails args trace i p :=
  (waitForMachineNodeReadiness_shape args trace fuel exit expected ran).complete_iff

/-- One of two machines is ready when the check reports the other one failed. -/
def halfReady : PollTrace :=
  steadyTrace (fun _ => some 1) fun _ =>
    .ok [[(lit "name", .str (lit "scale2-machine-2"))]]

theorem half_ready_envelope_complete_iff :
    ∃ exit, waitForMachineNodeReadiness twoMachines halfReady 2 = some exit ∧
      (CompleteEnvelope twoMachines exit ↔
        ∀ i p, ¬ FirstHitFails twoMachines halfReady i p) := by
  have ends : (waitForMachineNodeReadiness twoMachines halfReady 2).isSome = true := by
    decide +kernel
  obtain ⟨exit, ran⟩ := Option.isSome_iff_exists.mp ends
  exact ⟨exit, ran, readiness_envelope_complete_iff _ _ _ exit (by decide) ran⟩

theorem half_ready_p50_lost :
    1 ≤ twoMachines.expectedCount ∧
    ∃ exit, waitForMachineNodeReadiness twoMachines halfReady 2 = some exit ∧
      ¬ CompleteEnvelope twoMachines exit := by
  have ends : (waitForMachineNodeReadiness twoMachines halfReady 2).any
      (fun exit => exit.observations.any (reaches twoMachines .p50) &&
        !(exit.envelope .p50).success) = true := by
    decide +kernel
  obtain ⟨exit, ran, lost⟩ := (Option.any_eq_true _ _).mp ends
  rw [Bool.and_eq_true, List.any_eq_true, Bool.not_eq_true'] at lost
  refine ⟨by decide, exit, ran, fun complete => ?_⟩
  rw [complete .p50 lost.1] at lost
  exact Bool.noConfusion lost.2

end Telescope.Machine
