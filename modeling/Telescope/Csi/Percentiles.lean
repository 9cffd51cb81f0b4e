import Telescope.Csi.Metrics

namespace Telescope.Csi

open Telescope

/-! What the lines of the log say about the volumes: the count that ended a wait, against
the percentile that is logged for it. -/

namespace Percentile

def percent : Percentile → Nat
  | .p50 => 50
  | .p90 => 90
  | .p99 => 99
  | .p100 => 100

theorem mem_all (percentile : Percentile) : percentile ∈ all := by
  cases percentile <;> simp [all]

end Percentile

/-- The next `append` of the phase writes the line of the percentile, after a wait that
`count` ended. -/
def LogsLine (state : State) (phase : Phase) (percentile : Percentile) (count : Nat) : Prop :=
  ∃ monitor target rest duration after, state.monitor phase = some monitor ∧
    monitor.thresholds = (target, percentile.label) :: rest ∧
    monitor.stage = .measured count duration ∧
    monitor.append = (after, some (logLine (phase, percentile.label, duration) ++ ['\n']))

/-- With `count` volumes bound, ready or still attached, at least so many percent of all
volumes have reached the state of the phase. -/
def Phase.ReachedBy (diskNumber percent count : Nat) : Phase → Prop
  | .creation | .attachment => percent * diskNumber ≤ 100 * count
  | .detachment => (percent * diskNumber : Int) ≤ 100 * (diskNumber - count)

/-! ## The count that ends a wait meets its threshold -/

def Stage.waited : Stage → Option Nat
  | .satisfied current | .measured current _ => some current
  | _ => none

structure Monitor.Waits (diskNumber : Nat) (phase : Phase) (monitor : Monitor) : Prop where
  comparison : monitor.comparison = phase.comparison
  thresholds : monitor.thresholds <:+ phase.thresholds diskNumber
  satisfied : ∀ threshold rest, monitor.thresholds = threshold :: rest →
    ∀ count ∈ monitor.stage.waited, phase.comparison.satisfied count threshold.1 = true

def Waiting (diskNumber : Nat) (state : State) : Prop :=
  ∀ phase monitor, state.monitor phase = some monitor → monitor.Waits diskNumber phase

namespace Monitor.Waits

variable {diskNumber : Nat} {phase : Phase} {monitor : Monitor}

theorem new (diskNumber : Nat) (phase : Phase) (startTime : Int) :
    (Monitor.new phase.description (phase.thresholds diskNumber) phase.comparison
      startTime).Waits diskNumber phase where
  comparison := rfl
  thresholds := List.suffix_refl _
  satisfied _ _ _ _ waited := nomatch waited

theorem check (waits : monitor.Waits diskNumber phase) (current : Nat) :
    (monitor.check current).Waits diskNumber phase := by
  unfold Monitor.check
  split
  case h_1 target label rest atStage atThreshold =>
      split
      · next met =>
        refine ⟨waits.comparison, waits.thresholds, ?_⟩
        intro threshold others same count waited
        rw [atThreshold] at same
        rw [← Option.some.inj waited, ← (List.cons.inj same).1, ← waits.comparison]
        exact met
      · exact waits
  case h_2 => exact waits

theorem measure (waits : monitor.Waits diskNumber phase) (now : Int) :
    (monitor.measure now).Waits diskNumber phase := by
  unfold Monitor.measure
  split
  case h_1 current atStage =>
      refine ⟨waits.comparison, waits.thresholds, ?_⟩
      intro threshold rest same count waited
      apply waits.satisfied threshold rest same count
      rw [atStage]
      exact waited
  case h_2 => exact waits

theorem raise (waits : monitor.Waits diskNumber phase) : monitor.raise.Waits diskNumber phase := by
  unfold Monitor.raise
  split
  · exact waits
  · exact ⟨waits.comparison, waits.thresholds, fun _ _ _ _ waited => nomatch waited⟩

theorem append (waits : monitor.Waits diskNumber phase) :
    monitor.append.1.Waits diskNumber phase := by
  unfold Monitor.append
  split
  case h_1 current duration target label rest atStage atThreshold =>
      split
      · exact ⟨waits.comparison, waits.thresholds, fun _ _ _ _ waited => nomatch waited⟩
      · refine ⟨waits.comparison, ?_, fun _ _ _ _ waited => nomatch waited⟩
        have later : rest <:+ monitor.thresholds := by
          rw [atThreshold]
          exact List.suffix_cons _ _
        exact later.trans waits.thresholds
  case h_2 => exact waits

end Monitor.Waits

namespace Waiting

variable {diskNumber : Nat} {state : State} {phase : Phase} {after : Monitor}

theorem withMonitor (waiting : Waiting diskNumber state) (waits : after.Waits diskNumber phase) :
    Waiting diskNumber (state.withMonitor phase after) := by
  intro other monitor present
  by_cases same : other = phase
  · subst same
    have replaced : after = monitor := by simpa [State.withMonitor] using present
    exact replaced ▸ waits
  · apply waiting other monitor
    simpa [State.withMonitor, same] using present

theorem ofMonitor (waiting : Waiting diskNumber state) (phase : Phase) {step : Monitor → State}
    (kept : ∀ monitor, monitor.Waits diskNumber phase → Waiting diskNumber (step monitor)) :
    Waiting diskNumber ((state.monitor phase).elim state step) := by
  cases present : state.monitor phase with
  | none => exact waiting
  | some monitor => exact kept monitor (waiting phase monitor present)

theorem join (waiting : Waiting diskNumber state) (phases : List Phase) (next : Control) :
    Waiting diskNumber (state.join phases next) := by
  unfold State.join
  split
  · exact waiting
  · split
    · exact waiting
    · exact waiting

theorem submit (waiting : Waiting diskNumber state) (phase : Phase) (startTime : Int)
    (next : Control) : Waiting diskNumber (state.submit diskNumber phase startTime next) :=
  waiting.withMonitor (.new diskNumber phase startTime)

theorem advance (waiting : Waiting diskNumber state) :
    Waiting diskNumber (state.advance diskNumber) := by
  unfold State.advance
  cases state.control with
  | submitCreation startTime => exact waiting.submit .creation startTime _
  | submitAttachment startTime => exact waiting.submit .attachment startTime _
  | submitDetachment startTime => exact waiting.submit .detachment startTime _
  | joinAttach => exact waiting.join _ _
  | joinDetach => exact waiting.join _ _
  | _ => exact waiting

theorem raise (waiting : Waiting diskNumber state) : Waiting diskNumber state.raise := by
  unfold State.raise
  split
  · exact waiting
  · exact waiting

theorem perform (waiting : Waiting diskNumber state) (action : Action) :
    Waiting diskNumber (action.perform diskNumber state) := by
  cases action with
  | elapse time => exact waiting
  | advance => exact waiting.advance
  | raise => exact waiting.raise
  | check phase current =>
      apply waiting.ofMonitor
      intro monitor waits
      exact waiting.withMonitor (waits.check current)
  | measure phase =>
      apply waiting.ofMonitor
      intro monitor waits
      exact waiting.withMonitor (waits.measure state.now)
  | append phase =>
      apply waiting.ofMonitor
      intro monitor waits
      have kept := waiting.withMonitor waits.append
      unfold State.append
      rcases appended : monitor.append with ⟨after, none | line⟩
      · rw [appended] at kept
        exact kept
      · rw [appended] at kept
        exact kept
  | monitorRaise phase =>
      apply waiting.ofMonitor
      intro monitor waits
      exact waiting.withMonitor waits.raise

end Waiting

private theorem waiting_executeAttachDetach (diskNumber : Nat) (now : Int) (actions : List Action) :
    Waiting diskNumber (executeAttachDetach diskNumber now actions) := by
  have kept : ∀ state, Waiting diskNumber state →
      Waiting diskNumber (actions.foldl (Action.perform diskNumber) state) := by
    induction actions with
    | nil => exact fun _ waiting => waiting
    | cons action rest induction =>
        intro state waiting
        exact induction _ (waiting.perform action)
  apply kept
  intro phase monitor present
  exact nomatch present

/-! ## What a percentile's threshold guarantees -/

def Phase.threshold (diskNumber : Nat) (percentile : Percentile) : Phase → Nat
  | .creation | .attachment =>
      match percentile with
      | .p50 => diskNumber / 2
      | .p90 => diskNumber * 9 / 10
      | .p99 => diskNumber * 99 / 100
      | .p100 => diskNumber
  | .detachment =>
      match percentile with
      | .p50 => diskNumber - diskNumber / 2
      | .p90 => diskNumber - diskNumber * 9 / 10
      | .p99 => diskNumber - diskNumber * 99 / 100
      | .p100 => 0

theorem thresholds_eq (diskNumber : Nat) (phase : Phase) :
    phase.thresholds diskNumber =
      Percentile.all.map fun percentile =>
        (phase.threshold diskNumber percentile, percentile.label) := by
  cases phase <;> rfl

theorem Percentile.label_injective : Function.Injective Percentile.label := by
  intro first second same
  cases first <;> cases second <;> first | rfl | exact absurd same (by decide)

private theorem eq_threshold_of_mem {diskNumber : Nat} {phase : Phase} {target : Nat}
    {percentile : Percentile} (member : (target, percentile.label) ∈ phase.thresholds diskNumber) :
    target = phase.threshold diskNumber percentile := by
  rw [thresholds_eq] at member
  obtain ⟨other, -, same⟩ := List.mem_map.mp member
  obtain ⟨targets, labels⟩ := Prod.mk.inj same
  rw [← targets, Percentile.label_injective labels]

/-- The threshold itself is enough for its percentile exactly if the percentile is a whole
number of volumes. -/
theorem reachedBy_threshold_iff (diskNumber : Nat) (phase : Phase) (percentile : Percentile) :
    phase.ReachedBy diskNumber percentile.percent (phase.threshold diskNumber percentile) ↔
      100 ∣ percentile.percent * diskNumber := by
  cases phase <;> cases percentile <;>
    simp only [Phase.ReachedBy, Phase.threshold, Percentile.percent] <;> omega

/-- Any count that satisfies the comparison does at least as well as the threshold. -/
theorem reachedBy_of_satisfied {diskNumber percent count target : Nat} {phase : Phase}
    (satisfied : phase.comparison.satisfied count target = true)
    (reached : phase.ReachedBy diskNumber percent target) :
    phase.ReachedBy diskNumber percent count := by
  cases phase with
  | creation =>
      have enough : target ≤ count := of_decide_eq_true satisfied
      simp only [Phase.ReachedBy] at reached ⊢
      omega
  | attachment =>
      have enough : target ≤ count := of_decide_eq_true satisfied
      simp only [Phase.ReachedBy] at reached ⊢
      omega
  | detachment =>
      have enough : count ≤ target := of_decide_eq_true satisfied
      simp only [Phase.ReachedBy] at reached ⊢
      omega

/-- A logged line keeps what its threshold promises. -/
theorem satisfied_of_logsLine {diskNumber : Nat} {now : Int} {actions : List Action}
    {phase : Phase} {percentile : Percentile} {count : Nat}
    (logs : LogsLine (executeAttachDetach diskNumber now actions) phase percentile count) :
    phase.comparison.satisfied count (phase.threshold diskNumber percentile) = true := by
  obtain ⟨monitor, target, rest, duration, after, present, thresholds, stage, -⟩ := logs
  have waits := waiting_executeAttachDetach diskNumber now actions phase monitor present
  have listed : (target, percentile.label) ∈ phase.thresholds diskNumber := by
    apply waits.thresholds.subset
    rw [thresholds]
    exact List.mem_cons_self
  rw [← eq_threshold_of_mem listed]
  apply waits.satisfied _ _ thresholds
  rw [stage]
  rfl

private theorem thresholds_ordered (diskNumber : Nat) :
    ((attachThresholds diskNumber).map Prod.fst).Pairwise (· ≤ ·) ∧
      ((detachThresholds diskNumber).map Prod.fst).Pairwise (· ≥ ·) := by
  simp only [attachThresholds, detachThresholds, calculatePercentiles, List.map_cons, List.map_nil,
    List.pairwise_cons, List.mem_cons, List.not_mem_nil, or_false, forall_eq_or_imp, forall_eq,
    List.Pairwise.nil, and_true, false_imp_iff, implies_true]
  omega

/-! ## Runs in which the threshold itself ends the wait -/

def Reachable (diskNumber : Nat) (state : State) : Prop :=
  ∃ now actions, executeAttachDetach diskNumber now actions = state

theorem Reachable.perform {diskNumber : Nat} {state : State} (reachable : Reachable diskNumber state)
    (action : Action) : Reachable diskNumber (action.perform diskNumber state) := by
  obtain ⟨now, actions, rfl⟩ := reachable
  refine ⟨now, actions ++ [action], ?_⟩
  rw [executeAttachDetach, List.foldl_append]
  rfl

/-- The phase's thread is about to wait for the first of these thresholds. -/
def StandsAt (state : State) (phase : Phase) (thresholds : List (Nat × Text)) : Prop :=
  ∃ monitor, state.monitor phase = some monitor ∧ monitor.thresholds = thresholds ∧
    monitor.stage = .checking ∧ monitor.comparison = phase.comparison

section Rounds

variable {diskNumber : Nat} {state : State} {phase : Phase} {rest : List (Nat × Text)}

/-- A round in which the first check sees exactly the threshold. -/
theorem Reachable.round (reachable : Reachable diskNumber state) {percentile : Percentile}
    {target : Nat} (stands : StandsAt state phase ((target, percentile.label) :: rest)) :
    (∃ measured, Reachable diskNumber measured ∧ LogsLine measured phase percentile target) ∧
      ∃ next, Reachable diskNumber next ∧ StandsAt next phase rest ∧
        next.control = state.control ∧
          ∀ other, other ≠ phase → next.monitor other = state.monitor other := by
  obtain ⟨monitor, present, thresholds, stage, comparison⟩ := stands
  have satisfied : monitor.comparison.satisfied target target = true := by
    rw [comparison]
    cases phase <;> simp [Phase.comparison, Comparison.satisfied]
  let duration := wholeSeconds monitor.startTime state.now
  let timed : Monitor := { monitor with stage := .measured target duration }
  let measured := state.withMonitor phase timed
  have checked : (Action.check phase target).perform diskNumber state =
      state.withMonitor phase { monitor with stage := .satisfied target } := by
    simp [Action.perform, present, Monitor.check, stage, thresholds, satisfied]
  have reached : Reachable diskNumber measured := by
    have steps := (reachable.perform (.check phase target)).perform (.measure phase)
    have timing : (Action.measure phase).perform diskNumber
        (state.withMonitor phase { monitor with stage := .satisfied target }) = measured := by
      simp [Action.perform, State.withMonitor, Monitor.measure, measured, timed, duration]
    rw [checked, timing] at steps
    exact steps
  have held : measured.monitor phase = some timed := by simp [measured, State.withMonitor]
  have tracks : timed.Tracks phase measured.now := by
    obtain ⟨now, actions, same⟩ := reached
    have coherent := coherent_executeAttachDetach diskNumber now actions
    rw [same] at coherent
    exact coherent.tracks phase timed held
  have known : percentile.label ∈ Percentile.all.map Percentile.label :=
    List.mem_map_of_mem percentile.mem_all
  have line : durationLine (monitor.description ++ lit " " ++ percentile.label) duration =
      .ok (logLine (phase, percentile.label, duration) ++ ['\n']) := by
    rw [show monitor.description = phase.description from tracks.description]
    exact durationLine_eq_ok phase known duration
  have appended : timed.append =
      ({ timed with
          thresholds := rest
          stage := .checking
          logged := monitor.logged ++ [(percentile.label, duration)] },
        some (logLine (phase, percentile.label, duration) ++ ['\n'])) := by
    unfold Monitor.append
    simp only [timed, thresholds]
    rw [line]
  refine ⟨⟨measured, reached, timed, target, rest, duration, _, held, thresholds, rfl, appended⟩,
    _, reached.perform (.append phase), ?_⟩
  have performed : (Action.append phase).perform diskNumber measured = _ :=
    congrArg (fun found : Option Monitor => found.elim measured (measured.append phase)) held
  rw [performed]
  simp only [Option.elim_some, State.append, appended]
  refine ⟨⟨_, Function.update_self .., rfl, rfl, comparison⟩, rfl, ?_⟩
  intro other different
  simp [State.withMonitor, measured, different]

theorem Reachable.rounds (done : List Percentile) {target : Percentile → Nat}
    (reachable : Reachable diskNumber state)
    (stands : StandsAt state phase
      ((done.map fun percentile => (target percentile, percentile.label)) ++ rest)) :
    ∃ next, Reachable diskNumber next ∧ StandsAt next phase rest ∧
      next.control = state.control ∧
        ∀ other, other ≠ phase → next.monitor other = state.monitor other := by
  induction done generalizing state with
  | nil => exact ⟨state, reachable, stands, rfl, fun _ _ => rfl⟩
  | cons percentile done induction =>
      obtain ⟨-, next, reached, later, control, others⟩ := reachable.round stands
      obtain ⟨last, reachedLast, standsLast, controlLast, othersLast⟩ := induction reached later
      exact ⟨last, reachedLast, standsLast, controlLast.trans control,
        fun other different => (othersLast other different).trans (others other different)⟩

/-- From where a thread stands before all its thresholds, each of its lines can be logged
with exactly the threshold. -/
theorem Reachable.exists_logsLine (reachable : Reachable diskNumber state)
    (stands : StandsAt state phase (phase.thresholds diskNumber)) (percentile : Percentile) :
    ∃ measured, Reachable diskNumber measured ∧
      LogsLine measured phase percentile (phase.threshold diskNumber percentile) := by
  obtain ⟨before, after, split⟩ := List.append_of_mem percentile.mem_all
  rw [thresholds_eq, split, List.map_append, List.map_cons] at stands
  obtain ⟨next, reached, here, -, -⟩ := reachable.rounds before stands
  exact (reached.round here).1

/-- The thread goes through all its thresholds and returns. -/
theorem Reachable.finish (reachable : Reachable diskNumber state)
    (stands : StandsAt state phase (phase.thresholds diskNumber)) :
    ∃ next, Reachable diskNumber next ∧ next.returned phase = true ∧
      next.control = state.control ∧
        ∀ other, other ≠ phase → next.monitor other = state.monitor other := by
  rw [thresholds_eq, ← List.append_nil (List.map _ _)] at stands
  obtain ⟨next, reached, ⟨monitor, present, thresholds, stage, -⟩, control, others⟩ :=
    reachable.rounds Percentile.all stands
  refine ⟨next, reached, ?_, control, others⟩
  rw [State.returned, present, Option.any_some, Monitor.returned_iff]
  exact ⟨thresholds, stage⟩

end Rounds

theorem exists_attachment_standing (diskNumber : Nat) :
    ∃ state, Reachable diskNumber state ∧ state.control = .joinAttach ∧
      StandsAt state .creation (Phase.creation.thresholds diskNumber) ∧
        StandsAt state .attachment (Phase.attachment.thresholds diskNumber) :=
  ⟨_, ⟨0, List.replicate 6 .advance, rfl⟩, rfl, ⟨_, rfl, rfl, rfl, rfl⟩, ⟨_, rfl, rfl, rfl, rfl⟩⟩

private theorem exists_detachment_standing (diskNumber : Nat) :
    ∃ state, Reachable diskNumber state ∧
      StandsAt state .detachment (Phase.detachment.thresholds diskNumber) := by
  obtain ⟨started, reachable, control, creation, attachment⟩ :=
    exists_attachment_standing diskNumber
  obtain ⟨created, reachedCreated, createdReturned, createdControl, kept⟩ :=
    reachable.finish creation
  have attachmentKept : StandsAt created .attachment (Phase.attachment.thresholds diskNumber) := by
    obtain ⟨monitor, present, facts⟩ := attachment
    exact ⟨monitor, (kept .attachment (by decide)).trans present, facts⟩
  obtain ⟨attached, reachedAttached, attachedReturned, attachedControl, others⟩ :=
    reachedCreated.finish attachmentKept
  have stillReturned : attached.returned .creation = true := by
    rw [State.returned, others .creation (by decide)]
    exact createdReturned
  have joining : attached.control = .joinAttach := attachedControl.trans (createdControl.trans control)
  have joined : (Action.advance).perform diskNumber attached =
      { attached with control := .startDeletionTimer } := by
    simp [Action.perform, State.advance, joining, State.join, stillReturned, attachedReturned]
  have steps := reachedAttached.perform .advance
  rw [joined] at steps
  refine ⟨_, (((steps.perform .advance).perform .advance).perform .advance).perform .advance, ?_⟩
  refine ⟨.new Phase.detachment.description (Phase.detachment.thresholds diskNumber)
    Phase.detachment.comparison attached.now, ?_, rfl, rfl, rfl⟩
  simp [Action.perform, State.advance, State.submit, State.withMonitor]

theorem exists_logsLine (diskNumber : Nat) (phase : Phase) (percentile : Percentile) :
    ∃ now actions, LogsLine (executeAttachDetach diskNumber now actions) phase percentile
      (phase.threshold diskNumber percentile) := by
  obtain ⟨measured, ⟨now, actions, rfl⟩, logs⟩ : ∃ measured, Reachable diskNumber measured ∧
      LogsLine measured phase percentile (phase.threshold diskNumber percentile) := by
    cases phase with
    | creation =>
        obtain ⟨state, reachable, -, creation, -⟩ := exists_attachment_standing diskNumber
        exact reachable.exists_logsLine creation percentile
    | attachment =>
        obtain ⟨state, reachable, -, -, attachment⟩ := exists_attachment_standing diskNumber
        exact reachable.exists_logsLine attachment percentile
    | detachment =>
        obtain ⟨state, reachable, detachment⟩ := exists_detachment_standing diskNumber
        exact reachable.exists_logsLine detachment percentile
  exact ⟨now, actions, logs⟩

/-- A line means what it says in every run exactly if its percentile is a whole number of
volumes. -/
theorem percentile_lines_mean_iff (diskNumber : Nat) :
    (∀ phase percentile,
      (∀ now actions count,
        LogsLine (executeAttachDetach diskNumber now actions) phase percentile count →
          phase.ReachedBy diskNumber percentile.percent count) ↔
        100 ∣ percentile.percent * diskNumber) ∧
    ((attachThresholds diskNumber).map Prod.fst).Pairwise (· ≤ ·) ∧
      ((detachThresholds diskNumber).map Prod.fst).Pairwise (· ≥ ·) := by
  refine ⟨?_, thresholds_ordered diskNumber⟩
  intro phase percentile
  rw [← reachedBy_threshold_iff diskNumber phase]
  constructor
  · intro means
    obtain ⟨now, actions, logs⟩ := exists_logsLine diskNumber phase percentile
    exact means now actions _ logs
  · intro reached now actions count logs
    exact reachedBy_of_satisfied (satisfied_of_logsLine logs) reached

/-- With one volume the first line is logged before anything was created. -/
theorem one_volume_p50_logged_early :
    ∃ now actions, LogsLine (executeAttachDetach 1 now actions) .creation .p50 0 ∧
      ¬ Phase.creation.ReachedBy 1 Percentile.p50.percent 0 := by
  obtain ⟨now, actions, logs⟩ := exists_logsLine 1 .creation .p50
  exact ⟨now, actions, logs, by simp [Phase.ReachedBy, Percentile.percent]⟩

end Telescope.Csi
