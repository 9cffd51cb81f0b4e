import Telescope.Csi.AttachDetach
import Telescope.Data.Interleaving

namespace Telescope.Csi

open Telescope

/-! Whatever the schedule, a finished benchmark leaves a log from which exactly the
durations that each monitor measured are collected. -/

inductive Percentile where
  | p50
  | p90
  | p99
  | p100

namespace Percentile

def label : Percentile → Text
  | .p50 => lit "p50"
  | .p90 => lit "p90"
  | .p99 => lit "p99"
  | .p100 => lit "p100"

def all : List Percentile := [.p50, .p90, .p99, .p100]

end Percentile

def Phase.all : List Phase := [.creation, .attachment, .detachment]

theorem Phase.mem_all (phase : Phase) : phase ∈ Phase.all := by
  cases phase <;> decide

private theorem labels_thresholds (diskNumber : Nat) (phase : Phase) :
    (phase.thresholds diskNumber).map Prod.snd = Percentile.all.map Percentile.label := by
  cases phase <;> rfl

/-! ## One monitor -/

private theorem wholeSeconds_mono {startTime earlier later : Int} (started : startTime ≤ earlier)
    (order : earlier ≤ later) : wholeSeconds startTime earlier ≤ wholeSeconds startTime later := by
  unfold wholeSeconds
  rw [Int.tdiv_eq_ediv_of_nonneg (by omega), Int.tdiv_eq_ediv_of_nonneg (by omega)]
  omega

def Stage.pending : Stage → List Int
  | .measured _ duration => [duration]
  | _ => []

namespace Monitor

def durations (monitor : Monitor) : List Int :=
  monitor.logged.map Prod.snd ++ monitor.stage.pending

/-- The monitor of a phase goes through the percentiles in order, and its durations
grow with the clock. -/
structure Tracks (phase : Phase) (now : Int) (monitor : Monitor) : Prop where
  description : monitor.description = phase.description
  labels : monitor.logged.map Prod.fst ++ monitor.thresholds.map Prod.snd =
    Percentile.all.map Percentile.label
  started : monitor.startTime ≤ now
  ordered : monitor.durations.Pairwise (· ≤ ·)
  bounded : ∀ duration ∈ monitor.durations, duration ≤ wholeSeconds monitor.startTime now

variable {phase : Phase} {now : Int} {monitor : Monitor}

private theorem tracks_new (diskNumber : Nat) (phase : Phase) {startTime now : Int}
    (started : startTime ≤ now) :
    (new phase.description (phase.thresholds diskNumber) phase.comparison startTime).Tracks
      phase now where
  description := rfl
  labels := labels_thresholds diskNumber phase
  started := started
  ordered := List.Pairwise.nil
  bounded := fun _ member => nomatch member

theorem Tracks.elapse (tracks : monitor.Tracks phase now) (time : Nat) :
    monitor.Tracks phase (now + time) where
  description := tracks.description
  labels := tracks.labels
  started := tracks.started.trans (by omega)
  ordered := tracks.ordered
  bounded := fun duration member =>
    (tracks.bounded duration member).trans (wholeSeconds_mono tracks.started (by omega))

/-- A stage without a measurement may replace any other. -/
theorem Tracks.withStage (tracks : monitor.Tracks phase now) {stage : Stage}
    (unmeasured : stage.pending = []) : ({ monitor with stage := stage }).Tracks phase now := by
  have fewer : ({ monitor with stage := stage } : Monitor).durations.Sublist monitor.durations := by
    rw [durations, unmeasured, List.append_nil]
    exact List.sublist_append_left _ _
  exact ⟨tracks.description, tracks.labels, tracks.started, tracks.ordered.sublist fewer,
    fun duration member => tracks.bounded duration (fewer.subset member)⟩

theorem Tracks.check (tracks : monitor.Tracks phase now) (current : Nat) :
    (monitor.check current).Tracks phase now := by
  unfold Monitor.check
  split
  · split
    · exact tracks.withStage rfl
    · exact tracks
  · exact tracks

theorem Tracks.measure (tracks : monitor.Tracks phase now) :
    (monitor.measure now).Tracks phase now := by
  unfold Monitor.measure
  split
  case h_1 current atStage =>
      have before : monitor.durations = monitor.logged.map Prod.snd := by
        rw [durations, atStage]
        exact List.append_nil _
      have ordered := tracks.ordered
      have bounded := tracks.bounded
      rw [before] at ordered bounded
      refine ⟨tracks.description, tracks.labels, tracks.started, ?_, ?_⟩
      · refine List.pairwise_append.mpr ⟨ordered, List.pairwise_singleton _ _, ?_⟩
        intro duration member last only
        rw [List.mem_singleton.mp only]
        exact bounded duration member
      · intro duration member
        rcases List.mem_append.mp member with logged | measured
        · exact bounded duration logged
        · exact le_of_eq (List.mem_singleton.mp measured)
  case h_2 => exact tracks

theorem Tracks.raise (tracks : monitor.Tracks phase now) :
    monitor.raise.Tracks phase now := by
  unfold Monitor.raise
  split
  · exact tracks
  · exact tracks.withStage rfl

/-! Only `append` logs, and a monitor that has returned does nothing more. -/

private theorem logged_check (monitor : Monitor) (current : Nat) :
    (monitor.check current).logged = monitor.logged := by
  unfold check
  split
  · split
    · rfl
    · rfl
  · rfl

private theorem logged_measure (monitor : Monitor) (now : Int) :
    (monitor.measure now).logged = monitor.logged := by
  unfold measure
  split
  · rfl
  · rfl

private theorem logged_raise (monitor : Monitor) : monitor.raise.logged = monitor.logged := by
  unfold raise
  split
  · rfl
  · rfl

theorem returned_iff : monitor.returned = true ↔
    monitor.thresholds = [] ∧ monitor.stage = .checking := by
  simp [returned]

private theorem check_of_returned (returned : monitor.returned = true) (current : Nat) :
    monitor.check current = monitor := by
  simp [check, returned_iff.mp returned]

private theorem measure_of_returned (returned : monitor.returned = true) (now : Int) :
    monitor.measure now = monitor := by
  simp [measure, returned_iff.mp returned]

private theorem raise_of_returned (returned : monitor.returned = true) : monitor.raise = monitor :=
  if_pos returned

end Monitor

/-! ## The log -/

/-- A line of the log without its newline. -/
def logLine (entry : Phase × Text × Int) : Text :=
  entry.1.description ++ lit " " ++ entry.2.1 ++ lit ": " ++ intText entry.2.2

/-- The file after the entries were appended to none. -/
def logFile (history : List (Phase × Text × Int)) : Option Text :=
  if history = [] then none else some (history.flatMap fun entry => logLine entry ++ ['\n'])

private theorem logFile_append (history : List (Phase × Text × Int)) (entry : Phase × Text × Int) :
    logFile (history ++ [entry]) =
      some ((logFile history).getD [] ++ (logLine entry ++ ['\n'])) := by
  have appended : history ++ [entry] ≠ [] := List.concat_ne_nil entry history
  unfold logFile
  rw [if_neg appended, List.flatMap_append, List.flatMap_singleton]
  by_cases empty : history = []
  · rw [if_pos empty, empty]
    rfl
  · rw [if_neg empty]
    rfl

theorem durationLine_eq_ok (phase : Phase) {label : Text}
    (known : label ∈ Percentile.all.map Percentile.label) (duration : Int) :
    durationLine (phase.description ++ lit " " ++ label) duration =
      .ok (logLine (phase, label, duration) ++ ['\n']) := by
  obtain ⟨percentile, -, rfl⟩ := List.mem_map.mp known
  have colonFree : ':' ∉ phase.description ++ lit " " ++ percentile.label := by
    cases phase <;> cases percentile <;> decide
  unfold durationLine
  rw [if_neg colonFree]
  rfl

/-- A monitor that can append adds the line of its phase, its percentile and its own
measurement. -/
theorem Monitor.Tracks.append_cases {phase : Phase} {now : Int} {monitor : Monitor}
    (tracks : monitor.Tracks phase now) :
    monitor.append = (monitor, none) ∨
      ∃ label duration after,
        monitor.append = (after, some (logLine (phase, label, duration) ++ ['\n'])) ∧
        after.logged = monitor.logged ++ [(label, duration)] ∧
        after.Tracks phase now ∧ monitor.returned = false := by
  unfold Monitor.append
  split
  case h_1 current duration target label rest atStage atThreshold =>
      have known : label ∈ Percentile.all.map Percentile.label := by
        rw [← tracks.labels, atThreshold]
        exact List.mem_append_right _ List.mem_cons_self
      have line : durationLine (monitor.description ++ lit " " ++ label) duration =
          .ok (logLine (phase, label, duration) ++ ['\n']) := by
        rw [tracks.description]
        exact durationLine_eq_ok phase known duration
      rw [line]
      refine .inr ⟨label, duration, _, rfl, rfl, ?_, ?_⟩
      · -- The measurement moves from the stage to the log: the durations stay the same.
        have same : monitor.durations = (monitor.logged ++ [(label, duration)]).map Prod.snd := by
          rw [Monitor.durations, atStage, List.map_append]
          rfl
        have ordered := tracks.ordered
        have bounded := tracks.bounded
        rw [same, ← List.append_nil (List.map _ _)] at ordered bounded
        refine ⟨tracks.description, ?_, tracks.started, ordered, bounded⟩
        rw [← tracks.labels, atThreshold]
        simp
      · simp [Monitor.returned, atThreshold]
  case h_2 => exact .inl rfl

/-! ## The whole benchmark -/

namespace Control

def timers : Control → List Int
  | .createStatefulset startTime | .submitCreation startTime | .submitAttachment startTime
  | .deleteStatefulset startTime | .deleteClaims startTime | .submitDetachment startTime =>
      [startTime]
  | _ => []

def unsubmitted : Control → List Phase
  | .makeResultDir | .createNamespace | .startCreationTimer | .createStatefulset _
  | .submitCreation _ => [.creation, .attachment, .detachment]
  | .submitAttachment _ => [.attachment, .detachment]
  | .joinAttach | .startDeletionTimer | .deleteStatefulset _ | .deleteClaims _
  | .submitDetachment _ => [.detachment]
  | _ => []

private theorem unsubmitted_nodup (control : Control) : control.unsubmitted.Nodup := by
  cases control <;> simp [unsubmitted]

def joined : Control → List Phase
  | .startDeletionTimer | .deleteStatefulset _ | .deleteClaims _ | .submitDetachment _
  | .joinDetach => [.creation, .attachment]
  | .deleteNamespace | .finished => [.creation, .attachment, .detachment]
  | _ => []

end Control

/-- The monitors track their phases, and the log holds what they logged, in some
interleaving. -/
structure Coherent (state : State) : Prop where
  tracks : ∀ phase monitor, state.monitor phase = some monitor →
    monitor.Tracks phase state.now
  timers : ∀ startTime ∈ state.control.timers, startTime ≤ state.now
  unsubmitted : ∀ phase ∈ state.control.unsubmitted, state.monitor phase = none
  joined : ∀ phase ∈ state.control.joined, state.returned phase = true
  log : ∃ history, state.log = logFile history ∧
    ∀ phase, entriesOf phase history = state.logged phase

namespace State

private theorem withMonitor_self {state : State} {phase : Phase} {monitor : Monitor}
    (present : state.monitor phase = some monitor) :
    state.withMonitor phase monitor = state := by
  unfold withMonitor
  rw [← present, Function.update_eq_self]

private theorem returned_withMonitor_of_ne (state : State) {phase other : Phase}
    (different : other ≠ phase) (monitor : Monitor) :
    (state.withMonitor phase monitor).returned other = state.returned other := by
  simp [returned, withMonitor, different]

private theorem logged_withMonitor (state : State) (phase other : Phase) (monitor : Monitor) :
    (state.withMonitor phase monitor).logged other =
      if other = phase then monitor.logged else state.logged other := by
  by_cases same : other = phase
  · simp [logged, withMonitor, same]
  · simp [logged, withMonitor, same]

end State

private theorem coherent_start (now : Int) : Coherent (.start now) where
  tracks _ _ present := nomatch present
  timers _ held := nomatch held
  unsubmitted _ _ := rfl
  joined _ past := nomatch past
  log := ⟨[], rfl, fun _ => rfl⟩

namespace Coherent

variable {state : State} {phase : Phase} {monitor : Monitor}

theorem elapse (coherent : Coherent state) (time : Nat) :
    Coherent { state with now := state.now + time } where
  tracks phase monitor present := (coherent.tracks phase monitor present).elapse time
  timers startTime held := (coherent.timers startTime held).trans (by simp)
  unsubmitted := coherent.unsubmitted
  joined := coherent.joined
  log := coherent.log

theorem moveTo (coherent : Coherent state) {next : Control}
    (timers : ∀ startTime ∈ next.timers, startTime ≤ state.now)
    (unsubmitted : next.unsubmitted ⊆ state.control.unsubmitted)
    (joined : ∀ phase ∈ next.joined, state.returned phase = true) :
    Coherent { state with control := next } where
  tracks := coherent.tracks
  timers := timers
  unsubmitted phase member := coherent.unsubmitted phase (unsubmitted member)
  joined := joined
  log := coherent.log

/-- One monitor is replaced.  The history must account for what it has logged. -/
theorem replaceMonitor (coherent : Coherent state) {after : Monitor}
    (tracks : after.Tracks phase state.now)
    (returned : state.returned phase = true → after.returned = true)
    {control : Control} (timers : control.timers ⊆ state.control.timers)
    (unsubmitted : ∀ other ∈ control.unsubmitted,
      other ≠ phase ∧ other ∈ state.control.unsubmitted)
    (joined : control.joined ⊆ state.control.joined) {log : Option Text}
    (history : ∃ history, log = logFile history ∧ ∀ other,
      entriesOf other history = if other = phase then after.logged else state.logged other) :
    Coherent { state.withMonitor phase after with control := control, log := log } where
  tracks other monitor present := by
    by_cases same : other = phase
    · subst same
      have replaced : after = monitor := by simpa [State.withMonitor] using present
      exact replaced ▸ tracks
    · apply coherent.tracks other monitor
      simpa [State.withMonitor, same] using present
  timers startTime held := coherent.timers startTime (timers held)
  unsubmitted other member := by
    obtain ⟨different, before⟩ := unsubmitted other member
    have absent := coherent.unsubmitted other before
    simpa [State.withMonitor, different] using absent
  joined other member := by
    have before := coherent.joined other (joined member)
    by_cases same : other = phase
    · subst same
      simpa [State.returned, State.withMonitor] using returned before
    · exact (state.returned_withMonitor_of_ne same after).trans before
  log := by
    obtain ⟨history, file, own⟩ := history
    exact ⟨history, file, fun other =>
      (own other).trans (state.logged_withMonitor phase other after).symm⟩

theorem ne_of_unsubmitted (coherent : Coherent state)
    (present : state.monitor phase = some monitor) :
    ∀ other ∈ state.control.unsubmitted,
      other ≠ phase ∧ other ∈ state.control.unsubmitted := by
  intro other member
  refine ⟨?_, member⟩
  rintro rfl
  rw [coherent.unsubmitted other member] at present
  exact nomatch present

theorem withMonitor (coherent : Coherent state) (present : state.monitor phase = some monitor)
    {after : Monitor} (tracks : after.Tracks phase state.now)
    (logged : after.logged = monitor.logged)
    (returned : monitor.returned = true → after.returned = true) :
    Coherent (state.withMonitor phase after) := by
  have kept : ∃ history, state.log = logFile history ∧ ∀ other, entriesOf other history =
      if other = phase then after.logged else state.logged other := by
    obtain ⟨history, file, own⟩ := coherent.log
    refine ⟨history, file, fun other => ?_⟩
    rw [own other]
    split
    · next same => rw [same, logged, State.logged, present, Option.elim_some]
    · rfl
  refine coherent.replaceMonitor tracks ?_ (List.Subset.refl _)
    (coherent.ne_of_unsubmitted present) (List.Subset.refl _) kept
  intro before
  apply returned
  simpa [State.returned, present] using before

theorem append (coherent : Coherent state) (present : state.monitor phase = some monitor) :
    Coherent (state.append phase monitor) := by
  unfold State.append
  rcases (coherent.tracks phase monitor present).append_cases with
    unchanged | ⟨label, duration, after, appended, logged, tracks, notReturned⟩
  · rw [unchanged]
    change Coherent (state.withMonitor phase monitor)
    rw [State.withMonitor_self present]
    exact coherent
  · rw [appended]
    refine coherent.replaceMonitor tracks ?_ (List.Subset.refl _)
      (coherent.ne_of_unsubmitted present) (List.Subset.refl _) ?_
    · intro before
      rw [State.returned, present, Option.any_some, notReturned] at before
      exact nomatch before
    · obtain ⟨history, file, own⟩ := coherent.log
      refine ⟨history ++ [(phase, label, duration)], ?_, fun other => ?_⟩
      · rw [logFile_append, file]
      · split
        · next same =>
          rw [same, entriesOf_append_self, own, logged, State.logged, present, Option.elim_some]
        · next different => rw [entriesOf_append_of_ne different, own]

theorem submit (coherent : Coherent state) {current next : Control}
    (control : state.control = current) (diskNumber : Nat) {startTime : Int}
    (held : startTime ∈ current.timers) (timers : next.timers ⊆ current.timers)
    (first : current.unsubmitted = phase :: next.unsubmitted)
    (joined : next.joined ⊆ current.joined) :
    Coherent (state.submit diskNumber phase startTime next) := by
  subst control
  have absent := coherent.unsubmitted phase (first ▸ List.mem_cons_self)
  have unsubmitted : ∀ other ∈ next.unsubmitted,
      other ≠ phase ∧ other ∈ state.control.unsubmitted := by
    intro other later
    have distinct := first ▸ state.control.unsubmitted_nodup
    refine ⟨?_, first ▸ List.mem_cons_of_mem phase later⟩
    rintro rfl
    exact (List.nodup_cons.mp distinct).1 later
  have started := Monitor.tracks_new diskNumber phase (coherent.timers startTime held)
  have kept : ∃ history, state.log = logFile history ∧ ∀ other, entriesOf other history =
      if other = phase then [] else state.logged other := by
    obtain ⟨history, file, own⟩ := coherent.log
    refine ⟨history, file, fun other => ?_⟩
    rw [own other]
    split
    · next same =>
      rw [same, State.logged, absent]
      rfl
    · rfl
  refine coherent.replaceMonitor started ?_ timers unsubmitted joined kept
  intro before
  rw [State.returned, absent] at before
  exact nomatch before

/-- Waiting for the monitors moves on only when all of them have returned. -/
theorem join (coherent : Coherent state) (phases : List Phase) {next : Control}
    (timers : next.timers = []) (unsubmitted : next.unsubmitted ⊆ state.control.unsubmitted)
    (joined : next.joined ⊆ state.control.joined ++ phases) :
    Coherent (state.join phases next) := by
  unfold State.join
  split
  · next returned =>
    refine coherent.moveTo (fun _ held => ?_) unsubmitted fun phase past => ?_
    · rw [timers] at held
      exact nomatch held
    · rcases List.mem_append.mp (joined past) with before | now
      · exact coherent.joined phase before
      · exact List.all_eq_true.mp returned phase now
  · split
    · exact coherent.moveTo (fun _ held => nomatch held) (List.nil_subset _)
        (fun _ past => nomatch past)
    · exact coherent

/-- A statement between two waits may read the clock. -/
theorem moveOn (coherent : Coherent state) {current next : Control}
    (control : state.control = current) (timers : next.timers ⊆ state.now :: current.timers)
    (unsubmitted : next.unsubmitted = current.unsubmitted)
    (joined : next.joined = current.joined) : Coherent { state with control := next } := by
  subst control
  refine coherent.moveTo (fun startTime held => ?_) (unsubmitted ▸ List.Subset.refl _)
    (fun phase past => coherent.joined phase (joined ▸ past))
  rcases List.mem_cons.mp (timers held) with read | before
  · exact le_of_eq read
  · exact coherent.timers startTime before

theorem advance (coherent : Coherent state) (diskNumber : Nat) :
    Coherent (state.advance diskNumber) := by
  unfold State.advance
  cases control : state.control with
  | makeResultDir => exact coherent.moveOn control (List.nil_subset _) rfl rfl
  | createNamespace => exact coherent.moveOn control (List.nil_subset _) rfl rfl
  | startCreationTimer => exact coherent.moveOn control (by simp [Control.timers]) rfl rfl
  | createStatefulset startTime =>
      exact coherent.moveOn control (List.subset_cons_self _ _) rfl rfl
  | submitCreation startTime =>
      exact coherent.submit control diskNumber List.mem_cons_self (List.Subset.refl _) rfl
        (List.Subset.refl _)
  | submitAttachment startTime =>
      exact coherent.submit control diskNumber List.mem_cons_self (List.nil_subset _) rfl
        (List.Subset.refl _)
  | joinAttach =>
      apply coherent.join
      · rfl
      · rw [control]
        exact List.Subset.refl _
      · exact List.subset_append_right _ _
  | startDeletionTimer => exact coherent.moveOn control (by simp [Control.timers]) rfl rfl
  | deleteStatefulset startTime =>
      exact coherent.moveOn control (List.subset_cons_self _ _) rfl rfl
  | deleteClaims startTime =>
      exact coherent.moveOn control (List.subset_cons_self _ _) rfl rfl
  | submitDetachment startTime =>
      exact coherent.submit control diskNumber List.mem_cons_self (List.nil_subset _) rfl
        (List.Subset.refl _)
  | joinDetach =>
      apply coherent.join
      · rfl
      · exact List.nil_subset _
      · rw [control]
        exact List.Subset.refl _
  | deleteNamespace => exact coherent.moveOn control (List.nil_subset _) rfl rfl
  | finished => exact coherent
  | raised => exact coherent

theorem raise (coherent : Coherent state) : Coherent state.raise := by
  unfold State.raise
  split
  · exact coherent
  · exact coherent.moveTo (fun _ held => nomatch held) (List.nil_subset _)
      (fun _ past => nomatch past)

theorem ofMonitor (coherent : Coherent state) (phase : Phase) {step : Monitor → State}
    (kept : ∀ monitor, state.monitor phase = some monitor → Coherent (step monitor)) :
    Coherent ((state.monitor phase).elim state step) := by
  cases present : state.monitor phase with
  | none => exact coherent
  | some monitor => exact kept monitor present

theorem perform (coherent : Coherent state) (diskNumber : Nat) (action : Action) :
    Coherent (action.perform diskNumber state) := by
  cases action with
  | elapse time => exact coherent.elapse time
  | advance => exact coherent.advance diskNumber
  | raise => exact coherent.raise
  | check phase current =>
      apply coherent.ofMonitor
      intro monitor present
      exact coherent.withMonitor present
        ((coherent.tracks phase monitor present).check current) (monitor.logged_check current)
        fun returned => (Monitor.check_of_returned returned current).symm ▸ returned
  | measure phase =>
      apply coherent.ofMonitor
      intro monitor present
      exact coherent.withMonitor present
        (coherent.tracks phase monitor present).measure (monitor.logged_measure state.now)
        fun returned => (Monitor.measure_of_returned returned state.now).symm ▸ returned
  | append phase =>
      apply coherent.ofMonitor
      intro monitor present
      exact coherent.append present
  | monitorRaise phase =>
      apply coherent.ofMonitor
      intro monitor present
      exact coherent.withMonitor present (coherent.tracks phase monitor present).raise
        monitor.logged_raise fun returned => (Monitor.raise_of_returned returned).symm ▸ returned

end Coherent

theorem coherent_executeAttachDetach (diskNumber : Nat) (now : Int) (actions : List Action) :
    Coherent (executeAttachDetach diskNumber now actions) := by
  have kept : ∀ state, Coherent state →
      Coherent (actions.foldl (Action.perform diskNumber) state) := by
    induction actions with
    | nil => exact fun _ coherent => coherent
    | cons action rest induction =>
        intro state coherent
        exact induction _ (coherent.perform diskNumber action)
  exact kept _ (coherent_start now)

/-! ## Reading the log -/

def metricName (phase : Phase) (percentile : Percentile) : Text :=
  match phase with
  | .creation => lit "PV_creation_" ++ percentile.label
  | .attachment => lit "PV_attachment_" ++ percentile.label
  | .detachment => lit "PV_detachment_" ++ percentile.label

def metric (entry : Phase × Text × Int) : Text × Text :=
  (replaceText [' '] ['_'] (entry.1.description ++ lit " " ++ entry.2.1), intText entry.2.2)

private theorem metric_eq (phase : Phase) (percentile : Percentile) (duration : Int) :
    metric (phase, percentile.label, duration) =
      (metricName phase percentile, intText duration) := by
  cases phase <;> cases percentile <;> rfl

theorem intText_plain {n : Int} {c : Char} (member : c ∈ intText n) :
    isSpace c = false ∧ isLineBreak c = false ∧ c ≠ ':' := by
  cases n with
  | ofNat n => exact natText_plain member
  | negSucc n =>
      rcases List.mem_cons.mp member with rfl | digit
      · decide
      · exact natText_plain digit

private theorem parseLine_logLine (metrics : Store Text Text) (phase : Phase)
    (percentile : Percentile)
    (duration : Int) :
    parseLine metrics (logLine (phase, percentile.label, duration)) =
      metrics.put (metric (phase, percentile.label, duration)).1
        (metric (phase, percentile.label, duration)).2 := by
  have colonFree : ':' ∉ phase.description ++ lit " " ++ percentile.label := by
    cases phase <;> cases percentile <;> decide
  have stripped : stripText (phase.description ++ lit " " ++ percentile.label) =
      phase.description ++ lit " " ++ percentile.label := by
    cases phase <;> cases percentile <;> decide
  have line : logLine (phase, percentile.label, duration) =
      (phase.description ++ lit " " ++ percentile.label) ++ ':' :: (' ' :: intText duration) := by
    rw [logLine, List.append_assoc _ (lit ": ")]
    rfl
  have colon : ':' ∈ logLine (phase, percentile.label, duration) := by
    rw [line]
    exact List.mem_append_right _ List.mem_cons_self
  have value : stripText (' ' :: intText duration) = intText duration := by
    rw [stripText_space_cons]
    exact stripText_of_not_space fun c member => (intText_plain member).1
  unfold parseLine
  rw [if_pos colon, line, splitOnce_append colonFree]
  simp only [stripped, value, metric]

private theorem logLine_plain (phase : Phase) (percentile : Percentile) (duration : Int) :
    ∀ c ∈ logLine (phase, percentile.label, duration), isLineBreak c = false := by
  intro c member
  have text : (phase.description ++ lit " " ++ percentile.label ++ lit ": ").all
      (fun c => !isLineBreak c) = true := by
    cases phase <;> cases percentile <;> decide
  rcases List.mem_append.mp member with words | number
  · simpa using List.all_eq_true.mp text c words
  · exact (intText_plain number).2.1

private theorem parseMetrics_log {history : List (Phase × Text × Int)}
    (known : ∀ entry ∈ history, ∃ percentile : Percentile, entry.2.1 = percentile.label) :
    parseMetrics (history.flatMap fun entry => logLine entry ++ ['\n']) =
      Store.empty.putAll (history.map metric) := by
  have lines : splitLines (history.flatMap fun entry => logLine entry ++ ['\n']) =
      history.map logLine := by
    have written : (history.flatMap fun entry => logLine entry ++ ['\n']) =
        (history.map logLine).flatMap fun line => line ++ ['\n'] := by
      rw [List.flatMap_map]
    rw [written]
    apply splitLines_flatMap_newline
    intro line member
    obtain ⟨⟨phase, label, duration⟩, inHistory, rfl⟩ := List.mem_map.mp member
    obtain ⟨percentile, rfl⟩ := known _ inHistory
    exact logLine_plain phase percentile duration
  rw [parseMetrics, lines, Store.putAll, List.foldl_map, List.foldl_map]
  apply List.foldl_ext
  rintro metrics ⟨phase, label, duration⟩ member
  obtain ⟨percentile, rfl⟩ := known _ member
  exact parseLine_logLine metrics phase percentile duration

/-! ## The finished benchmark -/

private theorem exists_durations {logged : List (Text × Int)}
    (labels : logged.map Prod.fst = Percentile.all.map Percentile.label) :
    ∃ duration : Percentile → Int,
      logged = Percentile.all.map fun percentile => (percentile.label, duration percentile) := by
  match logged, labels with
  | [(_, first), (_, second), (_, third), (_, fourth)], labels =>
      refine ⟨fun | .p50 => first | .p90 => second | .p99 => third | .p100 => fourth, ?_⟩
      simp only [Percentile.all, List.map_cons, List.map_nil, List.cons.injEq, and_true] at labels
      obtain ⟨rfl, rfl, rfl, rfl⟩ := labels
      rfl

private theorem Monitor.Tracks.logged_of_returned {phase : Phase} {now : Int} {monitor : Monitor}
    (tracks : monitor.Tracks phase now) (returned : monitor.returned = true) :
    ∃ duration : Percentile → Int,
      monitor.logged = Percentile.all.map (fun percentile =>
        (percentile.label, duration percentile)) ∧
      duration .p50 ≤ duration .p90 ∧ duration .p90 ≤ duration .p99 ∧
        duration .p99 ≤ duration .p100 := by
  obtain ⟨none, checking⟩ := Monitor.returned_iff.mp returned
  have labels := tracks.labels
  rw [none, List.map_nil, List.append_nil] at labels
  obtain ⟨duration, logged⟩ := exists_durations labels
  have ordered : [duration .p50, duration .p90, duration .p99, duration .p100].Pairwise
      (· ≤ ·) := by
    have durations := tracks.ordered
    rw [Monitor.durations, checking, logged] at durations
    exact durations
  obtain ⟨first, ordered⟩ := List.pairwise_cons.mp ordered
  obtain ⟨second, ordered⟩ := List.pairwise_cons.mp ordered
  obtain ⟨third, -⟩ := List.pairwise_cons.mp ordered
  exact ⟨duration, logged, first _ List.mem_cons_self, second _ List.mem_cons_self,
    third _ List.mem_cons_self⟩

/-- The metrics that each phase's own durations make. -/
def expectedMetrics (duration : Phase → Percentile → Int) : List (Text × Text) :=
  Phase.all.flatMap fun phase => Percentile.all.map fun percentile =>
    (metricName phase percentile, intText (duration phase percentile))

private theorem expectedMetrics_distinct (duration : Phase → Percentile → Int) :
    ((expectedMetrics duration).map Prod.fst).Nodup := by
  have names : (expectedMetrics duration).map Prod.fst =
      Phase.all.flatMap fun phase => Percentile.all.map (metricName phase) := rfl
  rw [names]
  decide

/-- However the monitors interleave, a history of complete logs is read as their own
durations. -/
theorem entries_parseMetrics {history : List (Phase × Text × Int)}
    {duration : Phase → Percentile → Int}
    (own : ∀ phase, entriesOf phase history = Percentile.all.map fun percentile =>
      (percentile.label, duration phase percentile)) :
    (parseMetrics (history.flatMap fun entry => logLine entry ++ ['\n'])).entries.Perm
      (expectedMetrics duration) := by
  have known : ∀ entry ∈ history, ∃ percentile : Percentile, entry.2.1 = percentile.label := by
    rintro ⟨phase, entry⟩ member
    rw [← mem_entriesOf, own phase] at member
    obtain ⟨percentile, -, rfl⟩ := List.mem_map.mp member
    exact ⟨percentile, rfl⟩
  have perm : (history.map metric).Perm (expectedMetrics duration) := by
    have sorted := perm_flatMap_entriesOf (by decide) fun entry (_ : entry ∈ history) =>
      Phase.mem_all entry.1
    refine (sorted.map metric).trans (List.Perm.of_eq ?_)
    simp only [own, List.map_flatMap, List.map_map, Function.comp_def, metric_eq, expectedMetrics]
  have distinct : ((history.map metric).map Prod.fst).Nodup :=
    (perm.map Prod.fst).nodup_iff.mpr (expectedMetrics_distinct duration)
  rw [parseMetrics_log known, Store.entries_putAll_of_fresh distinct fun _ _ => rfl]
  exact perm

/-- A benchmark that finishes is collected as exactly the twelve metrics, each with the
duration that the monitor of its phase logged for its percentile, whatever the schedule;
and the durations of a phase grow with the percentile. -/
theorem collected_metrics (diskNumber : Nat) (now : Int) (actions : List Action)
    (args : CollectArgs)
    (finished : (executeAttachDetach diskNumber now actions).control = .finished) :
    ∃ (metrics : Store Text Text) (duration : Phase → Percentile → Int),
      collectAttachDetach args (executeAttachDetach diskNumber now actions).log =
        .ok (args.content metrics) ∧
      (∀ phase, (executeAttachDetach diskNumber now actions).logged phase =
        Percentile.all.map fun percentile => (percentile.label, duration phase percentile)) ∧
      metrics.entries.Perm (expectedMetrics duration) ∧
      ∀ phase, duration phase .p50 ≤ duration phase .p90 ∧
        duration phase .p90 ≤ duration phase .p99 ∧
        duration phase .p99 ≤ duration phase .p100 := by
  have coherent := coherent_executeAttachDetach diskNumber now actions
  have complete : ∀ phase, ∃ duration : Percentile → Int,
      (executeAttachDetach diskNumber now actions).logged phase =
        Percentile.all.map (fun percentile => (percentile.label, duration percentile)) ∧
      duration .p50 ≤ duration .p90 ∧ duration .p90 ≤ duration .p99 ∧
        duration .p99 ≤ duration .p100 := by
    intro phase
    have past : phase ∈ (executeAttachDetach diskNumber now actions).control.joined := by
      rw [finished]
      exact Phase.mem_all phase
    obtain ⟨monitor, present, returned⟩ := (Option.any_eq_true _ _).mp (coherent.joined phase past)
    rw [State.logged, present]
    exact (coherent.tracks phase monitor present).logged_of_returned returned
  choose duration logged ordered using complete
  obtain ⟨history, file, own⟩ := coherent.log
  have nonempty : history ≠ [] := by
    rintro rfl
    exact absurd ((own .creation).trans (logged .creation)) (by simp [entriesOf, Percentile.all])
  rw [logFile, if_neg nonempty] at file
  refine ⟨_, duration, ?_, logged, entries_parseMetrics fun phase =>
    (own phase).trans (logged phase), ordered⟩
  rw [file]
  rfl

/-- A round of the first two monitors, in step. -/
def attachRound : List Action :=
  [.check .attachment 2, .check .creation 0, .check .creation 2, .elapse 700000,
    .measure .creation, .elapse 400000, .measure .attachment, .append .attachment,
    .append .creation]

def detachRound : List Action :=
  [.check .detachment 0, .elapse 1300000, .measure .detachment, .append .detachment]

def twoDisksSchedule : List Action :=
  List.flatten
    [List.replicate 6 .advance, (List.replicate 4 attachRound).flatten,
      List.replicate 5 .advance, (List.replicate 4 detachRound).flatten,
      List.replicate 2 .advance]

def twoDisksArgs : CollectArgs :=
  ⟨lit "2024-01-01T12:00:00Z", lit "case", 1, 2, lit "default", lit "azure", lit "1", []⟩

theorem two_disks_collected :
    (executeAttachDetach 2 0 twoDisksSchedule).control = .finished ∧
      ∃ metrics : Store Text Text,
        collectAttachDetach twoDisksArgs (executeAttachDetach 2 0 twoDisksSchedule).log =
          .ok (twoDisksArgs.content metrics) ∧
        metrics.entries.length = 12 := by
  have finished : (executeAttachDetach 2 0 twoDisksSchedule).control = .finished := by
    decide +kernel
  obtain ⟨metrics, duration, collected, -, perm, -⟩ :=
    collected_metrics 2 0 twoDisksSchedule twoDisksArgs finished
  exact ⟨finished, metrics, collected, perm.length_eq⟩

end Telescope.Csi
