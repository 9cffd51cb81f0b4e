import Telescope.Data.Exception
import Telescope.Data.Polling
import Telescope.Text.Edit

namespace Telescope.Provisioning

open Telescope

/-! `begin_create_or_update_with_retry` (`utils/provisioning_instrumentation.py`): an
update is begun, polled and read, and begun again after some of the errors.  The answers
of the Azure SDK are inputs; its calls take no time. -/

/-- Exceptions by class: an `HttpResponseError` is known by its text `str(e)`. -/
inductive ArmError where
  | http (text : Text)
  | timeout (message : Text)
  | other (error : Error)

/-- The errors after which another attempt is made, if one is left. -/
def ArmError.IsRetryable : ArmError → Prop
  | .http text =>
      containsText (lit "OperationNotAllowed") text = true ∨
        containsText (lit "EtagMismatch") text = true
  | .timeout _ => False
  | .other _ => False

instance (error : ArmError) : Decidable error.IsRetryable := by
  cases error with
  | http text => exact inferInstanceAs (Decidable (_ ∨ _))
  | timeout message => exact inferInstanceAs (Decidable False)
  | other error => exact inferInstanceAs (Decidable False)

/-- `timeoutText` is what the timeout looks like in a message. -/
structure RetryArgs where
  nodePoolName : Text
  label : Text
  retries : Nat
  retryWait : ℚ
  pollInterval : ℚ
  timeout : ℚ
  timeoutText : Text

def RetryArgs.timeoutError (args : RetryArgs) : ArmError :=
  .timeout (lit "Node pool " ++ args.nodePoolName ++ lit " " ++ args.label ++
    lit "timed out after " ++ args.timeoutText ++ lit "s")

def negativeSleep : ArmError := .other (.valueError (lit "sleep length must be non-negative"))

/-- What the SDK answers in one attempt: to the begin call, to each `done()` in turn, and
to `result()`. -/
structure UpdateAnswers where
  begin : Except ArmError Unit
  done : Nat → Except ArmError Bool
  result : Except ArmError Unit

/-- How an attempt went: the number of its `done()` calls, whether the last of them
reported completion, and how the attempt ended. -/
structure AttemptRecord where
  polls : Nat
  reportedDone : Bool
  outcome : Except ArmError Unit

def pollLoop (args : RetryArgs) (answers : UpdateAnswers) :
    Nat → Nat → ℚ → Option AttemptRecord
  | 0, _, _ => none
  | fuel + 1, polls, elapsed =>
      match answers.done polls with
      | .error error => some ⟨polls + 1, false, .error error⟩
      | .ok true => some ⟨polls + 1, true, answers.result⟩
      | .ok false =>
          if args.pollInterval < 0 then some ⟨polls + 1, false, .error negativeSleep⟩
          else if args.timeout ≤ elapsed + args.pollInterval then
            some ⟨polls + 1, false, .error args.timeoutError⟩
          else pollLoop args answers fuel (polls + 1) (elapsed + args.pollInterval)

/-- The body of the `try`. -/
def runAttempt (args : RetryArgs) (fuel : Nat) (answers : UpdateAnswers) :
    Option AttemptRecord :=
  match answers.begin with
  | .error error => some ⟨0, false, .error error⟩
  | .ok () => pollLoop args answers fuel 0 0

inductive RetryExit where
  | returned (retryOccurred : Bool)
  | raised (error : ArmError)
  | fellThrough (retryOccurred : Bool)

/-- All attempts in order, and how the function ended. -/
structure RetryHistory where
  attempts : List AttemptRecord
  exit : RetryExit

def RetryHistory.prepend (record : AttemptRecord) (history : RetryHistory) : RetryHistory :=
  { history with attempts := record :: history.attempts }

/-- `for attempt in range(retries)` from `attempt` on, with `left` attempts to go. -/
def retryLoop (args : RetryArgs) (world : Nat → UpdateAnswers) (fuel : Nat) :
    Nat → Nat → Bool → Option RetryHistory
  | 0, _, retryOccurred => some ⟨[], .fellThrough retryOccurred⟩
  | left + 1, attempt, retryOccurred =>
      match runAttempt args fuel (world attempt) with
      | none => none
      | some record =>
          match record.outcome with
          | .ok () => some ⟨[record], .returned retryOccurred⟩
          | .error error =>
              if error.IsRetryable ∧ attempt + 1 < args.retries then
                if args.retryWait < 0 then some ⟨[record], .raised negativeSleep⟩
                else
                  (retryLoop args world fuel left (attempt + 1) true).map
                    (RetryHistory.prepend record)
              else some ⟨[record], .raised error⟩

def beginCreateOrUpdateWithRetry (args : RetryArgs) (world : Nat → UpdateAnswers)
    (fuel : Nat) : Option RetryHistory :=
  retryLoop args world fuel args.retries 0 false

/-! Attempts without fuel. -/

/-- The polls before this one found the update in progress, and each pause after them
ended before the timeout. -/
def Waited (args : RetryArgs) (answers : UpdateAnswers) (polls : Nat) : Prop :=
  ∀ earlier < polls, answers.done earlier = .ok false ∧ 0 ≤ args.pollInterval ∧
    (earlier + 1 : ℕ) * args.pollInterval < args.timeout

inductive AttemptEnds (args : RetryArgs) (answers : UpdateAnswers) : AttemptRecord → Prop
  | rejected {error : ArmError} (rejects : answers.begin = .error error) :
      AttemptEnds args answers ⟨0, false, .error error⟩
  | pollRaised {polls : Nat} {error : ArmError} (accepts : answers.begin = .ok ())
      (waited : Waited args answers polls) (raises : answers.done polls = .error error) :
      AttemptEnds args answers ⟨polls + 1, false, .error error⟩
  | completed {polls : Nat} (accepts : answers.begin = .ok ())
      (waited : Waited args answers polls) (isDone : answers.done polls = .ok true) :
      AttemptEnds args answers ⟨polls + 1, true, answers.result⟩
  | sleepRaised {polls : Nat} (accepts : answers.begin = .ok ())
      (waited : Waited args answers polls) (pending : answers.done polls = .ok false)
      (negative : args.pollInterval < 0) :
      AttemptEnds args answers ⟨polls + 1, false, .error negativeSleep⟩
  | timedOut {polls : Nat} (accepts : answers.begin = .ok ())
      (waited : Waited args answers polls) (pending : answers.done polls = .ok false)
      (pauses : 0 ≤ args.pollInterval)
      (late : args.timeout ≤ (polls + 1 : ℕ) * args.pollInterval) :
      AttemptEnds args answers ⟨polls + 1, false, .error args.timeoutError⟩

section Attempt

variable {args : RetryArgs} {answers : UpdateAnswers}

theorem Waited.succ {polls : Nat} (waited : Waited args answers polls)
    (pending : answers.done polls = .ok false) (pauses : 0 ≤ args.pollInterval)
    (early : (polls + 1 : ℕ) * args.pollInterval < args.timeout) :
    Waited args answers (polls + 1) :=
  Nat.forall_lt_succ_right.mpr ⟨waited, pending, pauses, early⟩

theorem elapsed_succ (polls : Nat) (pause : ℚ) :
    polls * pause + pause = (polls + 1 : ℕ) * pause := by
  push_cast
  ring

private theorem attemptEnds_of_pollLoop {fuel polls : Nat} {record : AttemptRecord}
    (accepts : answers.begin = .ok ()) (waited : Waited args answers polls)
    (ran : pollLoop args answers fuel polls (polls * args.pollInterval) = some record) :
    AttemptEnds args answers record := by
  induction fuel generalizing polls with
  | zero => exact nomatch ran
  | succ fuel induction =>
      rw [pollLoop, elapsed_succ] at ran
      cases answered : answers.done polls with
      | error error =>
          rw [answered] at ran
          cases ran
          exact .pollRaised accepts waited answered
      | ok isDone =>
          rw [answered] at ran
          cases isDone with
          | true =>
              cases ran
              exact .completed accepts waited answered
          | false =>
              cases lt_or_ge args.pollInterval 0 with
              | inl negative =>
                  simp only [if_pos negative, Option.some.injEq] at ran
                  exact ran ▸ .sleepRaised accepts waited answered negative
              | inr pauses =>
                  simp only [if_neg (not_lt.mpr pauses)] at ran
                  cases le_or_gt args.timeout ((polls + 1 : ℕ) * args.pollInterval) with
                  | inl late =>
                      simp only [if_pos late, Option.some.injEq] at ran
                      exact ran ▸ .timedOut accepts waited answered pauses late
                  | inr early =>
                      simp only [if_neg (not_le.mpr early)] at ran
                      exact induction (waited.succ answered pauses early) ran

theorem attemptEnds_of_runAttempt {fuel : Nat} {record : AttemptRecord}
    (ran : runAttempt args fuel answers = some record) : AttemptEnds args answers record := by
  unfold runAttempt at ran
  cases begun : answers.begin with
  | error error =>
      rw [begun] at ran
      cases ran
      exact .rejected begun
  | ok accepted =>
      rw [begun] at ran
      have waited : Waited args answers 0 := fun _ below => absurd below (Nat.not_lt_zero _)
      apply attemptEnds_of_pollLoop begun waited
      simpa using ran

private theorem pollLoop_of_waited {polls : Nat} (waited : Waited args answers polls) (fuel : Nat) :
    pollLoop args answers (fuel + polls) 0 0 =
      pollLoop args answers fuel polls (polls * args.pollInterval) := by
  induction polls generalizing fuel with
  | zero => simp
  | succ polls induction =>
      obtain ⟨pending, pauses, early⟩ := waited polls (Nat.lt_succ_self polls)
      have before := induction (fun earlier below => waited earlier (Nat.lt_succ_of_lt below))
        (fuel + 1)
      rw [show fuel + (polls + 1) = fuel + 1 + polls by omega, before, pollLoop, pending,
        elapsed_succ]
      simp only [if_neg (not_lt.mpr pauses), if_neg (not_le.mpr early)]

theorem runAttempt_of_attemptEnds {record : AttemptRecord}
    (ends : AttemptEnds args answers record) {fuel : Nat} (enough : record.polls ≤ fuel) :
    runAttempt args fuel answers = some record := by
  have reach {polls : Nat} (accepts : answers.begin = .ok ())
      (waited : Waited args answers polls) (above : polls + 1 ≤ fuel) :
      ∃ left, runAttempt args fuel answers =
        pollLoop args answers (left + 1) polls (polls * args.pollInterval) := by
    obtain ⟨left, rfl⟩ := Nat.exists_eq_add_of_le above
    refine ⟨left, ?_⟩
    rw [runAttempt, accepts, show polls + 1 + left = left + 1 + polls by omega]
    exact pollLoop_of_waited waited (left + 1)
  cases ends with
  | rejected rejects => rw [runAttempt, rejects]
  | pollRaised accepts waited raises =>
      obtain ⟨left, ran⟩ := reach accepts waited enough
      rw [ran, pollLoop, raises]
  | completed accepts waited isDone =>
      obtain ⟨left, ran⟩ := reach accepts waited enough
      rw [ran, pollLoop, isDone]
  | sleepRaised accepts waited pending negative =>
      obtain ⟨left, ran⟩ := reach accepts waited enough
      rw [ran, pollLoop, pending]
      simp only [if_pos negative]
  | timedOut accepts waited pending pauses late =>
      obtain ⟨left, ran⟩ := reach accepts waited enough
      rw [ran, pollLoop, pending, elapsed_succ]
      simp only [if_neg (not_lt.mpr pauses), if_pos late]

/-- Polling without a pause goes on for as long as the update is in progress. -/
def Settles (args : RetryArgs) (answers : UpdateAnswers) : Prop :=
  args.pollInterval = 0 → 0 < args.timeout → ∃ poll, answers.done poll ≠ .ok false

theorem exists_attemptEnds (settles : Settles args answers) :
    ∃ record, AttemptEnds args answers record := by
  have stops : ∃ poll : ℕ, answers.done poll ≠ .ok false ∨ args.pollInterval < 0 ∨
      args.timeout ≤ (poll + 1 : ℕ) * args.pollInterval := by
    rcases lt_trichotomy args.pollInterval 0 with negative | zero | positive
    · exact ⟨0, .inr (.inl negative)⟩
    · cases le_or_gt args.timeout 0 with
      | inl late => exact ⟨0, .inr (.inr (by simpa [zero] using late))⟩
      | inr early =>
          obtain ⟨poll, answered⟩ := settles zero early
          exact ⟨poll, .inl answered⟩
    · obtain ⟨poll, large⟩ := Archimedean.arch args.timeout positive
      refine ⟨poll, .inr (.inr (large.trans ?_))⟩
      rw [nsmul_eq_mul]
      exact mul_le_mul_of_nonneg_right (by norm_cast; omega) positive.le
  obtain ⟨poll, stopsHere⟩ := stops
  obtain ⟨first, -, stop, earliest⟩ := exists_first (fun poll : ℕ =>
    answers.done poll ≠ .ok false ∨ args.pollInterval < 0 ∨
      args.timeout ≤ (poll + 1 : ℕ) * args.pollInterval) stopsHere
  have waited : Waited args answers first := by
    intro earlier below
    have continues := earliest earlier below
    rw [not_or, not_or, not_not, not_lt, not_le] at continues
    exact continues
  cases begun : answers.begin with
  | error error => exact ⟨_, .rejected begun⟩
  | ok accepted =>
      cases answered : answers.done first with
      | error error => exact ⟨_, .pollRaised begun waited answered⟩
      | ok isDone =>
          cases isDone with
          | true => exact ⟨_, .completed begun waited answered⟩
          | false =>
              cases lt_or_ge args.pollInterval 0 with
              | inl negative => exact ⟨_, .sleepRaised begun waited answered negative⟩
              | inr pauses =>
                  have late : args.timeout ≤ (first + 1 : ℕ) * args.pollInterval := by
                    rcases stop with other | negative | late
                    · exact absurd answered other
                    · exact absurd negative (not_lt.mpr pauses)
                    · exact late
                  exact ⟨_, .timedOut begun waited answered pauses late⟩

theorem AttemptEnds.unique {first second : AttemptRecord}
    (firstEnds : AttemptEnds args answers first) (secondEnds : AttemptEnds args answers second) :
    first = second := by
  have ran := runAttempt_of_attemptEnds firstEnds (Nat.le_max_left first.polls second.polls)
  rw [runAttempt_of_attemptEnds secondEnds (Nat.le_max_right _ _)] at ran
  exact (Option.some.inj ran).symm

theorem AttemptEnds.outcome_ok_iff {record : AttemptRecord}
    (ends : AttemptEnds args answers record) :
    record.outcome = .ok () ↔ record.reportedDone = true ∧ answers.result = .ok () := by
  cases ends with
  | completed accepts waited isDone => simp
  | rejected rejects => simp
  | pollRaised accepts waited raises => simp
  | sleepRaised accepts waited pending negative => simp
  | timedOut accepts waited pending pauses late => simp

end Attempt

/-! The retries. -/

def AttemptRecord.RejectedRetryably (record : AttemptRecord) : Prop :=
  ∃ error, record.outcome = .error error ∧ error.IsRetryable

/-- What the attempts from number `first` on are, and how the call ends: `earlier` are
those before the `last` one, and `retried` tells whether `first` is itself a retry. -/
structure RetryProtocol (args : RetryArgs) (world : Nat → UpdateAnswers) (first : Nat)
    (retried : Bool) (earlier : List AttemptRecord) (last : AttemptRecord)
    (exit : RetryExit) : Prop where
  bounded : first + earlier.length + 1 ≤ args.retries
  recorded : ∀ index record, (earlier ++ [last])[index]? = some record →
    AttemptEnds args (world (first + index)) record
  rejected : ∀ record ∈ earlier, record.RejectedRetryably
  returns : (∃ flag, exit = .returned flag) ↔
    last.reportedDone = true ∧ (world (first + earlier.length)).result = .ok ()
  flag : ∀ flag, exit = .returned flag →
    (flag = true ↔ retried = true ∨ ∃ record ∈ earlier, record.RejectedRetryably)
  propagates : ∀ error, last.outcome = .error error →
    ¬ error.IsRetryable ∨ first + earlier.length + 1 = args.retries → exit = .raised error
  raises : ∀ error, exit = .raised error →
    last.outcome = .error error ∨ error = negativeSleep ∧ args.retryWait < 0
  reached : ∀ flag, exit ≠ .fellThrough flag

section Protocol

variable {args : RetryArgs} {world : Nat → UpdateAnswers} {first : Nat} {retried : Bool}

theorem recorded_singleton {record : AttemptRecord}
    (ends : AttemptEnds args (world first) record) :
    ∀ index other, ([] ++ [record])[index]? = some other →
      AttemptEnds args (world (first + index)) other := by
  intro index other found
  cases index with
  | zero => exact Option.some.inj found ▸ ends
  | succ index => exact nomatch found

private theorem RetryProtocol.of_ok {record : AttemptRecord} (bounded : first + 1 ≤ args.retries)
    (ends : AttemptEnds args (world first) record) (returned : record.outcome = .ok ()) :
    RetryProtocol args world first retried [] record (.returned retried) where
  bounded := bounded
  recorded := recorded_singleton ends
  rejected := fun _ member => absurd member List.not_mem_nil
  returns := ⟨fun _ => ends.outcome_ok_iff.mp returned, fun _ => ⟨retried, rfl⟩⟩
  flag := by
    intro flag same
    cases same
    simp
  propagates := by
    intro error raised
    rw [returned] at raised
    exact nomatch raised
  raises := fun _ same => nomatch same
  reached := fun _ same => nomatch same

/-- A call that ends with an exception in its first attempt: that of the attempt, or the
one that the pause before the next attempt raises. -/
theorem RetryProtocol.of_error {record : AttemptRecord} {error raised : ArmError}
    (bounded : first + 1 ≤ args.retries) (ends : AttemptEnds args (world first) record)
    (failed : record.outcome = .error error)
    (unchanged : ¬ error.IsRetryable ∨ first + 1 = args.retries → raised = error)
    (raises : raised = error ∨ raised = negativeSleep ∧ args.retryWait < 0) :
    RetryProtocol args world first retried [] record (.raised raised) where
  bounded := bounded
  recorded := recorded_singleton ends
  rejected := fun _ member => absurd member List.not_mem_nil
  returns := by
    rw [List.length_nil, Nat.add_zero, ← ends.outcome_ok_iff, failed]
    simp
  flag := fun _ same => nomatch same
  propagates := by
    intro other same last
    rw [failed] at same
    cases same
    rw [unchanged last]
  raises := by
    intro other same
    cases same
    rw [failed]
    exact raises.imp (congrArg _ ∘ Eq.symm) id
  reached := fun _ same => nomatch same

theorem RetryProtocol.prepend {record last : AttemptRecord} {earlier : List AttemptRecord}
    {exit : RetryExit} (ends : AttemptEnds args (world first) record)
    (rejected : record.RejectedRetryably)
    (later : RetryProtocol args world (first + 1) true earlier last exit) :
    RetryProtocol args world first retried (record :: earlier) last exit := by
  have place : first + (record :: earlier).length = first + 1 + earlier.length := by
    rw [List.length_cons]
    omega
  constructor
  · rw [place]
    exact later.bounded
  · intro index other found
    cases index with
    | zero => exact Option.some.inj found ▸ ends
    | succ index =>
        rw [show first + (index + 1) = first + 1 + index by omega]
        exact later.recorded index other found
  · exact List.forall_mem_cons.mpr ⟨rejected, later.rejected⟩
  · rw [place]
    exact later.returns
  · intro flag same
    have isTrue := (later.flag flag same).mpr (.inl rfl)
    exact iff_of_true isTrue (.inr ⟨record, List.mem_cons_self, rejected⟩)
  · rw [place]
    exact later.propagates
  · exact later.raises
  · exact later.reached

/-- The loop with at least one attempt to go ends inside an attempt. -/
theorem retryProtocol_of_retryLoop {fuel left : Nat} {history : RetryHistory}
    (total : first + left = args.retries) (some : 0 < left)
    (ran : retryLoop args world fuel left first retried = .some history) :
    ∃ earlier last, history.attempts = earlier ++ [last] ∧
      RetryProtocol args world first retried earlier last history.exit := by
  induction left generalizing first retried history with
  | zero => exact absurd some (Nat.lt_irrefl 0)
  | succ left induction =>
      rw [retryLoop] at ran
      cases attempted : runAttempt args fuel (world first) with
      | none =>
          rw [attempted] at ran
          exact nomatch ran
      | some record =>
          have ends := attemptEnds_of_runAttempt attempted
          simp only [attempted] at ran
          cases outcome : record.outcome with
          | ok accepted =>
              simp only [outcome, Option.some.injEq] at ran
              subst ran
              exact ⟨[], record, rfl, .of_ok (by omega) ends outcome⟩
          | error error =>
              simp only [outcome] at ran
              cases Decidable.em (error.IsRetryable ∧ first + 1 < args.retries) with
              | inr final =>
                  rw [if_neg final] at ran
                  cases ran
                  exact ⟨[], record, rfl,
                    .of_error (by omega) ends outcome (fun _ => rfl) (.inl rfl)⟩
              | inl again =>
                  rw [if_pos again] at ran
                  cases lt_or_ge args.retryWait 0 with
                  | inl negative =>
                      rw [if_pos negative] at ran
                      cases ran
                      refine ⟨[], record, rfl, .of_error (by omega) ends outcome ?_
                        (.inr ⟨rfl, negative⟩)⟩
                      intro last
                      rcases last with fatal | last
                      · exact absurd again.1 fatal
                      · exact absurd last (Nat.ne_of_lt again.2)
                  | inr waits =>
                      rw [if_neg (not_lt.mpr waits)] at ran
                      obtain ⟨later, continued, rfl⟩ := Option.map_eq_some_iff.mp ran
                      obtain ⟨earlier, last, attempts, protocol⟩ :=
                        induction (by omega) (by omega) continued
                      refine ⟨record :: earlier, last, ?_,
                        .prepend ends ⟨error, outcome, again.1⟩ protocol⟩
                      exact congrArg (record :: ·) attempts

/-- Every attempt that settles ends, so the loop does. -/
theorem exists_retryLoop (settles : ∀ attempt, Settles args (world attempt)) (left first : Nat)
    (retried : Bool) :
    ∃ bound, ∀ fuel, bound ≤ fuel →
      ∃ history, retryLoop args world fuel left first retried = some history := by
  induction left generalizing first retried with
  | zero => exact ⟨0, fun _ _ => ⟨_, rfl⟩⟩
  | succ left induction =>
      obtain ⟨record, ends⟩ := exists_attemptEnds (settles first)
      obtain ⟨bound, returns⟩ := induction (first + 1) true
      refine ⟨max record.polls bound, ?_⟩
      intro fuel enough
      have attempted := runAttempt_of_attemptEnds ends ((le_max_left _ _).trans enough)
      obtain ⟨later, continued⟩ := returns fuel ((le_max_right _ _).trans enough)
      rw [retryLoop, attempted]
      cases outcome : record.outcome with
      | ok accepted =>
          simp only [outcome]
          exact ⟨_, rfl⟩
      | error error =>
          simp only [outcome, continued, Option.map_some]
          split
          · split
            · exact ⟨_, rfl⟩
            · exact ⟨_, rfl⟩
          · exact ⟨_, rfl⟩

end Protocol

/-- Every call that may make an attempt keeps to the retry protocol, and it ends unless
an update without pauses between its polls stays in progress for ever. -/
theorem retry_protocol (args : RetryArgs) (world : Nat → UpdateAnswers)
    (positive : 1 ≤ args.retries) :
    (∀ fuel history, beginCreateOrUpdateWithRetry args world fuel = some history →
      ∃ earlier last, history.attempts = earlier ++ [last] ∧
        RetryProtocol args world 0 false earlier last history.exit) ∧
    ((∀ attempt, Settles args (world attempt)) →
      ∃ fuel history, beginCreateOrUpdateWithRetry args world fuel = some history) := by
  constructor
  · intro fuel history ran
    exact retryProtocol_of_retryLoop (Nat.zero_add _) positive ran
  · intro settles
    obtain ⟨bound, returns⟩ := exists_retryLoop settles args.retries 0 false
    obtain ⟨history, ran⟩ := returns bound (Nat.le_refl bound)
    exact ⟨bound, history, ran⟩

/-- An update that is rejected once because another one is in progress. -/
def rejectedOnce : Nat → UpdateAnswers
  | 0 => ⟨.error (.http (lit "OperationNotAllowed")), fun _ => .ok false, .ok ()⟩
  | _ + 1 => ⟨.ok (), fun _ => .ok true, .ok ()⟩

def defaultArgs (nodePoolName : Text) : RetryArgs where
  nodePoolName := nodePoolName
  label := []
  retries := 10
  retryWait := 30
  pollInterval := 30
  timeout := 1800
  timeoutText := lit "1800"

theorem retry_protocol_rejectedOnce :
    ∃ fuel history earlier last,
      beginCreateOrUpdateWithRetry (defaultArgs (lit "user")) rejectedOnce fuel = some history ∧
        history.attempts = earlier ++ [last] ∧
        RetryProtocol (defaultArgs (lit "user")) rejectedOnce 0 false earlier last
          history.exit := by
  have pauses : (defaultArgs (lit "user")).pollInterval ≠ 0 := by
    change (30 : ℚ) ≠ 0
    norm_num
  obtain ⟨keeps, ends⟩ := retry_protocol (defaultArgs (lit "user")) rejectedOnce (by decide)
  obtain ⟨fuel, history, ran⟩ := ends fun _ zero => absurd zero pauses
  obtain ⟨earlier, last, attempts, protocol⟩ := keeps fuel history ran
  exact ⟨fuel, history, earlier, last, ran, attempts, protocol⟩

/-! Completions close to the timeout.  Time is the sum of the pauses, so poll number `n`
happens at `n * pollInterval`. -/

/-- The answers to an update that is accepted and becomes done at a time. -/
def completesAt (pollInterval doneTime : ℚ) (result : Except ArmError Unit) :
    UpdateAnswers where
  begin := .ok ()
  done := fun poll => .ok (decide (doneTime ≤ poll * pollInterval))
  result := result

/-- The attempt reads the result of the update. -/
def Consumes (args : RetryArgs) (answers : UpdateAnswers) : Prop :=
  ∃ fuel record, runAttempt args fuel answers = some record ∧ record.reportedDone = true ∧
    record.outcome = answers.result

def TimesOut (args : RetryArgs) (answers : UpdateAnswers) : Prop :=
  ∃ fuel record, runAttempt args fuel answers = some record ∧
    record.outcome = .error args.timeoutError ∧ record.reportedDone = false

section Timeout

variable (args : RetryArgs) (doneTime : ℚ) (result : Except ArmError Unit)

/-- The number of the first poll at or after the completion. -/
def firstPollAfter (pollInterval doneTime : ℚ) : ℕ := ⌈doneTime / pollInterval⌉₊

private theorem doneTime_le_iff (positive : 0 < args.pollInterval) (poll : ℕ) :
    doneTime ≤ poll * args.pollInterval ↔ firstPollAfter args.pollInterval doneTime ≤ poll := by
  rw [firstPollAfter, Nat.ceil_le, div_le_iff₀ positive]

theorem done_completesAt (positive : 0 < args.pollInterval) (poll : ℕ) :
    (completesAt args.pollInterval doneTime result).done poll =
      .ok (decide (firstPollAfter args.pollInterval doneTime ≤ poll)) := by
  simp only [completesAt, doneTime_le_iff args doneTime positive]

theorem consumes_iff (positive : 0 < args.pollInterval) (limit : 0 < args.timeout) :
    Consumes args (completesAt args.pollInterval doneTime result) ↔
      firstPollAfter args.pollInterval doneTime * args.pollInterval < args.timeout := by
  have answered := done_completesAt args doneTime result positive
  constructor
  · intro consumes
    obtain ⟨fuel, record, ran, reported, -⟩ := consumes
    cases attemptEnds_of_runAttempt ran with
    | @completed poll accepts waited isDone =>
        have reached : firstPollAfter args.pollInterval doneTime ≤ poll := by
          rw [answered, Except.ok.injEq, decide_eq_true_eq] at isDone
          exact isDone
        have sooner : (firstPollAfter args.pollInterval doneTime : ℚ) * args.pollInterval ≤
            poll * args.pollInterval :=
          mul_le_mul_of_nonneg_right (by exact_mod_cast reached) positive.le
        cases poll with
        | zero => exact sooner.trans_lt (by simpa using limit)
        | succ poll => exact sooner.trans_lt (waited poll (Nat.lt_succ_self poll)).2.2
    | rejected rejects => exact nomatch reported
    | pollRaised accepts waited raises => exact nomatch reported
    | sleepRaised accepts waited pending negative => exact nomatch reported
    | timedOut accepts waited pending pauses late => exact nomatch reported
  · intro early
    have waited : Waited args (completesAt args.pollInterval doneTime result)
        (firstPollAfter args.pollInterval doneTime) := by
      intro earlier below
      refine ⟨?_, positive.le, lt_of_le_of_lt ?_ early⟩
      · rw [answered, decide_eq_false (Nat.not_le.mpr below)]
      · exact mul_le_mul_of_nonneg_right (by exact_mod_cast below) positive.le
    have isDone := answered (firstPollAfter args.pollInterval doneTime)
    rw [decide_eq_true (Nat.le_refl _)] at isDone
    have ends := AttemptEnds.completed rfl waited isDone
    exact ⟨_, _, runAttempt_of_attemptEnds ends (Nat.le_refl _), rfl, rfl⟩

theorem timesOut_of_not_consumes (positive : 0 < args.pollInterval)
    (misses : ¬ Consumes args (completesAt args.pollInterval doneTime result)) :
    TimesOut args (completesAt args.pollInterval doneTime result) := by
  have answered := done_completesAt args doneTime result positive
  have settles : Settles args (completesAt args.pollInterval doneTime result) :=
    fun zero => absurd zero positive.ne'
  obtain ⟨record, ends⟩ := exists_attemptEnds settles
  have ran := runAttempt_of_attemptEnds ends (Nat.le_refl _)
  cases ends with
  | rejected rejects => exact nomatch rejects
  | pollRaised accepts waited raises =>
      rw [answered] at raises
      exact nomatch raises
  | completed accepts waited isDone => exact absurd ⟨_, _, ran, rfl, rfl⟩ misses
  | sleepRaised accepts waited pending negative => exact absurd negative positive.not_gt
  | timedOut accepts waited pending pauses late => exact ⟨_, _, ran, rfl, rfl⟩

private theorem not_timesOut_of_consumes {answers : UpdateAnswers}
    (consumes : Consumes args answers) :
    ¬ TimesOut args answers := by
  intro timesOut
  obtain ⟨fuel, record, ran, reported, -⟩ := consumes
  obtain ⟨otherFuel, other, otherRan, -, unreported⟩ := timesOut
  rw [(attemptEnds_of_runAttempt ran).unique (attemptEnds_of_runAttempt otherRan),
    unreported] at reported
  exact nomatch reported

/-- A completion is seen exactly if the first poll at or after it comes before the
timeout; otherwise the attempt times out, however early the update was done. -/
theorem no_false_timeout_iff (positive : 0 < args.pollInterval) (limit : 0 < args.timeout) :
    (Consumes args (completesAt args.pollInterval doneTime result) ∧
        ¬ TimesOut args (completesAt args.pollInterval doneTime result) ↔
      firstPollAfter args.pollInterval doneTime * args.pollInterval < args.timeout) ∧
    (¬ Consumes args (completesAt args.pollInterval doneTime result) →
      TimesOut args (completesAt args.pollInterval doneTime result)) := by
  refine ⟨?_, timesOut_of_not_consumes args doneTime result positive⟩
  rw [← consumes_iff args doneTime result positive limit]
  exact ⟨And.left, fun consumes => ⟨consumes, not_timesOut_of_consumes args consumes⟩⟩

end Timeout

theorem defaultArgs_pauses (nodePoolName : Text) :
    (defaultArgs nodePoolName).pollInterval = 30 ∧ (defaultArgs nodePoolName).timeout = 1800 :=
  ⟨rfl, rfl⟩

theorem no_false_timeout_early :
    Consumes (defaultArgs (lit "user")) (completesAt 30 1700 (.ok ())) := by
  obtain ⟨pauses, limit⟩ := defaultArgs_pauses (lit "user")
  have first : firstPollAfter 30 1700 = 57 := by
    rw [firstPollAfter, Nat.ceil_eq_iff (by decide)]
    norm_num
  have iff := no_false_timeout_iff (defaultArgs (lit "user")) 1700 (.ok ())
    (by rw [pauses]; norm_num) (by rw [limit]; norm_num)
  rw [pauses, limit, first] at iff
  exact (iff.1.mpr (by norm_num)).1

/-- With the default interval and timeout, an update done at 1795 s times out. -/
theorem timesOut_at_1795 :
    (1795 : ℚ) < (defaultArgs (lit "user")).timeout ∧
      TimesOut (defaultArgs (lit "user")) (completesAt 30 1795 (.ok ())) ∧
      ¬ Consumes (defaultArgs (lit "user")) (completesAt 30 1795 (.ok ())) := by
  obtain ⟨pauses, limit⟩ := defaultArgs_pauses (lit "user")
  have positive : 0 < (defaultArgs (lit "user")).pollInterval := by
    rw [pauses]
    norm_num
  have first : firstPollAfter 30 1795 = 60 := by
    rw [firstPollAfter, Nat.ceil_eq_iff (by decide)]
    norm_num
  have iff := consumes_iff _ 1795 (.ok ()) positive (by rw [limit]; norm_num)
  have times := timesOut_of_not_consumes _ 1795 (.ok ()) positive
  rw [pauses, limit, first] at iff
  rw [pauses] at times
  have misses := mt iff.mp (by norm_num)
  exact ⟨by rw [limit]; norm_num, times misses, misses⟩

end Telescope.Provisioning
