import Telescope.Utils.Retries

namespace Telescope

universe u

/-! Pre- and postconditions of programs that change a state and may raise.  A raising
program keeps the changes it made. -/

section Contract

variable {ε σ α β : Type u}

/-- From a state that satisfies `pre`, the program returns with `post` or raises with
`raised`. -/
def Meets (pre : σ → Prop) (program : EStateM ε σ α) (post : α → σ → Prop)
    (raised : σ → Prop) : Prop :=
  ∀ state, pre state →
    match program state with
    | .ok value after => post value after
    | .error _ after => raised after

variable {pre : σ → Prop} {post : α → σ → Prop} {raised : σ → Prop}

theorem Meets.pure {value : α} (returns : ∀ state, pre state → post value state) :
    Meets pre (Pure.pure value : EStateM ε σ α) post raised := returns

theorem Meets.throw {error : ε} (raises : ∀ state, pre state → raised state) :
    Meets pre (throw error : EStateM ε σ α) post raised := raises

theorem bind_of_ok {program : EStateM ε σ α} {next : α → EStateM ε σ β} {state after : σ}
    {value : α} (ran : program state = .ok value after) :
    (program >>= next) state = next value after := by
  change EStateM.bind program next state = _
  rw [EStateM.bind, ran]

theorem bind_of_error {program : EStateM ε σ α} {next : α → EStateM ε σ β}
    {state after : σ} {error : ε} (raised : program state = .error error after) :
    (program >>= next) state = .error error after := by
  change EStateM.bind program next state = _
  rw [EStateM.bind, raised]

theorem Meets.bind {program : EStateM ε σ α} {next : α → EStateM ε σ β}
    {middle : α → σ → Prop} {final : β → σ → Prop}
    (first : Meets pre program middle raised)
    (rest : ∀ value, Meets (middle value) (next value) final raised) :
    Meets pre (program >>= next) final raised := by
  intro state holds
  have began := first state holds
  cases ran : program state with
  | error error after =>
      rw [ran] at began
      rw [bind_of_error ran]
      exact began
  | ok value after =>
      rw [ran] at began
      rw [bind_of_ok ran]
      exact rest value after began

theorem Meets.weaken {stronger failed : σ → Prop} {weaker : α → σ → Prop}
    {program : EStateM ε σ α} (meets : Meets pre program post raised)
    (entails : ∀ state, stronger state → pre state)
    (follows : ∀ value state, post value state → weaker value state)
    (fails : ∀ state, raised state → failed state) :
    Meets stronger program weaker failed := by
  intro state holds
  have ran := meets state (entails state holds)
  cases outcome : program state with
  | ok value after =>
      rw [outcome] at ran
      exact follows value after ran
  | error error after =>
      rw [outcome] at ran
      exact fails after ran

/-- A part of the precondition that is not about the state. -/
theorem Meets.given {fact : Prop} {program : EStateM ε σ α}
    (meets : fact → Meets pre program post raised) :
    Meets (fun state => fact ∧ pre state) program post raised :=
  fun state holds => meets holds.1 state holds.2

/-- Reading the state first fixes it. -/
theorem Meets.get {next : σ → EStateM ε σ α}
    (rest : ∀ state, pre state → Meets (fun current => current = state) (next state) post
      raised) : Meets pre (MonadState.get >>= next) post raised :=
  fun state holds => rest state holds state rfl

theorem Meets.modify {change : σ → σ} {done : PUnit → σ → Prop}
    (changes : ∀ state, pre state → done ⟨⟩ (change state)) :
    Meets pre (modify change : EStateM ε σ PUnit) done raised := changes

theorem Meets.set {state : σ} {done : PUnit → σ → Prop}
    (stores : ∀ before, pre before → done ⟨⟩ state) :
    Meets pre (MonadStateOf.set state : EStateM ε σ PUnit) done raised := stores

/-- A loop whose body takes each item from the earlier items' invariant to its own. -/
theorem Meets.forM {body : α → EStateM ε σ PUnit} (invariant : List α → σ → Prop)
    {items : List α} (earlier : List α)
    (step : ∀ done, ∀ item ∈ items, Meets (invariant done) (body item)
      (fun _ => invariant (done ++ [item])) raised) :
    Meets (invariant earlier) (items.forM body) (fun _ => invariant (earlier ++ items))
      raised := by
  induction items generalizing earlier with
  | nil =>
      rw [List.append_nil]
      exact .pure fun _ holds => holds
  | cons item rest induction =>
      refine (step earlier item List.mem_cons_self).bind fun _ => ?_
      have later := induction (earlier ++ [item]) fun done next member =>
        step done next (List.mem_cons_of_mem item member)
      rw [List.append_assoc, List.singleton_append] at later
      exact later

/-- The state that a program leaves, whether it returns or raises. -/
def leftBy (program : EStateM ε σ α) (state : σ) : σ :=
  match program state with
  | .ok _ after => after
  | .error _ after => after

theorem Meets.leftBy {invariant : σ → Prop} {program : EStateM ε σ α}
    (meets : Meets invariant program (fun _ => invariant) invariant) {state : σ}
    (holds : invariant state) : invariant (leftBy program state) := by
  have ran := meets state holds
  unfold Telescope.leftBy
  cases outcome : program state with
  | ok value after =>
      rw [outcome] at ran
      exact ran
  | error error after =>
      rw [outcome] at ran
      exact ran

/-- `execute_with_retries` of a program. -/
def retrying (backoffTime maxRetries : Nat) (program : EStateM ε σ α) : EStateM ε σ α :=
  fun state =>
    let attempted := executeWithRetries (fun _ before =>
      match program before with
      | .ok value after => (Except.ok value, after)
      | .error error after => (Except.error error, after)) backoffTime maxRetries state
    match attempted.result with
    | .ok value => .ok value attempted.state
    | .error error => .error error attempted.state

theorem Meets.retrying {invariant : σ → Prop} {program : EStateM ε σ α}
    (meets : Meets invariant program (fun _ => invariant) invariant)
    (backoffTime maxRetries : Nat) :
    Meets invariant (retrying backoffTime maxRetries program) (fun _ => invariant)
      invariant := by
  intro state holds
  have kept (attempt : Nat) (before : σ) (reached : invariant before) :
      invariant (match program before with
        | .ok value after => ((Except.ok value : Except ε α), after)
        | .error error after => (Except.error error, after)).2 := by
    have ran := meets before reached
    cases outcome : program before with
    | ok value after =>
        rw [outcome] at ran
        exact ran
    | error error after =>
        rw [outcome] at ran
        exact ran
  have finished : invariant (executeWithRetries _ backoffTime maxRetries state).state :=
    executeWithRetries_post kept (fun _ after => invariant after) holds kept
  unfold Telescope.retrying
  dsimp only
  split
  · rename_i outcome
    split at outcome
    · cases outcome
      exact finished
    · exact nomatch outcome
  · rename_i outcome
    split at outcome
    · exact nomatch outcome
    · cases outcome
      exact finished

/-- What an attempt establishes from what the attempts that raise keep, the retries
establish. -/
theorem Meets.retryingTo {kept : σ → Prop} {program : EStateM ε σ α}
    (meets : Meets kept program post kept) (backoffTime maxRetries : Nat) :
    Meets kept (Telescope.retrying backoffTime maxRetries program) post kept := by
  intro state holds
  let func (_ : Nat) (before : σ) : Except ε α × σ :=
    match program before with
    | .ok value after => (.ok value, after)
    | .error error after => (.error error, after)
  have attempts (attempt : Nat) (before : σ) (reached : kept before) :
      (∀ value, (func attempt before).1 = .ok value → post value (func attempt before).2) ∧
        (∀ error, (func attempt before).1 = .error error → kept (func attempt before).2) := by
    have ran := meets before reached
    simp only [func]
    cases outcome : program before with
    | ok value after =>
        rw [outcome] at ran
        refine ⟨?_, fun error failed => nomatch failed⟩
        intro other same
        rw [← Except.ok.inj same]
        exact ran
    | error error after =>
        rw [outcome] at ran
        exact ⟨fun value returned => (nomatch returned), fun _ _ => ran⟩
  obtain ⟨returns, raises⟩ := retryFrom_establishes attempts backoffTime maxRetries 0
    holds
  unfold Telescope.retrying executeWithRetries
  dsimp only
  split
  · rename_i outcome
    split at outcome
    · rename_i result
      cases outcome
      exact returns _ result
    · exact nomatch outcome
  · rename_i outcome
    split at outcome
    · exact nomatch outcome
    · rename_i result
      cases outcome
      exact raises _ result

end Contract

end Telescope
