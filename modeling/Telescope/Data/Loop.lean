import Mathlib.Data.List.Basic

namespace Telescope

universe u v w

/-! Loops over a list that change a state and end with the first exception. -/

section Loop

variable {α : Type u} {σ : Type v} {ε : Type w}

def forEach (handle : α → σ → Except ε Unit × σ) : List α → σ → Except ε Unit × σ
  | [], state => (.ok (), state)
  | item :: rest, state =>
      match handle item state with
      | (.ok (), after) => forEach handle rest after
      | (.error error, after) => (.error error, after)

variable {handle : α → σ → Except ε Unit × σ} {items : List α}

theorem forEach_singleton (item : α) (state : σ) :
    forEach handle [item] state = handle item state := by
  rw [forEach]
  rcases handle item state with ⟨result, after⟩
  cases result with
  | ok value => rfl
  | error error => rfl

theorem forEach_append (earlier later : List α) (state : σ) :
    forEach handle (earlier ++ later) state =
      match forEach handle earlier state with
      | (.ok (), after) => forEach handle later after
      | (.error error, after) => (.error error, after) := by
  induction earlier generalizing state with
  | nil => rfl
  | cons item rest induction =>
      rw [List.cons_append, forEach, forEach]
      rcases handle item state with ⟨result, after⟩
      cases result with
      | ok value => exact induction after
      | error error => rfl

/-- What every item keeps, the loop keeps, however it ends. -/
theorem forEach_invariant {holds : σ → Prop}
    (kept : ∀ item ∈ items, ∀ state, holds state → holds (handle item state).2)
    {state : σ} (start : holds state) : holds (forEach handle items state).2 := by
  induction items generalizing state with
  | nil => exact start
  | cons item rest induction =>
      have here := kept item List.mem_cons_self state start
      have later := fun next member => kept next (List.mem_cons_of_mem item member)
      rw [forEach]
      rcases handled : handle item state with ⟨result, after⟩
      rw [handled] at here
      cases result with
      | ok value => exact induction later here
      | error error => exact here

/-- A loop in which every item returns from what the items keep returns. -/
theorem forEach_ok {holds : σ → Prop}
    (step : ∀ item ∈ items, ∀ state, holds state →
      (handle item state).1 = .ok () ∧ holds (handle item state).2)
    {state : σ} (start : holds state) : (forEach handle items state).1 = .ok () := by
  induction items generalizing state with
  | nil => rfl
  | cons item rest induction =>
      obtain ⟨returned, kept⟩ := step item List.mem_cons_self state start
      have later := fun next member => step next (List.mem_cons_of_mem item member)
      rw [forEach]
      rcases handled : handle item state with ⟨result, after⟩
      rw [handled] at returned kept
      cases result with
      | ok value => exact induction later kept
      | error error => cases returned

/-- What every item that returns keeps, a loop that returns keeps. -/
theorem forEach_returned {holds : σ → Prop}
    (kept : ∀ item ∈ items, ∀ state,
      (handle item state).1 = .ok () → holds state → holds (handle item state).2)
    {state : σ} (start : holds state) (returned : (forEach handle items state).1 = .ok ()) :
    holds (forEach handle items state).2 := by
  induction items generalizing state with
  | nil => exact start
  | cons item rest induction =>
      have here := kept item List.mem_cons_self state
      have later := fun next member => kept next (List.mem_cons_of_mem item member)
      rw [forEach] at returned ⊢
      rcases handled : handle item state with ⟨result, after⟩
      rw [handled] at here returned
      cases result with
      | ok value => exact induction later (here rfl start) returned
      | error error => cases returned

/-- What every item establishes under an invariant, and the later items keep, a loop that
returns establishes of all items. -/
theorem forEach_establishes {kept : σ → Prop} (holds : α → σ → Prop)
    (invariant : ∀ item ∈ items, ∀ state, kept state → kept (handle item state).2)
    (establishes : ∀ item ∈ items, ∀ state, kept state →
      (handle item state).1 = .ok () → holds item (handle item state).2)
    (keeps : ∀ item ∈ items, ∀ other ∈ items, ∀ state, kept state →
      (handle item state).1 = .ok () → holds other state → holds other (handle item state).2)
    {state : σ} (start : kept state) (returned : (forEach handle items state).1 = .ok ()) :
    ∀ item ∈ items, holds item (forEach handle items state).2 := by
  induction items generalizing state with
  | nil => exact fun item member => absurd member List.not_mem_nil
  | cons item rest induction =>
      have next := invariant item List.mem_cons_self state start
      have here := establishes item List.mem_cons_self state start
      have invariantLater := fun next member => invariant next (List.mem_cons_of_mem item member)
      have later := fun next member => establishes next (List.mem_cons_of_mem item member)
      have kept := fun next member other otherMember =>
        keeps next (List.mem_cons_of_mem item member) other (List.mem_cons_of_mem item otherMember)
      have keptHere (next : α) (member : next ∈ rest) (before : σ)
          (ran : (handle next before).1 = .ok ()) (held : _ ∧ holds item before) :=
        And.intro (invariantLater next member before held.1)
          (keeps next (List.mem_cons_of_mem item member) item List.mem_cons_self before held.1
            ran held.2)
      rw [forEach] at returned ⊢
      rcases handled : handle item state with ⟨result, after⟩
      rw [handled] at next here returned
      cases result with
      | error error => cases returned
      | ok value =>
          refine List.forall_mem_cons.mpr ⟨?_, induction invariantLater later kept next returned⟩
          exact (forEach_returned keptHere ⟨next, here rfl⟩ returned).2

/-- When every item returns or raises whatever the state, so does the loop. -/
theorem forEach_ok_iff {accepted : α → Prop}
    (decided : ∀ item ∈ items, ∀ state, (handle item state).1 = .ok () ↔ accepted item)
    (state : σ) :
    (forEach handle items state).1 = .ok () ↔ ∀ item ∈ items, accepted item := by
  induction items generalizing state with
  | nil => simp [forEach]
  | cons item rest induction =>
      have here := decided item List.mem_cons_self state
      have later := induction fun next member =>
        decided next (List.mem_cons_of_mem item member)
      rw [forEach, List.forall_mem_cons, ← here]
      rcases handle item state with ⟨result, after⟩
      cases result with
      | error error => simp
      | ok value => simpa using later after

/-- A loop that never raises folds the step of each item. -/
theorem forEach_eq_foldl {step : σ → α → σ}
    (steps : ∀ item ∈ items, ∀ state, handle item state = (.ok (), step state item))
    (state : σ) : forEach handle items state = (.ok (), items.foldl step state) := by
  induction items generalizing state with
  | nil => rfl
  | cons item rest induction =>
      rw [forEach, steps item List.mem_cons_self state]
      exact induction (fun next member => steps next (List.mem_cons_of_mem item member)) _

/-- A loop in which every item keeps a condition and adds its own rows to an
output adds the rows of all items, in order. -/
theorem forEach_collects {β : Type*} (holds : σ → Prop) (output : σ → List β)
    {rows : α → List β}
    (step : ∀ item ∈ items, ∀ state after, holds state → handle item state = (.ok (), after) →
      holds after ∧ output after = output state ++ rows item)
    {state after : σ} (start : holds state) (run : forEach handle items state = (.ok (), after)) :
    holds after ∧ output after = output state ++ items.flatMap rows := by
  induction items generalizing state with
  | nil =>
      cases run
      exact ⟨start, by simp⟩
  | cons item rest induction =>
      rw [forEach] at run
      rcases handled : handle item state with ⟨result, middle⟩
      rw [handled] at run
      cases result with
      | error error => exact nomatch run
      | ok value =>
          obtain ⟨kept, added⟩ := step item List.mem_cons_self state middle start handled
          obtain ⟨keptAfter, addedAfter⟩ :=
            induction (fun next member => step next (List.mem_cons_of_mem item member)) kept run
          refine ⟨keptAfter, ?_⟩
          rw [addedAfter, added, List.flatMap_cons, List.append_assoc]

/-- The same for a loop that cannot raise. -/
theorem foldl_collects {β : Type*} (holds : σ → Prop) (output : σ → List β)
    {advance : σ → α → σ} {rows : α → List β}
    (step : ∀ state item, holds state →
      holds (advance state item) ∧ output (advance state item) = output state ++ rows item)
    (items : List α) {state : σ} (start : holds state) :
    holds (items.foldl advance state) ∧
      output (items.foldl advance state) = output state ++ items.flatMap rows := by
  let handle (item : α) (state : σ) : Except Unit Unit × σ := (.ok (), advance state item)
  have run : forEach handle items state = (.ok (), items.foldl advance state) :=
    forEach_eq_foldl (fun _ _ _ => rfl) state
  refine forEach_collects holds output ?_ start run
  intro item _ before after kept handled
  cases handled
  exact step before item kept

end Loop

end Telescope
