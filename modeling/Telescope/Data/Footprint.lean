import Mathlib.Logic.Function.Basic
import Telescope.Data.Loop

namespace Telescope

universe u v w

/-! Programs over keyed slots that keep to some of the slots: they leave the others as they
are, and do not depend on them. -/

section Footprint

variable {κ : Type u} {ν : Type v}

structure KeepsTo {α : Type w} (own : κ → Prop) (program : (κ → ν) → α × (κ → ν)) : Prop where
  frame : ∀ slots key, ¬ own key → (program slots).2 key = slots key
  result : ∀ first second, (∀ key, own key → first key = second key) →
    (program first).1 = (program second).1
  effect : ∀ first second, (∀ key, own key → first key = second key) →
    ∀ key, own key → (program first).2 key = (program second).2 key

variable {α β : Type w} {own : κ → Prop}

theorem KeepsTo.pure (value : α) :
    KeepsTo own fun slots : κ → ν => (value, slots) :=
  ⟨fun _ _ _ => rfl, fun _ _ _ => rfl, fun _ _ same => same⟩

/-- What goes on with a result keeps to the slots if every way of going on does. -/
theorem KeepsTo.bind {program : (κ → ν) → α × (κ → ν)} {whole : (κ → ν) → β × (κ → ν)}
    {next : α → (κ → ν) → β × (κ → ν)} (keeps : KeepsTo own program)
    (later : ∀ value, KeepsTo own (next value))
    (steps : ∀ slots, whole slots = next (program slots).1 (program slots).2) :
    KeepsTo own whole where
  frame slots key foreign := by
    rw [steps]
    exact ((later _).frame _ key foreign).trans (keeps.frame slots key foreign)
  result first second same := by
    rw [steps, steps, keeps.result first second same]
    exact (later _).result _ _ (keeps.effect first second same)
  effect first second same := by
    rw [steps, steps, keeps.result first second same]
    exact (later _).effect _ _ (keeps.effect first second same)

/-- What reads and writes one slot keeps to any slots with it among them. -/
theorem KeepsTo.access [DecidableEq κ] {key : κ} (mine : own key) (respond : ν → α × ν) :
    KeepsTo own fun slots =>
      ((respond (slots key)).1, Function.update slots key (respond (slots key)).2) where
  frame slots other foreign := by
    have different : other ≠ key := by
      rintro rfl
      exact foreign mine
    exact Function.update_of_ne different _ _
  result first second same := by rw [same key mine]
  effect first second same other otherMine := by
    by_cases equal : other = key
    · subst equal
      simp only [Function.update_self]
      rw [same other mine]
    · simp only [Function.update_of_ne equal]
      exact same other otherMine

theorem KeepsTo.forEach {ε : Type w} {ι : Type*}
    {handle : ι → (κ → ν) → Except ε PUnit × (κ → ν)} {items : List ι}
    (keeps : ∀ item ∈ items, KeepsTo own (handle item)) :
    KeepsTo own (forEach handle items) := by
  induction items with
  | nil => exact KeepsTo.pure (Except.ok PUnit.unit)
  | cons item rest induction =>
      obtain ⟨here, later⟩ := List.forall_mem_cons.mp keeps
      let next (result : Except ε PUnit) (slots : κ → ν) : Except ε PUnit × (κ → ν) :=
        match result with
        | .ok () => Telescope.forEach handle rest slots
        | .error error => (.error error, slots)
      have nextKeeps (result : Except ε PUnit) : KeepsTo own (next result) := by
        cases result with
        | ok value => exact induction later
        | error error => exact KeepsTo.pure (Except.error error)
      refine here.bind nextKeeps fun slots => ?_
      rw [Telescope.forEach]
      rcases handle item slots with ⟨result, after⟩
      cases result <;> rfl

/-! A loop that goes on after a failed item. -/

def attemptAll {ι σ : Type*} (attempt : ι → σ → α × σ) : List ι → σ → List α × σ
  | [], state => ([], state)
  | item :: rest, state =>
      let outcome := attempt item state
      let later := attemptAll attempt rest outcome.2
      (outcome.1 :: later.1, later.2)

theorem attemptAll_length {ι σ : Type*} (attempt : ι → σ → α × σ) (items : List ι) (state : σ) :
    (attemptAll attempt items state).1.length = items.length := by
  induction items generalizing state with
  | nil => rfl
  | cons item rest induction =>
      rw [attemptAll, List.length_cons, List.length_cons, induction]

theorem attemptAll_invariant {ι σ : Type*} {attempt : ι → σ → α × σ} {items : List ι}
    {holds : σ → Prop} (kept : ∀ item ∈ items, ∀ state, holds state → holds (attempt item state).2)
    {state : σ} (start : holds state) : holds (attemptAll attempt items state).2 := by
  induction items generalizing state with
  | nil => exact start
  | cons item rest induction =>
      obtain ⟨here, later⟩ := List.forall_mem_cons.mp kept
      exact induction later (here state start)

/-- What one item establishes, the loop establishes, if the other items leave it what it
needs and keep what it has established. -/
theorem attemptAll_establishes {ι σ : Type*} {attempt : ι → σ → α × σ} {items : List ι}
    (ready holds : σ → Prop) {accepted : α → Prop} {item : ι} (once : items.Nodup)
    (member : item ∈ items)
    (left : ∀ other, other ≠ item → ∀ state, ready state → ready (attempt other state).2)
    (keeps : ∀ other, other ≠ item → ∀ state, holds state → holds (attempt other state).2)
    (establishes : ∀ state, ready state → accepted (attempt item state).1 →
      holds (attempt item state).2)
    {state : σ} (start : ready state)
    (all : ∀ outcome ∈ (attemptAll attempt items state).1, accepted outcome) :
    holds (attemptAll attempt items state).2 := by
  induction items generalizing state with
  | nil => exact absurd member List.not_mem_nil
  | cons first rest induction =>
      obtain ⟨notLater, restOnce⟩ := List.nodup_cons.mp once
      obtain ⟨here, later⟩ := List.forall_mem_cons.mp all
      rcases List.mem_cons.mp member with rfl | inRest
      · have kept : ∀ other ∈ rest, ∀ state, holds state → holds (attempt other state).2 :=
          fun other otherMember => keeps other fun same => notLater (same ▸ otherMember)
        exact attemptAll_invariant kept (establishes state start here)
      · have different : first ≠ item := fun same => notLater (same ▸ inRest)
        exact induction restOnce inRest (left first different state start) later

/-- Items that keep to slots of their own end as if each were the only one. -/
theorem attemptAll_apart {ι : Type*} {attempt : ι → (κ → ν) → α × (κ → ν)}
    {owns : ι → κ → Prop} {items : List ι}
    (keeps : ∀ item ∈ items, KeepsTo (owns item) (attempt item))
    (apart : items.Pairwise fun first second => ∀ key, owns first key → ¬ owns second key)
    (slots : κ → ν) :
    (attemptAll attempt items slots).1 = items.map (fun item => (attempt item slots).1) ∧
      (∀ item ∈ items, ∀ key, owns item key →
        (attemptAll attempt items slots).2 key = (attempt item slots).2 key) ∧
      ∀ key, (∀ item ∈ items, ¬ owns item key) →
        (attemptAll attempt items slots).2 key = slots key := by
  induction items generalizing slots with
  | nil =>
      refine ⟨rfl, ?_, fun _ _ => rfl⟩
      intro item member
      exact absurd member List.not_mem_nil
  | cons item rest induction =>
      obtain ⟨here, later⟩ := List.forall_mem_cons.mp keeps
      obtain ⟨away, restApart⟩ := List.pairwise_cons.mp apart
      obtain ⟨outcomes, ownEffects, frame⟩ := induction later restApart (attempt item slots).2
      -- The slots of a later item are still as they were.
      have untouched : ∀ other ∈ rest, ∀ key, owns other key →
          (attempt item slots).2 key = slots key := by
        intro other member key othersKey
        exact here.frame slots key fun mine => away other member key mine othersKey
      refine ⟨?_, ?_, ?_⟩
      · rw [attemptAll, outcomes, List.map_cons]
        refine congrArg _ (List.map_congr_left fun other member => ?_)
        exact (later other member).result _ _ (untouched other member)
      · refine List.forall_mem_cons.mpr ⟨fun key mine => ?_, fun other member key othersKey => ?_⟩
        · exact frame key fun other member => away other member key mine
        · exact (ownEffects other member key othersKey).trans
            ((later other member).effect _ _ (untouched other member) key othersKey)
      · intro key foreign
        obtain ⟨notHere, notLater⟩ := List.forall_mem_cons.mp foreign
        exact (frame key notLater).trans (here.frame slots key notHere)

end Footprint

end Telescope
