import Mathlib.Data.List.Basic

namespace Telescope

universe u v

/-! Runs of a step function over a list of inputs, each of which must be allowed in
the state that it meets. -/

section Run

variable {σ : Type u} {α : Type v} (step : σ → α → σ) (allowed : σ → α → Prop)

def AllowedRun (start : σ) (inputs : List α) : Prop :=
  ∀ before input after, inputs = before ++ input :: after →
    allowed (before.foldl step start) input

variable {step allowed}

theorem allowedRun_nil (start : σ) : AllowedRun step allowed start [] := by
  intro before input after split
  exact absurd split (by simp)

theorem allowedRun_cons {start : σ} {input : α} {rest : List α} :
    AllowedRun step allowed start (input :: rest) ↔
      allowed start input ∧ AllowedRun step allowed (step start input) rest := by
  constructor
  · intro run
    refine ⟨run [] input rest rfl, ?_⟩
    intro before next after split
    exact run (input :: before) next after (by rw [split]; rfl)
  · rintro ⟨first, remaining⟩ before next after split
    cases before with
    | nil =>
        rw [← (List.cons.inj split).1]
        exact first
    | cons head before =>
        rw [← (List.cons.inj split).1]
        exact remaining before next after (List.cons.inj split).2

theorem AllowedRun.left {start : σ} {before after : List α}
    (run : AllowedRun step allowed start (before ++ after)) :
    AllowedRun step allowed start before := by
  intro earlier input later split
  apply run earlier input (later ++ after)
  rw [split, List.append_assoc, List.cons_append]

/-- What holds at the start and is kept by allowed steps holds at the end. -/
theorem AllowedRun.invariant {start : σ} {inputs : List α}
    (run : AllowedRun step allowed start inputs) (holds : σ → Prop) (initial : holds start)
    (kept : ∀ state input, holds state → allowed state input →
      holds (step state input)) : holds (inputs.foldl step start) := by
  induction inputs generalizing start with
  | nil => exact initial
  | cons input rest induction =>
      obtain ⟨first, remaining⟩ := allowedRun_cons.mp run
      exact induction remaining (kept start input initial first)

end Run

end Telescope
