import Mathlib.Algebra.Order.Ring.Rat
import Mathlib.Tactic.Linarith

namespace Telescope

universe u v w

/-! Straight-line code over a clock: calls take time and may raise, pauses only
take time, notes take none.  The first call that raises ends it. -/

structure Call (χ : Type u) where
  latency : ℚ
  latencyNonneg : 0 ≤ latency
  raises : Option χ

namespace Call

variable {χ : Type u}

def result (call : Call χ) : Except χ Unit :=
  match call.raises with
  | some raised => .error raised
  | none => .ok ()

theorem result_of_returned {call : Call χ} (returns : call.raises = none) :
    call.result = .ok () := by
  rw [result, returns]

/-- Two calls made at once and both awaited; an exception of the first one wins. -/
def both (first second : Call χ) : Call χ where
  latency := max first.latency second.latency
  latencyNonneg := le_max_of_le_left first.latencyNonneg
  raises := first.raises.or second.raises

theorem instant_nonneg : (0 : ℚ) ≤ 0 := le_refl 0

/-- A call that returns at once. -/
def instant : Call χ := ⟨0, instant_nonneg, none⟩

end Call

inductive Activity (ε : Type u) (ν : Type v) (χ : Type w) where
  | call (event : ε) (made : Call χ)
  | note (value : ν)
  | pause (seconds : ℚ)

structure Performed (ε : Type u) (ν : Type v) (χ : Type w) where
  elapsed : ℚ
  inCalls : ℚ
  events : List ε
  notes : List ν
  raised : Option χ

variable {ε : Type u} {ν : Type v} {χ : Type w}

def Performed.nothing : Performed ε ν χ := ⟨0, 0, [], [], none⟩

/-- What both parts do when the first one does not raise. -/
def Performed.join (first second : Performed ε ν χ) : Performed ε ν χ where
  elapsed := first.elapsed + second.elapsed
  inCalls := first.inCalls + second.inCalls
  events := first.events ++ second.events
  notes := first.notes ++ second.notes
  raised := second.raised

def Activity.performed : Activity ε ν χ → Performed ε ν χ
  | .call event made => ⟨made.latency, made.latency, [event], [], made.raises⟩
  | .note value => ⟨0, 0, [], [value], none⟩
  | .pause seconds => ⟨seconds, 0, [], [], none⟩

def perform : List (Activity ε ν χ) → Performed ε ν χ
  | [] => .nothing
  | activity :: rest =>
      match activity.performed.raised with
      | some _ => activity.performed
      | none => activity.performed.join (perform rest)

def Activity.IsPause : Activity ε ν χ → Prop
  | .call _ _ => False
  | .note _ => False
  | .pause _ => True

namespace Performed

theorem nothing_join (run : Performed ε ν χ) : Performed.nothing.join run = run := by
  simp [Performed.join, Performed.nothing]

theorem join_assoc (first second third : Performed ε ν χ) :
    (first.join second).join third = first.join (second.join third) := by
  simp [Performed.join, add_assoc]

end Performed

theorem perform_call_of_returned (event : ε) {made : Call χ} (returns : made.raises = none)
    (rest : List (Activity ε ν χ)) :
    perform (.call event made :: rest) =
      (Activity.performed (.call event made)).join (perform rest) := by
  simp only [perform, Activity.performed, returns]

theorem perform_append_of_returned {first : List (Activity ε ν χ)}
    (returns : (perform first).raised = none) (second : List (Activity ε ν χ)) :
    perform (first ++ second) = (perform first).join (perform second) := by
  induction first with
  | nil => exact (Performed.nothing_join _).symm
  | cons activity rest induction =>
      rw [List.cons_append, perform]
      rw [perform] at returns ⊢
      cases raises : activity.performed.raised with
      | some raised =>
          rw [raises] at returns
          exact absurd (raises.symm.trans returns) (Option.some_ne_none raised)
      | none =>
          rw [raises] at returns
          simp only
          rw [induction returns, Performed.join_assoc]

theorem perform_append_of_raised {first : List (Activity ε ν χ)} {raised : χ}
    (raises : (perform first).raised = some raised) (second : List (Activity ε ν χ)) :
    perform (first ++ second) = perform first := by
  induction first with
  | nil => exact absurd raises (Option.some_ne_none raised).symm
  | cons activity rest induction =>
      rw [List.cons_append, perform]
      rw [perform] at raises ⊢
      cases first : activity.performed.raised with
      | some early => rfl
      | none =>
          rw [first] at raises
          simp only
          rw [induction raises]

/-- Every event is one of a call of the code. -/
theorem mem_events_perform {activities : List (Activity ε ν χ)} {event : ε}
    (occurred : event ∈ (perform activities).events) :
    ∃ made, Activity.call event made ∈ activities := by
  induction activities with
  | nil => exact absurd occurred List.not_mem_nil
  | cons activity rest induction =>
      have here : event ∈ activity.performed.events →
          ∃ made, Activity.call event made ∈ activity :: rest := by
        intro member
        cases activity with
        | call other made =>
            rw [List.mem_singleton.mp member]
            exact ⟨made, List.mem_cons_self⟩
        | note value => exact absurd member List.not_mem_nil
        | pause seconds => exact absurd member List.not_mem_nil
      rw [perform] at occurred
      cases raises : activity.performed.raised with
      | some raised =>
          rw [raises] at occurred
          exact here occurred
      | none =>
          rw [raises] at occurred
          rcases List.mem_append.mp occurred with first | later
          · exact here first
          · obtain ⟨made, member⟩ := induction later
            exact ⟨made, List.mem_cons_of_mem activity member⟩

/-- Every note is one of the code. -/
theorem mem_notes_perform {activities : List (Activity ε ν χ)} {value : ν}
    (noted : value ∈ (perform activities).notes) : Activity.note value ∈ activities := by
  induction activities with
  | nil => exact absurd noted List.not_mem_nil
  | cons activity rest induction =>
      have here : value ∈ activity.performed.notes →
          Activity.note value ∈ activity :: rest := by
        intro member
        cases activity with
        | call event made => exact absurd member List.not_mem_nil
        | note other =>
            rw [List.mem_singleton.mp member]
            exact List.mem_cons_self
        | pause seconds => exact absurd member List.not_mem_nil
      rw [perform] at noted
      cases raises : activity.performed.raised with
      | some raised =>
          rw [raises] at noted
          exact here noted
      | none =>
          rw [raises] at noted
          rcases List.mem_append.mp noted with first | later
          · exact here first
          · exact List.mem_cons_of_mem activity (induction later)

/-- Without a pause, all the time passes in calls. -/
theorem elapsed_eq_inCalls {activities : List (Activity ε ν χ)}
    (unpaused : ∀ activity ∈ activities, ¬ activity.IsPause) :
    (perform activities).elapsed = (perform activities).inCalls := by
  induction activities with
  | nil => rfl
  | cons activity rest induction =>
      have same : activity.performed.elapsed = activity.performed.inCalls := by
        cases activity with
        | call event made => rfl
        | note value => rfl
        | pause seconds => exact absurd trivial (unpaused _ List.mem_cons_self)
      have later := induction fun other member =>
        unpaused other (List.mem_cons_of_mem activity member)
      rw [perform]
      cases activity.performed.raised with
      | some raised => exact same
      | none => simp only [Performed.join, same, later]

end Telescope
