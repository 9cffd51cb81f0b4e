import Mathlib.Data.List.Perm.Basic

namespace Telescope

universe u v

/-! Histories in which several writers alternate: each entry is tagged with its writer. -/

section Interleaving

variable {τ : Type u} {α : Type v} [DecidableEq τ]

/-- What one writer wrote, in its order. -/
def entriesOf (writer : τ) (history : List (τ × α)) : List α :=
  (history.filter fun entry => entry.1 = writer).map Prod.snd

theorem entriesOf_append_self (writer : τ) (history : List (τ × α)) (entry : α) :
    entriesOf writer (history ++ [(writer, entry)]) = entriesOf writer history ++ [entry] := by
  simp [entriesOf]

theorem entriesOf_append_of_ne {writer other : τ} (different : writer ≠ other)
    (history : List (τ × α)) (entry : α) :
    entriesOf writer (history ++ [(other, entry)]) = entriesOf writer history := by
  simp [entriesOf, different.symm]

theorem mem_entriesOf {writer : τ} {history : List (τ × α)} {entry : α} :
    entry ∈ entriesOf writer history ↔ (writer, entry) ∈ history := by
  simp [entriesOf]

theorem filter_eq_map_entriesOf (writer : τ) (history : List (τ × α)) :
    history.filter (fun entry => entry.1 = writer) =
      (entriesOf writer history).map (Prod.mk writer) := by
  unfold entriesOf
  rw [List.map_map]
  symm
  refine (List.map_congr_left ?_).trans (List.map_id _)
  rintro ⟨tag, entry⟩ member
  have same : tag = writer := of_decide_eq_true (List.mem_filter.mp member).2
  rw [same]
  rfl

theorem entriesOf_filter_ne {writer other : τ} (different : writer ≠ other)
    (history : List (τ × α)) :
    entriesOf writer (history.filter fun entry => ¬ entry.1 = other) =
      entriesOf writer history := by
  unfold entriesOf
  rw [List.filter_filter]
  congr 1
  apply List.filter_congr
  rintro ⟨tag, entry⟩ _
  by_cases same : tag = writer
  · simp [same, different]
  · simp [same]

/-- Up to order, a history is what its writers wrote, writer after writer. -/
theorem perm_flatMap_entriesOf {writers : List τ} (distinct : writers.Nodup)
    {history : List (τ × α)} (listed : ∀ entry ∈ history, entry.1 ∈ writers) :
    history.Perm (writers.flatMap fun writer =>
      (entriesOf writer history).map (Prod.mk writer)) := by
  induction writers generalizing history with
  | nil =>
      have empty : history = [] := List.eq_nil_iff_forall_not_mem.mpr fun entry member =>
        absurd (listed entry member) List.not_mem_nil
      rw [empty]
      rfl
  | cons writer rest induction =>
      obtain ⟨notLater, distinct⟩ := List.nodup_cons.mp distinct
      have others : ∀ entry ∈ history.filter (fun entry => ¬ entry.1 = writer),
          entry.1 ∈ rest := by
        intro entry member
        obtain ⟨member, different⟩ := List.mem_filter.mp member
        exact (List.mem_cons.mp (listed entry member)).resolve_left (of_decide_eq_true different)
      have later := induction distinct others
      have unchanged : ∀ other ∈ rest,
          entriesOf other (history.filter fun entry => ¬ entry.1 = writer) =
            entriesOf other history := by
        intro other member
        apply entriesOf_filter_ne
        rintro rfl
        exact notLater member
      rw [List.flatMap_cons, ← filter_eq_map_entriesOf]
      have split := List.filter_append_perm (fun entry => decide (entry.1 = writer)) history
      refine split.symm.trans (List.Perm.append_left _ ?_)
      have blocks : (rest.flatMap fun other =>
          (entriesOf other (history.filter fun entry => ¬ entry.1 = writer)).map (Prod.mk other)) =
          rest.flatMap fun other => (entriesOf other history).map (Prod.mk other) :=
        List.flatMap_congr fun other member => by rw [unchanged other member]
      rw [blocks] at later
      refine List.Perm.trans (List.Perm.of_eq ?_) later
      simp

end Interleaving

end Telescope
