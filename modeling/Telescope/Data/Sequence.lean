import Mathlib.Data.List.Basic
import Mathlib.Data.List.Forall2
import Mathlib.Data.List.Pairwise
import Mathlib.Data.List.Induction
import Mathlib.Data.List.Nodup

namespace Telescope

universe u

/-! First hits in ordered lists, and slices at multiples of a width. -/

/-- A weaker predicate is first met no later than a stronger one. -/
theorem exists_find?_of_imp {α : Type u} {earlier : α → α → Prop}
    {items : List α} (ordered : items.Pairwise earlier)
    {strong weak : α → Bool} (imp : ∀ item, strong item = true → weak item = true)
    {hit : α} (found : items.find? strong = some hit) :
    ∃ first, items.find? weak = some first ∧ (first = hit ∨ earlier first hit) := by
  induction items with
  | nil => simp at found
  | cons head tail induction =>
      rw [List.pairwise_cons] at ordered
      cases weakHead : weak head with
      | true =>
          refine ⟨head, by simp [weakHead], ?_⟩
          rw [List.find?_cons] at found
          cases strongHead : strong head with
          | true =>
              rw [strongHead] at found
              exact .inl (Option.some.inj found)
          | false =>
              rw [strongHead] at found
              exact .inr (ordered.1 hit (List.mem_of_find?_eq_some found))
      | false =>
          have strongHead : strong head = false := by
            by_contra met
            rw [imp head (by simpa using met)] at weakHead
            exact Bool.noConfusion weakHead
          rw [List.find?_cons, strongHead] at found
          obtain ⟨first, firstFound, position⟩ := induction ordered.2 found
          exact ⟨first, by simpa [List.find?_cons, weakHead] using firstFound, position⟩

theorem exists_related_of_mem {α β : Type u} {related : α → β → Prop} {items : List α}
    {results : List β} (pairs : List.Forall₂ related items results) {item : α}
    (member : item ∈ items) : ∃ result ∈ results, related item result := by
  induction pairs with
  | nil => exact absurd member List.not_mem_nil
  | @cons first result rest results here later induction =>
      rcases List.mem_cons.mp member with rfl | inRest
      · exact ⟨result, List.mem_cons_self, here⟩
      · obtain ⟨other, listed, holds⟩ := induction inRest
        exact ⟨other, List.mem_cons_of_mem _ listed, holds⟩

theorem exists_forall₂ {α β : Type u} {related : α → β → Prop} {items : List α}
    (each : ∀ item ∈ items, ∃ result, related item result) :
    ∃ results, List.Forall₂ related items results := by
  induction items with
  | nil => exact ⟨[], .nil⟩
  | cons item rest induction =>
      obtain ⟨here, later⟩ := List.forall_mem_cons.mp each
      obtain ⟨result, holds⟩ := here
      obtain ⟨results, pairs⟩ := induction later
      exact ⟨result :: results, .cons holds pairs⟩

theorem nil_ne_append_cons {α : Type u} {before after : List α} {item : α} :
    [] ≠ before ++ item :: after := by
  intro same
  cases before with
  | nil => cases same
  | cons => cases same

theorem pairwise_of_splits {α : Type u} {related : α → α → Prop} {items : List α}
    (splits : ∀ before item after, items = before ++ item :: after →
      ∀ earlier ∈ before, related earlier item) : items.Pairwise related := by
  induction items using List.reverseRecOn with
  | nil => exact List.Pairwise.nil
  | append_singleton items last induction =>
      rw [List.pairwise_append]
      refine ⟨induction ?_, List.pairwise_singleton _ _, ?_⟩
      · intro before item after split
        apply splits before item (after ++ [last])
        rw [split, List.append_assoc, List.cons_append]
      · intro earlier member item itemMember
        rw [List.mem_singleton.mp itemMember]
        exact splits items last [] rfl earlier member

/-- `items[start:start + width]` -/
def slice {α : Type u} (items : List α) (start width : Nat) : List α :=
  (items.drop start).take width

theorem flatten_slices {α : Type u} (items : List α) (width count : Nat) :
    ((List.range count).map fun index => slice items (index * width) width).flatten =
      items.take (count * width) := by
  induction count with
  | zero => simp
  | succ count induction =>
      rw [List.range_succ, List.map_append, List.flatten_append, induction,
        Nat.succ_mul, List.take_add]
      simp [slice]

/-- When blocks together carry distinct items once, each item is carried by one
block only, and there once. -/
theorem exists_single_block {α β : Type u} [BEq β] [LawfulBEq β] {blocks : List α}
    {carries : α → List β} {items : List β}
    (carried : (blocks.flatMap carries).Perm items) (distinct : items.Nodup)
    {item : β} (member : item ∈ items) :
    ∃ before block after, blocks = before ++ block :: after ∧
      (carries block).count item = 1 ∧
        ∀ other ∈ before ++ after, item ∉ carries other := by
  obtain ⟨block, blockMember, inBlock⟩ :=
    List.mem_flatMap.mp (carried.symm.subset member)
  obtain ⟨before, after, rfl⟩ := List.append_of_mem blockMember
  have nodup : (before.flatMap carries ++
      (carries block ++ after.flatMap carries)).Nodup := by
    rw [← List.flatMap_cons, ← List.flatMap_append]
    exact carried.nodup_iff.mpr distinct
  obtain ⟨-, rest, disjointBefore⟩ := List.nodup_append'.mp nodup
  obtain ⟨blockNodup, -, disjointAfter⟩ := List.nodup_append'.mp rest
  refine ⟨before, block, after, rfl, List.count_eq_one_of_mem blockNodup inBlock, ?_⟩
  intro other otherMember carriesItem
  rcases List.mem_append.mp otherMember with early | late
  · exact disjointBefore (List.mem_flatMap.mpr ⟨other, early, carriesItem⟩)
      (List.mem_append_left _ inBlock)
  · exact disjointAfter inBlock (List.mem_flatMap.mpr ⟨other, late, carriesItem⟩)

end Telescope
