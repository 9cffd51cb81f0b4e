import Mathlib.Algebra.BigOperators.Group.List.Basic
import Mathlib.Algebra.Order.BigOperators.Group.List
import Mathlib.Algebra.Order.Floor.Semiring
import Mathlib.Data.List.GetD
import Mathlib.Data.List.Sort
import Mathlib.Tactic.Linarith
import Mathlib.Tactic.Ring

namespace Telescope

universe u v

/-! Percentiles of samples by linear interpolation between the sorted samples, and means. -/

section Interpolation

variable {K : Type u} [Field K] [LinearOrder K] [IsStrictOrderedRing K] [FloorSemiring K]

/-- The line through neighbouring values of a sequence, at a position between them. -/
def interpolate (values : ℕ → K) (position : K) : K :=
  values ⌊position⌋₊ +
    (values (⌊position⌋₊ + 1) - values ⌊position⌋₊) * (position - ⌊position⌋₊)

variable {values : ℕ → K} {position : K}

theorem le_interpolate (increasing : Monotone values) (nonneg : 0 ≤ position) :
    values ⌊position⌋₊ ≤ interpolate values position := by
  have rise : 0 ≤ values (⌊position⌋₊ + 1) - values ⌊position⌋₊ :=
    sub_nonneg.mpr (increasing (Nat.le_succ _))
  have part : 0 ≤ position - ⌊position⌋₊ := sub_nonneg.mpr (Nat.floor_le nonneg)
  exact le_add_of_nonneg_right (mul_nonneg rise part)

theorem interpolate_le (increasing : Monotone values) :
    interpolate values position ≤ values (⌊position⌋₊ + 1) := by
  have rise : 0 ≤ values (⌊position⌋₊ + 1) - values ⌊position⌋₊ :=
    sub_nonneg.mpr (increasing (Nat.le_succ _))
  have part : position - ⌊position⌋₊ ≤ 1 := by
    have next := Nat.lt_floor_add_one position
    linarith
  calc interpolate values position
      ≤ values ⌊position⌋₊ + (values (⌊position⌋₊ + 1) - values ⌊position⌋₊) * 1 :=
        add_le_add_right (mul_le_mul_of_nonneg_left part rise) _
    _ = values (⌊position⌋₊ + 1) := by ring

theorem interpolate_mono (increasing : Monotone values) {later : K} (nonneg : 0 ≤ position)
    (ordered : position ≤ later) : interpolate values position ≤ interpolate values later := by
  rcases (Nat.floor_le_floor ordered).eq_or_lt with same | apart
  · -- On one segment the line rises.
    have rise : 0 ≤ values (⌊later⌋₊ + 1) - values ⌊later⌋₊ :=
      sub_nonneg.mpr (increasing (Nat.le_succ _))
    unfold interpolate
    rw [same]
    exact add_le_add_right
      (mul_le_mul_of_nonneg_left (sub_le_sub_right ordered _) rise) _
  · calc interpolate values position
        ≤ values (⌊position⌋₊ + 1) := interpolate_le increasing
      _ ≤ values ⌊later⌋₊ := increasing apart
      _ ≤ interpolate values later := le_interpolate increasing (nonneg.trans ordered)

end Interpolation

section Percentile

variable {K : Type u} [Field K]

/-- The samples by index; the last one stands for all indices behind it. -/
def sampleAt (samples : List K) (i : ℕ) : K := samples.getD (min i (samples.length - 1)) 0

theorem sampleAt_mem {samples : List K} (nonempty : samples ≠ []) (i : ℕ) :
    sampleAt samples i ∈ samples := by
  have positive := List.length_pos_of_ne_nil nonempty
  have inside : min i (samples.length - 1) < samples.length := by omega
  rw [sampleAt, List.getD_eq_getElem _ _ inside]
  exact List.getElem_mem inside

variable [LinearOrder K] [FloorSemiring K]

/-- The percentile of nonempty samples, with linear interpolation. -/
def percentile (q : K) (samples : List K) : K :=
  interpolate (sampleAt (samples.insertionSort (· ≤ ·))) (q / 100 * (samples.length - 1 : ℕ))

theorem percentile_perm (q : K) {first second : List K} (same : first.Perm second) :
    percentile q first = percentile q second := by
  have sorted : first.insertionSort (· ≤ ·) = second.insertionSort (· ≤ ·) :=
    List.Perm.eq_of_sortedLE List.sortedLE_insertionSort List.sortedLE_insertionSort
      (((List.perm_insertionSort _ first).trans same).trans (List.perm_insertionSort _ second).symm)
  rw [percentile, percentile, sorted, same.length_eq]

omit [FloorSemiring K] in
theorem sampleAt_mono {samples : List K} (sorted : samples.SortedLE) :
    Monotone (sampleAt samples) := by
  intro i j ordered
  cases samples with
  | nil => exact le_refl _
  | cons first rest =>
      have inside (k : ℕ) : min k ((first :: rest).length - 1) < (first :: rest).length := by
        simp only [List.length_cons]
        omega
      rw [sampleAt, sampleAt, List.getD_eq_getElem _ _ (inside i),
        List.getD_eq_getElem _ _ (inside j)]
      exact sorted.monotone_get (Fin.mk_le_mk.mpr (min_le_min_right _ ordered))

variable [IsStrictOrderedRing K]

omit [FloorSemiring K] in
theorem position_nonneg {q : K} (nonneg : 0 ≤ q) (n : ℕ) : 0 ≤ q / 100 * (n : K) :=
  mul_nonneg (div_nonneg nonneg (by norm_num)) n.cast_nonneg

theorem percentile_mono {p q : K} (nonneg : 0 ≤ p) (ordered : p ≤ q) (samples : List K) :
    percentile p samples ≤ percentile q samples := by
  apply interpolate_mono (sampleAt_mono List.sortedLE_insertionSort) (position_nonneg nonneg _)
  apply mul_le_mul_of_nonneg_right _ (Nat.cast_nonneg _)
  exact div_le_div_of_nonneg_right ordered (by norm_num)

/-- A percentile lies between the bounds of the samples. -/
theorem percentile_mem_Icc {q lower upper : K} {samples : List K} (nonneg : 0 ≤ q)
    (nonempty : samples ≠ []) (bounded : ∀ sample ∈ samples, sample ∈ Set.Icc lower upper) :
    percentile q samples ∈ Set.Icc lower upper := by
  have increasing := sampleAt_mono (samples.sortedLE_insertionSort)
  have within (i : ℕ) : sampleAt (samples.insertionSort (· ≤ ·)) i ∈ Set.Icc lower upper := by
    apply bounded
    rw [← List.mem_insertionSort (· ≤ ·)]
    apply sampleAt_mem
    intro empty
    have same := List.perm_insertionSort (· ≤ ·) samples
    rw [empty] at same
    exact nonempty same.symm.eq_nil
  refine ⟨?_, ?_⟩
  · exact (within _).1.trans (le_interpolate increasing (position_nonneg nonneg _))
  · exact (interpolate_le increasing).trans (within _).2

end Percentile

section Mean

variable {K : Type u} [Field K] [LinearOrder K] [IsStrictOrderedRing K]

def mean (samples : List K) : K := samples.sum / samples.length

theorem mean_mem_Icc {lower upper : K} {samples : List K} (nonempty : samples ≠ [])
    (bounded : ∀ sample ∈ samples, sample ∈ Set.Icc lower upper) :
    mean samples ∈ Set.Icc lower upper := by
  have positive : (0 : K) < samples.length :=
    Nat.cast_pos.mpr (List.length_pos_of_ne_nil nonempty)
  refine ⟨?_, ?_⟩
  · rw [mean, le_div_iff₀ positive, mul_comm, ← nsmul_eq_mul]
    exact List.card_nsmul_le_sum samples lower fun sample member => (bounded sample member).1
  · rw [mean, div_le_iff₀ positive, mul_comm, ← nsmul_eq_mul]
    exact List.sum_le_card_nsmul samples upper fun sample member => (bounded sample member).2

theorem mean_map_le_mean_map {α : Type v} {items : List α} {f g : α → K}
    (ordered : ∀ item ∈ items, f item ≤ g item) :
    mean (items.map f) ≤ mean (items.map g) := by
  rw [mean, mean, List.length_map, List.length_map]
  exact div_le_div_of_nonneg_right (List.sum_le_sum ordered) (Nat.cast_nonneg _)

end Mean

end Telescope
