import Mathlib.Algebra.BigOperators.Ring.Finset
import Telescope.Data.Polling
import Telescope.Data.Store
import Telescope.Kubernetes.Quantity

namespace Telescope.Kubernetes

open Telescope

/-! How `verify_nvidia_smi_on_node` waits for the GPUs of a node and chooses the resource
that its pod requests. -/

/-- `node.status.allocatable`; the values are texts. -/
abbrev Allocatable := Option (Store Text Text)

/-- `node.status.allocatable or {}` -/
def allocatableEntries (allocatable : Allocatable) : Store Text Text :=
  allocatable.getD Store.empty

def gpuKey : Text := lit "nvidia.com/gpu"

/-- `key.startswith("nvidia.com/mig-")` -/
def isMigKey (key : Text) : Bool := (lit "nvidia.com/mig-").isPrefixOf key

/-- `int(allocatable.get("nvidia.com/gpu", "0"))` -/
def gpuCountOf (entries : Store Text Text) : Except Error Int :=
  intOf ((entries.get? gpuKey).getD (lit "0"))

def migCountOf (entries : Store Text Text) : Except Error Int := do
  let counts ← (entries.entries.filter fun entry => isMigKey entry.1).mapM
    fun entry => intOf entry.2
  return counts.sum

section Wait

variable (clock : PausedClock 1) (describe : Nat → Except Error Allocatable)

def gpuWaitDue (index : Nat) : Prop := clock.now index < clock.start + 600

instance (index : Nat) : Decidable (gpuWaitDue clock index) :=
  inferInstanceAs (Decidable (_ < _))

/-- The wait's loop, from the node's description at poll `index` on: the last GPU count
and the last description. -/
def waitForGpus : Nat → Nat → Allocatable → Int → Option (Except Error (Int × Allocatable))
  | 0, _, _, _ => none
  | fuel + 1, index, allocatable, gpuCount =>
      if gpuWaitDue clock index then
        match gpuCountOf (allocatableEntries allocatable),
            migCountOf (allocatableEntries allocatable) with
        | .error error, _ => some (.error error)
        | .ok _, .error error => some (.error error)
        | .ok gpuCount, .ok migCount =>
            if 0 < gpuCount ∨ 0 < migCount then some (.ok (gpuCount, allocatable))
            else
              match describe (index + 1) with
              | .error error => some (.error error)
              | .ok described => waitForGpus fuel (index + 1) described gpuCount
      else some (.ok (gpuCount, allocatable))

def describeAndWait (fuel : Nat) : Option (Except Error (Int × Allocatable)) :=
  match describe 0 with
  | .error error => some (.error error)
  | .ok allocatable => waitForGpus clock describe fuel 0 allocatable 0

end Wait

def hasMig (allocatable : Allocatable) : Bool :=
  (allocatableEntries allocatable).keys.any isMigKey

/-- `next(k for k in allocatable if k.startswith("nvidia.com/mig-"))` -/
def firstMigKey (allocatable : Allocatable) : Option Text :=
  (allocatableEntries allocatable).keys.find? isMigKey

/-- The limits of the pod; a node without GPUs is skipped. -/
def gpuResourceLimits (gpuCount : Int) (allocatable : Allocatable) :
    Option (List (Text × Text)) :=
  if gpuCount = 0 ∧ hasMig allocatable = false then none
  else
    match firstMigKey allocatable with
    | some migResource => some [(migResource, lit "1")]
    | none => some [(gpuKey, lit "1")]

/-- What the loop body does up to the pod's limits. -/
def chooseGpuLimits (clock : PausedClock 1) (describe : Nat → Except Error Allocatable)
    (fuel : Nat) : Option (Except Error (Option (List (Text × Text)))) :=
  (describeAndWait clock describe fuel).map fun
    | .error error => .error error
    | .ok (gpuCount, allocatable) => .ok (gpuResourceLimits gpuCount allocatable)

private theorem not_gpuWaitDue (clock : PausedClock 1) {index : Nat} (late : 600 ≤ index) :
    ¬ gpuWaitDue clock index := by
  have reached := clock.start_add_le index
  have counted : (600 : ℚ) ≤ index := by exact_mod_cast late
  rw [gpuWaitDue]
  linarith

/-- Ten minutes of polls are at most 601. -/
theorem exists_waitForGpus (clock : PausedClock 1) (describe : Nat → Except Error Allocatable)
    {fuel : Nat} (index : Nat) (fueled : 0 < fuel) (enough : 600 < fuel + index)
    (allocatable : Allocatable) (gpuCount : Int) :
    ∃ result, waitForGpus clock describe fuel index allocatable gpuCount = some result := by
  induction fuel generalizing index allocatable gpuCount with
  | zero => cases fueled
  | succ fuel induction =>
      rw [waitForGpus]
      cases Decidable.em (gpuWaitDue clock index) with
      | inr late =>
          rw [if_neg late]
          exact ⟨_, rfl⟩
      | inl due =>
          have early : index < 600 := by
            by_contra reached
            exact not_gpuWaitDue clock (Nat.le_of_not_lt reached) due
          rw [if_pos due]
          split
          · exact ⟨_, rfl⟩
          · exact ⟨_, rfl⟩
          · split
            · exact ⟨_, rfl⟩
            · split
              · exact ⟨_, rfl⟩
              · exact induction _ (by omega) (by omega) _ _

theorem exists_chooseGpuLimits (clock : PausedClock 1)
    (describe : Nat → Except Error Allocatable) {fuel : Nat} (enough : 600 < fuel) :
    ∃ result, chooseGpuLimits clock describe fuel = some result := by
  rw [chooseGpuLimits, describeAndWait]
  cases describe 0 with
  | error error => exact ⟨_, rfl⟩
  | ok allocatable =>
      obtain ⟨result, waited⟩ := exists_waitForGpus clock describe 0
        (Nat.zero_lt_of_lt enough) enough allocatable 0
      dsimp only
      rw [waited]
      exact ⟨_, rfl⟩

/-! ## Maps whose GPU entries are counts -/

/-- An allocatable map whose GPU and MIG entries are non-negative integers. -/
structure CountedAllocatable where
  allocatable : Allocatable
  counted : ∀ entry ∈ (allocatableEntries allocatable).entries,
    (entry.1 = gpuKey ∨ isMigKey entry.1 = true) →
      ∃ count : Nat, parseInteger? entry.2 = some count

namespace CountedAllocatable

def entries (map : CountedAllocatable) : Store Text Text := allocatableEntries map.allocatable

/-- The allocatable count of a resource; what is absent counts zero. -/
def count (map : CountedAllocatable) (key : Text) : Nat :=
  (((map.entries.get? key).bind parseInteger?).getD 0).toNat

def Positive (map : CountedAllocatable) : Prop :=
  ∃ key, (key = gpuKey ∨ isMigKey key = true) ∧ 1 ≤ map.count key

theorem intOf_of_mem (map : CountedAllocatable) {entry : Text × Text}
    (member : entry ∈ map.entries.entries)
    (gpu : entry.1 = gpuKey ∨ isMigKey entry.1 = true) :
    intOf entry.2 = .ok (map.count entry.1 : Int) := by
  obtain ⟨count, parsed⟩ := map.counted entry member gpu
  have found : map.entries.get? entry.1 = some entry.2 :=
    (Store.get?_eq_some_iff _).mpr member
  rw [intOf, parsed, CountedAllocatable.count, found, Option.bind_some, parsed]
  rfl

theorem count_of_absent (map : CountedAllocatable) {key : Text}
    (absent : map.entries.get? key = none) : map.count key = 0 := by
  rw [CountedAllocatable.count, absent]
  rfl

theorem mem_of_count (map : CountedAllocatable) {key : Text} (positive : 1 ≤ map.count key) :
    key ∈ map.entries.keys := by
  cases found : map.entries.get? key with
  | none =>
      rw [map.count_of_absent found] at positive
      cases positive
  | some value =>
      have member := (Store.get?_eq_some_iff _).mp found
      exact List.mem_map.mpr ⟨(key, value), member, rfl⟩

private theorem gpuCountOf_eq (map : CountedAllocatable) :
    gpuCountOf map.entries = .ok (map.count gpuKey : Int) := by
  rw [gpuCountOf]
  cases found : map.entries.get? gpuKey with
  | none =>
      rw [map.count_of_absent found]
      rfl
  | some value =>
      have member := (Store.get?_eq_some_iff _).mp found
      exact map.intOf_of_mem member (.inl rfl)

theorem migCountOf_eq (map : CountedAllocatable) :
    ∃ total : Nat, migCountOf map.entries = .ok (total : Int) ∧
      (0 < total ↔ ∃ key, isMigKey key = true ∧ 1 ≤ map.count key) := by
  have parsed : (map.entries.entries.filter fun entry => isMigKey entry.1).mapM
      (fun entry => intOf entry.2) =
      .ok ((map.entries.entries.filter fun entry => isMigKey entry.1).map
        fun entry => (map.count entry.1 : Int)) := by
    apply mapM_eq_map
    intro entry member
    obtain ⟨listed, mig⟩ := List.mem_filter.mp member
    exact map.intOf_of_mem listed (.inr mig)
  refine ⟨((map.entries.entries.filter fun entry => isMigKey entry.1).map
    fun entry => map.count entry.1).sum, ?_, ?_⟩
  · rw [migCountOf, parsed, Nat.cast_list_sum, List.map_map]
    rfl
  · rw [List.sum_pos_iff_exists_pos_nat]
    constructor
    · intro positive
      obtain ⟨count, listed, counts⟩ := positive
      obtain ⟨entry, member, rfl⟩ := List.mem_map.mp listed
      exact ⟨entry.1, (List.mem_filter.mp member).2, counts⟩
    · intro positive
      obtain ⟨key, mig, counts⟩ := positive
      obtain ⟨entry, member, rfl⟩ := List.mem_map.mp (map.mem_of_count counts)
      exact ⟨_, List.mem_map_of_mem (List.mem_filter.mpr ⟨member, mig⟩), counts⟩

theorem positive_iff (map : CountedAllocatable) {migCount : Int}
    (read : migCountOf map.entries = .ok migCount) :
    (0 < (map.count gpuKey : Int) ∨ 0 < migCount) ↔ map.Positive := by
  obtain ⟨total, counted, positive⟩ := map.migCountOf_eq
  cases read.symm.trans counted
  rw [Nat.cast_pos, Nat.cast_pos, positive, Positive]
  constructor
  · intro some
    obtain gpu | ⟨key, mig, counts⟩ := some
    · exact ⟨gpuKey, .inl rfl, gpu⟩
    · exact ⟨key, .inr mig, counts⟩
  · intro some
    obtain ⟨key, rfl | mig, counts⟩ := some
    · exact .inl counts
    · exact .inr ⟨key, mig, counts⟩

theorem firstMigKey_eq_none_iff (map : CountedAllocatable) :
    firstMigKey map.allocatable = none ↔ hasMig map.allocatable = false := by
  rw [firstMigKey, hasMig, List.find?_eq_none, List.any_eq_false]

private theorem positive_of_no_mig (map : CountedAllocatable)
    (noMig : firstMigKey map.allocatable = none) :
    map.Positive ↔ 1 ≤ map.count gpuKey := by
  constructor
  · intro some
    obtain ⟨key, rfl | mig, counts⟩ := some
    · exact counts
    · exact absurd mig (List.find?_eq_none.mp noMig key (map.mem_of_count counts))
  · intro counts
    exact ⟨gpuKey, .inl rfl, counts⟩

end CountedAllocatable

section Reads

variable {clock : PausedClock 1} {describe : Nat → Except Error Allocatable}
variable {maps : Nat → CountedAllocatable}

/-- The wait reads the maps up to the first that is positive or read too late. -/
structure LastRead (clock : PausedClock 1) (maps : Nat → CountedAllocatable) (last : Nat) :
    Prop where
  before : ∀ index < last, gpuWaitDue clock index ∧ ¬ (maps index).Positive
  ends : gpuWaitDue clock last → (maps last).Positive

/-- The GPU count that the wait leaves; a map read too late is not counted. -/
def finalGpuCount (clock : PausedClock 1) (maps : Nat → CountedAllocatable) (last : Nat) : Int :=
  if gpuWaitDue clock last then (maps last).count gpuKey else 0

private theorem waitForGpus_reads (reports : ∀ index, describe index = .ok (maps index).allocatable)
    {fuel index : Nat} {result : Except Error (Int × Allocatable)}
    (before : ∀ earlier < index, gpuWaitDue clock earlier ∧ ¬ (maps earlier).Positive)
    (ran : waitForGpus clock describe fuel index (maps index).allocatable 0 = some result) :
    ∃ last, LastRead clock maps last ∧
      result = .ok (finalGpuCount clock maps last, (maps last).allocatable) := by
  induction fuel generalizing index with
  | zero => cases ran
  | succ fuel induction =>
      rw [waitForGpus] at ran
      cases Decidable.em (gpuWaitDue clock index) with
      | inr late =>
          rw [if_neg late] at ran
          cases ran
          refine ⟨index, ⟨before, fun due => absurd due late⟩, ?_⟩
          rw [finalGpuCount, if_neg late]
      | inl due =>
          obtain ⟨total, counted, _⟩ := (maps index).migCountOf_eq
          have ended := (maps index).positive_iff counted
          rw [CountedAllocatable.entries] at counted
          have gpu := (maps index).gpuCountOf_eq
          rw [CountedAllocatable.entries] at gpu
          rw [if_pos due, gpu, counted] at ran
          dsimp only at ran
          cases Classical.em ((maps index).Positive) with
          | inl positive =>
              rw [if_pos (ended.mpr positive)] at ran
              cases ran
              refine ⟨index, ⟨before, fun _ => positive⟩, ?_⟩
              rw [finalGpuCount, if_pos due]
          | inr empty =>
              have noGpu : (maps index).count gpuKey = 0 := by
                by_contra some
                exact empty ⟨gpuKey, .inl rfl, Nat.one_le_iff_ne_zero.mpr some⟩
              rw [if_neg (mt ended.mp empty), reports, noGpu] at ran
              exact induction (Nat.forall_lt_succ_right.mpr ⟨before, due, empty⟩) ran

theorem chooseGpuLimits_reads (clock : PausedClock 1)
    (reports : ∀ index, describe index = .ok (maps index).allocatable) {fuel : Nat}
    (enough : 600 < fuel) :
    ∃ last, LastRead clock maps last ∧ chooseGpuLimits clock describe fuel =
      some (.ok (gpuResourceLimits (finalGpuCount clock maps last) (maps last).allocatable)) := by
  obtain ⟨result, ran⟩ := exists_waitForGpus clock describe 0
    (Nat.zero_lt_of_lt enough) enough (maps 0).allocatable 0
  obtain ⟨last, lastRead, rfl⟩ := waitForGpus_reads reports
    (fun earlier below => absurd below (Nat.not_lt_zero earlier)) ran
  refine ⟨last, lastRead, ?_⟩
  rw [chooseGpuLimits, describeAndWait, reports]
  dsimp only
  rw [ran]
  rfl

/-- What the choice should be: a pod requests one resource, which the last map has, and
a node gets none only if no map was positive. -/
structure RequestsAvailable (maps : Nat → CountedAllocatable) (last : Nat)
    (limits : Option (List (Text × Text))) : Prop where
  available : ∀ requested ∈ limits, ∃ resource, requested = [(resource, lit "1")] ∧
    1 ≤ (maps last).count resource
  skipped : limits = none ↔ ∀ index ≤ last, ¬ (maps index).Positive

/-- The condition for it: the first MIG entry of the last map is positive, if there is one,
and a last map without MIG entries that was read too late has no GPU either. -/
structure ChoosesAvailable (clock : PausedClock 1) (maps : Nat → CountedAllocatable)
    (last : Nat) : Prop where
  mig : ∀ key ∈ firstMigKey (maps last).allocatable, 1 ≤ (maps last).count key
  gpu : ¬ gpuWaitDue clock last → firstMigKey (maps last).allocatable = none →
    (maps last).count gpuKey = 0

theorem LastRead.positive_iff {last : Nat} (lastRead : LastRead clock maps last) :
    (∀ index ≤ last, ¬ (maps index).Positive) ↔ ¬ (maps last).Positive := by
  constructor
  · intro none
    exact none last le_rfl
  · intro empty index upTo
    obtain before | rfl := Nat.lt_or_eq_of_le upTo
    · exact (lastRead.before index before).2
    · exact empty

theorem requestsAvailable_iff {last : Nat} (lastRead : LastRead clock maps last) :
    RequestsAvailable maps last
        (gpuResourceLimits (finalGpuCount clock maps last) (maps last).allocatable) ↔
      ChoosesAvailable clock maps last := by
  cases mig : firstMigKey (maps last).allocatable with
  | some key =>
      have has : hasMig (maps last).allocatable ≠ false := by
        intro without
        rw [(maps last).firstMigKey_eq_none_iff.mpr without] at mig
        cases mig
      have isMig : isMigKey key = true := List.find?_some mig
      have chosen : gpuResourceLimits (finalGpuCount clock maps last) (maps last).allocatable =
          some [(key, lit "1")] := by
        rw [gpuResourceLimits, if_neg (fun skip => has skip.2), mig]
      rw [chosen]
      constructor
      · intro requests
        refine ⟨?_, fun _ without => nomatch mig.symm.trans without⟩
        intro other first
        cases mig.symm.trans first
        obtain ⟨resource, same, counts⟩ := requests.available _ rfl
        cases same
        exact counts
      · intro chooses
        have counts := chooses.mig key mig
        refine ⟨?_, ?_⟩
        · intro requested same
          cases same
          exact ⟨key, rfl, counts⟩
        · rw [lastRead.positive_iff]
          exact iff_of_false (fun none => nomatch none)
            (fun empty => empty ⟨key, .inr isMig, counts⟩)
  | none =>
      have without := (maps last).firstMigKey_eq_none_iff.mp mig
      have positive := (maps last).positive_of_no_mig mig
      cases Decidable.em (gpuWaitDue clock last) with
      | inl due =>
          have counts := positive.mp (lastRead.ends due)
          have chosen : gpuResourceLimits (finalGpuCount clock maps last)
              (maps last).allocatable = some [(gpuKey, lit "1")] := by
            rw [gpuResourceLimits, finalGpuCount, if_pos due, if_neg, mig]
            intro skip
            have none : (maps last).count gpuKey = 0 := by exact_mod_cast skip.1
            omega
          rw [chosen]
          refine iff_of_true ⟨?_, ?_⟩ ⟨?_, fun late => absurd due late⟩
          · intro requested same
            cases same
            exact ⟨gpuKey, rfl, counts⟩
          · rw [lastRead.positive_iff]
            exact iff_of_false (fun none => nomatch none)
              (fun empty => empty (lastRead.ends due))
          · intro key first
            cases mig.symm.trans first
      | inr late =>
          have chosen : gpuResourceLimits (finalGpuCount clock maps last)
              (maps last).allocatable = none := by
            rw [gpuResourceLimits, finalGpuCount, if_neg late, if_pos ⟨rfl, without⟩]
          rw [chosen]
          constructor
          · intro requests
            refine ⟨fun key first => (nomatch mig.symm.trans first), fun _ _ => ?_⟩
            have empty := lastRead.positive_iff.mp (requests.skipped.mp rfl)
            rw [positive] at empty
            omega
          · intro chooses
            have empty := chooses.gpu late mig
            refine ⟨fun requested none => (nomatch none), iff_of_true rfl ?_⟩
            rw [lastRead.positive_iff, positive, empty]
            exact Nat.not_succ_le_zero 0

end Reads

end Telescope.Kubernetes
