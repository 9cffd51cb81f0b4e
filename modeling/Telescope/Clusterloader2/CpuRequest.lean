import Telescope.Clusterloader2.NodeResources

namespace Telescope

namespace Clusterloader2

open Kubernetes

/-! The CPU request of the pods of an autoscaling run. -/

/-- The request from the free CPU of a node; the factor 0.85 is read exactly. -/
def cpuRequest (cpuValue nodeCount podCount : Int) : Except Error Int :=
  if nodeCount = 0 then .error .zeroDivision
  else
    let podsPerNode := podCount.fdiv nodeCount
    if podsPerNode = 0 then .error .zeroDivision
    else .ok ((cpuValue.fdiv podsPerNode * 17).tdiv 20)

/-- `calculate_cpu_request_for_clusterloader2` on the first ready node. -/
def calculateCpuRequest (allocatable : Allocatable) (pods : List NodePod)
    (warmupDeployment : Bool) (nodeCount podCount : Int) : Except Error Int := do
  let free ← autoscaleFreeCpu allocatable pods
  let cpuValue := if warmupDeployment then free - 100 else free
  cpuRequest cpuValue nodeCount podCount

/-- The most pods that one of the nodes gets when they are spread evenly. -/
def mostPods (podCount nodeCount : Int) : Int := (podCount + nodeCount - 1) / nodeCount

theorem mostPods_le_iff {nodeCount : Int} (nodes : 0 < nodeCount) (podCount bound : Int) :
    mostPods podCount nodeCount ≤ bound ↔ podCount ≤ nodeCount * bound := by
  rw [← Int.lt_add_one_iff, mostPods, Int.ediv_lt_iff_lt_mul nodes, Int.add_mul, Int.mul_comm]
  omega

private theorem mostPods_pos {podCount nodeCount : Int} (nodes : 0 < nodeCount)
    (pods : 0 < podCount) :
    0 < mostPods podCount nodeCount := by
  by_contra notPositive
  have fits := (mostPods_le_iff nodes podCount 0).mp (by omega)
  rw [Int.mul_zero] at fits
  omega

private theorem le_request_iff {share request : Int} (computed : (share * 17).tdiv 20 = request)
    (positive : 0 < request) (bound : Int) :
    request ≤ bound ↔ 17 * share < 20 * (bound + 1) := by
  have notNegative : 0 ≤ share * 17 := by
    by_contra negative
    have mirrored : (-(share * 17)).tdiv 20 = -(share * 17) / 20 :=
      Int.tdiv_eq_ediv_of_nonneg (by omega)
    rw [Int.neg_tdiv] at mirrored
    omega
  rw [Int.tdiv_eq_ediv_of_nonneg notNegative] at computed
  omega

theorem fits_iff {cpuValue share request nodeCount podCount : Int}
    (computed : (share * 17).tdiv 20 = request) (positive : 0 < request)
    (nodes : 0 < nodeCount) (pods : 0 < podCount) :
    podCount ≤ nodeCount * (cpuValue / request) ↔
      17 * share < 20 * (cpuValue / mostPods podCount nodeCount + 1) := by
  have most := mostPods_pos nodes pods
  calc podCount ≤ nodeCount * (cpuValue / request)
      ↔ mostPods podCount nodeCount ≤ cpuValue / request :=
        (mostPods_le_iff nodes podCount _).symm
    _ ↔ mostPods podCount nodeCount * request ≤ cpuValue := Int.le_ediv_iff_mul_le positive
    _ ↔ request ≤ cpuValue / mostPods podCount nodeCount := by
        rw [Int.le_ediv_iff_mul_le most, Int.mul_comm]
    _ ↔ 17 * share < 20 * (cpuValue / mostPods podCount nodeCount + 1) :=
        le_request_iff computed positive _

/-- The pods fit on the nodes but not on one node less. -/
def Forces (cpuValue nodeCount podCount request : Int) : Prop :=
  podCount ≤ nodeCount * (cpuValue / request) ∧
    (nodeCount - 1) * (cpuValue / request) < podCount

/-- After the reduction, the share of a pod is at most the share of the fullest node's pods,
and above it with one node less. -/
def SharesForce (cpuValue nodeCount podCount : Int) : Prop :=
  17 * (cpuValue / (podCount / nodeCount)) <
      20 * (cpuValue / mostPods podCount nodeCount + 1) ∧
    (nodeCount = 1 ∨ 20 * (cpuValue / mostPods podCount (nodeCount - 1) + 1) ≤
      17 * (cpuValue / (podCount / nodeCount)))

private theorem forces_iff {cpuValue nodeCount podCount request : Int}
    (nodes : 1 ≤ nodeCount) (pods : nodeCount ≤ podCount)
    (computed : cpuRequest cpuValue nodeCount podCount = .ok request) (positive : 0 < request) :
    Forces cpuValue nodeCount podCount request ↔ SharesForce cpuValue nodeCount podCount := by
  have perNode : 0 ≤ podCount / nodeCount := Int.ediv_nonneg (by omega) (by omega)
  have value : (cpuValue / (podCount / nodeCount) * 17).tdiv 20 = request := by
    rw [cpuRequest, if_neg (by omega)] at computed
    dsimp only at computed
    rw [Int.fdiv_eq_ediv_of_nonneg podCount (by omega),
      Int.fdiv_eq_ediv_of_nonneg cpuValue perNode] at computed
    split at computed
    · exact nomatch computed
    · exact Except.ok.inj computed
  refine and_congr (fits_iff value positive (by omega) (by omega)) ?_
  by_cases one : nodeCount = 1
  · subst one
    exact ⟨fun _ => .inl rfl, fun _ => by omega⟩
  · have someNodes : 0 < nodeCount - 1 := by omega
    have somePods : 0 < podCount := by omega
    rw [← not_le, fits_iff value positive someNodes somePods, not_lt]
    exact ⟨.inr, fun enough => enough.resolve_left one⟩

/-- What the client writes forces the nodes under the same condition on the CPU that is free
on the first ready node. -/
theorem calculateCpuRequest_forces_iff {allocatable : Allocatable} {nodePods : List NodePod}
    {warmupDeployment : Bool} {nodeCount podCount request : Int}
    (nodes : 1 ≤ nodeCount) (pods : nodeCount ≤ podCount) (positive : 0 < request)
    (computed : calculateCpuRequest allocatable nodePods warmupDeployment nodeCount podCount =
      .ok request) :
    ∃ free, autoscaleFreeCpu allocatable nodePods = .ok free ∧
      let cpuValue := if warmupDeployment then free - 100 else free
      (Forces cpuValue nodeCount podCount request ↔ SharesForce cpuValue nodeCount podCount) := by
  obtain ⟨free, read, computed⟩ := exists_of_bind_eq_ok computed
  exact ⟨free, read, forces_iff nodes pods computed positive⟩

/-- The pods fit on the nodes but not on one node less exactly when, after the
reduction, the share of a pod is at most the share of the fullest node's pods,
and above it with one node less. -/
theorem cpuRequest_forces_iff {cpuValue nodeCount podCount request : Int}
    (nodes : 1 ≤ nodeCount) (pods : nodeCount ≤ podCount)
    (computed : cpuRequest cpuValue nodeCount podCount = .ok request) (positive : 0 < request) :
    (podCount ≤ nodeCount * (cpuValue / request) ∧
      (nodeCount - 1) * (cpuValue / request) < podCount) ↔
    (17 * (cpuValue / (podCount / nodeCount)) <
        20 * (cpuValue / mostPods podCount nodeCount + 1) ∧
      (nodeCount = 1 ∨ 20 * (cpuValue / mostPods podCount (nodeCount - 1) + 1) ≤
        17 * (cpuValue / (podCount / nodeCount)))) :=
  forces_iff nodes pods computed positive

theorem cpuRequest_forces_ten :
    100 ≤ 10 * ((3900 : Int) / 331) ∧ (10 - 1) * ((3900 : Int) / 331) < 100 :=
  (cpuRequest_forces_iff (by decide) (by decide)
    (show cpuRequest 3900 10 100 = .ok 331 from rfl) (by decide)).mpr (by decide)

/-- Ten pods on three nodes: each node takes three of them. -/
theorem not_cpuRequest_forces :
    ¬∀ cpuValue nodeCount podCount request : Int, 1 ≤ nodeCount → nodeCount ≤ podCount →
      cpuRequest cpuValue nodeCount podCount = .ok request → 0 < request →
        podCount ≤ nodeCount * (cpuValue / request) ∧
          (nodeCount - 1) * (cpuValue / request) < podCount := by
  intro forces
  have fits := forces 3000 3 10 850 (by decide) (by decide) rfl (by decide)
  exact absurd fits (by decide)

end Clusterloader2

end Telescope
