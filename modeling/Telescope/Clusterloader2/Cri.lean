import Telescope.Clusterloader2.NodeResources

namespace Telescope

namespace Clusterloader2

open Kubernetes

/-! The overrides of the CRI load test: how many pods a node gets and what each
of them requests and consumes. -/

structure CriArguments where
  nodeCount : Int
  nodePerStep : Int
  maxPods : Int
  repeats : Int
  operationTimeout : Text
  loadType : Text
  scaleEnabled : Bool
  podStartupLatencyThreshold : Text
  provider : Text
  registryEndpoint : Text
  testImage : Text
  osType : Text
  scrapeKubelets : Bool
  scrapeContainerd : Bool
  containerdScrapeInterval : Text
  hostNetwork : Bool
  memoryRequestOverride : Option Text

structure CriOverrides where
  deploymentSize : Int
  consumeMemory : Int
  consumeMemoryKi : Int
  consumeCpu : Int
  steps : Int

def floorDivide (left right : Int) : Except Error Int :=
  if right = 0 then .error .zeroDivision else .ok (left.fdiv right)

def overriddenMemory (override : Text) : Except Error Int := do
  if (lit "Mi").isSuffixOf override then
    return (← intOf (replaceText (lit "Mi") [] override)) * 1024
  else if (lit "Gi").isSuffixOf override then
    return (← intOf (replaceText (lit "Gi") [] override)) * 1024 * 1024
  else if (lit "Ki").isSuffixOf override then
    intOf (replaceText (lit "Ki") [] override)
  else
    intOf override

/-- The factor 0.95 is read exactly. -/
def memoryRequest (override : Option Text) (freeMemory podCount : Int) : Except Error Int :=
  match presentText override with
  | some override => overriddenMemory override
  | none => floorDivide (freeMemory * 19) (podCount * 20)

/-- `override_config_clusterloader2`; the factor 1.024 is read exactly. -/
def overrideConfigClusterloader2 (nodes : List Allocatable) (pods : List NodePod)
    (arguments : CriArguments) : Except Error CriOverrides :=
  match nodes with
  | [] => .error ⟨.external, lit "No nodes found with the label cri-resource-consume=true"⟩
  | node :: _ => do
      let free ← criFreeResources node pods
      let podCount := arguments.maxPods - getDaemonsetsPodsCount pods
      let cpuRequest ← floorDivide free.1 podCount
      let memoryRequestInKi ← memoryRequest arguments.memoryRequestOverride free.2 podCount
      let memoryRequestInK := (memoryRequestInKi * 125).fdiv 128
      let memoryRequestInM := memoryRequestInK.fdiv 1000
      let steps ← floorDivide arguments.nodeCount arguments.nodePerStep
      return {
        deploymentSize := podCount
        consumeMemory :=
          if arguments.osType = lit "windows" then memoryRequestInM else memoryRequestInK
        consumeMemoryKi := memoryRequestInKi
        consumeCpu := cpuRequest
        steps }

def boolText (value : Bool) : Text := if value then lit "true" else lit "false"

def CriOverrides.lines (overrides : CriOverrides) (arguments : CriArguments) : List Text :=
  [lit "CL2_DEPLOYMENT_SIZE: " ++ intText overrides.deploymentSize,
    lit "CL2_RESOURCE_CONSUME_MEMORY: " ++ intText overrides.consumeMemory,
    lit "CL2_RESOURCE_CONSUME_MEMORY_KI: " ++ intText overrides.consumeMemoryKi ++ lit "Ki",
    lit "CL2_RESOURCE_CONSUME_CPU: " ++ intText overrides.consumeCpu,
    lit "CL2_REPEATS: " ++ intText arguments.repeats,
    lit "CL2_NODE_COUNT: " ++ intText arguments.nodeCount,
    lit "CL2_NODE_PER_STEP: " ++ intText arguments.nodePerStep,
    lit "CL2_STEPS: " ++ intText overrides.steps,
    lit "CL2_OPERATION_TIMEOUT: " ++ arguments.operationTimeout,
    lit "CL2_LOAD_TYPE: " ++ arguments.loadType,
    lit "CL2_SCALE_ENABLED: " ++ boolText arguments.scaleEnabled,
    lit "CL2_PROMETHEUS_TOLERATE_MASTER: true",
    lit "CL2_PROMETHEUS_CPU_SCALE_FACTOR: 30.0",
    lit "CL2_PROMETHEUS_MEMORY_LIMIT_FACTOR: 30.0",
    lit "CL2_PROMETHEUS_MEMORY_SCALE_FACTOR: 30.0",
    lit "CL2_PROMETHEUS_NODE_SELECTOR: \"prometheus: \\\"true\\\"\"",
    lit "CL2_POD_STARTUP_LATENCY_THRESHOLD: " ++ arguments.podStartupLatencyThreshold,
    lit "CL2_PROVIDER: " ++ arguments.provider,
    lit "CL2_REGISTRY_ENDPOINT: " ++ arguments.registryEndpoint,
    lit "CL2_TEST_IMAGE: " ++ arguments.testImage,
    lit "CL2_OS_TYPE: " ++ arguments.osType,
    lit "CL2_SCRAPE_KUBELETS: " ++ boolText arguments.scrapeKubelets,
    lit "CL2_SCRAPE_CONTAINERD: " ++ boolText arguments.scrapeContainerd] ++
  (if arguments.scrapeContainerd then
    [lit "CONTAINERD_SCRAPE_INTERVAL: " ++ arguments.containerdScrapeInterval]
  else []) ++
  [lit "CL2_HOST_NETWORK: " ++ boolText arguments.hostNetwork]

/-! What a load has to satisfy to fit on the node beside the pods it has. -/

structure LoadFits (overrides : CriOverrides) (windows : Bool)
    (existing maxPods allocatedCpu allocatableCpu allocatedMemory allocatableMemory : Int) :
    Prop where
  positive : 0 < overrides.deploymentSize
  total : overrides.deploymentSize + existing = maxPods
  cpu : overrides.deploymentSize * overrides.consumeCpu + allocatedCpu ≤ allocatableCpu
  memory : overrides.deploymentSize * overrides.consumeMemoryKi + allocatedMemory ≤
    allocatableMemory
  cpuNonneg : 0 ≤ overrides.consumeCpu
  memoryNonneg : 0 ≤ overrides.consumeMemoryKi
  consumeNonneg : 0 ≤ overrides.consumeMemory
  consumed : overrides.consumeMemory * (if windows then 1024 else 1) ≤ overrides.consumeMemoryKi

def computedOverrides (freeCpu freeMemory podCount : Int) (arguments : CriArguments) :
    CriOverrides where
  deploymentSize := podCount
  consumeMemory :=
    if arguments.osType = lit "windows" then
      freeMemory * 19 / (podCount * 20) * 125 / 128 / 1000
    else freeMemory * 19 / (podCount * 20) * 125 / 128
  consumeMemoryKi := freeMemory * 19 / (podCount * 20)
  consumeCpu := freeCpu / podCount
  steps := arguments.nodeCount.fdiv arguments.nodePerStep

theorem overrideConfig_of_free {node : Allocatable} (others : List Allocatable)
    {pods : List NodePod} {arguments : CriArguments} {freeCpu freeMemory : Int}
    (free : criFreeResources node pods = .ok (freeCpu, freeMemory))
    (noOverride : presentText arguments.memoryRequestOverride = none)
    (room : (pods.length : Int) < arguments.maxPods) (steps : arguments.nodePerStep ≠ 0) :
    overrideConfigClusterloader2 (node :: others) pods arguments =
      .ok (computedOverrides freeCpu freeMemory (arguments.maxPods - pods.length) arguments) := by
  have positive : 0 < arguments.maxPods - pods.length := by omega
  have positiveScaled : 0 < (arguments.maxPods - pods.length) * 20 := by omega
  unfold overrideConfigClusterloader2
  simp only [free, memoryRequest, noOverride, getDaemonsetsPodsCount, floorDivide, positive.ne',
    positiveScaled.ne', steps, if_false]
  simp only [Int.fdiv_eq_ediv_of_nonneg _ positive.le,
    Int.fdiv_eq_ediv_of_nonneg _ positiveScaled.le,
    Int.fdiv_eq_ediv_of_nonneg _ (show (0 : Int) ≤ 128 by decide),
    Int.fdiv_eq_ediv_of_nonneg _ (show (0 : Int) ≤ 1000 by decide)]
  rfl

/-- The consumption is rounded down twice, from a request that is not negative. -/
theorem consumed_le {request : Int} (nonneg : 0 ≤ request) :
    0 ≤ request * 125 / 128 ∧ 0 ≤ request * 125 / 128 / 1000 ∧
      request * 125 / 128 ≤ request ∧ request * 125 / 128 / 1000 * 1024 ≤ request := by
  omega

private theorem memory_fits {freeMemory podCount : Int} (positive : 0 < podCount)
    (nonneg : 0 ≤ freeMemory) :
    0 ≤ freeMemory * 19 / (podCount * 20) ∧
      podCount * (freeMemory * 19 / (podCount * 20)) ≤ freeMemory := by
  have scaled : 0 < podCount * 20 := by omega
  have below : podCount * 20 * (freeMemory * 19 / (podCount * 20)) ≤ freeMemory * 19 :=
    Int.mul_ediv_self_le scaled.ne'
  refine ⟨Int.ediv_nonneg (by omega) scaled.le, ?_⟩
  rw [Int.mul_right_comm] at below
  omega

/-- Everything but the CPU fits; the CPU does when what was not counted of the
requests is at most the remainder of the division. -/
theorem loadFits_computed_iff {freeCpu freeMemory existing : Int} {arguments : CriArguments}
    (room : existing < arguments.maxPods) (cpuNonneg : 0 ≤ freeCpu)
    (memoryNonneg : 0 ≤ freeMemory)
    {allocatedCpu allocatableCpu allocatedMemory allocatableMemory : Int}
    (memory : freeMemory = allocatableMemory - allocatedMemory) :
    LoadFits (computedOverrides freeCpu freeMemory (arguments.maxPods - existing) arguments)
        (arguments.osType = lit "windows") existing arguments.maxPods allocatedCpu allocatableCpu
        allocatedMemory allocatableMemory ↔
      allocatedCpu - (allocatableCpu - freeCpu) ≤ freeCpu % (arguments.maxPods - existing) := by
  have positive : 0 < arguments.maxPods - existing := by omega
  have division : (arguments.maxPods - existing) * (freeCpu / (arguments.maxPods - existing)) +
      freeCpu % (arguments.maxPods - existing) = freeCpu := Int.mul_ediv_add_emod _ _
  obtain ⟨requestNonneg, requestsFit⟩ := memory_fits positive memoryNonneg
  obtain ⟨linuxNonneg, windowsNonneg, linuxConsumed, windowsConsumed⟩ := consumed_le requestNonneg
  constructor
  · intro fits
    have cpu := fits.cpu
    simp only [computedOverrides] at cpu
    omega
  · intro remainder
    refine ⟨positive, Int.sub_add_cancel _ _, ?_, ?_, Int.ediv_nonneg cpuNonneg positive.le,
      requestNonneg, ?_, ?_⟩
    · simp only [computedOverrides]
      omega
    · simp only [computedOverrides]
      omega
    · simp only [computedOverrides]
      split
      · exact windowsNonneg
      · exact linuxNonneg
    · simp only [computedOverrides]
      by_cases windows : arguments.osType = lit "windows"
      · simpa [windows] using windowsConsumed
      · simpa [windows] using linuxConsumed

theorem overrideConfig_ok {node : Allocatable} {others : List Allocatable}
    {pods : List NodePod} {arguments : CriArguments} {overrides : CriOverrides}
    (written : overrideConfigClusterloader2 (node :: others) pods arguments = .ok overrides) :
    arguments.nodePerStep ≠ 0 ∧ ∃ free, criFreeResources node pods = .ok free := by
  obtain ⟨free, freeRead, later⟩ := exists_of_bind_eq_ok written
  obtain ⟨cpuRequest, -, later⟩ := exists_of_bind_eq_ok later
  obtain ⟨memoryRequest, -, later⟩ := exists_of_bind_eq_ok later
  obtain ⟨steps, stepsRead, -⟩ := exists_of_bind_eq_ok later
  refine ⟨fun zero => ?_, free, freeRead⟩
  rw [zero] at stepsRead
  exact nomatch stepsRead

/-- The load fits the node exactly when the pods' requests can be read, the
steps can be counted, and the CPU requests in whole cores do not exceed what the
division leaves over. -/
theorem criLoad_fits_iff (digits : Digits) {memory : MemoryQuantity}
    (unit : memory.unit = .ki ∨ memory.unit = .mi) (pods : List PodRequests)
    (others : List Allocatable) {arguments : CriArguments}
    (cpuEnough : totalOf (·.millicores) pods ≤ (CpuQuantity.milli digits).millicores)
    (memoryEnough : totalOf (·.kib) pods ≤ memory.kib)
    (room : (pods.length : Int) < arguments.maxPods)
    (noOverride : presentText arguments.memoryRequestOverride = none) :
    (∃ overrides,
      overrideConfigClusterloader2 (⟨(CpuQuantity.milli digits).text, memory.text⟩ :: others)
        (pods.map (·.pod)) arguments = .ok overrides ∧
      LoadFits overrides (arguments.osType = lit "windows") pods.length arguments.maxPods
        (totalOf (·.millicores) pods) (CpuQuantity.milli digits).millicores
        (totalOf (·.kib) pods) memory.kib) ↔
    ((Readable digits ∧ Readable memory.digits ∧
        ∀ requests ∈ requestsOf pods, requests.Readable) ∧
      arguments.nodePerStep ≠ 0 ∧
      totalOf (·.misread) pods ≤
        ((CpuQuantity.milli digits).number - totalOf (·.cpuNumber) pods) %
          (arguments.maxPods - pods.length)) := by
  have numbers := totalOf_millicores pods
  have uncounted := totalOf_misread_nonneg pods
  have exactCpu : (CpuQuantity.milli digits).number = (CpuQuantity.milli digits).millicores := rfl
  have podRoom : ((pods.map (·.pod)).length : Int) < arguments.maxPods := by simpa using room
  constructor
  · rintro ⟨overrides, written, fits⟩
    obtain ⟨steps, free, freeRead⟩ := overrideConfig_ok written
    rcases criFreeResources_cases (.milli digits) unit pods with
      ⟨readable, computed⟩ | ⟨-, error, computed⟩
    · rw [overrideConfig_of_free others computed noOverride podRoom steps, Except.ok.injEq,
        List.length_map] at written
      rw [← written, loadFits_computed_iff room (by omega) (by omega) rfl] at fits
      exact ⟨readable, steps, by omega⟩
    · rw [computed] at freeRead
      exact nomatch freeRead
  · rintro ⟨readable, steps, remainder⟩
    rcases criFreeResources_cases (.milli digits) unit pods with
      ⟨-, computed⟩ | ⟨unreadable, -⟩
    · refine ⟨_, overrideConfig_of_free others computed noOverride podRoom steps, ?_⟩
      rw [List.length_map, loadFits_computed_iff room (by omega) (by omega) rfl]
      omega
    · exact absurd readable unreadable

def criArguments (maxPods : Int) : CriArguments where
  nodeCount := 10
  nodePerStep := 2
  maxPods := maxPods
  repeats := 1
  operationTimeout := lit "3m"
  loadType := lit "memory"
  scaleEnabled := false
  podStartupLatencyThreshold := lit "15s"
  provider := lit "aks"
  registryEndpoint := lit "mcr"
  testImage := lit "resource-consumer"
  osType := lit "linux"
  scrapeKubelets := true
  scrapeContainerd := false
  containerdScrapeInterval := lit "5m"
  hostNetwork := true
  memoryRequestOverride := none

theorem criLoad_fits_proxy :
    ∃ overrides,
      overrideConfigClusterloader2 [⟨allocatableCpu.text, allocatableMemory.text⟩]
        [PodRequests.pod ⟨[none, some proxyRequests]⟩] (criArguments 110) = .ok overrides ∧
      LoadFits overrides (lit "linux" = lit "windows") 1 110 250 3900 65536 8000000 := by
  have requests : ∀ requests ∈ requestsOf [⟨[none, some proxyRequests]⟩], requests.Readable := by
    refine List.forall_mem_singleton.mpr ⟨?_, ?_⟩
    · rintro quantity ⟨⟩
      exact of_decide_eq_true rfl
    · rintro quantity ⟨⟩
      exact ⟨rfl, of_decide_eq_true rfl⟩
  have unit : allocatableMemory.unit = .ki ∨ allocatableMemory.unit = .mi := .inl rfl
  exact (criLoad_fits_iff allocatableCpu.digits unit [⟨[none, some proxyRequests]⟩] []
    (by decide) (by decide) (show 1 < (criArguments 110).maxPods by decide) rfl).mpr
      ⟨⟨by decide, by decide, requests⟩, by decide, by decide⟩

/-- With two cores counted as two millicores, the one pod gets the CPU of both. -/
theorem not_criLoad_fits :
    ¬∀ (pods : List PodRequests) (arguments : CriArguments),
      totalOf (·.millicores) pods ≤ allocatableCpu.millicores →
      totalOf (·.kib) pods ≤ allocatableMemory.kib →
      (pods.length : Int) < arguments.maxPods →
      presentText arguments.memoryRequestOverride = none →
      ∃ overrides,
        overrideConfigClusterloader2 [⟨allocatableCpu.text, allocatableMemory.text⟩]
          (pods.map (·.pod)) arguments = .ok overrides ∧
        LoadFits overrides (arguments.osType = lit "windows") pods.length arguments.maxPods
          (totalOf (·.millicores) pods) allocatableCpu.millicores
          (totalOf (·.kib) pods) allocatableMemory.kib := by
  intro load
  obtain ⟨overrides, written, fits⟩ := load [⟨[some coresRequests]⟩] (criArguments 2)
    (by decide) (by decide) (by decide) rfl
  have unit : allocatableMemory.unit = .ki ∨ allocatableMemory.unit = .mi := .inl rfl
  rcases criFreeResources_cases allocatableCpu unit [⟨[some coresRequests]⟩] with
    ⟨-, free⟩ | ⟨-, error, free⟩
  · have computed := overrideConfig_of_free [] free rfl
      (show 1 < (criArguments 2).maxPods by decide) (by decide)
    have same := computed.symm.trans written
    cases same
    exact absurd fits.cpu (by decide)
  · obtain ⟨-, value, read⟩ := overrideConfig_ok written
    rw [free] at read
    exact nomatch read

end Clusterloader2

end Telescope
