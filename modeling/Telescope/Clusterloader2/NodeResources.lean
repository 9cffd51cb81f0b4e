import Telescope.Kubernetes.Quantity

namespace Telescope

namespace Clusterloader2

open Kubernetes

/-! The CPU and the memory of a node that its pods leave free, as the autoscale
and the CRI overrides compute them. -/

/-- `node.status.allocatable` -/
structure Allocatable where
  cpu : Text
  memory : Text

def autoscaleFreeCpu (allocatable : Allocatable) (pods : List NodePod) : Except Error Int := do
  let cpuValue ← intOf (replaceText (lit "m") [] allocatable.cpu)
  let allocated ← getDaemonsetsPodsAllocatedResources pods
  return cpuValue - allocated.1

def memoryValue (allocatableMemory : Text) : Except Error Int :=
  if containsText (lit "Mi") allocatableMemory then do
    return (← intOf (replaceText (lit "Mi") [] allocatableMemory)) * 1024
  else if containsText (lit "Ki") allocatableMemory then
    intOf (replaceText (lit "Ki") [] allocatableMemory)
  else
    .error ⟨.external, lit "Unexpected format of allocatable memory node property"⟩

def criFreeResources (allocatable : Allocatable) (pods : List NodePod) :
    Except Error (Int × Int) := do
  let cpuValue ← intOf (replaceText (lit "m") [] allocatable.cpu)
  let memory ← memoryValue allocatable.memory
  let allocated ← getDaemonsetsPodsAllocatedResources pods
  return (cpuValue - allocated.1, memory - allocated.2)

theorem intOf_allocatable (cpu : CpuQuantity) :
    (Readable cpu.digits ∧ intOf (replaceText (lit "m") [] cpu.text) = .ok cpu.number) ∨
      (¬Readable cpu.digits ∧
        ∃ error, intOf (replaceText (lit "m") [] cpu.text) = .error error) := by
  rw [replace_milli]
  exact intOf_digits cpu.digits

theorem containsText_unit (digits : Digits) (unit : Text) :
    containsText unit (digits.chars ++ unit) = true :=
  decide_eq_true (List.suffix_append digits.chars unit).isInfix

private theorem not_containsText_mebi (digits : Digits) :
    containsText (lit "Mi") (digits.chars ++ lit "Ki") = false := by
  refine decide_eq_false fun inside => ?_
  have member : 'M' ∈ digits.chars ++ lit "Ki" := inside.subset (by decide)
  rw [List.mem_append] at member
  rcases member with digit | unit
  · exact digits_not_mem digits (by decide) digit
  · exact absurd unit (by decide)

private theorem memoryValue_cases {memory : MemoryQuantity}
    (unit : memory.unit = .ki ∨ memory.unit = .mi) :
    (Readable memory.digits ∧ memoryValue memory.text = .ok memory.kib) ∨
      (¬Readable memory.digits ∧ ∃ error, memoryValue memory.text = .error error) := by
  obtain ⟨digits, unit'⟩ := memory
  unfold memoryValue MemoryQuantity.text
  rcases unit with rfl | rfl
  · have removed : replaceText (lit "Ki") [] (digits.chars ++ lit "Ki") = digits.chars :=
      (replaceText_append_of_absent (digits_not_mem _ (by decide)) _ [] _).trans
        (List.append_nil _)
    have mebi := not_containsText_mebi digits
    have kibi := containsText_unit digits (lit "Ki")
    simp only [MemoryUnit.text, mebi, kibi, removed, Bool.false_eq_true, if_false, if_true,
      MemoryQuantity.kib, MemoryUnit.kib, mul_one]
    exact intOf_digits digits
  · have mebi := containsText_unit digits (lit "Mi")
    simp only [MemoryUnit.text, mebi, replace_mebi, if_true, MemoryQuantity.kib, MemoryUnit.kib]
    rcases intOf_digits digits with ⟨readable, read⟩ | ⟨unreadable, error, read⟩
    · exact .inl ⟨readable, by rw [read]; rfl⟩
    · exact .inr ⟨unreadable, error, by rw [read]; rfl⟩

theorem criFreeResources_cases (cpu : CpuQuantity) {memory : MemoryQuantity}
    (unit : memory.unit = .ki ∨ memory.unit = .mi) (pods : List PodRequests) :
    ((Readable cpu.digits ∧ Readable memory.digits ∧
        ∀ requests ∈ requestsOf pods, requests.Readable) ∧
      criFreeResources ⟨cpu.text, memory.text⟩ (pods.map (·.pod)) =
        .ok (cpu.number - totalOf (·.cpuNumber) pods, memory.kib - totalOf (·.kib) pods)) ∨
    (¬(Readable cpu.digits ∧ Readable memory.digits ∧
        ∀ requests ∈ requestsOf pods, requests.Readable) ∧
      ∃ error, criFreeResources ⟨cpu.text, memory.text⟩ (pods.map (·.pod)) = .error error) := by
  unfold criFreeResources
  rcases intOf_allocatable cpu with ⟨cpuReadable, cpuRead⟩ | ⟨unreadable, error, cpuRead⟩
  · rcases memoryValue_cases unit with
      ⟨memoryReadable, memoryRead⟩ | ⟨unreadable, error, memoryRead⟩
    · rcases allocated_cases pods with ⟨readable, allocated⟩ | ⟨unreadable, error, allocated⟩
      · refine .inl ⟨⟨cpuReadable, memoryReadable, readable⟩, ?_⟩
        rw [cpuRead, memoryRead, allocated]
        rfl
      · refine .inr ⟨fun all => unreadable all.2.2, error, ?_⟩
        rw [cpuRead, memoryRead, allocated]
        rfl
    · refine .inr ⟨fun all => unreadable all.2.1, error, ?_⟩
      rw [cpuRead, memoryRead]
      rfl
  · refine .inr ⟨fun all => unreadable all.1, error, ?_⟩
    rw [cpuRead]
    rfl

/-- The totals and the free resources are exact exactly when no nonzero CPU
quantity is written in whole cores, memory is requested in Mi, and no number is
too long for `int`. -/
theorem quantities_exact_iff (pods : List PodRequests) (cpu : CpuQuantity)
    {memory : MemoryQuantity} (unit : memory.unit = .ki ∨ memory.unit = .mi) :
    (getDaemonsetsPodsAllocatedResources (pods.map (·.pod)) =
        .ok (totalOf (·.millicores) pods, totalOf (·.kib) pods) ∧
      autoscaleFreeCpu ⟨cpu.text, memory.text⟩ (pods.map (·.pod)) =
        .ok (cpu.millicores - totalOf (·.millicores) pods) ∧
      criFreeResources ⟨cpu.text, memory.text⟩ (pods.map (·.pod)) =
        .ok (cpu.millicores - totalOf (·.millicores) pods,
          memory.kib - totalOf (·.kib) pods)) ↔
      ((∀ requests ∈ requestsOf pods, requests.Readable ∧ requests.misread = 0) ∧
        Readable cpu.digits ∧ cpu.misread = 0 ∧ Readable memory.digits) := by
  have numbers := totalOf_millicores pods
  have allocatable := cpu.millicores_eq
  have noneMisread := totalOf_misread_eq_zero_iff pods
  rw [forall₂_and, ← noneMisread]
  constructor
  · rintro ⟨allocatedExact, -, criExact⟩
    rcases allocated_cases pods with ⟨readable, allocated⟩ | ⟨-, error, allocated⟩
    · rw [allocated, Except.ok.injEq, Prod.mk.injEq] at allocatedExact
      rcases criFreeResources_cases cpu unit pods with
        ⟨⟨cpuReadable, memoryReadable, -⟩, free⟩ | ⟨-, error, free⟩
      · rw [free, Except.ok.injEq, Prod.mk.injEq] at criExact
        exact ⟨⟨readable, by omega⟩, cpuReadable, by omega, memoryReadable⟩
      · rw [free] at criExact
        exact nomatch criExact
    · rw [allocated] at allocatedExact
      exact nomatch allocatedExact
  · rintro ⟨⟨readable, none⟩, cpuReadable, cpuExact, memoryReadable⟩
    have cpuTotal : totalOf (·.cpuNumber) pods = totalOf (·.millicores) pods := by omega
    have cpuNumber : cpu.number = cpu.millicores := by omega
    have allocated : getDaemonsetsPodsAllocatedResources (pods.map (·.pod)) =
        .ok (totalOf (·.millicores) pods, totalOf (·.kib) pods) := by
      rcases allocated_cases pods with ⟨-, allocated⟩ | ⟨unreadable, -⟩
      · rw [allocated, cpuTotal]
      · exact absurd readable unreadable
    refine ⟨allocated, ?_, ?_⟩
    · rcases intOf_allocatable cpu with ⟨-, read⟩ | ⟨unreadable, -⟩
      · rw [autoscaleFreeCpu, read, allocated, cpuNumber]
        rfl
      · exact absurd cpuReadable unreadable
    · rcases criFreeResources_cases cpu unit pods with ⟨-, free⟩ | ⟨unreadable, -⟩
      · rw [free, cpuNumber, cpuTotal]
      · exact absurd ⟨cpuReadable, memoryReadable, readable⟩ unreadable

def proxyRequests : ResourceRequests where
  cpu := some (.milli (digitsOf (lit "250") (by decide) (by decide)))
  memory := some ⟨digitsOf (lit "64") (by decide) (by decide), .mi⟩
  others := []
  othersApart := by simp

def allocatableCpu : CpuQuantity := .milli (digitsOf (lit "3900") (by decide) (by decide))

def allocatableMemory : MemoryQuantity := ⟨digitsOf (lit "8000000") (by decide) (by decide), .ki⟩

theorem quantities_exact_proxy :
    autoscaleFreeCpu ⟨allocatableCpu.text, allocatableMemory.text⟩
        [PodRequests.pod ⟨[none, some proxyRequests]⟩] = .ok 3650 := by
  have requests : ∀ requests ∈ requestsOf [⟨[none, some proxyRequests]⟩],
      requests.Readable ∧ requests.misread = 0 := by
    refine List.forall_mem_singleton.mpr ⟨⟨?_, ?_⟩, rfl⟩
    · rintro quantity ⟨⟩
      exact of_decide_eq_true rfl
    · rintro quantity ⟨⟩
      exact ⟨rfl, of_decide_eq_true rfl⟩
  have unit : allocatableMemory.unit = .ki ∨ allocatableMemory.unit = .mi := .inl rfl
  exact ((quantities_exact_iff _ allocatableCpu unit).mpr
    ⟨requests, by decide, rfl, by decide⟩).2.1

/-- Two cores, counted as two millicores. -/
def coresRequests : ResourceRequests where
  cpu := some (.cores (digitsOf (lit "2") (by decide) (by decide)))
  memory := none
  others := []
  othersApart := by simp

theorem not_allocated_exact :
    ¬∀ pods : List PodRequests, getDaemonsetsPodsAllocatedResources (pods.map (·.pod)) =
      .ok (totalOf (·.millicores) pods, totalOf (·.kib) pods) := by
  intro allocated
  have same : (Except.ok (2, 0) : Except Error (Int × Int)) = .ok (2000, 0) :=
    allocated [⟨[some coresRequests]⟩]
  rw [Except.ok.injEq] at same
  exact absurd same (by decide)

end Clusterloader2

end Telescope
