import Mathlib.Algebra.BigOperators.Ring.List
import Mathlib.Algebra.Order.BigOperators.Group.List
import Mathlib.Data.List.ReduceOption
import Telescope.Data.Exception
import Telescope.Text.Edit
import Telescope.Text.Integer

namespace Telescope.Kubernetes

/-! The resources that the pods of a node request, as the client adds them up. -/

/-- The requests of a container, by resource; the API may leave them out. -/
structure Container where
  requests : Option (List (Text × Text))

structure NodePod where
  containers : List Container

def intOf (text : Text) : Except Error Int :=
  match parseInteger? text with
  | some value => .ok value
  | none => .error (.valueError (lit "invalid literal for int() with base 10"))

/-- `requests.get(resource, default)` -/
def requestOf (resource default : Text) : List (Text × Text) → Text
  | [] => default
  | (other, quantity) :: rest =>
      if other = resource then quantity else requestOf resource default rest

def addContainer (total : Int × Int) (container : Container) : Except Error (Int × Int) :=
  match container.requests with
  | none => .ok total
  | some [] => .ok total
  | some requests => do
      let cpu ← intOf (replaceText (lit "m") [] (requestOf (lit "cpu") (lit "0m") requests))
      let memory ← intOf (replaceText (lit "Mi") [] (requestOf (lit "memory") (lit "0Mi") requests))
      return (total.1 + cpu, total.2 + memory)

/-- The CPU and the memory that the pods request, meant in millicores and KiB. -/
def getDaemonsetsPodsAllocatedResources (pods : List NodePod) : Except Error (Int × Int) := do
  let total ← (pods.flatMap (·.containers)).foldlM addContainer (0, 0)
  return (total.1, total.2 * 1024)

def getDaemonsetsPodsCount (pods : List NodePod) : Nat := pods.length

/-! Quantities as Kubernetes writes them. -/

inductive CpuQuantity where
  | cores (digits : Digits)
  | milli (digits : Digits)

inductive MemoryUnit where
  | ki
  | mi
  | gi
  deriving DecidableEq

structure MemoryQuantity where
  digits : Digits
  unit : MemoryUnit

namespace CpuQuantity

def digits : CpuQuantity → Digits
  | .cores digits | .milli digits => digits

def text : CpuQuantity → Text
  | .cores digits => digits.chars
  | .milli digits => digits.chars ++ lit "m"

def number (quantity : CpuQuantity) : Int := digitsValue quantity.digits.chars

def millicores : CpuQuantity → Int
  | .cores digits => 1000 * digitsValue digits.chars
  | .milli digits => digitsValue digits.chars

/-- What reading the number as millicores leaves out. -/
def misread : CpuQuantity → Int
  | .cores digits => 999 * digitsValue digits.chars
  | .milli _ => 0

theorem millicores_eq (quantity : CpuQuantity) :
    quantity.millicores = quantity.number + quantity.misread := by
  cases quantity with
  | cores digits =>
      change (1000 * digitsValue digits.chars : Int) =
        digitsValue digits.chars + 999 * digitsValue digits.chars
      omega
  | milli digits => exact (add_zero _).symm

theorem misread_nonneg (quantity : CpuQuantity) : 0 ≤ quantity.misread := by
  cases quantity with
  | cores digits => exact Int.mul_nonneg (by decide) (Int.natCast_nonneg _)
  | milli digits => exact Int.le_refl 0

end CpuQuantity

namespace MemoryUnit

def text : MemoryUnit → Text
  | .ki => lit "Ki"
  | .mi => lit "Mi"
  | .gi => lit "Gi"

def kib : MemoryUnit → Int
  | .ki => 1
  | .mi => 1024
  | .gi => 1024 * 1024

end MemoryUnit

namespace MemoryQuantity

def text (quantity : MemoryQuantity) : Text := quantity.digits.chars ++ quantity.unit.text

def number (quantity : MemoryQuantity) : Int := digitsValue quantity.digits.chars

def kib (quantity : MemoryQuantity) : Int := quantity.number * quantity.unit.kib

end MemoryQuantity

def Readable (digits : Digits) : Prop := digits.chars.length ≤ intMaxStrDigits

instance (digits : Digits) : Decidable (Readable digits) :=
  inferInstanceAs (Decidable (digits.chars.length ≤ intMaxStrDigits))

theorem intOf_digits (digits : Digits) :
    (Readable digits ∧ intOf digits.chars = .ok (digitsValue digits.chars : Int)) ∨
      (¬Readable digits ∧ ∃ error, intOf digits.chars = .error error) := by
  have read : parseInteger? digits.chars =
      if digits.chars.length ≤ intMaxStrDigits then some (digitsValue digits.chars : Int)
      else none := IntegerLiteral.parseInteger?_text ⟨none, digits⟩
  unfold intOf Readable
  by_cases short : digits.chars.length ≤ intMaxStrDigits
  · rw [if_pos short] at read
    exact .inl ⟨short, by rw [read]⟩
  · rw [if_neg short] at read
    exact .inr ⟨short, _, by rw [read]⟩

theorem digits_not_mem (digits : Digits) {c : Char} (notDigit : isDecimal c = false) :
    c ∉ digits.chars := by
  intro member
  rw [digits.decimal c member] at notDigit
  exact nomatch notDigit

theorem replace_milli (quantity : CpuQuantity) :
    replaceText (lit "m") [] quantity.text = quantity.digits.chars := by
  have absent : 'm' ∉ quantity.digits.chars := digits_not_mem _ (by decide)
  cases quantity with
  | cores digits =>
      have removed := replaceText_append_of_absent absent [] [] []
      rw [List.append_nil] at removed
      exact removed.trans (List.append_nil _)
  | milli digits =>
      have removed := replaceText_append_of_absent absent [] [] (lit "m")
      exact removed.trans (List.append_nil _)

theorem replace_mebi (digits : Digits) :
    replaceText (lit "Mi") [] (digits.chars ++ lit "Mi") = digits.chars :=
  (replaceText_append_of_absent (digits_not_mem _ (by decide)) _ [] _).trans (List.append_nil _)

/-- A memory request in another unit keeps its unit, and is not a number. -/
theorem intOf_other_unit {quantity : MemoryQuantity} (other : quantity.unit ≠ .mi) :
    ∃ error, intOf (replaceText (lit "Mi") [] quantity.text) = .error error := by
  obtain ⟨digits, unit⟩ := quantity
  have kept : replaceText (lit "Mi") [] (digits.chars ++ unit.text) =
      digits.chars ++ unit.text := by
    have start := replaceText_append_of_absent (digits_not_mem digits (c := 'M') (by decide))
      (lit "i") [] unit.text
    refine start.trans (congrArg (digits.chars ++ ·) ?_)
    cases unit <;> first | exact absurd rfl other | rfl
  have rejected : parseInteger? (digits.chars ++ unit.text) = none := by
    refine parseInteger?_unit digits 'i' ?_ (by decide) ?_
    · cases unit <;> decide
    · cases unit <;> decide
  exact ⟨_, by rw [intOf, MemoryQuantity.text, kept, rejected]⟩

/-! Containers with requests in these quantities. -/

structure ResourceRequests where
  cpu : Option CpuQuantity
  memory : Option MemoryQuantity
  others : List (Text × Text)
  othersApart : ∀ entry ∈ others, entry.1 ≠ lit "cpu" ∧ entry.1 ≠ lit "memory"

structure PodRequests where
  containers : List (Option ResourceRequests)

namespace ResourceRequests

def entries (requests : ResourceRequests) : List (Text × Text) :=
  (requests.cpu.map fun quantity => (lit "cpu", quantity.text)).toList ++
    (requests.memory.map fun quantity => (lit "memory", quantity.text)).toList ++
    requests.others

def container (requests : Option ResourceRequests) : Container := ⟨requests.map entries⟩

def cpuNumber (requests : ResourceRequests) : Int := (requests.cpu.map (·.number)).getD 0

def millicores (requests : ResourceRequests) : Int := (requests.cpu.map (·.millicores)).getD 0

def misread (requests : ResourceRequests) : Int := (requests.cpu.map (·.misread)).getD 0

def memoryNumber (requests : ResourceRequests) : Int := (requests.memory.map (·.number)).getD 0

def kib (requests : ResourceRequests) : Int := (requests.memory.map (·.kib)).getD 0

/-- The numbers are short enough, and memory is requested in Mi. -/
def Readable (requests : ResourceRequests) : Prop :=
  (∀ quantity ∈ requests.cpu, Kubernetes.Readable quantity.digits) ∧
    ∀ quantity ∈ requests.memory, quantity.unit = .mi ∧ Kubernetes.Readable quantity.digits

theorem requestOf_others {resource : Text}
    (isResource : resource = lit "cpu" ∨ resource = lit "memory")
    (requests : ResourceRequests) (default : Text) :
    requestOf resource default requests.others = default := by
  have apart := requests.othersApart
  revert apart
  induction requests.others with
  | nil => exact fun _ => rfl
  | cons entry rest induction =>
      intro apart
      have different : entry.1 ≠ resource := by
        rcases isResource with rfl | rfl
        · exact (apart entry List.mem_cons_self).1
        · exact (apart entry List.mem_cons_self).2
      rw [requestOf, if_neg different]
      exact induction fun other member => apart other (List.mem_cons_of_mem _ member)

private theorem requestOf_cpu (requests : ResourceRequests) :
    requestOf (lit "cpu") (lit "0m") requests.entries =
      (requests.cpu.map (·.text)).getD (lit "0m") := by
  have others := requestOf_others (.inl rfl) requests (lit "0m")
  unfold entries
  cases requests.cpu with
  | some quantity => rfl
  | none =>
      cases requests.memory with
      | none => exact others
      | some quantity => exact others

private theorem requestOf_memory (requests : ResourceRequests) :
    requestOf (lit "memory") (lit "0Mi") requests.entries =
      (requests.memory.map (·.text)).getD (lit "0Mi") := by
  have others := requestOf_others (.inr rfl) requests (lit "0Mi")
  unfold entries
  cases requests.cpu with
  | none =>
      cases requests.memory with
      | none => exact others
      | some quantity => rfl
  | some first =>
      cases requests.memory with
      | none => exact others
      | some quantity => rfl

/-- The CPU number is read unless it is too long; its unit is not looked at. -/
theorem intOf_cpu (requests : ResourceRequests) :
    ((∀ quantity ∈ requests.cpu, Kubernetes.Readable quantity.digits) ∧
      intOf (replaceText (lit "m") [] (requestOf (lit "cpu") (lit "0m") requests.entries)) =
        .ok requests.cpuNumber) ∨
    (¬(∀ quantity ∈ requests.cpu, Kubernetes.Readable quantity.digits) ∧ ∃ error,
      intOf (replaceText (lit "m") [] (requestOf (lit "cpu") (lit "0m") requests.entries)) =
        .error error) := by
  rw [requestOf_cpu, cpuNumber]
  cases requests.cpu with
  | none => exact .inl ⟨by simp, rfl⟩
  | some quantity =>
      simp only [Option.map_some, Option.getD_some, replace_milli, Option.mem_def,
        Option.some.injEq, forall_eq']
      exact intOf_digits quantity.digits

private theorem intOf_memory (requests : ResourceRequests) :
    ((∀ quantity ∈ requests.memory, quantity.unit = .mi ∧ Kubernetes.Readable quantity.digits) ∧
      intOf (replaceText (lit "Mi") [] (requestOf (lit "memory") (lit "0Mi") requests.entries)) =
        .ok requests.memoryNumber) ∨
    (¬(∀ quantity ∈ requests.memory,
        quantity.unit = .mi ∧ Kubernetes.Readable quantity.digits) ∧ ∃ error,
      intOf (replaceText (lit "Mi") [] (requestOf (lit "memory") (lit "0Mi") requests.entries)) =
        .error error) := by
  rw [requestOf_memory, memoryNumber]
  cases requests.memory with
  | none => exact .inl ⟨by simp, rfl⟩
  | some quantity =>
      simp only [Option.map_some, Option.getD_some, Option.mem_def, Option.some.injEq, forall_eq']
      by_cases mebi : quantity.unit = .mi
      · obtain ⟨digits, unit⟩ := quantity
        subst mebi
        rw [MemoryQuantity.text, MemoryUnit.text, replace_mebi]
        simp only [true_and]
        exact intOf_digits digits
      · exact .inr ⟨fun readable => mebi readable.1, intOf_other_unit mebi⟩

private theorem eq_none_of_entries_eq_nil {requests : ResourceRequests}
    (empty : requests.entries = []) :
    requests.cpu = none ∧ requests.memory = none := by
  simp only [entries, List.append_eq_nil_iff, Option.toList_eq_nil_iff,
    Option.map_eq_none_iff] at empty
  exact empty.1

private theorem addContainer_cases (total : Int × Int) (requests : ResourceRequests) :
    (requests.Readable ∧ addContainer total (container (some requests)) =
      .ok (total.1 + requests.cpuNumber, total.2 + requests.memoryNumber)) ∨
    (¬requests.Readable ∧
      ∃ error, addContainer total (container (some requests)) = .error error) := by
  have cpuRead := requests.intOf_cpu
  have memoryRead := requests.intOf_memory
  simp only [addContainer, container, Option.map_some]
  cases found : requests.entries with
  | nil =>
      obtain ⟨noCpu, noMemory⟩ := eq_none_of_entries_eq_nil found
      refine .inl ⟨⟨by simp [noCpu], by simp [noMemory]⟩, ?_⟩
      simp [cpuNumber, memoryNumber, noCpu, noMemory]
  | cons entry rest =>
      rw [found] at cpuRead memoryRead
      rcases cpuRead with ⟨cpuReadable, cpu⟩ | ⟨cpuUnreadable, error, cpu⟩
      · rcases memoryRead with ⟨memoryReadable, memory⟩ | ⟨memoryUnreadable, error, memory⟩
        · refine .inl ⟨⟨cpuReadable, memoryReadable⟩, ?_⟩
          simp only [cpu, memory]
          rfl
        · refine .inr ⟨fun readable => memoryUnreadable readable.2, error, ?_⟩
          simp only [cpu, memory]
          rfl
      · refine .inr ⟨fun readable => cpuUnreadable readable.1, error, ?_⟩
        simp only [cpu]
        rfl

private theorem memoryNumber_mul {requests : ResourceRequests} (readable : requests.Readable) :
    requests.memoryNumber * 1024 = requests.kib := by
  have mebi := readable.2
  unfold memoryNumber kib
  cases found : requests.memory with
  | none => rfl
  | some quantity =>
      rw [found] at mebi
      simp [MemoryQuantity.kib, (mebi quantity rfl).1, MemoryUnit.kib]

theorem millicores_eq (requests : ResourceRequests) :
    requests.millicores = requests.cpuNumber + requests.misread := by
  unfold millicores cpuNumber misread
  cases requests.cpu with
  | none => rfl
  | some quantity => exact quantity.millicores_eq

theorem misread_nonneg (requests : ResourceRequests) : 0 ≤ requests.misread := by
  unfold misread
  cases requests.cpu with
  | none => exact Int.le_refl 0
  | some quantity => exact quantity.misread_nonneg

end ResourceRequests

/-! All the pods of a node. -/

def PodRequests.pod (pod : PodRequests) : NodePod :=
  ⟨pod.containers.map ResourceRequests.container⟩

def requestsOf (pods : List PodRequests) : List ResourceRequests :=
  (pods.flatMap (·.containers)).reduceOption

def totalOf (measure : ResourceRequests → Int) (pods : List PodRequests) : Int :=
  ((requestsOf pods).map measure).sum

private theorem foldlM_addContainer_cases (containers : List (Option ResourceRequests))
    (total : Int × Int) :
    ((∀ requests ∈ containers.reduceOption, requests.Readable) ∧
      (containers.map ResourceRequests.container).foldlM addContainer total =
        .ok (total.1 + (containers.reduceOption.map (·.cpuNumber)).sum,
          total.2 + (containers.reduceOption.map (·.memoryNumber)).sum)) ∨
    (¬(∀ requests ∈ containers.reduceOption, requests.Readable) ∧ ∃ error,
      (containers.map ResourceRequests.container).foldlM addContainer total = .error error) := by
  induction containers generalizing total with
  | nil => exact .inl ⟨by simp [List.reduceOption], by simp [List.reduceOption]; rfl⟩
  | cons first rest induction =>
      rw [List.map_cons, List.foldlM_cons]
      cases first with
      | none =>
          rw [List.reduceOption_cons_of_none]
          exact induction total
      | some requests =>
          rw [List.reduceOption_cons_of_some, List.forall_mem_cons]
          rcases requests.addContainer_cases total with ⟨readable, step⟩ | ⟨unreadable, error, step⟩
          · rw [step]
            rcases induction (total.1 + requests.cpuNumber, total.2 + requests.memoryNumber) with
              ⟨later, run⟩ | ⟨later, error, run⟩
            · refine .inl ⟨⟨readable, later⟩, run.trans ?_⟩
              simp only [List.map_cons, List.sum_cons, add_assoc]
            · exact .inr ⟨fun all => later all.2, error, run⟩
          · rw [step]
            exact .inr ⟨fun all => unreadable all.1, error, rfl⟩

theorem allocated_cases (pods : List PodRequests) :
    ((∀ requests ∈ requestsOf pods, requests.Readable) ∧
      getDaemonsetsPodsAllocatedResources (pods.map (·.pod)) =
        .ok (totalOf (·.cpuNumber) pods, totalOf (·.kib) pods)) ∨
    (¬(∀ requests ∈ requestsOf pods, requests.Readable) ∧
      ∃ error, getDaemonsetsPodsAllocatedResources (pods.map (·.pod)) = .error error) := by
  have containers : (pods.map (·.pod)).flatMap (·.containers) =
      (pods.flatMap (·.containers)).map ResourceRequests.container := by
    rw [List.flatMap_map, List.map_flatMap]
    rfl
  unfold getDaemonsetsPodsAllocatedResources
  rw [containers]
  rcases foldlM_addContainer_cases (pods.flatMap (·.containers)) (0, 0) with
    ⟨readable, run⟩ | ⟨unreadable, error, run⟩
  · have memory :
        (((pods.flatMap (·.containers)).reduceOption.map (·.memoryNumber)).sum * 1024 : Int) =
        totalOf (·.kib) pods := by
      rw [← List.sum_map_mul_right]
      refine congrArg List.sum (List.map_congr_left ?_)
      intro requests member
      exact ResourceRequests.memoryNumber_mul (readable requests member)
    refine .inl ⟨readable, ?_⟩
    rw [run, ← memory]
    simp only [zero_add]
    rfl
  · refine .inr ⟨unreadable, error, ?_⟩
    rw [run]
    rfl

theorem totalOf_millicores (pods : List PodRequests) :
    totalOf (·.millicores) pods = totalOf (·.cpuNumber) pods + totalOf (·.misread) pods := by
  unfold totalOf
  rw [← List.sum_map_add]
  exact congrArg List.sum (List.map_congr_left fun requests _ => requests.millicores_eq)

theorem sum_misread_nonneg (requests : List ResourceRequests) :
    0 ≤ (requests.map (·.misread)).sum :=
  List.sum_nonneg (List.forall_mem_map.mpr fun other _ => other.misread_nonneg)

theorem totalOf_misread_nonneg (pods : List PodRequests) : 0 ≤ totalOf (·.misread) pods :=
  sum_misread_nonneg (requestsOf pods)

theorem totalOf_misread_eq_zero_iff (pods : List PodRequests) :
    totalOf (·.misread) pods = 0 ↔ ∀ requests ∈ requestsOf pods, requests.misread = 0 := by
  unfold totalOf
  induction requestsOf pods with
  | nil => simp
  | cons requests rest induction =>
      have here := requests.misread_nonneg
      have later := sum_misread_nonneg rest
      rw [List.map_cons, List.sum_cons, List.forall_mem_cons, ← induction]
      omega

end Telescope.Kubernetes
