import Telescope.Text.Regex

namespace Telescope

/-! Python exceptions, as far as the code distinguishes them. -/

inductive ErrorKind where
  | valueError
  | runtimeError
  | attributeError
  | indexError
  | typeError
  | zeroDivisionError
  | clientError
  | systemExit
  | machineProvisioningFailed
  | external

structure Error where
  kind : ErrorKind
  message : Text

namespace Error

def valueError (message : Text) : Error := ⟨.valueError, message⟩

def runtimeError (message : Text) : Error := ⟨.runtimeError, message⟩

def typeError (message : Text) : Error := ⟨.typeError, message⟩

def zeroDivision : Error := ⟨.zeroDivisionError, lit "division by zero"⟩

def clientError (message : Text) : Error := ⟨.clientError, message⟩

/-- `sys.exit(1)`; not an `Exception`, so only the process boundary stops it. -/
def systemExit : Error := ⟨.systemExit, lit "1"⟩

end Error

/-- A chain of fallible computations succeeds only through its first one. -/
theorem exists_of_bind_eq_ok {ε α β : Type} {first : Except ε α} {next : α → Except ε β}
    {result : β} (succeeds : (first >>= next) = .ok result) :
    ∃ value, first = .ok value ∧ next value = .ok result := by
  cases first with
  | error error => exact nomatch succeeds
  | ok value => exact ⟨value, rfl, succeeds⟩

/-- A comprehension returns related values exactly when every item does. -/
theorem exists_mapM_iff {ε α β : Type} (convert : α → Except ε β) (related : α → β → Prop)
    (items : List α) :
    (∃ results, items.mapM convert = .ok results ∧ List.Forall₂ related items results) ↔
      ∀ item ∈ items, ∃ result, convert item = .ok result ∧ related item result := by
  induction items with
  | nil => exact ⟨fun _ item member => absurd member List.not_mem_nil, fun _ => ⟨[], rfl, .nil⟩⟩
  | cons item rest induction =>
      rw [List.forall_mem_cons, ← induction, List.mapM_cons]
      constructor
      · rintro ⟨results, converted, pairs⟩
        obtain ⟨first, firstConverted, later⟩ := exists_of_bind_eq_ok converted
        obtain ⟨others, restConverted, collected⟩ := exists_of_bind_eq_ok later
        cases collected
        cases pairs with
        | cons here there => exact ⟨⟨first, firstConverted, here⟩, others, restConverted, there⟩
      · rintro ⟨⟨first, firstConverted, here⟩, others, restConverted, there⟩
        refine ⟨first :: others, ?_, .cons here there⟩
        rw [firstConverted, restConverted]
        rfl

theorem mapM_succeeds_iff {ε α β : Type} (convert : α → Except ε β) (items : List α) :
    (∃ results, items.mapM convert = .ok results) ↔
      ∀ item ∈ items, ∃ result, convert item = .ok result := by
  induction items with
  | nil => exact ⟨fun _ item member => absurd member List.not_mem_nil, fun _ => ⟨[], rfl⟩⟩
  | cons item rest induction =>
      rw [List.forall_mem_cons, ← induction, List.mapM_cons]
      constructor
      · rintro ⟨results, converted⟩
        obtain ⟨first, firstConverted, later⟩ := exists_of_bind_eq_ok converted
        obtain ⟨others, restConverted, collected⟩ := exists_of_bind_eq_ok later
        exact ⟨⟨first, firstConverted⟩, others, restConverted⟩
      · rintro ⟨⟨first, firstConverted⟩, others, restConverted⟩
        rw [firstConverted, restConverted]
        exact ⟨first :: others, rfl⟩

theorem mapM_eq_map {ε α β : Type} {convert : α → Except ε β} {value : α → β}
    {items : List α} (returns : ∀ item ∈ items, convert item = .ok (value item)) :
    items.mapM convert = .ok (items.map value) := by
  induction items with
  | nil => rfl
  | cons item rest induction =>
      have later := induction fun other member => returns other (List.mem_cons_of_mem item member)
      rw [List.mapM_cons, returns item List.mem_cons_self, later]
      rfl

end Telescope
