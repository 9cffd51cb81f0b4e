import Mathlib.Data.Rat.Defs
import Telescope.Text.Regex

namespace Telescope

/-! JSON values, and the fields of an object under assignment. -/

inductive Json where
  | null
  | bool (value : Bool)
  | num (value : ℚ)
  | str (value : Text)
  | arr (items : List Json)
  | obj (fields : List (Text × Json))

abbrev Fields := List (Text × Json)

/-- `fields[key] = value` -/
def Fields.set (fields : Fields) (key : Text) (value : Json) : Fields :=
  match fields with
  | [] => [(key, value)]
  | (other, old) :: rest =>
      if other = key then (other, value) :: rest
      else (other, old) :: Fields.set rest key value

/-- `fields.get(key)` -/
def Fields.get? (fields : Fields) (key : Text) : Option Json :=
  match fields with
  | [] => none
  | (other, value) :: rest => if other = key then some value else Fields.get? rest key

theorem Fields.get?_set_self (fields : Fields) (key : Text) (value : Json) :
    (fields.set key value).get? key = some value := by
  induction fields with
  | nil => simp [Fields.set, Fields.get?]
  | cons field rest induction =>
      obtain ⟨other, old⟩ := field
      by_cases same : other = key
      · simp [Fields.set, Fields.get?, same]
      · simp [Fields.set, Fields.get?, same, induction]

theorem Fields.get?_set_of_ne (fields : Fields) {key other : Text} (different : other ≠ key)
    (value : Json) : (fields.set key value).get? other = fields.get? other := by
  induction fields with
  | nil => simp [Fields.set, Fields.get?, different.symm]
  | cons field rest induction =>
      obtain ⟨first, old⟩ := field
      by_cases same : first = key
      · subst same
        simp [Fields.set, Fields.get?, different.symm]
      · by_cases found : first = other
        · subst found
          simp [Fields.set, Fields.get?, same]
        · simp [Fields.set, Fields.get?, same, found, induction]

theorem Fields.get?_map {keys : List Text} {key : Text} (member : key ∈ keys)
    (value : Text → Json) :
    Fields.get? (keys.map fun key => (key, value key)) key = some (value key) := by
  induction keys with
  | nil => exact absurd member List.not_mem_nil
  | cons first rest induction =>
      rw [List.map_cons, Fields.get?]
      by_cases same : first = key
      · rw [if_pos same, same]
      · rw [if_neg same]
        exact induction ((List.mem_cons.mp member).resolve_left fun equal => same equal.symm)

/-- Several assignments, in order. -/
def Fields.setAll (fields : Fields) (assignments : List (Text × Json)) : Fields :=
  assignments.foldl (fun fields assignment => fields.set assignment.1 assignment.2) fields

theorem Fields.setAll_cons (fields : Fields) (assignment : Text × Json)
    (rest : List (Text × Json)) :
    fields.setAll (assignment :: rest) =
      (fields.set assignment.1 assignment.2).setAll rest := rfl

theorem Fields.get?_setAll_of_absent {assignments : List (Text × Json)} {key : Text}
    (absent : ∀ assignment ∈ assignments, assignment.1 ≠ key) (fields : Fields) :
    (fields.setAll assignments).get? key = fields.get? key := by
  induction assignments generalizing fields with
  | nil => rfl
  | cons assignment rest induction =>
      rw [Fields.setAll_cons,
        induction fun other member => absent other (List.mem_cons_of_mem _ member)]
      exact Fields.get?_set_of_ne fields (absent assignment List.mem_cons_self).symm _

theorem Fields.set_set_self (fields : Fields) (key : Text) (old new : Json) :
    (fields.set key old).set key new = fields.set key new := by
  induction fields with
  | nil => simp [Fields.set]
  | cons field rest induction =>
      obtain ⟨other, value⟩ := field
      by_cases same : other = key
      · simp [Fields.set, same]
      · simp [Fields.set, same, induction]

/-- A key that is present keeps its place when it is assigned again. -/
theorem Fields.set_set_set (fields : Fields) {key other : Text} (different : other ≠ key)
    (old value new : Json) :
    ((fields.set key old).set other value).set key new =
      (fields.set key new).set other value := by
  induction fields with
  | nil => simp [Fields.set, different.symm]
  | cons field rest induction =>
      obtain ⟨first, present⟩ := field
      by_cases same : first = key
      · subst same
        simp [Fields.set, different.symm]
      · by_cases found : first = other
        · subst found
          simp [Fields.set, same, Fields.set_set_self]
        · simp [Fields.set, same, found, induction]

theorem Fields.setAll_set {assignments : List (Text × Json)} {key : Text}
    (absent : ∀ assignment ∈ assignments, assignment.1 ≠ key) (fields : Fields)
    (old new : Json) :
    ((fields.set key old).setAll assignments).set key new =
      (fields.set key new).setAll assignments := by
  induction assignments generalizing fields with
  | nil => exact fields.set_set_self key old new
  | cons assignment rest induction =>
      have different := absent assignment List.mem_cons_self
      have later := induction fun other member => absent other (List.mem_cons_of_mem _ member)
      rw [Fields.setAll_cons, Fields.setAll_cons,
        ← fields.set_set_set different old assignment.2 old, later,
        fields.set_set_set different]

/-- Assigning the same keys again, and perhaps more, leaves no trace of the
first assignments. -/
theorem Fields.setAll_setAll {first second : List (Text × Json)}
    (again : first.map Prod.fst <+: second.map Prod.fst)
    (distinct : (second.map Prod.fst).Nodup) (fields : Fields) :
    (fields.setAll first).setAll second = fields.setAll second := by
  induction first generalizing fields second with
  | nil => rfl
  | cons assignment rest induction =>
      cases second with
      | nil => simp at again
      | cons other others =>
          obtain ⟨same, again⟩ := List.cons_prefix_cons.mp again
          obtain ⟨absent, distinct⟩ := List.nodup_cons.mp distinct
          have notAgain : ∀ earlier ∈ rest, earlier.1 ≠ other.1 := by
            intro earlier member equal
            exact absent (equal ▸ again.subset (List.mem_map_of_mem member))
          rw [Fields.setAll_cons, Fields.setAll_cons, same, Fields.setAll_set notAgain,
            induction again distinct, Fields.setAll_cons]

/-- `bool(value)` -/
def Json.truthy : Json → Bool
  | .null => false
  | .bool value => value
  | .num value => value ≠ 0
  | .str value => value ≠ []
  | .arr items => !items.isEmpty
  | .obj fields => !fields.isEmpty

/-- What `for item in value` visits; the other values cannot be iterated. -/
def Json.entries? : Json → Option (List Json)
  | .arr items => some items
  | .str value => some (value.map fun c => .str [c])
  | .obj fields => some (fields.map fun field => .str field.1)
  | _ => none

end Telescope
