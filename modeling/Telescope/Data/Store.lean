import Mathlib.Data.List.Nodup

namespace Telescope

universe u v

/-! Finite keyed stores: an insertion-ordered list of entries whose keys are
pairwise distinct.  Writing an existing key keeps its position. -/

structure Store (κ : Type u) (ν : Type v) where
  entries : List (κ × ν)
  keysNodup : (entries.map Prod.fst).Nodup

namespace Store

variable {κ : Type u} {ν : Type v}

def empty : Store κ ν := ⟨[], List.nodup_nil⟩

def keys (store : Store κ ν) : List κ := store.entries.map Prod.fst

def values (store : Store κ ν) : List ν := store.entries.map Prod.snd

variable [DecidableEq κ]

def lookup (key : κ) : List (κ × ν) → Option ν
  | [] => none
  | (other, value) :: rest => if other = key then some value else lookup key rest

def write (key : κ) (value : ν) : List (κ × ν) → List (κ × ν)
  | [] => [(key, value)]
  | (other, old) :: rest =>
      if other = key then (key, value) :: rest
      else (other, old) :: write key value rest

def get? (store : Store κ ν) (key : κ) : Option ν := lookup key store.entries

theorem lookup_eq_none_iff {key : κ} {entries : List (κ × ν)} :
    lookup key entries = none ↔ key ∉ entries.map Prod.fst := by
  induction entries with
  | nil => simp [lookup]
  | cons entry rest induction =>
      obtain ⟨other, value⟩ := entry
      by_cases same : other = key
      · simp [lookup, same]
      · have different : key ≠ other := fun equal => same equal.symm
        simpa [lookup, same, different] using induction

theorem lookup_eq_some_iff {key : κ} {value : ν} {entries : List (κ × ν)}
    (nodup : (entries.map Prod.fst).Nodup) :
    lookup key entries = some value ↔ (key, value) ∈ entries := by
  induction entries with
  | nil => simp [lookup]
  | cons entry rest induction =>
      obtain ⟨other, old⟩ := entry
      rw [List.map_cons, List.nodup_cons] at nodup
      by_cases same : other = key
      · subst same
        have absent : (other, value) ∉ rest := fun member =>
          nodup.1 (List.mem_map.mpr ⟨(other, value), member, rfl⟩)
        simp [lookup, absent, eq_comm]
      · have different : key ≠ other := fun equal => same equal.symm
        simpa [lookup, same, different] using induction nodup.2

theorem write_of_not_mem {key : κ} (value : ν) {entries : List (κ × ν)}
    (absent : key ∉ entries.map Prod.fst) :
    write key value entries = entries ++ [(key, value)] := by
  induction entries with
  | nil => rfl
  | cons entry rest induction =>
      obtain ⟨other, old⟩ := entry
      rw [List.map_cons, List.mem_cons, not_or] at absent
      have different : other ≠ key := fun equal => absent.1 equal.symm
      simp [write, different, induction absent.2]

/-- A write appends a new entry, or replaces the value of one. -/
theorem write_cases (key : κ) (entries : List (κ × ν)) :
    (lookup key entries = none ∧ ∀ value, write key value entries = entries ++ [(key, value)]) ∨
      ∃ before old after, lookup key entries = some old ∧
        entries = before ++ (key, old) :: after ∧
        ∀ value, write key value entries = before ++ (key, value) :: after := by
  induction entries with
  | nil => exact .inl ⟨rfl, fun value => rfl⟩
  | cons entry rest induction =>
      obtain ⟨other, old⟩ := entry
      cases Decidable.em (other = key) with
      | inl same =>
          subst same
          exact .inr ⟨[], old, rest, by simp [lookup], rfl, fun value => by simp [write]⟩
      | inr different =>
          rcases induction with ⟨absent, appended⟩ | ⟨before, value, after, found, split, replaced⟩
          · refine .inl ⟨by simpa [lookup, different] using absent, ?_⟩
            intro value
            rw [write, if_neg different, appended, List.cons_append]
          · refine .inr ⟨(other, old) :: before, value, after, ?_, ?_, ?_⟩
            · simpa [lookup, different] using found
            · rw [split, List.cons_append]
            · intro new
              rw [write, if_neg different, replaced, List.cons_append]

theorem map_fst_write_of_mem {key : κ} (value : ν) {entries : List (κ × ν)}
    (present : key ∈ entries.map Prod.fst) :
    (write key value entries).map Prod.fst = entries.map Prod.fst := by
  induction entries with
  | nil => simp at present
  | cons entry rest induction =>
      obtain ⟨other, old⟩ := entry
      by_cases same : other = key
      · simp [write, same]
      · have inRest : key ∈ rest.map Prod.fst := by
          rw [List.map_cons, List.mem_cons] at present
          exact present.resolve_left fun equal => same equal.symm
        simp [write, same, induction inRest]

theorem write_nodup (key : κ) (value : ν) {entries : List (κ × ν)}
    (nodup : (entries.map Prod.fst).Nodup) :
    ((write key value entries).map Prod.fst).Nodup := by
  by_cases present : key ∈ entries.map Prod.fst
  · rw [map_fst_write_of_mem value present]
    exact nodup
  · rw [write_of_not_mem value present, List.map_append, List.nodup_append]
    refine ⟨nodup, List.nodup_singleton key, ?_⟩
    intro left leftMember right rightMember equal
    rw [List.map_cons, List.map_nil, List.mem_singleton] at rightMember
    rw [equal, rightMember] at leftMember
    exact present leftMember

theorem lookup_write_self (key : κ) (value : ν) (entries : List (κ × ν)) :
    lookup key (write key value entries) = some value := by
  induction entries with
  | nil => simp [write, lookup]
  | cons entry rest induction =>
      obtain ⟨other, old⟩ := entry
      by_cases same : other = key
      · simp [write, lookup, same]
      · simp [write, lookup, same, induction]

theorem lookup_write_of_ne {key other : κ} (different : other ≠ key) (value : ν)
    (entries : List (κ × ν)) :
    lookup other (write key value entries) = lookup other entries := by
  induction entries with
  | nil => simp [write, lookup, different.symm]
  | cons entry rest induction =>
      obtain ⟨first, old⟩ := entry
      by_cases same : first = key
      · subst same
        simp [write, lookup, different.symm]
      · by_cases found : first = other
        · subst found
          simp [write, lookup, same]
        · simp [write, lookup, same, found, induction]

def put (store : Store κ ν) (key : κ) (value : ν) : Store κ ν :=
  ⟨write key value store.entries, write_nodup key value store.keysNodup⟩

def erase (store : Store κ ν) (key : κ) : Store κ ν :=
  ⟨store.entries.filter fun entry => decide (entry.1 ≠ key),
    store.keysNodup.sublist (List.filter_sublist.map Prod.fst)⟩

@[simp] theorem get?_put_self (store : Store κ ν) (key : κ) (value : ν) :
    (store.put key value).get? key = some value :=
  lookup_write_self key value store.entries

theorem get?_put_of_ne (store : Store κ ν) {key other : κ}
    (different : other ≠ key) (value : ν) :
    (store.put key value).get? other = store.get? other :=
  lookup_write_of_ne different value store.entries

theorem get?_eq_some_iff (store : Store κ ν) {key : κ} {value : ν} :
    store.get? key = some value ↔ (key, value) ∈ store.entries :=
  lookup_eq_some_iff store.keysNodup

theorem get?_eq_none_iff (store : Store κ ν) {key : κ} :
    store.get? key = none ↔ key ∉ store.keys :=
  lookup_eq_none_iff

theorem entries_put_of_fresh (store : Store κ ν) {key : κ}
    (fresh : store.get? key = none) (value : ν) :
    (store.put key value).entries = store.entries ++ [(key, value)] :=
  write_of_not_mem value (lookup_eq_none_iff.mp fresh)

/-- Several assignments, in order. -/
def putAll (store : Store κ ν) (pairs : List (κ × ν)) : Store κ ν :=
  pairs.foldl (fun store pair => store.put pair.1 pair.2) store

/-- Distinct new keys keep the order of their assignments. -/
theorem entries_putAll_of_fresh {pairs : List (κ × ν)} (distinct : (pairs.map Prod.fst).Nodup)
    {store : Store κ ν} (fresh : ∀ pair ∈ pairs, store.get? pair.1 = none) :
    (store.putAll pairs).entries = store.entries ++ pairs := by
  induction pairs generalizing store with
  | nil => exact (List.append_nil _).symm
  | cons pair rest induction =>
      rw [List.map_cons, List.nodup_cons] at distinct
      obtain ⟨here, later⟩ := List.forall_mem_cons.mp fresh
      have stillFresh : ∀ other ∈ rest, (store.put pair.1 pair.2).get? other.1 = none := by
        intro other member
        have different : other.1 ≠ pair.1 := fun same =>
          distinct.1 (same ▸ List.mem_map_of_mem member)
        rw [store.get?_put_of_ne different]
        exact later other member
      change ((store.put pair.1 pair.2).putAll rest).entries = _
      rw [induction distinct.2 stillFresh, store.entries_put_of_fresh here]
      simp

/-- Of several assignments to a key the last one counts. -/
theorem get?_putAll (pairs : List (κ × ν)) (store : Store κ ν) (key : κ) :
    (store.putAll pairs).get? key =
      ((pairs.filter fun pair => pair.1 = key).getLast?.map Prod.snd).or (store.get? key) := by
  induction pairs generalizing store with
  | nil => rfl
  | cons pair rest induction =>
      change ((store.put pair.1 pair.2).putAll rest).get? key = _
      rw [induction]
      cases Decidable.em (pair.1 = key) with
      | inl same =>
          subst same
          rw [List.filter_cons, if_pos (decide_eq_true rfl), List.getLast?_cons,
            Store.get?_put_self]
          cases (rest.filter fun other => other.1 = pair.1).getLast? <;> rfl
      | inr different =>
          rw [List.filter_cons, if_neg (by simpa using different),
            store.get?_put_of_ne (Ne.symm different)]

/-- A new key adds its value at the end, another one replaces its own. -/
theorem values_put_cases (store : Store κ ν) (key : κ) :
    (store.get? key = none ∧ ∀ value, (store.put key value).values = store.values ++ [value]) ∨
      ∃ before old after, store.get? key = some old ∧ store.values = before ++ old :: after ∧
        ∀ value, (store.put key value).values = before ++ value :: after := by
  rcases write_cases key store.entries with
    ⟨absent, appended⟩ | ⟨before, old, after, found, split, replaced⟩
  · refine .inl ⟨absent, ?_⟩
    intro value
    exact (congrArg (List.map Prod.snd) (appended value)).trans (List.map_append ..)
  · refine .inr ⟨before.map Prod.snd, old, after.map Prod.snd, found, ?_, ?_⟩
    · exact (congrArg (List.map Prod.snd) split).trans (List.map_append ..)
    · intro value
      exact (congrArg (List.map Prod.snd) (replaced value)).trans (List.map_append ..)

theorem mem_entries_erase (store : Store κ ν) {key : κ} {entry : κ × ν} :
    entry ∈ (store.erase key).entries ↔ entry ∈ store.entries ∧ entry.1 ≠ key := by
  simp [erase]

@[simp] theorem get?_erase_self (store : Store κ ν) (key : κ) :
    (store.erase key).get? key = none := by
  rw [get?_eq_none_iff, keys, List.mem_map]
  rintro ⟨entry, member, equal⟩
  exact ((store.mem_entries_erase).mp member).2 equal

theorem get?_erase_of_ne (store : Store κ ν) {key other : κ}
    (different : other ≠ key) :
    (store.erase key).get? other = store.get? other := by
  cases found : store.get? other with
  | some value =>
      rw [get?_eq_some_iff, mem_entries_erase]
      exact ⟨store.get?_eq_some_iff.mp found, different⟩
  | none =>
      rw [get?_eq_none_iff] at found ⊢
      intro member
      obtain ⟨entry, entryMember, equal⟩ := List.mem_map.mp member
      exact found (List.mem_map.mpr
        ⟨entry, (store.mem_entries_erase.mp entryMember).1, equal⟩)

theorem get?_put (store : Store κ ν) (key : κ) (value : ν) :
    (store.put key value).get? = Function.update store.get? key (some value) := by
  funext other
  by_cases same : other = key
  · subst same
    simp
  · rw [Function.update_of_ne same, store.get?_put_of_ne same]

theorem get?_erase (store : Store κ ν) (key : κ) :
    (store.erase key).get? = Function.update store.get? key none := by
  funext other
  by_cases same : other = key
  · subst same
    simp
  · rw [Function.update_of_ne same, store.get?_erase_of_ne same]

theorem mem_keys_put (store : Store κ ν) {key other : κ} {value : ν} :
    other ∈ (store.put key value).keys ↔ other = key ∨ other ∈ store.keys := by
  by_cases same : other = key
  · subst same
    have found : (store.put other value).get? other ≠ none := by simp
    rw [ne_eq, get?_eq_none_iff, not_not] at found
    simp [found]
  · have unchanged := store.get?_put_of_ne same value
    rw [← not_iff_not, ← get?_eq_none_iff, unchanged, get?_eq_none_iff]
    simp [same]

theorem mem_keys_erase (store : Store κ ν) {key other : κ} :
    other ∈ (store.erase key).keys ↔ other ∈ store.keys ∧ other ≠ key := by
  simp only [keys, List.mem_map, mem_entries_erase]
  constructor
  · rintro ⟨entry, ⟨member, different⟩, rfl⟩
    exact ⟨⟨entry, member, rfl⟩, different⟩
  · rintro ⟨⟨entry, member, rfl⟩, different⟩
    exact ⟨entry, ⟨member, different⟩, rfl⟩

omit [DecidableEq κ] in
theorem eq_of_entries {left right : Store κ ν} (equal : left.entries = right.entries) :
    left = right := by
  cases left
  cases right
  cases equal
  rfl

theorem erase_of_absent (store : Store κ ν) {key : κ} (absent : key ∉ store.keys) :
    store.erase key = store := by
  apply eq_of_entries
  rw [erase, List.filter_eq_self]
  intro entry member
  exact decide_eq_true fun equal =>
    absent (List.mem_map.mpr ⟨entry, member, equal⟩)

/-- The entries whose keys are not among the given ones. -/
def outside (store : Store κ ν) (keys : List κ) : List (κ × ν) :=
  store.entries.filter fun entry => entry.1 ∉ keys

theorem outside_eq_entries {store : Store κ ν} {keys : List κ}
    (absent : ∀ key ∈ keys, key ∉ store.keys) : store.outside keys = store.entries := by
  rw [outside, List.filter_eq_self]
  intro entry member
  exact decide_eq_true fun listed =>
    absent entry.1 listed (List.mem_map.mpr ⟨entry, member, rfl⟩)

theorem filter_write {key : κ} {keys : List κ} (listed : key ∈ keys) (value : ν)
    (entries : List (κ × ν)) :
    (write key value entries).filter (fun entry => entry.1 ∉ keys) =
      entries.filter fun entry => entry.1 ∉ keys := by
  induction entries with
  | nil => simp [write, listed]
  | cons entry rest induction =>
      by_cases same : entry.1 = key
      · simp [write, same, listed]
      · simp only [write, if_neg same, List.filter_cons, induction]

theorem outside_put {store : Store κ ν} {key : κ} {keys : List κ} (listed : key ∈ keys)
    (value : ν) : (store.put key value).outside keys = store.outside keys :=
  filter_write listed value store.entries

theorem outside_erase {store : Store κ ν} {key : κ} {keys : List κ}
    (listed : key ∈ keys) : (store.erase key).outside keys = store.outside keys := by
  rw [outside, outside, erase, List.filter_filter]
  apply List.filter_congr
  intro entry _
  by_cases same : entry.1 = key
  · simp [same, listed]
  · simp [same]

theorem erase_erase (store : Store κ ν) (key : κ) :
    (store.erase key).erase key = store.erase key := by
  apply erase_of_absent
  rw [mem_keys_erase]
  exact fun left => left.2 rfl

/-- The store without the given keys. -/
def eraseAll (store : Store κ ν) (keys : List κ) : Store κ ν := keys.foldl erase store

theorem get?_eraseAll_of_not_mem {keys : List κ} {key : κ} (other : key ∉ keys)
    (store : Store κ ν) : (store.eraseAll keys).get? key = store.get? key := by
  induction keys generalizing store with
  | nil => rfl
  | cons first rest induction =>
      rw [List.mem_cons, not_or] at other
      exact (induction other.2 _).trans (store.get?_erase_of_ne other.1)

theorem eraseAll_of_absent {keys : List κ} {store : Store κ ν}
    (absent : ∀ key ∈ keys, store.get? key = none) : store.eraseAll keys = store := by
  induction keys with
  | nil => rfl
  | cons first rest induction =>
      obtain ⟨here, later⟩ := List.forall_mem_cons.mp absent
      rw [eraseAll, List.foldl_cons,
        store.erase_of_absent (store.get?_eq_none_iff.mp here)]
      exact induction later

theorem get?_eraseAll_of_mem {keys : List κ} {key : κ} (member : key ∈ keys)
    (store : Store κ ν) : (store.eraseAll keys).get? key = none := by
  induction keys generalizing store with
  | nil => exact nomatch member
  | cons first rest induction =>
      by_cases later : key ∈ rest
      · exact induction later _
      · obtain rfl : key = first := (List.mem_cons.mp member).resolve_right later
        exact (get?_eraseAll_of_not_mem later _).trans (store.get?_erase_self key)

end Store

end Telescope
