import Mathlib.Data.Finset.Card
import Telescope.Machine.Scale

namespace Telescope.Machine

open Telescope

/-! The names of the Machines of one scale: a prefix that shortens multiples of 1000, and
the number of the Machine. -/

/-- Two cuts of a text at the end of the same leading class of characters agree. -/
theorem append_inj_of_class {accepts : Char → Bool} {first second rest others : Text}
    (inFirst : ∀ c ∈ first, accepts c = true) (inSecond : ∀ c ∈ second, accepts c = true)
    (stopsRest : rest.takeWhile accepts = []) (stopsOthers : others.takeWhile accepts = [])
    (same : first ++ rest = second ++ others) : first = second ∧ rest = others := by
  have heads := congrArg (List.takeWhile accepts) same
  rw [List.takeWhile_append_of_pos inFirst, List.takeWhile_append_of_pos inSecond, stopsRest,
    stopsOthers, List.append_nil, List.append_nil] at heads
  subst heads
  exact ⟨rfl, List.append_cancel_left same⟩

/-- What follows `scale` in the prefix of a count. -/
def shortCount (count : Nat) : Text :=
  if 1000 ≤ count ∧ count % 1000 = 0 then natText (count / 1000) ++ lit "k"
  else natText count

theorem getMachineNamePrefix_natCast (count : Nat) :
    getMachineNamePrefix count = lit "scale" ++ shortCount count := by
  by_cases whole : 1000 ≤ count ∧ count % 1000 = 0
  · have wholeInt : (1000 : Int) ≤ count ∧ (count : Int) % 1000 = 0 := by omega
    rw [getMachineNamePrefix, if_pos wholeInt, shortCount, if_pos whole, List.append_assoc]
    rfl
  · have notInt : ¬ ((1000 : Int) ≤ count ∧ (count : Int) % 1000 = 0) := by omega
    rw [getMachineNamePrefix, if_neg notInt, shortCount, if_neg whole]
    rfl

theorem isDigit_of_mem_natText {n : Nat} {c : Char} (member : c ∈ natText n) :
    c.isDigit = true :=
  Nat.isDigit_of_mem_toDigits (by decide) (by decide) member

/-- The count can be read off a text that goes on with neither a digit nor a `k`. -/
theorem shortCount_append_inj {m n : Nat} {rest others : Text}
    (stopsRest : rest.takeWhile (fun c => c.isDigit || c == 'k') = [])
    (stopsOthers : others.takeWhile (fun c => c.isDigit || c == 'k') = [])
    (same : shortCount m ++ rest = shortCount n ++ others) : m = n ∧ rest = others := by
  have inClass (count : Nat) :
      ∀ c ∈ shortCount count, (c.isDigit || c == 'k') = true := by
    intro c member
    rw [shortCount] at member
    split at member
    · rcases List.mem_append.mp member with digit | last
      · simp [isDigit_of_mem_natText digit]
      · have mark : c = 'k' := List.mem_singleton.mp last
        simp [mark]
    · simp [isDigit_of_mem_natText member]
  obtain ⟨counts, tails⟩ :=
    append_inj_of_class (inClass m) (inClass n) stopsRest stopsOthers same
  refine ⟨?_, tails⟩
  have split (count : Nat) : ∃ digits mark, shortCount count = natText digits ++ mark ∧
      ((mark = lit "k" ∧ count = digits * 1000) ∨
        (mark = [] ∧ count = digits ∧ ¬ (1000 ≤ count ∧ count % 1000 = 0))) := by
    by_cases whole : 1000 ≤ count ∧ count % 1000 = 0
    · exact ⟨count / 1000, lit "k", by rw [shortCount, if_pos whole], .inl ⟨rfl, by omega⟩⟩
    · exact ⟨count, [], by rw [shortCount, if_neg whole, List.append_nil], .inr ⟨rfl, rfl, whole⟩⟩
  obtain ⟨digits, mark, written, form⟩ := split m
  obtain ⟨otherDigits, otherMark, otherWritten, otherForm⟩ := split n
  have stops {mark : Text} {count digits : Nat}
      (form : (mark = lit "k" ∧ count = digits * 1000) ∨
        (mark = [] ∧ count = digits ∧ ¬ (1000 ≤ count ∧ count % 1000 = 0))) :
      mark.takeWhile Char.isDigit = [] := by
    rcases form with ⟨rfl, -⟩ | ⟨rfl, -⟩ <;> rfl
  rw [written, otherWritten] at counts
  obtain ⟨texts, marks⟩ := append_inj_of_class (fun _ => isDigit_of_mem_natText)
    (fun _ => isDigit_of_mem_natText) (stops form) (stops otherForm) counts
  have digitsSame := natText_injective texts
  rcases form with ⟨rfl, whole⟩ | ⟨rfl, plain, -⟩
  · rcases otherForm with ⟨-, otherWhole⟩ | ⟨rfl, -⟩
    · omega
    · exact absurd marks (by decide)
  · rcases otherForm with ⟨rfl, -⟩ | ⟨-, otherPlain, -⟩
    · exact absurd marks (by decide)
    · omega

theorem getElem?_machineNames {count : Int} {index : Nat} {name : Text}
    (listed : (machineNames count)[index]? = some name) :
    ∃ total : Nat, count = total ∧ index < total ∧
      name = lit "scale" ++ (shortCount total ++ (lit "-machine-" ++ natText (index + 1))) := by
  rw [machineNames, List.getElem?_map, Option.map_eq_some_iff] at listed
  obtain ⟨position, found, rfl⟩ := listed
  rw [List.getElem?_eq_some_iff] at found
  obtain ⟨within, rfl⟩ := found
  rw [List.length_range] at within
  refine ⟨count.toNat, by omega, within, ?_⟩
  have natural : count = (count.toNat : Nat) := by omega
  rw [List.getElem_range, natural, getMachineNamePrefix_natCast, Int.toNat_natCast]
  simp only [List.append_assoc]

theorem machineNames_inj {m n : Int} {i j : Nat} {name : Text}
    (first : (machineNames m)[i]? = some name) (second : (machineNames n)[j]? = some name) :
    m = n ∧ i = j := by
  obtain ⟨total, rfl, -, written⟩ := getElem?_machineNames first
  obtain ⟨otherTotal, rfl, -, otherWritten⟩ := getElem?_machineNames second
  have texts := List.append_cancel_left (written.symm.trans otherWritten)
  obtain ⟨totals, tails⟩ := shortCount_append_inj rfl rfl texts
  have numbers := natText_injective (List.append_cancel_left tails)
  exact ⟨congrArg Nat.cast totals, Nat.succ.inj numbers⟩

private theorem machineNames_nodup (count : Int) : (machineNames count).Nodup := by
  rw [List.nodup_iff_injective_get]
  intro i j same
  apply Fin.ext
  have here : (machineNames count)[i.val]? = some ((machineNames count).get i) :=
    List.getElem?_eq_getElem i.isLt
  have there : (machineNames count)[j.val]? = some ((machineNames count).get i) := by
    rw [same]
    exact List.getElem?_eq_getElem j.isLt
  exact (machineNames_inj here there).2

/-- A name determines its scale and its index, also where the prefix is shortened, so the
set of the expected names has one element for each Machine. -/
theorem machine_names_identify :
    (∀ (m n : Int) (i j : Nat) (name : Text), (machineNames m)[i]? = some name →
      (machineNames n)[j]? = some name → m = n ∧ i = j) ∧
    (∀ m n : Int, 1 ≤ m → 1 ≤ n → getMachineNamePrefix m = getMachineNamePrefix n → m = n) ∧
    (∀ count : Int, (machineNames count).toFinset.card = count.toNat) := by
  refine ⟨fun m n i j name => machineNames_inj, ?_, ?_⟩
  · intro m n mPositive nPositive same
    obtain ⟨total, rfl⟩ := Int.eq_ofNat_of_zero_le (by omega : 0 ≤ m)
    obtain ⟨otherTotal, rfl⟩ := Int.eq_ofNat_of_zero_le (by omega : 0 ≤ n)
    rw [getMachineNamePrefix_natCast, getMachineNamePrefix_natCast] at same
    have counts := List.append_cancel_left same
    apply congrArg Nat.cast
    have ended : shortCount total ++ [] = shortCount otherTotal ++ [] := by rw [counts]
    exact (shortCount_append_inj rfl rfl ended).1
  · intro count
    rw [List.toFinset_card_of_nodup (machineNames_nodup count), machineNames, List.length_map,
      List.length_range]

end Telescope.Machine
