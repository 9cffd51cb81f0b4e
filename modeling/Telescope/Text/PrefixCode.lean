import Mathlib.Data.List.Pairwise
import Telescope.Text.Edit
import Telescope.Text.Lines

namespace Telescope

/-! Reading back what was put together: texts that begin with a code word, and integers
in front of a separator. -/

/-- No code word begins another one. -/
def PrefixFree (codes : List Text) : Prop :=
  codes.Pairwise fun first second => ¬ first <+: second ∧ ¬ second <+: first

instance (codes : List Text) : Decidable (PrefixFree codes) :=
  inferInstanceAs (Decidable (List.Pairwise _ codes))

theorem PrefixFree.eq_of_append_eq {codes : List Text} (free : PrefixFree codes)
    {first second rest others : Text} (inFirst : first ∈ codes) (inSecond : second ∈ codes)
    (same : first ++ rest = second ++ others) : first = second ∧ rest = others := by
  have comparable : first <+: second ∨ second <+: first :=
    List.prefix_or_prefix_of_prefix (List.prefix_append first rest)
      (same ▸ List.prefix_append second others)
  have equal : first = second := by
    by_contra different
    have symmetric : Std.Symm fun first second : Text =>
        ¬ first <+: second ∧ ¬ second <+: first := ⟨fun _ _ apart => apart.symm⟩
    obtain ⟨notShorter, notLonger⟩ := List.Pairwise.forall free inFirst inSecond different
    exact comparable.elim notShorter notLonger
  subst equal
  exact ⟨rfl, List.append_cancel_left same⟩

theorem natText_ne_nil (n : Nat) : natText n ≠ [] := by
  simp [natText]

theorem dash_not_mem_natText (n : Nat) : '-' ∉ natText n := by
  intro member
  have digit := Nat.isDigit_of_mem_toDigits (by decide) (by decide) member
  exact absurd digit (by decide)

/-- An integer can be read off a text that goes on with a dash. -/
theorem intText_append_dash_inj {m n : Int} {rest others : Text}
    (same : intText m ++ '-' :: rest = intText n ++ '-' :: others) :
    m = n ∧ rest = others := by
  have cut {a b : Nat} {rest others : Text}
      (same : natText a ++ '-' :: rest = natText b ++ '-' :: others) :
      a = b ∧ rest = others := by
    have equal := eq_of_append_cons_eq (dash_not_mem_natText a) (dash_not_mem_natText b) same
    rw [equal] at same
    exact ⟨natText_injective equal, (List.cons.inj (List.append_cancel_left same)).2⟩
  have unsigned (a : Nat) (rest others : Text) : natText a ++ rest ≠ '-' :: others := by
    intro same
    cases digits : natText a with
    | nil => exact natText_ne_nil a digits
    | cons head tail =>
        rw [digits] at same
        have isDash : head = '-' := (List.cons.inj same).1
        exact dash_not_mem_natText a (digits ▸ isDash ▸ List.mem_cons_self)
  cases m with
  | ofNat a =>
      cases n with
      | ofNat b =>
          obtain ⟨equal, rests⟩ := cut same
          exact ⟨congrArg Int.ofNat equal, rests⟩
      | negSucc b => exact absurd same (unsigned a _ _)
  | negSucc a =>
      cases n with
      | ofNat b => exact absurd same.symm (unsigned b _ _)
      | negSucc b =>
          obtain ⟨equal, rests⟩ := cut (List.cons.inj same).2
          exact ⟨congrArg Int.negSucc (Nat.succ.inj equal), rests⟩

theorem intText_injective : Function.Injective intText := by
  intro m n same
  exact (intText_append_dash_inj (congrArg (· ++ ['-']) same)).1

end Telescope
