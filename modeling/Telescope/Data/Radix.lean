import Mathlib.Data.Nat.Digits.Defs
import Mathlib.Tactic.Ring

namespace Telescope.Radix

/-! Counting in a positional system: a number is added to the last digit, and each digit
carries into the one before it.  Digits stand least significant first. -/

/-- The digits of the sum, and what is carried out of the first of them. -/
def addCarry (base : Nat) : List Nat → Nat → List Nat × Nat
  | [], carry => ([], carry)
  | digit :: rest, carry =>
      let later := addCarry base rest ((digit + carry) / base)
      ((digit + carry) % base :: later.1, later.2)

theorem length_addCarry (base : Nat) (digits : List Nat) (carry : Nat) :
    (addCarry base digits carry).1.length = digits.length := by
  induction digits generalizing carry with
  | nil => rfl
  | cons digit rest induction => exact congrArg (· + 1) (induction _)

theorem lt_of_mem_addCarry {base : Nat} (positive : 0 < base) {digits : List Nat}
    {carry digit : Nat} (member : digit ∈ (addCarry base digits carry).1) : digit < base := by
  induction digits generalizing carry with
  | nil => exact absurd member List.not_mem_nil
  | cons first rest induction =>
      cases List.mem_cons.mp member with
      | inl here =>
          rw [here]
          exact Nat.mod_lt _ positive
      | inr later => exact induction later

/-- Carrying does not change the value. -/
theorem ofDigits_addCarry (base : Nat) (digits : List Nat) (carry : Nat) :
    Nat.ofDigits base (addCarry base digits carry).1 +
        base ^ digits.length * (addCarry base digits carry).2 =
      Nat.ofDigits base digits + carry := by
  induction digits generalizing carry with
  | nil => simp [addCarry]
  | cons digit rest induction =>
      have later := induction ((digit + carry) / base)
      have here := Nat.mod_add_div (digit + carry) base
      simp only [addCarry, Nat.ofDigits_cons, List.length_cons, pow_succ]
      calc (digit + carry) % base +
              base * Nat.ofDigits base (addCarry base rest ((digit + carry) / base)).1 +
            base ^ rest.length * base * (addCarry base rest ((digit + carry) / base)).2
          = (digit + carry) % base + base *
              (Nat.ofDigits base (addCarry base rest ((digit + carry) / base)).1 +
                base ^ rest.length * (addCarry base rest ((digit + carry) / base)).2) := by
            ring
        _ = (digit + carry) % base + base * ((digit + carry) / base) +
              base * Nat.ofDigits base rest := by
            rw [later]
            ring
        _ = digit + base * Nat.ofDigits base rest + carry := by
            rw [here]
            ring

/-- Nothing is carried out exactly if the sum fits into the digits. -/
theorem addCarry_fits_iff {base : Nat} (large : 1 < base) (digits : List Nat) (carry : Nat) :
    (addCarry base digits carry).2 = 0 ↔
      Nat.ofDigits base digits + carry < base ^ digits.length := by
  have bounded : Nat.ofDigits base (addCarry base digits carry).1 < base ^ digits.length := by
    rw [← length_addCarry base digits carry]
    apply Nat.ofDigits_lt_base_pow_length large
    intro digit member
    exact lt_of_mem_addCarry (Nat.zero_lt_of_lt large) member
  have value := ofDigits_addCarry base digits carry
  constructor
  · intro none
    rw [none, mul_zero, add_zero] at value
    rwa [← value]
  · intro fits
    by_contra carried
    have whole := Nat.le_mul_of_pos_right (base ^ digits.length) (Nat.pos_of_ne_zero carried)
    omega

end Telescope.Radix
