import Mathlib.Data.List.DropRight
import Telescope.Text.CharClass

namespace Telescope

/-! The conversion `int(text)`. -/

/-- The spaces that `int` strips: all but the four information separators. -/
def isIntSpace (c : Char) : Bool :=
  isSpace c && !(0x1c ≤ c.toNat && c.toNat ≤ 0x1f)

def parseDigits? (text : Text) : Option Nat :=
  let parts := text.splitOn '_'
  if parts.all fun part => !part.isEmpty && part.all isDecimal then
    parseInt? parts.flatten
  else none

/-- `int(text)`; it raises where the result is `none`. -/
def parseInteger? (text : Text) : Option Int :=
  match (text.dropWhile isIntSpace).rdropWhile isIntSpace with
  | '-' :: digits => (parseDigits? digits).map fun value => -(value : Int)
  | '+' :: digits => (parseDigits? digits).map fun value => (value : Int)
  | digits => (parseDigits? digits).map fun value => (value : Int)

/-- A decimal digit is neither a space nor one of the signs and underscores. -/
theorem isDecimal_plain {c : Char} (digit : isDecimal c = true) :
    isSpace c = false ∧ c ≠ '_' ∧ c ≠ '-' ∧ c ≠ '+' := by
  obtain ⟨value, found⟩ := Option.isSome_iff_exists.mp digit
  obtain ⟨base, listed, inRange⟩ := List.exists_of_findSome?_eq_some found
  have range : base ≤ c.toNat ∧ c.toNat < base + 10 := by
    by_contra outside
    rw [if_neg outside] at inRange
    exact nomatch inRange
  have apart : ∀ base ∈ decimalZeros, 0x30 ≤ base ∧ (base ≤ 0x30 ∨ 0x660 ≤ base) ∧
      (base ≤ 0x1090 ∨ 0x17e0 ≤ base) ∧ (base ≤ 0x1c50 ∨ 0xa620 ≤ base) := by
    decide
  have bounds := apart base listed
  refine ⟨?_, ?_, ?_, ?_⟩
  · simp only [isSpace, Bool.or_eq_false_iff, Bool.and_eq_false_iff, decide_eq_false_iff_not,
      beq_eq_false_iff_ne]
    omega
  all_goals
    rintro rfl
    revert range
    simp only [Char.reduceToNat]
    omega

theorem parseDigits?_digits (digits : Digits) :
    parseDigits? digits.chars = parseInt? digits.chars := by
  have noUnderscore : '_' ∉ digits.chars :=
    fun member => (isDecimal_plain (digits.decimal _ member)).2.1 rfl
  have accepted : [digits.chars].all
      (fun part => !part.isEmpty && part.all isDecimal) = true := by
    simpa [digits.nonempty] using digits.decimal
  simp only [parseDigits?, List.splitOn_eq_singleton noUnderscore, accepted, if_true,
    List.flatten_singleton]

theorem isDecimal_not_intSpace {c : Char} (digit : isDecimal c = true) :
    isIntSpace c = false := by
  rw [isIntSpace, (isDecimal_plain digit).1, Bool.false_and]

theorem strip_eq_self {text : Text} (visible : ∀ c ∈ text, isIntSpace c = false) :
    (text.dropWhile isIntSpace).rdropWhile isIntSpace = text := by
  have left : text.dropWhile isIntSpace = text := by
    rw [List.dropWhile_eq_self_iff]
    intro nonempty
    simp [visible _ (List.getElem_mem nonempty)]
  rw [left, List.rdropWhile_eq_self_iff]
  intro nonempty
  simp [visible _ (List.getLast_mem nonempty)]

theorem parseInteger?_unsigned {text : Text} (visible : ∀ c ∈ text, isIntSpace c = false)
    (digitFirst : ∀ c ∈ text.head?, isDecimal c = true) :
    parseInteger? text = (parseDigits? text).map fun value => (value : Int) := by
  unfold parseInteger?
  rw [strip_eq_self visible]
  have unsigned (sign : Char) (isSign : isDecimal sign = false) (rest : Text) :
      text ≠ sign :: rest := by
    rintro rfl
    rw [digitFirst sign rfl] at isSign
    exact nomatch isSign
  split
  · exact absurd rfl (unsigned '-' (by decide) _)
  · exact absurd rfl (unsigned '+' (by decide) _)
  · rfl

theorem parseInteger?_unit (digits : Digits) {unit : Text} (letter : Char)
    (member : letter ∈ unit) (notDigit : isDecimal letter = false)
    (plain : unit.all (fun c => !isIntSpace c && c != '_') = true) :
    parseInteger? (digits.chars ++ unit) = none := by
  have visible : ∀ c ∈ unit, isIntSpace c = false ∧ c ≠ '_' := by
    simpa using plain
  have noUnderscore : '_' ∉ digits.chars ++ unit := by
    rw [List.mem_append, not_or]
    exact ⟨fun inside => (isDecimal_plain (digits.decimal _ inside)).2.1 rfl,
      fun inside => (visible _ inside).2 rfl⟩
  have rejected : parseDigits? (digits.chars ++ unit) = none := by
    simp only [parseDigits?, List.splitOn_eq_singleton noUnderscore]
    rw [if_neg]
    simp only [List.all_cons, List.all_nil, Bool.and_true, List.all_append, Bool.and_eq_true]
    intro accepted
    have digit := List.all_eq_true.mp accepted.2.2 letter member
    rw [notDigit] at digit
    exact nomatch digit
  have notSpace : ∀ c ∈ digits.chars ++ unit, isIntSpace c = false := by
    intro c inside
    rcases List.mem_append.mp inside with digit | later
    · exact isDecimal_not_intSpace (digits.decimal c digit)
    · exact (visible c later).1
  have digitFirst : ∀ c ∈ (digits.chars ++ unit).head?, isDecimal c = true := by
    intro c first
    rw [List.head?_append_of_ne_nil _ digits.nonempty] at first
    exact digits.decimal c (List.mem_of_mem_head? first)
  rw [parseInteger?_unsigned notSpace digitFirst, rejected]
  rfl

def digitsOf (text : Text) (nonempty : text ≠ []) (decimal : text.all isDecimal = true) : Digits :=
  ⟨text, nonempty, List.all_eq_true.mp decimal⟩

structure IntegerLiteral where
  sign : Option Bool
  digits : Digits

namespace IntegerLiteral

/-- The sign `some true` is a minus, `some false` a plus. -/
def text (literal : IntegerLiteral) : Text :=
  match literal.sign with
  | none => literal.digits.chars
  | some false => '+' :: literal.digits.chars
  | some true => '-' :: literal.digits.chars

def value (literal : IntegerLiteral) : Int :=
  match literal.sign with
  | some true => -(digitsValue literal.digits.chars : Int)
  | _ => digitsValue literal.digits.chars

theorem not_space (literal : IntegerLiteral) :
    ∀ c ∈ literal.text, isIntSpace c = false := by
  have digits (c : Char) (member : c ∈ literal.digits.chars) : isIntSpace c = false :=
    isDecimal_not_intSpace (literal.digits.decimal c member)
  intro c member
  unfold text at member
  split at member
  · exact digits c member
  · rcases List.mem_cons.mp member with rfl | later
    · decide
    · exact digits c later
  · rcases List.mem_cons.mp member with rfl | later
    · decide
    · exact digits c later

/-- A written integer is read back as long as it is not too long. -/
theorem parseInteger?_text (literal : IntegerLiteral) :
    parseInteger? literal.text =
      if literal.digits.chars.length ≤ intMaxStrDigits then some literal.value else none := by
  have visible := literal.not_space
  obtain ⟨sign, digits⟩ := literal
  have read := parseDigits?_digits digits
  unfold parseInt? at read
  cases sign with
  | none =>
      have unsigned := parseInteger?_unsigned visible fun c first =>
        digits.decimal c (List.mem_of_mem_head? first)
      simp only [text] at unsigned ⊢
      rw [unsigned, read]
      split <;> rfl
  | some minus =>
      unfold parseInteger?
      rw [strip_eq_self visible]
      cases minus with
      | true =>
          simp only [text, read, value]
          split <;> rfl
      | false =>
          simp only [text, read, value]
          split <;> rfl

end IntegerLiteral

end Telescope
