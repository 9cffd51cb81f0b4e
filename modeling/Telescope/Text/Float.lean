import Mathlib.Data.Rat.Defs
import Mathlib.Algebra.Order.Field.Rat
import Mathlib.Data.List.TakeWhile
import Telescope.Text.Edit
import Telescope.Text.Integer
import Telescope.Text.Lines

namespace Telescope

/-! The conversion `float(text)`.  Values are exact: neither rounding nor overflow is
modelled. -/

inductive FloatValue where
  | nan
  | infinity (negative : Bool)
  | finite (value : ℚ)
deriving DecidableEq

/-- Decimal digits, with single underscores between them. -/
def digitPart? (text : Text) : Option Text :=
  let parts := text.splitOn '_'
  if parts.all fun part => !part.isEmpty && part.all isDecimal then some parts.flatten else none

/-- Digits with at most one point, at least one digit on one of its sides. -/
def mantissa? (text : Text) : Option ℚ :=
  let whole := text.takeWhile (· ≠ '.')
  match text.dropWhile (· ≠ '.') with
  | [] => (digitPart? whole).map fun digits => (digitsValue digits : ℚ)
  | _ :: fraction =>
      match whole, fraction with
      | [], [] => none
      | whole, [] => (digitPart? whole).map fun digits => (digitsValue digits : ℚ)
      | [], fraction =>
          (digitPart? fraction).map fun digits => (digitsValue digits : ℚ) / 10 ^ digits.length
      | whole, fraction => do
          let digits ← digitPart? whole
          let decimals ← digitPart? fraction
          return digitsValue digits + (digitsValue decimals : ℚ) / 10 ^ decimals.length

def exponent? : Text → Option Int
  | '-' :: digits => (digitPart? digits).map fun digits => -(digitsValue digits : Int)
  | '+' :: digits => (digitPart? digits).map fun digits => (digitsValue digits : Int)
  | digits => (digitPart? digits).map fun digits => (digitsValue digits : Int)

def isExponentMark (c : Char) : Bool := c = 'e' || c = 'E'

def number? (text : Text) : Option ℚ :=
  let mantissa := text.takeWhile fun c => !isExponentMark c
  match text.dropWhile fun c => !isExponentMark c with
  | [] => mantissa? mantissa
  | _ :: exponent => do
      let value ← mantissa? mantissa
      let power ← exponent? exponent
      return value * 10 ^ power

def unsignedFloat? (negative : Bool) (text : Text) : Option FloatValue :=
  let lowered := text.map Char.toLower
  if lowered = lit "nan" then some .nan
  else if lowered = lit "inf" ∨ lowered = lit "infinity" then some (.infinity negative)
  else (number? text).map fun value => .finite (if negative then -value else value)

/-- `float(text)`; it raises a ValueError where the result is `none`. -/
def parseFloat? (text : Text) : Option FloatValue :=
  match (text.dropWhile isIntSpace).rdropWhile isIntSpace with
  | '-' :: body => unsignedFloat? true body
  | '+' :: body => unsignedFloat? false body
  | body => unsignedFloat? false body

/-! What begins with an opening bracket is no number. -/

/-- A character with which no number begins. -/
structure NotNumeral (c : Char) : Prop where
  visible : isIntSpace c = false
  notDecimal : isDecimal c = false
  notMark : c ∉ ['+', '-', '_', '.', 'e', 'E']
  notLetter : c.toLower ≠ 'n' ∧ c.toLower ≠ 'i'

namespace NotNumeral

variable {c : Char} (bad : NotNumeral c)

include bad

theorem splitOn_underscore (rest : Text) :
    ∃ part parts, (c :: rest).splitOn '_' = (c :: part) :: parts := by
  apply splitOn_cons_head
  exact fun same => bad.notMark (by simp [same])

theorem digitPart? (rest : Text) : Telescope.digitPart? (c :: rest) = none := by
  obtain ⟨part, parts, split⟩ := bad.splitOn_underscore rest
  rw [Telescope.digitPart?, split]
  simp [bad.notDecimal]

theorem parseDigits? (rest : Text) : Telescope.parseDigits? (c :: rest) = none := by
  obtain ⟨part, parts, split⟩ := bad.splitOn_underscore rest
  rw [Telescope.parseDigits?, split]
  simp [bad.notDecimal]

theorem mantissa? (rest : Text) : Telescope.mantissa? (c :: rest) = none := by
  have notPoint : c ≠ '.' := fun same => bad.notMark (by simp [same])
  have whole : (c :: rest).takeWhile (· ≠ '.') = c :: rest.takeWhile (· ≠ '.') :=
    List.takeWhile_cons_of_pos (by simpa using notPoint)
  unfold Telescope.mantissa?
  rw [whole]
  cases (c :: rest).dropWhile (· ≠ '.') with
  | nil => simp [bad.digitPart?]
  | cons point fraction =>
      cases fraction with
      | nil => simp [bad.digitPart?]
      | cons first others => simp [bad.digitPart?]

theorem number? (rest : Text) : Telescope.number? (c :: rest) = none := by
  have notExponent : isExponentMark c = false := by
    have lower : c ≠ 'e' := fun same => bad.notMark (by simp [same])
    have upper : c ≠ 'E' := fun same => bad.notMark (by simp [same])
    simp [isExponentMark, lower, upper]
  have mantissa : ((c :: rest).takeWhile fun c => !isExponentMark c) =
      c :: rest.takeWhile fun c => !isExponentMark c :=
    List.takeWhile_cons_of_pos (by simp [notExponent])
  unfold Telescope.number?
  rw [mantissa]
  cases (c :: rest).dropWhile fun c => !isExponentMark c with
  | nil => exact bad.mantissa? _
  | cons mark exponent => simp [bad.mantissa?]

theorem unsignedFloat? (rest : Text) : Telescope.unsignedFloat? false (c :: rest) = none := by
  have nan : (c :: rest).map Char.toLower ≠ lit "nan" := by
    intro same
    exact bad.notLetter.1 (List.cons.inj (same.trans (lit_ofList ['n', 'a', 'n']))).1
  have inf : (c :: rest).map Char.toLower ≠ lit "inf" := by
    intro same
    exact bad.notLetter.2 (List.cons.inj (same.trans (lit_ofList ['i', 'n', 'f']))).1
  have infinity : (c :: rest).map Char.toLower ≠ lit "infinity" := by
    intro same
    exact bad.notLetter.2 (List.cons.inj
      (same.trans (lit_ofList ['i', 'n', 'f', 'i', 'n', 'i', 't', 'y']))).1
  rw [Telescope.unsignedFloat?, if_neg nan, if_neg (not_or.mpr ⟨inf, infinity⟩), bad.number?]
  rfl

variable {spaces : Text} (blank : ∀ c ∈ spaces, isIntSpace c = true) (rest : Text)

include blank

theorem strip : ∃ others,
    ((spaces ++ c :: rest).dropWhile isIntSpace).rdropWhile isIntSpace = c :: others := by
  rw [dropWhile_append_of_all blank]
  exact strip_cons bad.visible rest

theorem parseFloat? : Telescope.parseFloat? (spaces ++ c :: rest) = none := by
  obtain ⟨others, stripped⟩ := bad.strip blank rest
  unfold Telescope.parseFloat?
  rw [stripped]
  split
  · rename_i same
    exact absurd (List.cons.inj same).1 fun minus => bad.notMark (by simp [minus])
  · rename_i same
    exact absurd (List.cons.inj same).1 fun plus => bad.notMark (by simp [plus])
  · exact bad.unsignedFloat? others

theorem parseInteger? : Telescope.parseInteger? (spaces ++ c :: rest) = none := by
  obtain ⟨others, stripped⟩ := bad.strip blank rest
  unfold Telescope.parseInteger?
  rw [stripped]
  split
  · rename_i same
    exact absurd (List.cons.inj same).1 fun minus => bad.notMark (by simp [minus])
  · rename_i same
    exact absurd (List.cons.inj same).1 fun plus => bad.notMark (by simp [plus])
  · rw [bad.parseDigits?]
    rfl

end NotNumeral

theorem notNumeral_bracket : NotNumeral '[' := by
  refine ⟨by decide, by decide, by decide, by decide⟩

theorem notNumeral_brace : NotNumeral '{' := by
  refine ⟨by decide, by decide, by decide, by decide⟩

/-! Decimal numbers without sign and exponent. -/

/-- Digits with at most one point among them. -/
structure Numeral where
  whole : Text
  fraction : Option Text
  nonempty : whole ++ fraction.getD [] ≠ []
  digits : ∀ c ∈ whole ++ fraction.getD [], isAsciiDigit c = true

namespace Numeral

def text (numeral : Numeral) : Text :=
  match numeral.fraction with
  | none => numeral.whole
  | some fraction => numeral.whole ++ '.' :: fraction

def value (numeral : Numeral) : ℚ :=
  let fraction := numeral.fraction.getD []
  digitsValue numeral.whole + (digitsValue fraction : ℚ) / 10 ^ fraction.length

theorem mem_text {numeral : Numeral} {c : Char} (member : c ∈ numeral.text) :
    isAsciiDigit c = true ∨ c = '.' := by
  obtain ⟨whole, fraction, nonempty, digits⟩ := numeral
  cases fraction with
  | none => exact .inl (digits c (by simpa [text] using member))
  | some fraction =>
      rcases List.mem_append.mp member with left | right
      · exact .inl (digits c (List.mem_append_left _ left))
      · rcases List.mem_cons.mp right with point | right
        · exact .inr point
        · exact .inl (digits c (List.mem_append_right _ right))

end Numeral

theorem digitPart?_digits {digits : Text} (nonempty : digits ≠ [])
    (decimal : ∀ c ∈ digits, isAsciiDigit c = true) : digitPart? digits = some digits := by
  have noUnderscore : '_' ∉ digits := fun member => nomatch decimal '_' member
  have accepted : [digits].all (fun part => !part.isEmpty && part.all isDecimal) = true := by
    simpa [nonempty] using fun c member => isDecimal_of_isAsciiDigit (decimal c member)
  simp only [digitPart?, List.splitOn_eq_singleton noUnderscore, accepted, if_true,
    List.flatten_singleton]

namespace Numeral

theorem mantissa?_text (numeral : Numeral) : mantissa? numeral.text = some numeral.value := by
  obtain ⟨whole, fraction, nonempty, digits⟩ := numeral
  have noPoint : ∀ c ∈ whole, decide (c ≠ '.') = true := by
    intro c member
    rw [decide_eq_true_eq]
    rintro rfl
    exact nomatch digits '.' (List.mem_append_left _ member)
  have readWhole (filled : whole ≠ []) : digitPart? whole = some whole :=
    digitPart?_digits filled fun c member => digits c (List.mem_append_left _ member)
  have readFraction (filled : fraction.getD [] ≠ []) :
      digitPart? (fraction.getD []) = some (fraction.getD []) :=
    digitPart?_digits filled fun c member => digits c (List.mem_append_right _ member)
  cases fraction with
  | none =>
      have filled : whole ≠ [] := by simpa using nonempty
      have taken : whole.takeWhile (· ≠ '.') = whole := List.takeWhile_eq_self_iff.mpr noPoint
      have dropped : whole.dropWhile (· ≠ '.') = [] := List.dropWhile_eq_nil_iff.mpr noPoint
      simp only [text, mantissa?, taken, dropped, readWhole filled, value, Option.map_some]
      simp [digitsValue]
  | some fraction =>
      have taken : (whole ++ '.' :: fraction).takeWhile (· ≠ '.') = whole := by
        rw [List.takeWhile_append_of_pos noPoint, List.takeWhile_cons_of_neg (by simp),
          List.append_nil]
      have dropped : (whole ++ '.' :: fraction).dropWhile (· ≠ '.') = '.' :: fraction := by
        rw [List.dropWhile_append_of_pos noPoint, List.dropWhile_cons_of_neg (by simp)]
      simp only [text, mantissa?, taken, dropped, value]
      cases whole with
      | nil =>
          cases fraction with
          | nil => exact absurd rfl nonempty
          | cons first others =>
              have read := readFraction (List.cons_ne_nil first others)
              simp only [Option.getD_some] at read
              simp [read, digitsValue]
      | cons first others =>
          have read := readWhole (List.cons_ne_nil first others)
          cases fraction with
          | nil => simp [read, digitsValue]
          | cons decimal decimals =>
              have readDecimals := readFraction (List.cons_ne_nil decimal decimals)
              simp only [Option.getD_some] at readDecimals
              simp [read, readDecimals]

theorem not_exponentMark {c : Char} (plain : isAsciiDigit c = true ∨ c = '.') :
    isExponentMark c = false := by
  cases marked : isExponentMark c with
  | false => rfl
  | true =>
      simp only [isExponentMark, Bool.or_eq_true, decide_eq_true_eq] at marked
      rcases marked with rfl | rfl
      · exact absurd plain (by decide)
      · exact absurd plain (by decide)

theorem number?_text (numeral : Numeral) : number? numeral.text = some numeral.value := by
  have plain : ∀ c ∈ numeral.text, (!isExponentMark c) = true := fun c member => by
    rw [not_exponentMark (mem_text member)]
    rfl
  have taken : (numeral.text.takeWhile fun c => !isExponentMark c) = numeral.text :=
    List.takeWhile_eq_self_iff.mpr plain
  have dropped : (numeral.text.dropWhile fun c => !isExponentMark c) = [] :=
    List.dropWhile_eq_nil_iff.mpr plain
  rw [number?, dropped, taken]
  exact numeral.mantissa?_text

theorem toLower_of_isAsciiDigit {c : Char} (plain : isAsciiDigit c = true ∨ c = '.') :
    c.toLower = c := by
  rcases plain with digit | rfl
  · simp only [isAsciiDigit, Bool.and_eq_true, decide_eq_true_eq, Char.le_def,
      UInt32.le_iff_toNat_le] at digit
    have upper : c.val.toNat ≤ 57 := digit.2
    have below : ¬ (c.val ≥ 'A'.val ∧ c.val ≤ 'Z'.val) := by
      rw [ge_iff_le, UInt32.le_iff_toNat_le]
      intro capital
      have least : 65 ≤ c.val.toNat := capital.1
      omega
    exact dif_neg below
  · rfl

theorem isSpace_eq_false {c : Char} (plain : isAsciiDigit c = true ∨ c = '.') :
    isSpace c = false := by
  rcases plain with digit | rfl
  · exact (isDecimal_plain (isDecimal_of_isAsciiDigit digit)).1
  · decide

theorem parseFloat?_text (numeral : Numeral) :
    parseFloat? numeral.text = some (.finite numeral.value) := by
  have visible : ∀ c ∈ numeral.text, isIntSpace c = false := by
    intro c member
    rw [isIntSpace, isSpace_eq_false (mem_text member), Bool.false_and]
  have lowered : numeral.text.map Char.toLower = numeral.text :=
    (List.map_congr_left fun c member => toLower_of_isAsciiDigit (mem_text member)).trans
      (List.map_id _)
  have headNot {c : Char} (other : isAsciiDigit c = false) (notPoint : c ≠ '.') (rest : Text) :
      numeral.text ≠ c :: rest := by
    intro same
    have member : c ∈ numeral.text := same ▸ List.mem_cons_self
    rcases mem_text member with digit | point
    · exact absurd (other.symm.trans digit) Bool.false_ne_true
    · exact notPoint point
  have unsigned : unsignedFloat? false numeral.text = some (.finite numeral.value) := by
    have nan : numeral.text ≠ lit "nan" := headNot (by decide) (by decide) ['a', 'n']
    have inf : numeral.text ≠ lit "inf" := headNot (by decide) (by decide) ['n', 'f']
    have infinity : numeral.text ≠ lit "infinity" :=
      headNot (by decide) (by decide) ['n', 'f', 'i', 'n', 'i', 't', 'y']
    rw [unsignedFloat?, lowered, if_neg nan, if_neg (not_or.mpr ⟨inf, infinity⟩), number?_text]
    rfl
  unfold parseFloat?
  rw [strip_eq_self visible]
  split
  · rename_i same
    exact absurd same (headNot (by decide) (by decide) _)
  · rename_i same
    exact absurd same (headNot (by decide) (by decide) _)
  · exact unsigned

end Numeral

end Telescope
