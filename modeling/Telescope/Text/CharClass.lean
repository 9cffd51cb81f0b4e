import Mathlib.Data.List.DropRight
import Mathlib.Data.Nat.Digits.Defs
import Telescope.Text.Regex

namespace Telescope

/-! The character classes `\d` and `\s` over Unicode, and decimal numbers in
texts.  `decimalZeros` lists the code points of the zeros of the digit ranges
(category Nd); each range holds its ten digits in order. -/

def decimalZeros : List Nat :=
  [0x0030, 0x0660, 0x06F0, 0x07C0, 0x0966, 0x09E6, 0x0A66, 0x0AE6, 0x0B66,
   0x0BE6, 0x0C66, 0x0CE6, 0x0D66, 0x0DE6, 0x0E50, 0x0ED0, 0x0F20, 0x1040,
   0x1090, 0x17E0, 0x1810, 0x1946, 0x19D0, 0x1A80, 0x1A90, 0x1B50, 0x1BB0,
   0x1C40, 0x1C50, 0xA620, 0xA8D0, 0xA900, 0xA9D0, 0xA9F0, 0xAA50, 0xABF0,
   0xFF10, 0x104A0, 0x10D30, 0x11066, 0x110F0, 0x11136, 0x111D0, 0x112F0,
   0x11450, 0x114D0, 0x11650, 0x116C0, 0x11730, 0x118E0, 0x11950, 0x11C50,
   0x11D50, 0x11DA0, 0x16A60, 0x16AC0, 0x16B50, 0x1D7CE, 0x1D7D8, 0x1D7E2,
   0x1D7EC, 0x1D7F6, 0x1E140, 0x1E2F0, 0x1E950, 0x1FBF0]

def digitValue? (c : Char) : Option Nat :=
  decimalZeros.findSome? fun base =>
    if base ≤ c.toNat ∧ c.toNat < base + 10 then some (c.toNat - base) else none

def isDecimal (c : Char) : Bool := (digitValue? c).isSome

def isAsciiDigit (c : Char) : Bool := '0' ≤ c && c ≤ '9'

theorem isDecimal_of_isAsciiDigit {c : Char} (digit : isAsciiDigit c = true) :
    isDecimal c = true := by
  simp only [isAsciiDigit, Bool.and_eq_true, decide_eq_true_eq, Char.le_def,
    UInt32.le_iff_toNat_le] at digit
  have lower : 48 ≤ c.toNat := digit.1
  have upper : c.toNat ≤ 57 := digit.2
  have first : 0x0030 ≤ c.toNat ∧ c.toNat < 0x0030 + 10 := by omega
  rw [isDecimal, digitValue?, decimalZeros, List.findSome?_cons, if_pos first]
  rfl

def isSpace (c : Char) : Bool :=
  (0x09 ≤ c.toNat && c.toNat ≤ 0x0d) || (0x1c ≤ c.toNat && c.toNat ≤ 0x20) ||
    c.toNat == 0x85 || c.toNat == 0xa0 || c.toNat == 0x1680 ||
    (0x2000 ≤ c.toNat && c.toNat ≤ 0x200a) || c.toNat == 0x2028 ||
    c.toNat == 0x2029 || c.toNat == 0x202f || c.toNat == 0x205f ||
    c.toNat == 0x3000

/-- `text.strip()` -/
def stripText (text : Text) : Text := (text.dropWhile isSpace).rdropWhile isSpace

def digitsValue (digits : Text) : Nat :=
  digits.foldl (fun value c => 10 * value + (digitValue? c).getD 0) 0

def intMaxStrDigits : Nat := 4300

/-- `int(digits)`; conversions of longer digit strings raise. -/
def parseInt? (digits : Text) : Option Nat :=
  if digits.length ≤ intMaxStrDigits then some (digitsValue digits) else none

def natText (n : Nat) : Text := Nat.toDigits 10 n

def intText : Int → Text
  | .ofNat n => natText n
  | .negSucc n => '-' :: natText (n + 1)

theorem natText_injective : Function.Injective natText := by
  intro m n same
  have values := congrArg (fun digits => Nat.ofDigitChars 10 digits 0) same
  simpa [natText] using values

structure Digits where
  chars : Text
  nonempty : chars ≠ []
  decimal : ∀ c ∈ chars, isDecimal c = true

def twoDigits (n : Nat) : Text :=
  [Nat.digitChar (n / 10 % 10), Nat.digitChar (n % 10)]

theorem digitChar_inj :
    ∀ m < 10, ∀ n < 10, Nat.digitChar m = Nat.digitChar n → m = n := by
  decide

theorem twoDigits_inj {m n : Nat} (mBound : m < 100) (nBound : n < 100)
    (same : twoDigits m = twoDigits n) : m = n := by
  simp only [twoDigits, List.cons.injEq, and_true] at same
  have tens : m / 10 % 10 = n / 10 % 10 :=
    digitChar_inj _ (by omega) _ (by omega) same.1
  have units : m % 10 = n % 10 :=
    digitChar_inj _ (by omega) _ (by omega) same.2
  omega

end Telescope
