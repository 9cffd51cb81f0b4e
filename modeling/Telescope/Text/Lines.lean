import Mathlib.Data.List.DropRight
import Telescope.Text.CharClass

namespace Telescope

/-! Texts as lines, and the two sides of a separator. -/

/-- The characters at which `str.splitlines` ends a line. -/
def isLineBreak (c : Char) : Bool :=
  (0x0a ≤ c.toNat && c.toNat ≤ 0x0d) || (0x1c ≤ c.toNat && c.toNat ≤ 0x1e) ||
    c.toNat == 0x85 || c.toNat == 0x2028 || c.toNat == 0x2029

/-- `text.splitlines()`; a carriage return and the newline after it are one break. -/
def splitLines : Text → List Text
  | [] => []
  | '\r' :: '\n' :: rest => [] :: splitLines rest
  | c :: rest =>
      if isLineBreak c then [] :: splitLines rest
      else
        match splitLines rest with
        | [] => [[c]]
        | line :: lines => (c :: line) :: lines

theorem splitLines_cons_of_plain {c : Char} (plain : isLineBreak c = false) {rest line : Text}
    {lines : List Text} (later : splitLines rest = line :: lines) :
    splitLines (c :: rest) = (c :: line) :: lines := by
  have notReturn : c ≠ '\r' := by
    rintro rfl
    exact absurd plain (by decide)
  rw [splitLines.eq_3 c rest (fun _ isReturn => absurd isReturn notReturn), plain, later]
  rfl

theorem splitLines_append_newline {line : Text} (plain : ∀ c ∈ line, isLineBreak c = false)
    (rest : Text) : splitLines (line ++ '\n' :: rest) = line :: splitLines rest := by
  induction line with
  | nil =>
      have notReturn : '\n' ≠ '\r' := by decide
      rw [List.nil_append,
        splitLines.eq_3 '\n' rest (fun _ isReturn => absurd isReturn notReturn)]
      rfl
  | cons c tail induction =>
      exact splitLines_cons_of_plain (plain c List.mem_cons_self)
        (induction fun other member => plain other (List.mem_cons_of_mem _ member))

/-- Lines that were written one by one are read back. -/
theorem splitLines_flatMap_newline {lines : List Text}
    (plain : ∀ line ∈ lines, ∀ c ∈ line, isLineBreak c = false) :
    splitLines (lines.flatMap fun line => line ++ ['\n']) = lines := by
  induction lines with
  | nil => rfl
  | cons line rest induction =>
      rw [List.flatMap_cons, List.append_assoc, List.singleton_append,
        splitLines_append_newline (plain line List.mem_cons_self),
        induction fun other member => plain other (List.mem_cons_of_mem _ member)]

/-- `text.split(separator, 1)` of a text with the separator. -/
def splitOnce (separator : Char) (text : Text) : Text × Text :=
  (text.takeWhile (· != separator), (text.dropWhile (· != separator)).tail)

theorem splitOnce_append {separator : Char} {before : Text} (absent : separator ∉ before)
    (after : Text) : splitOnce separator (before ++ separator :: after) = (before, after) := by
  have others : ∀ c ∈ before, (c != separator) = true := by
    intro c member
    rw [bne_iff_ne]
    rintro rfl
    exact absent member
  unfold splitOnce
  rw [List.takeWhile_append_of_pos others, List.dropWhile_append_of_pos others]
  simp

theorem strip_cons {space : Char → Bool} {c : Char} (visible : space c = false) (rest : Text) :
    ∃ others, ((c :: rest).dropWhile space).rdropWhile space = c :: others := by
  have kept : (c :: rest).dropWhile space = c :: rest :=
    List.dropWhile_cons_of_neg (by simp [visible])
  rw [kept]
  induction rest using List.reverseRecOn with
  | nil => exact ⟨[], by simp [List.rdropWhile_singleton, visible]⟩
  | append_singleton front last induction =>
      cases seen : space last with
      | true =>
          obtain ⟨others, stripped⟩ := induction (List.dropWhile_cons_of_neg (by simp [visible]))
          refine ⟨others, ?_⟩
          rw [← List.cons_append, List.rdropWhile_concat_pos _ _ _ seen]
          exact stripped
      | false =>
          refine ⟨front ++ [last], ?_⟩
          rw [← List.cons_append, List.rdropWhile_concat_neg _ _ _ (by simp [seen])]

theorem dropWhile_append_of_all {space : Char → Bool} {spaces : Text}
    (blank : ∀ c ∈ spaces, space c = true) (rest : Text) :
    (spaces ++ rest).dropWhile space = rest.dropWhile space := by
  induction spaces with
  | nil => rfl
  | cons first others induction =>
      obtain ⟨here, later⟩ := List.forall_mem_cons.mp blank
      rw [List.cons_append, List.dropWhile_cons_of_pos here]
      exact induction later

theorem rdropWhile_append_of_all {dropped : Char → Bool} {suffix : Text}
    (all : ∀ c ∈ suffix, dropped c = true) (text : Text) :
    (text ++ suffix).rdropWhile dropped = text.rdropWhile dropped := by
  induction suffix using List.reverseRecOn with
  | nil => rw [List.append_nil]
  | append_singleton front last induction =>
      rw [← List.append_assoc, List.rdropWhile_concat_pos _ _ _ (all last (by simp))]
      exact induction fun c member => all c (List.mem_append_left _ member)

theorem stripText_of_not_space {text : Text} (visible : ∀ c ∈ text, isSpace c = false) :
    stripText text = text := by
  have left : text.dropWhile isSpace = text := by
    rw [List.dropWhile_eq_self_iff]
    intro nonempty
    simp [visible _ (List.getElem_mem nonempty)]
  have right : text.rdropWhile isSpace = text := by
    rw [List.rdropWhile_eq_self_iff]
    intro nonempty
    simp [visible _ (List.getLast_mem nonempty)]
  rw [stripText, left, right]

theorem stripText_space_cons (text : Text) : stripText (' ' :: text) = stripText text := by
  have space : isSpace ' ' = true := by decide
  rw [stripText, List.dropWhile_cons_of_pos space, stripText]

/-- The digits of a number are neither spaces nor line breaks nor colons. -/
theorem natText_plain {n : Nat} {c : Char} (member : c ∈ natText n) :
    isSpace c = false ∧ isLineBreak c = false ∧ c ≠ ':' := by
  have digit := Nat.isDigit_of_mem_toDigits (by decide) (by decide) member
  simp only [Char.isDigit, ge_iff_le, Bool.and_eq_true, decide_eq_true_eq, UInt32.le_iff_toNat_le]
    at digit
  have lower : 48 ≤ c.toNat := digit.1
  have upper : c.toNat ≤ 57 := digit.2
  refine ⟨?_, ?_, ?_⟩
  · simp only [isSpace, Bool.or_eq_false_iff, Bool.and_eq_false_iff, decide_eq_false_iff_not,
      beq_eq_false_iff_ne]
    omega
  · simp only [isLineBreak, Bool.or_eq_false_iff, Bool.and_eq_false_iff, decide_eq_false_iff_not,
      beq_eq_false_iff_ne]
    omega
  · rintro rfl
    exact absurd upper (by decide)

end Telescope
