import Telescope.Text.CharClass
import Telescope.Text.Regex

namespace Telescope

/-! Lines of columns between whitespace: a pattern with a group for each column reads the
columns of a line, and a line holds no text with more words than it has columns. -/

/-- Space between two columns. -/
structure Gap where
  chars : Text
  nonempty : chars ≠ []
  blank : ∀ c ∈ chars, isSpace c = true

/-- The columns from the given index on, with the gap behind each but the last. -/
def joinColumns (gap : Nat → Gap) : Nat → List Text → Text
  | _, [] => []
  | _, [last] => last
  | i, column :: rest => column ++ ((gap i).chars ++ joinColumns gap (i + 1) rest)

def IsColumn (column : Text) : Prop := column ≠ [] ∧ ∀ c ∈ column, isSpace c = false

theorem newline_not_mem_joinColumns {gap : Nat → Gap} (inLine : ∀ i, '\n' ∉ (gap i).chars)
    {columns : List Text} (areColumns : ∀ column ∈ columns, IsColumn column) (i : Nat) :
    '\n' ∉ joinColumns gap i columns := by
  have plain {column : Text} (isColumn : IsColumn column) : '\n' ∉ column := fun member =>
    absurd (isColumn.2 '\n' member) (by decide)
  induction columns generalizing i with
  | nil => exact List.not_mem_nil
  | cons column others induction =>
      obtain ⟨here, later⟩ := List.forall_mem_cons.mp areColumns
      cases others with
      | nil => exact plain here
      | cons other others =>
          rw [joinColumns, List.mem_append, List.mem_append, not_or, not_or]
          · exact ⟨plain here, inLine i, induction later (i + 1)⟩
          · exact List.cons_ne_nil other others

namespace Regex

/-- A group for each column, and `\s+` between them. -/
def columns : List Regex → Regex
  | [] => .literal []
  | [last] => .group last
  | column :: rest => .seq (.group column) (.seq (.many1 isSpace) (columns rest))

/-- Before a space or the end the pattern takes the whole column. -/
def Reads (pattern : Regex) (column : Text) : Prop :=
  ∀ rest, (∀ c ∈ rest.head?, isSpace c = true) →
    pattern.first (column ++ rest) = some ⟨[], rest⟩

theorem reads_many1 {accepts : Char → Bool} (visible : ∀ c, accepts c = true → isSpace c = false)
    {column : Text} (nonempty : column ≠ []) (accepted : ∀ c ∈ column, accepts c = true) :
    (many1 accepts).Reads column := by
  intro rest blank
  apply first_many1 accepts column rest nonempty accepted
  intro c first
  cases matched : accepts c with
  | false => rfl
  | true => exact nomatch (visible c matched).symm.trans (blank c first)

theorem head?_joinColumns (gap : Nat → Gap) (i : Nat) {columns : List Text}
    (nonempty : columns ≠ []) (areColumns : ∀ column ∈ columns, IsColumn column) (rest : Text) :
    ∀ c ∈ (joinColumns gap i columns ++ rest).head?, isSpace c = false := by
  obtain ⟨column, others, rfl⟩ := List.exists_cons_of_ne_nil nonempty
  obtain ⟨filled, visible⟩ := areColumns column List.mem_cons_self
  obtain ⟨first, later, rfl⟩ := List.exists_cons_of_ne_nil filled
  have begins : ∃ tail, joinColumns gap i ((first :: later) :: others) ++ rest = first :: tail := by
    cases others with
    | nil => exact ⟨_, rfl⟩
    | cons other others => exact ⟨_, rfl⟩
  obtain ⟨tail, begins⟩ := begins
  rw [begins]
  intro c isFirst
  obtain rfl : first = c := Option.some.inj isFirst
  exact visible first List.mem_cons_self

/-- The groups are the columns. -/
theorem first_columns (gap : Nat → Gap) {patterns : List Regex} {columns : List Text}
    (read : List.Forall₂ Reads patterns columns) (nonempty : columns ≠ [])
    (areColumns : ∀ column ∈ columns, IsColumn column) (i : Nat) {rest : Text}
    (blank : ∀ c ∈ rest.head?, isSpace c = true) :
    (Regex.columns patterns).first (joinColumns gap i columns ++ rest) = some ⟨columns, rest⟩ := by
  induction read generalizing i with
  | nil => exact absurd rfl nonempty
  | @cons pattern column patterns others here later induction =>
      obtain ⟨isColumn, areOthers⟩ := List.forall_mem_cons.mp areColumns
      cases later with
      | nil => exact first_group ⟨[], rest⟩ (here rest blank)
      | @cons next other patterns others reads later =>
          have tail := induction (List.cons_ne_nil other others) areOthers (i + 1)
          have space := first_many1 isSpace (gap i).chars
            (joinColumns gap (i + 1) (other :: others) ++ rest) (gap i).nonempty (gap i).blank
            (head?_joinColumns gap (i + 1) (List.cons_ne_nil other others) areOthers rest)
          have spaced : ∀ c ∈ ((gap i).chars ++ (joinColumns gap (i + 1) (other :: others) ++
              rest)).head?, isSpace c = true := by
            intro c first
            rw [List.head?_append_of_ne_nil _ (gap i).nonempty] at first
            exact (gap i).blank c (List.mem_of_mem_head? first)
          have captured : (group pattern).first (column ++ ((gap i).chars ++
              (joinColumns gap (i + 1) (other :: others) ++ rest))) = some ⟨[column], _⟩ :=
            first_group ⟨[], _⟩ (here _ spaced)
          have line : joinColumns gap i (column :: other :: others) ++ rest =
              column ++ ((gap i).chars ++ (joinColumns gap (i + 1) (other :: others) ++ rest)) := by
            simp only [joinColumns, List.append_assoc]
          rw [line]
          exact first_seq captured (first_seq space tail)

end Regex

/-! Words. -/

/-- The words that begin in a text, behind a space or not. -/
def wordCount : Bool → Text → Nat
  | _, [] => 0
  | behindSpace, c :: rest =>
      if isSpace c then wordCount true rest
      else (if behindSpace then 1 else 0) + wordCount false rest

theorem wordCount_blank {blank : Text} (allBlank : ∀ c ∈ blank, isSpace c = true) (rest : Text) :
    wordCount true (blank ++ rest) = wordCount true rest := by
  induction blank with
  | nil => rfl
  | cons c others induction =>
      obtain ⟨here, later⟩ := List.forall_mem_cons.mp allBlank
      rw [List.cons_append, wordCount, if_pos here]
      exact induction later

theorem wordCount_visible {visible : Text} (allVisible : ∀ c ∈ visible, isSpace c = false)
    (rest : Text) : wordCount false (visible ++ rest) = wordCount false rest := by
  induction visible with
  | nil => rfl
  | cons c others induction =>
      obtain ⟨here, later⟩ := List.forall_mem_cons.mp allVisible
      simp only [List.cons_append, wordCount, here, Bool.false_eq_true, if_false, Nat.zero_add]
      exact induction later

theorem wordCount_column {column : Text} (isColumn : IsColumn column) (rest : Text) :
    wordCount true (column ++ rest) = 1 + wordCount false rest := by
  obtain ⟨c, others, rfl⟩ := List.exists_cons_of_ne_nil isColumn.1
  obtain ⟨here, later⟩ := List.forall_mem_cons.mp isColumn.2
  simp only [List.cons_append, wordCount, here, Bool.false_eq_true, if_false, if_true]
  rw [wordCount_visible later]

theorem wordCount_gap (gap : Gap) (rest : Text) :
    wordCount false (gap.chars ++ rest) = wordCount true rest := by
  obtain ⟨chars, nonempty, blank⟩ := gap
  obtain ⟨c, others, rfl⟩ := List.exists_cons_of_ne_nil nonempty
  obtain ⟨here, later⟩ := List.forall_mem_cons.mp blank
  rw [List.cons_append, wordCount, if_pos here]
  exact wordCount_blank later rest

/-- A line has the words that its columns are. -/
theorem wordCount_joinColumns (gap : Nat → Gap) {columns : List Text}
    (areColumns : ∀ column ∈ columns, IsColumn column) (i : Nat) {trailing : Text}
    (blank : ∀ c ∈ trailing, isSpace c = true) :
    wordCount true (joinColumns gap i columns ++ trailing) = columns.length := by
  have ended (behindSpace : Bool) : wordCount behindSpace trailing = 0 := by
    cases trailing with
    | nil => rfl
    | cons c others =>
        obtain ⟨here, later⟩ := List.forall_mem_cons.mp blank
        rw [wordCount, if_pos here, ← List.append_nil others]
        exact wordCount_blank later []
  induction columns generalizing i with
  | nil => exact ended true
  | cons column others induction =>
      obtain ⟨isColumn, areOthers⟩ := List.forall_mem_cons.mp areColumns
      cases others with
      | nil =>
          rw [joinColumns, wordCount_column isColumn, ended]
          rfl
      | cons other others =>
          have line : joinColumns gap i (column :: other :: others) ++ trailing =
              column ++ ((gap i).chars ++ (joinColumns gap (i + 1) (other :: others) ++
                trailing)) := by
            simp only [joinColumns, List.append_assoc]
          rw [line, wordCount_column isColumn, wordCount_gap, induction areOthers (i + 1),
            Nat.add_comm]
          rfl

theorem wordCount_le_append (behindSpace : Bool) (text rest : Text) :
    wordCount behindSpace text ≤ wordCount behindSpace (text ++ rest) := by
  induction text generalizing behindSpace with
  | nil => exact Nat.zero_le _
  | cons c others induction =>
      rw [List.cons_append, wordCount, wordCount]
      split
      · exact induction true
      · exact Nat.add_le_add_left (induction false) _

theorem wordCount_le_of_visible {c : Char} (visible : isSpace c = false) (behindSpace : Bool)
    (text rest : Text) :
    wordCount false rest ≤ wordCount behindSpace (text ++ c :: rest) := by
  induction text generalizing behindSpace with
  | nil =>
      simp only [List.nil_append, wordCount, visible, Bool.false_eq_true, if_false]
      exact Nat.le_add_left _ _
  | cons first others induction =>
      rw [List.cons_append, wordCount]
      split
      · exact induction true
      · exact (induction false).trans (Nat.le_add_left _ _)

/-- A visible character belongs to a word that begins there or before it. -/
theorem wordCount_lt_of_visible {c : Char} (visible : isSpace c = false) (text rest : Text) :
    wordCount false rest < wordCount true (text ++ c :: rest) := by
  induction text with
  | nil =>
      simp only [List.nil_append, wordCount, visible, Bool.false_eq_true, if_false, if_true]
      omega
  | cons first others induction =>
      rw [List.cons_append, wordCount]
      split
      · exact induction
      · have later := wordCount_le_of_visible visible false others rest
        rw [if_pos rfl]
        omega

/-- A text with more words than a line has columns is not in the line. -/
theorem wordCount_lt_of_infix {c : Char} (visible : isSpace c = false) {needle line : Text}
    (inside : c :: needle <:+: line) : wordCount false needle < wordCount true line := by
  obtain ⟨before, after, rfl⟩ := inside
  have found := wordCount_lt_of_visible visible before (needle ++ after)
  rw [List.append_assoc, List.cons_append]
  exact (wordCount_le_append false needle after).trans_lt found

end Telescope
