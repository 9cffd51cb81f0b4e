import Mathlib.Data.List.Basic

namespace Telescope

/-- Texts are lists of Unicode scalar values. -/
abbrev Text := List Char

instance : LawfulBEq Text := inferInstanceAs (LawfulBEq (List Char))

def lit (text : String) : Text := text.toList

/-- Rewriting with this reads off the characters of a literal, where reducing it
would decode its bytes one by one. -/
theorem lit_ofList (chars : List Char) : lit (String.ofList chars) = chars :=
  String.toList_ofList

/-! Backtracking regular expressions.  A pattern enumerates the matches at one
position in the order in which a backtracking matcher tries them: a greedy
repetition offers its longest consumption first, a lazy one its shortest.
Repetition is over character classes, which is all that line-oriented scanners
use.  `first` is the match reported at a position, `search` the leftmost one. -/

inductive Regex where
  | char (accepts : Char → Bool)
  | literal (text : Text)
  | seq (first second : Regex)
  | alt (left right : Regex)
  | many (accepts : Char → Bool)
  | manyLazy (accepts : Char → Bool)
  | group (body : Regex)

structure Match where
  groups : List Text
  rest : Text
  deriving DecidableEq

namespace Regex

def greedyRests (accepts : Char → Bool) : Text → List Text
  | [] => [[]]
  | head :: tail =>
      if accepts head then greedyRests accepts tail ++ [head :: tail]
      else [head :: tail]

def lazyRests (accepts : Char → Bool) : Text → List Text
  | [] => [[]]
  | head :: tail =>
      (head :: tail) :: if accepts head then lazyRests accepts tail else []

/-- Every match at the start of the input, in backtracking order. -/
def candidates : Regex → Text → List Match
  | .char _, [] => []
  | .char accepts, head :: tail => if accepts head then [⟨[], tail⟩] else []
  | .literal text, input =>
      if text.isPrefixOf input then [⟨[], input.drop text.length⟩] else []
  | .seq first second, input =>
      (first.candidates input).flatMap fun left =>
        (second.candidates left.rest).map fun right =>
          ⟨left.groups ++ right.groups, right.rest⟩
  | .alt left right, input => left.candidates input ++ right.candidates input
  | .many accepts, input => (greedyRests accepts input).map fun rest => ⟨[], rest⟩
  | .manyLazy accepts, input => (lazyRests accepts input).map fun rest => ⟨[], rest⟩
  | .group body, input =>
      (body.candidates input).map fun found =>
        ⟨input.take (input.length - found.rest.length) :: found.groups, found.rest⟩

def many1 (accepts : Char → Bool) : Regex := .seq (.char accepts) (.many accepts)

def first (pattern : Regex) (input : Text) : Option Match :=
  (pattern.candidates input).head?

def search (pattern : Regex) : Text → Option Match
  | [] => pattern.first []
  | head :: tail =>
      match pattern.first (head :: tail) with
      | some found => some found
      | none => pattern.search tail

/-- Groups of the successive leftmost matches, each search starting where the
previous match ended.  Meant for patterns that do not match the empty text; the
fuel bounds the number of matches. -/
def findall (pattern : Regex) : Nat → Text → List (List Text)
  | 0, _ => []
  | fuel + 1, input =>
      match pattern.search input with
      | none => []
      | some found => found.groups :: pattern.findall fuel found.rest

/-! What each constructor tries, stated once: the proofs below use these equations
and leave the definitions folded. -/

theorem first_eq_head? (pattern : Regex) (input : Text) :
    pattern.first input = (pattern.candidates input).head? := rfl

theorem candidates_char_cons (accepts : Char → Bool) (head : Char) (tail : Text) :
    (char accepts).candidates (head :: tail) =
      if accepts head then [⟨[], tail⟩] else [] := rfl

theorem candidates_literal (text input : Text) :
    (literal text).candidates input =
      if text.isPrefixOf input then [⟨[], input.drop text.length⟩] else [] := rfl

theorem candidates_seq (first second : Regex) (input : Text) :
    (seq first second).candidates input =
      (first.candidates input).flatMap fun left =>
        (second.candidates left.rest).map fun right =>
          ⟨left.groups ++ right.groups, right.rest⟩ := rfl

theorem candidates_alt (left right : Regex) (input : Text) :
    (alt left right).candidates input =
      left.candidates input ++ right.candidates input := rfl

theorem candidates_many (accepts : Char → Bool) (input : Text) :
    (many accepts).candidates input =
      (greedyRests accepts input).map fun rest => ⟨[], rest⟩ := rfl

theorem candidates_manyLazy (accepts : Char → Bool) (input : Text) :
    (manyLazy accepts).candidates input =
      (lazyRests accepts input).map fun rest => ⟨[], rest⟩ := rfl

theorem candidates_group (body : Regex) (input : Text) :
    (group body).candidates input =
      (body.candidates input).map fun found =>
        ⟨input.take (input.length - found.rest.length) :: found.groups, found.rest⟩ := rfl

theorem greedyRests_cons (accepts : Char → Bool) (head : Char) (tail : Text) :
    greedyRests accepts (head :: tail) =
      if accepts head then greedyRests accepts tail ++ [head :: tail]
      else [head :: tail] := rfl

theorem search_of_first (pattern : Regex) (input : Text) (found : Match)
    (matched : pattern.first input = some found) :
    pattern.search input = some found := by
  cases input with
  | nil => exact matched
  | cons head tail => simp only [search, matched]

@[simp] theorem candidates_literal_append (text rest : Text) :
    (literal text).candidates (text ++ rest) = [⟨[], rest⟩] := by
  have isPrefix : text.isPrefixOf (text ++ rest) = true :=
    List.isPrefixOf_iff_prefix.mpr (List.prefix_append text rest)
  simp only [candidates_literal, isPrefix, if_true, List.drop_left]

theorem first_literal_append (text rest : Text) :
    (literal text).first (text ++ rest) = some ⟨[], rest⟩ := by
  rw [first_eq_head?, candidates_literal_append, List.head?_cons]

theorem first_seq
    {first second : Regex} {input : Text} {left right : Match}
    (leftFirst : first.first input = some left)
    (rightFirst : second.first left.rest = some right) :
    (seq first second).first input =
      some ⟨left.groups ++ right.groups, right.rest⟩ := by
  obtain ⟨otherLeft, leftCandidates⟩ := List.head?_eq_some_iff.mp leftFirst
  obtain ⟨otherRight, rightCandidates⟩ := List.head?_eq_some_iff.mp rightFirst
  simp [first_eq_head?, candidates_seq, leftCandidates, rightCandidates]

theorem first_alt_left
    {left right : Regex} {input : Text} {found : Match}
    (leftFirst : left.first input = some found) :
    (alt left right).first input = some found := by
  obtain ⟨others, leftCandidates⟩ := List.head?_eq_some_iff.mp leftFirst
  simp [first_eq_head?, candidates_alt, leftCandidates]

theorem first_alt_right
    {left right : Regex} {input : Text}
    (missed : left.candidates input = []) :
    (alt left right).first input = right.first input := by
  simp [first_eq_head?, candidates_alt, missed]

theorem first_group
    {body : Regex} {captured : Text} (found : Match)
    (bodyFirst : body.first (captured ++ found.rest) = some found) :
    (group body).first (captured ++ found.rest) =
      some ⟨captured :: found.groups, found.rest⟩ := by
  obtain ⟨others, bodyCandidates⟩ := List.head?_eq_some_iff.mp bodyFirst
  simp [first_eq_head?, candidates_group, bodyCandidates]

/-- A repetition stops at the first character outside its class. -/
theorem greedyRests_head
    (accepts : Char → Bool) (consumed rest : Text)
    (accepted : ∀ c ∈ consumed, accepts c = true)
    (stopped : ∀ c ∈ rest.head?, accepts c = false) :
    (greedyRests accepts (consumed ++ rest)).head? = some rest := by
  induction consumed with
  | nil =>
      cases rest with
      | nil => rfl
      | cons head tail =>
          have rejected : accepts head = false := stopped head (by simp)
          simp [greedyRests_cons, rejected]
  | cons head tail induction =>
      have acceptedHead : accepts head = true := accepted head (by simp)
      have tailHead := induction fun c member => accepted c (by simp [member])
      simp [greedyRests_cons, acceptedHead, List.head?_append, tailHead]

theorem first_many
    (accepts : Char → Bool) (consumed rest : Text)
    (accepted : ∀ c ∈ consumed, accepts c = true)
    (stopped : ∀ c ∈ rest.head?, accepts c = false) :
    (many accepts).first (consumed ++ rest) = some ⟨[], rest⟩ := by
  have head := greedyRests_head accepts consumed rest accepted stopped
  simp [first_eq_head?, candidates_many, head]

theorem first_many1
    (accepts : Char → Bool) (consumed rest : Text)
    (nonempty : consumed ≠ [])
    (accepted : ∀ c ∈ consumed, accepts c = true)
    (stopped : ∀ c ∈ rest.head?, accepts c = false) :
    (many1 accepts).first (consumed ++ rest) = some ⟨[], rest⟩ := by
  cases consumed with
  | nil => exact absurd rfl nonempty
  | cons head tail =>
      have acceptedHead : accepts head = true := accepted head (by simp)
      have manyFirst := first_many accepts tail rest
        (fun c member => accepted c (by simp [member])) stopped
      have charFirst : (char accepts).first (head :: (tail ++ rest)) =
          some ⟨[], tail ++ rest⟩ := by
        simp [first_eq_head?, candidates_char_cons, acceptedHead]
      exact first_seq charFirst manyFirst

theorem candidates_literal_cons_ne
    (wanted found : Char) (different : wanted ≠ found) (text rest : Text) :
    (literal (wanted :: text)).candidates (found :: rest) = [] := by
  simp [candidates_literal, List.isPrefixOf, different]

/-- The second of two literals, told apart from the other by its first letter. -/
theorem first_alt_literal_right
    (other wanted : Char) (different : other ≠ wanted) (left right rest : Text) :
    (alt (literal (other :: left)) (literal (wanted :: right))).first
      (wanted :: right ++ rest) = some ⟨[], rest⟩ := by
  have missed := candidates_literal_cons_ne other wanted different left (right ++ rest)
  exact (first_alt_right missed).trans (first_literal_append (wanted :: right) rest)

theorem candidates_seq_of_nil
    {first second : Regex} {input : Text}
    (missed : first.candidates input = []) :
    (seq first second).candidates input = [] := by
  simp [candidates_seq, missed]

theorem candidates_literal_seq (text rest : Text) (second : Regex) :
    (seq (literal text) second).candidates (text ++ rest) =
      second.candidates rest := by
  have isPrefix : text.isPrefixOf (text ++ rest) = true :=
    List.isPrefixOf_iff_prefix.mpr (List.prefix_append text rest)
  simp [candidates_seq, candidates_literal, isPrefix]

private theorem flatMap_greedyRests
    (accepts : Char → Bool) (second : Regex) (consumed rest : Text)
    (accepted : ∀ c ∈ consumed, accepts c = true)
    (stopped : ∀ c ∈ rest.head?, accepts c = false)
    (rejects : ∀ c tail, accepts c = true → second.candidates (c :: tail) = []) :
    (greedyRests accepts (consumed ++ rest)).flatMap second.candidates =
      second.candidates rest := by
  induction consumed with
  | nil =>
      cases rest with
      | nil => simp [greedyRests]
      | cons head tail =>
          have rejected : accepts head = false := stopped head (by simp)
          simp [greedyRests_cons, rejected]
  | cons head tail induction =>
      have acceptedHead : accepts head = true := accepted head (by simp)
      have tailFlat := induction fun c member => accepted c (by simp [member])
      simp only [List.cons_append, greedyRests_cons, acceptedHead, if_true,
        List.flatMap_append, List.flatMap_cons, List.flatMap_nil, tailFlat,
        rejects head _ acceptedHead, List.append_nil]

/-- A repetition whose continuation cannot start inside the class has exactly
the matches of that continuation after the whole run of accepted characters. -/
theorem candidates_many1_seq
    (accepts : Char → Bool) (second : Regex) (consumed rest : Text)
    (nonempty : consumed ≠ [])
    (accepted : ∀ c ∈ consumed, accepts c = true)
    (stopped : ∀ c ∈ rest.head?, accepts c = false)
    (rejects : ∀ c tail, accepts c = true → second.candidates (c :: tail) = []) :
    (seq (many1 accepts) second).candidates (consumed ++ rest) =
      second.candidates rest := by
  cases consumed with
  | nil => exact absurd rfl nonempty
  | cons head tail =>
      have acceptedHead : accepts head = true := accepted head (by simp)
      have flat := flatMap_greedyRests accepts second tail rest
        (fun c member => accepted c (by simp [member])) stopped rejects
      simpa [many1, candidates_seq, candidates_char_cons, candidates_many, acceptedHead,
        List.flatMap_map] using flat

end Regex

end Telescope
