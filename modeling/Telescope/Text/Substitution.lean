import Telescope.Data.Store
import Telescope.Text.Edit

namespace Telescope

/-! Templates: texts in which two marks stand only around the keys of placeholders, and the
replacement of placeholders one after the other or all at once. -/

/-- A text without the marks of a placeholder. -/
structure Unmarked (opening closing : Char) where
  chars : Text
  notOpening : opening ∉ chars
  notClosing : closing ∉ chars
  deriving DecidableEq

inductive TemplatePart (opening closing : Char) where
  | text (content : Unmarked opening closing)
  | placeholder (key : Unmarked opening closing)
  deriving DecidableEq

abbrev Template (opening closing : Char) := List (TemplatePart opening closing)

def marked (opening closing : Char) (key : Text) : Text :=
  [opening, opening] ++ key ++ [closing, closing]

variable {opening closing : Char}

namespace TemplatePart

def chars : TemplatePart opening closing → Text
  | .text content => content.chars
  | .placeholder key => marked opening closing key.chars

/-- The part with the placeholders filled for which there is a value. -/
def fill (value? : Unmarked opening closing → Option (Unmarked opening closing)) :
    TemplatePart opening closing → TemplatePart opening closing
  | .text content => .text content
  | .placeholder key => (value? key).elim (.placeholder key) .text

theorem fill_fill (value? : Unmarked opening closing → Option (Unmarked opening closing))
    (part : TemplatePart opening closing) : (part.fill value?).fill value? = part.fill value? := by
  cases part with
  | text content => rfl
  | placeholder key => cases found : value? key <;> simp [fill, found]

end TemplatePart

namespace Template

def chars (template : Template opening closing) : Text :=
  template.flatMap TemplatePart.chars

/-- All placeholders filled at once. -/
def fill (value? : Unmarked opening closing → Option (Unmarked opening closing))
    (template : Template opening closing) : Template opening closing :=
  template.map (TemplatePart.fill value?)

theorem fill_fill (value? : Unmarked opening closing → Option (Unmarked opening closing))
    (template : Template opening closing) :
    (template.fill value?).fill value? = template.fill value? := by
  rw [fill, fill, List.map_map]
  apply List.map_congr_left
  intro part _
  exact part.fill_fill value?

theorem fill_congr {value? other? : Unmarked opening closing → Option (Unmarked opening closing)}
    (same : ∀ key, value? key = other? key) (template : Template opening closing) :
    template.fill value? = template.fill other? := by
  rw [funext same]

/-- A placeholder that has no value stays where it is. -/
theorem getElem?_fill_of_unknown
    {value? : Unmarked opening closing → Option (Unmarked opening closing)}
    {template : Template opening closing} {index : Nat} {key : Unmarked opening closing}
    (present : template[index]? = some (.placeholder key)) (unknown : value? key = none) :
    (template.fill value?)[index]? = some (.placeholder key) := by
  rw [fill, List.getElem?_map, present, Option.map_some, TemplatePart.fill, unknown]
  rfl

end Template

/-- A placeholder that starts the text after the opening marks of another one has its key. -/
theorem eq_of_prefix_marked {key other : Unmarked opening closing} {rest : Text}
    (starts : marked opening closing key.chars <+: marked opening closing other.chars ++ rest) :
    key = other := by
  obtain ⟨after, same⟩ := starts
  simp only [marked, List.append_assoc, List.cons_append, List.nil_append, List.cons.injEq,
    true_and] at same
  have chars := eq_of_append_cons_eq key.notClosing other.notClosing same
  cases key
  cases other
  simpa using chars

/-- Replacing one placeholder passes over a placeholder with another key. -/
theorem replaceText_marked_of_ne (different : opening ≠ closing)
    {key other : Unmarked opening closing} (distinct : key ≠ other) (new rest : Text) :
    replaceText (marked opening closing key.chars) new
        (marked opening closing other.chars ++ rest) =
      marked opening closing other.chars ++
        replaceText (marked opening closing key.chars) new rest := by
  have whole : marked opening closing other.chars ++ rest =
      opening :: opening :: (other.chars ++ [closing, closing] ++ rest) := by simp [marked]
  have first : ¬ marked opening closing key.chars <+:
      opening :: opening :: (other.chars ++ [closing, closing] ++ rest) := by
    rw [← whole]
    exact fun starts => distinct (eq_of_prefix_marked starts)
  have second : ¬ marked opening closing key.chars <+:
      opening :: (other.chars ++ [closing, closing] ++ rest) := by
    intro starts
    have inside := (List.cons_prefix_cons.mp starts).2
    cases chars : other.chars with
    | nil =>
        rw [chars] at inside
        exact different (List.cons_prefix_cons.mp inside).1
    | cons head tail =>
        rw [chars] at inside
        apply other.notOpening
        rw [chars, ← (List.cons_prefix_cons.mp inside).1]
        exact List.mem_cons_self
  have later : opening ∉ other.chars ++ [closing, closing] := by
    simp [other.notOpening, different]
  rw [whole, replaceText_cons_of_missed first, replaceText_cons_of_missed second]
  have passed : replaceText (marked opening closing key.chars) new
      (other.chars ++ [closing, closing] ++ rest) =
        other.chars ++ [closing, closing] ++
          replaceText (marked opening closing key.chars) new rest :=
    replaceText_append_of_absent later _ new rest
  rw [passed]
  simp [marked]

/-- One replacement in a template fills the placeholders with its key. -/
theorem replaceText_template (different : opening ≠ closing)
    (key value : Unmarked opening closing) (template : Template opening closing) :
    replaceText (marked opening closing key.chars) value.chars template.chars =
      (template.fill fun other => if other = key then some value else none).chars := by
  induction template with
  | nil => exact replaceText_nil _ _
  | cons part rest induction =>
      have unfolded : Template.chars (part :: rest) = part.chars ++ Template.chars rest :=
        List.flatMap_cons
      rw [unfolded, Template.fill, List.map_cons]
      have filled : Template.chars
          (part.fill (fun other => if other = key then some value else none) ::
            Template.fill (fun other => if other = key then some value else none) rest) = _ :=
        List.flatMap_cons
      rw [← Template.fill, filled]
      cases part with
      | text content =>
          have passed : replaceText (marked opening closing key.chars) value.chars
              (content.chars ++ Template.chars rest) =
                content.chars ++ replaceText (marked opening closing key.chars) value.chars
                  (Template.chars rest) :=
            replaceText_append_of_absent content.notOpening _ value.chars (Template.chars rest)
          exact passed.trans (congrArg (content.chars ++ ·) induction)
      | placeholder other =>
          by_cases same : other = key
          · have here : replaceText (marked opening closing key.chars) value.chars
                (marked opening closing key.chars ++ Template.chars rest) =
                  value.chars ++ replaceText (marked opening closing key.chars) value.chars
                    (Template.chars rest) :=
              replaceText_append_self opening _ value.chars (Template.chars rest)
            rw [same, TemplatePart.fill, if_pos rfl]
            exact here.trans (congrArg (value.chars ++ ·) induction)
          · rw [TemplatePart.fill, if_neg same]
            exact (replaceText_marked_of_ne different (Ne.symm same) value.chars _).trans
              (congrArg (marked opening closing other.chars ++ ·) induction)

namespace Template

theorem fill_fill_lookup (key value : Unmarked opening closing)
    (rest : List (Unmarked opening closing × Unmarked opening closing))
    (template : Template opening closing) :
    (template.fill fun other => if other = key then some value else none).fill
        (fun other => Store.lookup other rest) =
      template.fill fun other => Store.lookup other ((key, value) :: rest) := by
  rw [fill, fill, List.map_map, fill]
  apply List.map_congr_left
  intro part _
  cases part with
  | text content => rfl
  | placeholder other =>
      by_cases same : other = key
      · simp [TemplatePart.fill, Store.lookup, same]
      · simp [TemplatePart.fill, Store.lookup, same, Ne.symm same]

/-- Replacements one after the other fill all placeholders at once. -/
theorem foldl_replaceText (different : opening ≠ closing)
    (replacements : List (Unmarked opening closing × Unmarked opening closing))
    (template : Template opening closing) :
    replacements.foldl (fun text replacement =>
        replaceText (marked opening closing replacement.1.chars) replacement.2.chars text)
      template.chars = (template.fill fun key => Store.lookup key replacements).chars := by
  induction replacements generalizing template with
  | nil =>
      have kept : template.fill (fun key => Store.lookup key []) = template := by
        apply (List.map_congr_left ?_).trans (List.map_id template)
        intro part _
        cases part <;> rfl
      rw [kept]
      rfl
  | cons replacement rest induction =>
      rw [List.foldl_cons, replaceText_template different, induction, fill_fill_lookup]

end Template

theorem Store.get?_congr_of_perm {κ ν : Type} [DecidableEq κ] {first second : Store κ ν}
    (same : first.entries.Perm second.entries) (key : κ) : first.get? key = second.get? key := by
  apply Option.ext
  intro value
  rw [first.get?_eq_some_iff, second.get?_eq_some_iff]
  exact same.mem_iff

end Telescope
