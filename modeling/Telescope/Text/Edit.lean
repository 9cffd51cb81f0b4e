import Mathlib.Data.List.Infix
import Telescope.Text.Regex

namespace Telescope

/-! Replacing, splitting and joining texts. -/

/-- Left-to-right replacement of the non-overlapping occurrences of a nonempty
text; `skip` counts the characters of the current occurrence still to drop. -/
def replaceFrom (old new : Text) : Nat → Text → Text
  | _, [] => []
  | skip + 1, _ :: tail => replaceFrom old new skip tail
  | 0, head :: tail =>
      if old.isPrefixOf (head :: tail) then
        new ++ replaceFrom old new (old.length - 1) tail
      else
        head :: replaceFrom old new 0 tail

def replaceText (old new text : Text) : Text := replaceFrom old new 0 text

def joinText (separator : Text) (parts : List Text) : Text :=
  separator.intercalate parts

def containsText (needle text : Text) : Bool := decide (needle <:+: text)

/-- `value or None` for an optional text: an empty text counts as absent. -/
def presentText (text : Option Text) : Option Text := text.filter fun value => value ≠ []

theorem presentText_eq_none_or (text : Option Text) :
    presentText text = none ∨ ∃ value, presentText text = some value ∧ value ≠ [] := by
  cases found : presentText text with
  | none => exact .inl rfl
  | some value =>
      exact .inr ⟨value, rfl, of_decide_eq_true (Option.filter_eq_some_iff.mp found).2⟩

/-- A text is cut once more than it holds the separator. -/
theorem length_splitOn (separator : Char) (text : Text) :
    (text.splitOn separator).length = text.count separator + 1 := by
  induction text with
  | nil => rfl
  | cons head tail induction =>
      rw [List.splitOn_cons_eq_if_modifyHead, List.count_cons]
      by_cases same : head = separator
      · simp [same, induction]
      · simp [same, induction]

theorem not_mem_of_mem_splitOn {separator : Char} {text part : Text}
    (member : part ∈ text.splitOn separator) : separator ∉ part := by
  induction text generalizing part with
  | nil =>
      rw [List.splitOn_nil, List.mem_singleton] at member
      exact member ▸ List.not_mem_nil
  | cons head tail induction =>
      cases parts : tail.splitOn separator with
      | nil => exact absurd parts (List.splitOn_ne_nil separator tail)
      | cons first others =>
          rw [parts] at induction
          rw [List.splitOn_cons_eq_if_modifyHead, parts] at member
          cases Decidable.em (head = separator) with
          | inl same =>
              simp only [same, beq_self_eq_true, if_true, List.mem_cons] at member
              rcases member with rfl | member
              · exact List.not_mem_nil
              · exact induction (List.mem_cons.mpr member)
          | inr different =>
              simp only [beq_iff_eq, different, if_false, List.modifyHead_cons,
                List.mem_cons] at member
              rcases member with rfl | member
              · intro inside
                rcases List.mem_cons.mp inside with same | inside
                · exact different same.symm
                · exact induction List.mem_cons_self inside
              · exact induction (List.mem_cons_of_mem first member)

theorem joinText_concat (separator : Char) {parts : List Text} (nonempty : parts ≠ [])
    (last : Text) :
    joinText [separator] (parts ++ [last]) = joinText [separator] parts ++ separator :: last := by
  unfold joinText
  induction parts with
  | nil => exact absurd rfl nonempty
  | cons part others induction =>
      cases others with
      | nil => simp
      | cons other others =>
          have later := induction (List.cons_ne_nil other others)
          have cut : [separator].intercalate (part :: other :: others) = _ :=
            List.intercalate_cons_of_ne_nil (List.cons_ne_nil other others)
          rw [List.cons_append, List.intercalate_cons_of_ne_nil (by simp), later, cut,
            List.append_assoc _ _ (separator :: last)]

theorem splitOn_cons_head {separator c : Char} (different : c ≠ separator) (rest : Text) :
    ∃ part parts, (c :: rest).splitOn separator = (c :: part) :: parts := by
  obtain ⟨part, parts, split⟩ := List.exists_cons_of_ne_nil (List.splitOn_ne_nil separator rest)
  refine ⟨part, parts, ?_⟩
  rw [List.splitOn_cons_eq_if_modifyHead, split]
  simp [different]

theorem joinText_append_singleton (separator : Text) (parts : List Text) (last : Text) :
    joinText separator (parts ++ [last]) = parts.flatMap (· ++ separator) ++ last := by
  induction parts with
  | nil => exact List.intercalate_singleton
  | cons part others induction =>
      unfold joinText at induction ⊢
      rw [List.cons_append, List.intercalate_cons_of_ne_nil (by simp), induction,
        List.flatMap_cons]
      simp only [List.append_assoc]

/-- Replacing one character by another maps over the text. -/
theorem replaceText_singleton (old new : Char) (text : Text) :
    replaceText [old] [new] text =
      text.map fun c => if c = old then new else c := by
  unfold replaceText
  induction text with
  | nil => rfl
  | cons head tail induction =>
      by_cases same : head = old
      · simp [replaceFrom, List.isPrefixOf, same, induction]
      · have different : old ≠ head := fun equal => same equal.symm
        simp [replaceFrom, List.isPrefixOf, same, different, induction]

/-- Nothing is replaced before the first character of the text to replace occurs. -/
theorem replaceText_append_of_absent {first : Char} {text : Text} (absent : first ∉ text)
    (others new rest : Text) :
    replaceText (first :: others) new (text ++ rest) =
      text ++ replaceText (first :: others) new rest := by
  unfold replaceText
  induction text with
  | nil => rfl
  | cons head tail induction =>
      have different : first ≠ head := fun same => absent (same ▸ List.mem_cons_self)
      have later := induction fun member => absent (List.mem_cons_of_mem _ member)
      simp [replaceFrom, List.isPrefixOf, different, later]

/-- Two cuts of a text at the first occurrence of a character agree. -/
theorem eq_of_append_cons_eq {c : Char} {first second rest others : Text}
    (inFirst : c ∉ first) (inSecond : c ∉ second)
    (same : first ++ c :: rest = second ++ c :: others) : first = second := by
  induction first generalizing second with
  | nil =>
      cases second with
      | nil => rfl
      | cons head tail =>
          have here : c = head := (List.cons.inj same).1
          exact absurd (here ▸ List.mem_cons_self) inSecond
  | cons head tail induction =>
      cases second with
      | nil =>
          have here : head = c := (List.cons.inj same).1
          exact absurd (here ▸ List.mem_cons_self) inFirst
      | cons otherHead otherTail =>
          obtain ⟨rfl, tails⟩ := List.cons.inj same
          have equal := induction (fun member => inFirst (List.mem_cons_of_mem _ member))
            (fun member => inSecond (List.mem_cons_of_mem _ member)) tails
          rw [equal]

theorem not_mem_replaceText {c old new : Char} (notNew : c ≠ new) {text : Text}
    (removed : c = old ∨ c ∉ text) : c ∉ replaceText [old] [new] text := by
  rw [replaceText_singleton, List.mem_map]
  rintro ⟨found, member, equal⟩
  by_cases same : found = old
  · rw [if_pos same] at equal
    exact notNew equal.symm
  · rw [if_neg same] at equal
    subst equal
    rcases removed with isOld | absent
    · exact same isOld
    · exact absent member

theorem replaceText_nil (old new : Text) : replaceText old new [] = [] := by
  unfold replaceText
  rfl

theorem replaceFrom_length_append (old new skipped rest : Text) :
    replaceFrom old new skipped.length (skipped ++ rest) = replaceFrom old new 0 rest := by
  induction skipped with
  | nil => rfl
  | cons head tail induction => exact induction

theorem replaceText_append_self (first : Char) (others new rest : Text) :
    replaceText (first :: others) new (first :: others ++ rest) =
      new ++ replaceText (first :: others) new rest := by
  have found : (first :: others).isPrefixOf (first :: (others ++ rest)) = true :=
    List.isPrefixOf_iff_prefix.mpr (List.prefix_append (first :: others) rest)
  have skipped := replaceFrom_length_append (first :: others) new others rest
  simp [replaceText, replaceFrom, found, skipped]

theorem replaceText_cons_of_missed {old : Text} {head : Char} {tail : Text}
    (missed : ¬ old <+: head :: tail) (new : Text) :
    replaceText old new (head :: tail) = head :: replaceText old new tail := by
  rw [← List.isPrefixOf_iff_prefix] at missed
  simp [replaceText, replaceFrom, missed]

/-- Induction along a replacement: a text is empty, starts with the text to replace, or
keeps its first character. -/
@[elab_as_elim] theorem replacement_induction (first : Char) (others : Text)
    {motive : Text → Prop} (nil : motive [])
    (found : ∀ rest, motive rest → motive (first :: others ++ rest))
    (missed : ∀ head tail, ¬ first :: others <+: head :: tail → motive tail →
      motive (head :: tail)) (text : Text) : motive text := by
  induction bound : text.length using Nat.strong_induction_on generalizing text with
  | h length induction =>
      cases text with
      | nil => exact nil
      | cons head tail =>
          cases Decidable.em (first :: others <+: head :: tail) with
          | inl starts =>
              obtain ⟨rest, same⟩ := starts
              rw [← same]
              apply found
              apply induction rest.length _ rest rfl
              rw [← bound, ← same, List.length_append, List.length_cons]
              omega
          | inr other =>
              apply missed head tail other
              apply induction tail.length _ tail rfl
              rw [← bound, List.length_cons]
              exact Nat.lt_succ_self tail.length

/-- A text that ends in a character it holds nowhere else starts a cut text within the
part before the cut, or is that part with its end. -/
theorem prefix_or_eq_of_prefix_append_cons {body : Text} {stop : Char} (absent : stop ∉ body)
    {before rest : Text} (starts : body ++ [stop] <+: before ++ stop :: rest) :
    body ++ [stop] <+: before ∨ before = body := by
  obtain ⟨after, same⟩ := starts
  rw [List.append_assoc, List.singleton_append, List.append_eq_append_iff] at same
  rcases same with ⟨middle, rfl, cut⟩ | ⟨middle, rfl, cut⟩
  · cases middle with
    | nil => exact .inr (List.append_nil body)
    | cons head tail =>
        have here : stop = head := (List.cons.inj cut).1
        subst here
        exact .inl ⟨tail, by simp⟩
  · cases middle with
    | nil => exact .inr (List.append_nil before).symm
    | cons head tail =>
        have here : stop = head := (List.cons.inj cut).1
        subst here
        exact absurd (List.mem_append_right before List.mem_cons_self) absent

/-- Replacing a text whose last character ends it works on each part up to such a
character by itself. -/
theorem replaceText_append_cons (first : Char) {others : Text} {stop : Char}
    (absent : stop ∉ first :: others) (new before rest : Text) :
    replaceText (first :: (others ++ [stop])) new (before ++ stop :: rest) =
      replaceText (first :: (others ++ [stop])) new (before ++ [stop]) ++
        replaceText (first :: (others ++ [stop])) new rest := by
  have whole := replaceText_append_self first (others ++ [stop]) new
  induction before using replacement_induction first (others ++ [stop]) with
  | nil =>
      have different : stop ≠ first := fun same => absent (same ▸ List.mem_cons_self)
      have missed (tail : Text) : ¬ first :: (others ++ [stop]) <+: stop :: tail := by
        intro starts
        exact different (List.cons_prefix_cons.mp starts).1.symm
      rw [List.nil_append, List.nil_append, replaceText_cons_of_missed (missed rest),
        replaceText_cons_of_missed (missed []), replaceText_nil]
      rfl
  | found after induction =>
      rw [List.append_assoc, List.append_assoc, whole, whole, induction, List.append_assoc]
  | missed head tail other induction =>
      cases Decidable.em (head :: tail = first :: others) with
      | inl same =>
          have withRest : head :: tail ++ stop :: rest = first :: (others ++ [stop]) ++ rest := by
            simp [same]
          have alone : head :: tail ++ [stop] = first :: (others ++ [stop]) ++ [] := by
            simp [same]
          rw [withRest, alone, whole, whole, replaceText_nil, List.append_nil]
      | inr different =>
          have missed (after : Text) :
              ¬ first :: (others ++ [stop]) <+: head :: tail ++ stop :: after := by
            intro starts
            cases prefix_or_eq_of_prefix_append_cons absent starts with
            | inl inside => exact other inside
            | inr same => exact different same
          have kept (after : Text) :
              replaceText (first :: (others ++ [stop])) new (head :: (tail ++ stop :: after)) =
                head :: replaceText (first :: (others ++ [stop])) new (tail ++ stop :: after) :=
            replaceText_cons_of_missed (missed after) new
          rw [List.cons_append, List.cons_append, kept rest, kept [], induction,
            List.cons_append]

theorem length_replaceText_nil_le (first : Char) (others text : Text) :
    (replaceText (first :: others) [] text).length ≤ text.length := by
  induction text using replacement_induction first others with
  | nil => simp [replaceText_nil]
  | found rest induction =>
      rw [replaceText_append_self, List.nil_append, List.length_append]
      omega
  | missed head tail other induction =>
      rw [replaceText_cons_of_missed other]
      exact Nat.succ_le_succ induction

/-- Deleting a text changes exactly the texts that hold it. -/
theorem replaceText_nil_eq_self_iff (first : Char) (others text : Text) :
    replaceText (first :: others) [] text = text ↔ ¬ first :: others <:+: text := by
  induction text using replacement_induction first others with
  | nil => simp [replaceText_nil]
  | found rest induction =>
      constructor
      · intro same
        have shorter := length_replaceText_nil_le first others rest
        rw [replaceText_append_self, List.nil_append] at same
        rw [same, List.length_append, List.length_cons] at shorter
        omega
      · intro absent
        exact absurd (List.prefix_append (first :: others) rest).isInfix absent
  | missed head tail other induction =>
      rw [replaceText_cons_of_missed other, List.cons.injEq, eq_self, true_and, induction,
        List.infix_cons_iff]
      simp [other]

/-- Deleting a text from every part leaves all of them together unchanged only if no part
holds it. -/
theorem flatMap_replaceText_nil_eq_flatten_iff (first : Char) (others : Text)
    (parts : List Text) :
    parts.flatMap (replaceText (first :: others) []) = parts.flatten ↔
      ∀ part ∈ parts, ¬ first :: others <:+: part := by
  have shorter (texts : List Text) :
      (texts.flatMap (replaceText (first :: others) [])).length ≤ texts.flatten.length := by
    induction texts with
    | nil => exact Nat.le_refl 0
    | cons text texts induction =>
        rw [List.flatMap_cons, List.flatten_cons, List.length_append, List.length_append]
        exact Nat.add_le_add (length_replaceText_nil_le first others text) induction
  induction parts with
  | nil => simp
  | cons part parts induction =>
      rw [List.forall_mem_cons, List.flatMap_cons, List.flatten_cons,
        ← replaceText_nil_eq_self_iff]
      apply Iff.trans _ (and_congr Iff.rfl induction)
      constructor
      · intro same
        have lengths := congrArg List.length same
        rw [List.length_append, List.length_append] at lengths
        have partShorter := length_replaceText_nil_le first others part
        exact List.append_inj same (by have := shorter parts; omega)
      · intro same
        rw [same.1, same.2]

end Telescope
