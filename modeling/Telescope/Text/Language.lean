import Telescope.Text.Regex

namespace Telescope.Regex

/-! The texts a pattern matches, whatever the order in which the matcher tries
them.  Candidates consume exactly these texts, so a search fails exactly when no
part of the input is one of them. -/

inductive Accepts : Regex → Text → Prop
  | char {accepts : Char → Bool} {c : Char} (accepted : accepts c = true) :
      Accepts (.char accepts) [c]
  | literal (text : Text) : Accepts (.literal text) text
  | seq {first second : Regex} {left right : Text}
      (firstAccepts : Accepts first left) (secondAccepts : Accepts second right) :
      Accepts (.seq first second) (left ++ right)
  | altLeft {left right : Regex} {text : Text} (leftAccepts : Accepts left text) :
      Accepts (.alt left right) text
  | altRight {left right : Regex} {text : Text} (rightAccepts : Accepts right text) :
      Accepts (.alt left right) text
  | many {accepts : Char → Bool} {text : Text}
      (accepted : ∀ c ∈ text, accepts c = true) : Accepts (.many accepts) text
  | manyLazy {accepts : Char → Bool} {text : Text}
      (accepted : ∀ c ∈ text, accepts c = true) : Accepts (.manyLazy accepts) text
  | group {body : Regex} {text : Text} (bodyAccepts : Accepts body text) :
      Accepts (.group body) text

@[simp] theorem accepts_literal {expected text : Text} :
    (literal expected).Accepts text ↔ text = expected := by
  constructor
  · intro accepted
    cases accepted with
    | literal => rfl
  · rintro rfl
    exact .literal text

@[simp] theorem accepts_seq {first second : Regex} {text : Text} :
    (seq first second).Accepts text ↔
      ∃ left right, text = left ++ right ∧ first.Accepts left ∧ second.Accepts right := by
  constructor
  · intro accepted
    cases accepted with
    | seq leftAccepts rightAccepts => exact ⟨_, _, rfl, leftAccepts, rightAccepts⟩
  · rintro ⟨left, right, rfl, leftAccepts, rightAccepts⟩
    exact .seq leftAccepts rightAccepts

@[simp] theorem accepts_alt {left right : Regex} {text : Text} :
    (alt left right).Accepts text ↔ left.Accepts text ∨ right.Accepts text := by
  constructor
  · intro accepted
    cases accepted with
    | altLeft leftAccepts => exact .inl leftAccepts
    | altRight rightAccepts => exact .inr rightAccepts
  · exact fun either => either.elim .altLeft .altRight

@[simp] theorem accepts_manyLazy {accepts : Char → Bool} {text : Text} :
    (manyLazy accepts).Accepts text ↔ ∀ c ∈ text, accepts c = true := by
  constructor
  · intro accepted
    cases accepted with
    | manyLazy all => exact all
  · exact .manyLazy

@[simp] theorem accepts_many1 {accepts : Char → Bool} {text : Text} :
    (many1 accepts).Accepts text ↔ text ≠ [] ∧ ∀ c ∈ text, accepts c = true := by
  constructor
  · intro accepted
    cases accepted with
    | seq headAccepts tailAccepts =>
        cases headAccepts with
        | char accepted =>
            cases tailAccepts with
            | many all =>
                exact ⟨by simp, List.forall_mem_cons.mpr ⟨accepted, all⟩⟩
  · rintro ⟨nonempty, all⟩
    cases text with
    | nil => exact absurd rfl nonempty
    | cons head tail =>
        obtain ⟨accepted, others⟩ := List.forall_mem_cons.mp all
        exact .seq (.char accepted) (.many others)

@[simp] theorem accepts_group {body : Regex} {text : Text} :
    (group body).Accepts text ↔ body.Accepts text := by
  constructor
  · intro accepted
    cases accepted with
    | group bodyAccepts => exact bodyAccepts
  · exact .group

theorem mem_greedyRests_iff (accepts : Char → Bool) (input rest : Text) :
    rest ∈ greedyRests accepts input ↔
      ∃ consumed, input = consumed ++ rest ∧ ∀ c ∈ consumed, accepts c = true := by
  induction input with
  | nil => simp [greedyRests]
  | cons head tail induction =>
      cases accepted : accepts head with
      | true =>
          rw [greedyRests_cons, if_pos accepted, List.mem_append, List.mem_singleton, induction]
          constructor
          · rintro (⟨consumed, rfl, all⟩ | rfl)
            · exact ⟨head :: consumed, rfl, List.forall_mem_cons.mpr ⟨accepted, all⟩⟩
            · exact ⟨[], rfl, by simp⟩
          · rintro ⟨consumed, split, all⟩
            cases consumed with
            | nil => exact .inr split.symm
            | cons first others =>
                obtain ⟨rfl, rfl⟩ := List.cons.inj split
                exact .inl ⟨others, rfl, (List.forall_mem_cons.mp all).2⟩
      | false =>
          rw [greedyRests_cons, accepted, if_neg (by decide), List.mem_singleton]
          constructor
          · rintro rfl
            exact ⟨[], rfl, by simp⟩
          · rintro ⟨consumed, split, all⟩
            cases consumed with
            | nil => exact split.symm
            | cons first others =>
                obtain ⟨rfl, rfl⟩ := List.cons.inj split
                rw [(List.forall_mem_cons.mp all).1] at accepted
                exact Bool.noConfusion accepted

/-- Greedy and lazy repetition offer the same consumptions. -/
theorem mem_lazyRests_iff (accepts : Char → Bool) (input rest : Text) :
    rest ∈ lazyRests accepts input ↔ rest ∈ greedyRests accepts input := by
  induction input with
  | nil => rfl
  | cons head tail induction =>
      cases accepted : accepts head with
      | true =>
          simp only [lazyRests, greedyRests, accepted, if_true, List.mem_cons,
            List.mem_append, induction, List.not_mem_nil, or_false]
          exact or_comm
      | false => simp [lazyRests, greedyRests, accepted]

theorem accepts_of_mem_candidates {pattern : Regex} {input : Text} {found : Match}
    (member : found ∈ pattern.candidates input) :
    ∃ consumed, input = consumed ++ found.rest ∧ pattern.Accepts consumed := by
  induction pattern generalizing input found with
  | char accepts =>
      cases input with
      | nil => exact absurd member List.not_mem_nil
      | cons head tail =>
          cases accepted : accepts head with
          | false => simp [candidates_char_cons, accepted] at member
          | true =>
              simp only [candidates_char_cons, accepted, if_true, List.mem_singleton] at member
              subst member
              exact ⟨[head], rfl, .char accepted⟩
  | literal text =>
      by_cases isPrefix : text.isPrefixOf input = true
      · obtain ⟨rest, rfl⟩ := List.isPrefixOf_iff_prefix.mp isPrefix
        rw [candidates_literal_append, List.mem_singleton] at member
        subst member
        exact ⟨text, rfl, .literal text⟩
      · simp [candidates_literal, isPrefix] at member
  | seq first second firstInduction secondInduction =>
      simp only [candidates_seq, List.mem_flatMap, List.mem_map] at member
      obtain ⟨left, leftMember, right, rightMember, rfl⟩ := member
      obtain ⟨leftText, rfl, leftAccepts⟩ := firstInduction leftMember
      obtain ⟨rightText, leftRest, rightAccepts⟩ := secondInduction rightMember
      refine ⟨leftText ++ rightText, ?_, leftAccepts.seq rightAccepts⟩
      rw [leftRest, List.append_assoc]
  | alt left right leftInduction rightInduction =>
      rw [candidates_alt, List.mem_append] at member
      cases member with
      | inl leftMember =>
          obtain ⟨consumed, split, accepted⟩ := leftInduction leftMember
          exact ⟨consumed, split, .altLeft accepted⟩
      | inr rightMember =>
          obtain ⟨consumed, split, accepted⟩ := rightInduction rightMember
          exact ⟨consumed, split, .altRight accepted⟩
  | many accepts =>
      simp only [candidates_many, List.mem_map] at member
      obtain ⟨rest, restMember, rfl⟩ := member
      obtain ⟨consumed, split, all⟩ := (mem_greedyRests_iff accepts input rest).mp restMember
      exact ⟨consumed, split, .many all⟩
  | manyLazy accepts =>
      simp only [candidates_manyLazy, List.mem_map, mem_lazyRests_iff] at member
      obtain ⟨rest, restMember, rfl⟩ := member
      obtain ⟨consumed, split, all⟩ := (mem_greedyRests_iff accepts input rest).mp restMember
      exact ⟨consumed, split, .manyLazy all⟩
  | group body bodyInduction =>
      simp only [candidates_group, List.mem_map] at member
      obtain ⟨inner, innerMember, rfl⟩ := member
      obtain ⟨consumed, split, accepted⟩ := bodyInduction innerMember
      exact ⟨consumed, split, .group accepted⟩

theorem exists_candidate {pattern : Regex} {text : Text} (accepted : pattern.Accepts text)
    (rest : Text) : ∃ found ∈ pattern.candidates (text ++ rest), found.rest = rest := by
  induction accepted generalizing rest with
  | char accepted => exact ⟨⟨[], rest⟩, by simp [candidates_char_cons, accepted], rfl⟩
  | literal text => exact ⟨⟨[], rest⟩, by simp, rfl⟩
  | @seq first second left right _ _ firstInduction secondInduction =>
      obtain ⟨leftFound, leftMember, leftRest⟩ := firstInduction (right ++ rest)
      obtain ⟨rightFound, rightMember, rightRest⟩ := secondInduction rest
      refine ⟨⟨leftFound.groups ++ rightFound.groups, rightFound.rest⟩, ?_, rightRest⟩
      rw [List.append_assoc]
      simp only [candidates_seq, List.mem_flatMap, List.mem_map]
      exact ⟨leftFound, leftMember, rightFound, leftRest ▸ rightMember, rfl⟩
  | altLeft _ induction =>
      obtain ⟨found, member, same⟩ := induction rest
      exact ⟨found, List.mem_append_left _ member, same⟩
  | altRight _ induction =>
      obtain ⟨found, member, same⟩ := induction rest
      exact ⟨found, List.mem_append_right _ member, same⟩
  | @many accepts text all =>
      refine ⟨⟨[], rest⟩, List.mem_map.mpr ⟨rest, ?_, rfl⟩, rfl⟩
      exact (mem_greedyRests_iff accepts _ rest).mpr ⟨text, rfl, all⟩
  | @manyLazy accepts text all =>
      refine ⟨⟨[], rest⟩, List.mem_map.mpr ⟨rest, ?_, rfl⟩, rfl⟩
      rw [mem_lazyRests_iff]
      exact (mem_greedyRests_iff accepts _ rest).mpr ⟨text, rfl, all⟩
  | group _ induction =>
      obtain ⟨found, member, same⟩ := induction rest
      exact ⟨_, List.mem_map.mpr ⟨found, member, rfl⟩, same⟩

theorem search_cons_of_missed {pattern : Regex} {head : Char} {tail : Text}
    (missed : pattern.candidates (head :: tail) = []) :
    pattern.search (head :: tail) = pattern.search tail := by
  simp [search, first, missed]

theorem search_eq_none_of_cons {pattern : Regex} {head : Char} {tail : Text}
    (failed : pattern.search (head :: tail) = none) : pattern.search tail = none := by
  rw [search] at failed
  cases missed : pattern.first (head :: tail) with
  | none =>
      rw [missed] at failed
      exact failed
  | some found =>
      rw [missed] at failed
      exact absurd failed (Option.some_ne_none found)

/-- A failed search rules out every accepted text inside the input. -/
theorem not_accepts_of_search_eq_none {pattern : Regex} {input : Text}
    (failed : pattern.search input = none) {part : Text} (inside : part <:+: input) :
    ¬ pattern.Accepts part := by
  intro accepted
  obtain ⟨before, after, rfl⟩ := inside
  induction before with
  | nil =>
      obtain ⟨found, member, -⟩ := exists_candidate accepted after
      cases missed : pattern.first (part ++ after) with
      | none => simp [List.head?_eq_none_iff.mp missed] at member
      | some other =>
          rw [List.nil_append, search_of_first pattern _ other missed] at failed
          exact Option.some_ne_none _ failed
  | cons head tail induction =>
      rw [List.cons_append, List.cons_append] at failed
      exact induction (search_eq_none_of_cons failed)

theorem exists_accepts_of_search {pattern : Regex} {input : Text} {found : Match}
    (searched : pattern.search input = some found) :
    ∃ part, part <:+: input ∧ pattern.Accepts part := by
  have here {text : Text} (first : pattern.first text = some found) :
      ∃ part, part <:+: text ∧ pattern.Accepts part := by
    obtain ⟨part, split, accepted⟩ :=
      accepts_of_mem_candidates (List.mem_of_mem_head? (Option.mem_def.mpr first))
    exact ⟨part, ⟨[], found.rest, split.symm⟩, accepted⟩
  induction input with
  | nil => exact here searched
  | cons head tail induction =>
      cases first : pattern.first (head :: tail) with
      | none =>
          rw [search, first] at searched
          obtain ⟨part, inside, accepted⟩ := induction searched
          exact ⟨part, inside.trans (List.suffix_cons head tail).isInfix, accepted⟩
      | some other =>
          rw [search, first] at searched
          exact here (first.trans searched)

theorem exists_mem_candidates_of_search {pattern : Regex} {input : Text} {found : Match}
    (searched : pattern.search input = some found) :
    ∃ text, found ∈ pattern.candidates text := by
  have here {text : Text} (first : pattern.first text = some found) :
      found ∈ pattern.candidates text :=
    List.mem_of_mem_head? (Option.mem_def.mpr first)
  induction input with
  | nil => exact ⟨[], here searched⟩
  | cons head tail induction =>
      rw [search] at searched
      cases first : pattern.first (head :: tail) with
      | none => exact induction (by rwa [first] at searched)
      | some other => exact ⟨head :: tail, here (first.trans (by rwa [first] at searched))⟩

/-- What the first group of a pattern captures matches the body of the group. -/
theorem exists_captured_of_search {body rest : Regex} {input : Text} {found : Match}
    (searched : (seq (group body) rest).search input = some found) :
    ∃ captured, found.groups.head? = some captured ∧ body.Accepts captured := by
  obtain ⟨text, member⟩ := exists_mem_candidates_of_search searched
  rw [candidates_seq, List.mem_flatMap] at member
  obtain ⟨left, inGroup, member⟩ := member
  obtain ⟨right, _, rfl⟩ := List.mem_map.mp member
  rw [candidates_group] at inGroup
  obtain ⟨inner, inBody, rfl⟩ := List.mem_map.mp inGroup
  obtain ⟨consumed, split, accepted⟩ := accepts_of_mem_candidates inBody
  refine ⟨consumed, ?_, accepted⟩
  simp [split]

private theorem lazyRests_eq_cons (accepts : Char → Bool) (input : Text) :
    ∃ others, lazyRests accepts input = input :: others := by
  cases input with
  | nil => exact ⟨[], rfl⟩
  | cons head tail => exact ⟨_, rfl⟩

/-- A lazy repetition stops at the first place where its continuation matches. -/
theorem first_manyLazy_seq {accepts : Char → Bool} {second : Regex} {skipped rest : Text}
    {found : Match} (accepted : ∀ c ∈ skipped, accepts c = true)
    (missed : ∀ after, after ≠ [] → after <:+ skipped →
      second.candidates (after ++ rest) = [])
    (matched : second.first rest = some found) :
    (seq (manyLazy accepts) second).first (skipped ++ rest) = some found := by
  induction skipped with
  | nil =>
      obtain ⟨others, lazyFirst⟩ := lazyRests_eq_cons accepts rest
      have stopped : (manyLazy accepts).first rest = some ⟨[], rest⟩ := by
        simp [first_eq_head?, candidates_manyLazy, lazyFirst]
      exact first_seq stopped matched
  | cons head tail induction =>
      have acceptedHead : accepts head = true := accepted head List.mem_cons_self
      have here := missed (head :: tail) (by simp) List.suffix_rfl
      rw [List.cons_append] at here
      have later := induction (fun c member => accepted c (List.mem_cons_of_mem _ member))
        fun after nonempty isSuffix =>
          missed after nonempty (isSuffix.trans (List.suffix_cons head tail))
      simpa [first_eq_head?, candidates_seq, candidates_manyLazy, lazyRests, acceptedHead,
        here] using later

end Telescope.Regex
