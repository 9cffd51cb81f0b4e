import Telescope.Terraform.LogLines
import Telescope.Text.Language

namespace Telescope.Terraform

open Telescope

/-! Resource addresses as Terraform writes them, and what the line patterns and
`parseModulePath` read off them. -/

/-- The characters that structure an address. -/
def addressPunctuation : List Char := ['.', ':', '[', ']', '"']

@[ext] structure Identifier where
  chars : Text
  nonempty : chars ≠ []
  plain : ∀ c ∈ chars, c ∉ addressPunctuation

/-- No quote without a backslash before it, and no backslash at the end. -/
def wellQuoted : Text → Bool
  | [] => true
  | ['\\'] => false
  | '\\' :: _ :: rest => wellQuoted rest
  | c :: rest => c != '"' && wellQuoted rest

@[ext] structure QuotedText where
  body : Text
  quoted : wellQuoted body = true

inductive IndexKey where
  | number (index : Nat)
  | string (value : QuotedText)

def IndexKey.text : IndexKey → Text
  | .number index => '[' :: (natText index ++ [']'])
  | .string value => '[' :: '"' :: (value.body ++ ['"', ']'])

/-- A module call or a resource name. -/
@[ext] structure Component where
  name : Identifier
  key : Option IndexKey

def Component.keyText (component : Component) : Text :=
  match component.key with
  | none => []
  | some key => key.text

def Component.text (component : Component) : Text :=
  component.name.chars ++ component.keyText

@[ext] structure ResourceAddress where
  outer : Component
  inner : List Component
  resourceType : Identifier
  resource : Component

namespace ResourceAddress

def calls (address : ResourceAddress) : List Component := address.outer :: address.inner

def text (address : ResourceAddress) : Text :=
  (address.calls.flatMap fun call => lit "module." ++ (call.text ++ ['.'])) ++
    (address.resourceType.chars ++ '.' :: address.resource.text)

def startLine (address : ResourceAddress) (action : Action) (tail : Text) : Text :=
  address.text ++ (lit ": " ++ (action.startVerb ++ tail))

def completionLine (address : ResourceAddress) (action : Action) (duration : Duration)
    (tail : Text) : Text :=
  address.text ++ (lit ": " ++ (action.completionNoun ++
    (lit " complete after " ++ (duration.text ++ tail))))

/-- The parts that lie between the first call and the resource name. -/
def middle (address : ResourceAddress) : List Text :=
  address.inner.map Component.text ++ [address.resourceType.chars]

def decomposition (address : ResourceAddress) : ModulePath :=
  ⟨address.outer.text, joinText ['.'] address.middle, address.resource.text⟩

/-- Both line patterns capture the address, and its decomposition is read off it. -/
structure Decomposes (address : ResourceAddress) : Prop where
  start : ∀ action tail,
    (startPattern.search (address.startLine action tail)).map (·.groups.head?) =
      some (some address.text)
  completion : ∀ action duration tail,
    (completePattern.search (address.completionLine action duration tail)).map
      (·.groups.head?) = some (some address.text)
  parsed : parseModulePath address.text = address.decomposition

/-- What the deletion of `module.`, the cut at every dot and the stop at the first colon
leave in place. -/
structure Unambiguous (address : ResourceAddress) : Prop where
  colonFree : ∀ component ∈ address.resource :: address.calls, ':' ∉ component.keyText
  outerKey : '.' ∉ address.outer.keyText
  resourceKey : '.' ∉ address.resource.keyText
  keywordFree : ∀ part ∈ address.outer.text :: address.middle,
    ¬ lit "module." <:+: part ++ ['.']

end ResourceAddress

theorem Identifier.not_mem (identifier : Identifier) {c : Char}
    (punctuation : c ∈ addressPunctuation) : c ∉ identifier.chars :=
  fun member => identifier.plain c member punctuation

theorem Component.mem_text_iff (component : Component) {c : Char}
    (punctuation : c ∈ addressPunctuation) :
    c ∈ component.text ↔ c ∈ component.keyText := by
  rw [text, List.mem_append]
  exact or_iff_right (component.name.not_mem punctuation)

/-! Deleting the keyword works on each dotted part by itself. -/

theorem moduleKeyword_eq : lit "module." = 'm' :: (['o', 'd', 'u', 'l', 'e'] ++ ['.']) := by
  rw [lit_ofList]
  rfl

theorem deletion_append_dot (before rest : Text) :
    replaceText (lit "module.") [] (before ++ '.' :: rest) =
      replaceText (lit "module.") [] (before ++ ['.']) ++
        replaceText (lit "module.") [] rest := by
  rw [moduleKeyword_eq]
  exact replaceText_append_cons 'm' (by decide) [] before rest

private theorem deletion_keyword (rest : Text) :
    replaceText (lit "module.") [] (lit "module." ++ rest) =
      replaceText (lit "module.") [] rest := by
  rw [moduleKeyword_eq]
  exact replaceText_append_self 'm' _ [] rest

private theorem deletion_calls (calls : List Component) (rest : Text) :
    replaceText (lit "module.") []
        ((calls.flatMap fun call => lit "module." ++ (call.text ++ ['.'])) ++ rest) =
      (calls.flatMap fun call => replaceText (lit "module.") [] (call.text ++ ['.'])) ++
        replaceText (lit "module.") [] rest := by
  induction calls with
  | nil => rfl
  | cons call calls induction =>
      rw [List.flatMap_cons, List.flatMap_cons, List.append_assoc, List.append_assoc,
        deletion_keyword, List.append_assoc, List.singleton_append, deletion_append_dot,
        induction, List.append_assoc]

namespace ResourceAddress

/-- The parts of the address without its keywords, each with the dot that follows it. -/
def dottedParts (address : ResourceAddress) : List Text :=
  (address.outer.text :: address.middle).map (· ++ ['.']) ++ [address.resource.text]

private theorem deletion_text (address : ResourceAddress) :
    replaceText (lit "module.") [] address.text =
      address.dottedParts.flatMap (replaceText (lit "module.") []) := by
  rw [text, deletion_calls, deletion_append_dot]
  simp [dottedParts, middle, calls, List.flatMap_map]

theorem flatten_dottedParts (address : ResourceAddress) :
    address.dottedParts.flatten =
      address.outer.text ++ '.' :: (joinText ['.'] address.middle ++
        '.' :: address.resource.text) := by
  have joined (parts : List Text) (last : Text) :
      ((parts ++ [last]).map (· ++ ['.'])).flatten =
        joinText ['.'] (parts ++ [last]) ++ ['.'] := by
    induction parts with
    | nil => simp [joinText]
    | cons part parts induction =>
        rw [List.cons_append, List.map_cons, List.flatten_cons, induction, joinText,
          joinText, List.intercalate_cons_of_ne_nil (by simp), List.append_assoc,
          List.append_assoc, List.append_assoc]
  rw [dottedParts, List.flatten_append, List.map_cons, List.flatten_cons, middle, joined]
  simp

private theorem joinText_middle_ne_nil (address : ResourceAddress) :
    joinText ['.'] address.middle ≠ [] := by
  unfold middle
  cases address.inner with
  | nil =>
      rw [List.map_nil, List.nil_append, joinText, List.intercalate_singleton]
      exact address.resourceType.nonempty
  | cons call calls =>
      rw [List.map_cons, List.cons_append, joinText, List.intercalate_cons_of_ne_nil (by simp)]
      simp

end ResourceAddress

/-! Cutting a path at its first and last dots. -/

private theorem parseModulePath_of_path {fullPath outer middle resource : Text}
    (path : replaceText (lit "module.") [] fullPath =
      outer ++ '.' :: (middle ++ '.' :: resource))
    (outerPlain : '.' ∉ outer) (resourcePlain : '.' ∉ resource) :
    parseModulePath fullPath = ⟨outer, middle, resource⟩ := by
  have parts : (replaceText (lit "module.") [] fullPath).splitOn '.' =
      outer :: (middle.splitOn '.' ++ [resource]) := by
    rw [path, List.splitOn_append_cons_self_of_not_mem outerPlain,
      List.splitOn_append_cons_self, List.splitOn_eq_singleton resourcePlain]
  have several : (outer :: (middle.splitOn '.' ++ [resource])).length > 2 := by
    have positive := List.length_pos_iff.mpr (List.splitOn_ne_nil '.' middle)
    rw [List.length_cons, List.length_append, List.length_singleton]
    omega
  have joined : joinText ['.'] (middle.splitOn '.') = middle :=
    List.intercalate_splitOn '.'
  simp only [parseModulePath, parts, if_pos several, if_pos (Nat.lt_of_succ_lt several),
    List.drop_one, List.tail_cons, List.dropLast_concat, joined]
  simp [List.getLast?_cons]

private theorem exists_outer_parts {parts : List Text} (several : parts.length > 2) :
    ∃ first between last, between ≠ [] ∧ parts = first :: (between ++ [last]) := by
  cases parts with
  | nil => exact absurd several (by decide)
  | cons first others =>
      rcases List.eq_nil_or_concat' others with rfl | ⟨between, last, rfl⟩
      · exact absurd several (by simp)
      · refine ⟨first, between, last, ?_, rfl⟩
        intro none
        rw [none] at several
        exact absurd several (by simp)

private theorem path_of_parseModulePath {fullPath outer middle resource : Text}
    (nonempty : middle ≠ [])
    (parsed : parseModulePath fullPath = ⟨outer, middle, resource⟩) :
    replaceText (lit "module.") [] fullPath = outer ++ '.' :: (middle ++ '.' :: resource) ∧
      '.' ∉ outer ∧ '.' ∉ resource := by
  have joined : joinText ['.'] ((replaceText (lit "module.") [] fullPath).splitOn '.') =
      replaceText (lit "module.") [] fullPath := List.intercalate_splitOn '.'
  have plain (part : Text)
      (member : part ∈ (replaceText (lit "module.") [] fullPath).splitOn '.') : '.' ∉ part :=
    not_mem_of_mem_splitOn member
  simp only [parseModulePath, ModulePath.mk.injEq] at parsed
  generalize replaceText (lit "module.") [] fullPath = path at parsed joined plain ⊢
  generalize path.splitOn '.' = parts at parsed joined plain
  obtain ⟨head, inside, last⟩ := parsed
  have several : parts.length > 2 := by
    cases Decidable.em (parts.length > 2) with
    | inl several => exact several
    | inr few =>
        rw [if_neg few] at inside
        exact absurd inside.symm nonempty
  rw [if_pos several] at inside
  rw [if_pos (Nat.lt_of_succ_lt several)] at last
  obtain ⟨first, between, final, someBetween, rfl⟩ := exists_outer_parts several
  have headIs : first = outer := head
  have insideIs : joinText ['.'] between = middle := by simpa using inside
  have lastIs : final = resource := by simpa [List.getLast?_cons] using last
  subst headIs insideIs lastIs
  refine ⟨?_, plain first List.mem_cons_self, plain final (by simp)⟩
  rw [← joined, joinText, List.intercalate_cons_of_ne_nil (by simp), ← joinText,
    joinText_concat '.' someBetween, List.append_assoc, List.singleton_append]

/-! Reading a component off a text that goes on after it with a dot or not at all. -/

theorem wellQuoted_cons {c : Char} (ordinary : c ≠ '\\') (rest : Text) :
    wellQuoted (c :: rest) = (c != '"' && wellQuoted rest) := by
  apply wellQuoted.eq_4
  · exact fun escape _ => ordinary escape
  · exact fun _ _ escape _ => ordinary escape

private theorem eq_of_append_quote_eq {first second rest others : Text}
    (firstQuoted : wellQuoted first = true) (secondQuoted : wellQuoted second = true)
    (same : first ++ '"' :: rest = second ++ '"' :: others) :
    first = second ∧ rest = others := by
  induction first using wellQuoted.induct generalizing second with
  | case1 =>
      cases second with
      | nil => exact ⟨rfl, (List.cons.inj same).2⟩
      | cons head tail =>
          have here : '"' = head := (List.cons.inj same).1
          subst here
          simp [wellQuoted_cons] at secondQuoted
  | case2 => simp [wellQuoted] at firstQuoted
  | case3 escaped tail induction =>
      cases second with
      | nil => exact absurd (List.cons.inj same).1 (by decide)
      | cons head others' =>
          obtain ⟨here, tails⟩ := List.cons.inj same
          subst here
          cases others' with
          | nil => simp [wellQuoted] at secondQuoted
          | cons next others' =>
              obtain ⟨here, later⟩ := List.cons.inj tails
              subst here
              obtain ⟨equal, rests⟩ := @induction others' firstQuoted secondQuoted later
              exact ⟨congrArg (fun text => '\\' :: escaped :: text) equal, rests⟩
  | case4 head tail notLast notEscape induction =>
      have ordinary : head ≠ '\\' := by
        intro escape
        cases tail with
        | nil => exact notLast escape rfl
        | cons next tail => exact notEscape next tail escape rfl
      rw [wellQuoted_cons ordinary, Bool.and_eq_true] at firstQuoted
      cases second with
      | nil =>
          have here : head = '"' := (List.cons.inj same).1
          simp [here] at firstQuoted
      | cons other others' =>
          obtain ⟨here, tails⟩ := List.cons.inj same
          subst here
          rw [wellQuoted_cons ordinary, Bool.and_eq_true] at secondQuoted
          obtain ⟨equal, rests⟩ := induction firstQuoted.2 secondQuoted.2 tails
          exact ⟨congrArg (head :: ·) equal, rests⟩

theorem not_mem_natText {c : Char} (notDigit : c.isDigit = false) (n : Nat) :
    c ∉ natText n := by
  intro member
  have digit := Nat.isDigit_of_mem_toDigits (by decide) (by decide) member
  rw [notDigit] at digit
  exact Bool.noConfusion digit

/-- No number is written with a quote. -/
theorem natText_append_ne_quote (index : Nat) (rest others : Text) :
    natText index ++ ']' :: rest ≠ '"' :: others := by
  intro same
  cases digits : natText index with
  | nil => exact absurd digits Nat.toDigits_ne_nil
  | cons head tail =>
      have quote : '"' ∉ natText index := not_mem_natText (by decide) index
      rw [digits] at same quote
      have here : head = '"' := (List.cons.inj same).1
      exact quote (here ▸ List.mem_cons_self)

theorem IndexKey.eq_of_text_append_eq {first second : IndexKey} {rest others : Text}
    (same : first.text ++ rest = second.text ++ others) : first = second ∧ rest = others := by
  cases first with
  | number index =>
      cases second with
      | number other =>
          have tails : natText index ++ ']' :: rest = natText other ++ ']' :: others := by
            simpa [text] using same
          have equal := eq_of_append_cons_eq (not_mem_natText (by decide) index)
            (not_mem_natText (by decide) other) tails
          rw [equal] at tails
          rw [natText_injective equal]
          exact ⟨rfl, (List.cons.inj (List.append_cancel_left tails)).2⟩
      | string value =>
          have tails : natText index ++ ']' :: rest =
              '"' :: (value.body ++ ('"' :: ']' :: others)) := by
            simpa [text] using same
          exact absurd tails (natText_append_ne_quote index rest _)
  | string value =>
      cases second with
      | number other =>
          have tails : natText other ++ ']' :: others =
              '"' :: (value.body ++ ('"' :: ']' :: rest)) := by
            simpa [text] using same.symm
          exact absurd tails (natText_append_ne_quote other others _)
      | string other =>
          have tails : value.body ++ '"' :: ']' :: rest = other.body ++ '"' :: ']' :: others := by
            simpa [text] using same
          obtain ⟨equal, rests⟩ := eq_of_append_quote_eq value.quoted other.quoted tails
          rw [QuotedText.ext equal]
          exact ⟨rfl, (List.cons.inj rests).2⟩

theorem Identifier.eq_of_append_eq {first second : Identifier} {rest others : Text}
    (restCut : ∀ c ∈ rest.head?, c ∈ addressPunctuation)
    (othersCut : ∀ c ∈ others.head?, c ∈ addressPunctuation)
    (same : first.chars ++ rest = second.chars ++ others) : first = second ∧ rest = others := by
  have read (identifier : Identifier) {after : Text}
      (cut : ∀ c ∈ after.head?, c ∈ addressPunctuation) :
      (identifier.chars ++ after).takeWhile (· ∉ addressPunctuation) = identifier.chars := by
    rw [List.takeWhile_append_of_pos fun c member => decide_eq_true (identifier.plain c member)]
    cases after with
    | nil => simp
    | cons head tail => simp [cut head (by simp)]
  have equal : first = second := by
    apply Identifier.ext
    rw [← read first restCut, same, read second othersCut]
  rw [equal] at same
  exact ⟨equal, List.append_cancel_left same⟩

theorem IndexKey.exists_text_eq (key : IndexKey) : ∃ tail, key.text = '[' :: tail := by
  cases key with
  | number index => exact ⟨_, rfl⟩
  | string value => exact ⟨_, rfl⟩

namespace Component

theorem keyText_of_none {component : Component} (unkeyed : component.key = none) :
    component.keyText = [] := by
  rw [keyText, unkeyed]

theorem keyText_of_some {component : Component} {key : IndexKey}
    (keyed : component.key = some key) : component.keyText = key.text := by
  rw [keyText, keyed]

theorem keyText_append_cut (component : Component) {rest : Text}
    (cut : ∀ c ∈ rest.head?, c = '.') :
    ∀ c ∈ (component.keyText ++ rest).head?, c ∈ addressPunctuation := by
  intro c member
  cases key : component.key with
  | none =>
      rw [keyText_of_none key] at member
      rw [cut c member]
      decide
  | some value =>
      obtain ⟨tail, text⟩ := value.exists_text_eq
      rw [keyText_of_some key, text] at member
      rw [← Option.mem_some.mp member]
      decide

theorem eq_of_text_append_eq {first second : Component} {rest others : Text}
    (restCut : ∀ c ∈ rest.head?, c = '.') (othersCut : ∀ c ∈ others.head?, c = '.')
    (same : first.text ++ rest = second.text ++ others) : first = second ∧ rest = others := by
  rw [text, text, List.append_assoc, List.append_assoc] at same
  obtain ⟨names, tails⟩ := Identifier.eq_of_append_eq (first.keyText_append_cut restCut)
    (second.keyText_append_cut othersCut) same
  have noBracket {key : IndexKey} {after : Text} (cut : ∀ c ∈ after.head?, c = '.')
      {before : Text} (here : after = key.text ++ before) : False := by
    obtain ⟨tail, bracket⟩ := key.exists_text_eq
    rw [bracket] at here
    exact absurd (cut '[' (by simp [here])) (by decide)
  cases firstKey : first.key with
  | none =>
      rw [keyText_of_none firstKey] at tails
      cases secondKey : second.key with
      | none =>
          rw [keyText_of_none secondKey] at tails
          exact ⟨Component.ext names (firstKey.trans secondKey.symm), tails⟩
      | some key =>
          rw [keyText_of_some secondKey] at tails
          exact (noBracket restCut tails).elim
  | some key =>
      rw [keyText_of_some firstKey] at tails
      cases secondKey : second.key with
      | none =>
          rw [keyText_of_none secondKey] at tails
          exact (noBracket othersCut tails.symm).elim
      | some other =>
          rw [keyText_of_some secondKey] at tails
          obtain ⟨keys, rests⟩ := IndexKey.eq_of_text_append_eq tails
          have sameKeys : first.key = second.key := by rw [firstKey, secondKey, keys]
          exact ⟨Component.ext names sameKeys, rests⟩

theorem text_injective : Function.Injective text := by
  intro first second same
  have whole : first.text ++ [] = second.text ++ [] := by rw [same]
  exact (eq_of_text_append_eq (by simp) (by simp) whole).1

private theorem joinText_map_text_injective {first second : List Component}
    (firstNonempty : first ≠ []) (secondNonempty : second ≠ [])
    (same : joinText ['.'] (first.map text) = joinText ['.'] (second.map text)) :
    first = second := by
  have split (component : Component) (components : List Component) :
      ∃ rest, (∀ c ∈ rest.head?, c = '.') ∧
        joinText ['.'] ((component :: components).map text) = component.text ++ rest ∧
        (components = [] ∧ rest = [] ∨ components ≠ [] ∧
          rest = '.' :: joinText ['.'] (components.map text)) := by
    cases components with
    | nil => exact ⟨[], by simp, by simp [joinText], .inl ⟨rfl, rfl⟩⟩
    | cons other others =>
        refine ⟨'.' :: joinText ['.'] ((other :: others).map text), by simp, ?_,
          .inr ⟨by simp, rfl⟩⟩
        simp [joinText]
  induction first generalizing second with
  | nil => exact absurd rfl firstNonempty
  | cons component components induction =>
      cases second with
      | nil => exact absurd rfl secondNonempty
      | cons other others =>
          obtain ⟨rest, restCut, whole, parts⟩ := split component components
          obtain ⟨otherRest, otherCut, otherWhole, otherParts⟩ := split other others
          rw [whole, otherWhole] at same
          obtain ⟨equal, rests⟩ := eq_of_text_append_eq restCut otherCut same
          rw [equal]
          rcases parts with ⟨rfl, rfl⟩ | ⟨nonempty, rfl⟩
          · rcases otherParts with ⟨rfl, _⟩ | ⟨_, rfl⟩
            · rfl
            · exact absurd rests (by simp)
          · rcases otherParts with ⟨_, rfl⟩ | ⟨otherNonempty, rfl⟩
            · exact absurd rests (by simp)
            · rw [induction nonempty otherNonempty (List.cons.inj rests).2]

end Component

namespace ResourceAddress

/-- An address is determined by the three texts it decomposes into. -/
theorem decomposition_injective : Function.Injective decomposition := by
  intro first second same
  obtain ⟨outer, middle, resource⟩ := ModulePath.mk.inj same
  have asComponents (address : ResourceAddress) : address.middle =
      (address.inner ++ [Component.mk address.resourceType none]).map Component.text := by
    simp [ResourceAddress.middle, Component.text, Component.keyText]
  rw [asComponents, asComponents] at middle
  have parts := Component.joinText_map_text_injective (by simp) (by simp) middle
  obtain ⟨inner, types⟩ := List.append_inj' parts rfl
  apply ResourceAddress.ext
  · exact Component.text_injective outer
  · exact inner
  · exact congrArg Component.name (List.singleton_inj.mp types)
  · exact Component.text_injective resource

end ResourceAddress

/-! The line patterns stop at the first colon. -/

private theorem colonFree_of_captured {rest : Regex} {line captured : Text}
    (searched : ((Regex.seq modulePathPattern rest).search line).map (·.groups.head?) =
      some (some captured)) : ':' ∉ captured := by
  obtain ⟨found, matched, group⟩ := Option.map_eq_some_iff.mp searched
  obtain ⟨inGroup, head, accepted⟩ := Regex.exists_captured_of_search matched
  have equal : captured = inGroup := Option.some.inj (group.symm.trans head)
  rw [equal]
  obtain ⟨keyword, path, rfl, isKeyword, isPath⟩ := Regex.accepts_seq.mp accepted
  rw [Regex.accepts_literal] at isKeyword
  rw [Regex.accepts_many1] at isPath
  intro colon
  rcases List.mem_append.mp colon with inKeyword | inPath
  · rw [isKeyword] at inKeyword
    exact absurd inKeyword (by decide)
  · exact absurd (isPath.2 ':' inPath) (by decide)

namespace ResourceAddress

private theorem colon_mem_text_iff (address : ResourceAddress) :
    ':' ∈ address.text ↔
      ∃ component ∈ address.resource :: address.calls, ':' ∈ component.keyText := by
  have keyword : ':' ∉ lit "module." := by decide
  have typePlain := address.resourceType.not_mem (c := ':') (by decide)
  have inText (component : Component) := component.mem_text_iff (c := ':') (by decide)
  simp only [text, List.mem_append, List.mem_flatMap, List.mem_cons, inText, keyword, typePlain,
    List.not_mem_nil, or_false, false_or, Char.reduceEq, exists_eq_or_imp]
  exact or_comm

private theorem exists_logAddress {address : ResourceAddress} (colonFree : ':' ∉ address.text) :
    ∃ logAddress : Address, logAddress.text = address.text := by
  have starts : ∃ path, path ≠ [] ∧ address.text = lit "module." ++ path := by
    refine ⟨_, ?_, by rw [text, calls, List.flatMap_cons, List.append_assoc,
      List.append_assoc]⟩
    simp
  obtain ⟨path, nonempty, whole⟩ := starts
  rw [whole] at colonFree
  exact ⟨⟨path, nonempty, fun member => colonFree (List.mem_append_right _ member)⟩, whole.symm⟩

private theorem captured_of_colonFree {address : ResourceAddress} (colonFree : ':' ∉ address.text) :
    (∀ action tail,
      (startPattern.search (address.startLine action tail)).map (·.groups.head?) =
        some (some address.text)) ∧
    (∀ action duration tail,
      (completePattern.search (address.completionLine action duration tail)).map
        (·.groups.head?) = some (some address.text)) := by
  obtain ⟨logAddress, same⟩ := exists_logAddress colonFree
  constructor
  · intro action tail
    rw [startLine, ← same]
    exact congrArg _ (search_startPattern logAddress action tail)
  · intro action duration tail
    rw [completionLine, ← same]
    exact congrArg _ (search_completePattern logAddress action duration tail)

/-- The keyword occurs nowhere else exactly if deleting it leaves the dotted parts. -/
theorem deletion_text_eq_iff (address : ResourceAddress) :
    replaceText (lit "module.") [] address.text = address.dottedParts.flatten ↔
      ∀ part ∈ address.dottedParts, ¬ lit "module." <:+: part := by
  rw [deletion_text, moduleKeyword_eq]
  exact flatMap_replaceText_nil_eq_flatten_iff 'm' _ address.dottedParts

theorem keywordFree_dottedParts_iff {address : ResourceAddress}
    (resourcePlain : '.' ∉ address.resource.text) :
    (∀ part ∈ address.dottedParts, ¬ lit "module." <:+: part) ↔
      ∀ part ∈ address.outer.text :: address.middle, ¬ lit "module." <:+: part ++ ['.'] := by
  have resourceFree : ¬ lit "module." <:+: address.resource.text := by
    intro inside
    exact resourcePlain (inside.subset (by decide))
  rw [dottedParts, List.forall_mem_append, List.forall_mem_map, List.forall_mem_singleton]
  exact and_iff_left resourceFree

theorem parsed_iff (address : ResourceAddress) :
    parseModulePath address.text = address.decomposition ↔
      '.' ∉ address.outer.text ∧ '.' ∉ address.resource.text ∧
        ∀ part ∈ address.outer.text :: address.middle, ¬ lit "module." <:+: part ++ ['.'] := by
  constructor
  · intro parsed
    obtain ⟨path, outerPlain, resourcePlain⟩ :=
      path_of_parseModulePath address.joinText_middle_ne_nil parsed
    rw [← flatten_dottedParts, deletion_text_eq_iff,
      keywordFree_dottedParts_iff resourcePlain] at path
    exact ⟨outerPlain, resourcePlain, path⟩
  · intro plain
    obtain ⟨outerPlain, resourcePlain, keywordFree⟩ := plain
    apply parseModulePath_of_path _ outerPlain resourcePlain
    rw [← flatten_dottedParts, deletion_text_eq_iff, keywordFree_dottedParts_iff resourcePlain]
    exact keywordFree

theorem decomposes_iff (address : ResourceAddress) :
    address.Decomposes ↔ address.Unambiguous := by
  have colonFree_iff : ':' ∉ address.text ↔
      ∀ component ∈ address.resource :: address.calls, ':' ∉ component.keyText := by
    rw [colon_mem_text_iff]
    simp only [not_exists, not_and]
  have dot (component : Component) := component.mem_text_iff (c := '.') (by decide)
  constructor
  · intro decomposes
    have colonFree := colonFree_of_captured (decomposes.start .create [])
    obtain ⟨outerPlain, resourcePlain, keywordFree⟩ := address.parsed_iff.mp decomposes.parsed
    rw [dot] at outerPlain resourcePlain
    exact ⟨colonFree_iff.mp colonFree, outerPlain, resourcePlain, keywordFree⟩
  · intro unambiguous
    obtain ⟨start, completion⟩ :=
      captured_of_colonFree (colonFree_iff.mpr unambiguous.colonFree)
    refine ⟨start, completion, address.parsed_iff.mpr ⟨?_, ?_, unambiguous.keywordFree⟩⟩
    · exact fun member => unambiguous.outerKey ((dot _).mp member)
    · exact fun member => unambiguous.resourceKey ((dot _).mp member)

/-- The triple of an address is right, and captured from both lines, exactly if the address
is unambiguous; two unambiguous addresses with one triple are the same. -/
theorem decomposition_faithful_iff (address : ResourceAddress) :
    (address.Decomposes ↔ address.Unambiguous) ∧
      ∀ other : ResourceAddress, address.Unambiguous → other.Unambiguous →
        parseModulePath address.text = parseModulePath other.text → address = other := by
  refine ⟨address.decomposes_iff, ?_⟩
  intro other unambiguous otherUnambiguous same
  rw [(address.decomposes_iff.mpr unambiguous).parsed,
    (other.decomposes_iff.mpr otherUnambiguous).parsed] at same
  exact decomposition_injective same

def identifierOf (chars : Text) (nonempty : chars ≠ [])
    (plain : (chars.all fun c => !addressPunctuation.elem c) = true) : Identifier where
  chars := chars
  nonempty := nonempty
  plain := by
    intro c member
    have outside := List.all_eq_true.mp plain c member
    rw [Bool.not_eq_true', ← Bool.not_eq_true, List.elem_iff] at outside
    exact outside

/-- `module.mymodule.azurerm_kubernetes_cluster.aks` -/
def nameEndsInKeyword : ResourceAddress where
  outer := ⟨identifierOf ['m', 'y', 'm', 'o', 'd', 'u', 'l', 'e'] (by decide) (by decide), none⟩
  inner := []
  resourceType := identifierOf (lit "azurerm_kubernetes_cluster") (by decide) (by decide)
  resource := ⟨identifierOf ['a', 'k', 's'] (by decide) (by decide), none⟩

/-- The end of the module name and the dot after it are deleted with the keyword. -/
theorem nameEndsInKeyword_not_decomposes :
    parseModulePath nameEndsInKeyword.text =
        ⟨lit "myazurerm_kubernetes_cluster", [], ['a', 'k', 's']⟩ ∧
      ¬ nameEndsInKeyword.Decomposes := by
  have parsed : parseModulePath nameEndsInKeyword.text =
      ⟨lit "myazurerm_kubernetes_cluster", [], ['a', 'k', 's']⟩ := by decide
  refine ⟨parsed, ?_⟩
  intro decomposes
  have same := parsed.symm.trans decomposes.parsed
  exact absurd same (by decide)

end ResourceAddress

end Telescope.Terraform
