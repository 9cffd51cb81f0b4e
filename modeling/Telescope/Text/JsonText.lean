import Telescope.Text.CharClass

namespace Telescope.JsonText

open Telescope

/-! The decoder `json.loads`, as far as it tells containers from other values and texts
that are no JSON from those that are. It reads the text once, with a stack of the arrays
and objects that are open. -/

inductive Failure where
  /-- A `JSONDecodeError`. -/
  | notJson
  /-- Another `ValueError`: an integer with more digits than `int` converts. -/
  | tooManyDigits
deriving DecidableEq

def isJsonSpace (c : Char) : Bool := c = ' ' || c = '\t' || c = '\n' || c = '\r'

def skipSpace (text : Text) : Text := text.dropWhile isJsonSpace

def isHexDigit (c : Char) : Bool :=
  isAsciiDigit c || ('a' ≤ c && c ≤ 'f') || ('A' ≤ c && c ≤ 'F')

/-- What follows the closing quote. -/
def scanString : Text → Option Text
  | [] => none
  | '"' :: rest => some rest
  | '\\' :: 'u' :: a :: b :: c :: d :: rest =>
      if [a, b, c, d].all isHexDigit then scanString rest else none
  | '\\' :: c :: rest =>
      if c ∈ ['"', '\\', '/', 'b', 'f', 'n', 'r', 't'] then scanString rest else none
  | c :: rest => if c.toNat < 0x20 || c = '\\' then none else scanString rest

/-- What follows a fraction, and whether there is one. -/
def scanFraction : Text → Bool × Text
  | '.' :: c :: rest =>
      if isAsciiDigit c then (true, rest.dropWhile isAsciiDigit) else (false, '.' :: c :: rest)
  | text => (false, text)

def scanExponentDigits (text : Text) : Text → Bool × Text
  | c :: rest => if isAsciiDigit c then (true, rest.dropWhile isAsciiDigit) else (false, text)
  | [] => (false, text)

def scanExponent : Text → Bool × Text
  | mark :: sign :: rest =>
      if mark = 'e' || mark = 'E' then
        if sign = '+' || sign = '-' then scanExponentDigits (mark :: sign :: rest) rest
        else scanExponentDigits (mark :: sign :: rest) (sign :: rest)
      else (false, mark :: sign :: rest)
  | text => (false, text)

/-- Behind the digits of the integer part. -/
def finishNumber (digits rest : Text) : Except Failure Text :=
  let (fraction, rest) := scanFraction rest
  let (exponent, rest) := scanExponent rest
  if !fraction && !exponent && intMaxStrDigits < digits.length then .error .tooManyDigits
  else .ok rest

def scanUnsigned : Text → Except Failure Text
  | '0' :: rest => finishNumber ['0'] rest
  | c :: rest =>
      if isAsciiDigit c then
        finishNumber (c :: rest.takeWhile isAsciiDigit) (rest.dropWhile isAsciiDigit)
      else .error .notJson
  | [] => .error .notJson

def scanNumber : Text → Except Failure Text
  | '-' :: rest => scanUnsigned rest
  | text => scanUnsigned text

def words : List Text :=
  [lit "null", lit "true", lit "false", lit "NaN", lit "Infinity", lit "-Infinity"]

/-- A value that is neither text nor container. -/
def scanScalar (text : Text) : Except Failure Text :=
  match words.find? (·.isPrefixOf text) with
  | some word => .ok (text.drop word.length)
  | none => scanNumber text

inductive Container where
  | array
  | object

/-- What is read next. -/
inductive Expected where
  | value
  | itemOrEnd
  | keyOrEnd
  | key
  | separator

structure State where
  expected : Expected
  stack : List Container
  rest : Text

/-- A value begins; containers are opened and read further. -/
def beginValue (stack : List Container) : Text → Except Failure State
  | '"' :: rest =>
      match scanString rest with
      | some rest => .ok ⟨.separator, stack, rest⟩
      | none => .error .notJson
  | '[' :: rest => .ok ⟨.itemOrEnd, .array :: stack, rest⟩
  | '{' :: rest => .ok ⟨.keyOrEnd, .object :: stack, rest⟩
  | text => do return ⟨.separator, stack, ← scanScalar text⟩

def beginMember (stack : List Container) : Text → Except Failure State
  | '"' :: rest =>
      match (scanString rest).map skipSpace with
      | some (':' :: rest) => .ok ⟨.value, stack, rest⟩
      | _ => .error .notJson
  | _ => .error .notJson

/-- One step; `none` at the end of the text. -/
def step (state : State) : Except Failure (Option State) :=
  match state.expected, state.stack, skipSpace state.rest with
  | .value, stack, text => some <$> beginValue stack text
  | .itemOrEnd, stack, ']' :: rest => .ok (some ⟨.separator, stack.tail, rest⟩)
  | .itemOrEnd, stack, text => some <$> beginValue stack text
  | .keyOrEnd, stack, '}' :: rest => .ok (some ⟨.separator, stack.tail, rest⟩)
  | .keyOrEnd, stack, text => some <$> beginMember stack text
  | .key, stack, text => some <$> beginMember stack text
  | .separator, [], [] => .ok none
  | .separator, .array :: stack, ',' :: rest => .ok (some ⟨.value, .array :: stack, rest⟩)
  | .separator, .array :: stack, ']' :: rest => .ok (some ⟨.separator, stack, rest⟩)
  | .separator, .object :: stack, ',' :: rest => .ok (some ⟨.key, .object :: stack, rest⟩)
  | .separator, .object :: stack, '}' :: rest => .ok (some ⟨.separator, stack, rest⟩)
  | .separator, _, _ => .error .notJson

/-- The steps up to the end; `none` only where the fuel does not suffice. -/
def run : Nat → State → Option (Except Failure Unit)
  | 0, _ => none
  | fuel + 1, state =>
      match step state with
      | .error failure => some (.error failure)
      | .ok none => some (.ok ())
      | .ok (some next) => run fuel next

/-- A decoded value is a container or not. -/
inductive Kind where
  | container
  | other
deriving DecidableEq

def kindOf : Text → Kind
  | '[' :: _ => .container
  | '{' :: _ => .container
  | _ => .other

/-- `json.loads(text)`. -/
def loads (text : Text) : Except Failure Kind :=
  if text.head? = some (Char.ofNat 0xfeff) then .error .notJson
  else
    match run (text.length + 1) ⟨.value, [], text⟩ with
    | some (.ok ()) => .ok (kindOf (skipSpace text))
    | some (.error failure) => .error failure
    | none => .error .notJson

/-! Every step reads on, so the fuel suffices. -/

theorem length_skipSpace (text : Text) : (skipSpace text).length ≤ text.length :=
  (List.dropWhile_sublist _).length_le

theorem length_scanString {text rest : Text} (scanned : scanString text = some rest) :
    rest.length < text.length := by
  fun_induction scanString text with
  | case1 => exact nomatch scanned
  | case2 others =>
      cases scanned
      exact Nat.lt_succ_self _
  | case3 a b c d others hex induction =>
      have shorter := induction scanned
      simp only [List.length_cons]
      omega
  | case4 => exact nomatch scanned
  | case5 c others _ _ induction =>
      have shorter := induction scanned
      simp only [List.length_cons]
      omega
  | case6 => exact nomatch scanned
  | case7 => exact nomatch scanned
  | case8 c others _ _ _ _ induction =>
      have shorter := induction scanned
      simp only [List.length_cons]
      omega

theorem length_scanFraction (text : Text) : (scanFraction text).2.length ≤ text.length := by
  unfold scanFraction
  split
  · rename_i c rest
    split
    · have shorter := (List.dropWhile_sublist (l := rest) isAsciiDigit).length_le
      simp only [List.length_cons]
      omega
    · exact le_refl _
  · exact le_refl _

theorem length_scanExponentDigits {text rest : Text} (shorter : rest.length ≤ text.length) :
    (scanExponentDigits text rest).2.length ≤ text.length := by
  unfold scanExponentDigits
  split
  · rename_i c rest
    split
    · have fewer := (List.dropWhile_sublist (l := rest) isAsciiDigit).length_le
      simp only [List.length_cons] at shorter
      exact fewer.trans (by omega)
    · exact le_refl _
  · exact le_refl _

theorem length_scanExponent (text : Text) : (scanExponent text).2.length ≤ text.length := by
  unfold scanExponent
  split
  · split
    · split
      · apply length_scanExponentDigits
        simp only [List.length_cons]
        omega
      · apply length_scanExponentDigits
        simp only [List.length_cons]
        omega
    · exact le_refl _
  · exact le_refl _

theorem length_finishNumber {digits rest after : Text}
    (finished : finishNumber digits rest = .ok after) : after.length ≤ rest.length := by
  have fraction := length_scanFraction rest
  have exponent := length_scanExponent (scanFraction rest).2
  unfold finishNumber at finished
  dsimp only at finished
  split at finished
  · exact nomatch finished
  · cases finished
    exact exponent.trans fraction

theorem length_scanUnsigned {text rest : Text} (scanned : scanUnsigned text = .ok rest) :
    rest.length < text.length := by
  unfold scanUnsigned at scanned
  split at scanned
  · exact Nat.lt_succ_of_le (length_finishNumber scanned)
  · rename_i c others _
    split at scanned
    · have fewer := (List.dropWhile_sublist (l := others) isAsciiDigit).length_le
      exact Nat.lt_succ_of_le ((length_finishNumber scanned).trans fewer)
    · exact nomatch scanned
  · exact nomatch scanned

theorem length_scanScalar {text rest : Text} (scanned : scanScalar text = .ok rest) :
    rest.length < text.length := by
  unfold scanScalar at scanned
  split at scanned
  · rename_i word found
    cases scanned
    have isPrefix : word <+: text := List.isPrefixOf_iff_prefix.mp
      (by simpa using List.find?_some found)
    have nonempty : 0 < word.length := by
      have all : ∀ word ∈ words, 0 < word.length := by decide
      exact all word (List.mem_of_find?_eq_some found)
    have inside := isPrefix.length_le
    rw [List.length_drop]
    omega
  · unfold scanNumber at scanned
    split at scanned
    · exact (length_scanUnsigned scanned).trans (Nat.lt_succ_self _)
    · exact length_scanUnsigned scanned

theorem length_beginValue {stack : List Container} {text : Text} {next : State}
    (begun : beginValue stack text = .ok next) : next.rest.length < text.length := by
  unfold beginValue at begun
  split at begun
  · split at begun
    · rename_i after scanned
      cases begun
      exact (length_scanString scanned).trans (Nat.lt_succ_self _)
    · exact nomatch begun
  · cases begun
    exact Nat.lt_succ_self _
  · cases begun
    exact Nat.lt_succ_self _
  · cases scanned : scanScalar text with
    | error failure =>
        rw [scanned] at begun
        exact nomatch begun
    | ok after =>
        rw [scanned] at begun
        cases begun
        exact length_scanScalar scanned

theorem length_beginMember {stack : List Container} {text : Text} {next : State}
    (begun : beginMember stack text = .ok next) : next.rest.length < text.length := by
  unfold beginMember at begun
  split at begun
  · split at begun
    · rename_i rest after colon
      cases begun
      obtain ⟨behind, scanned, skipped⟩ := Option.map_eq_some_iff.mp colon
      have string := length_scanString scanned
      have space := length_skipSpace behind
      rw [skipped] at space
      simp only [List.length_cons] at space ⊢
      omega
    · exact nomatch begun
  · exact nomatch begun

theorem eq_of_map_some {begun : Except Failure State} {next : State}
    (mapped : some <$> begun = .ok (some next)) : begun = .ok next := by
  cases begun with
  | error failure => exact nomatch mapped
  | ok value =>
      cases mapped
      rfl

theorem length_step {state next : State} (stepped : step state = .ok (some next)) :
    next.rest.length < state.rest.length := by
  refine lt_of_lt_of_le ?_ (length_skipSpace state.rest)
  unfold step at stepped
  split at stepped
  · exact length_beginValue (eq_of_map_some stepped)
  · rename_i closed
    cases stepped
    simp [closed]
  · exact length_beginValue (eq_of_map_some stepped)
  · rename_i closed
    cases stepped
    simp [closed]
  · exact length_beginMember (eq_of_map_some stepped)
  · exact length_beginMember (eq_of_map_some stepped)
  · exact nomatch stepped
  · rename_i more
    cases stepped
    simp [more]
  · rename_i closed
    cases stepped
    simp [closed]
  · rename_i more
    cases stepped
    simp [more]
  · rename_i closed
    cases stepped
    simp [closed]
  · exact nomatch stepped

theorem run_isSome {fuel : Nat} {state : State} (enough : state.rest.length < fuel) :
    (run fuel state).isSome := by
  induction fuel generalizing state with
  | zero => exact absurd enough (Nat.not_lt_zero _)
  | succ fuel induction =>
      rw [run]
      cases stepped : step state with
      | error failure => rfl
      | ok next =>
          cases next with
          | none => rfl
          | some next =>
              exact induction ((length_step stepped).trans_le (Nat.le_of_lt_succ enough))

theorem container_of_loads {text : Text} (loaded : loads text = .ok .container) :
    ∃ spaces c rest, text = spaces ++ c :: rest ∧ (∀ c ∈ spaces, isJsonSpace c = true) ∧
      (c = '[' ∨ c = '{') := by
  have split : text = text.takeWhile isJsonSpace ++ skipSpace text :=
    List.takeWhile_append_dropWhile.symm
  have kind : kindOf (skipSpace text) = .container := by
    unfold loads at loaded
    split at loaded
    · exact nomatch loaded
    · split at loaded
      · exact Except.ok.inj loaded
      · exact nomatch loaded
      · exact nomatch loaded
  have blank : ∀ c ∈ text.takeWhile isJsonSpace, isJsonSpace c = true := by
    intro c member
    exact List.mem_takeWhile_imp member
  unfold kindOf at kind
  split at kind
  · rename_i rest opened
    exact ⟨_, '[', rest, opened ▸ split, blank, .inl rfl⟩
  · rename_i rest opened
    exact ⟨_, '{', rest, opened ▸ split, blank, .inr rfl⟩
  · exact nomatch kind

end Telescope.JsonText
