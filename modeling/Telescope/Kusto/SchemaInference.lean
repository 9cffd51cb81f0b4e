import Telescope.Data.Sequence
import Telescope.Data.Store
import Telescope.Text.Edit
import Telescope.Text.Float
import Telescope.Text.JsonText
import Telescope.Text.Lines

namespace Telescope.Kusto

open Telescope

/-! The Kusto commands that create a table and its mapping from the first result row. -/

/-- What the conversions raise; a `JSONDecodeError` is a `ValueError`. -/
inductive Raised where
  | valueError
  | jsonDecodeError
  | typeError
  | overflowError
deriving DecidableEq

def Raised.isValueError : Raised → Bool
  | .valueError | .jsonDecodeError => true
  | .typeError | .overflowError => false

/-- A value of a row, as `json.loads` returns it. -/
inductive Value where
  | null
  | bool (value : Bool)
  | int (value : Int)
  | float (value : FloatValue)
  | str (text : Text)
  | list (items : List Value)
  | dict (entries : List (Text × Value))

/-- `int(value)`, whose result is dropped. -/
def intOf : Value → Except Raised Unit
  | .null | .list _ | .dict _ => .error .typeError
  | .bool _ | .int _ | .float (.finite _) => .ok ()
  | .float .nan => .error .valueError
  | .float (.infinity _) => .error .overflowError
  | .str text => if (parseInteger? text).isSome then .ok () else .error .valueError

/-- `float(value)` of a value that `int` refuses. -/
def floatOf : Value → Except Raised Unit
  | .null | .list _ | .dict _ => .error .typeError
  | .bool _ | .int _ | .float _ => .ok ()
  | .str text => if (parseFloat? text).isSome then .ok () else .error .valueError

/-- No letter outside ASCII has one of these in lower case. -/
def isBoolText : Value → Bool
  | .str text => text.map Char.toLower ∈ [lit "true", lit "false"]
  | _ => false

def isContainer : Value → Bool
  | .list _ | .dict _ => true
  | _ => false

def loads (text : Text) : Except Raised JsonText.Kind :=
  match JsonText.loads text with
  | .ok kind => .ok kind
  | .error .notJson => .error .jsonDecodeError
  | .error .tooManyDigits => .error .valueError

/-- A `try` statement: what it returns, or what comes behind it. -/
def attempt {α : Type} (caught : Raised → Bool) (tried : Except Raised α)
    (returns : α → Option Text) (next : Except Raised Text) : Except Raised Text :=
  match tried with
  | .ok value => (returns value).elim next .ok
  | .error raised => if caught raised then next else .error raised

section Inference

/-! `isoDate` tells which texts `isoparse` reads, and `display` is `str` of the values other
than texts and `None`. -/

variable (isoDate : Text → Bool) (display : Value → Text)

def strOf : Value → Text
  | .str text => text
  | .null => lit "None"
  | value => display value

def isoparse : Value → Except Raised Unit
  | .str text => if isoDate text then .ok () else .error .valueError
  | _ => .error .typeError

def inferType (value : Value) : Except Raised Text :=
  if isBoolText value then .ok (lit "bool")
  else
    attempt (fun raised => raised.isValueError || raised = .typeError) (intOf value)
      (fun _ => some (lit "real")) <|
    attempt (fun raised => raised.isValueError || raised = .typeError) (floatOf value)
      (fun _ => some (lit "real")) <|
    if isContainer value then .ok (lit "dynamic")
    else
      attempt (fun raised => raised = .jsonDecodeError || raised = .typeError)
        (loads (strOf display value))
        (fun kind => if kind = .container then some (lit "dynamic") else none) <|
      attempt Raised.isValueError (isoparse isoDate value)
        (fun _ => some (lit "datetime")) <|
      .ok (lit "string")

/-- `text.rstrip(", ")` -/
def rstripComma (text : Text) : Text := text.rdropWhile fun c => c = ',' || c = ' '

def columnText (name type : Text) : Text := lit "['" ++ name ++ lit "']:" ++ type

def tableStart (tableName : Text) : Text := lit ".create table ['" ++ tableName ++ lit "'] ("

def mappingStart (tableName : Text) : Text :=
  lit ".create table ['" ++ tableName ++ lit "'] ingestion json mapping '" ++ tableName ++
    lit "_mapping' '["

def mappingEntry (key : Text) : Text :=
  lit "\x7b\"column\":\"" ++ key ++ lit "\", \"Properties\":\x7b\"Path\":\"$[\\'" ++ key ++
    lit "\\']\"\x7d\x7d"

def generateKustoCommands (data : Store Text Value) (tableName : Text) : Except Raised Text := do
  let columns ← data.entries.foldlM (fun command entry => do
    return command ++ columnText entry.1 (← inferType isoDate display entry.2) ++ lit ", ")
    (tableStart tableName)
  let tableCommand := rstripComma columns ++ lit ")"
  let mapping := data.keys.foldl (fun command key => command ++ mappingEntry key ++ lit ",")
    (mappingStart tableName)
  let mappingCommand := rstripComma mapping ++ lit "]'"
  return tableCommand ++ lit "\n\n" ++ mappingCommand

end Inference

/-! The type of a value. -/

/-- An array or an object, or a text that decodes to one. -/
def EncodesContainer : Value → Prop
  | .list _ | .dict _ => True
  | .str text => JsonText.loads text = .ok .container
  | _ => False

/-- The text of a JSON boolean. -/
def spelling (value : Bool) : Text := if value then lit "true" else lit "false"

/-- The values that the inference is right about. -/
def Accepted : Value → Prop
  | .null | .bool _ | .float (.infinity _) => False
  | .str text => isBoolText (.str text) = false → parseInteger? text = none →
      parseFloat? text = none → JsonText.loads text ≠ .error .tooManyDigits
  | _ => True

section Types

variable (isoDate : Text → Bool) (display : Value → Text)

theorem inferType_null : inferType isoDate display .null = .error .typeError := by
  have refused : loads (lit "None") = .error .jsonDecodeError := by decide
  simp [inferType, isBoolText, intOf, floatOf, isContainer, strOf, isoparse, attempt, refused,
    Raised.isValueError]

theorem inferType_bool (value : Bool) :
    inferType isoDate display (.bool value) = .ok (lit "real") := rfl

private theorem inferType_int (value : Int) :
    inferType isoDate display (.int value) = .ok (lit "real") := rfl

private theorem inferType_infinity (negative : Bool) :
    inferType isoDate display (.float (.infinity negative)) = .error .overflowError := rfl

theorem inferType_spelling (value : Bool) :
    inferType isoDate display (.str (spelling value)) = .ok (lit "bool") := by
  cases value with
  | false =>
      have spelled : isBoolText (.str (lit "false")) = true := by decide
      simp [inferType, spelling, spelled]
  | true =>
      have spelled : isBoolText (.str (lit "true")) = true := by decide
      simp [inferType, spelling, spelled]

private theorem isIntSpace_of_isJsonSpace {c : Char} (blank : JsonText.isJsonSpace c = true) :
    isIntSpace c = true := by
  simp only [JsonText.isJsonSpace, Bool.or_eq_true, decide_eq_true_eq] at blank
  rcases blank with ((rfl | rfl) | rfl) | rfl <;> decide

theorem isBoolText_of_mem {text : Text} {c : Char} (member : c ∈ text)
    (other : c.toLower ∉ lit "true" ++ lit "false") : isBoolText (.str text) = false := by
  apply decide_eq_false
  intro listed
  have lowered : c.toLower ∈ text.map Char.toLower := List.mem_map_of_mem member
  rcases List.mem_cons.mp listed with same | same
  · rw [same] at lowered
    exact other (List.mem_append_left _ lowered)
  · rw [List.mem_singleton.mp same] at lowered
    exact other (List.mem_append_right _ lowered)

/-- A text that encodes a container is read neither as a boolean nor as a number. -/
theorem inferType_container {value : Value} (encodes : EncodesContainer value) :
    inferType isoDate display value = .ok (lit "dynamic") := by
  cases value with
  | list items => rfl
  | dict entries => rfl
  | str text =>
      obtain ⟨spaces, c, rest, split, blank, bracket⟩ := JsonText.container_of_loads encodes
      have spaced : ∀ c ∈ spaces, isIntSpace c = true := fun c member =>
        isIntSpace_of_isJsonSpace (blank c member)
      have notNumeral : NotNumeral c := by
        rcases bracket with rfl | rfl
        · exact notNumeral_bracket
        · exact notNumeral_brace
      have notInteger : parseInteger? text = none := split ▸ notNumeral.parseInteger? spaced rest
      have notFloat : parseFloat? text = none := split ▸ notNumeral.parseFloat? spaced rest
      have notBool : isBoolText (.str text) = false := by
        have member : c ∈ text := by simp [split]
        rcases bracket with rfl | rfl
        · exact isBoolText_of_mem member (by decide)
        · exact isBoolText_of_mem member (by decide)
      have loaded : loads text = .ok .container := by rw [loads, encodes]
      simp [inferType, notBool, intOf, notInteger, floatOf, notFloat, isContainer, strOf, loaded,
        attempt, Raised.isValueError]
  | null => exact absurd encodes id
  | bool value => exact absurd encodes id
  | int value => exact absurd encodes id
  | float value => exact absurd encodes id

/-- A text has a type unless its JSON cannot be decoded for the length of an integer. -/
theorem inferType_str_ok_iff (text : Text) :
    (∃ type, inferType isoDate display (.str text) = .ok type) ↔ Accepted (.str text) := by
  unfold inferType Accepted
  cases lowered : isBoolText (.str text) with
  | true => simp [lowered]
  | false =>
      cases integer : parseInteger? text with
      | some value => simp [lowered, intOf, integer, attempt]
      | none =>
          cases float : parseFloat? text with
          | some value =>
              simp [lowered, intOf, integer, floatOf, float, attempt, Raised.isValueError]
          | none =>
              have notInt : intOf (.str text) = .error .valueError := by simp [intOf, integer]
              have notFloat : floatOf (.str text) = .error .valueError := by simp [floatOf, float]
              -- Only the decoder is left, and `isoparse` raises ValueErrors only.
              cases loaded : JsonText.loads text with
              | ok kind =>
                  cases kind <;> cases dated : isoDate text <;>
                    simp [lowered, integer, float, notInt, notFloat, loads, loaded, isContainer,
                      strOf, isoparse, dated, attempt, Raised.isValueError]
              | error failure =>
                  cases failure <;> cases dated : isoDate text <;>
                    simp [lowered, integer, float, notInt, notFloat, loads, loaded, isContainer,
                      strOf, isoparse, dated, attempt, Raised.isValueError]

theorem attempt_ok {α : Type} {caught : Raised → Bool} {tried : Except Raised α}
    {returns : α → Option Text} {next : Except Raised Text} {type : Text}
    (returned : attempt caught tried returns next = .ok type) :
    (∃ value, returns value = some type) ∨ next = .ok type := by
  unfold attempt at returned
  cases tried with
  | error raised =>
      dsimp only at returned
      split at returned
      · exact .inr returned
      · exact nomatch returned
  | ok value =>
      cases found : returns value with
      | none => exact .inr (by simpa [found] using returned)
      | some other => exact .inl ⟨value, by simpa [found] using returned⟩

def columnTypes : List Text :=
  [lit "bool", lit "real", lit "dynamic", lit "datetime", lit "string"]

private theorem inferType_mem {value : Value} {type : Text}
    (inferred : inferType isoDate display value = .ok type) : type ∈ columnTypes := by
  unfold inferType at inferred
  split at inferred
  · cases inferred
    simp [columnTypes]
  · rcases attempt_ok inferred with ⟨_, real⟩ | inferred
    · cases real
      simp [columnTypes]
    rcases attempt_ok inferred with ⟨_, real⟩ | inferred
    · cases real
      simp [columnTypes]
    split at inferred
    · cases inferred
      simp [columnTypes]
    rcases attempt_ok inferred with ⟨kind, dynamic⟩ | inferred
    · split at dynamic
      · cases dynamic
        simp [columnTypes]
      · exact nomatch dynamic
    rcases attempt_ok inferred with ⟨_, dated⟩ | inferred
    · cases dated
      simp [columnTypes]
    · cases inferred
      simp [columnTypes]

/-- Exactly the accepted values and the booleans get a type. -/
theorem inferType_ok_iff (value : Value) :
    (∃ type, inferType isoDate display value = .ok type) ↔
      Accepted value ∨ ∃ b, value = .bool b := by
  cases value with
  | null => simp [inferType_null, Accepted]
  | bool b => simp [inferType_bool, Accepted]
  | int value => simp [inferType_int, Accepted]
  | float value =>
      cases value with
      | nan => exact ⟨fun _ => .inl trivial, fun _ => ⟨lit "real", rfl⟩⟩
      | infinity negative => simp [inferType_infinity, Accepted]
      | finite value => exact ⟨fun _ => .inl trivial, fun _ => ⟨lit "real", rfl⟩⟩
  | str text => simp [inferType_str_ok_iff]
  | list items => exact ⟨fun _ => .inl trivial, fun _ => ⟨lit "dynamic", rfl⟩⟩
  | dict entries => exact ⟨fun _ => .inl trivial, fun _ => ⟨lit "dynamic", rfl⟩⟩

end Types

/-! The texts of the commands. -/

theorem rstripComma_kept {text : Text} {last : Char} (kept : last ≠ ',' ∧ last ≠ ' ') :
    rstripComma (text ++ [last]) = text ++ [last] := by
  apply List.rdropWhile_concat_neg
  simp [kept]

/-- The separator behind the last of several parts is stripped. -/
theorem rstripComma_parts {start separator : Text} {parts : List Text}
    (started : ∃ text last, start = text ++ [last] ∧ last ≠ ',' ∧ last ≠ ' ')
    (commas : ∀ c ∈ separator, (c = ',' || c = ' ') = true)
    (ended : ∀ part ∈ parts, ∃ text last, part = text ++ [last] ∧ last ≠ ',' ∧ last ≠ ' ') :
    rstripComma (start ++ parts.flatMap (· ++ separator)) = start ++ joinText separator parts := by
  cases parts using List.reverseRecOn with
  | nil =>
      obtain ⟨text, last, rfl, kept⟩ := started
      rw [List.flatMap_nil, List.append_nil, rstripComma_kept kept]
      exact (List.append_nil _).symm
  | append_singleton others part =>
      obtain ⟨text, last, rfl, kept⟩ := ended part (by simp)
      rw [List.flatMap_append, List.flatMap_singleton, joinText_append_singleton,
        ← List.append_assoc, ← List.append_assoc, rstripComma, rdropWhile_append_of_all commas,
        ← List.append_assoc]
      refine (rstripComma_kept kept).trans ?_
      simp only [List.append_assoc]

section Commands

variable (isoDate : Text → Bool) (display : Value → Text)

/-- The table with the given columns and types. -/
def tableText (tableName : Text) (columns : List (Text × Text)) : Text :=
  tableStart tableName ++
    joinText (lit ", ") (columns.map fun column => columnText column.1 column.2) ++ lit ")"

def mappingText (tableName : Text) (columns : List Text) : Text :=
  mappingStart tableName ++ joinText (lit ",") (columns.map mappingEntry) ++ lit "]'"

private theorem foldlM_columns (entries : List (Text × Value)) (types : List Text)
    (inferred : List.Forall₂ (fun entry type => inferType isoDate display entry.2 = .ok type)
      entries types) (start : Text) :
    (entries.foldlM (fun command entry => do
      return command ++ columnText entry.1 (← inferType isoDate display entry.2) ++ lit ", ")
      start) =
      .ok (start ++ (((entries.map Prod.fst).zip types).map fun column =>
        columnText column.1 column.2).flatMap (· ++ lit ", ")) := by
  induction inferred generalizing start with
  | nil => simp; rfl
  | @cons entry type entries types here later induction =>
      rw [List.foldlM_cons, here]
      refine (induction (start ++ columnText entry.1 type ++ lit ", ")).trans ?_
      simp

private theorem columnText_ends {name type : Text} (typed : type ∈ columnTypes) :
    ∃ text last, columnText name type = text ++ [last] ∧ last ≠ ',' ∧ last ≠ ' ' := by
  have ends : columnTypes.all (fun type =>
      type.getLast?.any fun last => last ≠ ',' && last ≠ ' ') = true := by decide
  obtain ⟨last, found, kept⟩ := (Option.any_eq_true _ _).mp (List.all_eq_true.mp ends type typed)
  obtain ⟨front, rfl⟩ := List.getLast?_eq_some_iff.mp found
  exact ⟨lit "['" ++ name ++ lit "']:" ++ front, last, by simp [columnText], by simpa using kept⟩

private theorem mappingEntry_ends (key : Text) :
    ∃ text last, mappingEntry key = text ++ [last] ∧ last ≠ ',' ∧ last ≠ ' ' := by
  have closing : lit "\\']\"\x7d\x7d" = lit "\\']\"\x7d" ++ [Char.ofNat 0x7d] := by decide
  refine ⟨lit "\x7b\"column\":\"" ++ key ++ lit "\", \"Properties\":\x7b\"Path\":\"$[\\'" ++ key ++
    lit "\\']\"\x7d", Char.ofNat 0x7d, ?_, by decide, by decide⟩
  rw [mappingEntry, closing, ← List.append_assoc]

private theorem tableStart_ends (tableName : Text) :
    ∃ text last, tableStart tableName = text ++ [last] ∧ last ≠ ',' ∧ last ≠ ' ' := by
  have closing : lit "'] (" = lit "'] " ++ ['('] := by decide
  refine ⟨lit ".create table ['" ++ tableName ++ lit "'] ", '(', ?_, by decide, by decide⟩
  rw [tableStart, closing, ← List.append_assoc]

private theorem mappingStart_ends (tableName : Text) :
    ∃ text last, mappingStart tableName = text ++ [last] ∧ last ≠ ',' ∧ last ≠ ' ' := by
  have opening : lit "_mapping' '[" = lit "_mapping' '" ++ ['['] := by decide
  refine ⟨lit ".create table ['" ++ tableName ++ lit "'] ingestion json mapping '" ++ tableName ++
    lit "_mapping' '", '[', ?_, by decide, by decide⟩
  rw [mappingStart, opening, ← List.append_assoc]

private theorem foldl_mappingEntry (keys : List Text) (start : Text) :
    keys.foldl (fun command key => command ++ mappingEntry key ++ lit ",") start =
      start ++ (keys.map mappingEntry).flatMap (· ++ lit ",") := by
  induction keys generalizing start with
  | nil => exact (List.append_nil _).symm
  | cons key rest induction =>
      rw [List.foldl_cons, induction, List.map_cons, List.flatMap_cons]
      simp only [List.append_assoc]

private theorem generateKustoCommands_eq {data : Store Text Value} {types : List Text}
    (inferred : List.Forall₂ (fun entry type => inferType isoDate display entry.2 = .ok type)
      data.entries types) (tableName : Text) :
    generateKustoCommands isoDate display data tableName =
      .ok (tableText tableName (data.keys.zip types) ++ lit "\n\n" ++
        mappingText tableName data.keys) := by
  let columns := (data.keys.zip types).map fun column => columnText column.1 column.2
  have table : rstripComma (tableStart tableName ++ columns.flatMap (· ++ lit ", ")) =
      tableStart tableName ++ joinText (lit ", ") columns := by
    apply rstripComma_parts (tableStart_ends tableName) (List.all_eq_true.mp (by decide))
    intro part member
    obtain ⟨column, listed, rfl⟩ := List.mem_map.mp member
    apply columnText_ends
    obtain ⟨entry, -, typed⟩ :=
      exists_related_of_mem inferred.flip (List.of_mem_zip listed).2
    exact inferType_mem isoDate display typed
  have mapping : rstripComma (mappingStart tableName ++
      (data.keys.map mappingEntry).flatMap (· ++ lit ",")) =
        mappingStart tableName ++ joinText (lit ",") (data.keys.map mappingEntry) := by
    apply rstripComma_parts (mappingStart_ends tableName) (List.all_eq_true.mp (by decide))
    intro part member
    obtain ⟨key, -, rfl⟩ := List.mem_map.mp member
    exact mappingEntry_ends key
  rw [generateKustoCommands, foldlM_columns isoDate display data.entries types inferred,
    foldl_mappingEntry]
  change Except.ok (rstripComma (tableStart tableName ++ columns.flatMap (· ++ lit ", ")) ++
    lit ")" ++ lit "\n\n" ++ (rstripComma (mappingStart tableName ++
      (data.keys.map mappingEntry).flatMap (· ++ lit ",")) ++ lit "]'")) = _
  rw [table, mapping]
  rfl

/-- The commands list the columns of the row, booleans are typed as their spelling and
containers are dynamic. -/
structure InfersSchema (data : Store Text Value) (tableName : Text) : Prop where
  lists : ∃ types, List.Forall₂
      (fun value type => inferType isoDate display value = .ok type) data.values types ∧
    generateKustoCommands isoDate display data tableName =
      .ok (tableText tableName (data.keys.zip types) ++ lit "\n\n" ++
        mappingText tableName data.keys)
  distinct : data.keys.Nodup
  booleans : ∀ b, .bool b ∈ data.values →
    inferType isoDate display (.bool b) = inferType isoDate display (.str (spelling b))
  containers : ∀ value ∈ data.values, EncodesContainer value →
    inferType isoDate display value = .ok (lit "dynamic")

/-- The inference is right about a row just when it is about each of its values. -/
theorem infers_schema_iff (data : Store Text Value) (tableName : Text) :
    InfersSchema isoDate display data tableName ↔ ∀ value ∈ data.values, Accepted value := by
  constructor
  · intro infers value member
    obtain ⟨types, inferred, -⟩ := infers.lists
    obtain ⟨type, -, typed⟩ := exists_related_of_mem inferred member
    rcases (inferType_ok_iff isoDate display value).mp ⟨type, typed⟩ with accepted | ⟨b, rfl⟩
    · exact accepted
    · have same := infers.booleans b member
      rw [inferType_bool, inferType_spelling] at same
      exact absurd same (by decide)
  · intro accepted
    obtain ⟨types, inferred⟩ : ∃ types, List.Forall₂
        (fun value type => inferType isoDate display value = .ok type) data.values types :=
      exists_forall₂ fun value member =>
        (inferType_ok_iff isoDate display value).mpr (.inl (accepted value member))
    refine ⟨⟨types, inferred, ?_⟩, data.keysNodup, ?_, ?_⟩
    · exact generateKustoCommands_eq isoDate display (List.forall₂_map_left_iff.mp inferred)
        tableName
    · exact fun b member => absurd (accepted (.bool b) member) id
    · exact fun value _ encodes => inferType_container isoDate display encodes

end Commands

/-- A row with a null has no commands, and a boolean is typed otherwise than its text. -/
theorem null_column_raises :
    (∀ isoDate display, generateKustoCommands isoDate display
      (Store.empty.put (lit "gpu_node_pool") .null) (lit "results") = .error .typeError) ∧
    (∀ isoDate display, ¬ InfersSchema isoDate display
      (Store.empty.put (lit "gpu_node_pool") .null) (lit "results")) ∧
    ∀ isoDate display, inferType isoDate display (.bool true) = .ok (lit "real") ∧
      inferType isoDate display (.str (lit "true")) = .ok (lit "bool") := by
  refine ⟨?_, ?_, ?_⟩
  · intro isoDate display
    have entries : (Store.empty.put (lit "gpu_node_pool") Value.null).entries =
        [(lit "gpu_node_pool", .null)] := rfl
    rw [generateKustoCommands, entries, List.foldlM_cons, inferType_null]
    rfl
  · intro isoDate display infers
    obtain ⟨types, inferred, -⟩ := infers.lists
    obtain ⟨type, -, typed⟩ := exists_related_of_mem inferred (List.mem_singleton_self Value.null)
    rw [inferType_null] at typed
    exact nomatch typed
  · intro isoDate display
    exact ⟨inferType_bool isoDate display true, inferType_spelling isoDate display true⟩

end Telescope.Kusto
