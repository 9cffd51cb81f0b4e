import Telescope.Terraform.OperationMetadata

namespace Telescope.Terraform

open Telescope

/-! The line formats of a Terraform log, and what the patterns of the scanner
find in each of them. -/

/-- A module-qualified resource address without a colon. -/
structure Address where
  path : Text
  nonempty : path ≠ []
  colonFree : ':' ∉ path

def Address.text (address : Address) : Text := lit "module." ++ address.path

def Address.sample : Address := ⟨lit "a.x", by decide, by decide⟩

inductive Action where
  | create
  | destroy
  deriving DecidableEq

def Action.startVerb : Action → Text
  | .create => lit "Creating"
  | .destroy => lit "Destroying"

def Action.completionNoun : Action → Text
  | .create => lit "Creation"
  | .destroy => lit "Destruction"

inductive Duration where
  | hoursMinutesSeconds (hours minutes seconds : Digits)
  | hoursSeconds (hours seconds : Digits)
  | minutesSeconds (minutes seconds : Digits)
  | seconds (seconds : Digits)

def Duration.text : Duration → Text
  | .hoursMinutesSeconds h m s => h.chars ++ 'h' :: (m.chars ++ 'm' :: (s.chars ++ ['s']))
  | .hoursSeconds h s => h.chars ++ 'h' :: (s.chars ++ ['s'])
  | .minutesSeconds m s => m.chars ++ 'm' :: (s.chars ++ ['s'])
  | .seconds s => s.chars ++ ['s']

/-- `ADDR: Creating...` and `ADDR: Destroying...`, with any text after the verb. -/
def startText (address : Address) (action : Action) (tail : Text) : Text :=
  address.text ++ (lit ": " ++ (action.startVerb ++ tail))

/-- `ADDR: Creation complete after T`, with any text after the duration. -/
def completionText (address : Address) (action : Action) (duration : Duration)
    (tail : Text) : Text :=
  address.text ++ (lit ": " ++ (action.completionNoun ++
    (lit " complete after " ++ (duration.text ++ tail))))

/-- A log line is a start line, a completion line that does not also announce a
start, or a line that is neither (progress, errors, anything else). -/
inductive LogLine where
  | start (address : Address) (action : Action) (tail : Text)
  | completion (address : Address) (action : Action) (duration : Duration)
      (tail : Text)
      (notStart :
        startPattern.search (completionText address action duration tail) = none)
  | other (text : Text) (notStart : startPattern.search text = none)
      (notCompletion : completePattern.search text = none)

def LogLine.render : LogLine → Text
  | .start address action tail => startText address action tail
  | .completion address action duration tail _ =>
      completionText address action duration tail
  | .other text _ _ => text

private theorem Address.text_ne_nil (address : Address) : address.text ≠ [] :=
  List.append_ne_nil_of_left_ne_nil (by decide) address.path

theorem first_modulePathPattern (address : Address) {rest : Text}
    (stopped : rest.head? = some ':') :
    modulePathPattern.first (address.text ++ rest) =
      some ⟨[address.text], rest⟩ := by
  have pathFirst : (Regex.many1 (· != ':')).first (address.path ++ rest) =
      some ⟨[], rest⟩ := by
    apply Regex.first_many1 _ _ _ address.nonempty
    · intro c member
      have different : c ≠ ':' := fun same => address.colonFree (same ▸ member)
      simpa using different
    · intro c member
      rw [stopped, Option.mem_some] at member
      simp [← member]
  have bodyFirst :
      (Regex.seq (.literal (lit "module.")) (.many1 (· != ':'))).first
        (address.text ++ rest) = some ⟨[], rest⟩ := by
    rw [Address.text, List.append_assoc]
    exact Regex.first_seq (Regex.first_literal_append _ _) pathFirst
  exact Regex.first_group ⟨[], rest⟩ bodyFirst

private theorem first_startVerb (action : Action) (tail : Text) :
    (Regex.alt (.literal (lit "Creating")) (.literal (lit "Destroying"))).first
      (action.startVerb ++ tail) = some ⟨[], tail⟩ := by
  cases action with
  | create => exact Regex.first_alt_left (Regex.first_literal_append _ _)
  | destroy => exact Regex.first_alt_literal_right 'C' 'D' (by decide) _ _ tail

private theorem first_completionNoun (action : Action) (tail : Text) :
    (Regex.alt (.literal (lit "Creation")) (.literal (lit "Destruction"))).first
      (action.completionNoun ++ tail) = some ⟨[], tail⟩ := by
  cases action with
  | create => exact Regex.first_alt_left (Regex.first_literal_append _ _)
  | destroy => exact Regex.first_alt_literal_right 'C' 'D' (by decide) _ _ tail

theorem search_startPattern (address : Address) (action : Action) (tail : Text) :
    startPattern.search (startText address action tail) =
      some ⟨[address.text], tail⟩ := by
  apply Regex.search_of_first
  exact Regex.first_seq (first_modulePathPattern address rfl)
    (Regex.first_seq (Regex.first_literal_append (lit ": ") _)
      (first_startVerb action tail))

/-- A number and its unit letter match exactly when the letter is the wanted one. -/
theorem candidates_unitPattern (wanted unit : Char) (body : Regex)
    (digits : Digits) (rest : Text)
    (wantedLetter : isDecimal wanted = false) (unitLetter : isDecimal unit = false) :
    (unitPattern wanted body).candidates (digits.chars ++ unit :: rest) =
      if wanted = unit then body.candidates rest else [] := by
  rw [unitPattern, Regex.candidates_many1_seq isDecimal _ digits.chars (unit :: rest)
    digits.nonempty digits.decimal (by simpa using unitLetter) ?_]
  · by_cases same : wanted = unit
    · subst same
      rw [if_pos rfl]
      exact Regex.candidates_literal_seq [wanted] rest body
    · rw [if_neg same]
      exact Regex.candidates_seq_of_nil
        (Regex.candidates_literal_cons_ne wanted unit same [] rest)
  · intro c tail decimal
    apply Regex.candidates_seq_of_nil
    apply Regex.candidates_literal_cons_ne
    intro same
    rw [same, decimal] at wantedLetter
    exact Bool.noConfusion wantedLetter

theorem first_durationPattern (duration : Duration) (tail : Text) :
    durationPattern.first (duration.text ++ tail) =
      some ⟨[duration.text], tail⟩ := by
  have hLetter : isDecimal 'h' = false := by decide
  have mLetter : isDecimal 'm' = false := by decide
  have sLetter : isDecimal 's' = false := by decide
  refine Regex.first_group ⟨[], tail⟩ ?_
  cases duration <;>
    simp [Duration.text, Regex.first, Regex.candidates, candidates_unitPattern,
      hLetter, mLetter, sLetter, List.isPrefixOf]

theorem search_completePattern (address : Address) (action : Action)
    (duration : Duration) (tail : Text) :
    completePattern.search (completionText address action duration tail) =
      some ⟨[address.text, duration.text], tail⟩ := by
  apply Regex.search_of_first
  exact Regex.first_seq (first_modulePathPattern address rfl)
    (Regex.first_seq (Regex.first_literal_append (lit ": ") _)
      (Regex.first_seq (first_completionNoun action _)
        (Regex.first_seq (Regex.first_literal_append (lit " complete after ") _)
          (first_durationPattern duration tail))))

/-! One iteration of the scanner on a start line and on a completion line.  Every
line is first checked for a deadline. -/

def mentionsDeadline (text : Text) : Bool :=
  containsText (lit "context deadline exceeded") text

namespace ScanState

def mark (state : ScanState) (deadline : Bool) : ScanState :=
  { state with currentTimedOut := state.currentTimedOut || deadline }

theorem mark_false (state : ScanState) : state.mark false = state := by
  simp [mark]

theorem mark_eq_ite (state : ScanState) (line : Text) :
    (if containsText (lit "context deadline exceeded") line then
        { state with currentTimedOut := true }
      else state) = state.mark (mentionsDeadline line) := by
  cases deadline : mentionsDeadline line with
  | true => simp [mark, show containsText _ line = true from deadline]
  | false =>
      rw [mark_false, if_neg]
      exact ne_true_of_eq_false deadline

theorem flush_of_path (context : LogContext) {state : ScanState} {address : Address}
    (path : state.currentFullPath = some address.text) :
    state.flush context =
      if state.currentCompleted then state
      else state.append context address.text
        (orDefault state.currentElapsedTimeStr (lit "0s")) false state.currentTimedOut := by
  unfold flush
  rw [path]
  cases text : address.text with
  | nil => exact absurd text address.text_ne_nil
  | cons head tail => rfl

theorem processLine_startText (context : LogContext) (state : ScanState)
    (address : Address) (action : Action) (tail : Text) :
    state.processLine context (startText address action tail) =
      { (state.mark (mentionsDeadline (startText address action tail))).flush context with
        currentFullPath := some address.text
        currentElapsedTimeStr := none
        currentCompleted := false
        currentTimedOut := false } := by
  unfold processLine
  rw [mark_eq_ite]
  simp only [search_startPattern]
  rfl

theorem processLine_completionText (context : LogContext) (state : ScanState)
    (address : Address) (action : Action) (duration : Duration) (tail : Text)
    (notStart :
      startPattern.search (completionText address action duration tail) = none) :
    state.processLine context (completionText address action duration tail) =
      { state.mark (mentionsDeadline (completionText address action duration tail)) with
        currentCompleted := true
        results := state.results ++ [buildResult context state.results.length address.text
          duration.text true false] } := by
  unfold processLine
  rw [mark_eq_ite]
  simp only [notStart, search_completePattern]
  rfl

end ScanState

end Telescope.Terraform
