import Mathlib.Data.List.Perm.Basic
import Mathlib.Data.List.Perm.Lattice
import Mathlib.Logic.Function.Basic
import Telescope.Terraform.LogLines

namespace Telescope.Terraform

open Telescope

/-! Runs of a log.  A start line opens a run of its address; the run is closed
when the first later start or completion line of that address is a completion
line, and is left open otherwise. -/

structure Run where
  address : Text
  closed : Bool
  deriving DecidableEq

def closedBy (address : Text) : List LogLine → Bool
  | [] => false
  | .start other _ _ :: rest =>
      if other.text = address then false else closedBy address rest
  | .completion other _ _ _ _ :: rest =>
      if other.text = address then true else closedBy address rest
  | .other _ _ _ :: rest => closedBy address rest

/-- The completion line that closes a run comes before the next start line, of any
address. -/
def closedAtOnce (address : Text) : List LogLine → Bool
  | [] => false
  | .start _ _ _ :: _ => false
  | .completion other _ _ _ _ :: rest =>
      if other.text = address then true else closedAtOnce address rest
  | .other _ _ _ :: rest => closedAtOnce address rest

/-- Some completion line, of any address, precedes the next start line. -/
def completesFirst : List LogLine → Bool
  | [] => false
  | .start _ _ _ :: _ => false
  | .completion _ _ _ _ _ :: _ => true
  | .other _ _ _ :: rest => completesFirst rest

/-- A start line: its position in the log, which tells its run from all others,
and the lines after it. -/
structure Opening where
  position : Nat
  address : Text
  later : List LogLine

/-- The start lines among lines that begin at a position. -/
def openings (position : Nat) : List LogLine → List Opening
  | [] => []
  | .start address _ _ :: rest =>
      ⟨position, address.text, rest⟩ :: openings (position + 1) rest
  | .completion _ _ _ _ _ :: rest => openings (position + 1) rest
  | .other _ _ _ :: rest => openings (position + 1) rest

namespace Opening

def closed (opening : Opening) : Bool := closedBy opening.address opening.later

def answered (opening : Opening) : Bool := completesFirst opening.later

def run (opening : Opening) : Nat × Run :=
  (opening.position, ⟨opening.address, opening.closed⟩)

end Opening

/-- The runs of a log, each with the position of its start line. -/
def runs (lines : List LogLine) : List (Nat × Run) :=
  (openings 0 lines).map Opening.run

/-- Every completion line belongs to a run: its address is open when it appears.
This is what the line sequences of runs give in whatever order they interleave. -/
def Interleaved (isOpen : Text → Bool) : List LogLine → Prop
  | [] => True
  | .start address _ _ :: rest =>
      Interleaved (fun text => text = address.text || isOpen text) rest
  | .completion address _ _ _ _ :: rest =>
      isOpen address.text = true ∧
        Interleaved (fun text => text ≠ address.text && isOpen text) rest
  | .other _ _ _ :: rest => Interleaved isOpen rest

structure RunLog where
  lines : List LogLine
  interleaved : Interleaved (fun _ => false) lines

/-- No run that is closed is still waiting for its completion line when another
start line appears. -/
def RunLog.Undisturbed (log : RunLog) : Prop :=
  ∀ opening ∈ openings 0 log.lines, opening.closed = true →
    closedAtOnce opening.address opening.later = true

/-! Which run a record is for.  What is appended at a completion line is for the
run that this line closes; what is appended at a start line, or at the end of the
log, is for the scanner's current run, which is the one started last. -/

/-- The run started last and the open run of each address, by the positions of
their start lines. -/
structure Board where
  current : Option Nat
  isOpen : Text → Option Nat

namespace Board

def empty : Board := ⟨none, fun _ => none⟩

def after (board : Board) (position : Nat) : LogLine → Board
  | .start address _ _ =>
      ⟨some position, Function.update board.isOpen address.text (some position)⟩
  | .completion address _ _ _ _ =>
      ⟨board.current, Function.update board.isOpen address.text none⟩
  | .other _ _ _ => board

def owner (board : Board) : LogLine → Option Nat
  | .start _ _ _ => board.current
  | .completion address _ _ _ _ => board.isOpen address.text
  | .other _ _ _ => none

end Board

/-- The records that were appended between two states. -/
def appended (before after : ScanState) : List OperationResult :=
  after.results.drop before.results.length

/-- The records appended from a state on, each with the run it is for. -/
def recordsFrom (context : LogContext) (position : Nat) (board : Board)
    (state : ScanState) : List LogLine → List (Option Nat × OperationResult)
  | [] => (appended state (state.flush context)).map (board.current, ·)
  | line :: rest =>
      let next := state.processLine context line.render
      (appended state next).map (board.owner line, ·) ++
        recordsFrom context (position + 1) (board.after position line) next rest

def attributedRecords (context : LogContext) (lines : List LogLine) :
    List (Option Nat × OperationResult) :=
  recordsFrom context 0 .empty {} lines

/-- The log file that holds the rendered lines. -/
def logFile (lines : List LogLine) : LogFile := { lines := lines.map LogLine.render }

/-! What a record and a run have in common: the decomposed address and the
success flag. -/

abbrev Outcome := ModulePath × Bool

def OperationResult.outcome (result : OperationResult) : Outcome :=
  (⟨result.moduleName, result.submoduleName, result.resourceName⟩, result.success)

def Run.outcome (run : Run) : Outcome := (parseModulePath run.address, run.closed)

/-- There is exactly one record for every run, with the address of the run and
successful if the run is closed, and there are no other records. -/
def RecordPerRun (context : LogContext) (log : RunLog) : Prop :=
  ((attributedRecords context log.lines).map fun record => (record.1, record.2.outcome)).Perm
    ((runs log.lines).map fun run => (some run.1, run.2.outcome))

/-! The scanner appends to its results and keeps what is there. -/

namespace ScanState

theorem results_flush (context : LogContext) (state : ScanState) :
    state.results <+: (state.flush context).results := by
  unfold flush
  split
  · exact List.prefix_rfl
  · exact List.prefix_rfl
  · split
    · exact List.prefix_rfl
    · exact List.prefix_append _ _

theorem results_processLine (context : LogContext) (state : ScanState) (line : Text) :
    state.results <+: (state.processLine context line).results := by
  unfold processLine
  rw [mark_eq_ite]
  dsimp only
  split
  · exact results_flush context (state.mark (mentionsDeadline line))
  · split
    · exact List.prefix_append _ _
    · split
      · exact List.prefix_rfl
      · exact List.prefix_rfl

private theorem results_foldl (context : LogContext) (lines : List Text) (state : ScanState) :
    state.results <+: ((lines.foldl (processLine context) state).flush context).results := by
  induction lines generalizing state with
  | nil => exact results_flush context state
  | cons line rest induction =>
      exact (results_processLine context state line).trans
        (induction (state.processLine context line))

end ScanState

private theorem drop_eq_append_drop {α : Type} {first second third : List α}
    (earlier : first <+: second) (later : second <+: third) :
    third.drop first.length = second.drop first.length ++ third.drop second.length := by
  obtain ⟨added, rfl⟩ := earlier
  obtain ⟨more, rfl⟩ := later
  simp

private theorem recordsFrom_results (context : LogContext) (lines : List LogLine) (position : Nat)
    (board : Board) (state : ScanState) :
    (recordsFrom context position board state lines).map Prod.snd =
      appended state (((lines.map LogLine.render).foldl
        (ScanState.processLine context) state).flush context) := by
  induction lines generalizing position board state with
  | nil => simp [recordsFrom, Function.comp_def]
  | cons line rest induction =>
      have here := ScanState.results_processLine context state line.render
      have there := ScanState.results_foldl context (rest.map LogLine.render)
        (state.processLine context line.render)
      simp only [recordsFrom, List.map_append, List.map_map, Function.comp_def, List.map_id',
        induction, List.map_cons, List.foldl_cons]
      exact (drop_eq_append_drop here there).symm

/-- The records of a log are the results of the scanner. -/
theorem records_results (context : LogContext) (lines : List LogLine) :
    (attributedRecords context lines).map Prod.snd =
      processTerraformLogs context (some (logFile lines)) :=
  recordsFrom_results context lines 0 .empty {}

/-! The records by the run they are for, the address in them and their success flag,
as a function of the run started last and its completed flag. -/

abbrev Entry := Option Nat × Text

def entryOutcome (entry : Entry × Bool) : Option Nat × Outcome :=
  (entry.1.1, parseModulePath entry.1.2, entry.2)

def pending (current : Option (Nat × Address)) (completed : Bool) : List Entry :=
  match current with
  | none => []
  | some (position, address) => if completed then [] else [(some position, address.text)]

def scanned (position : Nat) (isOpen : Text → Option Nat)
    (current : Option (Nat × Address)) (completed : Bool) :
    List LogLine → List (Entry × Bool)
  | [] => (pending current completed).map (·, false)
  | .start address _ _ :: rest =>
      (pending current completed).map (·, false) ++
        scanned (position + 1) (Function.update isOpen address.text (some position))
          (some (position, address)) false rest
  | .completion address _ _ _ _ :: rest =>
      ((isOpen address.text, address.text), true) ::
        scanned (position + 1) (Function.update isOpen address.text none) current true rest
  | .other _ _ _ :: rest => scanned (position + 1) isOpen current completed rest

namespace ScanState

/-- The scanner's view of the current run. -/
structure Tracks (state : ScanState) (current : Option (Nat × Address))
    (completed : Bool) : Prop where
  path : state.currentFullPath = current.map fun run => run.2.text
  flag : state.currentCompleted = completed

theorem Tracks.mark {state : ScanState} {current : Option (Nat × Address)}
    {completed : Bool} (tracks : state.Tracks current completed) (deadline : Bool) :
    (state.mark deadline).Tracks current completed :=
  ⟨tracks.path, tracks.flag⟩

theorem appended_flush (context : LogContext) {before state : ScanState}
    {current : Option (Nat × Address)} {completed : Bool}
    (tracks : state.Tracks current completed) (same : before.results = state.results) :
    (appended before (state.flush context)).map
        (fun record => (current.map Prod.fst, record.outcome)) =
      ((pending current completed).map (·, false)).map entryOutcome := by
  rw [appended, same]
  cases current with
  | none =>
      have path : state.currentFullPath = none := tracks.path
      simp [flush, path, pending]
  | some run =>
      have path : state.currentFullPath = some run.2.text := tracks.path
      rw [flush_of_path context path, tracks.flag]
      cases completed with
      | true => simp [pending]
      | false =>
          simp only [append, Bool.false_eq_true, if_false, List.drop_left, pending]
          rfl

private theorem processLine_other (context : LogContext) {state : ScanState}
    {current : Option (Nat × Address)} {completed : Bool}
    (tracks : state.Tracks current completed) (text : Text)
    (notStart : startPattern.search text = none)
    (notCompletion : completePattern.search text = none) :
    (state.processLine context text).Tracks current completed ∧
      (state.processLine context text).results = state.results := by
  unfold processLine
  rw [mark_eq_ite]
  simp only [notStart, notCompletion]
  cases elapsedPattern.search text with
  | none => exact ⟨tracks.mark _, rfl⟩
  | some found => exact ⟨⟨tracks.path, tracks.flag⟩, rfl⟩

end ScanState

/-- The records are those that `scanned` lists. -/
theorem recordsFrom_eq_scanned (context : LogContext) (lines : List LogLine)
    (position : Nat) (isOpen : Text → Option Nat) (state : ScanState)
    (current : Option (Nat × Address)) (completed : Bool)
    (tracks : state.Tracks current completed) :
    (recordsFrom context position ⟨current.map Prod.fst, isOpen⟩ state lines).map
        (fun record => (record.1, record.2.outcome)) =
      (scanned position isOpen current completed lines).map entryOutcome := by
  induction lines generalizing position isOpen state current completed with
  | nil =>
      rw [recordsFrom, List.map_map]
      exact state.appended_flush context tracks rfl
  | cons line rest induction =>
      rw [recordsFrom, List.map_append, List.map_map]
      cases line with
      | start address action tail =>
          have flushed := ScanState.appended_flush context
            (tracks.mark (mentionsDeadline (startText address action tail)))
            (show state.results = _ from rfl)
          have later := induction (position + 1)
            (Function.update isOpen address.text (some position))
            (state.processLine context (startText address action tail))
            (some (position, address)) false
            (by rw [ScanState.processLine_startText]; exact ⟨rfl, rfl⟩)
          rw [scanned, List.map_append]
          refine congrArg₂ (· ++ ·) ?_ later
          simp only [LogLine.render, ScanState.processLine_startText]
          exact flushed
      | completion address action duration tail notStart =>
          have read := ScanState.processLine_completionText context state address action
            duration tail notStart
          have later := induction (position + 1)
            (Function.update isOpen address.text none)
            (state.processLine context (completionText address action duration tail))
            current true (by rw [read]; exact ⟨tracks.path, rfl⟩)
          rw [scanned, List.map_cons, ← List.singleton_append]
          refine congrArg₂ (· ++ ·) ?_ later
          simp only [LogLine.render, read, appended, List.drop_left]
          rfl
      | other text notStart notCompletion =>
          obtain ⟨next, unchanged⟩ :=
            ScanState.processLine_other context tracks text notStart notCompletion
          have later := induction (position + 1) isOpen
            (state.processLine context text) current completed next
          simp only [LogLine.render, appended, unchanged, List.drop_length, List.map_nil,
            List.nil_append, scanned]
          exact later

/-! Closed runs.  The completion lines of an interleaving are those of the closed
runs. -/

def completions (position : Nat) (isOpen : Text → Option Nat) : List LogLine → List Entry
  | [] => []
  | .start address _ _ :: rest =>
      completions (position + 1) (Function.update isOpen address.text (some position)) rest
  | .completion address _ _ _ _ :: rest =>
      (isOpen address.text, address.text) ::
        completions (position + 1) (Function.update isOpen address.text none) rest
  | .other _ _ _ :: rest => completions (position + 1) isOpen rest

def Opening.entry (opening : Opening) : Entry := (some opening.position, opening.address)

/-- The entries of the start lines of which a condition holds. -/
def entriesOf (condition : Opening → Bool) (position : Nat) (lines : List LogLine) :
    List Entry :=
  ((openings position lines).filter condition).map Opening.entry

private theorem isSome_update_some (isOpen : Text → Option Nat) (address : Text)
    (position : Nat) :
    (fun text => (Function.update isOpen address (some position) text).isSome) =
      fun text => decide (text = address) || (isOpen text).isSome := by
  funext text
  by_cases same : text = address
  · rw [same, Function.update_self]
    simp
  · rw [Function.update_of_ne same]
    simp [same]

private theorem isSome_update_none (isOpen : Text → Option Nat) (address : Text) :
    (fun text => (Function.update isOpen address none text).isSome) =
      fun text => decide (text ≠ address) && (isOpen text).isSome := by
  funext text
  by_cases same : text = address
  · rw [same, Function.update_self]
    simp
  · rw [Function.update_of_ne same]
    simp [same]

/-- A completion line is either of a run that the lines open, or of one that was open
before them. -/
theorem count_completions (lines : List LogLine) (position : Nat)
    (isOpen : Text → Option Nat)
    (interleaved : Interleaved (fun text => (isOpen text).isSome) lines) (entry : Entry) :
    (completions position isOpen lines).count entry =
      (entriesOf Opening.closed position lines).count entry +
        if isOpen entry.2 = entry.1 ∧ entry.1.isSome = true ∧
          closedBy entry.2 lines = true then 1 else 0 := by
  obtain ⟨owner, text⟩ := entry
  induction lines generalizing position isOpen with
  | nil => simp [completions, entriesOf, openings, closedBy]
  | cons line rest induction =>
      cases line with
      | start address action tail =>
          rw [Interleaved, ← isSome_update_some isOpen address.text position] at interleaved
          have restCount := induction (position + 1) _ interleaved
          rw [completions, restCount]
          have split : (entriesOf Opening.closed position
                (.start address action tail :: rest)).count (owner, text) =
              (entriesOf Opening.closed (position + 1) rest).count (owner, text) +
                if closedBy address.text rest = true ∧
                  (some position, address.text) = (owner, text) then 1 else 0 := by
            cases closed : closedBy address.text rest with
            | true =>
                simp [entriesOf, openings, Opening.closed, closed, Opening.entry,
                  List.count_cons]
            | false => simp [entriesOf, openings, Opening.closed, closed]
          rw [split]
          by_cases same : text = address.text
          · subst same
            rw [Function.update_self]
            by_cases owned : owner = some position
            · subst owned
              simp [closedBy]
            · simp [closedBy, Ne.symm owned]
          · rw [Function.update_of_ne same]
            simp [closedBy, Ne.symm same]
      | completion address action duration tail notStart =>
          obtain ⟨opened, restInterleaved⟩ := interleaved
          rw [← isSome_update_none isOpen address.text] at restInterleaved
          have restCount := induction (position + 1) _ restInterleaved
          have unchanged : entriesOf Opening.closed position
              (.completion address action duration tail notStart :: rest) =
                entriesOf Opening.closed (position + 1) rest := rfl
          rw [completions, List.count_cons, restCount, unchanged]
          by_cases same : text = address.text
          · subst same
            rw [Function.update_self]
            by_cases owned : isOpen address.text = owner
            · subst owned
              have present : (isOpen address.text).isSome = true := opened
              have notNone : none ≠ isOpen address.text := by
                rintro absent
                rw [← absent] at present
                cases present
              simp [closedBy, present, notNone]
            · have absent : ¬ (none = owner ∧ owner.isSome = true ∧
                  closedBy address.text rest = true) := by
                rintro ⟨rfl, present, -⟩
                cases present
              simp [owned, absent]
          · rw [Function.update_of_ne same]
            simp [closedBy, Ne.symm same]
      | other line notStart notCompletion =>
          exact induction (position + 1) isOpen interleaved

private theorem completions_perm_closed (log : RunLog) :
    (completions 0 (fun _ => none) log.lines).Perm
      (entriesOf Opening.closed 0 log.lines) := by
  rw [List.perm_iff_count]
  intro entry
  rw [count_completions log.lines 0 (fun _ => none) log.interleaved entry]
  cases entry.1 <;> simp

/-! Failed records are those of the start lines that no completion line answers. -/

def Opening.unanswered (opening : Opening) : Bool := !opening.answered

def waiting (current : Option (Nat × Address)) (completed : Bool) (lines : List LogLine) :
    List Entry :=
  if completesFirst lines then [] else pending current completed

private theorem pending_true (current : Option (Nat × Address)) :
    pending current true = [] := by
  cases current <;> rfl

private theorem scanned_perm (lines : List LogLine) (position : Nat) (isOpen : Text → Option Nat)
    (current : Option (Nat × Address)) (completed : Bool) :
    (scanned position isOpen current completed lines).Perm
      ((completions position isOpen lines).map (·, true) ++
        (waiting current completed lines ++
          entriesOf Opening.unanswered position lines).map (·, false)) := by
  induction lines generalizing position isOpen current completed with
  | nil => simp [scanned, completions, waiting, completesFirst, entriesOf, openings]
  | cons line rest induction =>
      cases line with
      | start address action tail =>
          have restPerm := induction (position + 1)
            (Function.update isOpen address.text (some position))
            (some (position, address)) false
          have started : waiting (some (position, address)) false rest ++
                entriesOf Opening.unanswered (position + 1) rest =
              entriesOf Opening.unanswered position (.start address action tail :: rest) := by
            cases completes : completesFirst rest <;>
              simp [waiting, pending, entriesOf, openings, Opening.unanswered,
                Opening.answered, Opening.entry, completes]
          have notYet : waiting current completed (.start address action tail :: rest) =
              pending current completed := rfl
          rw [started] at restPerm
          rw [scanned, completions, notYet, List.map_append]
          refine (restPerm.append_left _).trans ?_
          rw [← List.append_assoc, ← List.append_assoc]
          exact List.perm_append_comm.append_right _
      | completion address action duration tail notStart =>
          have restPerm := induction (position + 1)
            (Function.update isOpen address.text none) current true
          have noneWaits : waiting current true rest = [] := by
            rw [waiting, pending_true, ite_self]
          have answered : waiting current completed
              (.completion address action duration tail notStart :: rest) = [] := rfl
          have unchanged : entriesOf Opening.unanswered position
              (.completion address action duration tail notStart :: rest) =
                entriesOf Opening.unanswered (position + 1) rest := rfl
          rw [noneWaits] at restPerm
          rw [scanned, completions, answered, unchanged]
          exact restPerm.cons _
      | other text notStart notCompletion =>
          exact induction (position + 1) isOpen current completed

/-! Positions tell the start lines apart. -/

private theorem le_position {lines : List LogLine} {position : Nat} {opening : Opening}
    (member : opening ∈ openings position lines) : position ≤ opening.position := by
  induction lines generalizing position with
  | nil => exact absurd member List.not_mem_nil
  | cons line rest induction =>
      cases line with
      | start address action tail =>
          rcases List.mem_cons.mp member with rfl | later
          · exact Nat.le_refl _
          · exact (Nat.le_succ position).trans (induction later)
      | completion address action duration tail notStart =>
          exact (Nat.le_succ position).trans (induction member)
      | other text notStart notCompletion =>
          exact (Nat.le_succ position).trans (induction member)

private theorem positions_nodup (lines : List LogLine) (position : Nat) :
    ((openings position lines).map Opening.position).Nodup := by
  induction lines generalizing position with
  | nil => exact List.nodup_nil
  | cons line rest induction =>
      cases line with
      | start address action tail =>
          refine List.nodup_cons.mpr ⟨?_, induction (position + 1)⟩
          intro member
          obtain ⟨opening, later, same⟩ := List.mem_map.mp member
          have bound : position + 1 ≤ opening.position := le_position later
          have equal : opening.position = position := same
          omega
      | completion address action duration tail notStart => exact induction (position + 1)
      | other text notStart notCompletion => exact induction (position + 1)

/-- Two selections from items with different images are permutations of each other
only if they select the same items. -/
private theorem filter_map_perm_iff {α β : Type} {items : List α} {image : α → β}
    (injective : ∀ first ∈ items, ∀ second ∈ items,
      image first = image second → first = second) (chosen wanted : α → Bool) :
    ((items.filter chosen).map image).Perm ((items.filter wanted).map image) ↔
      ∀ item ∈ items, chosen item = wanted item := by
  constructor
  · intro same item member
    rw [Bool.eq_iff_iff]
    have among (condition : α → Bool) : image item ∈ (items.filter condition).map image ↔
        condition item = true := by
      rw [List.mem_map]
      constructor
      · rintro ⟨other, selected, equal⟩
        obtain ⟨inItems, holds⟩ := List.mem_filter.mp selected
        rwa [← injective other inItems item member equal]
      · exact fun holds => ⟨item, List.mem_filter.mpr ⟨member, holds⟩, rfl⟩
    rw [← among chosen, ← among wanted]
    exact same.mem_iff
  · intro same
    rw [List.filter_congr same]

/-! A start line is answered if and only if its run is closed, for all start lines,
exactly in the logs in which no closed run is disturbed. -/

private theorem completesFirst_of_closedAtOnce {address : Text} {lines : List LogLine}
    (closes : closedAtOnce address lines = true) : completesFirst lines = true := by
  induction lines with
  | nil => exact closes
  | cons line rest induction =>
      cases line with
      | start other action tail => exact closes
      | completion other action duration tail notStart => rfl
      | other text notStart notCompletion => exact induction closes

/-- When all other runs stay open, the first completion line is the run's own. -/
theorem closedBy_of_completesFirst {address : Text} {lines : List LogLine}
    {isOpen : Text → Bool} (interleaved : Interleaved isOpen lines)
    (othersStay : ∀ other, isOpen other = true → other ≠ address →
      closedBy other lines = false)
    (completes : completesFirst lines = true) : closedBy address lines = true := by
  induction lines with
  | nil => exact nomatch completes
  | cons line rest induction =>
      cases line with
      | start other action tail => exact nomatch completes
      | completion other action duration tail notStart =>
          by_cases own : other.text = address
          · rw [closedBy, if_pos own]
          · have stays := othersStay other.text interleaved.1 own
            rw [closedBy, if_pos rfl] at stays
            cases stays
      | other text notStart notCompletion => exact induction interleaved othersStay completes

/-- Going through an undisturbed log, a run that is open when a start line of another
address appears stays open. -/
theorem answered_eq_closed {lines : List LogLine} {position : Nat} {isOpen : Text → Bool}
    (interleaved : Interleaved isOpen lines)
    (openUndisturbed : ∀ text, isOpen text = true → closedBy text lines = true →
      closedAtOnce text lines = true)
    (undisturbed : ∀ opening ∈ openings position lines, opening.closed = true →
      closedAtOnce opening.address opening.later = true) :
    ∀ opening ∈ openings position lines, opening.answered = opening.closed := by
  induction lines generalizing position isOpen with
  | nil => exact fun opening member => absurd member List.not_mem_nil
  | cons line rest induction =>
      cases line with
      | start address action tail =>
          obtain ⟨here, later⟩ := List.forall_mem_cons.mp undisturbed
          have othersStay : ∀ other, (decide (other = address.text) || isOpen other) = true →
              other ≠ address.text → closedBy other rest = false := by
            intro other opened different
            rw [Bool.eq_false_iff]
            intro closes
            have disturbed := openUndisturbed other (by simpa [different] using opened)
              (by rw [closedBy, if_neg (Ne.symm different)]; exact closes)
            cases disturbed
          refine List.forall_mem_cons.mpr ⟨?_, induction interleaved ?_ later⟩
          · rw [Bool.eq_iff_iff]
            exact ⟨closedBy_of_completesFirst interleaved othersStay, fun closes =>
              completesFirst_of_closedAtOnce (here closes)⟩
          · intro text opened closes
            by_cases same : text = address.text
            · subst same
              exact here closes
            · rw [othersStay text opened same] at closes
              cases closes
      | completion address action duration tail notStart =>
          refine induction interleaved.2 ?_ undisturbed
          intro text opened closes
          obtain ⟨different, before⟩ := Bool.and_eq_true_iff.mp opened
          have apart : address.text ≠ text := Ne.symm (of_decide_eq_true different)
          have kept := openUndisturbed text before
          rw [closedBy, if_neg apart, closedAtOnce, if_neg apart] at kept
          exact kept closes
      | other text notStart notCompletion =>
          exact induction interleaved openUndisturbed undisturbed

/-- If answered and closed agree on all start lines, only the run started last can
still be closed, and only by the first completion line. -/
theorem closedAtOnce_of_agree {lines : List LogLine} {position : Nat}
    {isOpen : Text → Bool} {current : Option Text}
    (interleaved : Interleaved isOpen lines)
    (onlyCurrent : ∀ text, isOpen text = true → closedBy text lines = true →
      current = some text)
    (currentAgrees : ∀ text, current = some text →
      completesFirst lines = closedBy text lines)
    (agree : ∀ opening ∈ openings position lines, opening.answered = opening.closed) :
    (∀ text, current = some text → closedBy text lines = true →
      closedAtOnce text lines = true) ∧
    ∀ opening ∈ openings position lines, opening.closed = true →
      closedAtOnce opening.address opening.later = true := by
  induction lines generalizing position isOpen current with
  | nil =>
      exact ⟨fun _ _ closes => closes, fun opening member => absurd member List.not_mem_nil⟩
  | cons line rest induction =>
      cases line with
      | start address action tail =>
          obtain ⟨here, later⟩ := List.forall_mem_cons.mp agree
          have currentStays : ∀ text, current = some text →
              closedBy text (.start address action tail :: rest) = false :=
            fun text isCurrent => (currentAgrees text isCurrent).symm
          have next : _ ∧ _ := @induction (position + 1) _ (some address.text) interleaved
            ?_ ?_ later
          · refine ⟨?_, List.forall_mem_cons.mpr ⟨next.1 address.text rfl, next.2⟩⟩
            intro text isCurrent closes
            rw [currentStays text isCurrent] at closes
            cases closes
          · intro text opened closes
            by_contra different
            have apart : text ≠ address.text := fun same => different (same ▸ rfl)
            have before : isOpen text = true := by simpa [apart] using opened
            have alsoCloses : closedBy text (.start address action tail :: rest) = true := by
              rw [closedBy, if_neg (Ne.symm apart)]
              exact closes
            rw [currentStays text (onlyCurrent text before alsoCloses)] at alsoCloses
            cases alsoCloses
          · intro text same
            obtain rfl := Option.some.inj same
            exact here
      | completion address action duration tail notStart =>
          have own : current = some address.text :=
            onlyCurrent address.text interleaved.1 (by rw [closedBy, if_pos rfl])
          have next : _ ∧ _ := @induction (position + 1) _ none interleaved.2 ?_
            (fun _ isCurrent => nomatch isCurrent) agree
          · refine ⟨?_, next.2⟩
            intro text isCurrent _
            obtain rfl := Option.some.inj (own.symm.trans isCurrent)
            rw [closedAtOnce, if_pos rfl]
          · intro text opened closes
            obtain ⟨different, before⟩ := Bool.and_eq_true_iff.mp opened
            have apart : address.text ≠ text := Ne.symm (of_decide_eq_true different)
            have isCurrent := onlyCurrent text before
              (by rw [closedBy, if_neg apart]; exact closes)
            exact absurd (Option.some.inj (own.symm.trans isCurrent)) apart
      | other text notStart notCompletion =>
          exact induction interleaved onlyCurrent currentAgrees agree

private theorem agree_iff_undisturbed (log : RunLog) :
    (∀ opening ∈ openings 0 log.lines, opening.answered = opening.closed) ↔
      log.Undisturbed := by
  constructor
  · intro agree
    exact (closedAtOnce_of_agree log.interleaved (fun _ opened => nomatch opened)
      (fun _ (isCurrent : none = some _) => nomatch isCurrent) agree).2
  · intro undisturbed
    exact answered_eq_closed log.interleaved (fun _ opened => nomatch opened) undisturbed

/-! Records against runs. -/

def keyOutcome (success : Bool) (opening : Opening) : Option Nat × Outcome :=
  entryOutcome (opening.entry, success)

private theorem records_perm (context : LogContext) (log : RunLog) :
    ((attributedRecords context log.lines).map fun record => (record.1, record.2.outcome)).Perm
      (((openings 0 log.lines).filter Opening.closed).map (keyOutcome true) ++
        ((openings 0 log.lines).filter Opening.unanswered).map (keyOutcome false)) := by
  have listed : (attributedRecords context log.lines).map
      (fun record => (record.1, record.2.outcome)) =
      (scanned 0 (fun _ => none) none false log.lines).map entryOutcome :=
    recordsFrom_eq_scanned context log.lines 0 (fun _ => none) {} none false ⟨rfl, rfl⟩
  have noneWaits : waiting none false log.lines = [] := by
    rw [waiting, pending, ite_self]
  have split := scanned_perm log.lines 0 (fun _ => none) none false
  rw [noneWaits, List.nil_append] at split
  have closed := ((completions_perm_closed log).map (·, true)).append_right
    ((entriesOf Opening.unanswered 0 log.lines).map (·, false))
  have outcomes := (split.trans closed).map entryOutcome
  simp only [entriesOf, List.map_append, List.map_map] at outcomes
  rw [listed]
  exact outcomes

private theorem runs_perm (lines : List LogLine) :
    ((runs lines).map fun run => (some run.1, run.2.outcome)).Perm
      (((openings 0 lines).filter Opening.closed).map (keyOutcome true) ++
        ((openings 0 lines).filter fun opening => !opening.closed).map (keyOutcome false)) := by
  have split := (List.filter_append_perm Opening.closed (openings 0 lines)).symm.map
    fun opening => (some opening.run.1, opening.run.2.outcome)
  rw [List.map_append] at split
  have same (success : Bool) (condition : Opening → Bool)
      (selects : ∀ opening, condition opening = true → opening.closed = success) :
      ((openings 0 lines).filter condition).map
          (fun opening => (some opening.run.1, opening.run.2.outcome)) =
        ((openings 0 lines).filter condition).map (keyOutcome success) := by
    apply List.map_congr_left
    intro opening member
    have holds := selects opening (List.mem_filter.mp member).2
    rw [← holds]
    rfl
  rw [same true Opening.closed fun _ closed => closed,
    same false (fun opening => !opening.closed) fun opening stays => by simpa using stays]
    at split
  rw [runs, List.map_map]
  exact split

private theorem keyOutcome_injective (lines : List LogLine) (success : Bool) :
    ∀ first ∈ openings 0 lines, ∀ second ∈ openings 0 lines,
      keyOutcome success first = keyOutcome success second → first = second := by
  intro first inFirst second inSecond same
  have positions : first.position = second.position :=
    Option.some.inj (Prod.ext_iff.mp same).1
  exact List.inj_on_of_nodup_map (positions_nodup lines 0) inFirst inSecond positions

/-- There is exactly one record for every run, successful exactly if the run is closed,
if and only if no closed run is disturbed by another start line before its completion
line. -/
theorem record_per_run_iff (context : LogContext) (log : RunLog) :
    (attributedRecords context log.lines).map Prod.snd =
        processTerraformLogs context (some (logFile log.lines)) ∧
      (RecordPerRun context log ↔ log.Undisturbed) := by
  refine ⟨records_results context log.lines, ?_⟩
  rw [RecordPerRun, (records_perm context log).congr_left, (runs_perm log.lines).congr_right,
    List.perm_append_left_iff, filter_map_perm_iff (keyOutcome_injective log.lines false),
    ← agree_iff_undisturbed]
  refine forall₂_congr fun opening _ => ?_
  exact Bool.not_inj_iff

/-! Two resources applied in parallel: the second start line flushes the first
run as failed although it completes later. -/

def overlappingLog : RunLog where
  lines :=
    let first : Address := .sample
    let second : Address := ⟨lit "b.x", by decide, by decide⟩
    let oneSecond : Duration :=
      .seconds ⟨lit "1", by decide, List.forall_mem_singleton.mpr (by decide)⟩
    [.start first .create (lit "..."), .start second .create (lit "..."),
      .completion first .create oneSecond [] (by decide),
      .completion second .create oneSecond [] (by decide)]
  interleaved := by
    simp [Interleaved]
    decide

theorem overlapping_runs_miscounted :
    ¬ ∀ (context : LogContext) (log : RunLog), RecordPerRun context log := by
  intro accounted
  have lengths := (accounted ⟨[], [], [], [], fun _ => []⟩ overlappingLog).length_eq
  rw [(records_perm _ overlappingLog).length_eq] at lengths
  exact absurd lengths (by decide)

end Telescope.Terraform
