import Mathlib.Data.List.Infix
import Mathlib.Data.List.Pairwise
import Telescope.Crud.Operation
import Telescope.Data.Sequence
import Telescope.Data.Store
import Telescope.Text.CharClass
import Telescope.Text.Edit

namespace Telescope.Crud

open Telescope

/-! Saved operations and their collection (`OperationContext.__exit__` and
`collect_benchmark_results`).  A result directory holds one JSON value per file
name; the JSON text of a saved operation is represented by the operation. -/

/-- Cloud names are plain file name components: every caller passes `azure`, `aws`
or `gcp`. -/
structure Cloud where
  name : Text
  slashFree : '/' ∉ name
  visible : name.head? ≠ some '.'

structure LocalTime where
  year : Fin 10000
  month : Fin 13
  day : Fin 32
  hour : Fin 24
  minute : Fin 60
  second : Fin 62
  microsecond : Fin 1000000
  deriving DecidableEq

/-- `strftime("%Y%m%d_%H%M%S")` -/
def LocalTime.stamp (time : LocalTime) : Text :=
  twoDigits (time.year / 100) ++ (twoDigits (time.year % 100) ++
    (twoDigits time.month ++ (twoDigits time.day ++ '_' ::
      (twoDigits time.hour ++ (twoDigits time.minute ++ twoDigits time.second)))))

structure SameSecond (left right : LocalTime) : Prop where
  year : left.year = right.year
  month : left.month = right.month
  day : left.day = right.day
  hour : left.hour = right.hour
  minute : left.minute = right.minute
  second : left.second = right.second

structure ContextExit where
  cloud : Cloud
  operation : Operation
  now : LocalTime

def cleanOpName (name : Text) : Text :=
  replaceText [':'] ['_'] (replaceText ['\\'] ['_']
    (replaceText ['/'] ['_'] (replaceText [' '] ['_'] name)))

namespace ContextExit

def slot (exit : ContextExit) : Text :=
  exit.cloud.name ++ '_' :: cleanOpName exit.operation.name

def fileName (exit : ContextExit) : Text :=
  exit.slot ++ '_' :: (exit.now.stamp ++ lit ".json")

/-- Both exits write the same file. -/
def SameSlot (left right : ContextExit) : Prop :=
  left.slot = right.slot ∧ SameSecond left.now right.now

end ContextExit

structure ResultRow where
  timestamp : Text
  region : Text
  operationInfo : Operation
  runId : Text
  runUrl : Text

structure ResultDir where
  files : Store Text Operation
  results : Option (List ResultRow) := none

def ResultDir.fresh : ResultDir := { files := .empty }

/-- Opening for writing truncates a file of the same name. -/
def ResultDir.saveToFile (dir : ResultDir) (exit : ContextExit) : ResultDir :=
  { dir with files := dir.files.put exit.fileName exit.operation }

def directory (exits : List ContextExit) : ResultDir :=
  exits.foldl ResultDir.saveToFile .fresh

/-- Names matched by the pattern `*.json`. -/
def MatchesGlob (name : Text) : Prop :=
  lit ".json" <:+ name ∧ name.head? ≠ some '.' ∧ '/' ∉ name

instance (name : Text) : Decidable (MatchesGlob name) :=
  inferInstanceAs
    (Decidable (lit ".json" <:+ name ∧ name.head? ≠ some '.' ∧ '/' ∉ name))

/-- `glob` returns the matching files in an arbitrary order. -/
structure GlobListing (dir : ResultDir) where
  entries : List (Text × Operation)
  perm : entries.Perm
    (dir.files.entries.filter fun entry => decide (MatchesGlob entry.1))

structure CollectEnv where
  region : Text
  runId : Text
  runUrl : Text
  now : Nat → Text

def collectedRows (env : CollectEnv) (entries : List (Text × Operation)) :
    List ResultRow :=
  entries.mapIdx fun index entry =>
    { timestamp := env.now index
      region := env.region
      operationInfo := entry.2
      runId := env.runId
      runUrl := env.runUrl }

/-- `results.json` itself is skipped and appended to. -/
def collectBenchmarkResults (env : CollectEnv) (dir : ResultDir)
    (listing : GlobListing dir) : ResultDir :=
  let entries := listing.entries.filter fun entry => entry.1 ≠ lit "results.json"
  if entries.isEmpty then dir
  else
    { dir with
      results := some (dir.results.getD [] ++ collectedRows env entries) }

def ResultDir.rows (dir : ResultDir) : List ResultRow := dir.results.getD []

/-- Every exited operation has its own file, no exit overwrites another one's file,
and collecting appends exactly one row per exited operation. -/
structure RecordsKept (exits : List ContextExit) : Prop where
  ownFile : ∃ assign : Fin exits.length → Text, Function.Injective assign ∧
    ∀ index, (directory exits).files.get? (assign index) =
      some (exits.get index).operation
  noOverwrite : ∀ before exit after, exits = before ++ exit :: after →
    (directory before).files.get? exit.fileName = none
  collected : ∀ env (listing : GlobListing (directory exits)),
    ((collectBenchmarkResults env _ listing).rows.map
      ResultRow.operationInfo).Perm (exits.map ContextExit.operation)

private theorem slash_not_mem_twoDigits (n : Nat) : '/' ∉ twoDigits n := by
  have digits : ∀ d < 10, '/' ≠ Nat.digitChar d := by decide
  simp only [twoDigits, List.mem_cons, List.not_mem_nil, or_false, not_or]
  exact ⟨digits _ (Nat.mod_lt _ (by decide)), digits _ (Nat.mod_lt _ (by decide))⟩

@[simp] theorem LocalTime.length_stamp (time : LocalTime) :
    time.stamp.length = 15 := by
  simp [LocalTime.stamp, twoDigits]

theorem LocalTime.stamp_eq_iff (left right : LocalTime) :
    left.stamp = right.stamp ↔ SameSecond left right := by
  constructor
  · intro same
    simp only [LocalTime.stamp] at same
    obtain ⟨century, same⟩ := List.append_inj same rfl
    obtain ⟨year, same⟩ := List.append_inj same rfl
    obtain ⟨month, same⟩ := List.append_inj same rfl
    obtain ⟨day, same⟩ := List.append_inj same rfl
    obtain ⟨hour, same⟩ := List.append_inj (List.cons.inj same).2 rfl
    obtain ⟨minute, second⟩ := List.append_inj same rfl
    have centuryEq := twoDigits_inj (by omega) (by omega) century
    have yearEq := twoDigits_inj (by omega) (by omega) year
    exact
      { year := Fin.ext (by omega)
        month := Fin.ext (twoDigits_inj (by omega) (by omega) month)
        day := Fin.ext (twoDigits_inj (by omega) (by omega) day)
        hour := Fin.ext (twoDigits_inj (by omega) (by omega) hour)
        minute := Fin.ext (twoDigits_inj (by omega) (by omega) minute)
        second := Fin.ext (twoDigits_inj (by omega) (by omega) second) }
  · intro same
    simp [LocalTime.stamp, same.year, same.month, same.day, same.hour, same.minute,
      same.second]

private theorem LocalTime.slash_not_mem_stamp (time : LocalTime) : '/' ∉ time.stamp := by
  simp [LocalTime.stamp, slash_not_mem_twoDigits]

private theorem slash_not_mem_cleanOpName (name : Text) : '/' ∉ cleanOpName name := by
  apply not_mem_replaceText (by decide)
  right
  apply not_mem_replaceText (by decide)
  right
  apply not_mem_replaceText (by decide)
  left
  rfl

namespace ContextExit

theorem fileName_eq_iff (left right : ContextExit) :
    left.fileName = right.fileName ↔ left.SameSlot right := by
  constructor
  · intro same
    obtain ⟨slot, rest⟩ := List.append_inj' same (by simp)
    obtain ⟨stamp, -⟩ := List.append_inj (List.cons.inj rest).2 (by simp)
    exact ⟨slot, (LocalTime.stamp_eq_iff _ _).mp stamp⟩
  · rintro ⟨slot, second⟩
    rw [fileName, fileName, slot, (LocalTime.stamp_eq_iff _ _).mpr second]

private theorem matchesGlob_fileName (exit : ContextExit) : MatchesGlob exit.fileName := by
  refine ⟨?_, ?_, ?_⟩
  · exact ⟨exit.slot ++ '_' :: exit.now.stamp, by simp [fileName]⟩
  · have visible := exit.cloud.visible
    cases cloudName : exit.cloud.name with
    | nil => simp [fileName, slot, cloudName]
    | cons head tail =>
        rw [cloudName] at visible
        simpa [fileName, slot, cloudName] using visible
  · have cloudFree := exit.cloud.slashFree
    have nameFree := slash_not_mem_cleanOpName exit.operation.name
    have stampFree := exit.now.slash_not_mem_stamp
    have suffixFree : '/' ∉ lit ".json" := by decide
    simp [fileName, slot, cloudFree, nameFree, stampFree, suffixFree]

private theorem fileName_ne_results (exit : ContextExit) :
    exit.fileName ≠ lit "results.json" := by
  intro same
  have member : '_' ∈ exit.fileName := by simp [fileName]
  rw [same] at member
  exact absurd member (by decide)

end ContextExit

def fileEntry (exit : ContextExit) : Text × Operation :=
  (exit.fileName, exit.operation)

/-- Exits into different files append their entries to the directory. -/
theorem entries_foldl_saveToFile (exits : List ContextExit) (dir : ResultDir)
    (distinct : exits.Pairwise fun left right => ¬ left.SameSlot right)
    (fresh : ∀ exit ∈ exits, dir.files.get? exit.fileName = none) :
    (exits.foldl ResultDir.saveToFile dir).files.entries =
      dir.files.entries ++ exits.map fileEntry := by
  induction exits generalizing dir with
  | nil => simp
  | cons exit rest induction =>
      rw [List.pairwise_cons] at distinct
      have restFresh : ∀ other ∈ rest,
          (dir.saveToFile exit).files.get? other.fileName = none := by
        intro other member
        have different : other.fileName ≠ exit.fileName := fun same =>
          distinct.1 other member
            ((ContextExit.fileName_eq_iff _ _).mp same.symm)
        exact (dir.files.get?_put_of_ne different exit.operation).trans
          (fresh other (List.mem_cons_of_mem exit member))
      rw [List.foldl_cons, induction (dir.saveToFile exit) distinct.2 restFresh]
      have appended := dir.files.entries_put_of_fresh
        (fresh exit List.mem_cons_self) exit.operation
      simp only [ResultDir.saveToFile, appended, List.append_assoc, List.map_cons]
      rfl

theorem entries_directory (exits : List ContextExit)
    (distinct : exits.Pairwise fun left right => ¬ left.SameSlot right) :
    (directory exits).files.entries = exits.map fileEntry := by
  rw [directory, entries_foldl_saveToFile exits .fresh distinct (fun _ _ => rfl)]
  rfl

private theorem results_foldl_saveToFile (exits : List ContextExit) (dir : ResultDir) :
    (exits.foldl ResultDir.saveToFile dir).results = dir.results := by
  induction exits generalizing dir with
  | nil => rfl
  | cons exit rest induction =>
      rw [List.foldl_cons, induction]
      rfl

/-- The last exit of a history finds its own file. -/
theorem get?_saveToFile_self (dir : ResultDir) (exit : ContextExit) :
    (dir.saveToFile exit).files.get? exit.fileName = some exit.operation :=
  dir.files.get?_put_self exit.fileName exit.operation

private theorem get?_foldl_isSome (exits : List ContextExit) (dir : ResultDir) (name : Text)
    (present : dir.files.get? name ≠ none) :
    (exits.foldl ResultDir.saveToFile dir).files.get? name ≠ none := by
  induction exits generalizing dir with
  | nil => exact present
  | cons exit rest induction =>
      apply induction
      by_cases same : name = exit.fileName
      · rw [same, get?_saveToFile_self]
        simp
      · rw [ResultDir.saveToFile, Store.get?_put_of_ne _ same]
        exact present

private theorem operationInfo_collectedRows (env : CollectEnv)
    (entries : List (Text × Operation)) :
    (collectedRows env entries).map ResultRow.operationInfo =
      entries.map Prod.snd := by
  apply List.ext_getElem
  · simp [collectedRows]
  · intro index leftBound rightBound
    simp [collectedRows]

private theorem rows_collectBenchmarkResults (env : CollectEnv) (exits : List ContextExit)
    (distinct : exits.Pairwise fun left right => ¬ left.SameSlot right)
    (listing : GlobListing (directory exits)) :
    ((collectBenchmarkResults env _ listing).rows.map
      ResultRow.operationInfo).Perm (exits.map ContextExit.operation) := by
  have allListed : (directory exits).files.entries.filter
      (fun entry => decide (MatchesGlob entry.1)) = exits.map fileEntry := by
    rw [entries_directory exits distinct, List.filter_eq_self]
    intro entry member
    obtain ⟨exit, -, rfl⟩ := List.mem_map.mp member
    exact decide_eq_true exit.matchesGlob_fileName
  have listed : listing.entries.Perm (exits.map fileEntry) := allListed ▸ listing.perm
  have kept : (listing.entries.filter fun entry => entry.1 ≠ lit "results.json") =
      listing.entries := by
    rw [List.filter_eq_self]
    intro entry member
    obtain ⟨exit, -, rfl⟩ := List.mem_map.mp (listed.subset member)
    exact decide_eq_true exit.fileName_ne_results
  have noResults : (directory exits).results = none :=
    results_foldl_saveToFile exits .fresh
  have operations : (collectBenchmarkResults env _ listing).rows.map
      ResultRow.operationInfo = listing.entries.map Prod.snd := by
    simp only [collectBenchmarkResults, kept]
    cases listing.entries with
    | nil => simp [ResultDir.rows, noResults]
    | cons first rest =>
        have rowsEquation := operationInfo_collectedRows env (first :: rest)
        simpa [ResultDir.rows, noResults] using rowsEquation
  rw [operations]
  have mapped := listed.map Prod.snd
  rw [List.map_map] at mapped
  exact mapped

/-- Every exit has left a file under its name. -/
theorem get?_directory_of_mem {exits : List ContextExit} {exit : ContextExit}
    (member : exit ∈ exits) : (directory exits).files.get? exit.fileName ≠ none := by
  obtain ⟨before, after, rfl⟩ := List.append_of_mem member
  rw [directory, List.foldl_append, List.foldl_cons]
  apply get?_foldl_isSome
  rw [get?_saveToFile_self]
  exact Option.some_ne_none _

private theorem fileName_injective_of_distinct {exits : List ContextExit}
    (distinct : exits.Pairwise fun left right => ¬ left.SameSlot right) :
    Function.Injective fun index : Fin exits.length => (exits.get index).fileName := by
  intro first second same
  rw [List.pairwise_iff_get] at distinct
  rcases Nat.lt_trichotomy first.val second.val with less | equal | greater
  · exact absurd ((ContextExit.fileName_eq_iff _ _).mp same) (distinct first second less)
  · exact Fin.ext equal
  · exact absurd ((ContextExit.fileName_eq_iff _ _).mp same.symm)
      (distinct second first greater)

private theorem noOverwrite_of_distinct {before after : List ContextExit} {exit : ContextExit}
    (distinct : (before ++ exit :: after).Pairwise fun left right =>
      ¬ left.SameSlot right) :
    (directory before).files.get? exit.fileName = none := by
  rw [List.pairwise_append] at distinct
  rw [Store.get?_eq_none_iff, Store.keys, entries_directory before distinct.1,
    List.map_map, List.mem_map]
  rintro ⟨other, member, same⟩
  exact distinct.2.2 other member exit List.mem_cons_self
    ((ContextExit.fileName_eq_iff _ _).mp same)

/-- Records are kept exactly when no two exits share the cloud and cleaned
operation name in the same second. -/
theorem recordsKept_iff (exits : List ContextExit) :
    RecordsKept exits ↔
      exits.Pairwise fun left right => ¬ left.SameSlot right := by
  constructor
  · intro kept
    apply pairwise_of_splits
    intro before exit after split earlier member same
    have absent := kept.noOverwrite before exit after split
    rw [← (ContextExit.fileName_eq_iff _ _).mpr same] at absent
    exact get?_directory_of_mem member absent
  · intro distinct
    constructor
    · refine ⟨_, fileName_injective_of_distinct distinct, ?_⟩
      intro index
      rw [Store.get?_eq_some_iff, entries_directory exits distinct]
      exact List.mem_map.mpr ⟨exits.get index, List.get_mem exits index, rfl⟩
    · intro before exit after split
      exact noOverwrite_of_distinct (split ▸ distinct)
    · intro env listing
      exact rows_collectBenchmarkResults env exits distinct listing

/-- A progressive scaling step that ends at the given microsecond of one second. -/
def scaleUpExit (microsecond : Fin 1000000) : ContextExit where
  cloud := ⟨lit "aws", by decide, by decide⟩
  operation := { name := lit "scale_up", cloud := lit "aws" }
  now := ⟨2025, 7, 7, 14, 44, 21, microsecond⟩

theorem same_second_exits_overwrite :
    ¬ ∀ exits : List ContextExit, RecordsKept exits := by
  intro kept
  have absent := (kept [scaleUpExit 0, scaleUpExit 500000]).noOverwrite
    [scaleUpExit 0] (scaleUpExit 500000) [] rfl
  have sameFile : (scaleUpExit 500000).fileName = (scaleUpExit 0).fileName :=
    (ContextExit.fileName_eq_iff _ _).mpr ⟨rfl, ⟨rfl, rfl, rfl, rfl, rfl, rfl⟩⟩
  have written := get?_saveToFile_self .fresh (scaleUpExit 0)
  rw [sameFile] at absent
  exact Option.some_ne_none _ (written.symm.trans absent)

end Telescope.Crud
