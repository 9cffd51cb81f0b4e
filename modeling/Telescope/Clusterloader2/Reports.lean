import Telescope.Clusterloader2.Measurement
import Telescope.Data.Json
import Telescope.Data.Loop

namespace Telescope

namespace Clusterloader2

/-! The loops that turn a report directory into rows.  Three of them copy the
row template for every row; the fourth assigns to one shared template. -/

/-- A file of the report directory; `contents` is what `json.loads` makes of it,
if anything. -/
structure ReportFile where
  name : Text
  noSlash : '/' ∉ name
  contents : Option Json

/-- The state of a loop; the content is kept as the objects of its lines. -/
structure Collection where
  template : Fields
  content : List Fields

def notIterable : Error := .typeError (lit "object is not iterable")

/-- The body up to `data = json.loads(file.read())`; `none` stands for `continue`. -/
def readReport (directory : Text) (file : ReportFile) :
    Except Error (Option (Text × Text × Json)) := do
  match ← getMeasurement (joinPath directory file.name) with
  | none => return none
  | some (measurement, groupName) =>
      if measurement = [] then return none
      match file.contents with
      | none => throw (.valueError (lit "Expecting value"))
      | some data => return some (measurement, groupName, data)

/-- `"dataItems" in data`, followed by `data["dataItems"]`.  Lists and texts may
contain the text, but cannot be indexed by it. -/
def dataItems? : Json → Except Error (Option Json)
  | .obj fields => .ok (Fields.get? fields (lit "dataItems"))
  | .arr items =>
      if items.any fun | .str value => value = lit "dataItems" | _ => false then
        .error (.typeError (lit "list indices must be integers or slices, not str"))
      else .ok none
  | .str value =>
      if containsText (lit "dataItems") value then
        .error (.typeError (lit "string indices must be integers"))
      else .ok none
  | _ => .error notIterable

/-- The entries of the `dataItems` of a report; empty ones are skipped. -/
def itemEntries (items : Json) : Except Error (List Json) :=
  if items.truthy then
    match items.entries? with
    | some entries => .ok entries
    | none => .error notIterable
  else .ok []

def resultRow (template : Fields) (measurement groupName : Text) (result : Json) : Fields :=
  template.setAll [(lit "group", .str groupName), (lit "measurement", .str measurement),
    (lit "result", result)]

/-- `result = template.copy()`, its three assignments, and the line it adds. -/
def emitResult (measurement groupName : Text) (state : Collection) (result : Json) :
    Collection :=
  { state with content := state.content ++ [resultRow state.template measurement groupName result] }

def processReport (directory : Text) (file : ReportFile) (state : Collection) :
    Except Error Unit × Collection :=
  match readReport directory file with
  | .error error => (.error error, state)
  | .ok none => (.ok (), state)
  | .ok (some (measurement, groupName, data)) =>
      match dataItems? data with
      | .error error => (.error error, state)
      | .ok none => (.ok (), emitResult measurement groupName state data)
      | .ok (some items) =>
          match itemEntries items with
          | .error error => (.error error, state)
          | .ok entries => (.ok (), entries.foldl (emitResult measurement groupName) state)

def processCl2Reports (directory : Text) (template : Fields) (files : List ReportFile) :
    Except Error Unit × Collection :=
  forEach (processReport directory) files ⟨template, []⟩

def largeClusterReports (directory : Text) (template : Fields) (files : List ReportFile) :
    Except Error Unit × Collection :=
  forEach (processReport directory) files ⟨template, []⟩

def networkPolicyReports (directory : Text) (template : Fields) (files : List ReportFile) :
    Except Error Unit × Collection :=
  forEach (processReport directory) files ⟨template, []⟩

/-! The loop of the CRI collector. -/

def criRow (template : Fields) (measurement groupName percentile : Text) (data : Json) : Fields :=
  template.setAll [(lit "measurement", .str measurement), (lit "group", .str groupName),
    (lit "percentile", .str percentile), (lit "data", data)]

/-- Four assignments to the template, and the line it then adds. -/
def emitItem (measurement groupName percentile : Text) (state : Collection) (item : Json) :
    Collection :=
  let template := criRow state.template measurement groupName percentile item
  ⟨template, state.content ++ [template]⟩

/-- The last of the four assignments alone. -/
def emitData (state : Collection) (item : Json) : Collection :=
  let template := state.template.set (lit "data") item
  ⟨template, state.content ++ [template]⟩

def processPercentile (measurement groupName : Text) (entry : Text × Json)
    (state : Collection) : Except Error Unit × Collection :=
  let template := state.template.setAll [(lit "measurement", .str measurement),
    (lit "group", .str groupName), (lit "percentile", .str entry.1)]
  let started : Collection := ⟨template, state.content⟩
  match entry.2.entries? with
  | none => (.error notIterable, started)
  | some items => (.ok (), items.foldl emitData started)

def processCriReport (directory : Text) (file : ReportFile) (state : Collection) :
    Except Error Unit × Collection :=
  match readReport directory file with
  | .error error => (.error error, state)
  | .ok none => (.ok (), state)
  | .ok (some (measurement, groupName, data)) =>
      if measurement = resourceUsageSummaryPrefix then
        match data with
        | .obj fields => forEach (processPercentile measurement groupName) fields state
        | _ => (.error ⟨.attributeError, lit "object has no attribute 'items'"⟩, state)
      else
        match dataItems? data with
        | .error error => (.error error, state)
        | .ok none => (.ok (), state)
        | .ok (some items) =>
            match itemEntries items with
            | .error error => (.error error, state)
            | .ok entries =>
                (.ok (), entries.foldl (emitItem measurement groupName (lit "dataItems")) state)

def criReports (directory : Text) (template : Fields) (files : List ReportFile) :
    Except Error Unit × Collection :=
  forEach (processCriReport directory) files ⟨template, []⟩

/-! What the rows of a file should be. -/

def recognised (directory : Text) (file : ReportFile) : Option (Text × Text) :=
  match getMeasurement (joinPath directory file.name) with
  | .ok (some (measurement, groupName)) =>
      if measurement = [] then none else some (measurement, groupName)
  | _ => none

/-- One result per entry of `dataItems` if the key is present, else the whole object. -/
def reportResults (data : Fields) : List Json :=
  match data.get? (lit "dataItems") with
  | some items => items.entries?.getD []
  | none => [.obj data]

def fileRows (directory : Text) (template : Fields) (file : ReportFile) : List Fields :=
  match recognised directory file, file.contents with
  | some (measurement, groupName), some (.obj data) =>
      (reportResults data).map (resultRow template measurement groupName)
  | _, _ => []

def criEntries (measurement : Text) (data : Fields) : List (Text × Json) :=
  if measurement = resourceUsageSummaryPrefix then
    data.flatMap fun entry => (entry.2.entries?.getD []).map fun item => (entry.1, item)
  else
    match data.get? (lit "dataItems") with
    | some items => (items.entries?.getD []).map fun item => (lit "dataItems", item)
    | none => []

def criFileRows (directory : Text) (template : Fields) (file : ReportFile) : List Fields :=
  match recognised directory file, file.contents with
  | some (measurement, groupName), some (.obj data) =>
      (criEntries measurement data).map fun entry =>
        criRow template measurement groupName entry.1 entry.2
  | _, _ => []

def HoldsObject (directory : Text) (file : ReportFile) : Prop :=
  (recognised directory file).isSome → ∃ data, file.contents = some (.obj data)

/-- The name does not make the parse raise, and the `dataItems` of a recognised
file are neither a nonzero number nor `true`. -/
def Loadable (directory : Text) (file : ReportFile) : Prop :=
  strayName file.name = false ∧
    ∀ (data : Fields) (items : Json), (recognised directory file).isSome →
      file.contents = some (.obj data) → data.get? (lit "dataItems") = some items →
        items.truthy → items.entries?.isSome

theorem readReport_cases (directory : Text) {file : ReportFile}
    (object : HoldsObject directory file) :
    (strayName file.name = true ∧ ∃ error, readReport directory file = .error error) ∨
    (strayName file.name = false ∧ recognised directory file = none ∧
      readReport directory file = .ok none) ∨
    ∃ measurement groupName data, strayName file.name = false ∧
      recognised directory file = some (measurement, groupName) ∧
      file.contents = some (.obj data) ∧
      readReport directory file = .ok (some (measurement, groupName, .obj data)) := by
  have raises := exists_getMeasurement_iff (joinPath directory file.name)
  rw [basename_joinPath directory file.noSlash] at raises
  unfold HoldsObject at object
  unfold readReport
  unfold recognised at object ⊢
  cases parsed : getMeasurement (joinPath directory file.name) with
  | error error =>
      rw [parsed] at raises
      have stray : strayName file.name = true := by
        by_contra notStray
        obtain ⟨result, impossible⟩ := raises.mpr (by simpa using notStray)
        exact nomatch impossible
      exact .inl ⟨stray, error, rfl⟩
  | ok result =>
      have notStray := raises.mp ⟨result, parsed⟩
      rw [parsed] at object
      cases result with
      | none => exact .inr (.inl ⟨notStray, rfl, rfl⟩)
      | some pair =>
          obtain ⟨measurement, groupName⟩ := pair
          by_cases empty : measurement = []
          · refine .inr (.inl ⟨notStray, ?_, ?_⟩)
            · simp [empty]
            · simp [empty, bind, Except.bind, pure, Except.pure]
          · obtain ⟨data, contents⟩ := object (by simp [empty])
            refine .inr (.inr ⟨measurement, groupName, data, notStray, ?_, contents, ?_⟩)
            · simp [empty]
            · simp [empty, contents, bind, Except.bind, pure, Except.pure]

private theorem foldl_emitResult (measurement groupName : Text) (template : Fields)
    (results : List Json) (content : List Fields) :
    results.foldl (emitResult measurement groupName) ⟨template, content⟩ =
      ⟨template, content ++ results.map (resultRow template measurement groupName)⟩ := by
  induction results generalizing content with
  | nil => simp
  | cons result rest induction =>
      rw [List.foldl_cons, emitResult, induction, List.map_cons, List.append_assoc]
      rfl

theorem itemEntries_cases (items : Json) :
    (∃ error, itemEntries items = .error error ∧ items.truthy = true ∧
      items.entries? = none) ∨
    (itemEntries items = .ok (items.entries?.getD []) ∧
      (items.truthy = true → items.entries?.isSome)) := by
  unfold itemEntries
  cases items with
  | null => exact .inr ⟨rfl, fun truthy => nomatch truthy⟩
  | bool value =>
      cases value with
      | false => exact .inr ⟨rfl, fun truthy => nomatch truthy⟩
      | true => exact .inl ⟨notIterable, rfl, rfl, rfl⟩
  | num value =>
      by_cases zero : value = 0
      · exact .inr ⟨by simp [Json.truthy, Json.entries?, zero], by simp [Json.truthy, zero]⟩
      · exact .inl ⟨notIterable, by simp [Json.truthy, Json.entries?, zero],
          by simp [Json.truthy, zero], rfl⟩
  | str value => cases value <;> exact .inr ⟨rfl, fun _ => rfl⟩
  | arr values => cases values <;> exact .inr ⟨rfl, fun _ => rfl⟩
  | obj fields => cases fields <;> exact .inr ⟨rfl, fun _ => rfl⟩

/-- One round of the copying loop: it adds the rows of its file, or raises. -/
theorem processReport_cases (directory : Text) {file : ReportFile}
    (object : HoldsObject directory file) (state : Collection) :
    (Loadable directory file ∧ processReport directory file state =
      (.ok (), ⟨state.template, state.content ++ fileRows directory state.template file⟩)) ∨
    (¬Loadable directory file ∧
      ∃ error, processReport directory file state = (.error error, state)) := by
  obtain ⟨stray, error, read⟩ | ⟨notStray, unknown, read⟩ |
    ⟨measurement, groupName, data, notStray, known, contents, read⟩ :=
      readReport_cases directory object
  · refine .inr ⟨fun loadable => ?_, error, by rw [processReport, read]⟩
    rw [loadable.1] at stray
    exact nomatch stray
  · refine .inl ⟨⟨notStray, fun _ _ isKnown => ?_⟩, ?_⟩
    · rw [unknown] at isKnown
      exact nomatch isKnown
    · simp [processReport, read, fileRows, unknown]
  · cases key : Fields.get? data (lit "dataItems") with
    | none =>
        refine .inl ⟨⟨notStray, fun other items _ same present => ?_⟩, ?_⟩
        · rw [contents] at same
          cases same
          rw [key] at present
          exact nomatch present
        · simp [processReport, read, dataItems?, key, fileRows, known, contents, reportResults,
            emitResult]
    | some items =>
        rcases itemEntries_cases items with ⟨error, entries, truthy, none⟩ | ⟨entries, iterable⟩
        · refine .inr ⟨fun loadable => ?_, error, ?_⟩
          · have some := loadable.2 data items (by rw [known]; rfl) contents key truthy
            rw [none] at some
            exact nomatch some
          · simp [processReport, read, dataItems?, key, entries]
        · refine .inl ⟨⟨notStray, fun other others _ same present => ?_⟩, ?_⟩
          · rw [contents] at same
            cases same
            rw [key] at present
            cases present
            exact iterable
          · simp only [processReport, read, dataItems?, key, entries, fileRows, known, contents,
              reportResults]
            rw [foldl_emitResult]

/-- A whole run of the copying loop returns exactly when every file is loadable,
and then with the rows of all files and the template as it was. -/
theorem forEach_processReport_iff (directory : Text) (template : Fields)
    {files : List ReportFile} (objects : ∀ file ∈ files, HoldsObject directory file) :
    forEach (processReport directory) files ⟨template, []⟩ =
        (.ok (), ⟨template, files.flatMap (fileRows directory template)⟩) ↔
      ∀ file ∈ files, Loadable directory file := by
  have decided : ∀ file ∈ files, ∀ state,
      (processReport directory file state).1 = .ok () ↔ Loadable directory file := by
    intro file member state
    rcases processReport_cases directory (objects file member) state with
      ⟨loadable, step⟩ | ⟨notLoadable, error, step⟩
    · exact ⟨fun _ => loadable, fun _ => by rw [step]⟩
    · refine ⟨fun returned => ?_, fun loadable => absurd loadable notLoadable⟩
      rw [step] at returned
      exact nomatch returned
  have adds : ∀ file ∈ files, ∀ state after : Collection, state.template = template →
      processReport directory file state = (.ok (), after) →
        after.template = template ∧
          after.content = state.content ++ fileRows directory template file := by
    intro file member state after same returned
    rcases processReport_cases directory (objects file member) state with
      ⟨-, step⟩ | ⟨-, error, step⟩
    · rw [step] at returned
      cases returned
      exact ⟨same, by rw [same]⟩
    · rw [step] at returned
      exact nomatch returned
  rw [← forEach_ok_iff decided ⟨template, []⟩]
  constructor
  · intro run
    rw [run]
  · intro returned
    rcases run : forEach (processReport directory) files ⟨template, []⟩ with
      ⟨result, kept, content⟩
    rw [run] at returned
    cases returned
    obtain ⟨rfl, sameContent⟩ := forEach_collects (·.template = template) (·.content) adds rfl run
    exact congrArg (fun rows => (Except.ok (), Collection.mk kept rows)) sameContent

/-! The shared template of the CRI collector: whatever was assigned to it, the
next row is the one that a fresh template would give. -/

def FilledAlike (template shared : Fields) : Prop :=
  ∀ measurement groupName percentile data,
    criRow shared measurement groupName percentile data =
      criRow template measurement groupName percentile data

theorem FilledAlike.setAll {template shared : Fields} (alike : FilledAlike template shared)
    {assignments : List (Text × Json)}
    (keys : assignments.map Prod.fst <+:
      [lit "measurement", lit "group", lit "percentile", lit "data"]) :
    FilledAlike template (shared.setAll assignments) := by
  intro measurement groupName percentile data
  have distinct :
      [lit "measurement", lit "group", lit "percentile", lit "data"].Nodup := by decide
  have overwritten : criRow (shared.setAll assignments) measurement groupName percentile data =
      criRow shared measurement groupName percentile data :=
    Fields.setAll_setAll (by exact keys) (by exact distinct) shared
  rw [overwritten, alike]

private theorem foldl_emitItem {template : Fields} (measurement groupName percentile : Text)
    (items : List Json) {state : Collection} (alike : FilledAlike template state.template) :
    FilledAlike template
        (items.foldl (emitItem measurement groupName percentile) state).template ∧
      (items.foldl (emitItem measurement groupName percentile) state).content =
        state.content ++ items.map (criRow template measurement groupName percentile) := by
  rw [List.map_eq_flatMap]
  refine foldl_collects (fun now : Collection => FilledAlike template now.template)
    Collection.content ?_ items alike
  intro before item alikeBefore
  refine ⟨alikeBefore.setAll (List.prefix_refl _), ?_⟩
  rw [← alikeBefore]
  rfl

/-- Between two items the template differs from the row to come in its data only. -/
theorem foldl_emitData {template : Fields} {measurement groupName percentile : Text}
    (items : List Json) {state : Collection} (alike : FilledAlike template state.template)
    (filled : ∀ item, state.template.set (lit "data") item =
      criRow template measurement groupName percentile item) :
    FilledAlike template (items.foldl emitData state).template ∧
      (items.foldl emitData state).content =
        state.content ++ items.map (criRow template measurement groupName percentile) := by
  induction items generalizing state with
  | nil => exact ⟨alike, by simp⟩
  | cons item rest induction =>
      have emitted : (emitData state item).template =
          criRow template measurement groupName percentile item := filled item
      have alikeAfter : FilledAlike template (emitData state item).template := by
        rw [emitted]
        exact FilledAlike.setAll (fun _ _ _ _ => rfl) (List.prefix_refl _)
      have filledAfter (next : Json) : (emitData state item).template.set (lit "data") next =
          criRow template measurement groupName percentile next := by
        rw [← filled next]
        exact Fields.set_set_self _ _ _ _
      obtain ⟨kept, added⟩ := induction alikeAfter filledAfter
      refine ⟨kept, ?_⟩
      rw [List.foldl_cons, added, List.map_cons, ← filled item, emitData, List.append_assoc]
      rfl

/-- The template is assigned in two parts, the first of them also without any item. -/
theorem processPercentile_ok {template : Fields} {measurement groupName : Text}
    {entry : Text × Json} {state after : Collection}
    (alike : FilledAlike template state.template)
    (returned : processPercentile measurement groupName entry state = (.ok (), after)) :
    FilledAlike template after.template ∧
      after.content = state.content ++ (entry.2.entries?.getD []).map
        (criRow template measurement groupName entry.1) := by
  unfold processPercentile at returned
  cases found : entry.2.entries? with
  | none =>
      rw [found] at returned
      exact nomatch returned
  | some items =>
      rw [found] at returned
      cases returned
      have keys : [lit "measurement", lit "group", lit "percentile"] <+:
          [lit "measurement", lit "group", lit "percentile", lit "data"] := by decide
      refine foldl_emitData items (alike.setAll (by exact keys)) fun item => ?_
      rw [← alike]
      rfl

private theorem processCriReport_ok {directory : Text} {template : Fields} {file : ReportFile}
    (object : HoldsObject directory file) {state after : Collection}
    (alike : FilledAlike template state.template)
    (returned : processCriReport directory file state = (.ok (), after)) :
    FilledAlike template after.template ∧
      after.content = state.content ++ criFileRows directory template file := by
  unfold processCriReport at returned
  obtain ⟨stray, error, read⟩ | ⟨notStray, unknown, read⟩ |
    ⟨measurement, groupName, data, notStray, known, contents, read⟩ :=
      readReport_cases directory object
  · rw [read] at returned
    exact nomatch returned
  · rw [read] at returned
    cases returned
    exact ⟨alike, by simp [criFileRows, unknown]⟩
  · rw [read] at returned
    simp only [criFileRows, known, contents, criEntries]
    by_cases summary : measurement = resourceUsageSummaryPrefix
    · simp only [if_pos summary] at returned ⊢
      have round : ∀ entry ∈ data, ∀ now next : Collection, FilledAlike template now.template →
          processPercentile measurement groupName entry now = (.ok (), next) →
            FilledAlike template next.template ∧
              next.content = now.content ++ (entry.2.entries?.getD []).map
                (criRow template measurement groupName entry.1) :=
        fun _ _ _ _ => processPercentile_ok
      have rounds := forEach_collects (fun now : Collection => FilledAlike template now.template)
        Collection.content round alike returned
      simpa [List.map_flatMap, Function.comp_def] using rounds
    · simp only [if_neg summary, dataItems?] at returned ⊢
      cases key : Fields.get? data (lit "dataItems") with
      | none =>
          rw [key] at returned
          cases returned
          exact ⟨alike, by simp⟩
      | some items =>
          rw [key] at returned
          rcases itemEntries_cases items with ⟨error, entries, -, -⟩ | ⟨entries, -⟩
          · simp only [entries] at returned
            exact nomatch returned
          · simp only [entries] at returned
            cases returned
            simpa [Function.comp_def] using
              foldl_emitItem measurement groupName (lit "dataItems") _ alike

private theorem criReports_ok {directory : Text} {template : Fields} {files : List ReportFile}
    (objects : ∀ file ∈ files, HoldsObject directory file) {after : Collection}
    (returned : criReports directory template files = (.ok (), after)) :
    after.content = files.flatMap (criFileRows directory template) := by
  have round : ∀ file ∈ files, ∀ now next : Collection, FilledAlike template now.template →
      processCriReport directory file now = (.ok (), next) →
        FilledAlike template next.template ∧
          next.content = now.content ++ criFileRows directory template file :=
    fun file member _ _ => processCriReport_ok (objects file member)
  have rounds := forEach_collects (fun now : Collection => FilledAlike template now.template)
    Collection.content round (fun _ _ _ _ => rfl) returned
  exact rounds.2

/-- The three copying loops return the rows of the recognised files, and leave
the template as it was, exactly when every file is loadable; a row of the CRI
loop is always made from its own file and entry. -/
theorem collectors_agree_iff (directory : Text) (template : Fields) {files : List ReportFile}
    (objects : ∀ file ∈ files, HoldsObject directory file) :
    (processCl2Reports directory template files =
        (.ok (), ⟨template, files.flatMap (fileRows directory template)⟩) ∧
      largeClusterReports directory template files =
        (.ok (), ⟨template, files.flatMap (fileRows directory template)⟩) ∧
      networkPolicyReports directory template files =
        (.ok (), ⟨template, files.flatMap (fileRows directory template)⟩) ∧
      ∀ after, criReports directory template files = (.ok (), after) →
        after.content = files.flatMap (criFileRows directory template)) ↔
      ∀ file ∈ files, Loadable directory file := by
  have run := forEach_processReport_iff directory template objects
  constructor
  · rintro ⟨returned, -⟩
    exact run.mp returned
  · intro loadable
    have returned := run.mpr loadable
    exact ⟨returned, returned, returned, fun _ => criReports_ok objects⟩

def jobReport : ReportFile where
  name := lit "JobLifecycleLatency_jobs_2026-02-25T13:51:31Z.json"
  noSlash := by decide
  contents := some (.obj [(lit "dataItems", .arr [.num 1, .num 2])])

def strayReport : ReportFile where
  name := lit "SchedulingThroughput.json"
  noSlash := by decide
  contents := some (.obj [])

theorem strayName_strayReport : strayName strayReport.name = true := by
  change strayName (lit "SchedulingThroughput.json") = true
  rw [strayName_iff, lit_ofList]
  refine ⟨by decide, .scheduling, by decide, rfl, ?_⟩
  change schedulingThroughputPrefix <+: _
  rw [schedulingThroughputPrefix, lit_ofList]
  decide

private theorem holdsObject_jobReport (directory : Text) : HoldsObject directory jobReport :=
  fun _ => ⟨_, rfl⟩

def podReport : ReportFile where
  name := lit "PodStartupLatency_PodStartupLatency_load_2026-02-25T13:51:31Z.json"
  noSlash := by decide
  contents := some (.obj [(lit "version", .str (lit "1.0"))])

def junitReport : ReportFile where
  name := lit "junit.xml"
  noSlash := by decide
  contents := none

def runReports : List ReportFile := [jobReport, junitReport, podReport]

private theorem junitReport_unrecognised : recognised (lit "reports") junitReport = none := by
  decide +kernel

private theorem holdsObject_runReports : ∀ file ∈ runReports, HoldsObject (lit "reports") file := by
  refine List.forall_mem_cons.mpr ⟨fun _ => ⟨_, rfl⟩, List.forall_mem_cons.mpr ⟨?_,
    List.forall_mem_singleton.mpr fun _ => ⟨_, rfl⟩⟩⟩
  intro recognises
  rw [junitReport_unrecognised] at recognises
  cases recognises

private theorem loadable_runReports : ∀ file ∈ runReports, Loadable (lit "reports") file := by
  refine List.forall_mem_cons.mpr ⟨⟨by decide, ?_⟩, List.forall_mem_cons.mpr ⟨⟨by decide, ?_⟩,
    List.forall_mem_singleton.mpr ⟨by decide, ?_⟩⟩⟩
  · rintro data items - contents present -
    cases contents
    cases present
    rfl
  · rintro data items - contents
    cases contents
  · rintro data items - contents present -
    cases contents
    cases present

theorem collectors_agree_jobReport :
    let template : Fields := [(lit "run_id", .str (lit "1"))]
    let collected : Except Error Unit × Collection :=
      (.ok (), ⟨template, runReports.flatMap (fileRows (lit "reports") template)⟩)
    processCl2Reports (lit "reports") template runReports = collected ∧
      largeClusterReports (lit "reports") template runReports = collected ∧
      networkPolicyReports (lit "reports") template runReports = collected := by
  intro template collected
  obtain ⟨first, second, third, -⟩ :=
    (collectors_agree_iff (lit "reports") template holdsObject_runReports).mpr loadable_runReports
  exact ⟨first, second, third⟩

/-- With the stray name beside it, the rows of the other file are lost. -/
theorem not_collectors_agree :
    ¬∀ (directory : Text) (template : Fields) (files : List ReportFile),
      (∀ file ∈ files, HoldsObject directory file) →
        processCl2Reports directory template files =
          (.ok (), ⟨template, files.flatMap (fileRows directory template)⟩) := by
  intro agree
  have objects : ∀ file ∈ [jobReport, strayReport], HoldsObject (lit "reports") file :=
    List.forall_mem_cons.mpr ⟨holdsObject_jobReport _,
      List.forall_mem_singleton.mpr fun _ => ⟨_, rfl⟩⟩
  have loadable := (forEach_processReport_iff (lit "reports") [] objects).mp
    (agree (lit "reports") [] _ objects) strayReport (by simp)
  exact absurd loadable.1 (by rw [strayName_strayReport]; decide)

/-- A name is parsed exactly when it is not stray; all rows of a directory are
returned exactly when every file is loadable. -/
theorem processCl2Reports_total_iff (filePath directory : Text) (template : Fields)
    {files : List ReportFile} (objects : ∀ file ∈ files, HoldsObject directory file) :
    ((∃ result, getMeasurement filePath = .ok result) ↔
      strayName (basename filePath) = false) ∧
    (processCl2Reports directory template files =
        (.ok (), ⟨template, files.flatMap (fileRows directory template)⟩) ↔
      ∀ file ∈ files, Loadable directory file) :=
  ⟨exists_getMeasurement_iff filePath, forEach_processReport_iff directory template objects⟩

theorem processCl2Reports_total_jobReport :
    (∃ result, getMeasurement podReport.name = .ok result) ∧
      processCl2Reports (lit "reports") [] runReports =
        (.ok (), ⟨[], runReports.flatMap (fileRows (lit "reports") [])⟩) := by
  obtain ⟨parsed, collected⟩ :=
    processCl2Reports_total_iff podReport.name (lit "reports") [] holdsObject_runReports
  exact ⟨parsed.mpr (by decide), collected.mpr loadable_runReports⟩

theorem getMeasurement_strayName :
    ¬∀ filePath, ∃ result, getMeasurement filePath = .ok result := by
  intro total
  have parsed := (exists_getMeasurement_iff strayReport.name).mp (total strayReport.name)
  have plain : basename strayReport.name = strayReport.name := by
    change basename (lit "SchedulingThroughput.json") = lit "SchedulingThroughput.json"
    rw [lit_ofList]
    rfl
  rw [plain, strayName_strayReport] at parsed
  exact Bool.noConfusion parsed

end Clusterloader2

end Telescope
