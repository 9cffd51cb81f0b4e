import Mathlib.Data.List.DropRight
import Telescope.Data.Exception
import Telescope.Text.Edit

namespace Telescope

namespace Clusterloader2

/-! The measurement and the group of a clusterloader2 report, read from the name
of its file. -/

def podStartupLatencyFilePrefixMeasurementMap : List (Text × Text) :=
  [(lit "PodStartupLatency_PodStartupLatency_",
      lit "PodStartupLatency_PodStartupLatency"),
    (lit "StatefulPodStartupLatency_PodStartupLatency_",
      lit "StatefulPodStartupLatency_PodStartupLatency"),
    (lit "StatelessPodStartupLatency_PodStartupLatency_",
      lit "StatelessPodStartupLatency_PodStartupLatency")]

def networkMetricPrefixes : List Text :=
  [lit "APIResponsivenessPrometheus", lit "InClusterNetworkLatency",
    lit "NetworkProgrammingLatency"]

def promQueryPrefix : Text := lit "GenericPrometheusQuery"

def resourceUsageSummaryPrefix : Text := lit "ResourceUsageSummary"

def networkPolicySoakMeasurementPrefix : Text := lit "NetworkPolicySoakMeasurement"

def jobLifecycleLatencyPrefix : Text := lit "JobLifecycleLatency"

def schedulingThroughputPrometheusPrefix : Text := lit "SchedulingThroughputPrometheus"

def schedulingThroughputPrefix : Text := lit "SchedulingThroughput"

/-- `os.path.basename(path)` -/
def basename (path : Text) : Text := path.rtakeWhile (· != '/')

/-- `os.path.join(directory, name)` for a name that is not absolute. -/
def joinPath (directory name : Text) : Text :=
  if directory = [] ∨ directory.getLast? = some '/' then directory ++ name
  else directory ++ '/' :: name

/-- `name.split("_")[index]` -/
def underscorePart (index : Nat) (name : Text) : Except Error Text :=
  match (name.splitOn '_')[index]? with
  | some part => .ok part
  | none => .error ⟨.indexError, lit "list index out of range"⟩

/-- The search for the timestamp from the last part down to the second. -/
def promQueryParts (parts : List Text) : Nat → Option (Text × Text)
  | 0 => none
  | i + 1 =>
      if 'T' ∈ parts.getD (i + 1) [] then
        some ((joinText ['_'] (parts.take i)).rdropWhile (· == '_'), parts.getD i [])
      else promQueryParts parts i

def promQueryMeasurement (fileName : Text) : Option (Text × Text) :=
  if (promQueryPrefix ++ [' ']).isPrefixOf fileName ∨
      (promQueryPrefix ++ ['_']).isPrefixOf fileName then
    let parts := (fileName.drop (promQueryPrefix.length + 1)).splitOn '_'
    if 2 ≤ parts.length then promQueryParts parts (parts.length - 1) else none
  else none

/-- `get_measurement`; `none` stands for `(None, None)`. -/
def getMeasurement (filePath : Text) : Except Error (Option (Text × Text)) := do
  let fileName := basename filePath
  match podStartupLatencyFilePrefixMeasurementMap.find? (·.1.isPrefixOf fileName) with
  | some (_, measurement) => return some (measurement, ← underscorePart 2 fileName)
  | none =>
  match networkMetricPrefixes.find? (·.isPrefixOf fileName) with
  | some filePrefix => return some (filePrefix, ← underscorePart 1 fileName)
  | none =>
  if promQueryPrefix.isPrefixOf fileName then
    return promQueryMeasurement fileName
  else if jobLifecycleLatencyPrefix.isPrefixOf fileName then
    return some (jobLifecycleLatencyPrefix, ← underscorePart 1 fileName)
  else if resourceUsageSummaryPrefix.isPrefixOf fileName then
    return some (resourceUsageSummaryPrefix, ← underscorePart 1 fileName)
  else if networkPolicySoakMeasurementPrefix.isPrefixOf fileName then
    return some (networkPolicySoakMeasurementPrefix, ← underscorePart 1 fileName)
  else if schedulingThroughputPrometheusPrefix.isPrefixOf fileName then
    return some (schedulingThroughputPrometheusPrefix, ← underscorePart 1 fileName)
  else if schedulingThroughputPrefix.isPrefixOf fileName then
    return some (schedulingThroughputPrefix, ← underscorePart 1 fileName)
  else return none

/-! The families of measurements, in the order in which the name is tested. -/

inductive Family where
  | podStartup
  | statefulPodStartup
  | statelessPodStartup
  | apiResponsiveness
  | inClusterNetwork
  | networkProgramming
  | promQuery
  | jobLifecycle
  | resourceUsage
  | networkPolicySoak
  | schedulingPrometheus
  | scheduling
  deriving DecidableEq

namespace Family

def all : List Family :=
  [.podStartup, .statefulPodStartup, .statelessPodStartup, .apiResponsiveness,
    .inClusterNetwork, .networkProgramming, .promQuery, .jobLifecycle, .resourceUsage,
    .networkPolicySoak, .schedulingPrometheus, .scheduling]

/-- The prefix of a family's file names; for a fixed measurement also its name. -/
def label : Family → Text
  | .podStartup => lit "PodStartupLatency_PodStartupLatency"
  | .statefulPodStartup => lit "StatefulPodStartupLatency_PodStartupLatency"
  | .statelessPodStartup => lit "StatelessPodStartupLatency_PodStartupLatency"
  | .apiResponsiveness => lit "APIResponsivenessPrometheus"
  | .inClusterNetwork => lit "InClusterNetworkLatency"
  | .networkProgramming => lit "NetworkProgrammingLatency"
  | .promQuery => promQueryPrefix
  | .jobLifecycle => jobLifecycleLatencyPrefix
  | .resourceUsage => resourceUsageSummaryPrefix
  | .networkPolicySoak => networkPolicySoakMeasurementPrefix
  | .schedulingPrometheus => schedulingThroughputPrometheusPrefix
  | .scheduling => schedulingThroughputPrefix

def filePrefix : Family → Text
  | .podStartup => lit "PodStartupLatency_PodStartupLatency_"
  | .statefulPodStartup => lit "StatefulPodStartupLatency_PodStartupLatency_"
  | .statelessPodStartup => lit "StatelessPodStartupLatency_PodStartupLatency_"
  | family => family.label

def groupIndex : Family → Nat
  | .podStartup | .statefulPodStartup | .statelessPodStartup => 2
  | _ => 1

def parse (family : Family) (fileName : Text) : Except Error (Option (Text × Text)) :=
  match family with
  | .promQuery => .ok (promQueryMeasurement fileName)
  | family => do return some (family.label, ← underscorePart family.groupIndex fileName)

theorem parse_of_fixed {family : Family} (isFixed : family ≠ .promQuery) (fileName : Text) :
    family.parse fileName =
      (do return some (family.label, ← underscorePart family.groupIndex fileName)) := by
  cases family <;> first | exact absurd rfl isFixed | rfl

private theorem label_noSlash (family : Family) : '/' ∉ family.label := by
  cases family <;>
    simp only [label, promQueryPrefix, jobLifecycleLatencyPrefix, resourceUsageSummaryPrefix,
      networkPolicySoakMeasurementPrefix, schedulingThroughputPrometheusPrefix,
      schedulingThroughputPrefix] <;>
    rw [lit_ofList] <;> decide

private theorem length_splitOn_label (family : Family) :
    (family.label.splitOn '_').length = family.groupIndex := by
  cases family <;>
    simp only [label, promQueryPrefix, jobLifecycleLatencyPrefix, resourceUsageSummaryPrefix,
      networkPolicySoakMeasurementPrefix, schedulingThroughputPrometheusPrefix,
      schedulingThroughputPrefix] <;>
    rw [lit_ofList] <;> rfl

end Family

/-- The family to which a file name is attributed: the first whose prefix starts it. -/
def attributed (fileName : Text) : Option Family :=
  Family.all.find? fun family => family.filePrefix.isPrefixOf fileName

/-- No name of one family starts as the names of an earlier family do. -/
theorem attributed_label (family : Family) (rest : Text) :
    attributed (family.label ++ '_' :: rest) = some family := by
  cases family <;> rfl

theorem getMeasurement_eq (filePath : Text) :
    getMeasurement filePath =
      match attributed (basename filePath) with
      | some family => family.parse (basename filePath)
      | none => .ok none := by
  unfold getMeasurement attributed
  generalize basename filePath = fileName
  simp only [podStartupLatencyFilePrefixMeasurementMap, networkMetricPrefixes, Family.all,
    List.find?_cons, List.find?_nil, Family.filePrefix, Family.label]
  -- the tests are made in one order, and the first that succeeds settles both sides
  cases (lit "PodStartupLatency_PodStartupLatency_").isPrefixOf fileName with
  | true => rfl
  | false =>
  cases (lit "StatefulPodStartupLatency_PodStartupLatency_").isPrefixOf fileName with
  | true => rfl
  | false =>
  cases (lit "StatelessPodStartupLatency_PodStartupLatency_").isPrefixOf fileName with
  | true => rfl
  | false =>
  cases (lit "APIResponsivenessPrometheus").isPrefixOf fileName with
  | true => rfl
  | false =>
  cases (lit "InClusterNetworkLatency").isPrefixOf fileName with
  | true => rfl
  | false =>
  cases (lit "NetworkProgrammingLatency").isPrefixOf fileName with
  | true => rfl
  | false =>
  cases promQueryPrefix.isPrefixOf fileName with
  | true => rfl
  | false =>
  cases jobLifecycleLatencyPrefix.isPrefixOf fileName with
  | true => rfl
  | false =>
  cases resourceUsageSummaryPrefix.isPrefixOf fileName with
  | true => rfl
  | false =>
  cases networkPolicySoakMeasurementPrefix.isPrefixOf fileName with
  | true => rfl
  | false =>
  cases schedulingThroughputPrometheusPrefix.isPrefixOf fileName with
  | true => rfl
  | false =>
  cases schedulingThroughputPrefix.isPrefixOf fileName with
  | true => rfl
  | false => rfl

theorem basename_joinPath (directory : Text) {name : Text} (plain : '/' ∉ name) :
    basename (joinPath directory name) = name := by
  have inside : ∀ c ∈ name.reverse, (c != '/') = true := by
    intro c member
    rw [bne_iff_ne]
    rintro rfl
    exact plain (List.mem_reverse.mp member)
  have cut (before : Text) (ends : before = [] ∨ before.getLast? = some '/') :
      basename (before ++ name) = name := by
    have stops : before.reverse.takeWhile (· != '/') = [] := by
      rcases ends with rfl | last
      · rfl
      · obtain ⟨earlier, rfl⟩ := List.getLast?_eq_some_iff.mp last
        simp
    rw [basename, List.rtakeWhile, List.reverse_append, List.takeWhile_append_of_pos inside,
      stops, List.append_nil, List.reverse_reverse]
  unfold joinPath
  split
  · next ends => exact cut directory ends
  · have last : (directory ++ ['/']).getLast? = some '/' := by simp
    simpa using cut (directory ++ ['/']) (.inr last)

/-! The names that clusterloader2 gives to its report files. -/

structure GroupName where
  text : Text
  nonempty : text ≠ []
  noUnderscore : '_' ∉ text
  noSlash : '/' ∉ text

structure Timestamp where
  text : Text
  hasT : 'T' ∈ text
  noUnderscore : '_' ∉ text
  noSlash : '/' ∉ text

structure QueryName where
  text : Text
  nonempty : text ≠ []
  noLastUnderscore : text.getLast? ≠ some '_'
  noSlash : '/' ∉ text

inductive ReportKind where
  | fixed (family : Family) (isFixed : family ≠ .promQuery)
  | query (name : QueryName) (underscore : Bool)

structure ReportName where
  kind : ReportKind
  group : GroupName
  timestamp : Timestamp

namespace ReportName

def family (report : ReportName) : Family :=
  match report.kind with
  | .fixed family _ => family
  | .query _ _ => .promQuery

def measurement (report : ReportName) : Text :=
  match report.kind with
  | .fixed family _ => family.label
  | .query name _ => name.text

def head (report : ReportName) : Text :=
  match report.kind with
  | .fixed family _ => family.label
  | .query name true => promQueryPrefix ++ '_' :: name.text
  | .query name false => promQueryPrefix ++ ' ' :: name.text

def tail (report : ReportName) : Text :=
  report.group.text ++ '_' :: (report.timestamp.text ++ lit ".json")

def fileName (report : ReportName) : Text := report.head ++ '_' :: report.tail

theorem splitOn_tail (report : ReportName) :
    report.tail.splitOn '_' =
      [report.group.text, report.timestamp.text ++ lit ".json"] := by
  have noUnderscore : '_' ∉ report.timestamp.text ++ lit ".json" := by
    rw [List.mem_append, not_or]
    exact ⟨report.timestamp.noUnderscore, by decide⟩
  rw [tail, List.splitOn_append_cons_self,
    List.splitOn_eq_singleton report.group.noUnderscore,
    List.splitOn_eq_singleton noUnderscore]
  rfl

private theorem noSlash_fileName (report : ReportName) : '/' ∉ report.fileName := by
  have head : '/' ∉ report.head := by
    rcases report with ⟨kind, group, timestamp⟩
    cases kind with
    | fixed family isFixed => exact family.label_noSlash
    | query name underscore =>
        have query : '/' ∉ promQueryPrefix := by decide
        cases underscore <;> simp [ReportName.head, query, name.noSlash]
  have extension : '/' ∉ lit ".json" := by decide
  simp [fileName, tail, head, extension, report.group.noSlash, report.timestamp.noSlash]

theorem attributed_fileName (report : ReportName) :
    attributed report.fileName = some report.family := by
  rcases report with ⟨kind, group, timestamp⟩
  cases kind with
  | fixed family isFixed => exact attributed_label family _
  | query name underscore => cases underscore <;> rfl

end ReportName

private theorem underscorePart_label (family : Family) (report : ReportName) :
    underscorePart family.groupIndex (family.label ++ '_' :: report.tail) =
      .ok report.group.text := by
  rw [underscorePart, List.splitOn_append_cons_self, report.splitOn_tail,
    ← family.length_splitOn_label,
    List.getElem?_append_right (Nat.le_refl _), Nat.sub_self]
  rfl

/-- The last part holds the timestamp, so the cut before it is found at once. -/
theorem promQueryParts_of_last {parts : List Text} {group last : Text} (hasT : 'T' ∈ last) :
    promQueryParts (parts ++ [group, last]) ((parts ++ [group, last]).length - 1) =
      some ((joinText ['_'] parts).rdropWhile (· == '_'), group) := by
  have length : (parts ++ [group, last]).length - 1 = parts.length + 1 := by simp
  have atLast : (parts ++ [group, last]).getD (parts.length + 1) [] = last := by
    simp [List.getD]
  have atGroup : (parts ++ [group, last]).getD parts.length [] = group := by
    simp [List.getD]
  rw [length, promQueryParts, atLast, if_pos hasT, atGroup, List.take_left]

private theorem rdropWhile_underscore (name : QueryName) :
    name.text.rdropWhile (· == '_') = name.text := by
  rw [List.rdropWhile_eq_self_iff]
  intro nonempty
  rw [beq_iff_eq]
  intro last
  exact name.noLastUnderscore (by rw [List.getLast?_eq_getLast_of_ne_nil nonempty, last])

theorem promQueryMeasurement_query (name : QueryName) (report : ReportName) {separator : Char}
    (separates : separator = ' ' ∨ separator = '_') :
    promQueryMeasurement (promQueryPrefix ++ separator :: name.text ++ '_' :: report.tail) =
      some (name.text, report.group.text) := by
  have accepted :
      (promQueryPrefix ++ [' ']).isPrefixOf
          (promQueryPrefix ++ separator :: name.text ++ '_' :: report.tail) = true ∨
        (promQueryPrefix ++ ['_']).isPrefixOf
          (promQueryPrefix ++ separator :: name.text ++ '_' :: report.tail) = true := by
    rcases separates with rfl | rfl
    · exact .inl rfl
    · exact .inr rfl
  have remainder :
      (promQueryPrefix ++ separator :: name.text ++ '_' :: report.tail).drop
          (promQueryPrefix.length + 1) = name.text ++ '_' :: report.tail := rfl
  have timestamp : 'T' ∈ report.timestamp.text ++ lit ".json" :=
    List.mem_append_left _ report.timestamp.hasT
  unfold promQueryMeasurement
  rw [if_pos accepted, remainder]
  simp only [List.splitOn_append_cons_self, report.splitOn_tail]
  rw [if_pos (by simp), promQueryParts_of_last timestamp, joinText, List.intercalate_splitOn,
    rdropWhile_underscore]

private theorem parse_fileName (report : ReportName) :
    report.family.parse report.fileName =
      .ok (some (report.measurement, report.group.text)) := by
  rcases report with ⟨kind, group, timestamp⟩
  cases kind with
  | fixed family isFixed =>
      have part := underscorePart_label family ⟨.fixed family isFixed, group, timestamp⟩
      change family.parse (family.label ++ '_' :: _) = _
      rw [Family.parse_of_fixed isFixed, part]
      rfl
  | query name underscore =>
      cases underscore with
      | true => exact congrArg Except.ok (promQueryMeasurement_query name _ (.inr rfl))
      | false => exact congrArg Except.ok (promQueryMeasurement_query name _ (.inl rfl))

theorem Family.label_injective : Function.Injective Family.label := by
  intro first second same
  have attributions := attributed_label first []
  rw [same, attributed_label second []] at attributions
  exact (Option.some.inj attributions).symm

/-- Parsing the name of a report returns its measurement and its group; a name
belongs to one family only, and fixed measurements of two families differ. -/
theorem getMeasurement_fileName (directory : Text) (report : ReportName) :
    getMeasurement (joinPath directory report.fileName) =
        .ok (some (report.measurement, report.group.text)) ∧
      attributed report.fileName = some report.family ∧
      ∀ other : ReportName, other.family ≠ report.family →
        other.fileName ≠ report.fileName ∧ other.family.label ≠ report.family.label := by
  refine ⟨?_, report.attributed_fileName, ?_⟩
  · rw [getMeasurement_eq, basename_joinPath directory report.noSlash_fileName,
      report.attributed_fileName]
    exact parse_fileName report
  · intro other different
    refine ⟨fun same => different ?_, fun same => different (Family.label_injective same)⟩
    have attributions := other.attributed_fileName
    rw [same, report.attributed_fileName] at attributions
    exact (Option.some.inj attributions).symm

/-! A query whose name has underscores and a T of its own, in front of a group that has one. -/

def throughputQuery : ReportName where
  kind := .query ⟨lit "API_Total_Time", by decide, by decide, by decide⟩ true
  group := ⟨lit "LoadTest", by decide, by decide, by decide⟩
  timestamp := ⟨lit "2025-06-01T10:15Z", by decide, by decide, by decide⟩

theorem getMeasurement_throughputQuery :
    getMeasurement (lit "run/GenericPrometheusQuery_API_Total_Time_LoadTest_2025-06-01T10:15Z.json")
      = .ok (some (lit "API_Total_Time", lit "LoadTest")) :=
  (getMeasurement_fileName (lit "run") throughputQuery).1

/-! Names on which the parse raises. -/

def isPodStartup : Family → Bool
  | .podStartup | .statefulPodStartup | .statelessPodStartup => true
  | _ => false

/-- A name with the prefix of a family but without an underscore after it. -/
def strayName (fileName : Text) : Bool :=
  '_' ∉ fileName ∧ Family.all.any fun family =>
    family ≠ .promQuery ∧ isPodStartup family = false ∧ family.filePrefix.isPrefixOf fileName

private theorem exists_underscorePart_iff (index : Nat) (fileName : Text) :
    (∃ part, underscorePart index fileName = .ok part) ↔ index ≤ fileName.count '_' := by
  unfold underscorePart
  have length := length_splitOn '_' fileName
  cases found : (fileName.splitOn '_')[index]? with
  | none =>
      have outside := List.getElem?_eq_none_iff.mp found
      constructor
      · rintro ⟨part, impossible⟩
        exact nomatch impossible
      · intro inside
        omega
  | some part =>
      obtain ⟨inside, -⟩ := List.getElem?_eq_some_iff.mp found
      exact ⟨fun _ => by omega, fun _ => ⟨part, rfl⟩⟩

private theorem exists_parse_iff {family : Family} (isFixed : family ≠ .promQuery)
    (fileName : Text) :
    (∃ result, family.parse fileName = .ok result) ↔
      family.groupIndex ≤ fileName.count '_' := by
  rw [← exists_underscorePart_iff, Family.parse_of_fixed isFixed]
  constructor
  · rintro ⟨result, parsed⟩
    obtain ⟨part, found, -⟩ := exists_of_bind_eq_ok parsed
    exact ⟨part, found⟩
  · rintro ⟨part, found⟩
    exact ⟨_, by rw [found]; rfl⟩

theorem strayName_iff (fileName : Text) :
    strayName fileName = true ↔
      '_' ∉ fileName ∧ ∃ family : Family,
        family ≠ .promQuery ∧ isPodStartup family = false ∧ family.filePrefix <+: fileName := by
  have member (family : Family) : family ∈ Family.all := by cases family <;> decide
  simp only [strayName, decide_eq_true_eq, List.any_eq_true, List.isPrefixOf_iff_prefix]
  constructor
  · rintro ⟨noUnderscore, family, -, found⟩
    exact ⟨noUnderscore, family, found⟩
  · rintro ⟨noUnderscore, family, found⟩
    exact ⟨noUnderscore, family, member family, found⟩

/-- A name starts with the prefix of queries or of another family, not both. -/
theorem not_prefix_of_promQuery {fileName : Text} (query : promQueryPrefix <+: fileName)
    {family : Family} (isFixed : family ≠ .promQuery) : ¬family.filePrefix <+: fileName := by
  intro starts
  have apart : ¬promQueryPrefix <+: family.filePrefix ∧
      ¬family.filePrefix <+: promQueryPrefix := by
    cases family with
    | promQuery => exact absurd rfl isFixed
    | _ =>
        simp only [Family.filePrefix, Family.label, promQueryPrefix, jobLifecycleLatencyPrefix,
          resourceUsageSummaryPrefix, networkPolicySoakMeasurementPrefix,
          schedulingThroughputPrometheusPrefix, schedulingThroughputPrefix]
        rw [lit_ofList, lit_ofList]
        decide
  rcases List.prefix_or_prefix_of_prefix query starts with first | second
  · exact apart.1 first
  · exact apart.2 second

theorem exists_getMeasurement_iff (filePath : Text) :
    (∃ result, getMeasurement filePath = .ok result) ↔
      strayName (basename filePath) = false := by
  rw [getMeasurement_eq, ← Bool.not_eq_true, strayName_iff]
  generalize basename filePath = fileName
  cases found : attributed fileName with
  | none =>
      refine ⟨?_, fun _ => ⟨none, rfl⟩⟩
      rintro - ⟨-, family, -, -, starts⟩
      have rejected := List.find?_eq_none.mp found family (by cases family <;> decide)
      exact rejected (List.isPrefixOf_iff_prefix.mpr starts)
  | some family =>
      have starts : family.filePrefix <+: fileName := by
        unfold attributed at found
        have test := List.find?_some found
        exact List.isPrefixOf_iff_prefix.mp test
      by_cases isQuery : family = .promQuery
      · subst isQuery
        refine ⟨?_, fun _ => ⟨_, rfl⟩⟩
        rintro - ⟨-, other, isFixed, -, startsToo⟩
        exact not_prefix_of_promQuery starts isFixed startsToo
      · rw [exists_parse_iff isQuery]
        have underscores := starts.sublist.count_le '_'
        by_cases pod : isPodStartup family = true
        · -- the prefixes of the pod startup latencies hold two underscores already
          have two : family.groupIndex = 2 ∧ family.filePrefix.count '_' = 2 := by
            cases family <;> first | exact absurd pod (by decide) | exact ⟨rfl, rfl⟩
          have present : '_' ∈ fileName := List.count_pos_iff.mp (by omega)
          exact ⟨fun _ stray => stray.1 present, fun _ => by omega⟩
        · have one : family.groupIndex = 1 := by
            cases family <;> first | exact absurd rfl pod | rfl
          rw [one, Nat.one_le_iff_ne_zero, ne_eq, List.count_eq_zero]
          constructor
          · rintro present ⟨noUnderscore, -⟩
            exact present noUnderscore
          · intro notStray noUnderscore
            exact notStray ⟨noUnderscore, family, isQuery, by simpa using pod, starts⟩

end Clusterloader2

end Telescope
