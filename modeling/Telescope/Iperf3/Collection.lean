import Telescope.Iperf3.Parser
import Telescope.Iperf3.ResultFiles

namespace Telescope.Iperf3

open Telescope Telescope.Clients

/-! What `collect_iperf3` finds after all runs. -/

inductive ResultInfo where
  | tcp (result : TcpResult)
  | udp (result : UdpResult)

/-- The dictionaries that are filled from files. -/
inductive Dictionary where
  | os
  | counter (kind : Counter)
  | kubernetes
  deriving DecidableEq

abbrev Info := Dictionary → Fields

structure Row where
  metric : Protocol
  targetBandwidth : Int
  parallel : Int
  datapath : Text
  resultInfo : ResultInfo
  info : Info
  cloudInfo : Text
  runUrl : Text
  rawData : Text

structure Reading where
  dictionary : Dictionary
  key : Text
  source : Source

def osInfoReading (role : Role) (metric : OsMetric) : Reading :=
  ⟨.os, roleText role ++ lit "_" ++ metric.text ++ lit "_info", .step (.osInfo metric role)⟩

def counterReading (role : Role) (stage : Stage) (kind : Counter) : Reading :=
  ⟨.counter kind, roleText role ++ lit "_" ++ kind.text ++ lit "_" ++ stage.text ++ lit "_info",
    .step (.counter kind role stage)⟩

def podNodeInfoReading (role : Role) : Reading :=
  ⟨.kubernetes, roleText role ++ lit "_pod_node_info", .podNodeInfo role⟩

/-- The files in the order in which they are read. -/
def readings (isK8s : Bool) : List Reading :=
  [Role.client, .server].flatMap fun role =>
    [OsMetric.lscpu, .lspci].map (osInfoReading role) ++
      ([Stage.before, .after].flatMap fun stage =>
        [Counter.netstat, .ipLink].map (counterReading role stage)) ++
      if isK8s then [podNodeInfoReading role] else []

section Collect

-- `load` is `json.load`, `path` gives the file of a source and `read` its text, if any.
variable (load : Text → Except Error Json) (convertTimestamp : Json → Except Error Text)
variable (path : Source → Text) (read : Source → Option Text)

def addReading (info : Info) (reading : Reading) : Except Error Info :=
  match read reading.source with
  | none => .error (.runtimeError (lit "File " ++ path reading.source ++ lit " not found!"))
  | some text => do
      let data ← load text
      return Function.update info reading.dictionary
        ((info reading.dictionary).set reading.key data)

def parseResult (protocol : Protocol) (text : Text) : Except Error ResultInfo := do
  let data ← load text
  match protocol with
  | .tcp => return .tcp (← parseTcpOutput convertTimestamp data)
  | .udp => return .udp (← parseUdpOutput convertTimestamp data)

def collectFrom (measurement : Measurement) (isK8s : Bool) (cloudInfo runUrl : Text) :
    Except Error Row :=
  match read (.step .iperf3) with
  | none => .error ⟨.external, lit "No such file or directory: '" ++ path (.step .iperf3) ++
      lit "'"⟩
  | some [] => .error (.runtimeError (lit "Iperf3 result file " ++ path (.step .iperf3) ++
      lit " is empty or not found!"))
  | some iperf3Result => do
      let resultInfo ← parseResult load convertTimestamp measurement.protocol iperf3Result
      let info ← (readings isK8s).foldlM (addReading load path read) fun _ => []
      return {
        metric := measurement.protocol
        targetBandwidth := measurement.bandwidth
        parallel := measurement.parallel
        datapath := measurement.datapath
        resultInfo := resultInfo
        info := info
        cloudInfo := cloudInfo
        runUrl := runUrl
        rawData := iperf3Result }

end Collect

/-- `collect_iperf3`, up to the row that it appends to the result file. -/
def collectIperf3 (load : Text → Except Error Json)
    (convertTimestamp : Json → Except Error Text) (resultDir : Text) (files : Store Text Text)
    (measurement : Measurement) (isK8s : Bool) (cloudInfo runUrl : Text) : Except Error Row :=
  collectFrom load convertTimestamp (Source.path resultDir measurement)
    (fun source => files.get? (source.path resultDir measurement)) measurement isK8s cloudInfo
    runUrl

/-- `save_info_to_file` of a role's pods and nodes, which are a list. -/
def savePodNodeInfo (resultDir : Text) (dump : Json → Text) (role : Role) (infos : List Json)
    (files : Store Text Text) : Store Text Text :=
  if infos = [] then files else files.put (podNodeInfoFile resultDir role) (dump (.arr infos))

/-- `main` with the action `collect_pod_node_info`, once the clusters have answered. -/
def collectPodNodeInfo (resultDir : Text) (dump : Json → Text) (infos : Role → List Json)
    (files : Store Text Text) : Store Text Text :=
  savePodNodeInfo resultDir dump .server (infos .server)
    (savePodNodeInfo resultDir dump .client (infos .client) files)

/-! ## The row by the texts of its sources -/

/-- A row in which every entry is what the text of its source is read as. -/
structure RowOf (load : Text → Except Error Json)
    (convertTimestamp : Json → Except Error Text) (measurement : Measurement) (isK8s : Bool)
    (texts : Source → Option Text) (row : Row) : Prop where
  parameters : (row.metric, row.targetBandwidth, row.parallel, row.datapath) =
    measurement.parameters
  rawData : texts (.step .iperf3) = some row.rawData
  nonempty : row.rawData ≠ []
  resultInfo :
    parseResult load convertTimestamp measurement.protocol row.rawData = .ok row.resultInfo
  entries : ∀ reading ∈ readings isK8s, ∃ text data, texts reading.source = some text ∧
    load text = .ok data ∧ (row.info reading.dictionary).get? reading.key = some data

section Rows

variable {load : Text → Except Error Json} {convertTimestamp : Json → Except Error Text}
variable {path : Source → Text} {texts : Source → Option Text}

def Loads (load : Text → Except Error Json) (texts : Source → Option Text)
    (reading : Reading) (data : Json) : Prop :=
  ∃ text, texts reading.source = some text ∧ load text = .ok data

theorem addReading_ok_iff {info after : Info} {reading : Reading} :
    addReading load path texts info reading = .ok after ↔
      ∃ data, Loads load texts reading data ∧
        after = Function.update info reading.dictionary
          ((info reading.dictionary).set reading.key data) := by
  unfold addReading Loads
  cases texts reading.source with
  | none => simp
  | some text =>
      cases loaded : load text with
      | error error => simp [loaded, bind, Except.bind]
      | ok data => simp [loaded, bind, Except.bind, pure, Except.pure, eq_comm]

theorem get?_update_set (info : Info) (reading : Reading) (data : Json)
    (dictionary : Dictionary) (key : Text) :
    Fields.get? (Function.update info reading.dictionary
        ((info reading.dictionary).set reading.key data) dictionary) key =
      if (dictionary, key) = (reading.dictionary, reading.key) then some data
      else (info dictionary).get? key := by
  by_cases sameDictionary : dictionary = reading.dictionary
  · subst sameDictionary
    rw [Function.update_self]
    by_cases sameKey : key = reading.key
    · subst sameKey
      rw [if_pos rfl, Fields.get?_set_self]
    · rw [if_neg fun same => sameKey (Prod.ext_iff.mp same).2,
        Fields.get?_set_of_ne _ sameKey]
  · rw [Function.update_of_ne sameDictionary,
      if_neg fun same => sameDictionary (Prod.ext_iff.mp same).1]

private theorem foldlM_addReading {rest : List Reading} {info after : Info}
    (distinct : (rest.map fun reading => (reading.dictionary, reading.key)).Nodup)
    (collected : rest.foldlM (addReading load path texts) info = .ok after) :
    (∀ reading ∈ rest, ∃ data, Loads load texts reading data ∧
      (after reading.dictionary).get? reading.key = some data) ∧
    ∀ dictionary key, (dictionary, key) ∉
        rest.map (fun reading => (reading.dictionary, reading.key)) →
      (after dictionary).get? key = (info dictionary).get? key := by
  induction rest generalizing info with
  | nil =>
      cases collected
      exact ⟨fun reading member => absurd member List.not_mem_nil, fun _ _ _ => rfl⟩
  | cons reading rest induction =>
      rw [List.foldlM_cons] at collected
      obtain ⟨middle, added, later⟩ := exists_of_bind_eq_ok collected
      obtain ⟨data, loads, rfl⟩ := addReading_ok_iff.mp added
      rw [List.map_cons, List.nodup_cons] at distinct
      obtain ⟨held, unchanged⟩ := induction distinct.2 later
      constructor
      · intro other member
        obtain rfl | inRest := List.mem_cons.mp member
        · refine ⟨data, loads, ?_⟩
          rw [unchanged _ _ distinct.1, get?_update_set, if_pos rfl]
        · exact held other inRest
      · intro dictionary key absent
        rw [List.map_cons, List.mem_cons, not_or] at absent
        rw [unchanged _ _ absent.2, get?_update_set, if_neg absent.1]

private theorem exists_foldlM_addReading (path : Source → Text) {rest : List Reading}
    (loads : ∀ reading ∈ rest, ∃ data, Loads load texts reading data) (info : Info) :
    ∃ after, rest.foldlM (addReading load path texts) info = .ok after := by
  induction rest generalizing info with
  | nil => exact ⟨info, rfl⟩
  | cons reading rest induction =>
      obtain ⟨⟨data, here⟩, later⟩ := List.forall_mem_cons.mp loads
      rw [List.foldlM_cons, addReading_ok_iff.mpr ⟨data, here, rfl⟩]
      exact induction later _

private theorem readings_distinct (isK8s : Bool) :
    ((readings isK8s).map fun reading => (reading.dictionary, reading.key)).Nodup := by
  cases isK8s <;> decide +kernel

theorem collectFrom_ok {measurement : Measurement} {isK8s : Bool} {cloudInfo runUrl : Text}
    {row : Row} (collected : collectFrom load convertTimestamp path texts measurement isK8s
      cloudInfo runUrl = .ok row) :
    RowOf load convertTimestamp measurement isK8s texts row := by
  unfold collectFrom at collected
  cases found : texts (.step .iperf3) with
  | none =>
      rw [found] at collected
      cases collected
  | some iperf3Result =>
      rw [found] at collected
      cases iperf3Result with
      | nil => cases collected
      | cons head tail =>
          obtain ⟨resultInfo, parsed, later⟩ := exists_of_bind_eq_ok collected
          obtain ⟨info, filled, made⟩ := exists_of_bind_eq_ok later
          cases made
          obtain ⟨held, -⟩ := foldlM_addReading (readings_distinct isK8s) filled
          refine ⟨rfl, found, List.cons_ne_nil head tail, parsed, ?_⟩
          intro reading member
          obtain ⟨data, ⟨text, present, loaded⟩, entry⟩ := held reading member
          exact ⟨text, data, present, loaded, entry⟩

private theorem exists_row {measurement : Measurement} {isK8s : Bool} (cloudInfo runUrl : Text)
    {iperf3Result : Text} {resultInfo : ResultInfo}
    (found : texts (.step .iperf3) = some iperf3Result) (nonempty : iperf3Result ≠ [])
    (parsed : parseResult load convertTimestamp measurement.protocol iperf3Result =
      .ok resultInfo)
    (loads : ∀ reading ∈ readings isK8s, ∃ data, Loads load texts reading data) :
    ∃ row, collectFrom load convertTimestamp path texts measurement isK8s cloudInfo runUrl =
      .ok row := by
  obtain ⟨info, filled⟩ := exists_foldlM_addReading path loads fun _ => []
  unfold collectFrom
  rw [found]
  cases iperf3Result with
  | nil => exact absurd rfl nonempty
  | cons head tail =>
      simp only [parsed, filled, bind, Except.bind]
      exact ⟨_, rfl⟩

end Rows

/-! ## Rows after all runs -/

/-- The texts that a measurement's row should be made of: the outputs of its own run, those
about the machines from the last run, and the pods and nodes. -/
def ownTexts (resultDir : Text) (dump : Json → Text) (base : Session)
    (outputs : Measurement → Step → Text) (last : Measurement) (infos : Role → List Json)
    (measurement : Measurement) : Source → Option Text
  | .step (.osInfo metric role) =>
      ((Step.osInfo metric role).content dump (outputs last (.osInfo metric role))).toOption
  | .step step => some (outputs measurement step)
  | .podNodeInfo role =>
      if infos role = [] then base.files.get? (podNodeInfoFile resultDir role)
      else some (dump (.arr (infos role)))

section Rows

variable {resultDir : Text} {dump : Json → Text}

theorem savePodNodeInfo_of_ne {role : Role} {path : Text}
    (different : path ≠ podNodeInfoFile resultDir role) (infos : List Json)
    (files : Store Text Text) :
    (savePodNodeInfo resultDir dump role infos files).get? path = files.get? path := by
  unfold savePodNodeInfo
  split
  · rfl
  · exact files.get?_put_of_ne different _

theorem savePodNodeInfo_self (role : Role) (infos : List Json) (files : Store Text Text) :
    (savePodNodeInfo resultDir dump role infos files).get? (podNodeInfoFile resultDir role) =
      if infos = [] then files.get? (podNodeInfoFile resultDir role)
      else some (dump (.arr infos)) := by
  unfold savePodNodeInfo
  split
  · rfl
  · exact files.get?_put_self _ _

theorem podNodeInfoFile_ne (measurement : Measurement) {source : Source} {role : Role}
    (different : source ≠ .podNodeInfo role) :
    source.path resultDir measurement ≠ podNodeInfoFile resultDir role := by
  intro same
  exact different (path_injective measurement measurement source (.podNodeInfo role) same).1

private theorem get?_collectPodNodeInfo (infos : Role → List Json) (files : Store Text Text)
    (measurement : Measurement) (source : Source) :
    (collectPodNodeInfo resultDir dump infos files).get? (source.path resultDir measurement) =
      match source with
      | .podNodeInfo role =>
          if infos role = [] then files.get? (podNodeInfoFile resultDir role)
          else some (dump (.arr (infos role)))
      | .step step => files.get? ((Source.step step).path resultDir measurement) := by
  unfold collectPodNodeInfo
  cases source with
  | step step =>
      have stepPath (role : Role) : (Source.step step).path resultDir measurement ≠
          podNodeInfoFile resultDir role := podNodeInfoFile_ne measurement nofun
      rw [savePodNodeInfo_of_ne (stepPath .server), savePodNodeInfo_of_ne (stepPath .client)]
  | podNodeInfo role =>
      have clientPath : (Source.podNodeInfo .client).path resultDir measurement ≠
          podNodeInfoFile resultDir .server := podNodeInfoFile_ne measurement nofun
      have serverPath : (Source.podNodeInfo .server).path resultDir measurement ≠
          podNodeInfoFile resultDir .client := podNodeInfoFile_ne measurement nofun
      cases role with
      | client =>
          rw [savePodNodeInfo_of_ne clientPath]
          exact savePodNodeInfo_self .client _ _
      | server =>
          refine (savePodNodeInfo_self .server _ _).trans ?_
          rw [show podNodeInfoFile resultDir .server =
            (Source.podNodeInfo .server).path resultDir measurement from rfl,
            savePodNodeInfo_of_ne serverPath]
          rfl

theorem Executed.texts {base after : Session} {outputs : Measurement → Step → Text}
    {measurements : List Measurement} {last measurement : Measurement}
    (executed : Executed resultDir dump base outputs measurements after)
    (isLast : last ∈ measurements.getLast?) (member : measurement ∈ measurements)
    (infos : Role → List Json) (source : Source) :
    (collectPodNodeInfo resultDir dump infos after.files).get?
        (source.path resultDir measurement) =
      ownTexts resultDir dump base outputs last infos measurement source := by
  rw [get?_collectPodNodeInfo]
  have own := executed.own measurement member
  cases source with
  | podNodeInfo role => rw [ownTexts, ← executed.others role]
  | step step =>
      cases step with
      | counter kind role stage => exact own.counters kind role stage
      | iperf3 => exact own.result
      | osInfo metric role =>
          obtain ⟨text, content, present⟩ := executed.latest last isLast metric role
          rw [ownTexts, content]
          exact present

end Rows

/-- After runs with different indices and different parameters that all succeed, and the
collection of the pods and nodes, the row of each measurement is made of what its own last
attempt has put out: its iperf3 and the counters before and after it.  The files about the
machines have no index, so there the last measurement is read in every row.  No file is
missing where pods were found. -/
theorem rows_are_of_own_runs (config : Config) (resultDir : Text) (dump : Json → Text)
    (load : Text → Except Error Json) (convertTimestamp : Json → Except Error Text)
    (processes : Nat → Process) (measurements : List Measurement)
    (indices : (measurements.map Measurement.index).Nodup)
    (parameters : (measurements.map Measurement.parameters).Nodup) (base after : Session)
    (returned : executeAll config resultDir dump processes measurements base = .ok () after)
    (infos : Role → List Json) :
    ∃ outputs, ∀ measurement ∈ measurements, ∀ last ∈ measurements.getLast?,
      (∃ earlier later, after.log =
        earlier ++ benchmarkSteps.map (record measurement (outputs measurement)) ++ later) ∧
      let texts := ownTexts resultDir dump base outputs last infos measurement
      ((∀ role, infos role ≠ []) → ∀ source, (texts source).isSome = true) ∧
      ∀ isK8s cloudInfo runUrl,
        let collected := collectIperf3 load convertTimestamp resultDir
          (collectPodNodeInfo resultDir dump infos after.files) measurement isK8s cloudInfo
          runUrl
        (∀ row, collected = .ok row →
          RowOf load convertTimestamp measurement isK8s texts row) ∧
        ((∃ row, collected = .ok row) ↔ outputs measurement .iperf3 ≠ [] ∧
          (∃ resultInfo, parseResult load convertTimestamp measurement.protocol
            (outputs measurement .iperf3) = .ok resultInfo) ∧
          ∀ reading ∈ readings isK8s, ∃ data, Loads load texts reading data) := by
  have started : Executed resultDir dump base (fun _ _ => []) [] base :=
    ⟨fun _ member => absurd member List.not_mem_nil, fun _ isLast => (nomatch isLast),
      fun _ => rfl⟩
  obtain ⟨outputs, executed⟩ := executeAll_ok started indices parameters returned
  refine ⟨outputs, ?_⟩
  intro measurement member last isLast
  have texts : (fun source : Source =>
      (collectPodNodeInfo resultDir dump infos after.files).get?
        (source.path resultDir measurement)) =
      ownTexts resultDir dump base outputs last infos measurement := by
    funext source
    exact executed.texts isLast member infos source
  refine ⟨(executed.own measurement member).logged, ?_, ?_⟩
  · intro found source
    cases source with
    | podNodeInfo role => simp only [ownTexts, if_neg (found role), Option.isSome_some]
    | step step =>
        cases step with
        | counter kind role stage => rfl
        | iperf3 => rfl
        | osInfo metric role =>
            obtain ⟨text, content, -⟩ := executed.latest last isLast metric role
            simp only [ownTexts, content, Except.toOption, Option.isSome_some]
  · intro isK8s cloudInfo runUrl collected
    have fromOwn : collected = collectFrom load convertTimestamp
        (Source.path resultDir measurement)
        (ownTexts resultDir dump base outputs last infos measurement) measurement isK8s
        cloudInfo runUrl := by
      rw [← texts]
      rfl
    rw [fromOwn]
    refine ⟨fun row => collectFrom_ok, ?_⟩
    constructor
    · rintro ⟨row, made⟩
      have rowOf := collectFrom_ok made
      have raw : outputs measurement .iperf3 = row.rawData := Option.some.inj rowOf.rawData
      rw [raw]
      refine ⟨rowOf.nonempty, ⟨row.resultInfo, rowOf.resultInfo⟩, ?_⟩
      intro reading inReadings
      obtain ⟨text, data, present, loaded, -⟩ := rowOf.entries reading inReadings
      exact ⟨data, text, present, loaded⟩
    · rintro ⟨nonempty, ⟨resultInfo, parsed⟩, loads⟩
      exact exists_row cloudInfo runUrl rfl nonempty parsed loads

/-- The settings of an `Iperf3Pod`. -/
def iperf3Config (clientContext serverContext : Context) (space : Text) : Config where
  clientLabelSelector := lit "app=iperf3-client"
  serverLabelSelector := lit "app=iperf3-server"
  clientContainer := lit "iperf3-client"
  serverContainer := lit "iperf3-server"
  clientContext := clientContext
  serverContext := serverContext
  validateCommand := lit "iperf3 --version"
  serviceName := lit "iperf3-server"
  «namespace» := space

/-! Two measurements.  Every command puts out a number, except that each iperf3 puts out
what it measured; the first attempt of the first measurement finds no cluster. -/

def tcpOutput : Text :=
  lit "\x7b\"start\": \x7b\"timestamp\": \x7b\"timesecs\": 0\x7d\x7d, " ++
    lit "\"intervals\": [\x7b\"streams\": [\x7b\"rtt\": 250\x7d]\x7d]\x7d"

def udpOutput : Text :=
  lit "\x7b\"start\": \x7b\"timestamp\": \x7b\"timesecs\": 0\x7d\x7d, " ++
    lit "\"end\": \x7b\"sum\": \x7b\"bits_per_second\": 4000000\x7d\x7d\x7d"

def startJson : Text × Json :=
  (lit "start", .obj [(lit "timestamp", .obj [(lit "timesecs", .num 0)])])

def tcpJson : Json :=
  .obj [startJson,
    (lit "intervals", .arr [.obj [(lit "streams", .arr [.obj [(lit "rtt", .num 250)]])]])]

def udpJson : Json :=
  .obj [startJson,
    (lit "end", .obj [(lit "sum", .obj [(lit "bits_per_second", .num 4000000)])])]

/-- `json.load` on the two results, on numbers and on a list of one line. -/
def loadOutput (text : Text) : Except Error Json :=
  if text = tcpOutput then .ok tcpJson
  else if text = udpOutput then .ok udpJson
  else
    match parseInteger? text with
    | some value => .ok (.num value)
    | none => .ok (.arr [.str (text.drop 2).dropLast.dropLast])

/-- `json.dump` of a list of one line. -/
def dumpLine : Json → Text
  | .arr [.str line] => lit "[\"" ++ line ++ lit "\"]"
  | _ => lit "[]"

def epochStamp (_ : Json) : Except Error Text := .ok (lit "1970-01-01T00:00:00Z")

def processWith (iperf3At : Nat) (iperf3Output : Text) (offset : Nat)
    (podFault : Nat → Bool) : Process where
  world :=
    { switch := fun _ => none
      pods := fun interaction =>
        if podFault interaction then .error ⟨.external, lit "no route to host"⟩
        else .ok [⟨lit "iperf3", some (lit "10.0.0.1"), none⟩]
      service := fun _ => .ok none
      execution := fun interaction =>
        .ok (if interaction = iperf3At then iperf3Output else natText (offset + interaction))
      other := fun _ => .ok () }
  context := none
  leftover _ := none

def twoProcesses : Nat → Process
  | 0 => processWith 15 tcpOutput 100 fun interaction => interaction = 1
  | _ => processWith 13 udpOutput 200 fun _ => false

def tcpMeasurement : Measurement where
  index := 1
  protocol := .tcp
  bandwidth := 1000
  parallel := 1
  iperfCommand := lit "--time 60"
  datapath := lit "direct"
  serverIpType := lit "pod"

def udpMeasurement : Measurement :=
  { tcpMeasurement with index := 2, protocol := .udp }

def emptySession : Session where
  client := initialState none
  files := Store.empty
  log := []

def executeTwo : EStateM Error Session Unit :=
  executeAll (iperf3Config none none (lit "default")) (lit "results") dumpLine twoProcesses
    [tcpMeasurement, udpMeasurement]

def twoRuns : Session := leftBy executeTwo emptySession

def onePod (_ : Role) : List Json := [.str (lit "iperf3")]

def rowAfterTwoRuns (measurement : Measurement) : Except Error Row :=
  collectIperf3 loadOutput epochStamp (lit "results")
    (collectPodNodeInfo (lit "results") dumpLine onePod twoRuns.files) measurement true
    (lit "azure") (lit "run")

def succeeds (program : EStateM Error Session Unit) (session : Session) : Bool :=
  match program session with
  | .ok _ _ => true
  | .error _ _ => false

private theorem eq_ok_of_succeeds {program : EStateM Error Session Unit} {session : Session}
    (returns : succeeds program session = true) :
    program session = .ok () (leftBy program session) := by
  unfold succeeds at returns
  unfold leftBy
  cases outcome : program session with
  | ok value after => rfl
  | error error after =>
      rw [outcome] at returns
      cases returns

private theorem executeTwo_succeeds : succeeds executeTwo emptySession = true := by
  decide +kernel

/-- The line of a list of one line. -/
def lineOf : Json → Option Text
  | .arr [.str line] => some line
  | _ => none

/-- What the row of a measurement says of its own run and of the machines. -/
def Row.excerpt (row : Row) : Text × Option Text :=
  (row.rawData, (Fields.get? (row.info .os) (lit "client_lspci_info")).bind lineOf)

private theorem rowsAfterTwoRuns :
    [tcpMeasurement, udpMeasurement].map (fun measurement =>
      (rowAfterTwoRuns measurement).toOption.map Row.excerpt) =
        [some (tcpOutput, some (lit "227")), some (udpOutput, some (lit "227"))] := by
  decide +kernel

/-- Both rows exist, each with the output of its own iperf3; the machines are those that
the last measurement found. -/
theorem rows_of_twoRuns : ∃ outputs : Measurement → Step → Text,
    ∀ measurement ∈ [tcpMeasurement, udpMeasurement], ∃ row,
      rowAfterTwoRuns measurement = .ok row ∧
      RowOf loadOutput epochStamp measurement true
        (ownTexts (lit "results") dumpLine emptySession outputs udpMeasurement onePod
          measurement) row ∧
      row.excerpt = (if measurement = tcpMeasurement then tcpOutput else udpOutput,
        some (lit "227")) := by
  obtain ⟨outputs, rows⟩ := rows_are_of_own_runs (iperf3Config none none (lit "default"))
    (lit "results") dumpLine loadOutput epochStamp twoProcesses
    [tcpMeasurement, udpMeasurement] (by decide) (by decide) emptySession twoRuns
    (eq_ok_of_succeeds executeTwo_succeeds) onePod
  refine ⟨outputs, ?_⟩
  intro measurement member
  obtain ⟨-, -, collected⟩ := rows measurement member udpMeasurement rfl
  have excerpts : (rowAfterTwoRuns measurement).toOption.map Row.excerpt =
      some (if measurement = tcpMeasurement then tcpOutput else udpOutput,
        some (lit "227")) := by
    obtain ⟨tcp, udp⟩ := List.cons.inj rowsAfterTwoRuns
    rcases List.mem_pair.mp member with rfl | rfl
    · exact tcp
    · exact (List.cons.inj udp).1
  cases made : rowAfterTwoRuns measurement with
  | error error =>
      rw [made] at excerpts
      exact nomatch excerpts
  | ok row =>
      rw [made] at excerpts
      exact ⟨row, rfl, (collected true (lit "azure") (lit "run")).1 row made,
        Option.some.inj excerpts⟩

end Telescope.Iperf3
