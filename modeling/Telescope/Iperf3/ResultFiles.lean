import Telescope.Clients.PodCommand
import Telescope.Data.Json
import Telescope.Data.Contract
import Telescope.Data.Store
import Telescope.Text.CharClass
import Telescope.Text.Lines
import Telescope.Text.PrefixCode

namespace Telescope.Iperf3

open Telescope Telescope.Clients

/-! The files through which the runs of `run_benchmark` reach `collect_iperf3`. -/

inductive Protocol where
  | tcp
  | udp
  deriving DecidableEq

def Protocol.text : Protocol → Text
  | .tcp => lit "tcp"
  | .udp => lit "udp"

/-- One entry of the pipeline's `iperf_properties`. -/
structure Measurement where
  index : Int
  protocol : Protocol
  bandwidth : Int
  parallel : Int
  iperfCommand : Text
  /-- Part of a file name. -/
  datapath : Text
  serverIpType : Text
  deriving DecidableEq

def Measurement.parameters (measurement : Measurement) : Protocol × Int × Int × Text :=
  (measurement.protocol, measurement.bandwidth, measurement.parallel, measurement.datapath)

inductive Counter where
  | netstat
  | ipLink
  deriving DecidableEq

inductive Stage where
  | before
  | after
  deriving DecidableEq

inductive OsMetric where
  | lscpu
  | lspci
  deriving DecidableEq

/-- A step of `run_benchmark`. -/
inductive Step where
  | counter (counter : Counter) (role : Role) (stage : Stage)
  | iperf3
  | osInfo (metric : OsMetric) (role : Role)
  deriving DecidableEq

def roleText : Role → Text
  | .client => lit "client"
  | .server => lit "server"

def Counter.text : Counter → Text
  | .netstat => lit "netstat"
  | .ipLink => lit "ip-link"

def Counter.command : Counter → Text
  | .netstat => lit "netstat -s -u | jq -R -s 'split(\"\n\")'"
  | .ipLink => lit "ip -j -s link show"

def Stage.text : Stage → Text
  | .before => lit "before-execute"
  | .after => lit "after-execute"

def OsMetric.text : OsMetric → Text
  | .lscpu => lit "lscpu"
  | .lspci => lit "lspci"

def OsMetric.command : OsMetric → Text
  | .lscpu => lit "lscpu --json"
  | .lspci => lit "lspci && lsb_release -a"

/-! ## File names -/

def createResultFileName (resultDir : Text) (measurement : Measurement) : Text :=
  resultDir ++ lit "/iperf3-" ++ measurement.protocol.text ++ lit "-" ++
    intText measurement.bandwidth ++ lit "-" ++ intText measurement.parallel ++ lit "-" ++
    measurement.datapath ++ lit ".json"

def counterFile (resultDir : Text) (role : Role) (counter : Counter) (stage : Stage)
    (index : Int) : Text :=
  resultDir ++ lit "/" ++ roleText role ++ lit "-" ++ counter.text ++ lit "-" ++ stage.text ++
    lit "-" ++ intText index ++ lit ".json"

def osInfoFile (resultDir : Text) (role : Role) (metric : OsMetric) : Text :=
  resultDir ++ lit "/" ++ roleText role ++ lit "-" ++ metric.text ++ lit ".json"

def podNodeInfoFile (resultDir : Text) (role : Role) : Text :=
  resultDir ++ lit "/" ++ roleText role ++ lit "_pod_node_info.json"

/-- What a collected file is about. -/
inductive Source where
  | step (step : Step)
  | podNodeInfo (role : Role)
  deriving DecidableEq

def Source.path (resultDir : Text) (measurement : Measurement) : Source → Text
  | .step (.counter counter role stage) =>
      counterFile resultDir role counter stage measurement.index
  | .step .iperf3 => createResultFileName resultDir measurement
  | .step (.osInfo metric role) => osInfoFile resultDir role metric
  | .podNodeInfo role => podNodeInfoFile resultDir role

/-- The part of a file's name that tells which source it is of. -/
def Source.code (protocol : Protocol) : Source → Text
  | .step (.counter counter role stage) =>
      roleText role ++ lit "-" ++ counter.text ++ lit "-" ++ stage.text ++ lit "-"
  | .step .iperf3 => lit "iperf3-" ++ protocol.text ++ lit "-"
  | .step (.osInfo metric role) => roleText role ++ lit "-" ++ metric.text ++ lit ".json"
  | .podNodeInfo role => roleText role ++ lit "_pod_node_info.json"

def Source.rest (measurement : Measurement) : Source → Text
  | .step (.counter _ _ _) => intText measurement.index ++ lit ".json"
  | .step .iperf3 =>
      intText measurement.bandwidth ++ '-' :: (intText measurement.parallel ++
        '-' :: (measurement.datapath ++ lit ".json"))
  | .step (.osInfo _ _) => []
  | .podNodeInfo _ => []

def sources : List Source :=
  [.podNodeInfo .client, .podNodeInfo .server, .step .iperf3] ++
    [Role.client, .server].flatMap fun role =>
      [.step (.osInfo .lscpu role), .step (.osInfo .lspci role),
        .step (.counter .netstat role .before), .step (.counter .netstat role .after),
        .step (.counter .ipLink role .before), .step (.counter .ipLink role .after)]

theorem mem_sources (source : Source) : source ∈ sources := by
  rcases source with (⟨counter, role, stage⟩ | _ | ⟨metric, role⟩) | role
  · cases counter <;> cases role <;> cases stage <;> decide
  · decide
  · cases metric <;> cases role <;> decide
  · cases role <;> decide

def codes : List Text :=
  sources.map (Source.code .tcp) ++ [Source.code .udp (.step .iperf3)]

private theorem codes_prefixFree : PrefixFree codes := by decide +kernel

theorem path_eq (resultDir : Text) (measurement : Measurement) (source : Source) :
    source.path resultDir measurement =
      resultDir ++ '/' :: (source.code measurement.protocol ++ source.rest measurement) := by
  have slash : lit "/" = ['/'] := lit_ofList ['/']
  have dash : lit "-" = ['-'] := lit_ofList ['-']
  have iperf : lit "/iperf3-" = '/' :: lit "iperf3-" := by decide
  rcases source with (⟨counter, role, stage⟩ | _ | ⟨metric, role⟩) | role
  · simp only [Source.path, counterFile, Source.code, Source.rest, slash, List.append_assoc,
      List.cons_append, List.nil_append]
  · simp only [Source.path, createResultFileName, Source.code, Source.rest, iperf, dash,
      List.append_assoc, List.cons_append, List.nil_append]
  · simp only [Source.path, osInfoFile, Source.code, Source.rest, slash, List.append_assoc,
      List.cons_append, List.nil_append, List.append_nil]
  · simp only [Source.path, podNodeInfoFile, Source.code, Source.rest, slash,
      List.append_assoc, List.cons_append, List.nil_append, List.append_nil]

theorem code_mem_codes (protocol : Protocol) (source : Source) :
    source.code protocol ∈ codes := by
  by_cases same : source = .step .iperf3
  · subst same
    cases protocol <;> decide
  · have unchanged : source.code protocol = source.code .tcp := by
      rcases source with (⟨counter, role, stage⟩ | _ | ⟨metric, role⟩) | role
      · rfl
      · exact absurd rfl same
      · rfl
      · rfl
    rw [unchanged]
    exact List.mem_append_left _ (List.mem_map_of_mem (mem_sources source))

private theorem code_injective (protocol other : Protocol) {first second : Source}
    (same : first.code protocol = second.code other) :
    first = second ∧ (first = .step .iperf3 → protocol = other) := by
  revert same
  have all : ∀ protocol ∈ [Protocol.tcp, .udp], ∀ other ∈ [Protocol.tcp, .udp],
      ∀ first ∈ sources, ∀ second ∈ sources, first.code protocol = second.code other →
        first = second ∧ (first = .step .iperf3 → protocol = other) := by
    decide +kernel
  have both (protocol : Protocol) : protocol ∈ [Protocol.tcp, .udp] := by
    cases protocol <;> decide
  exact all protocol (both protocol) other (both other) first (mem_sources first) second
    (mem_sources second)

/-- Two measurements share a file only where they agree on what its name says. -/
structure SameFile (first second : Measurement) (source : Source) : Prop where
  index : ∀ counter role stage, source = .step (.counter counter role stage) →
    first.index = second.index
  parameters : source = .step .iperf3 → first.parameters = second.parameters

theorem path_injective {resultDir : Text} (first second : Measurement)
    (source other : Source)
    (same : source.path resultDir first = other.path resultDir second) :
    source = other ∧ SameFile first second source := by
  rw [path_eq, path_eq] at same
  have names := (List.cons.inj (List.append_cancel_left same)).2
  obtain ⟨codesSame, rests⟩ := codes_prefixFree.eq_of_append_eq
    (code_mem_codes first.protocol source) (code_mem_codes second.protocol other) names
  obtain ⟨rfl, protocols⟩ := code_injective _ _ codesSame
  refine ⟨rfl, ?_, ?_⟩
  · rintro counter role stage rfl
    exact intText_injective (List.append_cancel_right rests)
  · rintro rfl
    obtain ⟨bandwidths, rests⟩ := intText_append_dash_inj rests
    obtain ⟨parallels, rests⟩ := intText_append_dash_inj rests
    have datapaths := List.append_cancel_right rests
    rw [Measurement.parameters, protocols rfl, bandwidths, parallels, datapaths]
    rfl

/-! ## Running the benchmarks -/

/-- A step that has returned, with the output of its command. -/
structure Finished where
  measurement : Measurement
  step : Step
  output : Text

structure Session where
  client : State
  files : Store Text Text
  log : List Finished

/-- What one process meets: its interactions with the clusters, the current context of its
kubeconfig, and what a command that fails leaves of its result file. -/
structure Process where
  world : World
  context : Context
  leftover : Nat → Option Text

section Benchmark

-- `dump` is `json.dump`.
variable (config : Config) (resultDir : Text) (dump : Json → Text)

def Step.call (world : World) (measurement : Measurement) : Step → Clients.Program Text
  | .counter kind role _ =>
      runCommandForRole config world (roleText role) kind.command
  | .iperf3 =>
      runIperf3 config world measurement.iperfCommand measurement.serverIpType
  | .osInfo metric role =>
      runCommandForRole config world (roleText role) metric.command

/-- What a step writes when its command has returned. -/
def Step.content (step : Step) (output : Text) : Except Error Text :=
  match step with
  | .osInfo .lspci _ =>
      if output = [] then
        .error (.runtimeError (lit "Error running lspci command. No result found."))
      else .ok (dump (.arr ((splitLines output).map .str)))
  | _ => .ok output

def leave (files : Store Text Text) (path : Text) : Option Text → Store Text Text
  | some text => files.put path text
  | none => files

def Step.run (process : Process) (measurement : Measurement) (step : Step) :
    EStateM Error Session Unit := fun session =>
  let path := (Source.step step).path resultDir measurement
  match step.call config process.world measurement session.client with
  | .error error client =>
      .error error
        { session with
          client := client
          files := leave session.files path (process.leftover client.interactions) }
  | .ok output client =>
      match step.content dump output with
      | .error error => .error error { session with client := client }
      | .ok text =>
          .ok ()
            { client := client
              files := session.files.put path text
              log := session.log ++ [⟨measurement, step, output⟩] }

/-- The steps of `run_benchmark`, in order. -/
def benchmarkSteps : List Step :=
  [.counter .netstat .client .before, .counter .netstat .server .before,
    .counter .ipLink .client .before, .counter .ipLink .server .before,
    .iperf3,
    .counter .netstat .client .after, .counter .netstat .server .after,
    .counter .ipLink .client .after, .counter .ipLink .server .after,
    .osInfo .lscpu .client, .osInfo .lscpu .server,
    .osInfo .lspci .client, .osInfo .lspci .server]

def runSteps (process : Process) (measurement : Measurement) :
    List Step → EStateM Error Session Unit
  | [] => pure ()
  | step :: rest => do
      step.run config resultDir dump process measurement
      runSteps process measurement rest

def runBenchmark (process : Process) (measurement : Measurement) :
    EStateM Error Session Unit :=
  runSteps config resultDir dump process measurement benchmarkSteps

/-- `re.search(rf"--{parameter_name}\s+(\d+)", command)` -/
def extractParameter (command parameterName : Text) : Except Error (Option Nat) :=
  let pattern : Regex := .seq (.literal (lit "--" ++ parameterName))
    (.seq (Regex.many1 isSpace) (.group (Regex.many1 isDecimal)))
  match pattern.search command with
  | some ⟨digits :: _, _⟩ =>
      match parseInt? digits with
      | some value => .ok (some value)
      | none => .error (.valueError (lit "Exceeds the limit for integer string conversion"))
  | _ => .ok none

/-- The backoff of the retries; a duration of zero counts as none. -/
def backoffTime (duration : Option Nat) : Nat :=
  match duration with
  | none => 10
  | some duration => if duration = 0 then 10 else duration + 10

/-- `main` with the action `run_benchmark`, in a process of its own. -/
def mainRunBenchmark (process : Process) (measurement : Measurement) :
    EStateM Error Session Unit := do
  modify fun session => { session with client := initialState process.context }
  match extractParameter measurement.iperfCommand (lit "time") with
  | .error error => throw error
  | .ok duration =>
      retrying (backoffTime duration) 2
        (runBenchmark config resultDir dump process measurement)

/-- The pipeline's steps, each of which runs when the ones before it have succeeded. -/
def executeAll (processes : Nat → Process) :
    List Measurement → EStateM Error Session Unit
  | [] => pure ()
  | measurement :: rest => do
      mainRunBenchmark config resultDir dump (processes 0) measurement
      executeAll (fun index => processes (index + 1)) rest

end Benchmark

/-! ## What a run of the benchmark leaves -/

section Runs

variable {config : Config} {resultDir : Text} {dump : Json → Text}

def record (measurement : Measurement) (outputs : Step → Text) (step : Step) : Finished :=
  ⟨measurement, step, outputs step⟩

/-- The steps of one measurement write their own files only. -/
structure Extends (resultDir : Text) (measurement : Measurement) (base session : Session) :
    Prop where
  log : ∃ more, session.log = base.log ++ more
  files : ∀ path, (∀ step, path ≠ (Source.step step).path resultDir measurement) →
    session.files.get? path = base.files.get? path

/-- The last steps that have returned are the given ones, with their outputs in their
files. -/
structure Progress (resultDir : Text) (dump : Json → Text) (measurement : Measurement)
    (outputs : Step → Text) (done : List Step) (session : Session) : Prop where
  log : ∃ earlier, session.log = earlier ++ done.map (record measurement outputs)
  stored : ∀ step ∈ done, ∃ text, step.content dump (outputs step) = .ok text ∧
    session.files.get? ((Source.step step).path resultDir measurement) = some text

def Reached (resultDir : Text) (dump : Json → Text) (measurement : Measurement)
    (base : Session) (done : List Step) (session : Session) : Prop :=
  Extends resultDir measurement base session ∧
    ∃ outputs, Progress resultDir dump measurement outputs done session

private theorem stepPath_injective {measurement : Measurement} {first second : Step}
    (same : (Source.step first).path resultDir measurement =
      (Source.step second).path resultDir measurement) : first = second :=
  Source.step.inj (path_injective measurement measurement _ _ same).1

theorem Extends.put {measurement : Measurement} {base session : Session}
    (extended : Extends resultDir measurement base session) (step : Step) (text : Text)
    (client : State) (more : List Finished) :
    Extends resultDir measurement base
      { client := client
        files := session.files.put ((Source.step step).path resultDir measurement) text
        log := session.log ++ more } where
  log := by
    obtain ⟨earlier, split⟩ := extended.log
    exact ⟨earlier ++ more, by rw [split, List.append_assoc]⟩
  files path foreign := by
    rw [session.files.get?_put_of_ne (foreign step)]
    exact extended.files path foreign

theorem Extends.left {measurement : Measurement} {base session : Session}
    (extended : Extends resultDir measurement base session) (step : Step) (client : State)
    (leftover : Option Text) :
    Extends resultDir measurement base
      { session with
        client := client
        files := leave session.files ((Source.step step).path resultDir measurement)
          leftover } := by
  cases leftover with
  | none => exact ⟨extended.log, extended.files⟩
  | some text =>
      have put := extended.put step text client []
      rw [List.append_nil] at put
      exact put

variable (config resultDir dump) in
/-- What one step does, whatever comes of its command. -/
theorem run_cases (process : Process) (measurement : Measurement) (step : Step)
    (session : Session) :
    (∃ error client leftover,
        step.run config resultDir dump process measurement session =
          .error error
            { session with
              client := client
              files := leave session.files ((Source.step step).path resultDir measurement)
                leftover }) ∨
      ∃ output text client, step.content dump output = .ok text ∧
        step.run config resultDir dump process measurement session =
          .ok ()
            { client := client
              files := session.files.put ((Source.step step).path resultDir measurement) text
              log := session.log ++ [⟨measurement, step, output⟩] } := by
  unfold Step.run
  rcases called : step.call config process.world measurement session.client with
    ⟨output, client⟩ | ⟨error, client⟩
  · cases written : step.content dump output with
    | error error =>
        refine .inl ⟨error, client, none, ?_⟩
        simp only [written, leave]
    | ok text =>
        refine .inr ⟨output, text, client, written, ?_⟩
        simp only [written]
  · exact .inl ⟨error, client, _, rfl⟩

private theorem run_meets (process : Process) {measurement : Measurement} {base : Session}
    {done : List Step} {step : Step} (fresh : step ∉ done) :
    Meets (Reached resultDir dump measurement base done)
      (step.run config resultDir dump process measurement)
      (fun _ => Reached resultDir dump measurement base (done ++ [step]))
      (Extends resultDir measurement base) := by
  rintro session ⟨extended, outputs, progress⟩
  rcases run_cases config resultDir dump process measurement step session with
    ⟨error, client, leftover, ran⟩ | ⟨output, text, client, written, ran⟩
  · rw [ran]
    exact extended.left step client leftover
  · rw [ran]
    let updated : Step → Text := Function.update outputs step output
    have unchanged : ∀ other ∈ done, updated other = outputs other := fun other member =>
      Function.update_of_ne (fun same : other = step => fresh (same ▸ member)) _ _
    have own : updated step = output := Function.update_self step output outputs
    refine ⟨extended.put step text client _, updated, ?_, ?_⟩
    · obtain ⟨earlier, split⟩ := progress.log
      refine ⟨earlier, ?_⟩
      have same : done.map (record measurement updated) =
          done.map (record measurement outputs) :=
        List.map_congr_left fun other member => by rw [record, unchanged other member]; rfl
      rw [split, List.map_append, same, List.append_assoc, List.map_singleton, record, own]
    · intro other member
      rcases List.mem_append.mp member with earlier | here
      · obtain ⟨content, readable, present⟩ := progress.stored other earlier
        refine ⟨content, by rw [unchanged other earlier]; exact readable, ?_⟩
        have different : (Source.step other).path resultDir measurement ≠
            (Source.step step).path resultDir measurement := fun same =>
          fresh (stepPath_injective same ▸ earlier)
        rw [session.files.get?_put_of_ne different]
        exact present
      · obtain rfl := List.mem_singleton.mp here
        exact ⟨text, by rw [own]; exact written, session.files.get?_put_self _ _⟩

variable (config resultDir dump) in
private theorem runSteps_meets (process : Process) (measurement : Measurement) (base : Session)
    (done : List Step) {rest : List Step} (distinct : (done ++ rest).Nodup) :
    Meets (Reached resultDir dump measurement base done)
      (runSteps config resultDir dump process measurement rest)
      (fun _ => Reached resultDir dump measurement base (done ++ rest))
      (Extends resultDir measurement base) := by
  induction rest generalizing done with
  | nil =>
      rw [List.append_nil]
      exact Meets.pure fun _ reached => reached
  | cons step rest induction =>
      have fresh : step ∉ done := fun member =>
        (List.nodup_append.mp distinct).2.2 step member step List.mem_cons_self rfl
      have next : ((done ++ [step]) ++ rest).Nodup := by
        rw [List.append_assoc]
        exact distinct
      have later := induction (done ++ [step]) next
      rw [List.append_assoc] at later
      exact (run_meets process fresh).bind fun _ => later

theorem Reached.start {measurement : Measurement} {base session : Session}
    (extended : Extends resultDir measurement base session) :
    Reached resultDir dump measurement base [] session :=
  ⟨extended, fun _ => [], ⟨session.log, by simp⟩,
    fun step member => absurd member List.not_mem_nil⟩

private theorem benchmarkSteps_nodup : benchmarkSteps.Nodup := by decide

theorem mem_benchmarkSteps (step : Step) : step ∈ benchmarkSteps := by
  rcases step with ⟨kind, role, stage⟩ | _ | ⟨metric, role⟩
  · cases kind <;> cases role <;> cases stage <;> decide
  · decide
  · cases metric <;> cases role <;> decide

variable (config resultDir dump) in
private theorem mainRunBenchmark_meets (process : Process) (measurement : Measurement)
    (base : Session) :
    Meets (fun session => session = base)
      (mainRunBenchmark config resultDir dump process measurement)
      (fun _ => Reached resultDir dump measurement base benchmarkSteps)
      (Extends resultDir measurement base) := by
  have started : Meets (fun session => session = base)
      (modify fun session : Session =>
        { session with client := initialState process.context } : EStateM Error Session PUnit)
      (fun _ => Extends resultDir measurement base) (Extends resultDir measurement base) := by
    apply Meets.modify
    rintro session rfl
    exact ⟨⟨[], by simp⟩, fun _ _ => rfl⟩
  refine started.bind fun _ => ?_
  cases extractParameter measurement.iperfCommand (lit "time") with
  | error error => exact Meets.throw fun _ extended => extended
  | ok duration =>
      have attempted := runSteps_meets config resultDir dump process measurement base []
        benchmarkSteps_nodup
      exact (attempted.weaken (fun _ extended => Reached.start extended)
        (fun _ _ reached => reached) fun _ extended => extended).retryingTo _ _

/-! ## What all the runs leave -/

/-- The last attempt of a measurement is on the log, and the files of its own hold what
that attempt's commands have put out. -/
structure Own (resultDir : Text) (measurement : Measurement) (outputs : Step → Text)
    (session : Session) : Prop where
  logged : ∃ earlier later,
    session.log = earlier ++ benchmarkSteps.map (record measurement outputs) ++ later
  counters : ∀ kind role stage, session.files.get?
    (counterFile resultDir role kind stage measurement.index) =
      some (outputs (.counter kind role stage))
  result : session.files.get? (createResultFileName resultDir measurement) =
    some (outputs .iperf3)

/-- The shared files hold what the commands of these outputs have put out. -/
def Latest (resultDir : Text) (dump : Json → Text) (outputs : Step → Text)
    (session : Session) : Prop :=
  ∀ metric role, ∃ text,
    (Step.osInfo metric role).content dump (outputs (.osInfo metric role)) = .ok text ∧
      session.files.get? (osInfoFile resultDir role metric) = some text

theorem Own.extends {measurement other : Measurement} {outputs : Step → Text}
    {base session : Session} (own : Own resultDir other outputs base)
    (extended : Extends resultDir measurement base session)
    (index : other.index ≠ measurement.index)
    (parameters : other.parameters ≠ measurement.parameters) :
    Own resultDir other outputs session where
  logged := by
    obtain ⟨earlier, later, split⟩ := own.logged
    obtain ⟨more, appended⟩ := extended.log
    exact ⟨earlier, later ++ more, by rw [appended, split]; simp only [List.append_assoc]⟩
  counters kind role stage := by
    rw [extended.files _ fun step same => ?_]
    · exact own.counters kind role stage
    · obtain ⟨-, shared⟩ :=
        path_injective other measurement (.step (.counter kind role stage)) (.step step) same
      exact index (shared.index kind role stage rfl)
  result := by
    rw [extended.files _ fun step same => ?_]
    · exact own.result
    · obtain ⟨-, shared⟩ :=
        path_injective other measurement (.step .iperf3) (.step step) same
      exact parameters (shared.parameters rfl)

theorem Reached.own {measurement : Measurement} {base session : Session}
    (reached : Reached resultDir dump measurement base benchmarkSteps session) :
    ∃ outputs, Own resultDir measurement outputs session ∧
      Latest resultDir dump outputs session := by
  obtain ⟨-, outputs, progress⟩ := reached
  refine ⟨outputs, ⟨?_, ?_, ?_⟩, ?_⟩
  · obtain ⟨earlier, split⟩ := progress.log
    exact ⟨earlier, [], by rw [split, List.append_nil]⟩
  · intro kind role stage
    obtain ⟨text, content, present⟩ :=
      progress.stored (.counter kind role stage) (mem_benchmarkSteps _)
    cases content
    exact present
  · obtain ⟨text, content, present⟩ := progress.stored .iperf3 (mem_benchmarkSteps _)
    cases content
    exact present
  · intro metric role
    exact progress.stored (.osInfo metric role) (mem_benchmarkSteps _)

/-- What holds when the given measurements have been made, starting from some files. -/
structure Executed (resultDir : Text) (dump : Json → Text) (base : Session)
    (outputs : Measurement → Step → Text) (done : List Measurement) (session : Session) :
    Prop where
  own : ∀ measurement ∈ done, Own resultDir measurement (outputs measurement) session
  latest : ∀ measurement ∈ done.getLast?,
    Latest resultDir dump (outputs measurement) session
  others : ∀ role, session.files.get? (podNodeInfoFile resultDir role) =
    base.files.get? (podNodeInfoFile resultDir role)

theorem Executed.next {base before after : Session} {outputs : Measurement → Step → Text}
    {done : List Measurement} {measurement : Measurement}
    (executed : Executed resultDir dump base outputs done before)
    (reached : Reached resultDir dump measurement before benchmarkSteps after)
    (index : ∀ other ∈ done, other.index ≠ measurement.index)
    (parameters : ∀ other ∈ done, other.parameters ≠ measurement.parameters) :
    ∃ outputs, Executed resultDir dump base outputs (done ++ [measurement]) after := by
  obtain ⟨latest, ownNow, latestNow⟩ := reached.own
  let updated : Measurement → Step → Text := Function.update outputs measurement latest
  have self : updated measurement = latest := Function.update_self measurement latest outputs
  refine ⟨updated, ?_, ?_, ?_⟩
  · intro other member
    rcases List.mem_append.mp member with earlier | here
    · have different : other ≠ measurement := fun same =>
        index other earlier (congrArg Measurement.index same)
      rw [show updated other = outputs other from Function.update_of_ne different _ _]
      exact (executed.own other earlier).extends reached.1 (index other earlier)
        (parameters other earlier)
    · obtain rfl := List.mem_singleton.mp here
      rw [self]
      exact ownNow
  · intro last isLast
    rw [List.getLast?_append, List.getLast?_singleton, Option.some_or, Option.mem_some_iff]
      at isLast
    rw [← isLast, self]
    exact latestNow
  · intro role
    rw [reached.1.files _ fun step same => ?_]
    · exact executed.others role
    · obtain ⟨impossible, -⟩ :=
        path_injective measurement measurement (.podNodeInfo role) (.step step) same
      cases impossible

theorem executeAll_ok {base before after : Session} {outputs : Measurement → Step → Text}
    {done rest : List Measurement} {processes : Nat → Process}
    (executed : Executed resultDir dump base outputs done before)
    (indices : ((done ++ rest).map Measurement.index).Nodup)
    (parameters : ((done ++ rest).map Measurement.parameters).Nodup)
    (returned : executeAll config resultDir dump processes rest before = .ok () after) :
    ∃ outputs, Executed resultDir dump base outputs (done ++ rest) after := by
  induction rest generalizing done before outputs processes with
  | nil =>
      cases returned
      rw [List.append_nil]
      exact ⟨outputs, executed⟩
  | cons measurement rest induction =>
      have ran := mainRunBenchmark_meets config resultDir dump (processes 0) measurement before
        before rfl
      rw [executeAll] at returned
      rcases first : mainRunBenchmark config resultDir dump (processes 0) measurement before
        with ⟨value, middle⟩ | ⟨error, middle⟩
      · rw [first] at ran
        rw [bind_of_ok first] at returned
        have apart {β : Type} {key : Measurement → β}
            (nodup : ((done ++ measurement :: rest).map key).Nodup) :
            ∀ other ∈ done, key other ≠ key measurement := by
          intro other member
          rw [List.map_append, List.map_cons, List.nodup_append] at nodup
          exact nodup.2.2 _ (List.mem_map_of_mem member) _ List.mem_cons_self
        obtain ⟨nextOutputs, next⟩ := executed.next ran (apart indices) (apart parameters)
        rw [List.append_cons] at indices parameters ⊢
        exact induction next indices parameters returned
      · rw [bind_of_error first] at returned
        cases returned

end Runs

end Telescope.Iperf3
