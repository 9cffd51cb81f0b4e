import Telescope.Data.Store
import Telescope.Kubernetes.ObjectStore
import Telescope.Kubernetes.PodWaits
import Telescope.Kwok.Node
import Telescope.Utils.Retries

namespace Telescope.Gpu

open Telescope Telescope.Kubernetes

/-! Running the NCCL tests (`execute` of `gpu/main.py`): delete the MPI job of an earlier
run, apply the job under the same name, wait for a launcher pod to succeed and save its log.
The MPI operator and the garbage collector act between the calls. -/

structure ExecuteArgs where
  provider : Text
  configDir : Text
  resultDir : Text
  topologyVmSize : Text
  gpuNodeCount : Int
  gpuAllocatable : Int
  ibAllocatable : Int
  efaAllocatable : Int
  ncclTestsVersion : Text

namespace ExecuteArgs

variable (args : ExecuteArgs)

def checkCounts : Except Error Unit :=
  if args.gpuNodeCount < 1 then
    .error (.valueError (lit "gpu_node_count must be at least 1, got " ++
      intText args.gpuNodeCount))
  else if args.gpuAllocatable < 1 then
    .error (.valueError (lit "gpu_allocatable must be at least 1, got " ++
      intText args.gpuAllocatable))
  else .ok ()

def isAzure : Bool := lowerText args.provider = lit "azure"

def isAws : Bool := lowerText args.provider = lit "aws"

def usesTopology : Bool :=
  args.isAzure && decide (0 < args.ibAllocatable) && !args.topologyVmSize.isEmpty

def jobType : Text :=
  if 0 < args.ibAllocatable then
    if args.topologyVmSize.isEmpty then lit "sriov" else lit "topology"
  else lit "hostpath"

def ncclFile : Text :=
  if args.isAzure then
    args.configDir ++ lit "/mpi-operator/azure-job-" ++ args.jobType ++ lit ".yaml"
  else args.configDir ++ lit "/mpi-operator/" ++ args.provider ++ lit "-job.yaml"

def replacements : List (Text × Text) :=
  [(lit "slots_per_worker", intText args.gpuAllocatable),
    (lit "number_of_processes", intText (args.gpuNodeCount * args.gpuAllocatable)),
    (lit "worker_replicas", intText args.gpuNodeCount),
    (lit "gpu_allocatable", intText args.gpuAllocatable),
    (lit "nccl_tests_version", args.ncclTestsVersion)] ++
  if args.isAzure then
    if 0 < args.ibAllocatable then [(lit "ib_allocatable", intText args.ibAllocatable)] else []
  else if args.isAws then [(lit "efa_allocatable", intText args.efaAllocatable)]
  else []

def rawLog : Text := args.resultDir ++ lit "/raw.log"

end ExecuteArgs

private theorem mpiJob_notList : some (lit "MPIJob") ≠ some (lit "List") := by decide

/-- The document of a template of the job; the templates differ in the rest of the text. -/
def renderedJob (text : Text) : Manifest where
  kind := some (lit "MPIJob")
  apiVersion := some (lit "kubeflow.org/v2beta1")
  metadata := .mapping ⟨some (lit "nccl-tests"), some (lit "mpi-operator")⟩
  spec := .mapping ⟨.absent⟩
  content := text

def jobSources (text : Text) : Sources := ⟨none, .object (renderedJob text) mpiJob_notList⟩

def launcherRequest : PodsRequest where
  labelSelector := lit "component=launcher"
  «namespace» := lit "mpi-operator"
  podCount := some 1

/-! ## The job and its launchers -/

/-- A launcher pod, with the number of the run whose job it was created for, and its log. -/
structure Launcher where
  run : Nat
  pod : ListedPod
  output : Text

/-- The runs that the job and the launcher pods of the namespace belong to. -/
structure Site where
  job : Option Nat
  launchers : List Launcher

/-- What happens without the client: the operator creates a launcher for the job, a launcher
gets a phase and an output, whatever its phase was, or a launcher or the job is collected. -/
inductive Change where
  | launch (position : Nat) (pod : ListedPod) (output : Text)
  | progress (position : Nat) (phase output : Text)
  | vanish (position : Nat)
  | jobGone

namespace Site

def change (site : Site) : Change → Site
  | .launch position pod output =>
      match site.job with
      | none => site
      | some run =>
          { site with launchers := site.launchers.insertIdx position ⟨run, pod, output⟩ }
  | .progress position phase output =>
      { site with
        launchers := site.launchers.modify position fun launcher =>
          { launcher with pod := { launcher.pod with phase := phase }, output := output } }
  | .vanish position => { site with launchers := site.launchers.eraseIdx position }
  | .jobGone => { site with job := none }

def evolve (site : Site) (changes : List Change) : Site := changes.foldl change site

/-- Nothing is left of any run. -/
def Swept (site : Site) : Prop := site.job = none ∧ site.launchers = []

/-- What is there belongs to runs of this kind. -/
structure Of (kind : Nat → Prop) (site : Site) : Prop where
  job : ∀ run ∈ site.job, kind run
  launchers : ∀ launcher ∈ site.launchers, kind launcher.run

end Site

/-- How `kubectl delete` ends: the job is gone, another exit status, which is logged only,
or an exception that is not caught. -/
inductive Deletion where
  | deleted
  | refused (effective : Bool)
  | failed (error : Error)

/-- What a run meets until it applies its job. -/
structure Opening where
  beforeDelete : List Change
  deletion : Deletion
  topology : Except Error Unit
  templates : Text → Option Text
  beforeCreate : List Change

structure Fault where
  refusal : Refusal
  effective : Bool

/-- What a run meets from then on.  The namespace changes from one moment to the next, and
each request comes at some moment. -/
structure Continuation where
  createFault : Option Fault
  beforePatch : List Change
  patchFault : Option Fault
  changes : Nat → List Change
  clock : Nat → PausedClock 10
  listedAt : Nat → Nat → Nat
  listFault : Nat → Nat → Option Error
  readAt : Nat
  readFault : Option Error
  ended : Nat

/-! ## `execute` -/

def ExecuteArgs.render (args : ExecuteArgs) (opening : Opening) : Except Error Text := do
  if args.usesTopology then opening.topology
  Kwok.createTemplate args.ncclFile (opening.templates args.ncclFile) args.replacements

/-- The rendered job, and what is there when it is applied. -/
def ExecuteArgs.openRun (args : ExecuteArgs) (opening : Opening) (site : Site) :
    Except Error Text × Site :=
  match args.checkCounts with
  | .error error => (.error error, site)
  | .ok () =>
      let site := site.evolve opening.beforeDelete
      let gone := { site with job := none }
      match opening.deletion with
      | .failed error => (.error error, site)
      | .deleted => (args.render opening, gone.evolve opening.beforeCreate)
      | .refused effective =>
          (args.render opening, (if effective then gone else site).evolve opening.beforeCreate)

namespace Continuation

variable (rest : Continuation)

/-- The server; what a patch leaves is the job of the run that patches. -/
def api (run : Nat) : Api Site where
  answer
    | .create _ _, site =>
        let created := if site.job.isSome then site else { site with job := some run }
        match rest.createFault with
        | some fault => (some fault.refusal, if fault.effective then created else site)
        | none =>
            (if site.job.isSome then some (.api 409 (lit "AlreadyExists")) else none, created)
    | .patch _ _, site =>
        let site := site.evolve rest.beforePatch
        let patched := { site with job := site.job.map fun _ => run }
        match rest.patchFault with
        | some fault => (some fault.refusal, if fault.effective then patched else site)
        | none => (if site.job.isSome then none else some notFound, patched)
    | .delete _, site => (some notFound, site)

def applyJob (run : Nat) (text : Text) (site : Site) : Except Error Unit × Site :=
  applyManifestFromFile (rest.api run) (jobSources text) none site

def siteAt (applied : Site) (moment : Nat) : Site :=
  applied.evolve ((List.range moment).flatMap rest.changes)

/-- `get_pods_by_namespace` in a round of an attempt. -/
def listLaunchers (applied : Site) (attempt round : Nat) : Listing :=
  match rest.listFault attempt round with
  | some error => .error error
  | none => .ok ((rest.siteAt applied (rest.listedAt attempt round)).launchers.map Launcher.pod)

def awaitLauncher (applied : Site) (attempt : Nat) : Listing :=
  (waitForPodsCompleted launcherRequest 300 (rest.clock attempt)
    (rest.listLaunchers applied attempt) (⌈((300 : Int) : ℚ) / 10⌉₊ + 1)).get
    (waitForPodsCompleted_isSome _ _ _ _)

/-- `get_pod_logs`, decoded. -/
def podLogs (applied : Site) (podName : Text) : Except Error Launcher :=
  match rest.readFault with
  | some error => .error error
  | none =>
      match (rest.siteAt applied rest.readAt).launchers.find? fun launcher =>
          launcher.pod.name = podName with
      | some launcher => .ok launcher
      | none => .error ⟨.external, lit "Error getting logs for pod '" ++ podName ++
          lit "' in namespace 'mpi-operator': NotFound"⟩

/-- The launcher whose log is read. -/
def awaitLog (applied : Site) : Except Error Launcher :=
  match (executeWithRetries (fun attempt state => (rest.awaitLauncher applied attempt, state))
      10 2 ()).result with
  | .error error => .error error
  | .ok [] => .error ⟨.indexError, lit "list index out of range"⟩
  | .ok (pod :: _) => rest.podLogs applied pod.name

end Continuation

structure World where
  site : Site
  files : Store Text Text

/-- A run; when it returns, with the launcher whose log it has saved. -/
def execute (run : Nat) (args : ExecuteArgs) (opening : Opening) (rest : Continuation)
    (world : World) : Except Error Launcher × World :=
  match args.openRun opening world.site with
  | (.error error, site) => (.error error, ⟨site, world.files⟩)
  | (.ok text, site) =>
      match rest.applyJob run text site with
      | (.error error, applied) => (.error error, ⟨applied, world.files⟩)
      | (.ok (), applied) =>
          match rest.awaitLog applied with
          | .error error => (.error error, ⟨rest.siteAt applied rest.ended, world.files⟩)
          | .ok launcher =>
              (.ok launcher, ⟨rest.siteAt applied rest.ended,
                world.files.put args.rawLog launcher.output⟩)

structure Run where
  args : ExecuteArgs
  opening : Opening
  rest : Continuation

/-- Runs one after the other, numbered from the given number on. -/
def runsFrom : Nat → List Run → World → World
  | _, [], world => world
  | run, first :: later, world =>
      runsFrom (run + 1) later (execute run first.args first.opening first.rest world).2

/-! ## Which runs something belongs to -/

namespace Site

variable {kind : Nat → Prop} {site : Site}

theorem Of.mono {wider : Nat → Prop} (ofKind : site.Of kind)
    (widens : ∀ run, kind run → wider run) : site.Of wider where
  job run present := widens run (ofKind.job run present)
  launchers launcher member := widens launcher.run (ofKind.launchers launcher member)

theorem Of.withoutJob (ofKind : site.Of kind) : Of kind { site with job := none } where
  job _ present := nomatch present
  launchers := ofKind.launchers

theorem Of.withJob (ofKind : site.Of kind) {run : Nat} (ofRun : kind run) :
    Of kind { site with job := some run } where
  job other present := by
    obtain rfl := Option.mem_some_iff.mp present
    exact ofRun
  launchers := ofKind.launchers

theorem Of.change (ofKind : site.Of kind) (change : Change) : (site.change change).Of kind := by
  cases change with
  | launch position pod output =>
      rw [Site.change]
      split
      · exact ofKind
      · rename_i run present
        refine ⟨ofKind.job, fun launcher member => ?_⟩
        rcases List.eq_or_mem_of_mem_insertIdx member with rfl | earlier
        · exact ofKind.job run present
        · exact ofKind.launchers launcher earlier
  | progress position phase output =>
      refine ⟨ofKind.job, fun launcher member => ?_⟩
      rw [Site.change] at member
      obtain ⟨index, below, rfl⟩ := List.mem_iff_getElem.mp member
      have within : index < site.launchers.length := by
        rwa [List.length_modify] at below
      have own : kind site.launchers[index].run := ofKind.launchers _ (List.getElem_mem within)
      simp only [List.getElem_modify]
      split
      · exact own
      · exact own
  | vanish position =>
      exact ⟨ofKind.job, fun launcher member =>
        ofKind.launchers launcher (List.mem_of_mem_eraseIdx member)⟩
  | jobGone => exact ofKind.withoutJob

theorem Of.evolve (ofKind : site.Of kind) (changes : List Change) :
    (site.evolve changes).Of kind := by
  induction changes generalizing site with
  | nil => exact ofKind
  | cons change rest induction => exact induction (ofKind.change change)

theorem Swept.of (swept : site.Swept) : site.Of kind where
  job _ present := by
    rw [swept.1] at present
    cases present
  launchers _ member := by
    rw [swept.2] at member
    cases member

private theorem exists_first_of_not_swept (notSwept : ¬ site.Swept) (ofKind : site.Of kind)
    (pod : ListedPod) (output : Text) :
    ∃ first others, kind first.run ∧
      (site.job = none → site.launchers = first :: others) ∧
      (site.job ≠ none →
        (site.evolve [.launch 0 pod output]).launchers = first :: others) := by
  cases present : site.job with
  | none =>
      cases listed : site.launchers with
      | nil => exact absurd ⟨present, listed⟩ notSwept
      | cons first others =>
          have own := ofKind.launchers first (by rw [listed]; exact List.mem_cons_self)
          exact ⟨first, others, own, fun _ => rfl, fun absent => absurd rfl absent⟩
  | some run =>
      refine ⟨⟨run, pod, output⟩, site.launchers, ofKind.job run present, nofun, fun _ => ?_⟩
      simp only [Site.evolve, List.foldl_cons, List.foldl_nil, Site.change, present,
        List.insertIdx_zero]

end Site

theorem openRun_of {kind : Nat → Prop} (args : ExecuteArgs) (opening : Opening) {site : Site}
    (ofKind : site.Of kind) : (args.openRun opening site).2.Of kind := by
  have before := ofKind.evolve opening.beforeDelete
  rw [ExecuteArgs.openRun]
  cases args.checkCounts with
  | error error => exact ofKind
  | ok value =>
      cases opening.deletion with
      | failed error => exact before
      | deleted => exact before.withoutJob.evolve _
      | refused effective =>
          cases effective with
          | false => exact before.evolve _
          | true => exact before.withoutJob.evolve _

namespace Continuation

variable {kind : Nat → Prop} (rest : Continuation) {run : Nat}

/-- What the server leaves after a request belongs to the runs before, or to this one. -/
theorem answer_of (ofRun : kind run) (request : Request) {site : Site} (ofKind : site.Of kind) :
    ((rest.api run).answer request site).2.Of kind := by
  cases request with
  | create target body =>
      have created : Site.Of kind
          (if site.job.isSome then site else { site with job := some run }) := by
        split
        · exact ofKind
        · exact ofKind.withJob ofRun
      simp only [api]
      cases rest.createFault with
      | none => exact created
      | some fault =>
          dsimp only
          split
          · exact created
          · exact ofKind
  | patch target body =>
      have evolved := ofKind.evolve rest.beforePatch
      have patched : Site.Of kind { site.evolve rest.beforePatch with
          job := (site.evolve rest.beforePatch).job.map fun _ => run } := by
        refine ⟨fun other present => ?_, evolved.launchers⟩
        obtain ⟨earlier, -, rfl⟩ := Option.map_eq_some_iff.mp present
        exact ofRun
      simp only [api]
      cases rest.patchFault with
      | none => exact patched
      | some fault =>
          dsimp only
          split
          · exact patched
          · exact evolved
  | delete target => exact ofKind

theorem siteAt_of {applied : Site} (ofKind : applied.Of kind) (moment : Nat) :
    (rest.siteAt applied moment).Of kind := ofKind.evolve _

/-! ## What is awaited and read -/

theorem awaitLauncher_ok_iff {applied : Site} {attempt : Nat} {pods : List ListedPod} :
    rest.awaitLauncher applied attempt = .ok pods ↔
      ∃ round, UndecidedBefore ((rest.clock attempt).due (300 : Int))
          (completedPoll launcherRequest (rest.listLaunchers applied attempt)) round ∧
        (rest.clock attempt).due (300 : Int) round = true ∧
        ∃ listed, rest.listLaunchers applied attempt round = .ok listed ∧ listed ≠ [] ∧
          Completed 1 listed pods := by
  obtain ⟨outcome, ended, returns⟩ := exists_completed launcherRequest 300 (rest.clock attempt)
    (rest.listLaunchers applied attempt)
  simp only [awaitLauncher, ended, Option.get_some]
  exact returns pods

private theorem podLogs_ok {applied : Site} {podName : Text} {launcher : Launcher}
    (read : rest.podLogs applied podName = .ok launcher) :
    launcher ∈ (rest.siteAt applied rest.readAt).launchers ∧ launcher.pod.name = podName := by
  unfold podLogs at read
  cases faulty : rest.readFault with
  | some error =>
      rw [faulty] at read
      cases read
  | none =>
      rw [faulty] at read
      dsimp only at read
      split at read
      · rename_i found
        cases read
        have named := List.find?_some found
        exact ⟨List.mem_of_find?_eq_some found, of_decide_eq_true named⟩
      · cases read

/-- A launcher was listed as succeeded, and the launcher that is read has its name. -/
structure Reads (applied : Site) (launcher : Launcher) : Prop where
  succeeded : ∃ attempt ≤ 2, ∃ round,
    ∃ listed ∈ (rest.siteAt applied (rest.listedAt attempt round)).launchers,
      listed.pod.phase = lit "Succeeded" ∧ listed.pod.name = launcher.pod.name
  there : launcher ∈ (rest.siteAt applied rest.readAt).launchers

theorem awaitLog_ok {applied : Site} {launcher : Launcher}
    (returned : rest.awaitLog applied = .ok launcher) : rest.Reads applied launcher := by
  obtain ⟨attempt, within, before, last⟩ :=
    exists_attempt (fun attempt state => (rest.awaitLauncher applied attempt, state)) 10 2 ()
  unfold awaitLog at returned
  have outcome : rest.awaitLauncher applied attempt = (executeWithRetries
      (fun attempt state => (rest.awaitLauncher applied attempt, state)) 10 2 ()).result :=
    congrArg Prod.fst last
  rw [← outcome] at returned
  cases awaited : rest.awaitLauncher applied attempt with
  | error error =>
      rw [awaited] at returned
      cases returned
  | ok pods =>
      rw [awaited] at returned
      cases pods with
      | nil => cases returned
      | cons pod others =>
          obtain ⟨there, named⟩ := rest.podLogs_ok returned
          obtain ⟨round, -, -, listed, read, -, completed⟩ :=
            rest.awaitLauncher_ok_iff.mp awaited
          refine ⟨⟨attempt, within, round, ?_⟩, there⟩
          have member : pod ∈ succeeded listed := by
            have inFirst : pod ∈ (succeeded listed).take (1 : Int).toNat := by
              rw [← completed.first]
              exact List.mem_cons_self
            exact List.mem_of_mem_take inFirst
          obtain ⟨inListed, phase⟩ := List.mem_filter.mp member
          unfold listLaunchers at read
          cases faulty : rest.listFault attempt round with
          | some error =>
              rw [faulty] at read
              cases read
          | none =>
              rw [faulty] at read
              cases read
              obtain ⟨source, inSite, rfl⟩ := List.mem_map.mp inListed
              exact ⟨source, inSite, of_decide_eq_true phase, named.symm⟩

end Continuation

/-! ## The job is applied -/

def jobTarget : Target :=
  namespaced ⟨lit "kubeflow.org", lit "v2beta1"⟩ "mpijobs" (lit "mpi-operator")
    (some (lit "nccl-tests"))

theorem creationTarget_renderedJob (text : Text) :
    creationTarget (renderedJob text) none = .ok (some jobTarget) := by
  have dispatched : (renderedJob text).dispatch = some .mpiJob :=
    show Kind.supported.find? (fun kind => some kind.text = some (lit "MPIJob")) = some .mpiJob by
      decide
  have read : (renderedJob text).readMetadata =
      .ok ⟨some (lit "nccl-tests"), some (lit "mpi-operator")⟩ := rfl
  have custom : (renderedJob text).customApi = .ok ⟨lit "kubeflow.org", lit "v2beta1"⟩ := rfl
  have chosen : appliedNamespace none ⟨some (lit "nccl-tests"), some (lit "mpi-operator")⟩ =
      lit "mpi-operator" := by decide
  simp only [creationTarget, read, bind, Except.bind, chosen, createTarget, dispatched, custom]
  rfl

namespace Continuation

variable (rest : Continuation) (run : Nat)

theorem applyJob_eq (text : Text) (site : Site) :
    rest.applyJob run text site =
      applySingleManifest (rest.api run) (renderedJob text) none site :=
  applyManifestFromFile_object _ _ _ _ _

theorem applyJob_of (kind : Nat → Prop) (ofRun : kind run) (text : Text) {site : Site}
    (ofKind : site.Of kind) : (rest.applyJob run text site).2.Of kind := by
  rw [applyJob_eq]
  exact applySingleManifest_keeps (Site.Of kind)
    (fun _ _ request _ _ held => rest.answer_of ofRun request held) ofKind

end Continuation

private theorem execute_of (kind : Nat → Prop) {run : Nat} (ofRun : kind run) (args : ExecuteArgs)
    (opening : Opening) (rest : Continuation) {world : World} (ofKind : world.site.Of kind) :
    (execute run args opening rest world).2.site.Of kind := by
  have opened := openRun_of args opening ofKind
  unfold execute
  rcases opens : args.openRun opening world.site with ⟨rendered, site⟩
  rw [opens] at opened
  cases rendered with
  | error error => exact opened
  | ok text =>
      have applied := rest.applyJob_of run kind ofRun text opened
      dsimp only
      rcases applies : rest.applyJob run text site with ⟨result, after⟩
      rw [applies] at applied
      cases result with
      | error error => exact applied
      | ok value =>
          have ended := rest.siteAt_of applied rest.ended
          dsimp only
          cases rest.awaitLog after with
          | error error => exact ended
          | ok launcher => exact ended

/-- Nothing belongs to runs that have not begun. -/
theorem runsFrom_of (runs : List Run) {run : Nat} {world : World}
    (ofEarlier : world.site.Of (· < run)) :
    (runsFrom run runs world).site.Of (· < run + runs.length) := by
  induction runs generalizing run world with
  | nil => exact ofEarlier
  | cons first later induction =>
      have ofRun : run < run + 1 := Nat.lt_succ_self run
      have widened := ofEarlier.mono fun other (below : other < run) => below.trans ofRun
      have next := induction (execute_of (· < run + 1) ofRun first.args first.opening first.rest
        widened)
      rw [List.length_cons, ← Nat.add_assoc, Nat.add_right_comm]
      exact next

/-! ## A run that finds something of an earlier one -/

def startedPod : ListedPod := ⟨lit "nccl-tests-launcher", lit "Running", none⟩

/-- The operator starts a launcher before the patch, if there is a job to patch; the first
launcher of the listing succeeds, and is the one whose log is read. -/
def staleContinuation : Continuation where
  createFault := none
  beforePatch := [.launch 0 startedPod []]
  patchFault := none
  changes _ := [.progress 0 (lit "Succeeded") []]
  clock _ := .steady 10
  listedAt _ _ := 1
  listFault _ _ := none
  readAt := 1
  readFault := none
  ended := 1

private theorem stale_applied {kind : Nat → Prop} (run : Nat) (text : Text) {site : Site}
    (notSwept : ¬ site.Swept) (ofKind : site.Of kind) :
    ∃ applied first others, kind first.run ∧
      staleContinuation.applyJob run text site = (.ok (), applied) ∧
        applied.launchers = first :: others := by
  obtain ⟨first, others, own, without, withJob⟩ :=
    Site.exists_first_of_not_swept notSwept ofKind startedPod []
  rw [Continuation.applyJob_eq, applySingleManifest_eq, creationTarget_renderedJob]
  cases present : site.job with
  | none =>
      refine ⟨{ site with job := some run }, first, others, own, ?_, without present⟩
      simp [Continuation.api, staleContinuation, present]
  | some earlier =>
      have stays : (site.evolve staleContinuation.beforePatch).job = some earlier := by
        simp [staleContinuation, Site.evolve, Site.change, present]
      refine ⟨{ site.evolve staleContinuation.beforePatch with job := some run }, first, others,
        own, ?_, withJob (by rw [present]; exact nofun)⟩
      have conflict : (staleContinuation.api run).answer
          (.create jobTarget (renderedJob text)) site =
            (some (.api 409 (lit "AlreadyExists")), site) := by
        simp [Continuation.api, staleContinuation, present]
      have patched : (staleContinuation.api run).answer
          (.patch jobTarget (renderedJob text)) site =
            (none, { site.evolve staleContinuation.beforePatch with job := some run }) := by
        simp only [Continuation.api, stays]
        rfl
      simp only [conflict, if_true, patchExisting, patched]

private theorem stale_awaitLog {applied : Site} {first : Launcher} {others : List Launcher}
    (listed : applied.launchers = first :: others) :
    ∃ launcher, staleContinuation.awaitLog applied = .ok launcher ∧
      launcher.run = first.run := by
  let done : Launcher :=
    { first with pod := { first.pod with phase := lit "Succeeded" }, output := [] }
  have later : (staleContinuation.siteAt applied 1).launchers = done :: others := by
    change applied.launchers.modify 0 _ = _
    rw [listed]
    rfl
  have pods : staleContinuation.listLaunchers applied 0 0 =
      .ok (done.pod :: others.map Launcher.pod) := by
    change Except.ok ((staleContinuation.siteAt applied 1).launchers.map Launcher.pod) = _
    rw [later, List.map_cons]
  have awaited : staleContinuation.awaitLauncher applied 0 = .ok [done.pod] := by
    refine staleContinuation.awaitLauncher_ok_iff.mpr ⟨0, ?_, ?_, _, pods, List.cons_ne_nil _ _, ?_⟩
    · exact fun earlier below => absurd below (Nat.not_lt_zero earlier)
    · simp [PausedClock.due, staleContinuation, PausedClock.steady]
    · refine ⟨?_, rfl, fun zero => absurd zero (by decide)⟩
      simp [succeeded, done]
  have read : staleContinuation.podLogs applied done.pod.name = .ok done := by
    change (match (staleContinuation.siteAt applied 1).launchers.find? fun launcher =>
        launcher.pod.name = done.pod.name with
      | some launcher => Except.ok launcher
      | none => _) = _
    rw [later, List.find?_cons_of_pos (by simp)]
  have atOnce : (staleContinuation.awaitLauncher applied 0, ()) = (.ok [done.pod], ()) := by
    rw [awaited]
  obtain ⟨result, -⟩ := executeWithRetries_of_first
    (fun attempt state => (staleContinuation.awaitLauncher applied attempt, state)) 10 atOnce 2
  refine ⟨done, ?_, rfl⟩
  rw [Continuation.awaitLog, result]
  exact read

/-! ## Whose log is saved -/

theorem execute_ok {run : Nat} {args : ExecuteArgs} {opening : Opening} {rest : Continuation}
    {world : World} {launcher : Launcher}
    (returned : (execute run args opening rest world).1 = .ok launcher) :
    ∃ text applied, (args.openRun opening world.site).1 = .ok text ∧
      rest.applyJob run text (args.openRun opening world.site).2 = (.ok (), applied) ∧
      rest.awaitLog applied = .ok launcher ∧
      (execute run args opening rest world).2.files.get? args.rawLog = some launcher.output := by
  unfold execute at returned ⊢
  rcases opens : args.openRun opening world.site with ⟨rendered, site⟩
  rw [opens] at returned
  cases rendered with
  | error error => cases returned
  | ok text =>
      dsimp only at returned ⊢
      rcases applies : rest.applyJob run text site with ⟨result, applied⟩
      rw [applies] at returned
      cases result with
      | error error => cases returned
      | ok value =>
          dsimp only at returned ⊢
          cases read : rest.awaitLog applied with
          | error error =>
              rw [read] at returned
              cases returned
          | ok other =>
              rw [read] at returned
              cases returned
              exact ⟨text, applied, rfl, applies, read, world.files.get?_put_self _ _⟩

/-- After any runs from an empty namespace, a run that returns has saved the log of a launcher
with the name of one that was listed as succeeded.  Whatever happens from the creation of its
job on, this is its own launcher exactly if nothing of an earlier run is left then. -/
theorem saved_log_is_own_iff (history : List Run) (files : Store Text Text)
    (args : ExecuteArgs) (opening : Opening) :
    let run := history.length
    let world := runsFrom 0 history ⟨⟨none, []⟩, files⟩
    (∀ rest launcher, (execute run args opening rest world).1 = .ok launcher →
        (execute run args opening rest world).2.files.get? args.rawLog = some launcher.output ∧
        launcher.run ≤ run ∧
        ∃ text, rest.Reads (rest.applyJob run text (args.openRun opening world.site).2).2
          launcher) ∧
      ((∀ rest launcher, (execute run args opening rest world).1 = .ok launcher →
          launcher.run = run) ↔
        ∀ text, (args.openRun opening world.site).1 = .ok text →
          (args.openRun opening world.site).2.Swept) := by
  intro run world
  have ofEarlier : world.site.Of (· < run) := by
    have empty : Site.Of (· < 0) ⟨none, []⟩ := Site.Swept.of ⟨rfl, rfl⟩
    have reached : world.site.Of (· < 0 + history.length) := runsFrom_of history empty
    rw [Nat.zero_add] at reached
    exact reached
  refine ⟨?_, ?_, ?_⟩
  · intro rest launcher returned
    obtain ⟨text, applied, -, applies, read, saved⟩ := execute_ok returned
    have reads := rest.awaitLog_ok read
    have opened := (openRun_of args opening ofEarlier).mono fun _ => le_of_lt
    have ofRun := rest.applyJob_of run (· ≤ run) (le_refl run) text opened
    rw [applies] at ofRun
    refine ⟨saved, (rest.siteAt_of ofRun rest.readAt).launchers launcher reads.there, text, ?_⟩
    rw [applies]
    exact reads
  · intro own text opens
    by_contra notSwept
    obtain ⟨applied, first, others, earlier, applies, listed⟩ :=
      stale_applied run text notSwept (openRun_of args opening ofEarlier)
    obtain ⟨launcher, read, same⟩ := stale_awaitLog listed
    have returned : (execute run args opening staleContinuation world).1 = .ok launcher := by
      unfold execute
      rcases reached : args.openRun opening world.site with ⟨rendered, site⟩
      rw [reached] at opens applies
      cases opens
      simp only [applies, read]
    have owned := own staleContinuation launcher returned
    omega
  · intro swept rest launcher returned
    obtain ⟨text, applied, opens, applies, read, -⟩ := execute_ok returned
    have ofRun := rest.applyJob_of run (· = run) rfl text (swept text opens).of
    rw [applies] at ofRun
    exact (rest.siteAt_of ofRun rest.readAt).launchers launcher (rest.awaitLog_ok read).there

end Telescope.Gpu
