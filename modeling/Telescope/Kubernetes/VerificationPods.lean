import Telescope.Data.Sequence
import Telescope.Kubernetes.Apply
import Telescope.Kubernetes.GpuResources

namespace Telescope.Kubernetes

open Telescope

/-! The pods of `verify_nvidia_smi_on_node` and `verify_managed_gpu_systemd_services`:
one for each node, created, read and deleted. -/

inductive PodLogs where
  | bytes (content : List UInt8)
  | text (content : Text)

/-- The texts of `pod_logs.decode('utf-8')` and of `str(pod_logs)`. -/
def PodLogs.read : PodLogs → Except Error Text
  | .text content => .ok content
  | .bytes content =>
      match String.fromUTF8? ⟨content.toArray⟩ with
      | some decoded => .ok decoded.toList
      | none => .error (.valueError (lit "'utf-8' codec can't decode bytes"))

/-- How the requests about one pod turn out.  The outcome of its deletion is only
logged. -/
structure PodAnswers where
  podName : Text
  create : Except Error Unit
  clock : PausedClock 2
  phase : Nat → Except Error (Option Text)
  logs : Except Refusal PodLogs

structure VerificationPod where
  name : Text
  nodeName : Text
  limits : List (Text × Text)
  hostAccess : Bool

inductive PodEvent where
  | create (pod : VerificationPod) (created : Bool)
  | delete (podName : Text)

/-- `phase in ["Succeeded", "Failed"]` -/
def podEnded (phase : Option Text) : Bool :=
  decide (phase ∈ [some (lit "Succeeded"), some (lit "Failed")])

def podWaitDue (clock : PausedClock 2) (index : Nat) : Prop :=
  clock.now index < clock.start + 120

instance (clock : PausedClock 2) (index : Nat) : Decidable (podWaitDue clock index) :=
  inferInstanceAs (Decidable (_ < _))

/-- The wait's loop from poll `index` on, and whether the pod ended. -/
def waitForPod (pod : PodAnswers) : Nat → Nat → Option (Except Error Bool)
  | 0, _ => none
  | fuel + 1, index =>
      if podWaitDue pod.clock index then
        match pod.phase index with
        | .error error => some (.error error)
        | .ok phase =>
            if podEnded phase then some (.ok true) else waitForPod pod fuel (index + 1)
      else some (.ok false)

def getPodLogs (pod : PodAnswers) (space : Text) : Except Error PodLogs :=
  match pod.logs with
  | .ok logs => .ok logs
  | .error (.api _ text) =>
      .error ⟨.external, lit "Error getting logs for pod '" ++ pod.podName ++
        lit "' in namespace '" ++ space ++ lit "': " ++ text⟩
  | .error (.other error) => .error error

def podLogText (pod : PodAnswers) (space : Text) : Except Error Text := do
  let logs ← getPodLogs pod space
  logs.read

/-- The wait and the reading of the logs; `late` is what a wait that runs out does.  Two
minutes of polls are at most 61. -/
def podOutput (late : Except Error Unit) (pod : PodAnswers) (space : Text) :
    Option (Except Error Text) :=
  (waitForPod pod 61 0).map fun waited => do
    let ended ← waited
    if ended then pure () else late
    podLogText pod space

/-- One pod from its creation to its deletion, and the entry made of its output. -/
def runPod {ε : Type} (late : Except Error Unit) (body : VerificationPod) (pod : PodAnswers)
    (space : Text) (entry : Text → ε) : Option (Except Error (Option ε) × List PodEvent) :=
  match pod.create with
  | .error error => some (.error error, [.create body false])
  | .ok () =>
      (podOutput late pod space).map fun
        | .error error => (.error error, [.create body true])
        | .ok output => (.ok (some (entry output)), [.create body true, .delete body.name])

/-- The loop over the nodes, each of which gives an entry or is skipped. -/
def verifyNodes {ν ε : Type} (nodeName : ν → Text)
    (verify : ν → Option (Except Error (Option ε) × List PodEvent)) :
    List ν → Store Text ε → Option (Except Error (Store Text ε) × List PodEvent)
  | [], results => some (.ok results, [])
  | node :: rest, results =>
      match verify node with
      | none => none
      | some (.error error, events) => some (.error error, events)
      | some (.ok none, events) =>
          (verifyNodes nodeName verify rest results).map fun run => (run.1, events ++ run.2)
      | some (.ok (some entry), events) =>
          (verifyNodes nodeName verify rest (results.put (nodeName node) entry)).map
            fun run => (run.1, events ++ run.2)

/-! ## The two verifications -/

structure GpuNode where
  name : Text
  clock : PausedClock 1
  describe : Nat → Except Error Allocatable
  pod : PodAnswers

structure GpuPodLog where
  podName : Text
  logs : Text
  deviceStatus : Bool

def gpuPodLog (podName logs : Text) : GpuPodLog where
  podName := podName
  logs := logs
  deviceStatus := containsText (lit "NVIDIA-SMI") logs && containsText (lit "GPU") logs

def verifyGpuNode (space : Text) (node : GpuNode) :
    Option (Except Error (Option GpuPodLog) × List PodEvent) :=
  match chooseGpuLimits node.clock node.describe 601 with
  | none => none
  | some (.error error) => some (.error error, [])
  | some (.ok none) => some (.ok none, [])
  | some (.ok (some limits)) =>
      runPod (.ok ()) ⟨node.pod.podName, node.name, limits, false⟩ node.pod space
        (gpuPodLog node.pod.podName)

/-- The logs by node, or `False` after an error. -/
def verifyNvidiaSmiOnNode (space : Text) (nodes : List GpuNode) :
    Option (Option (Store Text GpuPodLog) × List PodEvent) :=
  (verifyNodes GpuNode.name (verifyGpuNode space) nodes Store.empty).map
    fun run => (run.1.toOption, run.2)

structure ManagedNode where
  name : Text
  pod : PodAnswers

structure ServiceResult where
  podName : Text
  logs : Text
  allServicesActive : Bool

def managedServices : List Text :=
  [lit "nvidia-dcgm", lit "nvidia-dcgm-exporter", lit "nvidia-device-plugin"]

def serviceResult (podName logs : Text) : ServiceResult where
  podName := podName
  logs := logs
  allServicesActive :=
    managedServices.all fun service => containsText (service ++ lit ": active") logs

def verificationTimeout (podName : Text) : Error :=
  ⟨.external, lit "Verification pod " ++ podName ++ lit " did not complete within 120s"⟩

def verifyManagedNode (space : Text) (node : ManagedNode) :
    Option (Except Error (Option ServiceResult) × List PodEvent) :=
  runPod (.error (verificationTimeout node.pod.podName))
    ⟨node.pod.podName, node.name, [], true⟩ node.pod space (serviceResult node.pod.podName)

def verifyManagedGpuSystemdServices (space : Text) (nodes : List ManagedNode) :
    Option (Except Error (Store Text ServiceResult) × List PodEvent) :=
  verifyNodes ManagedNode.name (verifyManagedNode space) nodes Store.empty

/-! ## One pod -/

def PodUnfinished (pod : PodAnswers) (index : Nat) : Prop :=
  podWaitDue pod.clock index ∧ ∃ phase, pod.phase index = .ok phase ∧ podEnded phase = false

/-- The status read of the first poll that ends the wait fails. -/
def StatusReadFails (pod : PodAnswers) : Prop :=
  ∃ index error, (∀ earlier < index, PodUnfinished pod earlier) ∧
    podWaitDue pod.clock index ∧ pod.phase index = .error error

def WaitRunsOut (pod : PodAnswers) : Prop :=
  ∃ index, (∀ earlier < index, PodUnfinished pod earlier) ∧ ¬ podWaitDue pod.clock index

/-- A step between the creation and the deletion fails. -/
def PodFails (late : Except Error Unit) (pod : PodAnswers) (space : Text) : Prop :=
  StatusReadFails pod ∨ (WaitRunsOut pod ∧ ∃ error, late = .error error) ∨
    ∃ error, podLogText pod space = .error error

private theorem not_podWaitDue (clock : PausedClock 2) {index : Nat} (late : 60 ≤ index) :
    ¬ podWaitDue clock index := by
  have reached := clock.start_add_le index
  have counted : (60 : ℚ) ≤ index := by exact_mod_cast late
  rw [podWaitDue]
  linarith

/-- The wait ends at the first poll that is not unfinished. -/
theorem waitForPod_spec (pod : PodAnswers) (fuel index : Nat) (fueled : 0 < fuel)
    (enough : 60 < fuel + index) (before : ∀ earlier < index, PodUnfinished pod earlier) :
    ∃ last, (∀ earlier < last, PodUnfinished pod earlier) ∧
      ((∃ error, podWaitDue pod.clock last ∧ pod.phase last = .error error ∧
          waitForPod pod fuel index = some (.error error)) ∨
        (∃ phase, podWaitDue pod.clock last ∧ pod.phase last = .ok phase ∧
          podEnded phase = true ∧ waitForPod pod fuel index = some (.ok true)) ∨
        (¬ podWaitDue pod.clock last ∧ waitForPod pod fuel index = some (.ok false))) := by
  induction fuel generalizing index with
  | zero => cases fueled
  | succ fuel induction =>
      rw [waitForPod]
      cases Decidable.em (podWaitDue pod.clock index) with
      | inr late =>
          rw [if_neg late]
          exact ⟨index, before, .inr (.inr ⟨late, rfl⟩)⟩
      | inl due =>
          have early : index < 60 := by
            by_contra reached
            exact not_podWaitDue pod.clock (Nat.le_of_not_lt reached) due
          rw [if_pos due]
          cases read : pod.phase index with
          | error error => exact ⟨index, before, .inl ⟨error, due, read, rfl⟩⟩
          | ok phase =>
              dsimp only
              cases ended : podEnded phase with
              | true => exact ⟨index, before, .inr (.inl ⟨phase, due, read, ended, rfl⟩)⟩
              | false =>
                  rw [if_neg Bool.false_ne_true]
                  have unfinished : PodUnfinished pod index := ⟨due, phase, read, ended⟩
                  apply induction _ (by omega) (by omega)
                  exact Nat.forall_lt_succ_right.mpr ⟨before, unfinished⟩

theorem eq_of_ends {pod : PodAnswers} {first second : Nat}
    (beforeFirst : ∀ earlier < first, PodUnfinished pod earlier)
    (beforeSecond : ∀ earlier < second, PodUnfinished pod earlier)
    (endsFirst : ¬ PodUnfinished pod first) (endsSecond : ¬ PodUnfinished pod second) :
    first = second := by
  apply Nat.le_antisymm
  · by_contra less
    exact endsSecond (beforeFirst second (Nat.lt_of_not_le less))
  · by_contra less
    exact endsFirst (beforeSecond first (Nat.lt_of_not_le less))

theorem not_unfinished_of_late {pod : PodAnswers} {index : Nat}
    (late : ¬ podWaitDue pod.clock index) : ¬ PodUnfinished pod index :=
  fun unfinished => late unfinished.1

private theorem not_unfinished_of_error {pod : PodAnswers} {index : Nat} {error : Error}
    (read : pod.phase index = .error error) : ¬ PodUnfinished pod index := by
  intro unfinished
  obtain ⟨_, _, found, _⟩ := unfinished
  cases read.symm.trans found

private theorem not_unfinished_of_ended {pod : PodAnswers} {index : Nat} {phase : Option Text}
    (read : pod.phase index = .ok phase) (ended : podEnded phase = true) :
    ¬ PodUnfinished pod index := by
  intro unfinished
  obtain ⟨_, _, found, continues⟩ := unfinished
  cases read.symm.trans found
  cases ended.symm.trans continues

theorem podFails_iff_of_ends {late : Except Error Unit} {pod : PodAnswers} {space : Text}
    {last : Nat} (before : ∀ earlier < last, PodUnfinished pod earlier)
    (ends : ¬ PodUnfinished pod last)
    (read : podWaitDue pod.clock last → ∃ phase, pod.phase last = .ok phase)
    (inTime : podWaitDue pod.clock last ∨ late = .ok ()) :
    PodFails late pod space ↔ ∃ error, podLogText pod space = .error error := by
  constructor
  · intro fails
    obtain ⟨index, error, prior, due, failed⟩ | ⟨⟨index, prior, ranOut⟩, error, raises⟩ | unread :=
      fails
    · cases eq_of_ends before prior ends (not_unfinished_of_error failed)
      obtain ⟨phase, found⟩ := read due
      cases found.symm.trans failed
    · cases eq_of_ends before prior ends (not_unfinished_of_late ranOut)
      cases (inTime.resolve_left ranOut).symm.trans raises
    · exact unread
  · intro unread
    exact .inr (.inr unread)

theorem podOutput_of_logs {late : Except Error Unit} {pod : PodAnswers} {space : Text}
    (fails : PodFails late pod space ↔ ∃ error, podLogText pod space = .error error)
    (output : podOutput late pod space = some (podLogText pod space)) :
    (PodFails late pod space ∧ ∃ error, podOutput late pod space = some (.error error)) ∨
    (¬ PodFails late pod space ∧ ∃ output, podOutput late pod space = some (.ok output)) := by
  rw [fails, output]
  cases podLogText pod space with
  | error error => exact .inl ⟨⟨error, rfl⟩, error, rfl⟩
  | ok found => exact .inr ⟨fun unread => (nomatch unread), found, rfl⟩

theorem podOutput_spec (late : Except Error Unit) (pod : PodAnswers) (space : Text) :
    (PodFails late pod space ∧ ∃ error, podOutput late pod space = some (.error error)) ∨
    (¬ PodFails late pod space ∧ ∃ output, podOutput late pod space = some (.ok output)) := by
  obtain ⟨last, before, ⟨error, due, read, ran⟩ | ⟨phase, due, read, ended, ran⟩ |
      ⟨ranOut, ran⟩⟩ :=
    waitForPod_spec pod 61 0 (by omega) (by omega)
      (fun earlier below => absurd below (Nat.not_lt_zero earlier))
  · refine .inl ⟨.inl ⟨last, error, before, due, read⟩, error, ?_⟩
    rw [podOutput, ran]
    rfl
  · apply podOutput_of_logs
    · exact podFails_iff_of_ends before (not_unfinished_of_ended read ended)
        (fun _ => ⟨phase, read⟩) (.inl due)
    · rw [podOutput, ran]
      rfl
  · cases late with
    | error error =>
        refine .inl ⟨.inr (.inl ⟨⟨last, before, ranOut⟩, error, rfl⟩), error, ?_⟩
        rw [podOutput, ran]
        rfl
    | ok done =>
        apply podOutput_of_logs
        · exact podFails_iff_of_ends before (not_unfinished_of_late ranOut)
            (fun due => absurd due ranOut) (.inr rfl)
        · rw [podOutput, ran]
          rfl

/-! ## Created pods and their deletion -/

/-- Every pod that was created has had a deletion requested afterwards. -/
def Cleaned (events : List PodEvent) : Prop :=
  ∀ before body after, events = before ++ .create body true :: after →
    PodEvent.delete body.name ∈ after

theorem cleaned_nil : Cleaned [] := by
  intro before body after same
  exact absurd same nil_ne_append_cons

theorem cleaned_append {first second : List PodEvent} (cleaned : Cleaned first) :
    Cleaned (first ++ second) ↔ Cleaned second := by
  constructor
  · intro all before body after same
    exact all (first ++ before) body after (by rw [same, List.append_assoc])
  · intro later before body after same
    obtain ⟨middle, atStart, atEnd⟩ | ⟨middle, atStart, atEnd⟩ :=
      List.append_eq_append_iff.mp same
    · exact later middle body after atEnd
    · cases middle with
      | nil =>
          rw [List.nil_append] at atEnd
          exact later [] body after atEnd.symm
      | cons event middle =>
          rw [List.cons_append, List.cons.injEq] at atEnd
          obtain ⟨rfl, rfl⟩ := atEnd
          exact List.mem_append_left _ (cleaned before body middle atStart)

private theorem cleaned_not_created (body : VerificationPod) : Cleaned [.create body false] := by
  intro before other after same
  cases before with
  | nil => cases same
  | cons event before =>
      rw [List.cons_append, List.cons.injEq] at same
      exact absurd same.2 nil_ne_append_cons

private theorem cleaned_deleted (body : VerificationPod) :
    Cleaned [.create body true, .delete body.name] := by
  intro before other after same
  cases before with
  | nil =>
      cases same
      exact List.mem_singleton_self _
  | cons event before =>
      rw [List.cons_append, List.cons.injEq] at same
      cases before with
      | nil => cases same.2
      | cons next before =>
          rw [List.cons_append, List.cons.injEq] at same
          exact absurd same.2.2 nil_ne_append_cons

private theorem not_cleaned_created (body : VerificationPod) : ¬ Cleaned [.create body true] := by
  intro cleaned
  exact absurd (cleaned [] body [] rfl) List.not_mem_nil

/-- How the body of the loop leaves one node: with its pod, with no pod after an error, or
done. -/
def NodeEnds {ε : Type} (ran : Option (Except Error (Option ε) × List PodEvent))
    (leaks completes : Prop) : Prop :=
  (leaks ∧ ∃ error events, ran = some (.error error, events) ∧ ¬ Cleaned events) ∨
  (¬ leaks ∧ ¬ completes ∧ ∃ error events, ran = some (.error error, events) ∧
    Cleaned events) ∨
  (¬ leaks ∧ completes ∧ ∃ entry events, ran = some (.ok entry, events) ∧ Cleaned events)

theorem NodeEnds.congr {ε : Type} {ran : Option (Except Error (Option ε) × List PodEvent)}
    {leaks completes leaves finishes : Prop} (ends : NodeEnds ran leaks completes)
    (sameLeak : leaks ↔ leaves) (sameEnd : completes ↔ finishes) :
    NodeEnds ran leaves finishes := by
  rw [← sameLeak, ← sameEnd]
  exact ends

/-- No node that the loop reaches leaks its pod. -/
def NoneLeaks {ν : Type} (leaks completes : ν → Prop) (nodes : List ν) : Prop :=
  ∀ before node after, nodes = before ++ node :: after →
    (∀ earlier ∈ before, completes earlier) → ¬ leaks node

private theorem noneLeaks_cons {ν : Type} {leaks completes : ν → Prop} {node : ν} {rest : List ν} :
    NoneLeaks leaks completes (node :: rest) ↔
      ¬ leaks node ∧ (completes node → NoneLeaks leaks completes rest) := by
  constructor
  · intro none
    refine ⟨none [] node rest rfl (fun earlier member => absurd member List.not_mem_nil), ?_⟩
    intro completed before other after same reached
    apply none (node :: before) other after (by rw [same, List.cons_append])
    intro earlier member
    obtain rfl | later := List.mem_cons.mp member
    · exact completed
    · exact reached earlier later
  · intro none before other after same reached
    cases before with
    | nil =>
        rw [List.nil_append, List.cons.injEq] at same
        rw [← same.1]
        exact none.1
    | cons first before =>
        rw [List.cons_append, List.cons.injEq] at same
        obtain ⟨rfl, same⟩ := same
        exact none.2 (reached node List.mem_cons_self) before other after same
          fun earlier member => reached earlier (List.mem_cons_of_mem _ member)

theorem verifyNodes_cleaned_iff {ν ε : Type} (nodeName : ν → Text)
    {verify : ν → Option (Except Error (Option ε) × List PodEvent)}
    {leaks completes : ν → Prop} (ends : ∀ node, NodeEnds (verify node) (leaks node) (completes node))
    (nodes : List ν) (results : Store Text ε) :
    ∃ run, verifyNodes nodeName verify nodes results = some run ∧
      (Cleaned run.2 ↔ NoneLeaks leaks completes nodes) := by
  induction nodes generalizing results with
  | nil =>
      refine ⟨_, rfl, iff_of_true cleaned_nil ?_⟩
      intro before node after same
      exact absurd same nil_ne_append_cons
  | cons node rest induction =>
      rw [noneLeaks_cons, verifyNodes]
      obtain ⟨leak, error, events, ran, left⟩ | ⟨tidy, stops, error, events, ran, cleaned⟩ |
        ⟨tidy, completed, entry, events, ran, cleaned⟩ := ends node
      · rw [ran]
        exact ⟨_, rfl, iff_of_false left (fun none => none.1 leak)⟩
      · rw [ran]
        exact ⟨_, rfl, iff_of_true cleaned ⟨tidy, fun completed => absurd completed stops⟩⟩
      · rw [ran]
        cases entry with
        | none =>
            obtain ⟨run, later, clean⟩ := induction results
            dsimp only
            rw [later]
            refine ⟨_, rfl, (cleaned_append cleaned).trans (clean.trans ?_)⟩
            rw [and_iff_right tidy, imp_iff_right completed]
        | some entry =>
            obtain ⟨run, later, clean⟩ := induction (results.put (nodeName node) entry)
            dsimp only
            rw [later]
            refine ⟨_, rfl, (cleaned_append cleaned).trans (clean.trans ?_)⟩
            rw [and_iff_right tidy, imp_iff_right completed]

def PodLeaks (late : Except Error Unit) (pod : PodAnswers) (space : Text) : Prop :=
  pod.create = .ok () ∧ PodFails late pod space

def PodCompletes (late : Except Error Unit) (pod : PodAnswers) (space : Text) : Prop :=
  pod.create = .ok () ∧ ¬ PodFails late pod space

theorem runPod_ends {ε : Type} (late : Except Error Unit) (body : VerificationPod)
    (pod : PodAnswers) (space : Text) (entry : Text → ε) :
    NodeEnds (runPod late body pod space entry) (PodLeaks late pod space)
      (PodCompletes late pod space) := by
  rw [NodeEnds, PodLeaks, PodCompletes, runPod]
  cases created : pod.create with
  | error error =>
      exact .inr (.inl ⟨fun leak => (nomatch leak.1), fun done => (nomatch done.1), error, _, rfl,
        cleaned_not_created body⟩)
  | ok created =>
      obtain ⟨fails, error, ran⟩ | ⟨succeeds, output, ran⟩ := podOutput_spec late pod space
      · rw [ran]
        exact .inl ⟨⟨rfl, fails⟩, error, _, rfl, not_cleaned_created body⟩
      · rw [ran]
        exact .inr (.inr ⟨fun leak => succeeds leak.2, ⟨rfl, succeeds⟩, _, _, rfl,
          cleaned_deleted body⟩)

private theorem verifyGpuNode_of_skipped {space : Text} {node : GpuNode}
    (choice : chooseGpuLimits node.clock node.describe 601 = some (.ok none)) :
    verifyGpuNode space node = some (.ok none, []) := by
  rw [verifyGpuNode, choice]

private theorem verifyGpuNode_of_limits {space : Text} {node : GpuNode}
    {limits : List (Text × Text)}
    (choice : chooseGpuLimits node.clock node.describe 601 = some (.ok (some limits))) :
    verifyGpuNode space node =
      runPod (.ok ()) ⟨node.pod.podName, node.name, limits, false⟩ node.pod space
        (gpuPodLog node.pod.podName) := by
  rw [verifyGpuNode, choice]

namespace GpuNode

def GetsPod (node : GpuNode) : Prop :=
  ∃ limits, chooseGpuLimits node.clock node.describe 601 = some (.ok (some limits))

def Leaks (space : Text) (node : GpuNode) : Prop :=
  node.GetsPod ∧ PodLeaks (.ok ()) node.pod space

def Completes (space : Text) (node : GpuNode) : Prop :=
  chooseGpuLimits node.clock node.describe 601 = some (.ok none) ∨
    (node.GetsPod ∧ PodCompletes (.ok ()) node.pod space)

theorem ends (space : Text) (node : GpuNode) :
    NodeEnds (verifyGpuNode space node) (node.Leaks space) (node.Completes space) := by
  obtain ⟨chosen, choice⟩ := exists_chooseGpuLimits node.clock node.describe
    (Nat.lt_succ_self 600)
  rw [Leaks, Completes, GetsPod, verifyGpuNode, choice]
  match chosen with
  | .error error =>
      refine .inr (.inl ⟨?_, ?_, error, [], rfl, cleaned_nil⟩)
      · intro leak
        obtain ⟨⟨_, none⟩, _⟩ := leak
        cases none
      · intro done
        obtain none | ⟨⟨_, none⟩, _⟩ := done
        · cases none
        · cases none
  | .ok none =>
      refine .inr (.inr ⟨?_, .inl rfl, none, [], rfl, cleaned_nil⟩)
      intro leak
      obtain ⟨⟨_, none⟩, _⟩ := leak
      cases none
  | .ok (some limits) =>
      have gets : ∃ others, some (Except.ok (some limits)) =
          some (Except.ok (some others) : Except Error (Option (List (Text × Text)))) :=
        ⟨limits, rfl⟩
      have podEnds := runPod_ends (.ok ()) ⟨node.pod.podName, node.name, limits, false⟩ node.pod
        space (gpuPodLog node.pod.podName)
      apply podEnds.congr
      · rw [and_iff_right gets]
      · rw [and_iff_right gets, or_iff_right]
        intro none
        cases none

end GpuNode

namespace ManagedNode

def late (node : ManagedNode) : Except Error Unit :=
  .error (verificationTimeout node.pod.podName)

def Leaks (space : Text) (node : ManagedNode) : Prop := PodLeaks node.late node.pod space

def Completes (space : Text) (node : ManagedNode) : Prop := PodCompletes node.late node.pod space

theorem ends (space : Text) (node : ManagedNode) :
    NodeEnds (verifyManagedNode space node) (node.Leaks space) (node.Completes space) :=
  runPod_ends node.late ⟨node.pod.podName, node.name, [], true⟩ node.pod space
    (serviceResult node.pod.podName)

end ManagedNode

theorem verifyNvidiaSmiOnNode_cleaned_iff (space : Text) (nodes : List GpuNode) :
    ∃ run, verifyNvidiaSmiOnNode space nodes = some run ∧
      (Cleaned run.2 ↔ NoneLeaks (GpuNode.Leaks space) (GpuNode.Completes space) nodes) := by
  obtain ⟨run, ran, cleaned⟩ := verifyNodes_cleaned_iff GpuNode.name
    (GpuNode.ends space) nodes Store.empty
  refine ⟨(run.1.toOption, run.2), ?_, cleaned⟩
  rw [verifyNvidiaSmiOnNode, ran]
  rfl

private theorem verifyManagedGpuSystemdServices_cleaned_iff (space : Text)
    (nodes : List ManagedNode) :
    ∃ run, verifyManagedGpuSystemdServices space nodes = some run ∧
      (Cleaned run.2 ↔
        NoneLeaks (ManagedNode.Leaks space) (ManagedNode.Completes space) nodes) :=
  verifyNodes_cleaned_iff ManagedNode.name (ManagedNode.ends space) nodes Store.empty

/-- Both verifications delete every pod that they created exactly if, on every node that
they reach, no step between creating and deleting the pod fails. -/
theorem verification_pods_cleaned_iff (space : Text) (gpuNodes : List GpuNode)
    (managedNodes : List ManagedNode) :
    (∃ run, verifyNvidiaSmiOnNode space gpuNodes = some run ∧
      (Cleaned run.2 ↔ NoneLeaks (GpuNode.Leaks space) (GpuNode.Completes space) gpuNodes)) ∧
    (∃ run, verifyManagedGpuSystemdServices space managedNodes = some run ∧
      (Cleaned run.2 ↔
        NoneLeaks (ManagedNode.Leaks space) (ManagedNode.Completes space) managedNodes)) :=
  ⟨verifyNvidiaSmiOnNode_cleaned_iff space gpuNodes,
    verifyManagedGpuSystemdServices_cleaned_iff space managedNodes⟩

/-! ## The resource that a pod requests -/

/-- A node whose descriptions report GPU entries that are counts. -/
structure ReportingNode where
  name : Text
  clock : PausedClock 1
  maps : Nat → CountedAllocatable
  pod : PodAnswers

namespace ReportingNode

def gpuNode (node : ReportingNode) : GpuNode where
  name := node.name
  clock := node.clock
  describe := fun index => .ok (node.maps index).allocatable
  pod := node.pod

def events (space : Text) (node : ReportingNode) : List PodEvent :=
  ((verifyGpuNode space node.gpuNode).map Prod.snd).getD []

/-- Every pod that is created for the node requests one resource, which the last map has,
and no pod is only if no map was positive. -/
structure RequestsRightly (space : Text) (node : ReportingNode) (last : Nat) : Prop where
  available : ∀ body created, .create body created ∈ node.events space →
    ∃ resource, body.limits = [(resource, lit "1")] ∧ 1 ≤ (node.maps last).count resource
  skipped : node.events space = [] ↔ ∀ index ≤ last, ¬ (node.maps index).Positive

end ReportingNode

private theorem runPod_events {ε : Type} (late : Except Error Unit) (body : VerificationPod)
    (pod : PodAnswers) (space : Text) (entry : Text → ε) :
    ∃ result created deletions, runPod late body pod space entry =
        some (result, .create body created :: deletions) ∧
      ∀ event ∈ deletions, ∃ podName, event = .delete podName := by
  rw [runPod]
  cases pod.create with
  | error error =>
      exact ⟨_, false, [], rfl, fun event member => absurd member List.not_mem_nil⟩
  | ok created =>
      obtain ⟨_, error, ran⟩ | ⟨_, output, ran⟩ := podOutput_spec late pod space
      · rw [ran]
        exact ⟨_, true, [], rfl, fun event member => absurd member List.not_mem_nil⟩
      · rw [ran]
        refine ⟨_, true, [.delete body.name], rfl, ?_⟩
        intro event member
        exact ⟨body.name, List.mem_singleton.mp member⟩

private theorem verifyNodes_events {ν ε : Type} {nodeName : ν → Text}
    {verify : ν → Option (Except Error (Option ε) × List PodEvent)} {nodes : List ν}
    {results : Store Text ε} {run : Except Error (Store Text ε) × List PodEvent}
    (ran : verifyNodes nodeName verify nodes results = some run) :
    ∃ visited, visited <+: nodes ∧
      run.2 = visited.flatMap fun node => ((verify node).map Prod.snd).getD [] := by
  induction nodes generalizing results run with
  | nil =>
      cases ran
      exact ⟨[], List.nil_prefix, rfl⟩
  | cons node rest induction =>
      rw [verifyNodes] at ran
      cases visit : verify node with
      | none =>
          rw [visit] at ran
          cases ran
      | some visitRun =>
          rw [visit] at ran
          obtain ⟨result, events⟩ := visitRun
          cases result with
          | error error =>
              cases ran
              refine ⟨[node], (List.prefix_append [node] rest), ?_⟩
              rw [List.flatMap_singleton, visit]
              rfl
          | ok entry =>
              have continues : ∃ later others, verifyNodes nodeName verify rest later =
                  some others ∧ (others.1, events ++ others.2) = run := by
                cases entry with
                | none =>
                    obtain ⟨others, found, same⟩ := Option.map_eq_some_iff.mp ran
                    exact ⟨_, others, found, same⟩
                | some entry =>
                    obtain ⟨others, found, same⟩ := Option.map_eq_some_iff.mp ran
                    exact ⟨_, others, found, same⟩
              obtain ⟨later, others, found, rfl⟩ := continues
              obtain ⟨visited, begins, same⟩ := induction found
              refine ⟨node :: visited, List.cons_prefix_cons.mpr ⟨rfl, begins⟩, ?_⟩
              rw [List.flatMap_cons, ← same, visit]
              rfl

namespace ReportingNode

private theorem events_of_skipped (space : Text) {node : ReportingNode}
    (choice : chooseGpuLimits node.clock node.gpuNode.describe 601 = some (.ok none)) :
    node.events space = [] := by
  rw [events, verifyGpuNode_of_skipped choice]
  rfl

private theorem events_of_limits (space : Text) {node : ReportingNode} {limits : List (Text × Text)}
    (choice : chooseGpuLimits node.clock node.gpuNode.describe 601 = some (.ok (some limits))) :
    ∃ created deletions,
      node.events space =
        .create ⟨node.pod.podName, node.name, limits, false⟩ created :: deletions ∧
      ∀ event ∈ deletions, ∃ podName, event = .delete podName := by
  obtain ⟨result, created, deletions, ran, deletes⟩ := runPod_events (.ok ())
    ⟨node.pod.podName, node.name, limits, false⟩ node.pod space (gpuPodLog node.pod.podName)
  refine ⟨created, deletions, ?_, deletes⟩
  rw [events, verifyGpuNode_of_limits choice, gpuNode, ran]
  rfl

theorem requestsRightly_iff (space : Text) (node : ReportingNode) :
    ∃ last, LastRead node.clock node.maps last ∧
      (node.RequestsRightly space last ↔ ChoosesAvailable node.clock node.maps last) := by
  have reports : ∀ index, node.gpuNode.describe index = .ok (node.maps index).allocatable :=
    fun _ => rfl
  obtain ⟨last, lastRead, choice⟩ :=
    chooseGpuLimits_reads node.clock reports (Nat.lt_succ_self 600)
  refine ⟨last, lastRead, ?_⟩
  rw [← requestsAvailable_iff lastRead]
  cases chosen : gpuResourceLimits (finalGpuCount node.clock node.maps last)
      (node.maps last).allocatable with
  | none =>
      rw [chosen] at choice
      have none := events_of_skipped space choice
      constructor
      · intro rightly
        refine ⟨fun requested limits => (nomatch limits), ?_⟩
        rw [← rightly.skipped]
        exact iff_of_true rfl none
      · intro requests
        refine ⟨?_, ?_⟩
        · intro body created member
          rw [none] at member
          exact absurd member List.not_mem_nil
        · rw [← requests.skipped]
          exact iff_of_true none rfl
  | some limits =>
      rw [chosen] at choice
      obtain ⟨created, deletions, happened, deletes⟩ := events_of_limits space choice
      have requested : node.events space ≠ [] := by
        rw [happened]
        exact List.cons_ne_nil _ _
      constructor
      · intro rightly
        refine ⟨?_, ?_⟩
        · intro others same
          cases same
          apply rightly.available ⟨node.pod.podName, node.name, limits, false⟩ created
          rw [happened]
          exact List.mem_cons_self
        · rw [← rightly.skipped]
          exact iff_of_false (fun none => nomatch none) requested
      · intro requests
        refine ⟨?_, ?_⟩
        · intro body made member
          rw [happened] at member
          obtain same | later := List.mem_cons.mp member
          · cases same
            exact requests.available limits rfl
          · obtain ⟨podName, same⟩ := deletes _ later
            cases same
        · rw [← requests.skipped]
          exact iff_of_false requested (fun none => nomatch none)

end ReportingNode

/-- The run does for each node that it visits what the body does, and each pod requests
rightly exactly if the last map read makes the code choose an available resource. -/
theorem gpu_requests_available_iff (space : Text) (nodes : List ReportingNode) :
    ∃ run visited,
      verifyNvidiaSmiOnNode space (nodes.map ReportingNode.gpuNode) = some run ∧
      visited <+: nodes ∧ run.2 = visited.flatMap (ReportingNode.events space) ∧
      ∀ node ∈ nodes, ∃ last, LastRead node.clock node.maps last ∧
        (node.RequestsRightly space last ↔ ChoosesAvailable node.clock node.maps last) := by
  obtain ⟨run, ran, _⟩ := verifyNodes_cleaned_iff GpuNode.name
    (GpuNode.ends space) (nodes.map ReportingNode.gpuNode) Store.empty
  obtain ⟨mapped, begins, events⟩ := verifyNodes_events ran
  obtain ⟨visited, started, rfl⟩ := List.prefix_map_iff.mp begins
  refine ⟨(run.1.toOption, run.2), visited, ?_, started, ?_,
    fun node _ => node.requestsRightly_iff space⟩
  · rw [verifyNvidiaSmiOnNode, ran]
    rfl
  · rw [events, List.flatMap_map]
    rfl

/-! ## A node with a MIG entry -/

def secondsClock : PausedClock 1 where
  start := 0
  now index := index
  startBefore := by simp
  pauses index := by simp

def twoSecondsClock : PausedClock 2 where
  start := 0
  now index := 2 * index
  startBefore := by simp
  pauses index := by
    push_cast
    linarith

def migEntries (count : Text) : Store Text Text where
  entries := [(gpuKey, lit "1"), (lit "nvidia.com/mig-1g.5gb", count)]
  keysNodup := by
    change [gpuKey, lit "nvidia.com/mig-1g.5gb"].Nodup
    decide

theorem firstMigKey_migEntries (count : Text) :
    firstMigKey (some (migEntries count)) = some (lit "nvidia.com/mig-1g.5gb") := by
  change [gpuKey, lit "nvidia.com/mig-1g.5gb"].find? isMigKey = _
  decide

private theorem gpuResourceLimits_migEntries (gpuCount : Int) (count : Text) :
    gpuResourceLimits gpuCount (some (migEntries count)) =
      some [(lit "nvidia.com/mig-1g.5gb", lit "1")] := by
  have has : hasMig (some (migEntries count)) = true := by
    change [gpuKey, lit "nvidia.com/mig-1g.5gb"].any isMigKey = _
    decide
  rw [gpuResourceLimits, has, if_neg (fun skip => absurd skip.2 (by decide)),
    firstMigKey_migEntries]

def migAllocatable (count : Nat) (text : Text) (parsed : parseInteger? text = some count) :
    CountedAllocatable where
  allocatable := some (migEntries text)
  counted := by
    intro entry member _
    obtain rfl | later := List.mem_cons.mp member
    · exact ⟨1, by decide⟩
    · obtain rfl := List.mem_singleton.mp later
      exact ⟨count, parsed⟩

def unreadPod : PodAnswers where
  podName := lit "gpu-verify-1"
  create := .ok ()
  clock := twoSecondsClock
  phase _ := .error ⟨.external, lit "Service Unavailable"⟩
  logs := .ok (.text [])

def migNode (count : Nat) (text : Text) (parsed : parseInteger? text = some count) :
    ReportingNode where
  name := lit "node"
  clock := secondsClock
  maps _ := migAllocatable count text parsed
  pod := unreadPod

/-- A whole GPU ends the wait, and a MIG entry published as zero is requested. -/
theorem gpu_requests_zero_mig :
    ∃ last, LastRead (migNode 0 (lit "0") (by decide)).clock
        (migNode 0 (lit "0") (by decide)).maps last ∧
      ¬ (migNode 0 (lit "0") (by decide)).RequestsRightly [] last := by
  obtain ⟨last, lastRead, rightly⟩ := (migNode 0 (lit "0") (by decide)).requestsRightly_iff []
  refine ⟨last, lastRead, ?_⟩
  rw [rightly]
  intro chooses
  have none : (migAllocatable 0 (lit "0") (by decide)).count (lit "nvidia.com/mig-1g.5gb") =
      0 := by decide
  exact absurd (none ▸ chooses.mig _ (firstMigKey_migEntries (lit "0"))) (Nat.not_succ_le_zero 0)

private theorem unreadPod_fails (space : Text) : PodFails (.ok ()) unreadPod space := by
  refine .inl ⟨0, _, fun earlier below => absurd below (Nat.not_lt_zero earlier), ?_, rfl⟩
  rw [podWaitDue]
  norm_num [unreadPod, twoSecondsClock]

/-- A status read that fails leaves the pod, and its slice, behind. -/
theorem status_failure_leaks_pod :
    ∃ run, verifyNvidiaSmiOnNode [] [(migNode 1 (lit "1") (by decide)).gpuNode] = some run ∧
      ¬ Cleaned run.2 := by
  obtain ⟨run, ran, cleaned⟩ :=
    verifyNvidiaSmiOnNode_cleaned_iff [] [(migNode 1 (lit "1") (by decide)).gpuNode]
  refine ⟨run, ran, ?_⟩
  rw [cleaned]
  intro none
  apply none [] _ [] rfl (fun earlier member => absurd member List.not_mem_nil)
  have reports : ∀ index, (migNode 1 (lit "1") (by decide)).gpuNode.describe index =
      .ok ((migNode 1 (lit "1") (by decide)).maps index).allocatable := fun _ => rfl
  obtain ⟨last, _, choice⟩ := chooseGpuLimits_reads (migNode 1 (lit "1") (by decide)).clock
    reports (Nat.lt_succ_self 600)
  have gets : chooseGpuLimits (migNode 1 (lit "1") (by decide)).clock
      (migNode 1 (lit "1") (by decide)).gpuNode.describe 601 =
        some (.ok (some [(lit "nvidia.com/mig-1g.5gb", lit "1")])) :=
    choice.trans (congrArg (fun limits => some (Except.ok limits))
      (gpuResourceLimits_migEntries _ (lit "1")))
  exact ⟨⟨_, gets⟩, rfl, unreadPod_fails []⟩

end Telescope.Kubernetes
