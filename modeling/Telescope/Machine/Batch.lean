import Mathlib.Data.List.Perm.Basic
import Mathlib.Data.List.Flatten
import Mathlib.Data.List.Nodup
import Mathlib.Data.Rat.Floor
import Telescope.Data.Exception
import Telescope.Data.Json
import Telescope.Data.Sequence
import Telescope.Text.CharClass

namespace Telescope.Machine

open Telescope

/-! The batch scale path (`AKSMachineClient._scale_machine_batch`).  The replies
that each worker gets, the clock around its request and the order in which the
workers complete are inputs. -/

structure Response where
  statusCode : Nat
  text : Text
  /-- `none` when the body is not JSON -/
  json : Option Json

/-- An exchange ends with a response, or with an exception of the session or of
the token fetch. -/
abbrev Reply := Except Error Response

structure MachineClient where
  subscriptionId : Text
  resourceGroup : Text

structure ScaleRequest where
  agentPoolName : Text
  clusterName : Text
  resourceGroup : Text
  vmSize : Text
  machineWorkers : Int
  timeout : Int

def armBase : Text := lit "https://management.azure.com"

def machineApiVersion : Text := lit "2025-06-02-preview"

def perRequestTimeoutCap : Int := 60

def batch429MaxRetries : Nat := 5

def batchMaxMachinesPerRequest : Nat := 50

def agentPoolPath (subscriptionId resourceGroup clusterName agentPoolName : Text) :
    Text :=
  armBase ++ lit "/subscriptions/" ++ subscriptionId ++ lit "/resourceGroups/" ++
    resourceGroup ++ lit "/providers/Microsoft.ContainerService/managedClusters/" ++
    clusterName ++ lit "/agentPools/" ++ agentPoolName

def machineUrl (client : MachineClient) (request : ScaleRequest) (name : Text) : Text :=
  agentPoolPath client.subscriptionId request.resourceGroup request.clusterName
      request.agentPoolName ++
    lit "/machines/" ++ name ++ lit "?api-version=" ++ machineApiVersion

structure VmSku where
  name : Text
  resourceType : Text

structure BatchMachine where
  machineName : Text

structure BatchHeader where
  vmSkus : List VmSku
  batchMachines : List BatchMachine

/-- The arguments of one `_make_batch_request` call; its 429 retries send the same
request again. -/
structure BatchRequest where
  url : Text
  vmSize : Text
  timeout : Int
  header : BatchHeader
  chunkIdx : Nat
  firstMachineName : Text

namespace BatchRequest

def extraNames (batch : BatchRequest) : List Text :=
  batch.header.batchMachines.map BatchMachine.machineName

def names (batch : BatchRequest) : List Text :=
  batch.firstMachineName :: batch.extraNames

end BatchRequest

def batchSuccessCodes : List Nat := [200, 201, 202, 204]

/-- The attempts from `attempt` on, while `remaining` are left. -/
def makeBatchRequest (context : Text) (replies : Nat → Reply) :
    Nat → Nat → Text → Except Error Unit
  | 0, _, lastText =>
      .error (.runtimeError (lit "batch request exceeded " ++
        natText batch429MaxRetries ++ lit " attempts after HTTP 429 responses [" ++
        context ++ lit "]; last text=" ++ lastText.take 500))
  | remaining + 1, attempt, _ =>
      match replies attempt with
      | .error raised => .error raised
      | .ok response =>
          if response.statusCode ∈ batchSuccessCodes then .ok ()
          else if response.statusCode ≠ 429 then
            .error (.runtimeError (lit "batch request failed [" ++ context ++
              lit "]: " ++ natText response.statusCode ++ lit " " ++
              response.text.take 500))
          else makeBatchRequest context replies remaining (attempt + 1) response.text

structure WorkerRun where
  replies : Nat → Reply
  started : ℚ
  ended : ℚ

structure BatchTiming where
  startTime : Int
  endTime : Int
  executionTimeSeconds : ℚ
  totalMachinesInBatch : Nat

/-- What one worker issued, recorded and returned. -/
structure ChunkOutcome where
  issued : Option BatchRequest
  timing : Option (Text × BatchTiming)
  created : Except Error (List Text)

def batchRequest (client : MachineClient) (request : ScaleRequest) (chunkIdx : Nat)
    (first : Text) (remaining : List Text) : BatchRequest :=
  { url := machineUrl client request first
    vmSize := request.vmSize
    timeout := min request.timeout perRequestTimeoutCap
    header :=
      { vmSkus := [{ name := request.vmSize, resourceType := lit "virtualMachines" }]
        batchMachines := remaining.map BatchMachine.mk }
    chunkIdx := chunkIdx
    firstMachineName := first }

def BatchRequest.context (batch : BatchRequest) : Text :=
  lit "chunk=" ++ natText batch.chunkIdx ++ lit " target=" ++ batch.firstMachineName ++
    lit " PUT " ++ batch.url

def createBatchMachines (client : MachineClient) (request : ScaleRequest)
    (chunk : List Text) (chunkIdx : Nat) (run : WorkerRun) : ChunkOutcome :=
  match chunk with
  | [] => { issued := none, timing := none, created := .ok [] }
  | first :: remaining =>
      if chunk.length > batchMaxMachinesPerRequest then
        { issued := none
          timing := none
          created := .error (.valueError (lit "BatchPutMachine supports at most " ++
            natText batchMaxMachinesPerRequest ++ lit " machines per request; got " ++
            natText chunk.length)) }
      else
        let batch := batchRequest client request chunkIdx first remaining
        match makeBatchRequest batch.context run.replies batch429MaxRetries 0 [] with
        | .error raised =>
            { issued := some batch, timing := none, created := .error raised }
        | .ok () =>
            { issued := some batch
              timing := some (first,
                { startTime := ⌊run.started⌋
                  endTime := ⌊run.ended⌋
                  executionTimeSeconds := run.ended - run.started
                  totalMachinesInBatch := chunk.length })
              created := .ok chunk }

def workerChunk (names : List Text) (perWorker workerId : Nat) : List Text :=
  slice names (workerId * perWorker) perWorker

/-- A worker that raises contributes no name. -/
def ChunkOutcome.names (outcome : ChunkOutcome) : List Text :=
  match outcome.created with
  | .ok names => names
  | .error _ => []

structure BatchOutcome where
  requests : List BatchRequest
  timings : List (Text × BatchTiming)
  result : Except Error (List Text)

/-- How the workers run: the replies and clock of each, and the order in which
`as_completed` yields them. -/
structure BatchRun (workers : Nat) where
  worker : Nat → WorkerRun
  order : List Nat
  complete : order.Perm (List.range workers)

def batchRejected (message : Text) : BatchOutcome :=
  { requests := [], timings := [], result := .error (.valueError message) }

def scaleMachineBatch (client : MachineClient) (request : ScaleRequest)
    (names : List Text) (run : BatchRun request.machineWorkers.toNat) : BatchOutcome :=
  let count : Int := names.length
  let workers := request.machineWorkers
  if workers ≤ 0 then
    batchRejected (lit "machine_workers must be positive (got " ++ intText workers ++
      lit ")")
  else if count % workers ≠ 0 then
    batchRejected (lit "scale_machine_count (" ++ intText count ++
      lit ") must be an exact multiple of machine_workers (" ++ intText workers ++
      lit ") when use_batch_api=True; got remainder " ++ intText (count % workers))
  else if count / workers > batchMaxMachinesPerRequest then
    batchRejected (lit "calculated batch size (" ++ intText (count / workers) ++
      lit ") exceeds BatchPutMachine limit (" ++ natText batchMaxMachinesPerRequest ++
      lit "); increase machine_workers for scale_machine_count (" ++ intText count ++
      lit ")")
  else
    let perWorker := (count / workers).toNat
    let outcomes := run.order.map fun workerId =>
      createBatchMachines client request (workerChunk names perWorker workerId) workerId
        (run.worker workerId)
    { requests := outcomes.filterMap ChunkOutcome.issued
      timings := outcomes.filterMap ChunkOutcome.timing
      result := .ok (outcomes.flatMap ChunkOutcome.names) }

/-! One request: it succeeds exactly when fewer than five throttled replies come
before an accepted one. -/

def accepted : Reply → Bool
  | .ok response => decide (response.statusCode ∈ batchSuccessCodes)
  | .error _ => false

def throttled : Reply → Bool
  | .ok response => decide (response.statusCode = 429)
  | .error _ => false

abbrev RequestSucceeds (replies : Nat → Reply) : Prop :=
  ∃ k, k < batch429MaxRetries ∧ (∀ j, j < k → throttled (replies j) = true) ∧
    accepted (replies k) = true

private theorem makeBatchRequest_of_accepted (context : Text) (replies : Nat → Reply)
    (remaining attempt : Nat) (lastText : Text)
    (met : accepted (replies attempt) = true) :
    makeBatchRequest context replies (remaining + 1) attempt lastText = .ok () := by
  rw [makeBatchRequest]
  cases reply : replies attempt with
  | error raised => simp [accepted, reply] at met
  | ok response =>
      rw [reply, accepted, decide_eq_true_eq] at met
      simp only [if_pos met]

private theorem makeBatchRequest_of_throttled (context : Text) (replies : Nat → Reply)
    (remaining attempt : Nat) (lastText : Text)
    (met : throttled (replies attempt) = true) :
    ∃ text, makeBatchRequest context replies (remaining + 1) attempt lastText =
      makeBatchRequest context replies remaining (attempt + 1) text := by
  rw [makeBatchRequest]
  cases reply : replies attempt with
  | error raised => simp [throttled, reply] at met
  | ok response =>
      rw [reply, throttled, decide_eq_true_eq] at met
      refine ⟨response.text, ?_⟩
      simp [met, batchSuccessCodes]

private theorem makeBatchRequest_of_refused (context : Text) (replies : Nat → Reply)
    (remaining attempt : Nat) (lastText : Text)
    (notAccepted : accepted (replies attempt) = false)
    (notThrottled : throttled (replies attempt) = false) :
    makeBatchRequest context replies (remaining + 1) attempt lastText ≠ .ok () := by
  rw [makeBatchRequest]
  cases reply : replies attempt with
  | error raised => simp
  | ok response =>
      rw [reply, accepted, decide_eq_false_iff_not] at notAccepted
      rw [reply, throttled, decide_eq_false_iff_not] at notThrottled
      simp [notAccepted, notThrottled]

private theorem makeBatchRequest_ok_iff (context : Text) (replies : Nat → Reply)
    (remaining attempt : Nat) (lastText : Text) :
    makeBatchRequest context replies remaining attempt lastText = .ok () ↔
      ∃ k, k < remaining ∧ (∀ j, j < k → throttled (replies (attempt + j)) = true) ∧
        accepted (replies (attempt + k)) = true := by
  induction remaining generalizing attempt lastText with
  | zero => simp [makeBatchRequest]
  | succ remaining induction =>
      cases isAccepted : accepted (replies attempt) with
      | true =>
          constructor
          · intro _
            refine ⟨0, Nat.succ_pos _, ?_, isAccepted⟩
            intro j below
            exact absurd below (Nat.not_lt_zero j)
          · intro _
            exact makeBatchRequest_of_accepted context replies remaining attempt lastText
              isAccepted
      | false =>
          cases isThrottled : throttled (replies attempt) with
          | true =>
              obtain ⟨text, next⟩ := makeBatchRequest_of_throttled context replies
                remaining attempt lastText isThrottled
              rw [next, induction]
              constructor
              · rintro ⟨k, below, before, here⟩
                refine ⟨k + 1, Nat.succ_lt_succ below, ?_, ?_⟩
                · intro j inside
                  cases j with
                  | zero => exact isThrottled
                  | succ j =>
                      rw [Nat.add_comm j 1, ← Nat.add_assoc]
                      exact before j (Nat.lt_of_succ_lt_succ inside)
                · rw [Nat.add_comm k 1, ← Nat.add_assoc]
                  exact here
              · rintro ⟨k, below, before, here⟩
                cases k with
                | zero => exact Bool.noConfusion (isAccepted.symm.trans here)
                | succ k =>
                    rw [Nat.add_comm k 1, ← Nat.add_assoc] at here
                    refine ⟨k, Nat.lt_of_succ_lt_succ below, ?_, here⟩
                    intro j inside
                    have next := before (j + 1) (Nat.succ_lt_succ inside)
                    rwa [Nat.add_comm j 1, ← Nat.add_assoc] at next
          | false =>
              constructor
              · intro succeeded
                exact absurd succeeded (makeBatchRequest_of_refused context replies
                  remaining attempt lastText isAccepted isThrottled)
              · rintro ⟨k, -, before, here⟩
                cases k with
                | zero => exact Bool.noConfusion (isAccepted.symm.trans here)
                | succ k =>
                    exact Bool.noConfusion
                      (isThrottled.symm.trans (before 0 (Nat.succ_pos k)))

/-! One worker: it issues a request that carries its chunk, none for an empty
chunk, and returns the chunk exactly when the request succeeds. -/

theorem names_batchRequest (client : MachineClient) (request : ScaleRequest)
    (chunkIdx : Nat) (first : Text) (remaining : List Text) :
    (batchRequest client request chunkIdx first remaining).names = first :: remaining := by
  have wrapped : BatchMachine.machineName ∘ BatchMachine.mk = id := rfl
  simp [BatchRequest.names, BatchRequest.extraNames, batchRequest, wrapped]

theorem createBatchMachines_issued (client : MachineClient) (request : ScaleRequest)
    (first : Text) (remaining : List Text) (chunkIdx : Nat) (run : WorkerRun)
    (bounded : (first :: remaining).length ≤ batchMaxMachinesPerRequest) :
    (createBatchMachines client request (first :: remaining) chunkIdx run).issued =
      some (batchRequest client request chunkIdx first remaining) := by
  rw [createBatchMachines, if_neg (Nat.not_lt.mpr bounded)]
  cases sent : makeBatchRequest
      (batchRequest client request chunkIdx first remaining).context run.replies
      batch429MaxRetries 0 [] with
  | error raised => simp only [sent]
  | ok done => simp only [sent]

private theorem createBatchMachines_names (client : MachineClient) (request : ScaleRequest)
    (chunk : List Text) (chunkIdx : Nat) (run : WorkerRun)
    (bounded : chunk.length ≤ batchMaxMachinesPerRequest) :
    (createBatchMachines client request chunk chunkIdx run).names =
      if RequestSucceeds run.replies then chunk else [] := by
  cases chunk with
  | nil => simp [createBatchMachines, ChunkOutcome.names]
  | cons first remaining =>
      have succeeds := makeBatchRequest_ok_iff
        (batchRequest client request chunkIdx first remaining).context run.replies
        batch429MaxRetries 0 []
      simp only [Nat.zero_add] at succeeds
      rw [createBatchMachines, if_neg (Nat.not_lt.mpr bounded)]
      cases sent : makeBatchRequest
          (batchRequest client request chunkIdx first remaining).context run.replies
          batch429MaxRetries 0 [] with
      | error raised =>
          rw [sent] at succeeds
          rw [if_neg fun holds => nomatch succeeds.mpr holds]
          simp only [sent, ChunkOutcome.names]
      | ok done =>
          rw [if_pos (succeeds.mp sent)]
          simp only [sent, ChunkOutcome.names]

/-! All workers. -/

section Workers

variable (client : MachineClient) (request : ScaleRequest) (chunk : Nat → List Text)
  (worker : Nat → WorkerRun)
  (bounded : ∀ workerId, (chunk workerId).length ≤ batchMaxMachinesPerRequest)

def workerOutcome (workerId : Nat) : ChunkOutcome :=
  createBatchMachines client request (chunk workerId) workerId (worker workerId)

include bounded

private theorem names_issued (order : List Nat) :
    ((order.map (workerOutcome client request chunk worker)).filterMap
        ChunkOutcome.issued).flatMap BatchRequest.names = order.flatMap chunk := by
  induction order with
  | nil => rfl
  | cons workerId order induction =>
      have short := bounded workerId
      rw [List.map_cons, List.flatMap_cons]
      cases chunkEquation : chunk workerId with
      | nil =>
          have none : (workerOutcome client request chunk worker workerId).issued = none := by
            rw [workerOutcome, chunkEquation]
            rfl
          rw [List.filterMap_cons_none none, induction]
          rfl
      | cons first remaining =>
          have some : (workerOutcome client request chunk worker workerId).issued =
              some (batchRequest client request workerId first remaining) := by
            rw [chunkEquation] at short
            rw [workerOutcome, chunkEquation]
            exact createBatchMachines_issued client request first remaining workerId _ short
          rw [List.filterMap_cons_some some, List.flatMap_cons, induction,
            names_batchRequest]

private theorem names_created (order : List Nat) :
    (order.map (workerOutcome client request chunk worker)).flatMap ChunkOutcome.names =
      (order.filter fun workerId => RequestSucceeds (worker workerId).replies).flatMap
        chunk := by
  induction order with
  | nil => rfl
  | cons workerId order induction =>
      have created := createBatchMachines_names client request (chunk workerId) workerId
        (worker workerId) (bounded workerId)
      rw [List.map_cons, List.flatMap_cons, induction, List.filter_cons, workerOutcome,
        created]
      by_cases succeeds : RequestSucceeds (worker workerId).replies
      · rw [if_pos succeeds, if_pos (decide_eq_true succeeds), List.flatMap_cons]
      · rw [if_neg succeeds, if_neg (by simpa using succeeds), List.nil_append]

theorem issued_carries_chunk (order : List Nat) (batch : BatchRequest)
    (member : batch ∈ (order.map (workerOutcome client request chunk worker)).filterMap
      ChunkOutcome.issued) :
    batch.url = machineUrl client request batch.firstMachineName ∧
      ∃ workerId ∈ order, batch.names = chunk workerId := by
  obtain ⟨outcome, outcomeMember, issued⟩ := List.mem_filterMap.mp member
  obtain ⟨workerId, ordered, rfl⟩ := List.mem_map.mp outcomeMember
  have short := bounded workerId
  cases chunkEquation : chunk workerId with
  | nil =>
      rw [workerOutcome, chunkEquation] at issued
      exact absurd issued (Option.some_ne_none batch).symm
  | cons first remaining =>
      rw [chunkEquation] at short
      rw [workerOutcome, chunkEquation, createBatchMachines_issued client request first
        remaining workerId _ short] at issued
      have same := Option.some.inj issued
      rw [← same]
      refine ⟨rfl, workerId, ordered, ?_⟩
      rw [chunkEquation]
      exact names_batchRequest client request workerId first remaining

end Workers

theorem flatMap_workerChunk (names : List Text) (perWorker workers : Nat)
    (exact : names.length = workers * perWorker) :
    (List.range workers).flatMap (workerChunk names perWorker) = names := by
  have flattened := flatten_slices names perWorker workers
  rw [← List.flatMap_def] at flattened
  rw [← exact, List.take_length] at flattened
  exact flattened

private theorem length_workerChunk_le (names : List Text) (perWorker workerId : Nat) :
    (workerChunk names perWorker workerId).length ≤ perWorker :=
  List.length_take_le _ _

/-- The requests carry each name once, and nothing else. -/
structure BatchPartition (client : MachineClient) (request : ScaleRequest)
    (names : List Text) (requests : List BatchRequest) : Prop where
  once : ∀ name ∈ names, ∃ before batch after,
    requests = before ++ batch :: after ∧ batch.names.count name = 1 ∧
      ∀ other ∈ before ++ after, name ∉ other.names
  only : ∀ batch ∈ requests, ∀ name ∈ batch.names, name ∈ names
  bounded : ∀ batch ∈ requests, batch.names.length ≤ batchMaxMachinesPerRequest
  target : ∀ batch ∈ requests,
    batch.url = machineUrl client request batch.firstMachineName

def BatchFits (request : ScaleRequest) (names : List Text) : Prop :=
  0 < request.machineWorkers ∧ request.machineWorkers ∣ (names.length : Int) ∧
    (names.length : Int) / request.machineWorkers ≤ batchMaxMachinesPerRequest

instance (request : ScaleRequest) (names : List Text) :
    Decidable (BatchFits request names) :=
  inferInstanceAs (Decidable (_ ∧ _ ∧ _))

def perWorker (request : ScaleRequest) (names : List Text) : Nat :=
  ((names.length : Int) / request.machineWorkers).toNat

theorem BatchFits.length {request : ScaleRequest} {names : List Text}
    (fits : BatchFits request names) :
    names.length = request.machineWorkers.toNat * perWorker request names := by
  obtain ⟨positive, divides, -⟩ := fits
  have product := Int.mul_ediv_cancel' divides
  have quotient : 0 ≤ (names.length : Int) / request.machineWorkers :=
    Int.ediv_nonneg (Int.natCast_nonneg _) (Int.le_of_lt positive)
  zify
  rw [perWorker, Int.toNat_of_nonneg (Int.le_of_lt positive),
    Int.toNat_of_nonneg quotient, product]

theorem scaleMachineBatch_of_fits (client : MachineClient) (request : ScaleRequest)
    (names : List Text) (run : BatchRun request.machineWorkers.toNat)
    (fits : BatchFits request names) :
    (scaleMachineBatch client request names run).requests =
        (run.order.map (workerOutcome client request
          (workerChunk names (perWorker request names)) run.worker)).filterMap
            ChunkOutcome.issued ∧
      (scaleMachineBatch client request names run).result =
        .ok ((run.order.map (workerOutcome client request
          (workerChunk names (perWorker request names)) run.worker)).flatMap
            ChunkOutcome.names) := by
  obtain ⟨positive, divides, bounded⟩ := fits
  have multiple : ¬ (names.length : Int) % request.machineWorkers ≠ 0 :=
    not_not.mpr (Int.emod_eq_zero_of_dvd divides)
  simp only [scaleMachineBatch, if_neg (not_le.mpr positive), if_neg multiple,
    if_neg (not_lt.mpr bounded)]
  exact ⟨rfl, rfl⟩

theorem scaleMachineBatch_of_not_fits (client : MachineClient) (request : ScaleRequest)
    (names : List Text) (run : BatchRun request.machineWorkers.toNat)
    (unfit : ¬ BatchFits request names) :
    ∃ message, scaleMachineBatch client request names run = batchRejected message := by
  rw [scaleMachineBatch]
  split
  · exact ⟨_, rfl⟩
  · rename_i positive
    split
    · exact ⟨_, rfl⟩
    · rename_i multiple
      split
      · exact ⟨_, rfl⟩
      · rename_i bounded
        refine absurd ⟨not_le.mp positive, ?_, not_lt.mp bounded⟩ unfit
        exact Int.dvd_of_emod_eq_zero (not_not.mp multiple)

theorem BatchFits.bounded {request : ScaleRequest} {names : List Text}
    (fits : BatchFits request names) (workerId : Nat) :
    (workerChunk names (perWorker request names) workerId).length ≤
      batchMaxMachinesPerRequest := by
  have short := length_workerChunk_le names (perWorker request names) workerId
  have limit := fits.2.2
  have cap : perWorker request names ≤ batchMaxMachinesPerRequest := by
    rw [perWorker]
    omega
  omega

private theorem scaleMachineBatch_requests (client : MachineClient) (request : ScaleRequest)
    (names : List Text) (run : BatchRun request.machineWorkers.toNat)
    (fits : BatchFits request names) :
    ((scaleMachineBatch client request names run).requests.flatMap
      BatchRequest.names).Perm names := by
  have carried := names_issued client request
    (workerChunk names (perWorker request names)) run.worker fits.bounded run.order
  have reordered := run.complete.flatMap_right
    (workerChunk names (perWorker request names))
  rw [flatMap_workerChunk names _ _ fits.length] at reordered
  rw [(scaleMachineBatch_of_fits client request names run fits).1, carried]
  exact reordered

/-- The names of the chunks whose request succeeded. -/
def landedNames (request : ScaleRequest) (names : List Text)
    (run : BatchRun request.machineWorkers.toNat) : List Text :=
  ((List.range request.machineWorkers.toNat).filter fun workerId =>
    RequestSucceeds (run.worker workerId).replies).flatMap
      (workerChunk names (perWorker request names))

theorem scaleMachineBatch_result (client : MachineClient) (request : ScaleRequest)
    (names : List Text) (run : BatchRun request.machineWorkers.toNat)
    (fits : BatchFits request names) :
    ∃ successful, (scaleMachineBatch client request names run).result = .ok successful ∧
      successful.Perm (landedNames request names run) := by
  refine ⟨_, (scaleMachineBatch_of_fits client request names run fits).2, ?_⟩
  rw [names_created client request _ run.worker fits.bounded run.order]
  exact (run.complete.filter _).flatMap_right _

theorem landedNames_sublist (request : ScaleRequest) (names : List Text)
    (run : BatchRun request.machineWorkers.toNat) (fits : BatchFits request names) :
    (landedNames request names run).Sublist names := by
  have whole := flatMap_workerChunk names _ _ fits.length
  have kept : ((List.range request.machineWorkers.toNat).filter fun workerId =>
      RequestSucceeds (run.worker workerId).replies).Sublist
        (List.range request.machineWorkers.toNat) := List.filter_sublist
  have chunks := kept.flatMap (workerChunk names (perWorker request names))
  rw [whole] at chunks
  exact chunks

/-- The fan-out partitions the names over its requests and returns the chunks whose
request succeeded, in any completion order; unfit sizes raise before any request. -/
theorem scale_machine_batch_partitions (client : MachineClient) (request : ScaleRequest)
    (names : List Text) (distinct : names.Nodup)
    (run : BatchRun request.machineWorkers.toNat) :
    (BatchFits request names →
      BatchPartition client request names
        (scaleMachineBatch client request names run).requests ∧
      ∃ successful, (scaleMachineBatch client request names run).result =
          .ok successful ∧
        successful.Perm (landedNames request names run)) ∧
    (¬ BatchFits request names →
      (∃ message, (scaleMachineBatch client request names run).result =
        .error (.valueError message)) ∧
      (scaleMachineBatch client request names run).requests = []) := by
  constructor
  · intro fits
    have carried := scaleMachineBatch_requests client request names run fits
    have requests := (scaleMachineBatch_of_fits client request names run fits).1
    refine ⟨?_, scaleMachineBatch_result client request names run fits⟩
    constructor
    · intro name member
      exact exists_single_block carried distinct member
    · intro batch member name inBatch
      exact carried.subset (List.mem_flatMap.mpr ⟨batch, member, inBatch⟩)
    · intro batch member
      rw [requests] at member
      obtain ⟨-, workerId, -, chunk⟩ := issued_carries_chunk client request _ run.worker
        fits.bounded run.order batch member
      rw [chunk]
      exact fits.bounded workerId
    · intro batch member
      rw [requests] at member
      exact (issued_carries_chunk client request _ run.worker fits.bounded run.order batch
        member).1
  · intro unfit
    obtain ⟨message, rejected⟩ :=
      scaleMachineBatch_of_not_fits client request names run unfit
    rw [rejected]
    exact ⟨⟨message, rfl⟩, rfl⟩

def twoWorkers : ScaleRequest :=
  { agentPoolName := lit "machines"
    clusterName := lit "aks"
    resourceGroup := lit "rg"
    vmSize := lit "Standard_D2_v3"
    machineWorkers := 2
    timeout := 600 }

def fourNames : List Text :=
  [lit "scale4-machine-1", lit "scale4-machine-2", lit "scale4-machine-3",
    lit "scale4-machine-4"]

/-- Worker 1 completes first, throttled to the end; worker 0 is accepted after one
throttled attempt. -/
def throttledRun : BatchRun 2 where
  worker workerId :=
    { replies := fun attempt =>
        if workerId = 0 ∧ attempt = 1 then .ok ⟨201, [], none⟩
        else .ok ⟨429, lit "slow down", none⟩
      started := 0
      ended := 3 }
  order := [1, 0]
  complete := List.Perm.swap 0 1 []

theorem throttled_run_keeps_first_chunk :
    fourNames.Nodup ∧
      BatchPartition ⟨lit "sub", lit "rg"⟩ twoWorkers fourNames
        (scaleMachineBatch ⟨lit "sub", lit "rg"⟩ twoWorkers fourNames
          throttledRun).requests ∧
      ∃ successful,
        (scaleMachineBatch ⟨lit "sub", lit "rg"⟩ twoWorkers fourNames
          throttledRun).result = .ok successful ∧
        successful.Perm [lit "scale4-machine-1", lit "scale4-machine-2"] := by
  have distinct : fourNames.Nodup := by decide
  have fits : BatchFits twoWorkers fourNames := ⟨by decide, by decide, by decide⟩
  obtain ⟨partition, successful, result, perm⟩ :=
    (scale_machine_batch_partitions ⟨lit "sub", lit "rg"⟩ twoWorkers fourNames distinct
      throttledRun).1 fits
  exact ⟨distinct, partition, successful, result, perm⟩

end Telescope.Machine
