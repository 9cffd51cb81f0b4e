import Telescope.Data.Exception
import Telescope.Data.Polling
import Telescope.Data.Store
import Telescope.Text.Integer

namespace Telescope.Kubernetes

open Telescope

/-! `get_ready_nodes` and `wait_for_nodes_ready`. -/

structure NodeCondition where
  type : Text
  status : Text

structure Taint where
  key : Text
  effect : Text

/-- A node as the API server lists it; what is `None` there is absent. -/
structure ListedNode where
  name : Text
  conditions : Option (List NodeCondition)
  unschedulable : Option Bool
  taints : Option (List Taint)

def builtinTaintsKeys : List Text :=
  [lit "node.kubernetes.io/not-ready",
   lit "node.kubernetes.io/unreachable",
   lit "node.kubernetes.io/pid-pressure",
   lit "node.kubernetes.io/out-of-disk",
   lit "node.kubernetes.io/memory-pressure",
   lit "node.kubernetes.io/disk-pressure",
   lit "node.kubernetes.io/network-unavailable",
   lit "node.kubernetes.io/unschedulable",
   lit "node.cloudprovider.kubernetes.io/uninitialized",
   lit "node.cloudprovider.kubernetes.io/shutdown"]

def noneNotIterable : Error := .typeError (lit "'NoneType' object is not iterable")

/-- `{cond.type: cond.status for cond in conditions}` -/
def statusConditions (conditions : List NodeCondition) : Store Text Text :=
  Store.empty.putAll (conditions.map fun cond => (cond.type, cond.status))

namespace ListedNode

def isNodeSchedulable (node : ListedNode) : Except Error Bool :=
  match node.conditions with
  | none => .error noneNotIterable
  | some conditions =>
      .ok (decide ((statusConditions conditions).get? (lit "Ready") = some (lit "True") ∧
        (statusConditions conditions).get? (lit "NetworkUnavailable") ≠ some (lit "True") ∧
        node.unschedulable ≠ some true))

/-- A builtin taint that keeps pods off the node. -/
def blocks (taint : Taint) : Bool :=
  decide (taint.key ∈ builtinTaintsKeys) &&
    decide (taint.effect ∈ [lit "NoSchedule", lit "NoExecute"])

def isNodeUntainted (node : ListedNode) : Bool :=
  match node.taints with
  | none => true
  | some taints => !taints.any blocks

end ListedNode

def selectReady : List ListedNode → Except Error (List ListedNode)
  | [] => .ok []
  | node :: rest => do
      let schedulable ← node.isNodeSchedulable
      let selected ← selectReady rest
      return if schedulable && node.isNodeUntainted then node :: selected else selected

def getReadyNodes (listing : Except Error (List ListedNode)) :
    Except Error (List ListedNode) := do
  let nodes ← listing
  selectReady nodes

section Wait

variable (ready : Except Error (List ListedNode) → Except Error (List ListedNode))
variable (clock : PausedClock 10) (operationTimeoutInMinutes : ℚ)

/-- The wait's loop around a reading of the ready nodes, with the count of the last
reading; `none` when the fuel runs out. -/
def waitForReadyCount (listing : Nat → Except Error (List ListedNode)) (nodeCount : Nat) :
    Nat → Nat → Nat → Option (Except Error (List ListedNode))
  | 0, _, _ => none
  | fuel + 1, index, readyNodeCount =>
      if clock.now index < clock.start + operationTimeoutInMinutes * 60 then
        match ready (listing index) with
        | .error error => some (.error error)
        | .ok readyNodes =>
            if readyNodes.length = nodeCount then some (.ok readyNodes)
            else waitForReadyCount listing nodeCount fuel (index + 1) readyNodes.length
      else
        some (.error ⟨.external, lit "Only " ++ natText readyNodeCount ++
          lit " nodes are ready, expected " ++ natText nodeCount ++ lit " nodes!"⟩)

end Wait

def waitForNodesReady (clock : PausedClock 10) (operationTimeoutInMinutes : ℚ)
    (listing : Nat → Except Error (List ListedNode)) (nodeCount fuel : Nat) :
    Option (Except Error (List ListedNode)) :=
  waitForReadyCount getReadyNodes clock operationTimeoutInMinutes listing nodeCount fuel 0 0

/-! ## The filter's specification -/

/-- The status of a node's condition; of several of one type the last one counts. -/
def conditionStatus (conditions : List NodeCondition) (type : Text) : Option Text :=
  ((conditions.filter fun cond => cond.type = type).getLast?).map NodeCondition.status

namespace ListedNode

def status (node : ListedNode) (type : Text) : Option Text :=
  conditionStatus (node.conditions.getD []) type

/-- What is asked of a node apart from its network. -/
def Accepts (node : ListedNode) : Prop :=
  node.status (lit "Ready") = some (lit "True") ∧ node.unschedulable ≠ some true ∧
    ∀ taint ∈ node.taints.getD [], ¬ (taint.key ∈ builtinTaintsKeys ∧
      taint.effect ∈ [lit "NoSchedule", lit "NoExecute"])

def NetworkAvailable (node : ListedNode) : Prop :=
  node.status (lit "NetworkUnavailable") ∈ [none, some (lit "False")]

instance (node : ListedNode) : Decidable node.Accepts :=
  inferInstanceAs (Decidable (_ ∧ _ ∧ _))

instance (node : ListedNode) : Decidable node.NetworkAvailable :=
  inferInstanceAs (Decidable (_ ∈ _))

def isReady (node : ListedNode) : Bool :=
  decide node.Accepts && decide node.NetworkAvailable

/-- The conditions are reported, and a node that is accepted otherwise has a network
condition that is `True` or `False`, if any. -/
def Decided (node : ListedNode) : Prop :=
  node.conditions.isSome = true ∧
    (node.Accepts → node.status (lit "NetworkUnavailable") ∈
      [none, some (lit "False"), some (lit "True")])

end ListedNode

private theorem get?_statusConditions (conditions : List NodeCondition) (type : Text) :
    (statusConditions conditions).get? type = conditionStatus conditions type := by
  rw [statusConditions, Store.get?_putAll, List.filter_map, List.getLast?_map, conditionStatus,
    Option.map_map]
  exact Option.or_none

namespace ListedNode

private theorem any_blocks_iff {taints : List Taint} :
    taints.any blocks = false ↔
      ∀ taint ∈ taints, ¬ (taint.key ∈ builtinTaintsKeys ∧
        taint.effect ∈ [lit "NoSchedule", lit "NoExecute"]) := by
  rw [List.any_eq_false]
  apply forall₂_congr
  intro taint _
  rw [blocks, Bool.and_eq_true, decide_eq_true_iff, decide_eq_true_iff]

private theorem isNodeUntainted_iff {node : ListedNode} :
    node.isNodeUntainted = true ↔
      ∀ taint ∈ node.taints.getD [], ¬ (taint.key ∈ builtinTaintsKeys ∧
        taint.effect ∈ [lit "NoSchedule", lit "NoExecute"]) := by
  rw [isNodeUntainted]
  cases node.taints with
  | none => exact iff_of_true rfl fun taint member => absurd member List.not_mem_nil
  | some taints =>
      rw [Bool.not_eq_true']
      exact any_blocks_iff

def keeps (node : ListedNode) : Bool :=
  decide node.Accepts && decide (node.status (lit "NetworkUnavailable") ≠ some (lit "True"))

theorem keeps_iff {node : ListedNode} :
    node.keeps = true ↔
      node.Accepts ∧ node.status (lit "NetworkUnavailable") ≠ some (lit "True") := by
  rw [keeps, Bool.and_eq_true, decide_eq_true_iff, decide_eq_true_iff]

private theorem isReady_iff {node : ListedNode} :
    node.isReady = true ↔ node.Accepts ∧
      node.status (lit "NetworkUnavailable") ∈ [none, some (lit "False")] := by
  rw [isReady, Bool.and_eq_true, decide_eq_true_iff, decide_eq_true_iff]
  rfl

private theorem checks_eq_keeps {node : ListedNode} (reported : node.conditions.isSome = true) :
    ∃ schedulable, node.isNodeSchedulable = .ok schedulable ∧
      (schedulable && node.isNodeUntainted) = node.keeps := by
  obtain ⟨conditions, found⟩ := Option.isSome_iff_exists.mp reported
  rw [isNodeSchedulable, found]
  refine ⟨_, rfl, ?_⟩
  have read (type : Text) :
      (statusConditions conditions).get? type = node.status type := by
    rw [get?_statusConditions, status, found]
    rfl
  rw [read, read, Bool.eq_iff_iff, keeps_iff, Bool.and_eq_true, isNodeUntainted_iff,
    decide_eq_true_iff, Accepts]
  tauto

theorem keeps_eq_isReady_iff {node : ListedNode} :
    node.keeps = node.isReady ↔
      (node.Accepts → node.status (lit "NetworkUnavailable") ∈
        [none, some (lit "False"), some (lit "True")]) := by
  rw [Bool.eq_iff_iff, keeps_iff, isReady_iff, and_congr_right_iff]
  apply imp_congr_right
  intro _
  rw [List.mem_cons, List.mem_singleton, List.mem_cons, List.mem_cons, List.mem_singleton]
  cases Decidable.em (node.status (lit "NetworkUnavailable") = some (lit "True")) with
  | inl unavailable =>
      rw [unavailable]
      decide
  | inr available =>
      rw [iff_true_left available, or_iff_left available]

end ListedNode

private theorem selectReady_of_reported {nodes : List ListedNode}
    (reported : ∀ node ∈ nodes, node.conditions.isSome = true) :
    selectReady nodes = .ok (nodes.filter ListedNode.keeps) := by
  induction nodes with
  | nil => rfl
  | cons node rest induction =>
      obtain ⟨schedulable, checked, same⟩ :=
        ListedNode.checks_eq_keeps (reported node List.mem_cons_self)
      rw [selectReady, checked, induction fun other member =>
        reported other (List.mem_cons_of_mem _ member), List.filter_cons, ← same]
      rfl

theorem selectReady_of_unreported {nodes : List ListedNode} {node : ListedNode}
    (member : node ∈ nodes) (fresh : node.conditions = none) :
    selectReady nodes = .error noneNotIterable := by
  induction nodes with
  | nil => exact absurd member List.not_mem_nil
  | cons first rest induction =>
      rw [selectReady]
      cases found : first.conditions with
      | none =>
          rw [ListedNode.isNodeSchedulable, found]
          rfl
      | some conditions =>
          obtain rfl | later := List.mem_cons.mp member
          · cases found.symm.trans fresh
          · rw [ListedNode.isNodeSchedulable, found, induction later]
            rfl

/-- The filter meets its specification exactly on the lists of decided nodes. -/
theorem getReadyNodes_eq_filter_iff (nodes : List ListedNode) :
    getReadyNodes (.ok nodes) = .ok (nodes.filter ListedNode.isReady) ↔
      ∀ node ∈ nodes, node.Decided := by
  change selectReady nodes = _ ↔ _
  cases Decidable.em (∀ node ∈ nodes, node.conditions.isSome = true) with
  | inr unreported =>
      push Not at unreported
      obtain ⟨node, member, absent⟩ := unreported
      have fresh : node.conditions = none := Option.not_isSome_iff_eq_none.mp absent
      rw [selectReady_of_unreported member fresh]
      refine iff_of_false (fun same => nomatch same) ?_
      intro decided
      exact absent (decided node member).1
  | inl reported =>
      rw [selectReady_of_reported reported, Except.ok.injEq]
      constructor
      · intro same node member
        refine ⟨reported node member, ListedNode.keeps_eq_isReady_iff.mp ?_⟩
        have agree : node ∈ nodes.filter ListedNode.keeps ↔
            node ∈ nodes.filter ListedNode.isReady := by rw [same]
        rw [List.mem_filter, List.mem_filter, and_congr_right_iff] at agree
        exact Bool.eq_iff_iff.mpr (agree member)
      · intro decided
        apply List.filter_congr
        intro node member
        exact ListedNode.keeps_eq_isReady_iff.mpr (decided node member).2

section Waiting

variable {clock : PausedClock 10} {operationTimeoutInMinutes : ℚ}
variable {listing : Nat → Except Error (List ListedNode)} {nodeCount : Nat}

private theorem waitForReadyCount_congr
    {ready other : Except Error (List ListedNode) → Except Error (List ListedNode)}
    (agree : ∀ index, clock.now index < clock.start + operationTimeoutInMinutes * 60 →
      ready (listing index) = other (listing index)) (fuel index readyNodeCount : Nat) :
    waitForReadyCount ready clock operationTimeoutInMinutes listing nodeCount fuel index
        readyNodeCount =
      waitForReadyCount other clock operationTimeoutInMinutes listing nodeCount fuel index
        readyNodeCount := by
  induction fuel generalizing index readyNodeCount with
  | zero => rfl
  | succ fuel induction =>
      rw [waitForReadyCount, waitForReadyCount]
      cases Decidable.em
          (clock.now index < clock.start + operationTimeoutInMinutes * 60) with
      | inr late => rw [if_neg late, if_neg late]
      | inl due =>
          rw [if_pos due, if_pos due, agree index due]
          cases other (listing index) with
          | error error => rfl
          | ok readyNodes =>
              dsimp only
              rw [induction]

private theorem waitForNodesReady_of_decided
    (decided : ∀ index nodes,
      clock.now index < clock.start + operationTimeoutInMinutes * 60 →
      listing index = .ok nodes → ∀ node ∈ nodes, node.Decided) (fuel : Nat) :
    waitForNodesReady clock operationTimeoutInMinutes listing nodeCount fuel =
      waitForReadyCount (Except.map (List.filter ListedNode.isReady)) clock
        operationTimeoutInMinutes listing nodeCount fuel 0 0 := by
  apply waitForReadyCount_congr
  intro index due
  cases read : listing index with
  | error error => rfl
  | ok nodes => exact (getReadyNodes_eq_filter_iff nodes).mpr (decided index nodes due read)

private theorem waitForReadyCount_of_unreported {index : Nat} {nodes : List ListedNode}
    {node : ListedNode}
    (due : clock.now index < clock.start + operationTimeoutInMinutes * 60)
    (read : listing index = .ok nodes) (member : node ∈ nodes)
    (fresh : node.conditions = none) (fuel readyNodeCount : Nat) :
    waitForReadyCount getReadyNodes clock operationTimeoutInMinutes listing nodeCount (fuel + 1)
      index readyNodeCount = some (.error noneNotIterable) := by
  have raises : getReadyNodes (.ok nodes) = .error noneNotIterable :=
    selectReady_of_unreported member fresh
  rw [waitForReadyCount, if_pos due, read, raises]

end Waiting

/-- The filter is right exactly on lists of decided nodes; a wait that lists only such
nodes waits for what it should, and one that lists a node without conditions raises. -/
theorem ready_filter_correct_iff (nodes : List ListedNode) :
    (getReadyNodes (.ok nodes) = .ok (nodes.filter ListedNode.isReady) ↔
      ∀ node ∈ nodes, node.Decided) ∧
    (∀ (clock : PausedClock 10) (minutes : ℚ) (listing : Nat → Except Error (List ListedNode))
        (nodeCount fuel : Nat),
      (∀ index nodes, clock.now index < clock.start + minutes * 60 →
        listing index = .ok nodes → ∀ node ∈ nodes, node.Decided) →
      waitForNodesReady clock minutes listing nodeCount fuel =
        waitForReadyCount (Except.map (List.filter ListedNode.isReady)) clock minutes listing
          nodeCount fuel 0 0) ∧
    (∀ (clock : PausedClock 10) (minutes : ℚ) (listing : Nat → Except Error (List ListedNode))
        (nodeCount fuel index readyNodeCount : Nat),
      clock.now index < clock.start + minutes * 60 → listing index = .ok nodes →
      (∃ node ∈ nodes, node.conditions = none) →
      waitForReadyCount getReadyNodes clock minutes listing nodeCount (fuel + 1) index
        readyNodeCount = some (.error noneNotIterable)) := by
  refine ⟨getReadyNodes_eq_filter_iff nodes, ?_, ?_⟩
  · intro clock minutes listing nodeCount fuel decided
    exact waitForNodesReady_of_decided decided fuel
  · intro clock minutes listing nodeCount fuel index readyNodeCount due read unreported
    obtain ⟨node, member, fresh⟩ := unreported
    exact waitForReadyCount_of_unreported due read member fresh fuel readyNodeCount

def readyNode : ListedNode where
  name := lit "ready"
  conditions := some [⟨lit "Ready", lit "True"⟩]
  unschedulable := none
  taints := none

def freshNode : ListedNode where
  name := lit "fresh"
  conditions := none
  unschedulable := none
  taints := none

theorem freshNode_hides_readyNode :
    getReadyNodes (.ok [readyNode, freshNode]) = .error noneNotIterable ∧
    [readyNode, freshNode].filter ListedNode.isReady = [readyNode] ∧
    ¬ getReadyNodes (.ok [readyNode, freshNode]) =
      .ok ([readyNode, freshNode].filter ListedNode.isReady) := by
  have raises : getReadyNodes (.ok [readyNode, freshNode]) = .error noneNotIterable := rfl
  refine ⟨raises, rfl, ?_⟩
  rw [raises]
  intro same
  cases same

end Telescope.Kubernetes
