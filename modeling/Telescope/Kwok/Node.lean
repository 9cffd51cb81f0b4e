import Telescope.Data.Loop
import Telescope.Kwok.Cluster

namespace Telescope.Kwok

open Telescope Telescope.Kubernetes

/-! Virtual nodes (`kwok.Node`): creating them, with a resource slice each when dynamic
resource allocation is enabled, and tearing them down. -/

structure Node where
  nodeCount : Nat
  nodeManifestPath : Text
  nodeCpu : Text
  nodeMemory : Text
  nodePods : Text
  nodeGpu : Text
  enableDra : Bool
  nodeTemplate : Option Text
  sliceTemplate : Option Text

/-- `_generate_node_ip`; each octet carries into the one before it. -/
def generateNodeIp (base : Nat × Nat × Nat × Nat) (index : Nat) : Except Error Text :=
  let (a, b, c, d) := base
  let total := d + index
  let c := c + total / 256
  let d := total % 256
  let b := b + c / 256
  let c := c % 256
  let a := a + b / 256
  let b := b % 256
  if 255 < a ∨ 255 < b ∨ 255 < c ∨ 255 < d then
    .error (.valueError (lit "Exceeded valid IPv4 address range."))
  else .ok (joinText (lit ".") [natText a, natText b, natText c, natText d])

def placeholder (key : Text) : Text := lit "\x7b\x7b" ++ key ++ lit "\x7d\x7d"

/-- `create_template`, with the content of the file, if it exists. -/
def createTemplate (path : Text) (content : Option Text) (replacements : List (Text × Text)) :
    Except Error Text :=
  match content with
  | none => .error ⟨.external, lit "Template file not found: " ++ path⟩
  | some template =>
      .ok (replacements.foldl (fun text replacement =>
        replaceText (placeholder replacement.1) replacement.2 text) template)

def nodeName (index : Nat) : Text := lit "kwok-node-" ++ natText index

def resourceSliceName (index : Nat) : Text := lit "kwok-resource-slice-" ++ natText index

def nodeKey (index : Nat) : ClusterKey := .node (nodeName index)

def sliceKey (index : Nat) : ClusterKey := .resourceSlice (resourceSliceName index)

namespace Node

def kwokTemplate (node : Node) (index : Nat) : Except Error Text := do
  let nodeIp ← generateNodeIp (10, 0, 0, 10) index
  createTemplate node.nodeManifestPath node.nodeTemplate
    [(lit "node_name", nodeName index), (lit "node_ip", nodeIp),
     (lit "node_cpu", node.nodeCpu), (lit "node_memory", node.nodeMemory),
     (lit "node_pods", node.nodePods), (lit "node_gpu", node.nodeGpu)]

def resourceSliceTemplate (node : Node) (index : Nat) : Except Error Text :=
  createTemplate (lit "kwok/config/resource-slice.yaml") node.sliceTemplate
    [(lit "resource_slice_name", resourceSliceName index), (lit "node_name", nodeName index)]

/-- What a run of `create` meets: how the release and the manifests before the nodes
turn out, and the faults of the requests for each node and slice. -/
structure CreateRun where
  setup : Except Error Unit
  nodeFaults : Nat → NodeFaults
  sliceFaults : Nat → Nat → Option Fault

def maxRetries : Nat := 2

def backoffTime : Nat := 10

def createNodeAt (run : CreateRun) (index : Nat) (body : Text) (objects : Objects) :
    Attempted Error Unit Objects :=
  executeWithRetries (createNode (run.nodeFaults index) (nodeName index) body)
    backoffTime maxRetries objects

def createSliceAt (run : CreateRun) (index : Nat) (body : Text) (objects : Objects) :
    Attempted Error Unit Objects :=
  executeWithRetries
    (createResourceSlice (run.sliceFaults index) (resourceSliceName index) body)
    backoffTime maxRetries objects

def createAt (node : Node) (run : CreateRun) (index : Nat) (objects : Objects) :
    Except Error Unit × Objects :=
  match node.kwokTemplate index with
  | .error error => (.error error, objects)
  | .ok body =>
      let created := createNodeAt run index body objects
      match created.result with
      | .error error => (.error error, created.state)
      | .ok () =>
          if node.enableDra then
            match node.resourceSliceTemplate index with
            | .error error => (.error error, created.state)
            | .ok sliceBody =>
                let sliced := createSliceAt run index sliceBody created.state
                (sliced.result, sliced.state)
          else (.ok (), created.state)

/-- `Node.create`; the steps before the loop create no nodes and no slices. -/
def create (node : Node) (run : CreateRun) (objects : Objects) :
    Except Error Unit × Objects :=
  let failed (error : Error) : Error :=
    .runtimeError (lit "Failed to create nodes: " ++ error.message)
  match run.setup with
  | .error error => (.error (failed error), objects)
  | .ok () =>
      match forEach (node.createAt run) (List.range node.nodeCount) objects with
      | (.ok (), after) => (.ok (), after)
      | (.error error, after) => (.error (failed error), after)

structure TearDownRun where
  nodeFaults : Nat → Nat → Option Fault
  sliceFaults : Nat → Nat → Option Fault

def tearDownAt (node : Node) (run : TearDownRun) (index : Nat) (objects : Objects) :
    Except Error Unit × Objects :=
  let deleted := executeWithRetries (deleteNode (run.nodeFaults index) (nodeName index))
    backoffTime maxRetries objects
  match deleted.result with
  | .error error => (.error error, deleted.state)
  | .ok () =>
      if node.enableDra then
        -- Whatever this deletion raises is only printed.
        (.ok (), (executeWithRetries
          (deleteResourceSlice (run.sliceFaults index) (resourceSliceName index))
          backoffTime maxRetries deleted.state).state)
      else (.ok (), deleted.state)

def tearDown (node : Node) (run : TearDownRun) (objects : Objects) :
    Except Error Unit × Objects :=
  forEach (node.tearDownAt run) (List.range node.nodeCount) objects

end Node

end Telescope.Kwok
