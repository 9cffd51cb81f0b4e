import Telescope.Data.Contract
import Telescope.Data.Exception
import Telescope.Text.Edit

namespace Telescope.Clients

open Telescope

/-! Commands in client and server pods (`PodRoleCommand`, and `run_iperf3` of
`Iperf3Pod`) over one Kubernetes client with one current context.  What every
interaction with a cluster turns out to be is an input, and each leaves an event. -/

inductive Role where
  | client
  | server
  deriving DecidableEq

/-- A kubeconfig context; `None` is the current one of the file. -/
abbrev Context := Option Text

structure Config where
  clientLabelSelector : Text
  serverLabelSelector : Text
  clientContainer : Text
  serverContainer : Text
  clientContext : Context
  serverContext : Context
  validateCommand : Text
  serviceName : Text
  «namespace» : Text

namespace Config

def labelSelector (config : Config) : Role → Text
  | .client => config.clientLabelSelector
  | .server => config.serverLabelSelector

def container (config : Config) : Role → Text
  | .client => config.clientContainer
  | .server => config.serverContainer

def context (config : Config) : Role → Context
  | .client => config.clientContext
  | .server => config.serverContext

end Config

structure Pod where
  name : Text
  ip : Option Text
  nodeIp : Option Text

/-- What the clusters saw, with the client's context at that time.  An execution names
the role it is for. -/
inductive Event where
  | podFound (context : Context) (labelSelector : Text) (pod : Pod)
  | serviceRead (context : Context) (ip : Option Text)
  | executed (role : Role) (context : Context) (podName : Text) (container : Option Text)
      (command : Text)

structure State where
  context : Context
  podRole : Role → Option Pod
  serviceExternalIp : Option Text
  interactions : Nat
  events : List Event

/-- The outcome of the n-th interaction: a switch that fails leaves any context. -/
structure World where
  switch : Nat → Option (Error × Context)
  pods : Nat → Except Error (List Pod)
  service : Nat → Except Error (Option Text)
  execution : Nat → Except Error Text
  other : Nat → Except Error Unit

abbrev Program := EStateM Error State

section Client

variable (world : World)

def interact (events : List Event) : Program Unit :=
  modify fun state =>
    { state with
      interactions := state.interactions + 1
      events := state.events ++ events }

def contextText (context : Context) : Text := context.getD (lit "None")

def setContext (context : Context) : Program Unit := do
  let state ← get
  match world.switch state.interactions with
  | none => set { state with context := context, interactions := state.interactions + 1 }
  | some (error, left) =>
      set { state with context := left, interactions := state.interactions + 1 }
      throw ⟨.external, lit "Failed to switch to context " ++ contextText context ++
        lit ": " ++ error.message⟩

def getPodNameAndIp (labelSelector space : Text) : Program Pod := do
  let state ← get
  match world.pods state.interactions with
  | .error error =>
      interact []
      throw error
  | .ok [] =>
      interact []
      throw ⟨.external, lit "No pod found with label: " ++ labelSelector ++
        lit " and namespace: " ++ space⟩
  | .ok (pod :: _) =>
      interact [.podFound state.context labelSelector pod]
      return pod

def readServiceExternalIp : Program (Option Text) := do
  let state ← get
  match world.service state.interactions with
  | .error error =>
      interact []
      throw error
  | .ok ip =>
      interact [.serviceRead state.context ip]
      return ip

/-- `run_pod_exec_command`; an empty container name is left out. -/
def runPodExecCommand (role : Role) (podName containerName command : Text) :
    Program Text := do
  let state ← get
  interact [.executed role state.context podName (presentText (some containerName)) command]
  match world.execution state.interactions with
  | .error error => throw error
  | .ok output => return output

/-- Waiting for pods and collecting their details: reads that execute nothing. -/
def otherReads : Program Unit := do
  let state ← get
  interact []
  match world.other state.interactions with
  | .error error => throw error
  | .ok () => return ()

end Client

/-! ## `PodRoleCommand` -/

section PodRoleCommand

variable (config : Config) (world : World)

def unsupportedRole (role : Text) : Error :=
  .valueError (lit "Unsupported role: " ++ role)

def role? (role : Text) : Option Role :=
  if role = lit "server" then some .server
  else if role = lit "client" then some .client
  else none

def setContextByRole (role : Role) : Program Text := do
  setContext world (config.context role)
  return config.labelSelector role

def findPod (role : Role) : Program Pod := do
  let labelSelector ← setContextByRole config world role
  let pod ← getPodNameAndIp world labelSelector config.namespace
  modify fun state =>
    { state with podRole := fun other => if other = role then some pod else state.podRole other }
  return pod

/-- A cached pod is returned without a switch of the context.  Only pods of the two
roles are ever cached. -/
def getPodByRole (role : Text) : Program Pod :=
  match role? role with
  | none => throw (unsupportedRole role)
  | some role => do
      let state ← get
      match state.podRole role with
      | some pod => return pod
      | none => findPod config world role

def getServiceExternalIp : Program (Option Text) :=
  if config.serviceName = [] then
    throw (.valueError (lit "Service name must be provided to get the external IP."))
  else do
    let state ← get
    match presentText state.serviceExternalIp with
    | some ip => return some ip
    | none =>
        let _ ← setContextByRole config world .server
        let ip ← readServiceExternalIp world
        modify fun state => { state with serviceExternalIp := ip }
        return ip

/-- `run_command_for_role`; a found pod is never falsy. -/
def runCommandForRole (role command : Text) : Program Text :=
  match role? role with
  | none => throw (unsupportedRole role)
  | some known => do
      let pod ← getPodByRole config world role
      setContext world (config.context known)
      retrying 10 2 (runPodExecCommand world known pod.name (config.container known) command)

def validate : Program Unit :=
  if config.validateCommand = [] then return ()
  else do
    let _ ← runCommandForRole config world (lit "client") config.validateCommand
    let _ ← runCommandForRole config world (lit "server") config.validateCommand
    return ()

/-- `collect`, and `configure` up to what it reads: switch to each role and read. -/
def readBothRoles : Program Unit := do
  setContext world config.clientContext
  otherReads world
  setContext world config.serverContext
  otherReads world

def collect : Program Unit := readBothRoles config world

def configure : Program Unit := readBothRoles config world

/-- The address of the server that `run_iperf3` was asked to use. -/
def serverAddress (serverPod : Pod) (serverIpType : Text) : Program (Option Text) :=
  if serverIpType = lit "pod" then pure serverPod.ip
  else if serverIpType = lit "node" then pure serverPod.nodeIp
  else if serverIpType = lit "external" then getServiceExternalIp config world
  else throw (.valueError (lit "Unsupported server IP type: " ++ serverIpType))

def iperf3CommandCli (serverIp iperf3Command : Text) : Text :=
  lit "iperf3 -c " ++ serverIp ++ lit " " ++ iperf3Command ++ lit " --json"

def runIperf3 (iperf3Command serverIpType : Text) : Program Text := do
  let serverPod ← getPodByRole config world (lit "server")
  let serverIp ← serverAddress config world serverPod serverIpType
  match presentText serverIp with
  | none => throw (.runtimeError (lit "Server IP not found for server IP type: " ++
      serverIpType))
  | some serverIp =>
      let output ← runCommandForRole config world (lit "client")
        (iperf3CommandCli serverIp iperf3Command)
      if containsText (lit "error") output then
        throw (.runtimeError (lit "Error running iperf3 command: " ++ output))
      else return output

/-! ## Sequences of calls -/

inductive Call where
  | getPodByRole (role : Text)
  | getServiceExternalIp
  | runCommandForRole (role command : Text)
  | validate
  | collect
  | configure
  | runIperf3 (iperf3Command serverIpType : Text)

def Call.program : Call → Program Unit
  | .getPodByRole role => do
      let _ ← Clients.getPodByRole config world role
  | .getServiceExternalIp => do
      let _ ← Clients.getServiceExternalIp config world
  | .runCommandForRole role command => do
      let _ ← Clients.runCommandForRole config world role command
  | .validate => Clients.validate config world
  | .collect => Clients.collect config world
  | .configure => Clients.configure config world
  | .runIperf3 iperf3Command serverIpType => do
      let _ ← Clients.runIperf3 config world iperf3Command serverIpType

/-- Each call meets the state that the one before it left, also when that one raised. -/
def runCalls (calls : List Call) (state : State) : State :=
  calls.foldl (fun state call => leftBy (call.program config world) state) state

/-- A new object; its client starts in any context. -/
def initialState (context : Context) : State where
  context := context
  podRole _ := none
  serviceExternalIp := none
  interactions := 0
  events := []

end PodRoleCommand

end Telescope.Clients
