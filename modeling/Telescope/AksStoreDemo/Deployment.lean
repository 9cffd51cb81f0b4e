import Mathlib.Algebra.Order.Floor.Semiring
import Telescope.Data.Footprint
import Telescope.Kubernetes.ManifestUrl
import Telescope.Kubernetes.Wait
import Telescope.Utils.Retries

namespace Telescope.AksStoreDemo

open Telescope Telescope.Kubernetes

/-! Runs of the AKS store demo (`aks_store_demo.py`), each of which deploys or cleans up, on
one cluster. -/

structure StoreDemo where
  clusterContext : Text
  «namespace» : Text
  tag : Text

structure ManifestConfig where
  url : Text
  waitConditionType : Option Text
  resourceType : Option Text
  resourceName : Option Text
  timeout : Int

/-- The cluster, the published manifests, and what else the runs meet. -/
structure World (ν : Type) where
  server : LingeringServer ν
  web : Web
  switchFault : Nat → Option Error
  readNamespace : Nat → Option ν → Option Refusal
  wait : Nat → WaitTrace

/-- `execute_with_retries` with its defaults. -/
def retrying {σ : Type} (func : σ → Except Error Unit × σ) (state : σ) :
    Except Error Unit × σ :=
  let attempted := executeWithRetries (fun _ => func) 10 2 state
  (attempted.result, attempted.state)

def namespaceTarget (name : Text) : Target := clusterScoped coreV1 "namespaces" (some name)

def namespaceKey (name : Text) : ObjectKey := Kind.namespace.objectKey [] name

def namespaceBody (name : Text) : Manifest where
  kind := none
  apiVersion := none
  metadata := .mapping ⟨some name, none⟩
  spec := .absent
  content := []

namespace World

variable {ν : Type} (world : World ν)

/-- `KubernetesClient.set_context` -/
def setContext (context : Text) (objects : LingeringObjects ν) :
    Except Error Unit × LingeringObjects ν :=
  match world.switchFault objects.moment with
  | none => (.ok (), objects.next)
  | some error =>
      (.error ⟨.external, lit "Failed to switch to context " ++ context ++ lit ": " ++
        error.message⟩, objects.next)

/-- `KubernetesClient.create_namespace` -/
def createNamespace (name : Text) (objects : LingeringObjects ν) :
    Except Error Unit × LingeringObjects ν :=
  let remaining := world.server.remaining objects
  let read : LingeringObjects ν := ⟨remaining, objects.moment + 1⟩
  match world.readNamespace objects.moment (remaining (namespaceKey name)) with
  | none => (.ok (), read)
  | some (.api status text) =>
      if status = 404 then
        match world.server.api.answer
            (.create (namespaceTarget name) (namespaceBody name)) read with
        | (none, created) => (.ok (), created)
        | (some refusal, created) => (.error refusal.error, created)
      else (.error ⟨.external, text⟩, read)
  | some (.other error) => (.error error, read)

/-- `KubernetesClient.wait_for_condition`, given as many polls as fit into its time.  The demo
only logs whether the condition was met. -/
def awaitCondition (request : WaitRequest) (objects : LingeringObjects ν) :
    Except Error Unit × LingeringObjects ν :=
  ((waitForCondition request (world.wait objects.moment)
    (⌈(request.timeoutSeconds : ℚ) / 5⌉₊ + 1)).map fun _ => (), objects.next)

end World

namespace StoreDemo

variable {ν : Type} (demo : StoreDemo) (world : World ν)

def setContext (objects : LingeringObjects ν) : Except Error Unit × LingeringObjects ν :=
  if demo.clusterContext = [] then (.ok (), objects)
  else retrying (world.setContext demo.clusterContext) objects

/-- A failure is only logged. -/
def ensureNamespace (objects : LingeringObjects ν) : LingeringObjects ν :=
  (retrying (world.createNamespace demo.namespace) objects).2

def applyManifest (config : ManifestConfig) (objects : LingeringObjects ν) :
    Except Error Unit × LingeringObjects ν :=
  let failed (error : Error) : Error := .runtimeError
    (lit "Failed to apply manifest from URL " ++ config.url ++ lit ": " ++ error.message)
  match retrying (applyManifestFromUrl world.server.api world.web.fetch config.url
      (some demo.namespace)) objects with
  | (.error error, after) => (.error (failed error), after)
  | (.ok (), applied) =>
      match presentText config.waitConditionType, presentText config.resourceType with
      | some waitConditionType, some resourceType =>
          let request : WaitRequest :=
            { resourceType
              waitConditionType
              timeoutSeconds := config.timeout
              resourceName := config.resourceName
              waitAll := false }
          let waited := retrying (world.awaitCondition request) applied
          (waited.1.mapError failed, waited.2)
      | _, _ => (.ok (), applied)

/-- A failure is logged and returned here, and the cleanup goes on. -/
def deleteManifestFromUrl (url : Text) (objects : LingeringObjects ν) :
    Option Error × LingeringObjects ν :=
  match retrying (Kubernetes.deleteManifestFromUrl world.server.api world.web.fetch url true
      (some demo.namespace)) objects with
  | (.ok (), after) => (none, after)
  | (.error error, after) => (some error, after)

def allInOneUrl : Text :=
  lit "https://raw.githubusercontent.com/Azure-Samples/aks-store-demo/" ++ demo.tag ++
    lit "/aks-store-all-in-one.yaml"

def allInOne : ManifestConfig where
  url := demo.allInOneUrl
  waitConditionType := some (lit "available")
  resourceType := some (lit "deployment")
  resourceName := none
  timeout := 1200

def getManifestUrls : List ManifestConfig := [demo.allInOne]

def deploy (objects : LingeringObjects ν) : Except Error Unit × LingeringObjects ν :=
  let failed (error : Error) : Error := .runtimeError
    (lit "Failed to deploy AKS Store Demo: " ++ error.message)
  match demo.setContext world objects with
  | (.error error, after) => (.error (failed error), after)
  | (.ok (), switched) =>
      let deployed := forEach (demo.applyManifest world) demo.getManifestUrls
        (demo.ensureNamespace world switched)
      (deployed.1.mapError failed, deployed.2)

/-- It returns the failures that it has logged. -/
def cleanup (objects : LingeringObjects ν) : Except Error (List Error) × LingeringObjects ν :=
  match demo.setContext world objects with
  | (.error error, after) =>
      (.error (.runtimeError (lit "Failed to cleanup AKS Store Demo: " ++ error.message)), after)
  | (.ok (), switched) =>
      let deleted := attemptAll (demo.deleteManifestFromUrl world)
        (demo.getManifestUrls.reverse.map ManifestConfig.url) switched
      (.ok (deleted.1.filterMap id), deleted.2)

end StoreDemo

inductive Action where
  | deploy | cleanup
  deriving DecidableEq

/-- `main` with its arguments. -/
structure Run where
  demo : StoreDemo
  action : Action

variable {ν : Type}

def Run.main (run : Run) (world : World ν) (objects : LingeringObjects ν) :
    LingeringObjects ν :=
  match run.action with
  | .deploy => (run.demo.deploy world objects).2
  | .cleanup => (run.demo.cleanup world objects).2

def runs (world : World ν) (history : List Run) (objects : LingeringObjects ν) :
    LingeringObjects ν :=
  history.foldl (fun objects run => run.main world objects) objects

/-! ## What the demo owns -/

/-- The objects that its manifests declare. -/
def StoreDemo.declared (demo : StoreDemo) (world : World ν) : List ObjectKey :=
  world.web.declared demo.allInOneUrl (some demo.namespace)

def StoreDemo.Owns (demo : StoreDemo) (world : World ν) (key : ObjectKey) : Prop :=
  key = namespaceKey demo.namespace ∨ key ∈ demo.declared world

/-! ## The steps of a run -/

theorem retrying_post {σ : Type} {func : σ → Except Error Unit × σ} {holds post : σ → Prop}
    (kept : ∀ state, holds state → holds (func state).2)
    (established : ∀ state, holds state → (func state).1 = .ok () → post (func state).2)
    {state : σ} (start : holds state) :
    holds (retrying func state).2 ∧
      ((retrying func state).1 = .ok () → post (retrying func state).2) :=
  executeWithRetries_post (fun _ => kept)
    (fun result after => holds after ∧ (result = .ok () → post after)) start
    fun _ before reached => ⟨kept before reached, established before reached⟩

theorem retrying_keeps {σ : Type} {func : σ → Except Error Unit × σ} {holds : σ → Prop}
    (kept : ∀ state, holds state → holds (func state).2) {state : σ} (start : holds state) :
    holds (retrying func state).2 :=
  (retrying_post kept (fun state reached _ => kept state reached) start).1

section Steps

variable {world : World ν} {demo : StoreDemo} {objects : LingeringObjects ν}

theorem setContext_slots (demo : StoreDemo) (world : World ν) (objects : LingeringObjects ν) :
    (demo.setContext world objects).2.slots = objects.slots := by
  unfold StoreDemo.setContext
  split
  · rfl
  · let holds (after : LingeringObjects ν) : Prop := after.slots = objects.slots
    refine retrying_keeps (fun state (reached : holds state) => ?_) (show holds objects from rfl)
    unfold World.setContext
    cases world.switchFault state.moment with
    | none => exact reached
    | some error => exact reached

private theorem awaitCondition_slots (world : World ν) (request : WaitRequest)
    (objects : LingeringObjects ν) :
    (retrying (world.awaitCondition request) objects).2.slots = objects.slots := by
  let holds (after : LingeringObjects ν) : Prop := after.slots = objects.slots
  exact retrying_keeps (fun state (reached : holds state) => reached) (show holds objects from rfl)

private theorem namespaceTarget_key {name : Text} {key : ObjectKey}
    (addressed : (namespaceTarget name).key? = some key) : key = namespaceKey name := by
  rcases presentText_eq_none_or (some name) with missing | ⟨value, present, -⟩
  · rw [Target.key?, show (namespaceTarget name).name = some name from rfl, missing] at addressed
    cases addressed
  · obtain rfl : name = value :=
      Option.some.inj (Option.eq_some_of_filter_eq_some present)
    rw [Target.key?, show (namespaceTarget name).name = some name from rfl, present] at addressed
    exact (Option.some.inj addressed).symm

private theorem createNamespace_grown (world : World ν) (name : Text)
    (objects : LingeringObjects ν) :
    world.server.Grown (· = namespaceKey name) objects.slots
      (world.createNamespace name objects).2.slots := by
  let read : LingeringObjects ν := ⟨world.server.remaining objects, objects.moment + 1⟩
  have writes : (Request.create (namespaceTarget name) (namespaceBody name)).Writes := trivial
  have creates (state : LingeringObjects ν) :
      world.server.Grown (· = namespaceKey name) state.slots (world.server.api.answer
        (.create (namespaceTarget name) (namespaceBody name)) state).2.slots :=
    LingeringServer.answer_grown writes (fun _ => namespaceTarget_key) state
  have passed : world.server.Grown (· = namespaceKey name) objects.slots
      (world.server.remaining objects) :=
    .of_undisturbed (world.server.remaining_undisturbed objects)
  unfold World.createNamespace
  dsimp only
  split
  · exact passed
  · split
    · have created := passed.trans (creates read)
      rcases answered : world.server.api.answer
        (.create (namespaceTarget name) (namespaceBody name)) read with ⟨refusal?, after⟩
      rw [answered] at created
      cases refusal? with
      | none => exact created
      | some refusal => exact created
    · exact passed
  · exact passed

private theorem ensureNamespace_grown (demo : StoreDemo) (world : World ν)
    (objects : LingeringObjects ν) :
    world.server.Grown (demo.Owns world) objects.slots
      (demo.ensureNamespace world objects).slots := by
  let holds (after : LingeringObjects ν) : Prop :=
    world.server.Grown (demo.Owns world) objects.slots after.slots
  refine retrying_keeps (fun state (reached : holds state) => ?_)
    (show holds objects from .refl objects.slots)
  refine reached.trans ((createNamespace_grown world demo.namespace state).mono ?_)
  exact fun key same => .inl same

/-! ## A whole run -/

private theorem applyManifest_spec (world : World ν) (demo : StoreDemo) (config : ManifestConfig)
    (objects : LingeringObjects ν) :
    let declared := world.web.declared config.url (some demo.namespace)
    let applied := demo.applyManifest world config objects
    world.server.Grown (· ∈ declared) objects.slots applied.2.slots ∧
      (applied.1 = .ok () →
        (∀ key ∈ declared, Settled world.server.terminating (objects.slots key) →
          Live world.server.terminating (applied.2.slots key)) ∧
        (demo.namespace ≠ [] → world.web.Deletable config.url (some demo.namespace))) := by
  intro declared applied
  let holds (after : LingeringObjects ν) : Prop :=
    world.server.Grown (· ∈ declared) objects.slots after.slots
  let post (after : LingeringObjects ν) : Prop :=
    (∀ key ∈ declared, Settled world.server.terminating (objects.slots key) →
      Live world.server.terminating (after.slots key)) ∧
    (demo.namespace ≠ [] → world.web.Deletable config.url (some demo.namespace))
  let apply := applyManifestFromUrl world.server.api world.web.fetch config.url
    (some demo.namespace)
  have retried : holds (retrying apply objects).2 ∧
      ((retrying apply objects).1 = .ok () → post (retrying apply objects).2) := by
    refine retrying_post (fun state (reached : holds state) => ?_)
      (fun state reached returned => ?_) (.refl objects.slots)
    · exact reached.trans (world.server.applyManifestFromUrl_grown world.web config.url _ state)
    · refine ⟨fun key member settled => ?_, fun nonempty => ?_⟩
      · exact LingeringServer.applyManifestFromUrl_live returned key member
          (reached.settled key settled)
      · exact LingeringServer.deletable_of_applied nonempty returned
  simp only [applied, StoreDemo.applyManifest]
  rcases ran : retrying apply objects with ⟨result, after⟩
  rw [ran] at retried
  obtain ⟨grown, live⟩ := retried
  cases result with
  | error error => exact ⟨grown, fun returned => nomatch returned⟩
  | ok value =>
      dsimp only
      split
      · rw [awaitCondition_slots]
        exact ⟨grown, fun _ => live rfl⟩
      · exact ⟨grown, fun _ => live rfl⟩

theorem deploy_spec (world : World ν) (demo : StoreDemo) (objects : LingeringObjects ν) :
    let deployed := demo.deploy world objects
    world.server.Grown (demo.Owns world) objects.slots deployed.2.slots ∧
      (deployed.1 = .ok () →
        (∀ key ∈ demo.declared world, Settled world.server.terminating (objects.slots key) →
          Live world.server.terminating (deployed.2.slots key)) ∧
        (demo.namespace ≠ [] →
          world.web.Deletable demo.allInOneUrl (some demo.namespace))) := by
  intro deployed
  have switched := setContext_slots demo world objects
  simp only [deployed, StoreDemo.deploy]
  rcases ran : demo.setContext world objects with ⟨result, after⟩
  rw [ran] at switched
  rw [← show after.slots = objects.slots from switched]
  cases result with
  | error error => exact ⟨.refl _, fun returned => nomatch returned⟩
  | ok value =>
      dsimp only
      have ensured := ensureNamespace_grown demo world after
      generalize demo.ensureNamespace world after = named at ensured
      rw [StoreDemo.getManifestUrls, forEach_singleton, mapError_eq_ok_iff]
      obtain ⟨grown, applied⟩ := applyManifest_spec world demo demo.allInOne named
      refine ⟨ensured.trans (grown.mono fun key member => .inr member), ?_⟩
      intro returned
      obtain ⟨live, deletable⟩ := applied returned
      exact ⟨fun key member settled => live key member (ensured.settled key settled), deletable⟩

private theorem deleteManifestFromUrl_spec (world : World ν) (demo : StoreDemo) (url : Text)
    (objects : LingeringObjects ν) :
    let declared := world.web.declared url (some demo.namespace)
    let deleted := demo.deleteManifestFromUrl world url objects
    world.server.Shrunk (· ∈ declared) objects.slots deleted.2.slots ∧
      (deleted.1 = none → ∀ key ∈ declared,
        ¬ Live world.server.terminating (deleted.2.slots key)) := by
  intro declared deleted
  let holds (after : LingeringObjects ν) : Prop :=
    world.server.Shrunk (· ∈ declared) objects.slots after.slots
  let post (after : LingeringObjects ν) : Prop := ∀ key ∈ declared,
    ¬ Live world.server.terminating (after.slots key)
  let delete := Kubernetes.deleteManifestFromUrl world.server.api world.web.fetch url true
    (some demo.namespace)
  have retried : holds (retrying delete objects).2 ∧
      ((retrying delete objects).1 = .ok () → post (retrying delete objects).2) := by
    refine retrying_post (fun state (reached : holds state) => ?_) (fun state _ returned => ?_)
      (.refl objects.slots)
    · exact reached.trans
        (world.server.deleteManifestFromUrl_shrunk world.web url true _ state)
    · exact LingeringServer.deleteManifestFromUrl_not_live returned
  simp only [deleted, StoreDemo.deleteManifestFromUrl]
  rcases ran : retrying delete objects with ⟨result, after⟩
  rw [ran] at retried
  obtain ⟨shrunk, gone⟩ := retried
  cases result with
  | error error => exact ⟨shrunk, fun logged => nomatch logged⟩
  | ok value => exact ⟨shrunk, fun _ => gone rfl⟩

theorem cleanup_spec (world : World ν) (demo : StoreDemo) (objects : LingeringObjects ν) :
    let cleaned := demo.cleanup world objects
    world.server.Shrunk (· ∈ demo.declared world) objects.slots cleaned.2.slots ∧
      (cleaned.1 = .ok [] → ∀ key ∈ demo.declared world,
        ¬ Live world.server.terminating (cleaned.2.slots key)) := by
  intro cleaned
  have switched := setContext_slots demo world objects
  simp only [cleaned, StoreDemo.cleanup]
  rcases ran : demo.setContext world objects with ⟨result, after⟩
  rw [ran] at switched
  rw [← show after.slots = objects.slots from switched]
  cases result with
  | error error => exact ⟨.refl _, fun returned => nomatch returned⟩
  | ok value =>
      obtain ⟨shrunk, gone⟩ := deleteManifestFromUrl_spec world demo demo.allInOneUrl after
      refine ⟨shrunk, ?_⟩
      intro clean
      have logged : [(demo.deleteManifestFromUrl world demo.allInOneUrl after).1].filterMap id =
          [] := Except.ok.inj clean
      refine gone ?_
      cases failure : (demo.deleteManifestFromUrl world demo.allInOneUrl after).1 with
      | none => rfl
      | some error =>
          rw [failure] at logged
          cases logged

end Steps

/-! ## Undisturbed cleanups -/

/-- From this moment on nothing stands in the way of a cleanup. -/
structure World.CleansFrom (world : World ν) (demo : StoreDemo) (moment : Nat) : Prop where
  switches : ∀ later ≥ moment, world.switchFault later = none
  serves : ∀ later ≥ moment, world.web.fault later demo.allInOneUrl = none
  deletes : world.server.DeletesFrom moment

section Undisturbed

variable {world : World ν} {demo : StoreDemo} {objects : LingeringObjects ν}

theorem retrying_of_ok {σ : Type} {func : σ → Except Error Unit × σ} {state : σ}
    (returned : (func state).1 = .ok ()) : retrying func state = (.ok (), (func state).2) := by
  have first : (fun _ : Nat => func) 0 state = (.ok (), (func state).2) := Prod.ext returned rfl
  obtain ⟨result, after⟩ := executeWithRetries_of_first (fun _ => func) 10 first 2
  exact Prod.ext result after

private theorem cleanup_of_undisturbed
    (deletable : world.web.Deletable demo.allInOneUrl (some demo.namespace))
    (undisturbed : world.CleansFrom demo objects.moment) :
    (demo.cleanup world objects).1 = .ok [] := by
  have switched : ∃ after, demo.setContext world objects = (.ok (), after) ∧
      objects.moment ≤ after.moment := by
    unfold StoreDemo.setContext
    split
    · exact ⟨objects, rfl, Nat.le_refl _⟩
    · have first : world.setContext demo.clusterContext objects = (.ok (), objects.next) := by
        rw [World.setContext, undisturbed.switches objects.moment (Nat.le_refl _)]
      refine ⟨objects.next, ?_, Nat.le_succ _⟩
      rw [retrying_of_ok (congrArg Prod.fst first), first]
  obtain ⟨after, ran, later⟩ := switched
  have deleted : (demo.deleteManifestFromUrl world demo.allInOneUrl after).1 = none := by
    have first := LingeringServer.deleteManifestFromUrl_ok undisturbed.deletes
      (undisturbed.serves after.moment later) deletable later
    rw [StoreDemo.deleteManifestFromUrl, retrying_of_ok first]
  unfold StoreDemo.cleanup
  rw [ran]
  change Except.ok ([(demo.deleteManifestFromUrl world demo.allInOneUrl after).1].filterMap id) =
    .ok []
  rw [deleted]
  rfl

end Undisturbed

/-! ## Any number of runs -/

theorem main_undisturbed (run : Run) (world : World ν) (objects : LingeringObjects ν)
    {key : ObjectKey} (foreign : ¬ run.demo.Owns world key) :
    Undisturbed world.server.terminating (objects.slots key)
      ((run.main world objects).slots key) := by
  unfold Run.main
  cases run.action with
  | deploy => exact (deploy_spec world run.demo objects).1.frame key foreign
  | cleanup =>
      have undeclared : key ∉ run.demo.declared world := fun member => foreign (.inr member)
      exact (cleanup_spec world run.demo objects).1.frame key undeclared

private theorem runs_undisturbed (world : World ν) (history : List Run)
    (objects : LingeringObjects ν)
    {key : ObjectKey} (foreign : ∀ run ∈ history, ¬ run.demo.Owns world key) :
    Undisturbed world.server.terminating (objects.slots key)
      ((runs world history objects).slots key) := by
  induction history generalizing objects with
  | nil => exact .inl rfl
  | cons run rest induction =>
      obtain ⟨here, later⟩ := List.forall_mem_cons.mp foreign
      exact (main_undisturbed run world objects here).trans
        (induction (run.main world objects) later)

private theorem main_live (run : Run) (world : World ν) (objects : LingeringObjects ν)
    {key : ObjectKey} (undeclared : key ∉ run.demo.declared world)
    (live : Live world.server.terminating (objects.slots key)) :
    Live world.server.terminating ((run.main world objects).slots key) := by
  unfold Run.main
  cases run.action with
  | deploy => exact (deploy_spec world run.demo objects).1.live key live
  | cleanup =>
      exact ((cleanup_spec world run.demo objects).1.frame key undeclared).live live

private theorem runs_live (world : World ν) (history : List Run) (objects : LingeringObjects ν)
    {key : ObjectKey} (undeclared : ∀ run ∈ history, key ∉ run.demo.declared world)
    (live : Live world.server.terminating (objects.slots key)) :
    Live world.server.terminating ((runs world history objects).slots key) := by
  induction history generalizing objects with
  | nil => exact live
  | cons run rest induction =>
      obtain ⟨here, later⟩ := List.forall_mem_cons.mp undeclared
      exact induction (run.main world objects) later (main_live run world objects here live)

/-- After any history of runs, whatever they met: objects that none of them declares, other
than their namespaces, are as they were, except that one being deleted may be gone, and a
namespace that none declares is not deleted; a deployment deletes nothing, and one that
returns leaves every declared object in place unless it was already being deleted; a cleanup
creates and changes nothing, and one that logs no failure leaves no declared object in place;
and once a deployment into a named namespace has returned, an undisturbed cleanup logs no
failure. -/
theorem runs_keep_to_manifests (world : World ν) (demo : StoreDemo) (history : List Run)
    (objects : LingeringObjects ν) :
    let reached := runs world history objects
    let deployed := demo.deploy world reached
    let cleaned := demo.cleanup world reached
    ((∀ key, (∀ run ∈ history, ¬ run.demo.Owns world key) →
          Undisturbed world.server.terminating (objects.slots key) (reached.slots key)) ∧
        ∀ key, (∀ run ∈ history, key ∉ run.demo.declared world) →
          Live world.server.terminating (objects.slots key) →
            Live world.server.terminating (reached.slots key)) ∧
      ((∀ key, Live world.server.terminating (reached.slots key) →
          Live world.server.terminating (deployed.2.slots key)) ∧
        (deployed.1 = .ok () → ∀ key ∈ demo.declared world,
          Settled world.server.terminating (reached.slots key) →
            Live world.server.terminating (deployed.2.slots key))) ∧
      ((∀ key, Recedes world.server.terminating (reached.slots key) (cleaned.2.slots key)) ∧
        (cleaned.1 = .ok [] → ∀ key ∈ demo.declared world,
          ¬ Live world.server.terminating (cleaned.2.slots key))) ∧
      (deployed.1 = .ok () → demo.namespace ≠ [] → ∀ between,
        let later := runs world between deployed.2
        world.CleansFrom demo later.moment → (demo.cleanup world later).1 = .ok []) := by
  intro reached deployed cleaned
  obtain ⟨grown, applied⟩ := deploy_spec world demo reached
  obtain ⟨shrunk, gone⟩ := cleanup_spec world demo reached
  refine ⟨⟨fun key => runs_undisturbed world history objects,
      fun key => runs_live world history objects⟩,
    ⟨grown.live, fun returned => (applied returned).1⟩, ⟨shrunk.recedes, gone⟩, ?_⟩
  intro returned nonempty between later undisturbed
  exact cleanup_of_undisturbed ((applied returned).2 nonempty) undisturbed

/-! The demo on a cluster that takes its time to delete, in which another deployment of the
same namespace is on its way out.  The first fetch fails. -/

def storeDemo : StoreDemo where
  clusterContext := lit "aks"
  «namespace» := lit "aks-store-demo"
  tag := lit "2.0.0"

def storeManifest (kind apiVersion : Text) : Manifest where
  kind := some kind
  apiVersion := some apiVersion
  metadata := .mapping ⟨some (lit "store-front"), none⟩
  spec := .mapping ⟨.absent⟩
  content := lit "app: store-front"

def storeDocuments : List Document :=
  [.object (storeManifest (lit "Deployment") (lit "apps/v1")) (by decide),
    .object (storeManifest (lit "Service") (lit "v1")) (by decide)]

def storeView : View where
  deployments := ⟨.ok [⟨some ⟨some [⟨lit "Available", lit "True"⟩], some 1, some 1⟩⟩],
    fun _ => .error notFound⟩
  statefulsets := ⟨.ok [], fun _ => .error notFound⟩
  jobs := ⟨.ok [], fun _ => .error notFound⟩

def slowWorld : World LingeringServer.Stored where
  server := .slow (fun _ body => body) fun moment _ => decide (20 < moment)
  web :=
    { documents := fun _ => .ok storeDocuments
      fault := fun moment _ =>
        if moment = 3 then some ⟨.external, lit "Connection reset"⟩ else none }
  switchFault _ := none
  readNamespace _ slot := if slot.isSome then none else some (.api 404 (lit "NotFound"))
  wait _ := steadyTrace storeView

def leavingDeployment : ObjectKey :=
  Kind.deployment.objectKey (lit "aks-store-demo") (lit "load-generator")

def beforeDemo : LingeringObjects LingeringServer.Stored where
  slots key :=
    if key = leavingDeployment then
      some ⟨storeManifest (lit "Deployment") (lit "apps/v1"), true⟩
    else none
  moment := 0

private theorem slowWorld_cleansFrom {moment : Nat} (after : 3 < moment) :
    slowWorld.CleansFrom storeDemo moment where
  switches _ _ := rfl
  serves later reached := if_neg (by omega)
  deletes _ _ _ slot := by
    cases slot with
    | none => exact .inr ⟨_, rfl⟩
    | some object => exact .inl rfl

private theorem beforeDemo_settled :
    ∀ key ∈ storeDemo.declared slowWorld,
      Settled slowWorld.server.terminating (beforeDemo.slots key) := by
  intro key member object found
  have others : ∀ key ∈ storeDemo.declared slowWorld, key ≠ leavingDeployment := by
    decide +kernel
  simp [beforeDemo, others key member] at found

theorem demo_is_deployed_and_cleaned_up :
    let deployed := storeDemo.deploy slowWorld beforeDemo
    let cleaned := storeDemo.cleanup slowWorld deployed.2
    (∀ key ∈ storeDemo.declared slowWorld,
        Live slowWorld.server.terminating (deployed.2.slots key)) ∧
      cleaned.1 = .ok [] ∧
      (∀ key ∈ storeDemo.declared slowWorld,
        ¬ Live slowWorld.server.terminating (cleaned.2.slots key)) ∧
      Live slowWorld.server.terminating
        (cleaned.2.slots (namespaceKey (lit "aks-store-demo"))) := by
  intro deployed cleaned
  have returned : deployed.1 = .ok () := by
    have accepted : deployed.1.isOk = true := by decide +kernel
    generalize deployed.1 = result at accepted
    cases result with
    | error error => cases accepted
    | ok value => rfl
  have namespaced : Live slowWorld.server.terminating
      (deployed.2.slots (namespaceKey (lit "aks-store-demo"))) := by decide +kernel
  have undeclared : namespaceKey (lit "aks-store-demo") ∉ storeDemo.declared slowWorld := by
    decide +kernel
  obtain ⟨-, ⟨-, applied⟩, -, recleans⟩ := runs_keep_to_manifests slowWorld storeDemo [] beforeDemo
  have clean : cleaned.1 = .ok [] :=
    recleans returned (by decide) [] (slowWorld_cleansFrom (by decide +kernel))
  obtain ⟨-, -, ⟨-, gone⟩, -⟩ :=
    runs_keep_to_manifests slowWorld storeDemo [⟨storeDemo, .deploy⟩] beforeDemo
  obtain ⟨⟨-, kept⟩, -⟩ :=
    runs_keep_to_manifests slowWorld storeDemo [⟨storeDemo, .cleanup⟩] deployed.2
  refine ⟨fun key member => applied returned key member (beforeDemo_settled key member), clean,
    gone clean, ?_⟩
  refine kept _ (fun run member => ?_) namespaced
  rw [List.mem_singleton.mp member]
  exact undeclared

end Telescope.AksStoreDemo
