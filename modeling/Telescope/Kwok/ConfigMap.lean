import Telescope.Kubernetes.Undo
import Telescope.Kwok.Node

namespace Telescope.Kwok

open Telescope Telescope.Kubernetes

/-! Replacing KWOK's config map (`_replace_config_map`): delete it, see that it is gone,
apply the own manifest.  A deletion can take its time, and requests can fail with or without
their effect. -/

/-- The config map, whether this call has created it, and whether its deletion is in
progress. -/
structure ConfigMap where
  own : Bool
  body : Manifest
  terminating : Bool

/-- What is under the config map's key, and the number of requests made so far. -/
structure ConfigMapSite where
  slot : Option ConfigMap
  requests : Nat

/-- How the server treats each request: the fault it meets, whether a deletion is over at
once, and whether one that was in progress has ended before the request. -/
structure ConfigMapServer where
  fault : Nat → Option Fault
  lingers : Nat → Bool
  vanishes : Nat → Bool
  merge : Manifest → Manifest → Manifest
  mergeSelf : ∀ body, merge body body = body

namespace ConfigMapServer

def settled (server : ConfigMapServer) (site : ConfigMapSite) : Option ConfigMap :=
  site.slot.filter fun object => !(object.terminating && server.vanishes site.requests)

def respond (server : ConfigMapServer) (index : Nat) :
    Request → Option ConfigMap → Option Refusal × Option ConfigMap
  | .create _ body, none => (none, some ⟨true, body, false⟩)
  | .create _ _, some object => (some (.api 409 (lit "AlreadyExists")), some object)
  | .patch _ body, some object =>
      (none, some { object with body := server.merge object.body body })
  | .patch _ _, none => (some (.api 404 (lit "NotFound")), none)
  | .delete _, some object =>
      (none, if object.terminating || server.lingers index then
        some { object with terminating := true } else none)
  | .delete _, none => (some (.api 404 (lit "NotFound")), none)

def api (server : ConfigMapServer) : Api ConfigMapSite where
  answer request site :=
    let answered := server.respond site.requests request (server.settled site)
    match server.fault site.requests with
    | none => (answered.1, ⟨answered.2, site.requests + 1⟩)
    | some fault =>
        (some fault.refusal,
          ⟨if fault.effective then answered.2 else server.settled site, site.requests + 1⟩)

/-- `get_config_map`: an absent one is `None`. -/
def getConfigMap (server : ConfigMapServer) (site : ConfigMapSite) :
    Except Error (Option ConfigMap) × ConfigMapSite :=
  let after : ConfigMapSite := ⟨server.settled site, site.requests + 1⟩
  match server.fault site.requests with
  | none => (.ok (server.settled site), after)
  | some fault =>
      (.error ⟨.external, lit "Error getting ConfigMap 'kwok' from namespace 'kube-system': " ++
        fault.refusal.error.message⟩, after)

def assertConfigMapAbsent (server : ConfigMapServer) (site : ConfigMapSite) :
    Except Error Unit × ConfigMapSite :=
  match server.getConfigMap site with
  | (.error error, after) => (.error error, after)
  | (.ok (some _), after) =>
      (.error (.runtimeError (lit "KWOK configmap still exists in kube-system namespace.")), after)
  | (.ok none, after) => (.ok (), after)

end ConfigMapServer

/-- `kwok/config/kwok-config.yaml` -/
def kwokConfig : Manifest where
  kind := some Kind.configMap.text
  apiVersion := some (lit "v1")
  metadata := .mapping ⟨some (lit "kwok"), some (lit "kube-system")⟩
  spec := .absent
  content := lit "data: kwok.yaml"

private theorem kwokConfig_notList : kwokConfig.kind ≠ some (lit "List") := by decide

def kwokConfigFile : Sources where
  manifestPath := some (lit "kwok/config/kwok-config.yaml",
    .file [.object kwokConfig kwokConfig_notList])
  manifestDict := .falsy

namespace ConfigMapServer

def deleteConfig (server : ConfigMapServer) (_ : Nat) (site : ConfigMapSite) :
    Except Error Unit × ConfigMapSite :=
  deleteManifestFromFile server.api kwokConfigFile true none site

def applyConfig (server : ConfigMapServer) (_ : Nat) (site : ConfigMapSite) :
    Except Error Unit × ConfigMapSite :=
  applyManifestFromFile server.api kwokConfigFile none site

/-- `_replace_config_map` -/
def replaceConfigMap (server : ConfigMapServer) (site : ConfigMapSite) :
    Except Error Unit × ConfigMapSite :=
  let deleted := executeWithRetries server.deleteConfig Node.backoffTime Node.maxRetries site
  match deleted.result with
  | .error error => (.error error, deleted.state)
  | .ok () =>
      let absent := executeWithRetries (fun _ => server.assertConfigMapAbsent) Node.backoffTime
        Node.maxRetries deleted.state
      match absent.result with
      | .error error => (.error error, absent.state)
      | .ok () =>
          let applied := executeWithRetries server.applyConfig Node.backoffTime Node.maxRetries
            absent.state
          (applied.result, applied.state)

/-! ## One request -/

def configTarget : Target := namespaced coreV1 "configmaps" (lit "kube-system") (some (lit "kwok"))

theorem creationTarget_kwokConfig :
    creationTarget kwokConfig none = .ok (some configTarget) := rfl

theorem applyConfig_eq (server : ConfigMapServer) (attempt : Nat) (site : ConfigMapSite) :
    server.applyConfig attempt site = applySingleManifest server.api kwokConfig none site := by
  change forEach (fun manifest => applySingleManifest server.api manifest none) [kwokConfig] site =
    _
  rw [forEach]
  rcases applySingleManifest server.api kwokConfig none site with ⟨result, after⟩
  cases result <;> rfl

def deleting : Text := lit "deleting " ++ kwokConfig.kindText ++ lit "/" ++ lit "kwok"

theorem deleteConfig_eq (server : ConfigMapServer) (attempt : Nat) (site : ConfigMapSite) :
    server.deleteConfig attempt site =
      match server.api.answer (.delete configTarget) site with
      | (none, after) => (.ok (), after)
      | (some (.api status text), after) =>
          if status = 404 then (.ok (), after)
          else (.error (wrapped deleting text), after)
      | (some (.other error), after) =>
          (.error (wrapped deleting error.message), after) := by
  have read : kwokConfig.readMetadata = .ok ⟨some (lit "kwok"), some (lit "kube-system")⟩ := rfl
  have named : presentText (some (lit "kwok")) = some (lit "kwok") := by decide
  have target : deleteTarget kwokConfig
      (chosenNamespace none ⟨some (lit "kwok"), some (lit "kube-system")⟩)
      (some (lit "kwok")) = .ok (some configTarget) := rfl
  change forEach (fun manifest => deleteSingleManifest server.api true manifest none) [kwokConfig]
    site = _
  simp only [forEach, deleteSingleManifest, read, named, target]
  rcases server.api.answer (.delete configTarget) site with ⟨refusal?, after⟩
  rcases refusal? with - | refusal
  · rfl
  · cases refusal with
    | other error => rfl
    | api status text => by_cases absent : status = 404 <;> simp [absent, deleting]

/-! ## What the steps keep -/

/-- There is at most the map that was there before, and its body is as it was. -/
def Untouched (prior : Option Manifest) (site : ConfigMapSite) : Prop :=
  ∀ object, site.slot = some object → object.own = false ∧ prior = some object.body

/-- There is at most a map that this call has created, with the body of the manifest. -/
def Renewed (site : ConfigMapSite) : Prop :=
  ∀ object, site.slot = some object → object = ⟨true, kwokConfig, false⟩

theorem settled_cases (server : ConfigMapServer) (site : ConfigMapSite) :
    server.settled site = none ∨ server.settled site = site.slot := by
  unfold settled
  cases site.slot with
  | none => exact .inl rfl
  | some object =>
      rw [Option.filter_some]
      split
      · exact .inr rfl
      · exact .inl rfl

theorem answer_slot_cases (server : ConfigMapServer) (request : Request) (site : ConfigMapSite) :
    (server.api.answer request site).2.slot = server.settled site ∨
      (server.api.answer request site).2.slot =
        (server.respond site.requests request (server.settled site)).2 := by
  simp only [api]
  cases server.fault site.requests with
  | none => exact .inr rfl
  | some fault =>
      cases effective : fault.effective with
      | false => exact .inl (by simp [effective])
      | true => exact .inr (by simp [effective])

private theorem accepted_slot {server : ConfigMapServer} {request : Request} {site : ConfigMapSite}
    (accepted : (server.api.answer request site).1 = none) :
    (server.respond site.requests request (server.settled site)).1 = none ∧
      (server.api.answer request site).2.slot =
        (server.respond site.requests request (server.settled site)).2 := by
  simp only [api] at accepted ⊢
  cases faulty : server.fault site.requests with
  | none =>
      rw [faulty] at accepted
      exact ⟨accepted, rfl⟩
  | some fault =>
      rw [faulty] at accepted
      cases accepted

private theorem deleteConfig_state (server : ConfigMapServer) (attempt : Nat)
    (site : ConfigMapSite) :
    (server.deleteConfig attempt site).2 = (server.api.answer (.delete configTarget) site).2 := by
  rw [deleteConfig_eq]
  rcases server.api.answer (.delete configTarget) site with ⟨refusal?, after⟩
  rcases refusal? with - | refusal
  · rfl
  · cases refusal with
    | other error => rfl
    | api status text => by_cases absent : status = 404 <;> simp [absent]

private theorem assertConfigMapAbsent_state (server : ConfigMapServer) (site : ConfigMapSite) :
    (server.assertConfigMapAbsent site).2 = ⟨server.settled site, site.requests + 1⟩ := by
  simp only [assertConfigMapAbsent, getConfigMap]
  cases server.fault site.requests with
  | some fault => rfl
  | none => cases found : server.settled site <;> simp

section Untouched

variable {server : ConfigMapServer} {prior : Option Manifest} {site : ConfigMapSite}

theorem Untouched.settled (server : ConfigMapServer) (untouched : Untouched prior site)
    (requests : Nat) :
    Untouched prior ⟨server.settled site, requests⟩ := by
  intro object found
  rcases server.settled_cases site with gone | same
  · rw [gone] at found
    cases found
  · exact untouched object (same ▸ found)

theorem deleteConfig_untouched (attempt : Nat) (untouched : Untouched prior site) :
    Untouched prior (server.deleteConfig attempt site).2 := by
  rw [deleteConfig_state]
  intro object found
  have before := untouched.settled server site.requests
  rcases server.answer_slot_cases (.delete configTarget) site with unchanged | deleted
  · exact before object (unchanged ▸ found)
  · rw [deleted] at found
    cases present : server.settled site with
    | none =>
        rw [present] at found
        cases found
    | some earlier =>
        simp only [present, respond] at found
        split at found
        · cases found
          exact before earlier present
        · cases found

theorem assertConfigMapAbsent_untouched (untouched : Untouched prior site) :
    Untouched prior (server.assertConfigMapAbsent site).2 := by
  rw [assertConfigMapAbsent_state]
  exact untouched.settled server _

/-- The check passes only when nothing is left. -/
theorem slot_of_assertConfigMapAbsent (site : ConfigMapSite)
    (returned : (server.assertConfigMapAbsent site).1 = .ok ()) :
    (server.assertConfigMapAbsent site).2.slot = none := by
  simp only [assertConfigMapAbsent, getConfigMap] at returned ⊢
  cases faulty : server.fault site.requests with
  | some fault =>
      rw [faulty] at returned
      cases returned
  | none =>
      cases present : server.settled site with
      | none => simp
      | some object => simp [faulty, present] at returned

end Untouched

/-- When the check has passed, at once or in a retry, nothing is left. -/
theorem absent_of_checked (server : ConfigMapServer) (site : ConfigMapSite) :
    (executeWithRetries (fun _ => server.assertConfigMapAbsent) Node.backoffTime
        Node.maxRetries site).result = .ok () →
      (executeWithRetries (fun _ => server.assertConfigMapAbsent) Node.backoffTime
        Node.maxRetries site).state.slot = none := by
  have kept (_ : Nat) (before : ConfigMapSite) (_ : True) : True := trivial
  exact executeWithRetries_post kept
    (fun result after => result = .ok () → after.slot = none) trivial
    (fun _ before _ => slot_of_assertConfigMapAbsent before)

theorem Renewed.answer (server : ConfigMapServer) {site : ConfigMapSite} (renewed : Renewed site)
    {request : Request} (own : request = .create configTarget kwokConfig ∨
      request = .patch configTarget kwokConfig) :
    Renewed (server.api.answer request site).2 := by
  have before : ∀ object, server.settled site = some object →
      object = ⟨true, kwokConfig, false⟩ := by
    intro object found
    rcases server.settled_cases site with gone | same
    · rw [gone] at found
      cases found
    · exact renewed object (same ▸ found)
  intro object found
  rcases server.answer_slot_cases request site with unchanged | answered
  · exact before object (unchanged ▸ found)
  · rw [answered] at found
    cases present : server.settled site with
    | none =>
        rcases own with rfl | rfl
        · simp only [present, respond] at found
          exact (Option.some.inj found).symm
        · simp [present, respond] at found
    | some earlier =>
        obtain rfl := before earlier present
        rcases own with rfl | rfl
        · simp only [present, respond] at found
          exact (Option.some.inj found).symm
        · simp only [present, respond, server.mergeSelf] at found
          exact (Option.some.inj found).symm

/-- An accepted creation or patch leaves the new map. -/
theorem Renewed.slot_of_accepted (server : ConfigMapServer) {site : ConfigMapSite}
    (renewed : Renewed site) {request : Request}
    (own : request = .create configTarget kwokConfig ∨ request = .patch configTarget kwokConfig)
    (accepted : (server.api.answer request site).1 = none) :
    (server.api.answer request site).2.slot = some ⟨true, kwokConfig, false⟩ := by
  obtain ⟨answered, slot⟩ := accepted_slot accepted
  have present : ∃ object, (server.api.answer request site).2.slot = some object := by
    rw [slot]
    cases found : server.settled site with
    | none =>
        rcases own with rfl | rfl
        · exact ⟨_, rfl⟩
        · rw [found] at answered
          cases answered
    | some earlier =>
        rcases own with rfl | rfl
        · exact ⟨_, rfl⟩
        · exact ⟨_, rfl⟩
  obtain ⟨object, found⟩ := present
  rw [found, renewed.answer server own object found]

theorem applyConfig_renews {server : ConfigMapServer} (attempt : Nat) {site : ConfigMapSite}
    (renewed : Renewed site) :
    Renewed (server.applyConfig attempt site).2 ∧
      ((server.applyConfig attempt site).1 = .ok () →
        (server.applyConfig attempt site).2.slot = some ⟨true, kwokConfig, false⟩) := by
  rw [applyConfig_eq, applySingleManifest_eq, creationTarget_kwokConfig]
  dsimp only
  have created := renewed.answer server (.inl rfl)
  have createdSlot := renewed.slot_of_accepted server (.inl rfl)
  rcases answered : server.api.answer (.create configTarget kwokConfig) site with
    ⟨refusal?, after⟩
  rw [answered] at created createdSlot
  rcases refusal? with - | refusal
  · exact ⟨created, fun _ => createdSlot rfl⟩
  · cases refusal with
    | other error => exact ⟨created, fun returned => by cases returned⟩
    | api status text =>
        by_cases conflict : status = 409
        · have patched := created.answer server (.inr rfl)
          have patchedSlot := created.slot_of_accepted server (.inr rfl)
          simp only [conflict, if_true, patchExisting]
          rcases resent : server.api.answer (.patch configTarget kwokConfig) after with
            ⟨second?, later⟩
          rw [resent] at patched patchedSlot
          rcases second? with - | second
          · exact ⟨patched, fun _ => patchedSlot rfl⟩
          · cases second with
            | other error => exact ⟨patched, fun returned => by cases returned⟩
            | api status text => exact ⟨patched, fun returned => by cases returned⟩
        · simp only [conflict, if_false]
          exact ⟨created, fun returned => by cases returned⟩

/-! ## Without faults -/

/-- The reads see a lingering map until one of them comes after its end. -/
theorem assert_retries_iff {server : ConfigMapServer} (healthy : ∀ index, server.fault index = none)
    {object : ConfigMap} (lingering : object.terminating = true) (left retryCount : Nat)
    (requests : Nat) :
    (retryFrom (fun _ => server.assertConfigMapAbsent) Node.backoffTime left retryCount
        ⟨some object, requests⟩).result = .ok () ↔
      ∃ read ≤ left, server.vanishes (requests + read) = true := by
  have reads (requests : Nat) : server.assertConfigMapAbsent ⟨some object, requests⟩ =
      if server.vanishes requests then (.ok (), ⟨none, requests + 1⟩)
      else (.error (.runtimeError
        (lit "KWOK configmap still exists in kube-system namespace.")),
          ⟨some object, requests + 1⟩) := by
    have here : server.settled ⟨some object, requests⟩ =
        if server.vanishes requests then none else some object := by
      rw [settled, Option.filter_some, lingering]
      cases server.vanishes requests <;> rfl
    simp only [assertConfigMapAbsent, getConfigMap, healthy, here]
    cases server.vanishes requests <;> rfl
  induction left generalizing retryCount requests with
  | zero =>
      rw [retryFrom, reads]
      by_cases gone : server.vanishes requests = true <;> simp [gone]
  | succ left induction =>
      rw [retryFrom, reads]
      by_cases gone : server.vanishes requests = true
      · simp only [gone, if_true, true_iff]
        exact ⟨0, Nat.zero_le _, gone⟩
      · simp only [gone, Bool.false_eq_true, if_false]
        refine (induction (retryCount + 1) (requests + 1)).trans ?_
        constructor
        · rintro ⟨read, within, ends⟩
          exact ⟨read + 1, by omega, by rw [← ends]; congr 1; omega⟩
        · rintro ⟨read, within, ends⟩
          rcases read with - | read
          · exact absurd ends gone
          · exact ⟨read, by omega, by rw [← ends]; congr 1; omega⟩

private theorem deleteConfig_of_healthy {server : ConfigMapServer}
    (healthy : ∀ index, server.fault index = none) (attempt : Nat) (site : ConfigMapSite) :
    server.deleteConfig attempt site = (.ok (),
      ⟨(server.respond site.requests (.delete configTarget) (server.settled site)).2,
        site.requests + 1⟩) := by
  rw [deleteConfig_eq]
  simp only [api, healthy]
  cases server.settled site with
  | none => simp [respond]
  | some object => simp [respond]

private theorem applyConfig_of_absent {server : ConfigMapServer}
    (healthy : ∀ index, server.fault index = none) (attempt requests : Nat) :
    (server.applyConfig attempt ⟨none, requests⟩).1 = .ok () := by
  rw [applyConfig_eq, applySingleManifest_eq, creationTarget_kwokConfig]
  simp [api, healthy, settled, respond]

private theorem applied_of_absent {server : ConfigMapServer}
    (healthy : ∀ index, server.fault index = none) {site : ConfigMapSite}
    (absent : site.slot = none) :
    (executeWithRetries server.applyConfig Node.backoffTime Node.maxRetries site).result =
      .ok () := by
  obtain ⟨slot, requests⟩ := site
  subst absent
  have first : server.applyConfig 0 ⟨none, requests⟩ =
      (.ok (), (server.applyConfig 0 ⟨none, requests⟩).2) :=
    Prod.ext (applyConfig_of_absent healthy 0 requests) rfl
  exact (executeWithRetries_of_first server.applyConfig Node.backoffTime first Node.maxRetries).1

private theorem replaceConfigMap_ok_iff (server : ConfigMapServer)
    (healthy : ∀ index, server.fault index = none) (site : ConfigMapSite) :
    (server.replaceConfigMap site).1 = .ok () ↔
      (server.respond site.requests (.delete configTarget) (server.settled site)).2 = none ∨
        ∃ read ≤ 2, server.vanishes (site.requests + 1 + read) = true := by
  obtain ⟨result, state⟩ := executeWithRetries_of_first server.deleteConfig Node.backoffTime
    (deleteConfig_of_healthy healthy 0 site) Node.maxRetries
  have lingering : ∀ object, (server.respond site.requests (.delete configTarget)
      (server.settled site)).2 = some object → object.terminating = true := by
    intro object found
    cases present : server.settled site with
    | none =>
        rw [present] at found
        cases found
    | some earlier =>
        simp only [present, respond] at found
        split at found
        · rw [← Option.some.inj found]
        · cases found
  unfold replaceConfigMap
  simp only [result, state]
  generalize (server.respond site.requests (.delete configTarget) (server.settled site)).2 = left
    at lingering
  have goesOn := absent_of_checked server ⟨left, site.requests + 1⟩
  have checked : (executeWithRetries (fun _ => server.assertConfigMapAbsent) Node.backoffTime
        Node.maxRetries ⟨left, site.requests + 1⟩).result = .ok () ↔
      left = none ∨ ∃ read ≤ 2, server.vanishes (site.requests + 1 + read) = true := by
    cases left with
    | none =>
        have first : server.assertConfigMapAbsent ⟨none, site.requests + 1⟩ =
            (.ok (), ⟨none, site.requests + 1 + 1⟩) := by
          simp [assertConfigMapAbsent, getConfigMap, healthy, settled]
        simp [(executeWithRetries_of_first (fun _ => server.assertConfigMapAbsent)
          Node.backoffTime first Node.maxRetries).1]
    | some object =>
        have retried := assert_retries_iff healthy (lingering object rfl) Node.maxRetries 0
          (site.requests + 1)
        simpa [executeWithRetries, Node.maxRetries] using retried
  rw [← checked]
  generalize executeWithRetries (fun _ => server.assertConfigMapAbsent) Node.backoffTime
    Node.maxRetries ⟨left, site.requests + 1⟩ = check at goesOn
  cases ended : check.result with
  | error error => simp
  | ok value => simp [applied_of_absent healthy (goesOn ended)]

/-- Where `_replace_config_map` starts: with no map, or with one that another call made and
whose deletion may be in progress. -/
def startingSite (prior : Option (Manifest × Bool)) (requests : Nat) : ConfigMapSite where
  slot := prior.map fun found => ⟨false, found.1, found.2⟩
  requests := requests

private theorem startingSite_untouched (prior : Option (Manifest × Bool)) (requests : Nat) :
    Untouched (prior.map Prod.fst) (startingSite prior requests) := by
  intro object found
  obtain ⟨earlier, rfl, rfl⟩ := Option.map_eq_some_iff.mp found
  exact ⟨rfl, rfl⟩

/-- The map is the earlier one until it has been seen to be gone, and the new one after. -/
theorem replaceConfigMap_spec (server : ConfigMapServer) {prior : Option Manifest}
    {site : ConfigMapSite} (untouched : Untouched prior site) :
    (Untouched prior (server.replaceConfigMap site).2 ∨
        Renewed (server.replaceConfigMap site).2) ∧
      ((server.replaceConfigMap site).1 = .ok () →
        (server.replaceConfigMap site).2.slot = some ⟨true, kwokConfig, false⟩) := by
  have deleted : Untouched prior (executeWithRetries server.deleteConfig Node.backoffTime
      Node.maxRetries site).state :=
    executeWithRetries_post (fun attempt _ => deleteConfig_untouched attempt)
      (fun _ after => Untouched prior after) untouched
      (fun attempt _ => deleteConfig_untouched attempt)
  unfold replaceConfigMap
  dsimp only
  generalize executeWithRetries server.deleteConfig Node.backoffTime Node.maxRetries site =
    deletion at deleted
  cases deletion.result with
  | error error => exact ⟨.inl deleted, fun returned => nomatch returned⟩
  | ok value =>
      have absent : Untouched prior (executeWithRetries (fun _ => server.assertConfigMapAbsent)
          Node.backoffTime Node.maxRetries deletion.state).state :=
        executeWithRetries_post (fun _ _ => assertConfigMapAbsent_untouched)
          (fun _ after => Untouched prior after) deleted
          (fun _ _ => assertConfigMapAbsent_untouched)
      have goesOn := absent_of_checked server deletion.state
      dsimp only
      generalize executeWithRetries (fun _ => server.assertConfigMapAbsent) Node.backoffTime
        Node.maxRetries deletion.state = check at absent goesOn
      cases checked : check.result with
      | error error => exact ⟨.inl absent, fun returned => nomatch returned⟩
      | ok value =>
          have gone : Renewed check.state := by
            intro object found
            rw [goesOn checked] at found
            cases found
          have renews (attempt : Nat) (before : ConfigMapSite) (reached : Renewed before) :
              Renewed (server.applyConfig attempt before).2 :=
            (applyConfig_renews attempt reached).1
          have applied : Renewed (executeWithRetries server.applyConfig Node.backoffTime
                Node.maxRetries check.state).state ∧
              ((executeWithRetries server.applyConfig Node.backoffTime Node.maxRetries
                  check.state).result = .ok () →
                (executeWithRetries server.applyConfig Node.backoffTime Node.maxRetries
                  check.state).state.slot = some ⟨true, kwokConfig, false⟩) :=
            executeWithRetries_post renews (fun result after => Renewed after ∧
              (result = .ok () → after.slot = some ⟨true, kwokConfig, false⟩)) gone
              (fun attempt _ reached => applyConfig_renews attempt reached)
          exact ⟨.inr applied.1, applied.2⟩

/-- Whatever faults the requests meet and however long the deletion takes, the call returns
only with a config map that it has created from its manifest, and never patches the one that
was there; without faults it returns exactly if that one is gone at one of the three
reads. -/
theorem config_map_is_replaced (server : ConfigMapServer) (prior : Option (Manifest × Bool))
    (requests : Nat) :
    ((server.replaceConfigMap (startingSite prior requests)).1 = .ok () →
        (server.replaceConfigMap (startingSite prior requests)).2.slot =
          some ⟨true, kwokConfig, false⟩) ∧
      (∀ object, (server.replaceConfigMap (startingSite prior requests)).2.slot = some object →
        object = ⟨true, kwokConfig, false⟩ ∨
          (object.own = false ∧ prior.map Prod.fst = some object.body)) ∧
      ((∀ index, server.fault index = none) →
        ((server.replaceConfigMap (startingSite prior requests)).1 = .ok () ↔
          (server.respond requests (.delete configTarget)
              (server.settled (startingSite prior requests))).2 = none ∨
            ∃ read ≤ 2, server.vanishes (requests + 1 + read) = true)) := by
  obtain ⟨kept, replaced⟩ :=
    replaceConfigMap_spec server (startingSite_untouched prior requests)
  refine ⟨replaced, fun object found => ?_, fun healthy =>
    server.replaceConfigMap_ok_iff healthy (startingSite prior requests)⟩
  rcases kept with untouched | renewed
  · exact .inr (untouched object found)
  · exact .inl (renewed object found)

/-! A map that another call has made, on a server whose deletions take their time. -/

def earlierConfig : Manifest := { kwokConfig with content := lit "data: earlier.yaml" }

/-- Deleted maps linger and end before the given request, if at all; a patch replaces the
content. -/
def slowServer (fault : Nat → Option Fault) (goneAt : Option Nat) : ConfigMapServer where
  fault := fault
  lingers _ := true
  vanishes request := goneAt = some request
  merge earlier body := { earlier with content := body.content }
  mergeSelf _ := rfl

/-- The deletion was begun, but its response did not arrive. -/
def lostResponse : Fault where
  refusal := .other ⟨.external, lit "Read timed out."⟩
  effective := true
  notFoundExcluded _ := by simp
  conflictExcluded _ := by simp

/-- With a lost response and a map that is gone at the second read, the new map is
created; a map that is still there at all three reads is not replaced. -/
theorem slow_deletion_is_awaited :
    let site := startingSite (some (earlierConfig, false)) 0
    let losing := slowServer (fun request => if request = 0 then some lostResponse else none)
      (some 3)
    let endless := slowServer (fun _ => none) none
    (losing.replaceConfigMap site).1 = .ok () ∧
      (losing.replaceConfigMap site).2.slot = some ⟨true, kwokConfig, false⟩ ∧
      (endless.replaceConfigMap site).1 ≠ .ok () := by
  intro site losing endless
  have returned : (losing.replaceConfigMap site).1 = .ok () := rfl
  refine ⟨returned, (losing.config_map_is_replaced _ 0).1 returned, ?_⟩
  intro replaced
  rcases ((endless.config_map_is_replaced (some (earlierConfig, false)) 0).2.2
      fun _ => rfl).mp replaced with gone | ⟨read, -, ended⟩
  · cases gone
  · cases ended

end ConfigMapServer

end Telescope.Kwok
