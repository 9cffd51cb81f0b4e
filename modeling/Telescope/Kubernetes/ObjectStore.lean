import Telescope.Kubernetes.Apply

namespace Telescope.Kubernetes

open Telescope

/-! What applying and deleting manifests does to an API server that keeps its objects
by kind, namespace and name. -/

/-! ## The addressed objects -/

/-- The object that applying a manifest creates, if it is not skipped. -/
def creationTarget (manifest : Manifest) (space : Option Text) :
    Except Error (Option Target) := do
  let metadata ← manifest.readMetadata
  createTarget manifest (appliedNamespace space metadata) metadata.name

/-- The object that applying a manifest patches when its creation conflicts. -/
def conflictTarget (manifest : Manifest) (space : Option Text) :
    Except Error (Option Target) := do
  let metadata ← manifest.readMetadata
  patchTarget manifest
    (chosenNamespace (some (appliedNamespace space metadata)) metadata) metadata.name

/-- The object that deleting a manifest deletes; one without a name is skipped. -/
def deletionTarget (manifest : Manifest) (space : Option Text) :
    Except Error (Option Target) := do
  let metadata ← manifest.readMetadata
  match presentText metadata.name with
  | none => .ok none
  | some name => deleteTarget manifest (chosenNamespace space metadata) (some name)

theorem chosenNamespace_of_nonempty {space : Text} (nonempty : space ≠ [])
    (metadata : Metadata) : chosenNamespace (some space) metadata = some space := by
  simp [chosenNamespace, presentText, nonempty]

private theorem appliedNamespace_nonempty (space : Option Text) (metadata : Metadata) :
    appliedNamespace space metadata ≠ [] := by
  unfold appliedNamespace chosenNamespace
  rcases presentText_eq_none_or space with missing | ⟨value, present, nonempty⟩
  · rw [missing, Option.none_or]
    rcases presentText_eq_none_or metadata.namespace with absent | ⟨value, present, nonempty⟩
    · rw [absent]
      decide
    · rw [present]
      exact nonempty
  · rw [present]
    exact nonempty

/-- An update keeps the namespace that the creation chose. -/
theorem chosenNamespace_applied (space : Option Text) (metadata : Metadata) :
    chosenNamespace (some (appliedNamespace space metadata)) metadata =
      some (appliedNamespace space metadata) :=
  chosenNamespace_of_nonempty (appliedNamespace_nonempty space metadata) metadata

theorem conflictTarget_eq (manifest : Manifest) (space : Option Text) :
    conflictTarget manifest space = creationTarget manifest space := by
  unfold conflictTarget creationTarget
  cases manifest.readMetadata with
  | error error => rfl
  | ok metadata =>
      exact (congrArg (patchTarget manifest · metadata.name)
        (chosenNamespace_applied space metadata)).trans (patchTarget_some _ _ _)

theorem creationTarget_name {manifest : Manifest} {space : Option Text}
    {metadata : Metadata} {target : Target} (read : manifest.readMetadata = .ok metadata)
    (created : creationTarget manifest space = .ok (some target)) :
    target.name = metadata.name := by
  rw [creationTarget, read] at created
  exact createTarget_name created

private theorem creationTarget_ne_requiresNamespace (manifest : Manifest) (space : Option Text)
    (kind : Kind) : creationTarget manifest space ≠ .error (requiresNamespace kind) := by
  have metadata := read_ne_requiresNamespace manifest.metadata ⟨none, none⟩ kind
  unfold creationTarget Manifest.readMetadata
  cases read : manifest.metadata.read ⟨none, none⟩ with
  | error error =>
      rw [read] at metadata
      simpa [bind, Except.bind] using metadata
  | ok fields => exact createTarget_ne_requiresNamespace _ _ _ _

/-! ## One manifest over any server -/

section Requests

variable {σ : Type} (api : Api σ)

def conflicts : Option Refusal → Bool
  | some (.api status _) => status = 409
  | _ => false

def applyRequests (manifest : Manifest) (space : Option Text) (state : σ) :
    List Request :=
  match creationTarget manifest space with
  | .ok (some target) =>
      .create target manifest ::
        if conflicts (api.answer (.create target manifest) state).1 then
          [.patch target manifest]
        else []
  | _ => []

/-- What becomes of the conflict with an object that already exists. -/
def patchExisting (manifest : Manifest) (target : Target) (state : σ) :
    Except Error Unit × σ :=
  let action := lit "updating " ++ manifest.kindText
  match api.answer (.patch target manifest) state with
  | (none, after) => (.ok (), after)
  | (some (.api _ text), after) => (.error (wrapped action text), after)
  | (some (.other error), after) => (.error (wrapped action error.message), after)

private theorem updateSingleManifest_eq {manifest : Manifest} {space : Option Text}
    {metadata : Metadata} {target : Target} (read : manifest.readMetadata = .ok metadata)
    (created : createTarget manifest (appliedNamespace space metadata) metadata.name =
      .ok (some target)) (state : σ) :
    updateSingleManifest api manifest (some (appliedNamespace space metadata)) state =
      patchExisting api manifest target state := by
  unfold updateSingleManifest
  simp only [read, chosenNamespace_applied, patchTarget_some, created]
  rfl

theorem applySingleManifest_eq (manifest : Manifest) (space : Option Text) (state : σ) :
    applySingleManifest api manifest space state =
      match creationTarget manifest space with
      | .error error => (.error error, state)
      | .ok none => (.ok (), state)
      | .ok (some target) =>
          match api.answer (.create target manifest) state with
          | (none, after) => (.ok (), after)
          | (some (.api status text), after) =>
              if status = 409 then patchExisting api manifest target after
              else (.error (wrapped (lit "creating " ++ manifest.kindText) text), after)
          | (some (.other error), after) => (.error error, after) := by
  unfold applySingleManifest creationTarget
  cases read : manifest.readMetadata with
  | error error => rfl
  | ok metadata =>
      simp only [bind, Except.bind]
      cases created : createTarget manifest (appliedNamespace space metadata)
          metadata.name with
      | error error => rfl
      | ok target? =>
          cases target? with
          | none => rfl
          | some target =>
              dsimp only
              rcases api.answer (.create target manifest) state with ⟨answer, after⟩
              cases answer with
              | none => rfl
              | some refused =>
                  cases refused with
                  | api status text => simp only [updateSingleManifest_eq api read created]
                  | other error => rfl

/-- Only the created object is patched, and only after a conflict. -/
theorem applySingleManifest_recorded (manifest : Manifest) (space : Option Text)
    (before : Recorded σ) :
    (applySingleManifest api.recorded manifest space before).1 =
        (applySingleManifest api manifest space before.state).1 ∧
      (applySingleManifest api.recorded manifest space before).2.state =
        (applySingleManifest api manifest space before.state).2 ∧
      (applySingleManifest api.recorded manifest space before).2.requests =
        before.requests ++ applyRequests api manifest space before.state := by
  rw [applySingleManifest_eq, applySingleManifest_eq, applyRequests]
  cases creationTarget manifest space with
  | error error => simp
  | ok target? =>
      cases target? with
      | none => simp
      | some target =>
          simp only [Api.recorded]
          obtain ⟨refusal, after⟩ := api.answer (.create target manifest) before.state
          match refusal with
          | none => simp [conflicts]
          | some (.other error) => simp [conflicts]
          | some (.api status text) =>
              by_cases conflict : status = 409
              · simp only [conflict, conflicts, if_true, decide_true, patchExisting]
                obtain ⟨second, later⟩ := api.answer (.patch target manifest) after
                match second with
                | none => simp
                | some (.other error) => simp
                | some (.api status text) => simp
              · simp [conflict, conflicts]

def deleteRequests (manifest : Manifest) (space : Option Text) : List Request :=
  match deletionTarget manifest space with
  | .ok (some target) => [.delete target]
  | _ => []

theorem deleteSingleManifest_recorded (ignoreNotFound : Bool) (manifest : Manifest)
    (space : Option Text) (before : Recorded σ) :
    (deleteSingleManifest api.recorded ignoreNotFound manifest space before).1 =
        (deleteSingleManifest api ignoreNotFound manifest space before.state).1 ∧
      (deleteSingleManifest api.recorded ignoreNotFound manifest space before).2.state =
        (deleteSingleManifest api ignoreNotFound manifest space before.state).2 ∧
      (deleteSingleManifest api.recorded ignoreNotFound manifest space before).2.requests =
        before.requests ++ deleteRequests manifest space := by
  unfold deleteSingleManifest deleteRequests deletionTarget
  cases manifest.readMetadata with
  | error error => simp [bind, Except.bind]
  | ok metadata =>
      simp only [bind, Except.bind]
      cases presentText metadata.name with
      | none => simp
      | some name =>
          cases addressed : deleteTarget manifest (chosenNamespace space metadata)
              (some name) with
          | error error => simp [addressed]
          | ok target? =>
              cases target? with
              | none => simp [addressed]
              | some target =>
                  simp only [addressed, Api.recorded]
                  obtain ⟨refusal, after⟩ := api.answer (.delete target) before.state
                  cases refusal with
                  | none => simp
                  | some refusal =>
                      cases refusal with
                      | other error => simp
                      | api status text =>
                          by_cases ignored : status = 404 ∧ ignoreNotFound = true
                          · simp [ignored]
                          · simp [ignored]

/-! ## Loops over manifests -/

/-- A handler over a recorded server does what it does over the server, and adds only
requests of the given kind. -/
def Tracks (sent : Manifest → Request → Prop)
    (recorded : Manifest → Recorded σ → Except Error Unit × Recorded σ)
    (plain : Manifest → σ → Except Error Unit × σ) : Prop :=
  ∀ manifest before, (recorded manifest before).1 = (plain manifest before.state).1 ∧
    (recorded manifest before).2.state = (plain manifest before.state).2 ∧
    ∀ request ∈ (recorded manifest before).2.requests,
      request ∈ before.requests ∨ sent manifest request

theorem Tracks.forEach {sent : Manifest → Request → Prop}
    {recorded : Manifest → Recorded σ → Except Error Unit × Recorded σ}
    {plain : Manifest → σ → Except Error Unit × σ} (tracks : Tracks sent recorded plain)
    (manifests : List Manifest) (before : Recorded σ) :
    (forEach recorded manifests before).1 =
        (forEach plain manifests before.state).1 ∧
      (forEach recorded manifests before).2.state =
        (forEach plain manifests before.state).2 ∧
      ∀ request ∈ (forEach recorded manifests before).2.requests,
        request ∈ before.requests ∨ ∃ manifest ∈ manifests, sent manifest request := by
  induction manifests generalizing before with
  | nil => exact ⟨rfl, rfl, fun request member => .inl member⟩
  | cons manifest rest induction =>
      obtain ⟨result, state, requests⟩ := tracks manifest before
      unfold Telescope.forEach
      rcases ran : recorded manifest before with ⟨outcome, after⟩
      rcases ranPlain : plain manifest before.state with ⟨plainOutcome, plainAfter⟩
      rw [ran, ranPlain] at result state
      rw [ran] at requests
      obtain rfl : outcome = plainOutcome := result
      obtain rfl : after.state = plainAfter := state
      cases outcome with
      | error error =>
          refine ⟨rfl, rfl, fun request member => ?_⟩
          exact (requests request member).imp_right
            fun sentHere => ⟨manifest, List.mem_cons_self, sentHere⟩
      | ok value =>
          obtain ⟨laterResult, laterState, laterRequests⟩ := induction after
          refine ⟨laterResult, laterState, fun request member => ?_⟩
          rcases laterRequests request member with earlier | ⟨later, laterMember, sentLater⟩
          · exact (requests request earlier).imp_right
              fun sentHere => ⟨manifest, List.mem_cons_self, sentHere⟩
          · exact .inr ⟨later, List.mem_cons_of_mem manifest laterMember, sentLater⟩

/-! ## What a single manifest keeps and establishes -/

section Manifest

variable {api} {manifest : Manifest} {space : Option Text} {target : Target}

/-- The requests that applying a manifest can make. -/
def Applies (manifest : Manifest) (target : Target) (request : Request) : Prop :=
  request = .create target manifest ∨ request = .patch target manifest

theorem applySingleManifest_keeps (holds : σ → Prop)
    (keeps : ∀ target, creationTarget manifest space = .ok (some target) →
      ∀ request, Applies manifest target request →
        ∀ state, holds state → holds (api.answer request state).2)
    {state : σ} (held : holds state) :
    holds (applySingleManifest api manifest space state).2 := by
  rw [applySingleManifest_eq]
  cases creates : creationTarget manifest space with
  | error error => exact held
  | ok target? =>
      cases target? with
      | none => exact held
      | some target =>
          have created := keeps target creates (.create target manifest) (.inl rfl) state held
          dsimp only
          rcases answered : api.answer (.create target manifest) state with ⟨refusal?, after⟩
          rw [answered] at created
          rcases refusal? with - | refusal
          · exact created
          · cases refusal with
            | other error => exact created
            | api status text =>
                have patched :=
                  keeps target creates (.patch target manifest) (.inr rfl) after created
                dsimp only
                split
                · rw [patchExisting]
                  rcases resent : api.answer (.patch target manifest) after with ⟨second?, later⟩
                  rw [resent] at patched
                  rcases second? with - | second
                  · exact patched
                  · cases second with
                    | other error => exact patched
                    | api status text => exact patched
                · exact created

/-- When it returns, its creation or its patch was the last request, and was accepted. -/
theorem applySingleManifest_establishes (holds : σ → Prop)
    (creates : creationTarget manifest space = .ok (some target))
    (accepted : ∀ request, Applies manifest target request →
      ∀ state, (api.answer request state).1 = none → holds (api.answer request state).2)
    {state : σ} (returned : (applySingleManifest api manifest space state).1 = .ok ()) :
    holds (applySingleManifest api manifest space state).2 := by
  rw [applySingleManifest_eq, creates] at returned ⊢
  have created := accepted (.create target manifest) (.inl rfl) state
  dsimp only at returned ⊢
  rcases answered : api.answer (.create target manifest) state with ⟨refusal?, after⟩
  rw [answered] at returned created
  rcases refusal? with - | refusal
  · exact created rfl
  · cases refusal with
    | other error => cases returned
    | api status text =>
        have patched := accepted (.patch target manifest) (.inr rfl) after
        dsimp only at returned ⊢
        split at returned
        · rename_i conflict
          rw [if_pos conflict]
          rw [patchExisting] at returned ⊢
          rcases resent : api.answer (.patch target manifest) after with ⟨second?, later⟩
          rw [resent] at returned patched
          rcases second? with - | second
          · exact patched rfl
          · cases second <;> cases returned
        · cases returned

theorem deleteSingleManifest_keeps (holds : σ → Prop) {ignoreNotFound : Bool}
    (keeps : ∀ target, deletionTarget manifest space = .ok (some target) →
      ∀ state, holds state → holds (api.answer (.delete target) state).2)
    {state : σ} (held : holds state) :
    holds (deleteSingleManifest api ignoreNotFound manifest space state).2 := by
  unfold deleteSingleManifest
  unfold deletionTarget at keeps
  cases read : manifest.readMetadata with
  | error error => exact held
  | ok metadata =>
      simp only [read, bind, Except.bind] at keeps
      dsimp only
      cases named : presentText metadata.name with
      | none => exact held
      | some name =>
          simp only [named] at keeps
          dsimp only
          cases deletes : deleteTarget manifest (chosenNamespace space metadata) (some name) with
          | error error => exact held
          | ok target? =>
              cases target? with
              | none => exact held
              | some target =>
                  have deleted := keeps target deletes state held
                  dsimp only
                  rcases answered : api.answer (.delete target) state with ⟨refusal?, after⟩
                  rw [answered] at deleted
                  rcases refusal? with - | refusal
                  · exact deleted
                  · cases refusal with
                    | other error => exact deleted
                    | api status text =>
                        dsimp only
                        split
                        · exact deleted
                        · exact deleted

/-- When it returns, its object has been deleted or was not found. -/
theorem deleteSingleManifest_establishes (holds : σ → Prop) {ignoreNotFound : Bool}
    (deletes : deletionTarget manifest space = .ok (some target))
    (accepted : ∀ state, (api.answer (.delete target) state).1 = none ∨
        (∃ text, (api.answer (.delete target) state).1 = some (.api 404 text)) →
      holds (api.answer (.delete target) state).2)
    {state : σ}
    (returned : (deleteSingleManifest api ignoreNotFound manifest space state).1 = .ok ()) :
    holds (deleteSingleManifest api ignoreNotFound manifest space state).2 := by
  unfold deleteSingleManifest at returned ⊢
  unfold deletionTarget at deletes
  cases read : manifest.readMetadata with
  | error error =>
      rw [read] at deletes
      cases deletes
  | ok metadata =>
      simp only [read, bind, Except.bind] at deletes returned ⊢
      cases named : presentText metadata.name with
      | none =>
          rw [named] at deletes
          cases deletes
      | some name =>
          simp only [named] at deletes returned ⊢
          rw [deletes] at returned ⊢
          have deleted := accepted state
          dsimp only at returned ⊢
          rcases answered : api.answer (.delete target) state with ⟨refusal?, after⟩
          rw [answered] at returned deleted
          rcases refusal? with - | refusal
          · exact deleted (.inl rfl)
          · cases refusal with
            | other error => cases returned
            | api status text =>
                dsimp only at returned ⊢
                split at returned
                · rename_i missing
                  rw [if_pos missing]
                  obtain ⟨rfl, -⟩ := missing
                  exact deleted (.inr ⟨text, rfl⟩)
                · cases returned

/-- A deletion addresses what a creation does, unless it skips a manifest without a name. -/
theorem deletionTarget_ok {target? : Option Target}
    (deletes : deletionTarget manifest space = .ok target?) :
    creationTarget manifest space = .ok target? ∨
      (target? = none ∧ ∀ target, creationTarget manifest space = .ok (some target) →
        target.key? = none) := by
  unfold deletionTarget at deletes
  obtain ⟨metadata, read, later⟩ := exists_of_bind_eq_ok deletes
  rcases presentText_eq_none_or metadata.name with missing | ⟨name, present, nonempty⟩
  · rw [missing] at later
    cases later
    refine .inr ⟨rfl, fun target creates => ?_⟩
    rw [Target.key?, creationTarget_name read creates, missing]
    rfl
  · rw [present] at later
    dsimp only at later
    have named : metadata.name = some name := Option.eq_some_of_filter_eq_some present
    unfold creationTarget
    rw [read]
    change createTarget manifest (appliedNamespace space metadata) metadata.name = _ ∨ _
    rw [named, appliedNamespace]
    left
    cases chosen : chosenNamespace space metadata with
    | some value =>
        rw [chosen, deleteTarget_some] at later
        exact later
    | none =>
        rw [chosen] at later
        cases dispatched : manifest.dispatch with
        | none =>
            rw [deleteTarget, dispatched] at later
            rw [createTarget, dispatched]
            exact later
        | some kind =>
            cases scope : kind.isNamespaced with
            | false =>
                rw [deleteTarget_of_clusterScoped dispatched scope (lit "default")] at later
                exact later
            | true =>
                obtain ⟨error, raised⟩ := deleteTarget_none_of_namespaced dispatched scope
                  (some name)
                rw [raised] at later
                cases later

end Manifest

/-- A single manifest is applied by itself. -/
theorem applyManifestFromFile_object (manifest : Manifest)
    (notList : manifest.kind ≠ some (lit "List")) (space : Option Text) (state : σ) :
    applyManifestFromFile api ⟨none, .object manifest notList⟩ space state =
      applySingleManifest api manifest space state := by
  have expanded : expandAndValidateManifests [.object manifest notList] = [manifest] := rfl
  have loaded : loadManifestsFromSources ⟨none, .object manifest notList⟩ =
      .ok [.object manifest notList] := rfl
  simp only [applyManifestFromFile, loaded, expanded, forEach]
  rcases applySingleManifest api manifest space state with ⟨result, after⟩
  cases result with
  | ok value => rfl
  | error error => rfl

end Requests

/-! ## Objects by kind, namespace and name -/

section ObjectStore

variable (merge : Manifest → Manifest → Manifest)

def nameRequired : Text := lit "metadata.name: Required value: name or generateName is required"

def missingName : Error :=
  .valueError (lit "Missing the required parameter name")

/-- An API server that creates only absent objects, and patches and deletes only
existing ones; a patch merges into the object. -/
def objectStore : Api (Store ObjectKey Manifest) where
  answer
    | .create target body, objects =>
        match target.key? with
        | none => (some (.api 422 nameRequired), objects)
        | some key =>
            match objects.get? key with
            | some _ => (some (.api 409 (lit "AlreadyExists")), objects)
            | none => (none, objects.put key body)
    | .patch target body, objects =>
        match target.key? with
        | none => (some (.other missingName), objects)
        | some key =>
            match objects.get? key with
            | some old => (none, objects.put key (merge old body))
            | none => (some (.api 404 (lit "NotFound")), objects)
    | .delete target, objects =>
        match target.key? with
        | none => (some (.other missingName), objects)
        | some key =>
            match objects.get? key with
            | some _ => (none, objects.erase key)
            | none => (some (.api 404 (lit "NotFound")), objects)

def upsert (key : ObjectKey) (body : Manifest) (objects : Store ObjectKey Manifest) :
    Store ObjectKey Manifest :=
  objects.put key ((objects.get? key).elim body fun old => merge old body)

theorem applySingleManifest_objectStore (manifest : Manifest) (space : Option Text)
    (objects : Store ObjectKey Manifest) :
    applySingleManifest (objectStore merge) manifest space objects =
      match creationTarget manifest space with
      | .error error => (.error error, objects)
      | .ok none => (.ok (), objects)
      | .ok (some target) =>
          match target.key? with
          | none =>
              (.error (wrapped (lit "creating " ++ manifest.kindText) nameRequired), objects)
          | some key => (.ok (), upsert merge key manifest objects) := by
  rw [applySingleManifest_eq]
  cases creationTarget manifest space with
  | error error => rfl
  | ok target? =>
      cases target? with
      | none => rfl
      | some target =>
          cases key? : target.key? with
          | none => simp [objectStore, key?]
          | some key =>
              cases found : objects.get? key with
              | none => simp [objectStore, key?, found, upsert]
              | some old => simp [objectStore, key?, found, upsert, patchExisting]

/-- Whether a manifest applies, and the keys it adds, do not depend on the objects that
are there. -/
theorem exists_applied_keys (manifest : Manifest) (space : Option Text) :
    ∃ (result : Except Error Unit) (added : List ObjectKey), ∀ objects,
      (applySingleManifest (objectStore merge) manifest space objects).1 = result ∧
        ∀ key, key ∈ (applySingleManifest (objectStore merge) manifest space objects).2.keys ↔
          key ∈ objects.keys ∨ key ∈ added := by
  simp only [applySingleManifest_objectStore]
  cases creationTarget manifest space with
  | error error => exact ⟨.error error, [], fun objects => ⟨rfl, by simp⟩⟩
  | ok target? =>
      cases target? with
      | none => exact ⟨.ok (), [], fun objects => ⟨rfl, by simp⟩⟩
      | some target =>
          dsimp only
          cases target.key? with
          | none => exact ⟨_, [], fun objects => ⟨rfl, by simp⟩⟩
          | some key =>
              refine ⟨.ok (), [key], fun objects => ⟨rfl, fun other => ?_⟩⟩
              simp only [upsert, Store.mem_keys_put, List.mem_singleton]
              exact or_comm

private theorem exists_all_applied_keys (manifests : List Manifest) (space : Option Text) :
    ∃ added : List ObjectKey, ∀ objects key,
      key ∈ (forEach (fun manifest =>
          applySingleManifest (objectStore merge) manifest space) manifests objects).2.keys ↔
        key ∈ objects.keys ∨ key ∈ added := by
  induction manifests with
  | nil => exact ⟨[], fun objects key => by simp [forEach]⟩
  | cons manifest rest induction =>
      obtain ⟨result, here, applied⟩ := exists_applied_keys merge manifest space
      obtain ⟨later, added⟩ := induction
      cases result with
      | error error =>
          refine ⟨here, fun objects key => ?_⟩
          obtain ⟨raised, keys⟩ := applied objects
          rw [forEach]
          rcases ran : applySingleManifest (objectStore merge) manifest space objects
            with ⟨outcome, after⟩
          rw [ran] at raised keys
          obtain rfl : outcome = .error error := raised
          exact keys key
      | ok value =>
          refine ⟨here ++ later, fun objects key => ?_⟩
          obtain ⟨returned, keys⟩ := applied objects
          rw [forEach]
          rcases ran : applySingleManifest (objectStore merge) manifest space objects
            with ⟨outcome, after⟩
          rw [ran] at returned keys
          obtain rfl : outcome = .ok () := returned
          rw [added after key, keys key, List.mem_append, or_assoc]

/-- A conflicting creation is answered by a patch of the object that it addressed; the
update chain never misses the namespace and skips the kinds that creation skips; and
applying a list again adds no object. -/
theorem conflict_update_addresses_created :
    (∀ (manifest : Manifest) (space : Option Text),
      conflictTarget manifest space = creationTarget manifest space ∧
        (∀ kind, conflictTarget manifest space ≠ .error (requiresNamespace kind)) ∧
        ∀ target, creationTarget manifest space = .ok (some target) →
          (∀ metadata, manifest.readMetadata = .ok metadata →
            target.name = metadata.name) ∧
          ∀ (σ : Type) (api : Api σ) (state : σ),
            (applySingleManifest api.recorded manifest space ⟨state, []⟩).2.requests =
              .create target manifest ::
                if conflicts (api.answer (.create target manifest) state).1 then
                  [.patch target manifest]
                else []) ∧
      (∀ (manifest : Manifest) (space : Text) (otherSpace name : Option Text),
        createTarget manifest space name = .ok none ↔
          patchTarget manifest otherSpace name = .ok none) ∧
      ∀ (manifests : List Manifest) (space : Option Text)
        (objects : Store ObjectKey Manifest),
        let applyAll := forEach (fun manifest =>
          applySingleManifest (objectStore merge) manifest space) manifests
        ∀ key, key ∈ (applyAll (applyAll objects).2).2.keys ↔
          key ∈ (applyAll objects).2.keys := by
  refine ⟨?_, createTarget_skips_iff, ?_⟩
  · intro manifest space
    refine ⟨conflictTarget_eq manifest space, ?_, ?_⟩
    · intro kind
      rw [conflictTarget_eq]
      exact creationTarget_ne_requiresNamespace manifest space kind
    · intro target created
      refine ⟨fun metadata read => creationTarget_name read created, ?_⟩
      intro σ api state
      obtain ⟨-, -, requests⟩ := applySingleManifest_recorded api manifest space ⟨state, []⟩
      rw [requests, applyRequests, created]
      rfl
  · intro manifests space objects applyAll key
    obtain ⟨added, keys⟩ := exists_all_applied_keys merge manifests space
    rw [keys (applyAll objects).2 key, keys objects key, or_assoc, or_self]

end ObjectStore

end Telescope.Kubernetes
