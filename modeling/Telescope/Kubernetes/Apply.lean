import Telescope.Data.Loop
import Telescope.Kubernetes.Manifest

namespace Telescope.Kubernetes

open Telescope

/-! `apply_manifest_from_file` and `delete_manifest_from_file` over an arbitrary API
server. -/

inductive Request where
  | create (target : Target) (body : Manifest)
  | patch (target : Target) (body : Manifest)
  | delete (target : Target)

def Request.target : Request → Target
  | .create target _ => target
  | .patch target _ => target
  | .delete target => target

/-- How a request fails: with an `ApiException`, or before the server answers. -/
inductive Refusal where
  | api (status : Nat) (text : Text)
  | other (error : Error)

def Refusal.error : Refusal → Error
  | .api _ text => ⟨.external, text⟩
  | .other error => error

structure Api (σ : Type) where
  answer : Request → σ → Option Refusal × σ

/-- A server's state together with the requests that it received. -/
structure Recorded (σ : Type) where
  state : σ
  requests : List Request

def Api.recorded {σ : Type} (api : Api σ) : Api (Recorded σ) where
  answer request before :=
    ((api.answer request before.state).1,
      ⟨(api.answer request before.state).2, before.requests ++ [request]⟩)

def Manifest.kindText (manifest : Manifest) : Text := manifest.kind.getD (lit "None")

/-- `raise Exception(f"Error {action}: {str(e)}") from e` -/
def wrapped (action cause : Text) : Error :=
  ⟨.external, lit "Error " ++ action ++ lit ": " ++ cause⟩

/-- `namespace or manifest.get("metadata", {}).get("namespace")` -/
def chosenNamespace (space : Option Text) (metadata : Metadata) : Option Text :=
  (presentText space).or (presentText metadata.namespace)

def appliedNamespace (space : Option Text) (metadata : Metadata) : Text :=
  (chosenNamespace space metadata).getD (lit "default")

section Client

variable {σ : Type} (api : Api σ)

def updateSingleManifest (manifest : Manifest) (space : Option Text) (state : σ) :
    Except Error Unit × σ :=
  let action := lit "updating " ++ manifest.kindText
  match manifest.readMetadata with
  | .error error => (.error (wrapped action error.message), state)
  | .ok metadata =>
      match patchTarget manifest (chosenNamespace space metadata) metadata.name with
      | .error error => (.error (wrapped action error.message), state)
      | .ok none => (.ok (), state)
      | .ok (some target) =>
          match api.answer (.patch target manifest) state with
          | (none, after) => (.ok (), after)
          | (some (.api _ text), after) => (.error (wrapped action text), after)
          | (some (.other error), after) =>
              (.error (wrapped action error.message), after)

def applySingleManifest (manifest : Manifest) (space : Option Text) (state : σ) :
    Except Error Unit × σ :=
  match manifest.readMetadata with
  | .error error => (.error error, state)
  | .ok metadata =>
      match createTarget manifest (appliedNamespace space metadata) metadata.name with
      | .error error => (.error error, state)
      | .ok none => (.ok (), state)
      | .ok (some target) =>
          match api.answer (.create target manifest) state with
          | (none, after) => (.ok (), after)
          | (some (.api status text), after) =>
              -- The handler sees the namespace that the `try` block chose.
              if status = 409 then
                updateSingleManifest api manifest (some (appliedNamespace space metadata)) after
              else
                (.error (wrapped (lit "creating " ++ manifest.kindText) text), after)
          | (some (.other error), after) => (.error error, after)

def deleteSingleManifest (ignoreNotFound : Bool) (manifest : Manifest)
    (space : Option Text) (state : σ) : Except Error Unit × σ :=
  match manifest.readMetadata with
  | .error error => (.error error, state)
  | .ok metadata =>
      match presentText metadata.name with
      | none => (.ok (), state)
      | some name =>
          let action := lit "deleting " ++ manifest.kindText ++ lit "/" ++ name
          match deleteTarget manifest (chosenNamespace space metadata) (some name) with
          | .error error => (.error (wrapped action error.message), state)
          | .ok none => (.ok (), state)
          | .ok (some target) =>
              match api.answer (.delete target) state with
              | (none, after) => (.ok (), after)
              | (some (.api status text), after) =>
                  if status = 404 ∧ ignoreNotFound then (.ok (), after)
                  else (.error (wrapped action text), after)
              | (some (.other error), after) =>
                  (.error (wrapped action error.message), after)

end Client

/-! ## Loading -/

/-- A parsed YAML value.  A mapping of kind `List` is not a manifest. -/
inductive Document where
  | falsy
  | scalarOrSequence
  | list (items : List Document)
  | listWithoutItems
  | object (manifest : Manifest) (notList : manifest.kind ≠ some (lit "List"))

def Document.truthy : Document → Bool
  | .falsy => false
  | _ => true

/-- What a manifest path leads to; a directory's YAML files come in sorted order. -/
inductive PathContent where
  | file (documents : List Document)
  | directory (files : List (List Document))
  | unreadable (error : Error)
  | missing

structure Sources where
  manifestPath : Option (Text × PathContent)
  manifestDict : Document

def pathDocuments : Option (Text × PathContent) → Except Error (List Document)
  | none => .ok []
  | some (_, .file documents) => .ok documents
  | some (path, .directory files) =>
      if files = [] then
        .error (.valueError (lit "No YAML files found in directory: " ++ path))
      else .ok files.flatten
  | some (_, .unreadable error) => .error error
  | some (path, .missing) => .error ⟨.external, lit "Path does not exist: " ++ path⟩

def loadManifestsFromSources (sources : Sources) : Except Error (List Document) := do
  let documents ← pathDocuments sources.manifestPath
  let manifests := (documents ++ [sources.manifestDict]).filter Document.truthy
  if manifests.isEmpty then
    .error (.valueError
      (lit "At least one of manifest_path or manifest_dict must be provided"))
  else .ok manifests

mutual

def expandManifest : Document → List Manifest
  | .falsy => []
  | .scalarOrSequence => []
  | .list items => expandAndValidateManifests items
  | .listWithoutItems => []
  | .object manifest _ => [manifest]

def expandAndValidateManifests : List Document → List Manifest
  | [] => []
  | document :: rest => expandManifest document ++ expandAndValidateManifests rest

end

section Files

variable {σ : Type} (api : Api σ)

def applyManifestFromFile (sources : Sources) (space : Option Text) (state : σ) :
    Except Error Unit × σ :=
  match loadManifestsFromSources sources with
  | .error error => (.error error, state)
  | .ok documents =>
      forEach (fun manifest => applySingleManifest api manifest space)
        (expandAndValidateManifests documents) state

def deleteManifestFromFile (sources : Sources) (ignoreNotFound : Bool)
    (space : Option Text) (state : σ) : Except Error Unit × σ :=
  match loadManifestsFromSources sources with
  | .error error => (.error error, state)
  | .ok documents =>
      forEach (fun manifest => deleteSingleManifest api ignoreNotFound manifest space)
        (expandAndValidateManifests documents).reverse state

end Files

end Telescope.Kubernetes
