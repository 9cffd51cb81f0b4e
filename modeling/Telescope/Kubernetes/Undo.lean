import Telescope.Kubernetes.ObjectStore

namespace Telescope.Kubernetes

open Telescope

/-! Whether `delete_manifest_from_file` undoes `apply_manifest_from_file`. -/

/-- The manifests that the sources hold, with lists expanded. -/
def declaredManifests (sources : Sources) : List Manifest :=
  match loadManifestsFromSources sources with
  | .ok documents => expandAndValidateManifests documents
  | .error _ => []

/-- The manifest is of a supported kind and has a name. -/
structure Manifest.Identifies (manifest : Manifest) (kind : Kind) (metadata : Metadata)
    (name : Text) : Prop where
  dispatched : manifest.dispatch = some kind
  read : manifest.readMetadata = .ok metadata
  named : metadata.name = some name
  nonempty : name ≠ []

/-- The object that a manifest declares, for a client called with this namespace. -/
def Manifest.Declares (manifest : Manifest) (space : Option Text) (key : ObjectKey) :
    Prop :=
  ∃ kind metadata name, manifest.Identifies kind metadata name ∧
    key = kind.objectKey (appliedNamespace space metadata) name

/-- What a deletion needs beyond a kind and a name: the parts of the manifest that its
kind makes the client read and, for a namespaced kind, a namespace. -/
def Manifest.Deletable (manifest : Manifest) (space : Option Text) : Prop :=
  ∀ kind metadata name, manifest.Identifies kind metadata name →
    manifest.Readable kind ∧
      (kind.isNamespaced = true → (chosenNamespace space metadata).isSome = true)

namespace Manifest.Identifies

variable {manifest : Manifest} {kind : Kind} {metadata : Metadata} {name : Text}
  (identifies : manifest.Identifies kind metadata name)

include identifies

theorem presentName : presentText metadata.name = some name := by
  simp [identifies.named, presentText, identifies.nonempty]

theorem creationTarget_eq (space : Option Text) :
    creationTarget manifest space =
      createTarget manifest (appliedNamespace space metadata) (some name) := by
  rw [creationTarget, identifies.read, ← identifies.named]
  rfl

theorem deletionTarget_eq (space : Option Text) :
    deletionTarget manifest space =
      deleteTarget manifest (chosenNamespace space metadata) (some name) := by
  simp only [deletionTarget, identifies.read, bind, Except.bind, identifies.presentName]

theorem creationTarget_ok_iff (space : Option Text) :
    (∃ target?, creationTarget manifest space = .ok target?) ↔ manifest.Readable kind := by
  rw [identifies.creationTarget_eq]
  exact createTarget_ok_iff identifies.dispatched _ _

/-- A deletion addresses the created object, or raises for want of a namespace. -/
theorem deletionTarget_cases (space : Option Text) :
    (deletionTarget manifest space = creationTarget manifest space ∧
        (kind.isNamespaced = true → (chosenNamespace space metadata).isSome = true)) ∨
      ((∃ error, deletionTarget manifest space = .error error) ∧
        ¬ (kind.isNamespaced = true → (chosenNamespace space metadata).isSome = true)) := by
  rw [identifies.deletionTarget_eq, identifies.creationTarget_eq, appliedNamespace]
  cases chosen : chosenNamespace space metadata with
  | some value => exact .inl ⟨deleteTarget_some _ _ _, fun _ => rfl⟩
  | none =>
      cases scope : kind.isNamespaced with
      | false =>
          refine .inl ⟨deleteTarget_of_clusterScoped identifies.dispatched scope _ _, ?_⟩
          intro namespaced
          cases namespaced
      | true =>
          refine .inr ⟨deleteTarget_none_of_namespaced identifies.dispatched scope _, ?_⟩
          intro chosen
          cases chosen rfl

theorem key_of_creationTarget {space : Option Text} {target : Target}
    (created : creationTarget manifest space = .ok (some target)) :
    target.key? = some (kind.objectKey (appliedNamespace space metadata) name) := by
  rw [identifies.creationTarget_eq] at created
  rw [createTarget_key identifies.dispatched created, presentText,
    Option.filter_some, if_pos (decide_eq_true identifies.nonempty)]
  rfl

theorem deletable_iff (space : Option Text) :
    manifest.Deletable space ↔ manifest.Readable kind ∧
      (kind.isNamespaced = true → (chosenNamespace space metadata).isSome = true) := by
  refine ⟨fun deletable => deletable kind metadata name identifies, ?_⟩
  intro ready other otherMetadata otherName otherIdentifies
  obtain rfl : kind = other :=
    Option.some.inj (identifies.dispatched.symm.trans otherIdentifies.dispatched)
  obtain rfl : metadata = otherMetadata :=
    Except.ok.inj (identifies.read.symm.trans otherIdentifies.read)
  exact ready

/-- Both directions address an object or skip exactly for deletable manifests. -/
theorem targets_ok_iff (space : Option Text) :
    ((∃ target?, creationTarget manifest space = .ok target?) ∧
        ∃ target?, deletionTarget manifest space = .ok target?) ↔
      manifest.Deletable space := by
  rw [identifies.deletable_iff, identifies.creationTarget_ok_iff]
  rcases identifies.deletionTarget_cases space with
    ⟨same, chosen⟩ | ⟨⟨error, raised⟩, missing⟩
  · rw [same, identifies.creationTarget_ok_iff]
    exact ⟨fun ready => ⟨ready.1, chosen⟩, fun ready => ⟨ready.1, ready.1⟩⟩
  · rw [raised]
    exact ⟨fun ready => (nomatch ready.2), fun ready => absurd ready.2 missing⟩

end Manifest.Identifies

/-! ## The objects after both calls -/

section Steps

variable (merge : Manifest → Manifest → Manifest) (space : Option Text)

def createdKey? (manifest : Manifest) : Option ObjectKey :=
  match creationTarget manifest space with
  | .ok (some target) => target.key?
  | _ => none

def applyStep (objects : Store ObjectKey Manifest) (manifest : Manifest) :
    Store ObjectKey Manifest :=
  (createdKey? space manifest).elim objects fun key => upsert merge key manifest objects

def deleteStep (objects : Store ObjectKey Manifest) (manifest : Manifest) :
    Store ObjectKey Manifest :=
  (createdKey? space manifest).elim objects objects.erase

private theorem outside_foldl_applyStep {keys : List ObjectKey} {manifests : List Manifest}
    (listed : ∀ manifest ∈ manifests, ∀ key ∈ createdKey? space manifest, key ∈ keys)
    (objects : Store ObjectKey Manifest) :
    (manifests.foldl (applyStep merge space) objects).outside keys =
      objects.outside keys := by
  induction manifests generalizing objects with
  | nil => rfl
  | cons manifest rest induction =>
      rw [List.foldl_cons,
        induction fun next member => listed next (List.mem_cons_of_mem manifest member)]
      have here := listed manifest List.mem_cons_self
      unfold applyStep
      cases created : createdKey? space manifest with
      | none => rfl
      | some key => exact Store.outside_put (here key created) _

private theorem outside_foldl_deleteStep {keys : List ObjectKey} {manifests : List Manifest}
    (listed : ∀ manifest ∈ manifests, ∀ key ∈ createdKey? space manifest, key ∈ keys)
    (objects : Store ObjectKey Manifest) :
    (manifests.foldl (deleteStep space) objects).outside keys = objects.outside keys := by
  induction manifests generalizing objects with
  | nil => rfl
  | cons manifest rest induction =>
      rw [List.foldl_cons,
        induction fun next member => listed next (List.mem_cons_of_mem manifest member)]
      have here := listed manifest List.mem_cons_self
      unfold deleteStep
      cases created : createdKey? space manifest with
      | none => rfl
      | some key => exact Store.outside_erase (here key created)

private theorem mem_keys_foldl_deleteStep {key : ObjectKey} {manifests : List Manifest}
    {objects : Store ObjectKey Manifest}
    (left : key ∈ (manifests.foldl (deleteStep space) objects).keys) :
    key ∈ objects.keys ∧ ∀ manifest ∈ manifests, createdKey? space manifest ≠ some key := by
  induction manifests generalizing objects with
  | nil => exact ⟨left, fun manifest member => nomatch member⟩
  | cons manifest rest induction =>
      obtain ⟨present, later⟩ := induction left
      unfold deleteStep at present
      cases created : createdKey? space manifest with
      | none =>
          rw [created] at present
          refine ⟨present, List.forall_mem_cons.mpr ⟨?_, later⟩⟩
          simp [created]
      | some other =>
          rw [created] at present
          obtain ⟨before, different⟩ := objects.mem_keys_erase.mp present
          refine ⟨before, List.forall_mem_cons.mpr ⟨?_, later⟩⟩
          simpa [created] using different.symm

/-- Erasing every created object leaves the objects that were there before. -/
theorem deleteSteps_undo_applySteps (manifests : List Manifest)
    {objects : Store ObjectKey Manifest}
    (absent : ∀ manifest ∈ manifests, ∀ key ∈ createdKey? space manifest,
      key ∉ objects.keys) :
    manifests.reverse.foldl (deleteStep space)
      (manifests.foldl (applyStep merge space) objects) = objects := by
  let keys := manifests.filterMap (createdKey? space)
  have listed : ∀ manifest ∈ manifests, ∀ key ∈ createdKey? space manifest, key ∈ keys :=
    fun manifest member key created => List.mem_filterMap.mpr ⟨manifest, member, created⟩
  have gone : ∀ key ∈ keys, key ∉ (manifests.reverse.foldl (deleteStep space)
      (manifests.foldl (applyStep merge space) objects)).keys := by
    intro key member left
    obtain ⟨manifest, manifestMember, created⟩ := List.mem_filterMap.mp member
    exact (mem_keys_foldl_deleteStep space left).2 manifest
      (List.mem_reverse.mpr manifestMember) created
  have fresh : ∀ key ∈ keys, key ∉ objects.keys := by
    intro key member
    obtain ⟨manifest, manifestMember, created⟩ := List.mem_filterMap.mp member
    exact absent manifest manifestMember key created
  apply Store.eq_of_entries
  rw [← Store.outside_eq_entries gone, ← Store.outside_eq_entries fresh,
    outside_foldl_deleteStep space
      fun manifest member => listed manifest (List.mem_reverse.mp member),
    outside_foldl_applyStep merge space listed]

variable {manifest : Manifest} {kind : Kind} {metadata : Metadata} {name : Text}
  (identifies : manifest.Identifies kind metadata name)

include identifies

theorem applySingleManifest_of_ok {space : Option Text} {target? : Option Target}
    (created : creationTarget manifest space = .ok target?)
    (objects : Store ObjectKey Manifest) :
    applySingleManifest (objectStore merge) manifest space objects =
      (.ok (), applyStep merge space objects manifest) := by
  rw [applySingleManifest_objectStore, applyStep, createdKey?, created]
  cases target? with
  | none => rfl
  | some target =>
      simp only [identifies.key_of_creationTarget created]
      rfl

private theorem applySingleManifest_ok_iff (objects : Store ObjectKey Manifest) :
    (applySingleManifest (objectStore merge) manifest space objects).1 = .ok () ↔
      ∃ target?, creationTarget manifest space = .ok target? := by
  cases created : creationTarget manifest space with
  | ok target? => simp [applySingleManifest_of_ok merge identifies created]
  | error error => simp [applySingleManifest_objectStore, created]

theorem deleteSingleManifest_of_ok {space : Option Text} {target? : Option Target}
    (addressed : deletionTarget manifest space = .ok target?)
    (objects : Store ObjectKey Manifest) :
    deleteSingleManifest (objectStore merge) true manifest space objects =
      (.ok (), deleteStep space objects manifest) := by
  have same : deletionTarget manifest space = creationTarget manifest space := by
    rcases identifies.deletionTarget_cases space with ⟨same, -⟩ | ⟨⟨error, raised⟩, -⟩
    · exact same
    · rw [raised] at addressed
      exact nomatch addressed
  have created := same.symm.trans addressed
  rw [identifies.deletionTarget_eq] at addressed
  simp only [deleteSingleManifest, identifies.read, identifies.presentName, addressed,
    deleteStep, createdKey?, created]
  cases target? with
  | none => rfl
  | some target =>
      have key := identifies.key_of_creationTarget created
      simp only [objectStore, key, Option.elim]
      cases found : objects.get? (kind.objectKey (appliedNamespace space metadata) name) with
      | some old => rfl
      | none =>
          rw [objects.erase_of_absent (objects.get?_eq_none_iff.mp found)]
          rfl

private theorem deleteSingleManifest_ok_iff (objects : Store ObjectKey Manifest) :
    (deleteSingleManifest (objectStore merge) true manifest space objects).1 = .ok () ↔
      ∃ target?, deletionTarget manifest space = .ok target? := by
  cases addressed : deletionTarget manifest space with
  | ok target? => simp [deleteSingleManifest_of_ok merge identifies addressed]
  | error error =>
      rw [identifies.deletionTarget_eq] at addressed
      simp [deleteSingleManifest, identifies.read, identifies.presentName, addressed]

end Steps

/-! ## Both calls on the same sources -/

/-- Applying the sources and then deleting them returns from both calls, restores the
objects, and addresses none but the declared ones. -/
def UndoneByDelete (merge : Manifest → Manifest → Manifest) (sources : Sources)
    (space : Option Text) (objects : Store ObjectKey Manifest) : Prop :=
  let server := (objectStore merge).recorded
  let applied := applyManifestFromFile server sources space ⟨objects, []⟩
  let deleted := deleteManifestFromFile server sources true space applied.2
  applied.1 = .ok () ∧ deleted.1 = .ok () ∧ deleted.2.state = objects ∧
    ∀ request ∈ deleted.2.requests, ∃ manifest ∈ declaredManifests sources,
      ∃ key, manifest.Declares space key ∧ request.target.key? = some key

section Files

variable {σ : Type} (api : Api σ) (space : Option Text)

def Addresses (manifest : Manifest) (request : Request) : Prop :=
  creationTarget manifest space = .ok (some request.target) ∨
    deletionTarget manifest space = .ok (some request.target)

private theorem applySingleManifest_tracks :
    Tracks (Addresses space)
      (fun manifest => applySingleManifest api.recorded manifest space)
      (fun manifest => applySingleManifest api manifest space) := by
  intro manifest before
  obtain ⟨result, state, requests⟩ := applySingleManifest_recorded api manifest space before
  refine ⟨result, state, fun request member => ?_⟩
  rw [requests, List.mem_append] at member
  refine member.imp_right fun sent => .inl ?_
  unfold applyRequests at sent
  cases created : creationTarget manifest space with
  | error error => simp [created] at sent
  | ok target? =>
      cases target? with
      | none => simp [created] at sent
      | some target =>
          rw [created] at sent
          rcases List.mem_cons.mp sent with rfl | patched
          · rfl
          · split at patched
            · rw [List.mem_singleton.mp patched]
              rfl
            · exact nomatch patched

private theorem deleteSingleManifest_tracks (ignoreNotFound : Bool) :
    Tracks (Addresses space)
      (fun manifest => deleteSingleManifest api.recorded ignoreNotFound manifest space)
      (fun manifest => deleteSingleManifest api ignoreNotFound manifest space) := by
  intro manifest before
  obtain ⟨result, state, requests⟩ :=
    deleteSingleManifest_recorded api ignoreNotFound manifest space before
  refine ⟨result, state, fun request member => ?_⟩
  rw [requests, List.mem_append] at member
  refine member.imp_right fun sent => .inr ?_
  unfold deleteRequests at sent
  cases addressed : deletionTarget manifest space with
  | error error => simp [addressed] at sent
  | ok target? =>
      cases target? with
      | none => simp [addressed] at sent
      | some target =>
          rw [addressed] at sent
          rw [List.mem_singleton.mp sent]
          rfl

theorem Addresses.declares {space : Option Text} {manifest : Manifest} {request : Request}
    (addresses : Addresses space manifest request)
    (supported : ∃ kind metadata name, manifest.Identifies kind metadata name) :
    ∃ key, manifest.Declares space key ∧ request.target.key? = some key := by
  obtain ⟨kind, metadata, name, identifies⟩ := supported
  have created : creationTarget manifest space = .ok (some request.target) := by
    rcases addresses with created | deleted
    · exact created
    · rcases identifies.deletionTarget_cases space with ⟨same, -⟩ | ⟨⟨error, raised⟩, -⟩
      · exact same.symm.trans deleted
      · rw [raised] at deleted
        exact nomatch deleted
  exact ⟨_, ⟨kind, metadata, name, identifies, rfl⟩,
    identifies.key_of_creationTarget created⟩

private theorem createdKey?_declares {space : Option Text} {manifest : Manifest} {key : ObjectKey}
    (created : createdKey? space manifest = some key)
    (supported : ∃ kind metadata name, manifest.Identifies kind metadata name) :
    manifest.Declares space key := by
  obtain ⟨kind, metadata, name, identifies⟩ := supported
  unfold createdKey? at created
  split at created
  next target addressed =>
    rw [identifies.key_of_creationTarget addressed] at created
    exact ⟨kind, metadata, name, identifies, (Option.some.inj created).symm⟩
  next => exact nomatch created

end Files

section Undo

variable {merge : Manifest → Manifest → Manifest} {space : Option Text}
  {manifests : List Manifest}
  (supported : ∀ manifest ∈ manifests, ∃ kind metadata name,
    manifest.Identifies kind metadata name)

include supported

private theorem manifests_ok_iff_deletable (objects between : Store ObjectKey Manifest) :
    ((forEach (fun manifest => applySingleManifest (objectStore merge) manifest space)
        manifests objects).1 = .ok () ∧
      (forEach (fun manifest =>
        deleteSingleManifest (objectStore merge) true manifest space)
        manifests.reverse between).1 = .ok ()) ↔
      ∀ manifest ∈ manifests, manifest.Deletable space := by
  have applies : ∀ manifest ∈ manifests, ∀ state,
      (applySingleManifest (objectStore merge) manifest space state).1 = .ok () ↔
        ∃ target?, creationTarget manifest space = .ok target? := by
    intro manifest member state
    obtain ⟨kind, metadata, name, identifies⟩ := supported manifest member
    exact applySingleManifest_ok_iff merge space identifies state
  have deletes : ∀ manifest ∈ manifests.reverse, ∀ state,
      (deleteSingleManifest (objectStore merge) true manifest space state).1 = .ok () ↔
        ∃ target?, deletionTarget manifest space = .ok target? := by
    intro manifest member state
    obtain ⟨kind, metadata, name, identifies⟩ :=
      supported manifest (List.mem_reverse.mp member)
    exact deleteSingleManifest_ok_iff merge space identifies state
  rw [forEach_ok_iff applies, forEach_ok_iff deletes]
  simp only [List.mem_reverse, ← forall_and]
  apply forall_congr'
  intro manifest
  apply imp_congr_right
  intro member
  obtain ⟨kind, metadata, name, identifies⟩ := supported manifest member
  exact identifies.targets_ok_iff space

private theorem manifests_restored (deletable : ∀ manifest ∈ manifests, manifest.Deletable space)
    {objects : Store ObjectKey Manifest}
    (absent : ∀ manifest ∈ manifests, ∀ key, manifest.Declares space key →
      key ∉ objects.keys) :
    (forEach (fun manifest =>
      deleteSingleManifest (objectStore merge) true manifest space) manifests.reverse
      (forEach (fun manifest => applySingleManifest (objectStore merge) manifest space)
        manifests objects).2).2 = objects := by
  have applies : ∀ manifest ∈ manifests, ∀ state,
      applySingleManifest (objectStore merge) manifest space state =
        (.ok (), applyStep merge space state manifest) := by
    intro manifest member state
    obtain ⟨kind, metadata, name, identifies⟩ := supported manifest member
    obtain ⟨⟨target?, created⟩, -⟩ :=
      (identifies.targets_ok_iff space).mpr (deletable manifest member)
    exact applySingleManifest_of_ok merge identifies created state
  have deletes : ∀ manifest ∈ manifests.reverse, ∀ state,
      deleteSingleManifest (objectStore merge) true manifest space state =
        (.ok (), deleteStep space state manifest) := by
    intro manifest reversed state
    have member := List.mem_reverse.mp reversed
    obtain ⟨kind, metadata, name, identifies⟩ := supported manifest member
    obtain ⟨-, ⟨target?, addressed⟩⟩ :=
      (identifies.targets_ok_iff space).mpr (deletable manifest member)
    exact deleteSingleManifest_of_ok merge identifies addressed state
  rw [forEach_eq_foldl applies, forEach_eq_foldl deletes]
  apply deleteSteps_undo_applySteps
  intro manifest member key created
  exact absent manifest member key (createdKey?_declares created (supported manifest member))

end Undo

/-- For supported, named manifests whose objects do not exist yet, deletion undoes
application exactly when the sources hold a document and every manifest can be deleted:
a namespaced one must get its namespace from the caller or from its metadata. -/
theorem delete_undoes_apply_iff (merge : Manifest → Manifest → Manifest) (sources : Sources)
    (space : Option Text) (objects : Store ObjectKey Manifest)
    (supported : ∀ manifest ∈ declaredManifests sources, ∃ kind metadata name,
      manifest.Identifies kind metadata name)
    (absent : ∀ manifest ∈ declaredManifests sources, ∀ key,
      manifest.Declares space key → key ∉ objects.keys) :
    UndoneByDelete merge sources space objects ↔
      (∃ documents, loadManifestsFromSources sources = .ok documents) ∧
        ∀ manifest ∈ declaredManifests sources, manifest.Deletable space := by
  unfold UndoneByDelete applyManifestFromFile deleteManifestFromFile declaredManifests
    at *
  cases loaded : loadManifestsFromSources sources with
  | error error => simp
  | ok documents =>
      simp only [loaded] at supported absent ⊢
      obtain ⟨applied, between, applyRequests⟩ :=
        (applySingleManifest_tracks (objectStore merge) space).forEach
          (expandAndValidateManifests documents) ⟨objects, []⟩
      obtain ⟨deleted, restored, deleteRequests⟩ :=
        (deleteSingleManifest_tracks (objectStore merge) space true).forEach
          (expandAndValidateManifests documents).reverse
          (forEach (fun manifest =>
            applySingleManifest (objectStore merge).recorded manifest space)
            (expandAndValidateManifests documents) ⟨objects, []⟩).2
      rw [applied, deleted, restored, between, ← and_assoc,
        manifests_ok_iff_deletable supported]
      constructor
      · rintro ⟨deletable, -⟩
        exact ⟨⟨documents, rfl⟩, deletable⟩
      · rintro ⟨-, deletable⟩
        refine ⟨deletable, manifests_restored supported deletable absent, ?_⟩
        intro request member
        have sent : ∃ manifest ∈ expandAndValidateManifests documents,
            Addresses space manifest request := by
          rcases deleteRequests request member with earlier | ⟨manifest, inList, sent⟩
          · exact (applyRequests request earlier).resolve_left (List.not_mem_nil)
          · exact ⟨manifest, List.mem_reverse.mp inList, sent⟩
        obtain ⟨manifest, inList, addresses⟩ := sent
        exact ⟨manifest, inList, addresses.declares (supported manifest inList)⟩

/-! ## A ConfigMap with and without a namespace -/

def settings (space : Option Text) : Manifest where
  kind := some (lit "ConfigMap")
  apiVersion := some (lit "v1")
  metadata := .mapping ⟨some (lit "settings"), space⟩
  spec := .absent
  content := lit "data"

def settingsDocument (space : Option Text) : Document :=
  .object (settings space) (show some (lit "ConfigMap") ≠ some (lit "List") by decide)

def settingsTwice (space : Option Text) : Sources :=
  ⟨none, .list [settingsDocument space, .list [settingsDocument space]]⟩

theorem settings_identifies (space : Option Text) :
    (settings space).Identifies .configMap ⟨some (lit "settings"), space⟩
      (lit "settings") where
  dispatched := show Kind.supported.find? (fun kind =>
    some kind.text = some (lit "ConfigMap")) = some .configMap by decide
  read := rfl
  named := rfl
  nonempty := by decide

theorem declaredManifests_settingsTwice (space : Option Text) :
    declaredManifests (settingsTwice space) = [settings space, settings space] := rfl

theorem settingsTwice_supported (space : Option Text) :
    ∀ manifest ∈ declaredManifests (settingsTwice space), ∃ kind metadata name,
      manifest.Identifies kind metadata name := by
  intro manifest member
  obtain rfl : manifest = settings space := by
    simpa [declaredManifests_settingsTwice] using member
  exact ⟨_, _, _, settings_identifies space⟩

theorem settings_with_namespace_undone :
    UndoneByDelete (fun _ body => body) (settingsTwice (some (lit "apps"))) none
      Store.empty := by
  refine (delete_undoes_apply_iff _ _ none Store.empty (settingsTwice_supported _)
    (fun _ _ _ _ => List.not_mem_nil)).mpr ⟨⟨_, rfl⟩, ?_⟩
  intro manifest member
  obtain rfl : manifest = settings (some (lit "apps")) := by
    simpa [declaredManifests_settingsTwice] using member
  refine ((settings_identifies _).deletable_iff none).mpr ⟨⟨?_, ?_⟩, fun _ => rfl⟩
  · exact fun custom => nomatch custom
  · exact fun flowSchema => nomatch flowSchema

/-- The ConfigMap is created in `default`, but its deletion requires a namespace. -/
theorem settings_without_namespace_not_undone :
    (∀ manifest ∈ declaredManifests (settingsTwice none), ∃ kind metadata name,
        manifest.Identifies kind metadata name) ∧
      (∀ manifest ∈ declaredManifests (settingsTwice none), ∀ key,
        manifest.Declares none key → key ∉ (Store.empty : Store ObjectKey Manifest).keys) ∧
      ¬ UndoneByDelete (fun _ body => body) (settingsTwice none) none Store.empty := by
  refine ⟨settingsTwice_supported none, fun _ _ _ _ => List.not_mem_nil, ?_⟩
  rintro ⟨-, deleted, -⟩
  exact nomatch deleted

end Telescope.Kubernetes
