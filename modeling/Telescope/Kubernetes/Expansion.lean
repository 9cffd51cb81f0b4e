import Mathlib.Data.Rat.Defs
import Telescope.Data.Forest
import Telescope.Kubernetes.Apply

namespace Telescope.Kubernetes

open Telescope

/-! `_expand_and_validate_manifests` on the values that a YAML document may hold. -/

/-- A scalar; a date, a time or a set is among the `other` ones. -/
inductive Scalar where
  | null
  | bool (value : Bool)
  | num (value : ℚ)
  | str (value : Text)
  | other (text : Text) (truthy : Bool)
  deriving DecidableEq

inductive Yaml where
  | scalar (value : Scalar)
  | sequence (items : List Yaml)
  | mapping (entries : List (Scalar × Yaml))

abbrev Entries := List (Scalar × Yaml)

/-- `entries.get(key)` -/
def Entries.get? (key : Text) : Entries → Option Yaml
  | [] => none
  | (other, value) :: rest => if other = .str key then some value else get? key rest

def Scalar.truthy : Scalar → Bool
  | .null => false
  | .bool value => value
  | .num value => value ≠ 0
  | .str value => value ≠ []
  | .other _ truthy => truthy

/-- `bool(value)` -/
def Yaml.truthy : Yaml → Bool
  | .scalar value => value.truthy
  | .sequence items => !items.isEmpty
  | .mapping entries => !entries.isEmpty

def Yaml.isText (text : Text) : Yaml → Bool
  | .scalar (.str value) => value = text
  | _ => false

/-- `manifest.get("kind") == "List"` -/
def Entries.kindIsList (entries : Entries) : Bool :=
  (entries.get? (lit "kind")).any (Yaml.isText (lit "List"))

/-- `manifest.get("items", [])` -/
def Entries.items (entries : Entries) : Yaml :=
  (entries.get? (lit "items")).getD (.sequence [])

private theorem Entries.sizeOf_of_get? {entries : Entries} {key : Text} {value : Yaml}
    (found : entries.get? key = some value) : sizeOf value < sizeOf entries := by
  induction entries with
  | nil => cases found
  | cons entry rest induction =>
      obtain ⟨other, first⟩ := entry
      rw [Entries.get?] at found
      split at found
      · cases found
        simp only [List.cons.sizeOf_spec, Prod.mk.sizeOf_spec]
        omega
      · have smaller := induction found
        simp only [List.cons.sizeOf_spec]
        omega

theorem Entries.sizeOf_of_items {entries : Entries} {items : List Yaml}
    (found : entries.items = .sequence items) : sizeOf items < sizeOf (Yaml.mapping entries) := by
  cases held : entries.get? (lit "items") with
  | none =>
      rw [Entries.items, held] at found
      cases found
      rw [List.nil.sizeOf_spec, Yaml.mapping.sizeOf_spec]
      cases entries with
      | nil =>
          rw [List.nil.sizeOf_spec]
          omega
      | cons =>
          rw [List.cons.sizeOf_spec]
          omega
  | some value =>
      have smaller := Entries.sizeOf_of_get? held
      rw [Entries.items, held] at found
      cases found
      simp only [Yaml.sequence.sizeOf_spec, Yaml.mapping.sizeOf_spec] at smaller ⊢
      omega

namespace Yaml

def expandAndValidateManifests : List Yaml → List Yaml
  | [] => []
  | manifest :: rest =>
      let expanded :=
        if manifest.truthy then
          match manifest with
          | .mapping entries =>
              if Entries.kindIsList entries then
                match _found : Entries.items entries with
                | .sequence items => expandAndValidateManifests items
                | _ => []
              else [manifest]
          | _ => []
        else []
      expanded ++ expandAndValidateManifests rest
termination_by manifests => sizeOf manifests
decreasing_by
  · have smaller := Entries.sizeOf_of_items _found
    simp only [List.cons.sizeOf_spec]
    omega
  · simp only [List.cons.sizeOf_spec]
    omega

/-! ## The manifests under `List` items -/

def listItems : Yaml → Option (List Yaml)
  | .mapping entries =>
      if Entries.kindIsList entries then
        match Entries.items entries with
        | .sequence items => some items
        | _ => none
      else none
  | _ => none

def isManifest : Yaml → Bool
  | .mapping entries => !entries.isEmpty && !Entries.kindIsList entries
  | _ => false

def IsManifest (value : Yaml) : Prop :=
  ∃ entries, value = .mapping entries ∧ entries ≠ [] ∧
    Entries.get? (lit "kind") entries ≠ some (.scalar (.str (lit "List")))

theorem kindIsList_iff {entries : Entries} :
    Entries.kindIsList entries = true ↔
      Entries.get? (lit "kind") entries = some (.scalar (.str (lit "List"))) := by
  rw [Entries.kindIsList]
  generalize Entries.get? (lit "kind") entries = kind
  match kind with
  | none => simp
  | some (.scalar (.str text)) => simp [isText]
  | some (.scalar .null) => simp [isText]
  | some (.scalar (.bool _)) => simp [isText]
  | some (.scalar (.num _)) => simp [isText]
  | some (.scalar (.other _ _)) => simp [isText]
  | some (.sequence _) => simp [isText]
  | some (.mapping _) => simp [isText]

private theorem isManifest_iff {value : Yaml} : isManifest value = true ↔ IsManifest value := by
  cases value with
  | mapping entries =>
      rw [isManifest, Bool.and_eq_true, Bool.not_eq_true', Bool.not_eq_true',
        List.isEmpty_eq_false_iff, ← Bool.not_eq_true, kindIsList_iff]
      constructor
      · intro manifest
        exact ⟨entries, rfl, manifest⟩
      · intro manifest
        obtain ⟨_, same, manifest⟩ := manifest
        cases same
        exact manifest
  | scalar => exact iff_of_false Bool.false_ne_true fun manifest => nomatch manifest
  | sequence => exact iff_of_false Bool.false_ne_true fun manifest => nomatch manifest

theorem listItems_eq_some {value : Yaml} {items : List Yaml}
    (opened : listItems value = some items) :
    ∃ entries, value = .mapping entries ∧ Entries.kindIsList entries = true ∧
      Entries.items entries = .sequence items := by
  cases value with
  | mapping entries =>
      rw [listItems] at opened
      split at opened
      · next isList =>
          split at opened
          · next found =>
              cases opened
              exact ⟨entries, rfl, isList, found⟩
          · cases opened
      · cases opened
  | scalar => cases opened
  | sequence => cases opened

private theorem listItems_of_isManifest {value : Yaml} (manifest : isManifest value = true) :
    listItems value = none := by
  cases opened : listItems value with
  | none => rfl
  | some items =>
      obtain ⟨entries, rfl, isList, _⟩ := listItems_eq_some opened
      rw [isManifest, isList, Bool.not_true, Bool.and_false] at manifest
      cases manifest

/-- The values under a list, with the items of a `List` inside it. -/
def manifestForest : Forest Yaml where
  inside := listItems
  keeps := isManifest
  wellFounded := by
    apply Subrelation.wf _ (measure (sizeOf : Yaml → Nat)).wf
    intro item node inside
    obtain ⟨items, opened, member⟩ := inside
    obtain ⟨entries, rfl, _, found⟩ := listItems_eq_some opened
    exact (List.sizeOf_lt_of_mem member).trans (Entries.sizeOf_of_items found)

theorem isLeaf_iff {value : Yaml} : manifestForest.IsLeaf value ↔ IsManifest value := by
  rw [← isManifest_iff]
  constructor
  · exact And.right
  · intro manifest
    exact ⟨listItems_of_isManifest manifest, manifest⟩

theorem expandAndValidateManifests_cons (manifest : Yaml) (rest : List Yaml) :
    expandAndValidateManifests (manifest :: rest) =
      (match listItems manifest with
        | some items => expandAndValidateManifests items
        | none => if isManifest manifest then [manifest] else []) ++
      expandAndValidateManifests rest := by
  rw [expandAndValidateManifests.eq_def]
  apply congrArg (· ++ expandAndValidateManifests rest)
  cases manifest with
  | scalar => simp [listItems, isManifest]
  | sequence => simp [listItems, isManifest]
  | mapping entries =>
      cases entries with
      | nil => rfl
      | cons entry entries =>
          have present : truthy (.mapping (entry :: entries)) = true := rfl
          rw [if_pos present, listItems, isManifest]
          dsimp only
          cases isList : Entries.kindIsList (entry :: entries) with
          | false => rfl
          | true =>
              rw [if_pos rfl, if_pos rfl]
              split
              · next found => rw [found]
              · next notItems =>
                  cases found : Entries.items (entry :: entries) with
                  | sequence items => exact absurd found (notItems items)
                  | scalar => rfl
                  | mapping => rfl

theorem expandAndValidateManifests_eq_flatten (manifests : List Yaml) :
    expandAndValidateManifests manifests = manifestForest.flatten manifests := by
  induction measured : sizeOf manifests using Nat.strongRecOn generalizing manifests with
  | ind bound induction =>
      cases manifests with
      | nil => rw [expandAndValidateManifests]; rfl
      | cons manifest rest =>
          have smaller : sizeOf manifest < bound ∧ sizeOf rest < bound := by
            rw [List.cons.sizeOf_spec] at measured
            omega
          rw [expandAndValidateManifests_cons, Forest.flatten_cons,
            induction (sizeOf rest) smaller.2 rest rfl]
          apply congrArg (· ++ manifestForest.flatten rest)
          cases opened : listItems manifest with
          | none =>
              have closed : manifestForest.inside manifest = none := opened
              exact (Forest.leaves_of_closed closed).symm
          | some items =>
              have opens : manifestForest.inside manifest = some items := opened
              obtain ⟨entries, rfl, _, found⟩ := listItems_eq_some opened
              have inner := Entries.sizeOf_of_items found
              rw [Forest.leaves_of_inside opens]
              exact induction (sizeOf items) (inner.trans smaller.1) items rfl

/-- Expansion returns, in document order, the manifests that are reachable through the
items of lists. -/
theorem expandAndValidateManifests_flattens (manifests : List Yaml) :
    ListsInOrder
      (fun path manifest => manifestForest.Occurs manifests path manifest ∧ IsManifest manifest)
      (expandAndValidateManifests manifests) ∧
    (∀ manifest ∈ expandAndValidateManifests manifests, IsManifest manifest) ∧
    (∀ others, expandAndValidateManifests (manifests ++ others) =
      expandAndValidateManifests manifests ++ expandAndValidateManifests others) ∧
    expandAndValidateManifests (expandAndValidateManifests manifests) =
      expandAndValidateManifests manifests := by
  simp only [expandAndValidateManifests_eq_flatten]
  refine ⟨?_, ?_, ?_, Forest.flatten_flatten manifests⟩
  · apply (Forest.flatten_listsInOrder manifests).congr
    intro path manifest
    rw [isLeaf_iff]
  · intro manifest member
    exact isLeaf_iff.mp (Forest.isLeaf_of_mem_flatten member)
  · exact Forest.flatten_append manifests

private theorem expandAndValidateManifests_filter_truthy (manifests : List Yaml) :
    expandAndValidateManifests (manifests.filter truthy) =
      expandAndValidateManifests manifests := by
  induction manifests with
  | nil => rfl
  | cons manifest rest induction =>
      cases present : truthy manifest with
      | true =>
          rw [List.filter_cons_of_pos present, expandAndValidateManifests_cons, induction,
            expandAndValidateManifests_cons manifest]
      | false =>
          rw [List.filter_cons_of_neg (ne_true_of_eq_false present), induction,
            expandAndValidateManifests.eq_def (manifest :: rest)]
          dsimp only
          rw [if_neg (ne_true_of_eq_false present), List.nil_append]

end Yaml

/-! ## The documents that the manifest operations expand -/

/-- How the client sees the mappings that it does not expand. -/
structure ManifestReader where
  read : Entries → Manifest
  notList : ∀ {entries}, Entries.kindIsList entries = false →
    (read entries).kind ≠ some (lit "List")

namespace ManifestReader

variable (reader : ManifestReader)

def document : Yaml → Document
  | .scalar value => if value.truthy then .scalarOrSequence else .falsy
  | .sequence items => if items.isEmpty then .falsy else .scalarOrSequence
  | .mapping entries =>
      if entries.isEmpty then .falsy
      else if isList : Entries.kindIsList entries then
        match _found : Entries.items entries with
        | .sequence items => .list (items.attach.map fun item => document item.1)
        | _ => .listWithoutItems
      else .object (reader.read entries) (reader.notList (eq_false_of_ne_true isList))
termination_by value => sizeOf value
decreasing_by
  exact (List.sizeOf_lt_of_mem item.2).trans (Entries.sizeOf_of_items _found)

def manifest : Yaml → Manifest
  | .mapping entries => reader.read entries
  | _ => reader.read []

private theorem truthy_document (value : Yaml) : (reader.document value).truthy = value.truthy := by
  cases value with
  | scalar value =>
      rw [document, Yaml.truthy]
      cases value.truthy <;> rfl
  | sequence items =>
      rw [document, Yaml.truthy]
      cases items.isEmpty <;> rfl
  | mapping entries =>
      rw [document, Yaml.truthy]
      cases entries.isEmpty with
      | true => rfl
      | false =>
          rw [if_neg Bool.false_ne_true]
          split
          · split <;> rfl
          · rfl

theorem expandAndValidateManifests_eq_flatMap (documents : List Document) :
    expandAndValidateManifests documents = documents.flatMap expandManifest := by
  induction documents with
  | nil => rfl
  | cons document rest induction =>
      rw [expandAndValidateManifests, induction, List.flatMap_cons]

private theorem expandManifest_document (value : Yaml) :
    expandManifest (reader.document value) =
      (Yaml.manifestForest.leaves value).map reader.manifest := by
  induction value using Forest.node_induction Yaml.manifestForest with
  | opens value items opened induction =>
      rw [Forest.leaves_of_inside opened]
      obtain ⟨entries, rfl, isList, found⟩ := Yaml.listItems_eq_some opened
      have present : entries.isEmpty = false := by
        cases entries with
        | nil => cases isList
        | cons => rfl
      rw [document, present, if_neg Bool.false_ne_true, dif_pos isList]
      split
      · next held =>
          cases found.symm.trans held
          rw [expandManifest, List.map_subtype (g := reader.document) fun _ _ => rfl,
            List.unattach_attach, expandAndValidateManifests_eq_flatMap, List.flatMap_map,
            Forest.flatten, List.map_flatMap]
          exact List.flatMap_congr induction
      · next notItems => exact absurd found (notItems items)
  | closed value closed =>
      have opened : value.listItems = none := closed
      rw [Forest.leaves_of_closed closed]
      cases value with
      | scalar value =>
          rw [document]
          cases value.truthy <;> rfl
      | sequence items =>
          rw [document]
          cases items.isEmpty <;> rfl
      | mapping entries =>
          have keeps : Yaml.manifestForest.keeps (.mapping entries) =
            (!entries.isEmpty && !Entries.kindIsList entries) := rfl
          rw [document, keeps]
          cases entries.isEmpty with
          | true => rfl
          | false =>
              rw [if_neg Bool.false_ne_true]
              split
              · next isList =>
                  rw [isList]
                  split
                  · next found =>
                      rw [Yaml.listItems, if_pos isList, found] at opened
                      cases opened
                  · rfl
              · next notList =>
                  rw [eq_false_of_ne_true notList]
                  rfl

theorem expandAndValidateManifests_documents (values : List Yaml) :
    expandAndValidateManifests (values.map reader.document) =
      (Yaml.expandAndValidateManifests values).map reader.manifest := by
  rw [Yaml.expandAndValidateManifests_eq_flatten, expandAndValidateManifests_eq_flatMap,
    List.flatMap_map, Forest.flatten, List.map_flatMap]
  apply List.flatMap_congr
  intro value _
  exact reader.expandManifest_document value

private theorem filter_truthy_documents (values : List Yaml) :
    (values.map reader.document).filter Document.truthy =
      (values.filter Yaml.truthy).map reader.document := by
  rw [List.filter_map]
  apply congrArg (List.map reader.document)
  exact List.filter_congr fun value _ => reader.truthy_document value

/-- What is applied or deleted is the expansion of the path's documents and of the
dictionary, empty ones or not. -/
theorem expandAndValidateManifests_loaded {sources : Sources} {read : List Yaml} {given : Yaml}
    {documents : List Document}
    (path : pathDocuments sources.manifestPath = .ok (read.map reader.document))
    (dict : sources.manifestDict = reader.document given)
    (loaded : loadManifestsFromSources sources = .ok documents) :
    expandAndValidateManifests documents =
      (Yaml.expandAndValidateManifests (read ++ [given])).map reader.manifest := by
  obtain ⟨found, ok, collected⟩ := exists_of_bind_eq_ok loaded
  cases path.symm.trans ok
  have same : (read.map reader.document ++ [sources.manifestDict]).filter Document.truthy =
      ((read ++ [given]).filter Yaml.truthy).map reader.document := by
    rw [dict, ← reader.filter_truthy_documents, List.map_append]
    rfl
  dsimp only at collected
  rw [same] at collected
  split at collected
  · cases collected
  · cases collected
    rw [reader.expandAndValidateManifests_documents,
      Yaml.expandAndValidateManifests_filter_truthy]

/-! A reader of the fields that are strings, and a list inside a list. -/

def stringOf? : Option Yaml → Option Text
  | some (.scalar (.str text)) => some text
  | _ => none

def metadataOf : Option Yaml → Section Metadata
  | none => .absent
  | some (.mapping entries) =>
      .mapping ⟨stringOf? (Entries.get? (lit "name") entries),
        stringOf? (Entries.get? (lit "namespace") entries)⟩
  | some _ => .mistyped (lit "str")

def strings : ManifestReader where
  read entries :=
    { kind := stringOf? (Entries.get? (lit "kind") entries)
      apiVersion := stringOf? (Entries.get? (lit "apiVersion") entries)
      metadata := metadataOf (Entries.get? (lit "metadata") entries)
      spec := .absent
      content := [] }
  notList {entries} isManifest := by
    intro isList
    have found : Entries.get? (lit "kind") entries =
        some (.scalar (.str (lit "List"))) := by
      unfold stringOf? at isList
      split at isList
      · next text held => rw [held, Option.some.inj isList]
      · cases isList
    rw [Yaml.kindIsList_iff.mpr found] at isManifest
    cases isManifest

def configEntries (name : Text) : Entries :=
  [(.str (lit "kind"), .scalar (.str (lit "ConfigMap"))),
    (.str (lit "metadata"), .mapping [(.str (lit "name"), .scalar (.str name))])]

def listOf (items : List Yaml) : Yaml :=
  .mapping [(.str (lit "kind"), .scalar (.str (lit "List"))), (.str (lit "items"), .sequence items)]

example : expandAndValidateManifests
    ([listOf [.mapping (configEntries (lit "a")), listOf [.mapping (configEntries (lit "b"))]]].map
      strings.document) =
    [strings.read (configEntries (lit "a")), strings.read (configEntries (lit "b"))] := by
  have opens (items : List Yaml) : (listOf items).listItems = some items := rfl
  have closed (name : Text) : Yaml.listItems (.mapping (configEntries name)) = none := rfl
  have kept (name : Text) : Yaml.isManifest (.mapping (configEntries name)) = true := rfl
  rw [strings.expandAndValidateManifests_documents]
  simp [Yaml.expandAndValidateManifests_cons, opens, closed, kept,
    Yaml.expandAndValidateManifests, manifest]

end ManifestReader

end Telescope.Kubernetes
