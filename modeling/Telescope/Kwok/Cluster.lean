import Telescope.Data.Exception
import Telescope.Data.Store
import Telescope.Kubernetes.Apply
import Telescope.Text.CharClass
import Telescope.Utils.Retries

namespace Telescope.Kwok

open Telescope Telescope.Kubernetes

/-! Nodes and resource slices of a cluster, the four client calls that KWOK makes for
them, and API requests that fail with or without their effect. -/

inductive ClusterKey where
  | node (name : Text)
  | resourceSlice (name : Text)
  deriving DecidableEq

abbrev Objects := Store ClusterKey Text

/-- A failed request.  404 and 409 are not faults: the server answers them for absent
and for existing objects. -/
structure Fault where
  refusal : Refusal
  effective : Bool
  notFoundExcluded : ∀ text, refusal ≠ .api 404 text
  conflictExcluded : ∀ text, refusal ≠ .api 409 text

def createObject (key : ClusterKey) (body : Text) (objects : Objects) :
    Option Refusal × Objects :=
  match objects.get? key with
  | some _ => (some (.api 409 (lit "AlreadyExists")), objects)
  | none => (none, objects.put key body)

def replaceObject (key : ClusterKey) (body : Text) (objects : Objects) :
    Option Refusal × Objects :=
  match objects.get? key with
  | some _ => (none, objects.put key body)
  | none => (some (.api 404 (lit "NotFound")), objects)

def deleteObject (key : ClusterKey) (objects : Objects) : Option Refusal × Objects :=
  match objects.get? key with
  | some _ => (none, objects.erase key)
  | none => (some (.api 404 (lit "NotFound")), objects)

def send (fault? : Option Fault) (request : Objects → Option Refusal × Objects)
    (objects : Objects) : Option Refusal × Objects :=
  match fault? with
  | none => request objects
  | some fault =>
      (some fault.refusal, if fault.effective then (request objects).2 else objects)

structure NodeFaults where
  create : Nat → Option Fault
  replace : Nat → Option Fault

/-- `create_node`: a node that exists is replaced; the exception of the replacement is
not wrapped. -/
def createNode (faults : NodeFaults) (name body : Text) (attempt : Nat)
    (objects : Objects) : Except Error Unit × Objects :=
  match send (faults.create attempt) (createObject (.node name) body) objects with
  | (none, after) => (.ok (), after)
  | (some (.api status text), after) =>
      if status = 409 then
        match send (faults.replace attempt) (replaceObject (.node name) body) after with
        | (none, replaced) => (.ok (), replaced)
        | (some refusal, replaced) => (.error refusal.error, replaced)
      else (.error (wrapped (lit "creating Node") text), after)
  | (some (.other error), after) => (.error error, after)

/-- `create_resource_slice`: a slice that exists is kept. -/
def createResourceSlice (faults : Nat → Option Fault) (name body : Text) (attempt : Nat)
    (objects : Objects) : Except Error Unit × Objects :=
  match send (faults attempt) (createObject (.resourceSlice name) body) objects with
  | (none, after) => (.ok (), after)
  | (some (.api status text), after) =>
      if status = 409 then (.ok (), after)
      else (.error (wrapped (lit "creating ResourceSlice") text), after)
  | (some (.other error), after) => (.error error, after)

/-- `delete_node` and `delete_resource_slice`: an absent object counts as deleted. -/
def deleteByName (what : Text) (faults : Nat → Option Fault) (key : ClusterKey)
    (name : Text) (attempt : Nat) (objects : Objects) : Except Error Unit × Objects :=
  match send (faults attempt) (deleteObject key) objects with
  | (none, after) => (.ok (), after)
  | (some (.api status text), after) =>
      if status = 404 then (.ok (), after)
      else (.error (wrapped (lit "deleting " ++ what ++ lit " '" ++ name ++ lit "'") text),
        after)
  | (some (.other error), after) => (.error error, after)

def deleteNode (faults : Nat → Option Fault) (name : Text) (attempt : Nat)
    (objects : Objects) : Except Error Unit × Objects :=
  deleteByName (lit "Node") faults (.node name) name attempt objects

def deleteResourceSlice (faults : Nat → Option Fault) (name : Text) (attempt : Nat)
    (objects : Objects) : Except Error Unit × Objects :=
  deleteByName (lit "ResourceSlice") faults (.resourceSlice name) name attempt objects

/-! ## What the calls do to the objects -/

/-- The object under the key is as before or has the given body, which it gets only if
it was absent when existing objects are kept; the other objects are as before. -/
structure MayPut (keeps : Bool) (key : ClusterKey) (body : Text) (before after : Objects) :
    Prop where
  here : after.get? key = before.get? key ∨
    ((keeps = true → before.get? key = none) ∧ after.get? key = some body)
  elsewhere : ∀ other, other ≠ key → after.get? other = before.get? other

section MayPut

variable {keeps : Bool} {key : ClusterKey} {body : Text}

theorem MayPut.refl (objects : Objects) : MayPut keeps key body objects objects :=
  ⟨.inl rfl, fun _ _ => rfl⟩

theorem MayPut.put {objects : Objects} (absent : keeps = true → objects.get? key = none) :
    MayPut keeps key body objects (objects.put key body) :=
  ⟨.inr ⟨absent, objects.get?_put_self key body⟩,
    fun _ different => objects.get?_put_of_ne different body⟩

theorem MayPut.trans {first second third : Objects}
    (earlier : MayPut keeps key body first second)
    (later : MayPut keeps key body second third) : MayPut keeps key body first third where
  here := by
    rcases later.here with same | ⟨absent, put⟩
    · rw [same]
      exact earlier.here
    · refine .inr ⟨fun kept => ?_, put⟩
      rcases earlier.here with same | ⟨-, present⟩
      · exact same ▸ absent kept
      · rw [absent kept] at present
        exact nomatch present
  elsewhere other different :=
    (later.elsewhere other different).trans (earlier.elsewhere other different)

theorem createObject_mayPut (objects : Objects) :
    MayPut keeps key body objects (createObject key body objects).2 := by
  unfold createObject
  cases found : objects.get? key with
  | some old => exact MayPut.refl objects
  | none => exact MayPut.put fun _ => found

private theorem replaceObject_mayPut (objects : Objects) :
    MayPut false key body objects (replaceObject key body objects).2 := by
  unfold replaceObject
  cases objects.get? key with
  | some old => exact MayPut.put fun kept => nomatch kept
  | none => exact MayPut.refl objects

end MayPut

/-- A request is answered by the server, or fails with or without its effect. -/
theorem send_cases (fault? : Option Fault) (request : Objects → Option Refusal × Objects)
    (objects : Objects) :
    (fault? = none ∧ send fault? request objects = request objects) ∨
      ∃ fault, fault? = some fault ∧
        (send fault? request objects = (some fault.refusal, objects) ∨
          send fault? request objects = (some fault.refusal, (request objects).2)) := by
  cases fault? with
  | none => exact .inl ⟨rfl, rfl⟩
  | some fault =>
      refine .inr ⟨fault, rfl, ?_⟩
      cases effective : fault.effective with
      | false => exact .inl (by simp [send, effective])
      | true => exact .inr (by simp [send, effective])

theorem send_mayPut {keeps : Bool} {key : ClusterKey} {body : Text} {objects : Objects}
    {request : Objects → Option Refusal × Objects} (fault? : Option Fault)
    (mayPut : MayPut keeps key body objects (request objects).2) :
    MayPut keeps key body objects (send fault? request objects).2 := by
  rcases send_cases fault? request objects with ⟨-, same⟩ | ⟨fault, -, unchanged | effective⟩
  · rw [same]
    exact mayPut
  · rw [unchanged]
    exact MayPut.refl objects
  · rw [effective]
    exact mayPut

/-- A creation that is not refused, or conflicts, met no fault and leaves the object. -/
theorem send_createObject_present {fault? : Option Fault} {key : ClusterKey} {body : Text}
    {objects after : Objects} {refusal? : Option Refusal}
    (sent : send fault? (createObject key body) objects = (refusal?, after))
    (accepted : refusal? = none ∨ ∃ text, refusal? = some (.api 409 text)) :
    after.get? key ≠ none ∧ (refusal? = none → after.get? key = some body) := by
  rcases send_cases fault? (createObject key body) objects with
    ⟨-, same⟩ | ⟨fault, -, faulty⟩
  · rw [sent] at same
    unfold createObject at same
    cases found : objects.get? key with
    | some old =>
        rw [found] at same
        cases same
        exact ⟨by simp [found], fun none => absurd none (Option.some_ne_none _)⟩
    | none =>
        rw [found] at same
        cases same
        exact ⟨by simp, fun _ => by simp⟩
  · have refused : refusal? = some fault.refusal := by
      rcases faulty with unchanged | effective
      · rw [sent] at unchanged
        exact (Prod.ext_iff.mp unchanged).1
      · rw [sent] at effective
        exact (Prod.ext_iff.mp effective).1
    rcases accepted with none | ⟨text, conflict⟩
    · rw [none] at refused
      cases refused
    · rw [conflict] at refused
      exact absurd (Option.some.inj refused).symm (fault.conflictExcluded text)

theorem createNode_mayPut (faults : NodeFaults) (name body : Text) (attempt : Nat)
    (objects : Objects) :
    MayPut false (.node name) body objects
      (createNode faults name body attempt objects).2 := by
  have created : MayPut false (.node name) body objects
      (send (faults.create attempt) (createObject (.node name) body) objects).2 :=
    send_mayPut _ (createObject_mayPut objects)
  unfold createNode
  rcases sent : send (faults.create attempt) (createObject (.node name) body) objects with
    ⟨refusal?, after⟩
  rw [sent] at created
  match refusal? with
  | none => exact created
  | some (.other error) => exact created
  | some (.api status text) =>
      by_cases conflict : status = 409
      · have replaced : MayPut false (.node name) body after
            (send (faults.replace attempt) (replaceObject (.node name) body) after).2 :=
          send_mayPut _ (replaceObject_mayPut after)
        simp only [conflict, if_true]
        rcases resent : send (faults.replace attempt) (replaceObject (.node name) body) after
          with ⟨second?, later⟩
        rw [resent] at replaced
        cases second? with
        | none => exact created.trans replaced
        | some refusal => exact created.trans replaced
      · simp only [conflict, if_false]
        exact created

/-- A node that was created or replaced has the given body. -/
theorem createNode_ok {faults : NodeFaults} {name body : Text} {attempt : Nat}
    {objects : Objects}
    (returned : (createNode faults name body attempt objects).1 = .ok ()) :
    (createNode faults name body attempt objects).2.get? (.node name) = some body := by
  unfold createNode at returned ⊢
  rcases sent : send (faults.create attempt) (createObject (.node name) body) objects with
    ⟨refusal?, after⟩
  rw [sent] at returned
  cases refusal? with
  | none => exact (send_createObject_present sent (.inl rfl)).2 rfl
  | some refusal =>
      cases refusal with
      | other error => cases returned
      | api status text =>
          by_cases conflict : status = 409
          · simp only [conflict, if_true] at returned ⊢
            rcases send_cases (faults.replace attempt) (replaceObject (.node name) body) after
              with ⟨-, same⟩ | ⟨fault, -, unchanged | effective⟩
            · rw [same] at returned ⊢
              unfold replaceObject at returned ⊢
              cases found : after.get? (.node name) with
              | none => simp [found] at returned
              | some old => simp
            · rw [unchanged] at returned
              cases returned
            · rw [effective] at returned
              cases returned
          · simp [conflict] at returned

theorem createNode_returns {faults : NodeFaults} {attempt : Nat}
    (creates : faults.create attempt = none) (replaces : faults.replace attempt = none)
    (name body : Text) (objects : Objects) :
    (createNode faults name body attempt objects).1 = .ok () := by
  unfold createNode
  rw [creates, replaces]
  cases found : objects.get? (.node name) with
  | none => simp [send, createObject, found]
  | some old => simp [send, createObject, replaceObject, found]

theorem createResourceSlice_mayPut (faults : Nat → Option Fault) (name body : Text)
    (attempt : Nat) (objects : Objects) :
    MayPut true (.resourceSlice name) body objects
      (createResourceSlice faults name body attempt objects).2 := by
  have created : MayPut true (.resourceSlice name) body objects
      (send (faults attempt) (createObject (.resourceSlice name) body) objects).2 :=
    send_mayPut _ (createObject_mayPut objects)
  unfold createResourceSlice
  rcases sent : send (faults attempt) (createObject (.resourceSlice name) body) objects with
    ⟨refusal?, after⟩
  rw [sent] at created
  match refusal? with
  | none => exact created
  | some (.other error) => exact created
  | some (.api status text) => by_cases conflict : status = 409 <;> simpa [conflict]

theorem createResourceSlice_ok {faults : Nat → Option Fault} {name body : Text}
    {attempt : Nat} {objects : Objects}
    (returned : (createResourceSlice faults name body attempt objects).1 = .ok ()) :
    (createResourceSlice faults name body attempt objects).2.get? (.resourceSlice name) ≠
      none := by
  unfold createResourceSlice at returned ⊢
  rcases sent : send (faults attempt) (createObject (.resourceSlice name) body) objects with
    ⟨refusal?, after⟩
  rw [sent] at returned
  match refusal? with
  | none => exact (send_createObject_present sent (.inl rfl)).1
  | some (.other error) => exact nomatch returned
  | some (.api status text) =>
      by_cases conflict : status = 409
      · subst conflict
        exact (send_createObject_present sent (.inr ⟨text, rfl⟩)).1
      · simp [conflict] at returned

theorem createResourceSlice_returns {faults : Nat → Option Fault} {attempt : Nat}
    (creates : faults attempt = none) (name body : Text) (objects : Objects) :
    (createResourceSlice faults name body attempt objects).1 = .ok () := by
  unfold createResourceSlice
  rw [creates]
  cases found : objects.get? (.resourceSlice name) with
  | none => simp [send, createObject, found]
  | some old => simp [send, createObject, found]

/-! ## What deletions do to the objects -/

theorem deleteObject_erases (key : ClusterKey) (objects : Objects) :
    (deleteObject key objects).2 = objects.erase key := by
  unfold deleteObject
  cases found : objects.get? key with
  | some old => rfl
  | none => exact (objects.erase_of_absent (objects.get?_eq_none_iff.mp found)).symm

theorem deleteByName_mayErase (what : Text) (faults : Nat → Option Fault)
    (key : ClusterKey) (name : Text) (attempt : Nat) (objects : Objects) :
    (deleteByName what faults key name attempt objects).2 = objects ∨
      (deleteByName what faults key name attempt objects).2 = objects.erase key := by
  have state : (deleteByName what faults key name attempt objects).2 =
      (send (faults attempt) (deleteObject key) objects).2 := by
    unfold deleteByName
    rcases send (faults attempt) (deleteObject key) objects with ⟨refusal?, after⟩
    match refusal? with
    | none => rfl
    | some (.other error) => rfl
    | some (.api status text) => by_cases absent : status = 404 <;> simp [absent]
  rw [state, ← deleteObject_erases]
  rcases send_cases (faults attempt) (deleteObject key) objects with
    ⟨-, same⟩ | ⟨fault, -, unchanged | effective⟩
  · exact .inr (by rw [same])
  · exact .inl (by rw [unchanged])
  · exact .inr (by rw [effective])

theorem deleteByName_ok {what : Text} {faults : Nat → Option Fault} {key : ClusterKey}
    {name : Text} {attempt : Nat} {objects : Objects}
    (returned : (deleteByName what faults key name attempt objects).1 = .ok ()) :
    (deleteByName what faults key name attempt objects).2 = objects.erase key := by
  rcases send_cases (faults attempt) (deleteObject key) objects with
    ⟨-, same⟩ | ⟨fault, -, faulty⟩
  · rw [← deleteObject_erases]
    unfold deleteByName deleteObject at *
    rw [same]
    cases found : objects.get? key <;> simp
  · have refused : (send (faults attempt) (deleteObject key) objects).1 =
        some fault.refusal := by
      rcases faulty with unchanged | effective
      · rw [unchanged]
      · rw [effective]
    unfold deleteByName at returned
    rcases sent : send (faults attempt) (deleteObject key) objects with ⟨refusal?, after⟩
    rw [sent] at returned refused
    cases refused
    match known : fault.refusal with
    | .other error => simp [known] at returned
    | .api status text =>
        by_cases absent : status = 404
        · exact absurd known (absent ▸ fault.notFoundExcluded text)
        · simp [known, absent] at returned

theorem deleteByName_returns {faults : Nat → Option Fault} {attempt : Nat}
    (deletes : faults attempt = none) (what : Text) (key : ClusterKey) (name : Text)
    (objects : Objects) :
    (deleteByName what faults key name attempt objects).1 = .ok () := by
  unfold deleteByName
  rw [deletes]
  cases found : objects.get? key with
  | none => simp [send, deleteObject, found]
  | some old => simp [send, deleteObject, found]

end Telescope.Kwok
