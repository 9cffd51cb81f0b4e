import Telescope.Data.Paging
import Telescope.Data.Store
import Telescope.Machine.Agentpool
import Telescope.Machine.Readiness

namespace Telescope.Machine

open Telescope

/-! Listing the Machines of an agentpool (`_list_machines`) and the failures read off a
listing (`_get_terminal_machine_provisioning_failures`). -/

def listMachinesMaxPages : Nat := 50

def machineFailureDetailLimit : Nat := 10

def machineTerminalStates : List Text := [lit "Succeeded", lit "Failed", lit "Canceled"]

def machineFailureStates : List Text := [lit "Failed", lit "Canceled"]

/-- The replies to the requests of one listing, in their order and by URL, and the texts of
Python's exceptions. -/
structure ListWorld where
  reply : Nat → Json → Reply
  attributeText : Json → Text
  jsonErrorText : Response → Text
  iterationText : Json → Text

def listMachinesUrl (client : MachineClient) (clusterName agentPoolName : Text) : Text :=
  agentPoolPath client.subscriptionId client.resourceGroup clusterName agentPoolName ++
    lit "/machines?api-version=" ++ machineApiVersion

/-- One round of the loop: the entries of a page and the link that is followed. -/
def readPage (world : ListWorld) (agentPoolName : Text) : Reply → Except Error (Page Json Json)
  | .error raised => .error raised
  | .ok response =>
      if response.statusCode ≠ 200 then
        .error (.runtimeError (lit "ListMachines failed for agentpool " ++ agentPoolName ++
          lit ": " ++ natText response.statusCode ++ lit " " ++ response.text.take 500))
      else
        match response.json with
        | none =>
            .error (.runtimeError (lit "ListMachines returned invalid JSON for agentpool " ++
              agentPoolName ++ lit ": " ++ world.jsonErrorText response))
        | some body => do
            let value ← Json.getKey world.attributeText body (lit "value")
            let nextLink ← Json.getKey world.attributeText body (lit "nextLink")
            match (value.getD (.arr [])).entries? with
            | none => .error (.typeError (world.iterationText (value.getD (.arr []))))
            | some entries => .ok ⟨entries, nextLink.filter Json.truthy⟩

def exceededError (agentPoolName : Text) : Error :=
  .runtimeError (lit "ListMachines exceeded " ++ natText listMachinesMaxPages ++
    lit " pages for agentpool " ++ agentPoolName)

def fetchPage (world : ListWorld) (agentPoolName : Text) (index : Nat) (url : Json) :
    Except Error (Page Json Json) :=
  readPage world agentPoolName (world.reply index url)

def listMachines (world : ListWorld) (client : MachineClient) (clusterName agentPoolName : Text) :
    Except Error (List Json) :=
  collectPages (fetchPage world agentPoolName) (exceededError agentPoolName)
    listMachinesMaxPages 0 (.str (listMachinesUrl client clusterName agentPoolName)) []

/-! Reading failures off a listing. -/

/-- `value in names` for a set of texts. -/
def memberOf (names : List Text) : Option Json → Except Error Bool
  | some (.str name) => .ok (names.elem name)
  | some (.arr _) => .error (.typeError (lit "unhashable type: 'list'"))
  | some (.obj _) => .error (.typeError (lit "unhashable type: 'dict'"))
  | _ => .ok false

/-- One item of the comprehension for `machines_by_name`. -/
def collectMachine (attributeText : Json → Text) (expectedNames : List Text)
    (machinesByName : Store Text Json) (machine : Json) : Except Error (Store Text Json) := do
  let name ← Json.getKey attributeText machine (lit "name")
  let isExpected ← memberOf expectedNames name
  match isExpected, name with
  | true, some (.str name) => return machinesByName.put name machine
  | _, _ => return machinesByName

def machineOf (machinesByName : Store Text Json) (name : Text) : Json :=
  (machinesByName.get? name).getD .null

def allTerminal : List (Text × Option Json) → Except Error Bool
  | [] => .ok true
  | (_, state) :: rest => do
      let terminal ← memberOf machineTerminalStates state
      if terminal then allTerminal rest else return false

/-- When every state is terminal, they are all texts. -/
def isFailure (state : Option Json) : Bool :=
  match state with
  | some (.str state) => machineFailureStates.elem state
  | _ => false

def textLe : Text → Text → Bool
  | [], _ => true
  | _ :: _, [] => false
  | a :: first, b :: second => if a = b then textLe first second else decide (a.toNat < b.toNat)

def orEmpty (value : Option Json) : Json :=
  match value with
  | none => .obj []
  | some value => if value.truthy then value else .obj []

def limitedMessage (message : Option Json) : Json :=
  match message with
  | none => .null
  | some (.str text) => .str (text.take 300)
  | some other => other

def getMachineFailureDetail (attributeText : Json → Text) (machine : Json) :
    Except Error FailedMachine := do
  let properties := (← Json.getKey attributeText machine (lit "properties")).getD (.obj [])
  let status := (← Json.getKey attributeText properties (lit "status")).getD (.obj [])
  let provisioningError := orEmpty (← Json.getKey attributeText status (lit "provisioningError"))
  let message ← Json.getKey attributeText provisioningError (lit "message")
  let name ← Json.getKey attributeText machine (lit "name")
  let state ← Json.getKey attributeText properties (lit "provisioningState")
  let code ← Json.getKey attributeText provisioningError (lit "code")
  return [(lit "name", name.getD .null), (lit "provisioningState", state.getD .null),
    (lit "error_code", code.getD .null), (lit "error_message", limitedMessage message)]

/-- What follows the comprehension for `machines_by_name`.  `expectedNames` is the set in
the order in which it is iterated. -/
def failuresAmong (attributeText : Json → Text) (expectedNames : List Text)
    (machinesByName : Store Text Json) : Except Error (List FailedMachine) :=
  if expectedNames ⊆ machinesByName.keys ∧ machinesByName.keys ⊆ expectedNames then do
    let states ← expectedNames.mapM fun name => do
      let state ← provisioningState attributeText (machineOf machinesByName name)
      return (name, state)
    let terminal ← allTerminal states
    if terminal then
      let failedNames := (states.filter fun state => isFailure state.2).map Prod.fst
      ((failedNames.mergeSort textLe).take machineFailureDetailLimit).mapM fun name =>
        getMachineFailureDetail attributeText (machineOf machinesByName name)
    else return []
  else .ok []

def terminalFailures (attributeText : Json → Text) (expectedNames : List Text)
    (machines : List Json) : Except Error (List FailedMachine) := do
  let machinesByName ← machines.foldlM (collectMachine attributeText expectedNames) Store.empty
  failuresAmong attributeText expectedNames machinesByName

def getTerminalMachineProvisioningFailures (world : ListWorld) (client : MachineClient)
    (clusterName agentPoolName : Text) (expectedNames : List Text) :
    Except Error (List FailedMachine) :=
  match expectedNames with
  | [] => .ok []
  | _ :: _ => do
      let machines ← listMachines world client clusterName agentPoolName
      terminalFailures world.attributeText expectedNames machines

/-! Machines whose fields may be absent but are of their type. -/

def field (fields : Fields) (key : Text) : Option Json :=
  (fields.find? fun field => field.1 = key).map Prod.snd

def OptionalText (value : Option Json) : Prop :=
  value = none ∨ value = some .null ∨ ∃ text, value = some (.str text)

def OptionalObject (value : Option Json) : Prop :=
  value = none ∨ ∃ fields, value = some (.obj fields)

def objectFields : Option Json → Fields
  | some (.obj fields) => fields
  | _ => []

def textOf : Option Json → Option Text
  | some (.str text) => some text
  | _ => none

def propertiesOf (fields : Fields) : Fields := objectFields (field fields (lit "properties"))

def statusOf (fields : Fields) : Fields :=
  objectFields (field (propertiesOf fields) (lit "status"))

structure MachineResource where
  fields : Fields
  nameText : OptionalText (field fields (lit "name"))
  propertiesObject : OptionalObject (field fields (lit "properties"))
  stateText : OptionalText (field (propertiesOf fields) (lit "provisioningState"))
  statusObject : OptionalObject (field (propertiesOf fields) (lit "status"))
  errorObject : ∀ value, field (statusOf fields) (lit "provisioningError") = some value →
    value.truthy = true → ∃ fields, value = .obj fields

namespace MachineResource

def json (machine : MachineResource) : Json := .obj machine.fields

def name? (machine : MachineResource) : Option Text := textOf (field machine.fields (lit "name"))

def state? (machine : MachineResource) : Option Text :=
  textOf (field (propertiesOf machine.fields) (lit "provisioningState"))

end MachineResource

def lastNamed (machines : List MachineResource) (name : Text) : Option MachineResource :=
  machines.reverse.find? fun machine => machine.name? = some name

def stateNamed (machines : List MachineResource) (name : Text) : Option Text :=
  (lastNamed machines name).bind MachineResource.state?

def isIn (states : List Text) (state : Option Text) : Bool :=
  match state with
  | some state => states.elem state
  | none => false

def AllTerminal (machines : List MachineResource) (expectedNames : List Text) : Prop :=
  ∀ name ∈ expectedNames, isIn machineTerminalStates (stateNamed machines name) = true

instance (machines : List MachineResource) (expectedNames : List Text) :
    Decidable (AllTerminal machines expectedNames) :=
  inferInstanceAs (Decidable (∀ name ∈ expectedNames, _))

def hasFailed (machines : List MachineResource) (name : Text) : Bool :=
  isIn machineFailureStates (stateNamed machines name)

/-- Failures are reported when all expected machines are terminal and some failed: the
details of the first ten of these by name. -/
structure ReportsFailures (attributeText : Json → Text) (expectedNames : List Text)
    (machines : List MachineResource) (failures : List FailedMachine) : Prop where
  reported_iff : failures ≠ [] ↔
    AllTerminal machines expectedNames ∧ ∃ name ∈ expectedNames, hasFailed machines name = true
  listed : failures ≠ [] → ∃ sortedNames : List Text,
    sortedNames.Perm (expectedNames.filter (hasFailed machines)) ∧
    sortedNames.Pairwise (fun first second => textLe first second = true) ∧
    List.Forall₂ (fun name failure => ∃ machine, lastNamed machines name = some machine ∧
      getMachineFailureDetail attributeText machine.json = .ok failure ∧
      failure.get? (lit "name") = some (.str name))
      (sortedNames.take machineFailureDetailLimit) failures

theorem getKey_obj (attributeText : Json → Text) (fields : Fields) (key : Text) :
    Json.getKey attributeText (.obj fields) key = .ok (field fields key) := rfl

theorem OptionalObject.getD_eq {value : Option Json} (isObject : OptionalObject value) :
    value.getD (.obj []) = .obj (objectFields value) := by
  rcases isObject with rfl | ⟨fields, rfl⟩
  · rfl
  · rfl

theorem OptionalText.memberOf_eq {value : Option Json} (isText : OptionalText value)
    (names : List Text) : memberOf names value = .ok (isIn names (textOf value)) := by
  rcases isText with rfl | rfl | ⟨text, rfl⟩
  · rfl
  · rfl
  · rfl

private theorem provisioningState_json (attributeText : Json → Text) (machine : MachineResource) :
    provisioningState attributeText machine.json =
      .ok (field (propertiesOf machine.fields) (lit "provisioningState")) := by
  rw [provisioningState, MachineResource.json, getKey_obj]
  change Json.getKey attributeText ((field machine.fields (lit "properties")).getD (.obj [])) _ = _
  rw [machine.propertiesObject.getD_eq, getKey_obj]
  rfl

private theorem textOf_eq_some {value : Option Json} {text : Text}
    (isText : textOf value = some text) :
    value = some (.str text) := by
  unfold textOf at isText
  split at isText
  · rw [Option.some.inj isText]
  · exact nomatch isText

/-! Collecting the machines by name. -/

def collect (expectedNames : List Text) (machinesByName : Store Text Json)
    (machine : MachineResource) : Store Text Json :=
  match machine.name? with
  | some name =>
      if expectedNames.elem name then machinesByName.put name machine.json else machinesByName
  | none => machinesByName

private theorem collectMachine_json (attributeText : Json → Text) (expectedNames : List Text)
    (machinesByName : Store Text Json) (machine : MachineResource) :
    collectMachine attributeText expectedNames machinesByName machine.json =
      .ok (collect expectedNames machinesByName machine) := by
  unfold collectMachine collect MachineResource.name?
  rw [MachineResource.json, getKey_obj]
  change (memberOf expectedNames (field machine.fields (lit "name"))).bind _ = _
  rw [machine.nameText.memberOf_eq]
  rcases machine.nameText with absent | null | ⟨name, text⟩
  · rw [absent]
    rfl
  · rw [null]
    rfl
  · rw [text]
    cases member : expectedNames.elem name with
    | true => simp only [textOf, isIn, Except.bind, member, if_true]; rfl
    | false => simp only [textOf, isIn, Except.bind, member]; rfl

private theorem foldlM_collectMachine (attributeText : Json → Text) (expectedNames : List Text)
    (machines : List MachineResource) (machinesByName : Store Text Json) :
    (machines.map MachineResource.json).foldlM (collectMachine attributeText expectedNames)
        machinesByName =
      .ok (machines.foldl (collect expectedNames) machinesByName) := by
  induction machines generalizing machinesByName with
  | nil => rfl
  | cons machine machines induction =>
      rw [List.map_cons, List.foldlM_cons, collectMachine_json]
      exact induction _

theorem terminalFailures_json (attributeText : Json → Text) (expectedNames : List Text)
    (machines : List MachineResource) :
    terminalFailures attributeText expectedNames (machines.map MachineResource.json) =
      failuresAmong attributeText expectedNames
        (machines.foldl (collect expectedNames) Store.empty) := by
  rw [terminalFailures, foldlM_collectMachine]
  rfl

def isExpected (expectedNames : List Text) (machine : MachineResource) : Bool :=
  isIn expectedNames machine.name?

theorem collect_of_not_expected {expectedNames : List Text} {machine : MachineResource}
    (other : isExpected expectedNames machine = false) (machinesByName : Store Text Json) :
    collect expectedNames machinesByName machine = machinesByName := by
  unfold isExpected isIn at other
  unfold collect
  cases named : machine.name? with
  | none => rfl
  | some name =>
      rw [named] at other
      simp only [other, Bool.false_eq_true, if_false]

private theorem collect_of_expected {expectedNames : List Text} {machine : MachineResource}
    (expected : isExpected expectedNames machine = true) (machinesByName : Store Text Json) :
    ∃ name ∈ expectedNames, machine.name? = some name ∧
      collect expectedNames machinesByName machine = machinesByName.put name machine.json := by
  unfold isExpected isIn at expected
  cases named : machine.name? with
  | none =>
      rw [named] at expected
      exact nomatch expected
  | some name =>
      rw [named] at expected
      refine ⟨name, List.elem_iff.mp expected, rfl, ?_⟩
      simp only [collect, named, if_pos expected]

private theorem foldl_collect_filter (expectedNames : List Text) (machines : List MachineResource)
    (machinesByName : Store Text Json) :
    (machines.filter (isExpected expectedNames)).foldl (collect expectedNames) machinesByName =
      machines.foldl (collect expectedNames) machinesByName := by
  induction machines generalizing machinesByName with
  | nil => rfl
  | cons machine machines induction =>
      cases expected : isExpected expectedNames machine with
      | true =>
          rw [List.filter_cons_of_pos expected]
          exact induction _
      | false =>
          rw [List.filter_cons_of_neg (Bool.not_eq_true _ ▸ expected), List.foldl_cons,
            collect_of_not_expected expected]
          exact induction _

/-- Each expected name is collected with its last machine, and no other name is. -/
structure Collects (expectedNames : List Text) (machines : List MachineResource)
    (machinesByName : Store Text Json) : Prop where
  last : ∀ name ∈ expectedNames,
    machinesByName.get? name = (lastNamed machines name).map MachineResource.json
  expected : machinesByName.keys ⊆ expectedNames

theorem lastNamed_concat (machines : List MachineResource) (machine : MachineResource)
    (name : Text) :
    lastNamed (machines ++ [machine]) name =
      if machine.name? = some name then some machine else lastNamed machines name := by
  unfold lastNamed
  rw [List.reverse_append, List.reverse_singleton, List.singleton_append]
  cases Decidable.em (machine.name? = some name) with
  | inl named => simp only [List.find?_cons, named, decide_true, if_true]
  | inr other => simp only [List.find?_cons, other, decide_false, if_false]

private theorem collects_foldl (expectedNames : List Text) (machines : List MachineResource) :
    Collects expectedNames machines (machines.foldl (collect expectedNames) Store.empty) := by
  induction machines using List.reverseRecOn with
  | nil => exact ⟨fun _ _ => rfl, fun _ member => absurd member List.not_mem_nil⟩
  | append_singleton machines machine induction =>
      rw [List.foldl_append, List.foldl_cons, List.foldl_nil]
      cases expected : isExpected expectedNames machine with
      | false =>
          rw [collect_of_not_expected expected]
          refine ⟨?_, induction.expected⟩
          intro name member
          have other : machine.name? ≠ some name := by
            intro named
            rw [isExpected, named, isIn, List.elem_eq_true_of_mem member] at expected
            exact nomatch expected
          rw [lastNamed_concat, if_neg other]
          exact induction.last name member
      | true =>
          obtain ⟨name, member, named, collected⟩ := collect_of_expected expected
            (machines.foldl (collect expectedNames) Store.empty)
          rw [collected]
          constructor
          · intro other otherMember
            rw [lastNamed_concat, named]
            cases Decidable.em (name = other) with
            | inl same =>
                rw [if_pos (congrArg some same), ← same, Store.get?_put_self]
                rfl
            | inr different =>
                rw [if_neg (different ∘ Option.some.inj),
                  Store.get?_put_of_ne _ (Ne.symm different)]
                exact induction.last other otherMember
          · intro key inKeys
            rcases (Store.mem_keys_put _).mp inKeys with rfl | earlier
            · exact member
            · exact induction.expected earlier

/-! The states of the collected machines. -/

private theorem name?_of_lastNamed {machines : List MachineResource} {name : Text}
    {machine : MachineResource} (last : lastNamed machines name = some machine) :
    machine.name? = some name := by
  have found := List.find?_some last
  exact of_decide_eq_true found

def stateField (machines : List MachineResource) (name : Text) : Option Json :=
  (lastNamed machines name).bind fun machine =>
    field (propertiesOf machine.fields) (lit "provisioningState")

theorem stateField_text (machines : List MachineResource) (name : Text) :
    OptionalText (stateField machines name) := by
  unfold stateField
  cases lastNamed machines name with
  | none => exact .inl rfl
  | some machine => exact machine.stateText

theorem textOf_stateField (machines : List MachineResource) (name : Text) :
    textOf (stateField machines name) = stateNamed machines name := by
  unfold stateField stateNamed
  cases lastNamed machines name with
  | none => rfl
  | some machine => rfl

private theorem isFailure_stateField (machines : List MachineResource) (name : Text) :
    isFailure (stateField machines name) = hasFailed machines name := by
  rw [hasFailed, ← textOf_stateField]
  rcases stateField_text machines name with absent | null | ⟨state, text⟩
  · rw [absent]
    rfl
  · rw [null]
    rfl
  · rw [text]
    rfl

theorem allTerminal_states (machines : List MachineResource) (names : List Text) :
    allTerminal (names.map fun name => (name, stateField machines name)) =
      .ok (names.all fun name => isIn machineTerminalStates (stateNamed machines name)) := by
  induction names with
  | nil => rfl
  | cons name names induction =>
      rw [List.map_cons, allTerminal, (stateField_text machines name).memberOf_eq,
        textOf_stateField, List.all_cons]
      cases isIn machineTerminalStates (stateNamed machines name) with
      | true => exact induction
      | false => rfl

private theorem failedNames_eq (machines : List MachineResource) (names : List Text) :
    ((names.map fun name => (name, stateField machines name)).filter
        fun state => isFailure state.2).map Prod.fst = names.filter (hasFailed machines) := by
  rw [List.filter_map, List.map_map]
  have same : (fun state : Text × Option Json => isFailure state.2) ∘
      (fun name => (name, stateField machines name)) = hasFailed machines := by
    funext name
    exact isFailure_stateField machines name
  rw [same]
  exact List.map_id _

section Collected

variable {expectedNames : List Text} {machines : List MachineResource}
  {machinesByName : Store Text Json}

theorem Collects.sameNames_iff (collects : Collects expectedNames machines machinesByName) :
    (expectedNames ⊆ machinesByName.keys ∧ machinesByName.keys ⊆ expectedNames) ↔
      ∀ name ∈ expectedNames, ∃ machine, lastNamed machines name = some machine := by
  rw [and_iff_left collects.expected]
  apply forall_congr'
  intro name
  apply forall_congr'
  intro member
  have last := collects.last name member
  cases named : lastNamed machines name with
  | none =>
      rw [named] at last
      refine iff_of_false (machinesByName.get?_eq_none_iff.mp last) ?_
      intro found
      obtain ⟨machine, found⟩ := found
      exact nomatch found
  | some machine =>
      rw [named] at last
      refine iff_of_true ?_ ⟨machine, rfl⟩
      apply Decidable.not_not.mp
      intro absent
      exact nomatch (machinesByName.get?_eq_none_iff.mpr absent).symm.trans last

theorem Collects.machineOf_eq (collects : Collects expectedNames machines machinesByName)
    {name : Text} (member : name ∈ expectedNames) {machine : MachineResource}
    (last : lastNamed machines name = some machine) :
    machineOf machinesByName name = machine.json := by
  rw [machineOf, collects.last name member, last]
  rfl

theorem Collects.states_eq (collects : Collects expectedNames machines machinesByName)
    (attributeText : Json → Text)
    (listed : ∀ name ∈ expectedNames, ∃ machine, lastNamed machines name = some machine) :
    (expectedNames.mapM fun name => do
      let state ← provisioningState attributeText (machineOf machinesByName name)
      return (name, state)) =
      .ok (expectedNames.map fun name => (name, stateField machines name)) := by
  apply mapM_eq_map
  intro name member
  obtain ⟨machine, last⟩ := listed name member
  rw [collects.machineOf_eq member last, provisioningState_json, stateField, last]
  rfl

end Collected

/-! The details. -/

private theorem exists_failureDetail (attributeText : Json → Text) {machine : MachineResource}
    {name : Text} (named : machine.name? = some name) :
    ∃ failure, getMachineFailureDetail attributeText machine.json = .ok failure ∧
      failure.get? (lit "name") = some (.str name) := by
  have nameField := textOf_eq_some named
  have errorFields : ∃ fields,
      orEmpty (field (statusOf machine.fields) (lit "provisioningError")) = .obj fields := by
    cases found : field (statusOf machine.fields) (lit "provisioningError") with
    | none => exact ⟨[], rfl⟩
    | some value =>
        cases truthy : value.truthy with
        | false => exact ⟨[], by simp [orEmpty, truthy]⟩
        | true =>
            obtain ⟨fields, isObject⟩ := machine.errorObject value found truthy
            refine ⟨fields, ?_⟩
            rw [← isObject, orEmpty, if_pos truthy]
  obtain ⟨error, errorIs⟩ := errorFields
  have ran : getMachineFailureDetail attributeText machine.json =
      .ok [(lit "name", .str name),
        (lit "provisioningState",
          (field (propertiesOf machine.fields) (lit "provisioningState")).getD .null),
        (lit "error_code", (field error (lit "code")).getD .null),
        (lit "error_message", limitedMessage (field error (lit "message")))] := by
    have properties : (field machine.fields (lit "properties")).getD (.obj []) =
        .obj (propertiesOf machine.fields) := machine.propertiesObject.getD_eq
    have status : (field (propertiesOf machine.fields) (lit "status")).getD (.obj []) =
        .obj (statusOf machine.fields) := machine.statusObject.getD_eq
    simp only [getMachineFailureDetail, MachineResource.json, getKey_obj, bind, Except.bind,
      properties, status, errorIs, nameField]
    rfl
  exact ⟨_, ran, rfl⟩

/-! The order of the names. -/

theorem textLe_cons_iff (a b : Char) (first second : Text) :
    textLe (a :: first) (b :: second) = true ↔
      a.toNat < b.toNat ∨ a = b ∧ textLe first second = true := by
  rw [textLe]
  cases Decidable.em (a = b) with
  | inl same => simp [same]
  | inr different => simp [different]

private theorem textLe_total (first second : Text) :
    textLe first second = true ∨ textLe second first = true := by
  induction first generalizing second with
  | nil => exact .inl rfl
  | cons a first induction =>
      cases second with
      | nil => exact .inr rfl
      | cons b second =>
          rw [textLe_cons_iff, textLe_cons_iff]
          rcases Nat.lt_trichotomy a.toNat b.toNat with below | same | above
          · exact .inl (.inl below)
          · have equal : a = b := Char.toNat_inj.mp same
            exact (induction second).imp (fun le => .inr ⟨equal, le⟩)
              fun le => .inr ⟨equal.symm, le⟩
          · exact .inr (.inl above)

private theorem textLe_trans {first second third : Text} (firstLe : textLe first second = true)
    (secondLe : textLe second third = true) : textLe first third = true := by
  induction first generalizing second third with
  | nil => rfl
  | cons a first induction =>
      cases second with
      | nil => exact nomatch firstLe
      | cons b second =>
          cases third with
          | nil => exact nomatch secondLe
          | cons c third =>
              rw [textLe_cons_iff] at firstLe secondLe ⊢
              rcases firstLe with below | ⟨rfl, firstLe⟩
              · rcases secondLe with later | ⟨rfl, secondLe⟩
                · exact .inl (below.trans later)
                · exact .inl below
              · rcases secondLe with later | ⟨rfl, secondLe⟩
                · exact .inl later
                · exact .inr ⟨rfl, induction firstLe secondLe⟩

private theorem pairwise_mergeSort_textLe (names : List Text) :
    (names.mergeSort textLe).Pairwise fun first second => textLe first second = true := by
  apply List.pairwise_mergeSort
  · exact fun _ _ _ firstLe secondLe => textLe_trans firstLe secondLe
  · intro first second
    rw [Bool.or_eq_true]
    exact textLe_total first second

/-! Failures of a listing. -/

theorem exists_lastNamed_of_terminal {machines : List MachineResource} {name : Text}
    (terminal : isIn machineTerminalStates (stateNamed machines name) = true) :
    ∃ machine, lastNamed machines name = some machine := by
  unfold stateNamed at terminal
  cases last : lastNamed machines name with
  | none =>
      rw [last] at terminal
      exact nomatch terminal
  | some machine => exact ⟨machine, rfl⟩

private theorem failuresAmong_of_pending {expectedNames : List Text}
    {machines : List MachineResource}
    {machinesByName : Store Text Json}
    (collects : Collects expectedNames machines machinesByName) (attributeText : Json → Text)
    (pending : ¬ AllTerminal machines expectedNames) :
    failuresAmong attributeText expectedNames machinesByName = .ok [] := by
  unfold failuresAmong
  cases Decidable.em (expectedNames ⊆ machinesByName.keys ∧
      machinesByName.keys ⊆ expectedNames) with
  | inr different => rw [if_neg different]
  | inl same =>
      have listed := collects.sameNames_iff.mp same
      have notAll : (expectedNames.all fun name =>
          isIn machineTerminalStates (stateNamed machines name)) = false := by
        rw [← Bool.not_eq_true, List.all_eq_true]
        exact pending
      rw [if_pos same, collects.states_eq attributeText listed]
      change (allTerminal _).bind _ = _
      rw [allTerminal_states, notAll]
      rfl

private theorem failuresAmong_of_terminal {expectedNames : List Text}
    {machines : List MachineResource} {machinesByName : Store Text Json}
    (collects : Collects expectedNames machines machinesByName) (attributeText : Json → Text)
    (terminal : AllTerminal machines expectedNames) :
    failuresAmong attributeText expectedNames machinesByName =
      (((expectedNames.filter (hasFailed machines)).mergeSort textLe).take
        machineFailureDetailLimit).mapM fun name =>
          getMachineFailureDetail attributeText (machineOf machinesByName name) := by
  have listed := fun name member => exists_lastNamed_of_terminal (terminal name member)
  have all : (expectedNames.all fun name =>
      isIn machineTerminalStates (stateNamed machines name)) = true :=
    List.all_eq_true.mpr terminal
  unfold failuresAmong
  rw [if_pos (collects.sameNames_iff.mpr listed), collects.states_eq attributeText listed]
  change (allTerminal _).bind _ = _
  rw [allTerminal_states, all, ← failedNames_eq]
  rfl

private theorem terminalFailures_reports (attributeText : Json → Text) (expectedNames : List Text)
    (machines : List MachineResource) :
    ∃ failures, terminalFailures attributeText expectedNames
        (machines.map MachineResource.json) = .ok failures ∧
      ReportsFailures attributeText expectedNames machines failures := by
  have collects := collects_foldl expectedNames machines
  rw [terminalFailures_json]
  cases Decidable.em (AllTerminal machines expectedNames) with
  | inr pending =>
      refine ⟨[], failuresAmong_of_pending collects attributeText pending, ?_, ?_⟩
      · exact iff_of_false (fun some => some rfl) fun both => pending both.1
      · exact fun some => absurd rfl some
  | inl terminal =>
      rw [failuresAmong_of_terminal collects attributeText terminal]
      have perm := List.mergeSort_perm (expectedNames.filter (hasFailed machines)) textLe
      have detailed : ∀ name ∈ ((expectedNames.filter (hasFailed machines)).mergeSort
          textLe).take machineFailureDetailLimit,
          ∃ failure, getMachineFailureDetail attributeText (machineOf
              (machines.foldl (collect expectedNames) Store.empty) name) = .ok failure ∧
            ∃ machine, lastNamed machines name = some machine ∧
              getMachineFailureDetail attributeText machine.json = .ok failure ∧
              failure.get? (lit "name") = some (.str name) := by
        intro name member
        have expected := (List.mem_filter.mp (perm.subset (List.mem_of_mem_take member))).1
        obtain ⟨machine, last⟩ := exists_lastNamed_of_terminal (terminal name expected)
        obtain ⟨failure, detail, named⟩ :=
          exists_failureDetail attributeText (name?_of_lastNamed last)
        rw [collects.machineOf_eq expected last]
        exact ⟨failure, detail, machine, last, detail, named⟩
      obtain ⟨failures, mapped, details⟩ := (exists_mapM_iff _ _ _).mpr detailed
      have nonempty_iff : failures ≠ [] ↔ ∃ name ∈ expectedNames,
          hasFailed machines name = true := by
        rw [← List.length_pos_iff, ← details.length_eq, List.length_take, perm.length_eq,
          lt_min_iff, and_iff_right (by decide), List.length_pos_iff, ne_eq,
          List.filter_eq_nil_iff]
        simp
      refine ⟨failures, mapped, ?_, ?_⟩
      · rw [nonempty_iff, and_iff_right terminal]
      · intro some
        exact ⟨_, perm, pairwise_mergeSort_textLe _, details⟩

theorem terminalFailures_filter (attributeText : Json → Text) (expectedNames : List Text)
    (machines : List MachineResource) :
    terminalFailures attributeText expectedNames
        ((machines.filter (isExpected expectedNames)).map MachineResource.json) =
      terminalFailures attributeText expectedNames (machines.map MachineResource.json) := by
  rw [terminalFailures_json, terminalFailures_json, foldl_collect_filter]

/-- A listing is all pages in order or an exception, never a part of them. -/
structure ListsPages (world : ListWorld) (client : MachineClient)
    (clusterName agentPoolName : Text) : Prop where
  returns : ∀ machines, listMachines world client clusterName agentPoolName = .ok machines ↔
    ∃ pages last entries,
      Reads (fetchPage world agentPoolName) 0 (.str (listMachinesUrl client clusterName
        agentPoolName)) pages last ∧
      pages.length < 50 ∧ fetchPage world agentPoolName pages.length last = .ok ⟨entries, none⟩ ∧
      machines = pages.flatten ++ entries
  raises : ∀ error, listMachines world client clusterName agentPoolName = .error error ↔
    ∃ pages last,
      Reads (fetchPage world agentPoolName) 0 (.str (listMachinesUrl client clusterName
        agentPoolName)) pages last ∧
      (pages.length < 50 ∧ fetchPage world agentPoolName pages.length last = .error error ∨
        pages.length = 50 ∧ error = exceededError agentPoolName)
  unreadable : ∀ response, response.statusCode ≠ 200 ∨ response.json = none →
    ∃ error, readPage world agentPoolName (.ok response) = .error error
  readable : ∀ response fields entries, response.statusCode = 200 →
    response.json = some (.obj fields) →
    (field fields (lit "value")).getD (.arr []) = .arr entries →
    readPage world agentPoolName (.ok response) =
      .ok ⟨entries, (field fields (lit "nextLink")).filter Json.truthy⟩

private theorem listsPages (world : ListWorld) (client : MachineClient)
    (clusterName agentPoolName : Text) :
    ListsPages world client clusterName agentPoolName where
  returns := by
    intro machines
    unfold listMachines
    rw [collectPages_ok_iff]
    simp only [Nat.zero_add, List.nil_append]
    rfl
  raises := by
    intro error
    unfold listMachines
    rw [collectPages_error_iff]
    simp only [Nat.zero_add]
    rfl
  unreadable := by
    intro response unreadable
    cases Decidable.em (response.statusCode = 200) with
    | inr failed => exact ⟨_, by rw [readPage, if_pos failed]⟩
    | inl succeeded =>
        rw [readPage, if_neg (not_not_intro succeeded),
          unreadable.resolve_left (not_not_intro succeeded)]
        exact ⟨_, rfl⟩
  readable := by
    intro response fields entries succeeded json value
    rw [readPage, if_neg (not_not_intro succeeded), json]
    simp only [getKey_obj, bind, Except.bind, value, Json.entries?]

/-- The listing is complete, and the failures of a listing are exactly those of the
expected machines once all of these are terminal. -/
theorem machine_failure_detection_exact (world : ListWorld) (client : MachineClient)
    (clusterName agentPoolName : Text) (expectedNames : List Text)
    (nonempty : expectedNames ≠ []) :
    ListsPages world client clusterName agentPoolName ∧
    (∀ machines, listMachines world client clusterName agentPoolName =
        .ok (machines.map MachineResource.json) →
      ∃ failures, getTerminalMachineProvisioningFailures world client clusterName agentPoolName
          expectedNames = .ok failures ∧
        ReportsFailures world.attributeText expectedNames machines failures ∧
        ∀ others : List MachineResource,
          others.filter (isExpected expectedNames) = machines.filter (isExpected expectedNames) →
          terminalFailures world.attributeText expectedNames
            (others.map MachineResource.json) = .ok failures) := by
  refine ⟨listsPages world client clusterName agentPoolName, ?_⟩
  intro machines listed
  obtain ⟨failures, read, reports⟩ :=
    terminalFailures_reports world.attributeText expectedNames machines
  refine ⟨failures, ?_, reports, ?_⟩
  · cases expectedNames with
    | nil => exact absurd rfl nonempty
    | cons name names =>
        rw [getTerminalMachineProvisioningFailures, listed]
        exact read
  · intro others same
    rw [← terminalFailures_filter, same, terminalFailures_filter]
    exact read

/-! Two pages: the first machine is listed on both, and one that is not expected has failed. -/

def machineIn (name state : Text) : MachineResource where
  fields := [(lit "name", .str name),
    (lit "properties", .obj [(lit "provisioningState", .str state)])]
  nameText := .inr (.inr ⟨name, rfl⟩)
  propertiesObject := .inr ⟨_, rfl⟩
  stateText := .inr (.inr ⟨state, rfl⟩)
  statusObject := .inl rfl
  errorObject := fun _ found => nomatch found

def firstPage : List MachineResource :=
  [machineIn (lit "m1") (lit "Creating"), machineIn (lit "other") (lit "Failed")]

def secondPage : List MachineResource :=
  [machineIn (lit "m2") (lit "Succeeded"), machineIn (lit "m1") (lit "Failed")]

def twoPages : ListWorld where
  reply index _ :=
    if index = 0 then
      .ok ⟨200, [], some (.obj [(lit "value", .arr (firstPage.map MachineResource.json)),
        (lit "nextLink", .str (lit "https://management.azure.com/next"))])⟩
    else
      .ok ⟨200, [], some (.obj [(lit "value", .arr (secondPage.map MachineResource.json))])⟩
  attributeText := fun _ => []
  jsonErrorText := fun _ => []
  iterationText := fun _ => []

theorem machine_failure_detection_twoPages :
    ∃ failures, getTerminalMachineProvisioningFailures twoPages ⟨[], []⟩ [] []
        [lit "m1", lit "m2"] = .ok failures ∧ failures ≠ [] ∧
      ReportsFailures twoPages.attributeText [lit "m1", lit "m2"] (firstPage ++ secondPage)
        failures := by
  obtain ⟨-, detects⟩ := machine_failure_detection_exact twoPages ⟨[], []⟩ [] []
    [lit "m1", lit "m2"] (by simp)
  obtain ⟨failures, reported, reports, -⟩ := detects (firstPage ++ secondPage) rfl
  refine ⟨failures, reported, reports.reported_iff.mpr ⟨by decide, ?_⟩, reports⟩
  exact ⟨lit "m1", by simp, by decide⟩

end Telescope.Machine
