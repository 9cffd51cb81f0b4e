import Telescope.Kubernetes.Undo

namespace Telescope.Kubernetes

open Telescope

/-! `apply_manifest_from_url` and `delete_manifest_from_url`, over a server on which a deleted
object can stay for some time. -/

section Client

variable {σ : Type} (api : Api σ) (fetch : Text → σ → Except Error (List Document) × σ)

/-- What both calls do with the manifests of a URL; every exception is wrapped. -/
def withManifests (action url : Text) (handle : List Manifest → σ → Except Error Unit × σ)
    (state : σ) : Except Error Unit × σ :=
  let failed (error : Error) := wrapped (action ++ lit " manifest from " ++ url) error.message
  match fetch url state with
  | (.error error, after) => (.error (failed error), after)
  | (.ok documents, after) =>
      let handled := handle (expandAndValidateManifests documents) after
      (handled.1.mapError failed, handled.2)

def applyManifestFromUrl (url : Text) (space : Option Text) : σ → Except Error Unit × σ :=
  withManifests fetch (lit "applying") url
    (forEach fun manifest => applySingleManifest api manifest space)

def deleteManifestFromUrl (url : Text) (ignoreNotFound : Bool) (space : Option Text) :
    σ → Except Error Unit × σ :=
  withManifests fetch (lit "deleting") url fun manifests =>
    forEach (fun manifest => deleteSingleManifest api ignoreNotFound manifest space)
      manifests.reverse

end Client

theorem mapError_eq_ok_iff {α : Type} {wrap : Error → Error} {result : Except Error α}
    {value : α} : result.mapError wrap = .ok value ↔ result = .ok value := by
  cases result <;> simp [Except.mapError]

/-! ## Objects that take time to go -/

section Slot

variable {ν : Type} (terminating : ν → Bool)

/-- There is no object whose deletion is in progress. -/
def Settled (slot : Option ν) : Prop :=
  ∀ object, slot = some object → terminating object = false

/-- There is an object, and it stays. -/
def Live (slot : Option ν) : Prop := ∃ object, slot = some object ∧ terminating object = false

/-- Nothing happened to the object, unless it was being deleted and is now gone. -/
def Undisturbed (before after : Option ν) : Prop :=
  after = before ∨ (¬ Live terminating before ∧ after = none)

/-- No object appeared, and one that is there has not changed except that it may be on its
way out. -/
def Recedes (before after : Option ν) : Prop :=
  ∀ object, after = some object →
    before = some object ∨ (before.isSome = true ∧ terminating object = true)

variable {terminating} {before between after : Option ν}

theorem live_iff {slot : Option ν} :
    Live terminating slot ↔ Settled terminating slot ∧ slot.isSome = true := by
  cases slot with
  | none => simp [Live]
  | some object => simp [Live, Settled]

private theorem live_iff_any {slot : Option ν} :
    (slot.any fun object => !terminating object) = true ↔ Live terminating slot := by
  cases slot with
  | none => simp [Live]
  | some object => simp [Live]

instance (terminating : ν → Bool) (slot : Option ν) : Decidable (Live terminating slot) :=
  decidable_of_iff _ live_iff_any

theorem Undisturbed.trans (first : Undisturbed terminating before between)
    (second : Undisturbed terminating between after) : Undisturbed terminating before after := by
  rcases first with rfl | ⟨leaving, rfl⟩
  · exact second
  · rcases second with rfl | ⟨-, rfl⟩
    · exact .inr ⟨leaving, rfl⟩
    · exact .inr ⟨leaving, rfl⟩

theorem Undisturbed.settled (undisturbed : Undisturbed terminating before after)
    (settled : Settled terminating before) : Settled terminating after := by
  rcases undisturbed with rfl | ⟨-, rfl⟩
  · exact settled
  · exact fun object found => nomatch found

theorem Undisturbed.live (undisturbed : Undisturbed terminating before after)
    (live : Live terminating before) : Live terminating after := by
  rcases undisturbed with rfl | ⟨leaving, -⟩
  · exact live
  · exact absurd live leaving

theorem Recedes.refl (slot : Option ν) : Recedes terminating slot slot :=
  fun _ found => .inl found

theorem Undisturbed.recedes (undisturbed : Undisturbed terminating before after) :
    Recedes terminating before after := by
  rcases undisturbed with rfl | ⟨-, rfl⟩
  · exact Recedes.refl after
  · exact fun object found => nomatch found

theorem Recedes.trans (first : Recedes terminating before between)
    (second : Recedes terminating between after) : Recedes terminating before after := by
  intro object found
  rcases second object found with same | ⟨present, leaving⟩
  · exact first object same
  · obtain ⟨earlier, there⟩ := Option.isSome_iff_exists.mp present
    rcases first earlier there with same | ⟨present, -⟩
    · exact .inr ⟨by rw [same]; rfl, leaving⟩
    · exact .inr ⟨present, leaving⟩

private theorem Recedes.not_live (recedes : Recedes terminating before after)
    (gone : ¬ Live terminating before) : ¬ Live terminating after := by
  rintro ⟨object, found, stays⟩
  rcases recedes object found with same | ⟨-, leaving⟩
  · exact gone ⟨object, same, stays⟩
  · rw [stays] at leaving
    cases leaving

end Slot

def Request.Writes : Request → Prop
  | .create _ _ => True
  | .patch _ _ => True
  | .delete _ => False

theorem Applies.writes {manifest : Manifest} {target : Target} {request : Request}
    (applies : Applies manifest target request) : request.Writes ∧ request.target = target := by
  rcases applies with rfl | rfl
  · exact ⟨trivial, rfl⟩
  · exact ⟨trivial, rfl⟩

/-- The server treats each request in its own way, and fails it with or without an effect.  A
deletion can leave the object for a while, in progress.  Of what it accepts the server
keeps its word. -/
structure LingeringServer (ν : Type) where
  terminating : ν → Bool
  vanishes : Nat → ObjectKey → Bool
  respond : Nat → Request → Option ν → Option Refusal × Option ν
  unnamed : Nat → Request → Refusal
  writes_settled : ∀ moment request slot, request.Writes → Settled terminating slot →
    Settled terminating (respond moment request slot).2
  writes_keep : ∀ moment request slot, request.Writes → slot.isSome = true →
    (respond moment request slot).2.isSome = true
  writes_accepted : ∀ moment request slot, request.Writes →
    (respond moment request slot).1 = none → (respond moment request slot).2.isSome = true
  deletes_recede : ∀ moment target slot,
    Recedes terminating slot (respond moment (.delete target) slot).2
  deletes_accepted : ∀ moment target slot,
    (respond moment (.delete target) slot).1 = none ∨
        (∃ text, (respond moment (.delete target) slot).1 = some (.api 404 text)) →
      ¬ Live terminating (respond moment (.delete target) slot).2

/-- What is under each key, and how many things have happened so far. -/
structure LingeringObjects (ν : Type) where
  slots : ObjectKey → Option ν
  moment : Nat

def LingeringObjects.next {ν : Type} (objects : LingeringObjects ν) : LingeringObjects ν :=
  { objects with moment := objects.moment + 1 }

/-- What is published under each URL, and how fetching it fails. -/
structure Web where
  documents : Text → Except Error (List Document)
  fault : Nat → Text → Option Error

namespace Web

def fetch {ν : Type} (web : Web) (url : Text) (objects : LingeringObjects ν) :
    Except Error (List Document) × LingeringObjects ν :=
  match web.fault objects.moment url with
  | some error => (.error error, objects.next)
  | none => (web.documents url, objects.next)

def manifests (web : Web) (url : Text) : List Manifest :=
  match web.documents url with
  | .error _ => []
  | .ok documents => expandAndValidateManifests documents

/-- The objects that the manifests of a URL declare. -/
def declared (web : Web) (url : Text) (space : Option Text) : List ObjectKey :=
  (web.manifests url).filterMap (createdKey? space)

/-- The manifests can be read, and each can be deleted or is skipped. -/
def Deletable (web : Web) (url : Text) (space : Option Text) : Prop :=
  (∃ documents, web.documents url = .ok documents) ∧
    ∀ manifest ∈ web.manifests url, ∃ target?, deletionTarget manifest space = .ok target?

/-- A call that does not come to the manifests raises and changes nothing. -/
theorem withManifests_cases {ν : Type} (web : Web) (action url : Text)
    (handle : List Manifest → LingeringObjects ν → Except Error Unit × LingeringObjects ν)
    (objects : LingeringObjects ν) :
    let ended := withManifests web.fetch action url handle objects
    (ended.1 ≠ .ok () ∧ ended.2 = objects.next) ∨
      (∃ documents, web.documents url = .ok documents) ∧
        ((ended.1 = .ok () ↔ (handle (web.manifests url) objects.next).1 = .ok ()) ∧
        ended.2 = (handle (web.manifests url) objects.next).2) := by
  unfold withManifests fetch manifests
  cases web.fault objects.moment url with
  | some error =>
      refine .inl ⟨?_, rfl⟩
      intro returned
      cases returned
  | none =>
      cases web.documents url with
      | error error =>
          refine .inl ⟨?_, rfl⟩
          intro returned
          cases returned
      | ok documents => exact .inr ⟨⟨documents, rfl⟩, mapError_eq_ok_iff, rfl⟩

end Web

namespace LingeringServer

variable {ν : Type} (server : LingeringServer ν)

/-- The objects whose deletion has not ended by now. -/
def remaining (objects : LingeringObjects ν) (key : ObjectKey) : Option ν :=
  (objects.slots key).filter fun object =>
    !(server.terminating object && server.vanishes objects.moment key)

def api : Api (LingeringObjects ν) where
  answer request objects :=
    let remaining := server.remaining objects
    match request.target.key? with
    | none => (some (server.unnamed objects.moment request), ⟨remaining, objects.moment + 1⟩)
    | some key =>
        let answered := server.respond objects.moment request (remaining key)
        (answered.1, ⟨Function.update remaining key answered.2, objects.moment + 1⟩)

/-- What writing the owned objects can do. -/
structure Grown (own : ObjectKey → Prop) (before after : ObjectKey → Option ν) : Prop where
  frame : ∀ key, ¬ own key → Undisturbed server.terminating (before key) (after key)
  settled : ∀ key, Settled server.terminating (before key) →
    Settled server.terminating (after key)
  live : ∀ key, Live server.terminating (before key) → Live server.terminating (after key)

/-- What deleting the owned objects can do. -/
structure Shrunk (own : ObjectKey → Prop) (before after : ObjectKey → Option ν) : Prop where
  frame : ∀ key, ¬ own key → Undisturbed server.terminating (before key) (after key)
  recedes : ∀ key, Recedes server.terminating (before key) (after key)

variable {server} {own : ObjectKey → Prop} {first second third : ObjectKey → Option ν}

theorem remaining_undisturbed (server : LingeringServer ν) (objects : LingeringObjects ν)
    (key : ObjectKey) :
    Undisturbed server.terminating (objects.slots key) (server.remaining objects key) := by
  unfold remaining
  cases found : objects.slots key with
  | none => exact .inl rfl
  | some object =>
      rw [Option.filter_some]
      split
      · exact .inl rfl
      · rename_i vanished
        refine .inr ⟨?_, rfl⟩
        rintro ⟨live, same, stays⟩
        obtain rfl := Option.some.inj same
        simp [stays] at vanished

theorem Grown.of_undisturbed
    (undisturbed : ∀ key, Undisturbed server.terminating (first key) (second key)) :
    server.Grown own first second where
  frame key _ := undisturbed key
  settled key := (undisturbed key).settled
  live key := (undisturbed key).live

theorem Grown.refl (slots : ObjectKey → Option ν) : server.Grown own slots slots :=
  .of_undisturbed fun _ => .inl rfl

theorem Grown.trans (earlier : server.Grown own first second)
    (later : server.Grown own second third) : server.Grown own first third where
  frame key foreign := (earlier.frame key foreign).trans (later.frame key foreign)
  settled key settled := later.settled key (earlier.settled key settled)
  live key live := later.live key (earlier.live key live)

theorem Grown.mono {wider : ObjectKey → Prop} (widens : ∀ key, own key → wider key)
    (grown : server.Grown own first second) : server.Grown wider first second where
  frame key foreign := grown.frame key fun owned => foreign (widens key owned)
  settled := grown.settled
  live := grown.live

theorem Shrunk.of_undisturbed
    (undisturbed : ∀ key, Undisturbed server.terminating (first key) (second key)) :
    server.Shrunk own first second where
  frame key _ := undisturbed key
  recedes key := (undisturbed key).recedes

theorem Shrunk.mono {wider : ObjectKey → Prop} (widens : ∀ key, own key → wider key)
    (shrunk : server.Shrunk own first second) : server.Shrunk wider first second where
  frame key foreign := shrunk.frame key fun owned => foreign (widens key owned)
  recedes := shrunk.recedes

theorem Shrunk.refl (slots : ObjectKey → Option ν) : server.Shrunk own slots slots :=
  .of_undisturbed fun _ => .inl rfl

theorem Shrunk.trans (earlier : server.Shrunk own first second)
    (later : server.Shrunk own second third) : server.Shrunk own first third where
  frame key foreign := (earlier.frame key foreign).trans (later.frame key foreign)
  recedes key := (earlier.recedes key).trans (later.recedes key)

/-! ## One request -/

variable {objects : LingeringObjects ν}

/-- What a request leaves in each slot. -/
theorem answer_slots (server : LingeringServer ν) (request : Request)
    (objects : LingeringObjects ν) (key : ObjectKey) :
    (server.api.answer request objects).2.slots key =
      if request.target.key? = some key then
        (server.respond objects.moment request (server.remaining objects key)).2
      else server.remaining objects key := by
  cases addressed : request.target.key? with
  | none => simp [api, addressed]
  | some other =>
      by_cases same : other = key
      · subst same
        simp [api, addressed]
      · simp [api, addressed, same, Function.update_of_ne (Ne.symm same)]

theorem answer_result (server : LingeringServer ν) {request : Request} {key : ObjectKey}
    (addressed : request.target.key? = some key) (objects : LingeringObjects ν) :
    (server.api.answer request objects).1 =
      (server.respond objects.moment request (server.remaining objects key)).1 := by
  simp [api, addressed]

theorem answer_grown {request : Request} (writes : request.Writes)
    (owned : ∀ key, request.target.key? = some key → own key)
    (objects : LingeringObjects ν) :
    server.Grown own objects.slots (server.api.answer request objects).2.slots where
  frame key foreign := by
    rw [answer_slots, if_neg fun addressed => foreign (owned key addressed)]
    exact server.remaining_undisturbed objects key
  settled key settled := by
    have left := (server.remaining_undisturbed objects key).settled settled
    rw [answer_slots]
    split
    · exact server.writes_settled objects.moment request _ writes left
    · exact left
  live key live := by
    have left := (server.remaining_undisturbed objects key).live live
    rw [answer_slots]
    split
    · obtain ⟨settled, present⟩ := live_iff.mp left
      exact live_iff.mpr ⟨server.writes_settled objects.moment request _ writes settled,
        server.writes_keep objects.moment request _ writes present⟩
    · exact left

theorem answer_shrunk {target : Target} (owned : ∀ key, target.key? = some key → own key)
    (objects : LingeringObjects ν) :
    server.Shrunk own objects.slots (server.api.answer (.delete target) objects).2.slots where
  frame key foreign := by
    have notAddressed : (Request.delete target).target.key? ≠ some key :=
      fun addressed => foreign (owned key addressed)
    rw [answer_slots, if_neg notAddressed]
    exact server.remaining_undisturbed objects key
  recedes key := by
    have left := (server.remaining_undisturbed objects key).recedes
    rw [answer_slots]
    split
    · exact left.trans (server.deletes_recede objects.moment target _)
    · exact left

/-! ## One manifest -/

variable {manifest : Manifest} {space : Option Text}

theorem createdKey?_of_creationTarget {target : Target}
    (creates : creationTarget manifest space = .ok (some target)) :
    createdKey? space manifest = target.key? := by
  rw [createdKey?, creates]

theorem apply_grown (owned : ∀ key, createdKey? space manifest = some key → own key)
    (objects : LingeringObjects ν) :
    server.Grown own objects.slots
      (applySingleManifest server.api manifest space objects).2.slots := by
  refine applySingleManifest_keeps
    (fun after : LingeringObjects ν => server.Grown own objects.slots after.slots) ?_
    (Grown.refl objects.slots)
  intro target creates request applies state grown
  rw [createdKey?_of_creationTarget creates] at owned
  obtain ⟨writes, rfl⟩ := applies.writes
  exact grown.trans (answer_grown writes owned state)

theorem apply_grows (server : LingeringServer ν) (manifest : Manifest) (space : Option Text)
    (objects : LingeringObjects ν) :
    server.Grown (fun _ => True) objects.slots
      (applySingleManifest server.api manifest space objects).2.slots :=
  apply_grown (fun _ _ => trivial) objects

/-- An object whose manifest has been applied stays, unless it was on its way out. -/
theorem apply_live {key : ObjectKey} (declared : createdKey? space manifest = some key)
    (settled : Settled server.terminating (objects.slots key))
    (returned : (applySingleManifest server.api manifest space objects).1 = .ok ()) :
    Live server.terminating
      ((applySingleManifest server.api manifest space objects).2.slots key) := by
  have creates : ∃ target, creationTarget manifest space = .ok (some target) ∧
      target.key? = some key := by
    unfold createdKey? at declared
    split at declared
    · exact ⟨_, ‹_›, declared⟩
    · cases declared
  obtain ⟨target, creates, addressed⟩ := creates
  refine live_iff.mpr ⟨(apply_grows server manifest space objects).settled key settled, ?_⟩
  refine applySingleManifest_establishes
    (fun after : LingeringObjects ν => (after.slots key).isSome = true) creates ?_ returned
  intro request applies state accepted
  obtain ⟨writes, rfl⟩ := applies.writes
  rw [answer_result server addressed] at accepted
  rw [answer_slots, if_pos addressed]
  exact server.writes_accepted state.moment request _ writes accepted

theorem createdKey?_of_deletionTarget {target? : Option Target}
    (deletes : deletionTarget manifest space = .ok target?) :
    createdKey? space manifest = target?.bind Target.key? := by
  unfold createdKey?
  rcases deletionTarget_ok deletes with same | ⟨rfl, unnamed⟩
  · rw [same]
    cases target? <;> rfl
  · cases creates : creationTarget manifest space with
    | error error => rfl
    | ok target? =>
        cases target? with
        | none => rfl
        | some target => exact unnamed target creates

theorem delete_shrunk (owned : ∀ key, createdKey? space manifest = some key → own key)
    (ignoreNotFound : Bool) (objects : LingeringObjects ν) :
    server.Shrunk own objects.slots
      (deleteSingleManifest server.api ignoreNotFound manifest space objects).2.slots := by
  refine deleteSingleManifest_keeps
    (fun after : LingeringObjects ν => server.Shrunk own objects.slots after.slots) ?_
    (Shrunk.refl objects.slots)
  intro target deletes state shrunk
  rw [createdKey?_of_deletionTarget deletes] at owned
  exact shrunk.trans (answer_shrunk owned state)

private theorem delete_shrinks (server : LingeringServer ν) (ignoreNotFound : Bool)
    (manifest : Manifest)
    (space : Option Text) (objects : LingeringObjects ν) :
    server.Shrunk (fun _ => True) objects.slots
      (deleteSingleManifest server.api ignoreNotFound manifest space objects).2.slots :=
  delete_shrunk (fun _ _ => trivial) ignoreNotFound objects

private theorem exists_deletionTarget {σ : Type} {api : Api σ} {ignoreNotFound : Bool} {state : σ}
    (returned : (deleteSingleManifest api ignoreNotFound manifest space state).1 = .ok ()) :
    ∃ target?, deletionTarget manifest space = .ok target? := by
  unfold deleteSingleManifest at returned
  unfold deletionTarget
  cases read : manifest.readMetadata with
  | error error =>
      rw [read] at returned
      cases returned
  | ok metadata =>
      simp only [read, bind, Except.bind] at returned ⊢
      cases named : presentText metadata.name with
      | none => exact ⟨none, rfl⟩
      | some name =>
          simp only [named] at returned ⊢
          cases deletes : deleteTarget manifest (chosenNamespace space metadata) (some name) with
          | error error =>
              rw [deletes] at returned
              cases returned
          | ok target? => exact ⟨target?, rfl⟩

/-- An object whose manifest has been deleted is gone or on its way out. -/
theorem delete_not_live {ignoreNotFound : Bool} {key : ObjectKey}
    (declared : createdKey? space manifest = some key)
    (returned :
      (deleteSingleManifest server.api ignoreNotFound manifest space objects).1 = .ok ()) :
    ¬ Live server.terminating
      ((deleteSingleManifest server.api ignoreNotFound manifest space objects).2.slots key) := by
  obtain ⟨target?, deletes⟩ := exists_deletionTarget returned
  rw [createdKey?_of_deletionTarget deletes] at declared
  obtain ⟨target, rfl, addressed⟩ := Option.bind_eq_some_iff.mp declared
  refine deleteSingleManifest_establishes
    (fun after : LingeringObjects ν => ¬ Live server.terminating (after.slots key)) deletes ?_
    returned
  intro state accepted
  have addressed : (Request.delete target).target.key? = some key := addressed
  rw [answer_result server addressed] at accepted
  rw [answer_slots, if_pos addressed]
  exact server.deletes_accepted state.moment target _ accepted

/-! ## The manifests of a URL -/

variable {web : Web} {url : Text}

theorem Web.mem_declared {key : ObjectKey} :
    key ∈ web.declared url space ↔
      ∃ manifest ∈ web.manifests url, createdKey? space manifest = some key :=
  List.mem_filterMap

theorem applyManifestFromUrl_grown (server : LingeringServer ν) (web : Web) (url : Text)
    (space : Option Text) (objects : LingeringObjects ν) :
    server.Grown (· ∈ web.declared url space) objects.slots
      (applyManifestFromUrl server.api web.fetch url space objects).2.slots := by
  unfold applyManifestFromUrl
  rcases web.withManifests_cases (lit "applying") url
      (forEach fun manifest => applySingleManifest server.api manifest space) objects with
    ⟨-, unchanged⟩ | ⟨-, -, ended⟩
  · rw [unchanged]
    exact Grown.refl objects.slots
  · rw [ended]
    let holds (after : LingeringObjects ν) : Prop :=
      server.Grown (· ∈ web.declared url space) objects.slots after.slots
    suffices kept : ∀ manifest ∈ web.manifests url, ∀ state, holds state →
        holds (applySingleManifest server.api manifest space state).2 from
      forEach_invariant kept (Grown.refl objects.slots)
    intro manifest member state grown
    refine grown.trans (apply_grown (fun key created => ?_) state)
    exact Web.mem_declared.mpr ⟨manifest, member, created⟩

theorem applyManifestFromUrl_live
    (returned : (applyManifestFromUrl server.api web.fetch url space objects).1 = .ok ()) :
    ∀ key ∈ web.declared url space, Settled server.terminating (objects.slots key) →
      Live server.terminating
        ((applyManifestFromUrl server.api web.fetch url space objects).2.slots key) := by
  unfold applyManifestFromUrl at returned ⊢
  rcases web.withManifests_cases (lit "applying") url
      (forEach fun manifest => applySingleManifest server.api manifest space) objects with
    ⟨raised, -⟩ | ⟨-, returns, ended⟩
  · exact absurd returned raised
  · rw [ended]
    intro key declared settled
    obtain ⟨manifest, member, created⟩ := Web.mem_declared.mp declared
    let kept (after : LingeringObjects ν) : Prop := Settled server.terminating (after.slots key)
    have keeps : ∀ manifest ∈ web.manifests url, ∀ state, kept state →
        kept (applySingleManifest server.api manifest space state).2 :=
      fun next _ state => (apply_grows server next space state).settled key
    refine forEach_establishes (fun manifest after => createdKey? space manifest = some key →
      Live server.terminating (after.slots key)) keeps ?_ ?_ (show kept objects.next from settled)
      (returns.mp returned) manifest member created
    · intro next _ state reached applied created
      exact apply_live created reached applied
    · intro next _ other _ state _ _ live created
      exact (apply_grows server next space state).live key (live created)

theorem deleteManifestFromUrl_shrunk (server : LingeringServer ν) (web : Web) (url : Text)
    (ignoreNotFound : Bool) (space : Option Text) (objects : LingeringObjects ν) :
    server.Shrunk (· ∈ web.declared url space) objects.slots
      (deleteManifestFromUrl server.api web.fetch url ignoreNotFound space objects).2.slots := by
  unfold deleteManifestFromUrl
  rcases web.withManifests_cases (lit "deleting") url
      (fun manifests => forEach (fun manifest =>
        deleteSingleManifest server.api ignoreNotFound manifest space) manifests.reverse)
      objects with
    ⟨-, unchanged⟩ | ⟨-, -, ended⟩
  · rw [unchanged]
    exact Shrunk.refl objects.slots
  · rw [ended]
    let holds (after : LingeringObjects ν) : Prop :=
      server.Shrunk (· ∈ web.declared url space) objects.slots after.slots
    suffices kept : ∀ manifest ∈ (web.manifests url).reverse, ∀ state, holds state →
        holds (deleteSingleManifest server.api ignoreNotFound manifest space state).2 from
      forEach_invariant kept (Shrunk.refl objects.slots)
    intro manifest member state shrunk
    refine shrunk.trans (delete_shrunk (fun key created => ?_) ignoreNotFound state)
    exact Web.mem_declared.mpr ⟨manifest, List.mem_reverse.mp member, created⟩

theorem deleteManifestFromUrl_not_live {ignoreNotFound : Bool}
    (returned :
      (deleteManifestFromUrl server.api web.fetch url ignoreNotFound space objects).1 = .ok ()) :
    ∀ key ∈ web.declared url space, ¬ Live server.terminating
      ((deleteManifestFromUrl server.api web.fetch url ignoreNotFound space objects).2.slots
        key) := by
  unfold deleteManifestFromUrl at returned ⊢
  rcases web.withManifests_cases (lit "deleting") url
      (fun manifests => forEach (fun manifest =>
        deleteSingleManifest server.api ignoreNotFound manifest space) manifests.reverse)
      objects with
    ⟨raised, -⟩ | ⟨-, returns, ended⟩
  · exact absurd returned raised
  · rw [ended]
    intro key declared
    obtain ⟨manifest, member, created⟩ := Web.mem_declared.mp declared
    let kept (_ : LingeringObjects ν) : Prop := True
    have keeps : ∀ manifest ∈ (web.manifests url).reverse, ∀ state, kept state →
        kept (deleteSingleManifest server.api ignoreNotFound manifest space state).2 :=
      fun _ _ _ _ => trivial
    refine forEach_establishes (fun manifest after => createdKey? space manifest = some key →
      ¬ Live server.terminating (after.slots key)) keeps ?_ ?_ trivial (returns.mp returned)
      manifest (List.mem_reverse.mpr member) created
    · intro next _ state _ deleted created
      exact delete_not_live created deleted
    · intro next _ other _ state _ _ gone created
      exact ((delete_shrinks server ignoreNotFound next space state).recedes key).not_live
        (gone created)

/-! ## Deleting what has been applied -/

private theorem exists_creationTarget {σ : Type} {api : Api σ} {state : σ}
    (returned : (applySingleManifest api manifest space state).1 = .ok ()) :
    ∃ target?, creationTarget manifest space = .ok target? := by
  rw [applySingleManifest_eq] at returned
  cases creates : creationTarget manifest space with
  | error error =>
      rw [creates] at returned
      cases returned
  | ok target? => exact ⟨target?, rfl⟩

/-- With a namespace of its own the client can delete what it can create. -/
theorem exists_deletionTarget_of_created {space : Text} (nonempty : space ≠ [])
    {target? : Option Target} (creates : creationTarget manifest (some space) = .ok target?) :
    ∃ target?, deletionTarget manifest (some space) = .ok target? := by
  unfold creationTarget at creates
  unfold deletionTarget
  obtain ⟨metadata, read, creates⟩ := exists_of_bind_eq_ok creates
  simp only [read, bind, Except.bind]
  rcases presentText_eq_none_or metadata.name with missing | ⟨name, present, -⟩
  · exact ⟨none, by rw [missing]⟩
  · have named : metadata.name = some name := Option.eq_some_of_filter_eq_some present
    have chosen := chosenNamespace_of_nonempty nonempty metadata
    rw [named, appliedNamespace, chosen] at creates
    refine ⟨target?, ?_⟩
    rw [present]
    dsimp only
    rw [chosen, deleteTarget_some]
    exact creates

/-- From this moment on the server does every deletion, or says that there is nothing to
delete. -/
def DeletesFrom (server : LingeringServer ν) (moment : Nat) : Prop :=
  ∀ later ≥ moment, ∀ target slot,
    (server.respond later (.delete target) slot).1 = none ∨
      ∃ text, (server.respond later (.delete target) slot).1 = some (.api 404 text)

private theorem exists_key_of_deletionTarget {target : Target}
    (deletes : deletionTarget manifest space = .ok (some target)) :
    ∃ key, target.key? = some key := by
  obtain same | ⟨absurd, -⟩ := deletionTarget_ok deletes
  · unfold deletionTarget at deletes
    obtain ⟨metadata, read, deletes⟩ := exists_of_bind_eq_ok deletes
    rcases presentText_eq_none_or metadata.name with missing | ⟨name, present, -⟩
    · rw [missing] at deletes
      cases deletes
    · exact ⟨_, by rw [Target.key?, creationTarget_name read same, present]; rfl⟩
  · cases absurd

private theorem moment_of_answer (server : LingeringServer ν) (request : Request)
    (objects : LingeringObjects ν) :
    (server.api.answer request objects).2.moment = objects.moment + 1 := by
  cases addressed : request.target.key? with
  | none => simp [api, addressed]
  | some key => simp [api, addressed]

private theorem delete_ok {moment : Nat} (quiet : server.DeletesFrom moment)
    {target? : Option Target} (deletes : deletionTarget manifest space = .ok target?)
    (later : moment ≤ objects.moment) :
    (deleteSingleManifest server.api true manifest space objects).1 = .ok () := by
  have answers (target : Target) (addresses : target? = some target) :
      (server.api.answer (.delete target) objects).1 = none ∨
        ∃ text, (server.api.answer (.delete target) objects).1 = some (.api 404 text) := by
    subst addresses
    obtain ⟨key, addressed⟩ := exists_key_of_deletionTarget deletes
    rw [answer_result server (show (Request.delete target).target.key? = some key from addressed)]
    exact quiet objects.moment later target _
  unfold deletionTarget at deletes
  unfold deleteSingleManifest
  obtain ⟨metadata, read, deletes⟩ := exists_of_bind_eq_ok deletes
  simp only [read]
  rcases presentText_eq_none_or metadata.name with missing | ⟨name, present, -⟩
  · rw [missing]
  · rw [present] at deletes ⊢
    dsimp only at deletes ⊢
    rw [deletes]
    cases target? with
    | none => rfl
    | some target =>
        have answered := answers target rfl
        dsimp only
        rcases deleted : server.api.answer (.delete target) objects with ⟨refusal?, after⟩
        rw [deleted] at answered
        rcases answered with accepted | ⟨text, absent⟩
        · obtain rfl : refusal? = none := accepted
          rfl
        · obtain rfl : refusal? = some (.api 404 text) := absent
          simp

theorem deleteManifestFromUrl_ok {moment : Nat} (quiet : server.DeletesFrom moment)
    (served : web.fault objects.moment url = none) (deletable : web.Deletable url space)
    (later : moment ≤ objects.moment) :
    (deleteManifestFromUrl server.api web.fetch url true space objects).1 = .ok () := by
  obtain ⟨⟨documents, read⟩, addressed⟩ := deletable
  rw [Web.manifests, read] at addressed
  have fetched : web.fetch url objects = (.ok documents, objects.next) := by
    rw [Web.fetch, served, read]
  simp only [deleteManifestFromUrl, withManifests, fetched]
  rw [mapError_eq_ok_iff]
  let holds (state : LingeringObjects ν) : Prop := moment ≤ state.moment
  suffices step : ∀ manifest ∈ (expandAndValidateManifests documents).reverse, ∀ state,
      holds state → (deleteSingleManifest server.api true manifest space state).1 = .ok () ∧
        holds (deleteSingleManifest server.api true manifest space state).2 from
    forEach_ok step (show holds objects.next from Nat.le_succ_of_le later)
  intro manifest member state reached
  obtain ⟨target?, deletes⟩ := addressed manifest (List.mem_reverse.mp member)
  refine ⟨delete_ok quiet deletes reached, deleteSingleManifest_keeps holds ?_ reached⟩
  intro target _ before kept
  exact (Nat.le_succ_of_le kept).trans_eq (moment_of_answer server (.delete target) before).symm

/-- What has once been applied can be deleted. -/
theorem deletable_of_applied {space : Text} (nonempty : space ≠ [])
    (returned : (applyManifestFromUrl server.api web.fetch url (some space) objects).1 = .ok ()) :
    web.Deletable url (some space) := by
  unfold applyManifestFromUrl at returned
  rcases web.withManifests_cases (lit "applying") url
      (forEach fun manifest => applySingleManifest server.api manifest (some space)) objects with
    ⟨raised, -⟩ | ⟨read, returns, -⟩
  · exact absurd returned raised
  · refine ⟨read, fun manifest member => ?_⟩
    let kept (_ : LingeringObjects ν) : Prop := True
    have keeps : ∀ manifest ∈ web.manifests url, ∀ state, kept state →
        kept (applySingleManifest server.api manifest (some space) state).2 :=
      fun _ _ _ _ => trivial
    refine forEach_establishes (fun manifest _ =>
      ∃ target?, deletionTarget manifest (some space) = .ok target?) keeps ?_
      (fun _ _ _ _ _ _ _ known => known) trivial (returns.mp returned) manifest member
    intro next _ state _ applied
    obtain ⟨target?, creates⟩ := exists_creationTarget applied
    exact exists_deletionTarget_of_created nonempty creates

/-! ## Objects that go at once -/

section Prompt

variable (merge : Manifest → Manifest → Manifest)

def promptResponse (_ : Nat) : Request → Option Manifest → Option Refusal × Option Manifest
  | .create _ body, none => (none, some body)
  | .create _ _, some object => (some (.api 409 (lit "AlreadyExists")), some object)
  | .patch _ body, some object => (none, some (merge object body))
  | .patch _ _, none => (some (.api 404 (lit "NotFound")), none)
  | .delete _, some _ => (none, none)
  | .delete _, none => (some (.api 404 (lit "NotFound")), none)

def promptUnnamed (_ : Nat) : Request → Refusal
  | .create _ _ => .api 422 nameRequired
  | .patch _ _ => .other missingName
  | .delete _ => .other missingName

/-- A server on which no deletion is ever in progress. -/
def prompt : LingeringServer Manifest where
  terminating _ := false
  vanishes _ _ := false
  respond := promptResponse merge
  unnamed := promptUnnamed
  writes_settled _ _ _ _ _ := fun _ _ => rfl
  writes_keep _ request slot writes present := by
    cases request with
    | delete target => exact writes.elim
    | create target body => cases slot <;> rfl
    | patch target body => cases slot <;> first | rfl | exact present
  writes_accepted _ request slot writes accepted := by
    cases request with
    | delete target => exact writes.elim
    | create target body => cases slot <;> rfl
    | patch target body =>
        cases slot with
        | none => cases accepted
        | some object => rfl
  deletes_recede _ _ slot := by
    intro object found
    cases slot <;> cases found
  deletes_accepted _ _ slot _ := by
    rintro ⟨object, found, -⟩
    cases slot <;> cases found

private theorem prompt_remaining (objects : LingeringObjects Manifest) :
    (prompt merge).remaining objects = objects.slots := by
  funext key
  unfold remaining
  cases objects.slots key with
  | none => rfl
  | some object => rfl

/-- The object store is this server. -/
theorem prompt_answer (request : Request) (objects : Store ObjectKey Manifest) (moment : Nat) :
    (prompt merge).api.answer request ⟨objects.get?, moment⟩ =
      (((objectStore merge).answer request objects).1,
        ⟨((objectStore merge).answer request objects).2.get?, moment + 1⟩) := by
  have unchanged {key : ObjectKey} {found : Option Manifest} (here : objects.get? key = found) :
      Function.update objects.get? key found = objects.get? := by
    rw [← here, Function.update_eq_self]
  simp only [api, prompt_remaining]
  cases request with
  | create target body =>
      cases addressed : target.key? with
      | none => simp [Request.target, addressed, objectStore, prompt, promptUnnamed]
      | some key =>
          cases found : objects.get? key with
          | none => simp [Request.target, addressed, objectStore, found, prompt, promptResponse,
              Store.get?_put]
          | some old => simp [Request.target, addressed, objectStore, found, prompt,
              promptResponse, unchanged found]
  | patch target body =>
      cases addressed : target.key? with
      | none => simp [Request.target, addressed, objectStore, prompt, promptUnnamed]
      | some key =>
          cases found : objects.get? key with
          | none => simp [Request.target, addressed, objectStore, found, prompt, promptResponse,
              unchanged found]
          | some old => simp [Request.target, addressed, objectStore, found, prompt,
              promptResponse, Store.get?_put]
  | delete target =>
      cases addressed : target.key? with
      | none => simp [Request.target, addressed, objectStore, prompt, promptUnnamed]
      | some key =>
          cases found : objects.get? key with
          | none => simp [Request.target, addressed, objectStore, found, prompt, promptResponse,
              unchanged found]
          | some old => simp [Request.target, addressed, objectStore, found, prompt,
              promptResponse, Store.get?_erase]

end Prompt

/-! ## Objects that stay for a while -/

structure Stored where
  body : Manifest
  leaving : Bool

section Slow

variable (merge : Manifest → Manifest → Manifest) (vanishes : Nat → ObjectKey → Bool)

def slowResponse (_ : Nat) : Request → Option Stored → Option Refusal × Option Stored
  | .create _ body, none => (none, some ⟨body, false⟩)
  | .create _ _, some object => (some (.api 409 (lit "AlreadyExists")), some object)
  | .patch _ body, some object => (none, some { object with body := merge object.body body })
  | .patch _ _, none => (some (.api 404 (lit "NotFound")), none)
  | .delete _, some object => (none, some { object with leaving := true })
  | .delete _, none => (some (.api 404 (lit "NotFound")), none)

/-- A server on which a deletion only begins when it is accepted. -/
def slow : LingeringServer Stored where
  terminating := Stored.leaving
  vanishes := vanishes
  respond := slowResponse merge
  unnamed := promptUnnamed
  writes_settled _ request slot writes settled := by
    cases request with
    | delete target => exact writes.elim
    | create target body =>
        cases slot with
        | none => exact fun object found => by cases found; rfl
        | some stored => exact settled
    | patch target body =>
        cases slot with
        | none => exact settled
        | some stored =>
            intro object found
            cases found
            exact settled stored rfl
  writes_keep _ request slot writes present := by
    cases request with
    | delete target => exact writes.elim
    | create target body => cases slot <;> rfl
    | patch target body => cases slot <;> first | rfl | exact present
  writes_accepted _ request slot writes accepted := by
    cases request with
    | delete target => exact writes.elim
    | create target body => cases slot <;> rfl
    | patch target body =>
        cases slot with
        | none => cases accepted
        | some stored => rfl
  deletes_recede _ _ slot := by
    intro object found
    cases slot with
    | none => cases found
    | some stored =>
        cases found
        exact .inr ⟨rfl, rfl⟩
  deletes_accepted _ _ slot _ := by
    rintro ⟨object, found, stays⟩
    cases slot with
    | none => cases found
    | some stored =>
        cases found
        cases stays

end Slow

end LingeringServer

end Telescope.Kubernetes
