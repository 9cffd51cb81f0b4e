import Telescope.Kwok.Node

namespace Telescope.Kwok

open Telescope Telescope.Kubernetes

/-! What every run of `create` and `tear_down` does to the nodes and slices. -/

theorem nodeKey_injective : Function.Injective nodeKey := by
  intro first second same
  have names := ClusterKey.node.inj same
  exact natText_injective (List.append_cancel_left names)

theorem sliceKey_injective : Function.Injective sliceKey := by
  intro first second same
  have names := ClusterKey.resourceSlice.inj same
  exact natText_injective (List.append_cancel_left names)

theorem sliceKey_ne_nodeKey (slice node : Nat) : sliceKey slice ≠ nodeKey node :=
  fun same => nomatch same

namespace Node

/-- The key is not one of the first nodes and slices that this configuration creates. -/
def Foreign (node : Node) (nodes slices : Nat) (key : ClusterKey) : Prop :=
  (∀ index < nodes, key ≠ nodeKey index) ∧
    (node.enableDra = true → ∀ index < slices, key ≠ sliceKey index)

structure PartlyCreated (node : Node) (before after : Objects) : Prop where
  nodes : ∀ index < node.nodeCount, after.get? (nodeKey index) = before.get? (nodeKey index) ∨
    ∃ body, node.kwokTemplate index = .ok body ∧ after.get? (nodeKey index) = some body
  slices : node.enableDra = true → ∀ index < node.nodeCount,
    after.get? (sliceKey index) = before.get? (sliceKey index) ∨
      (before.get? (sliceKey index) = none ∧ ∃ body,
        node.resourceSliceTemplate index = .ok body ∧
          after.get? (sliceKey index) = some body)
  others : ∀ key, node.Foreign node.nodeCount node.nodeCount key →
    after.get? key = before.get? key

/-- The first nodes and slices have all been created; slices that were there before are
kept. -/
structure Created (node : Node) (nodeCount sliceCount : Nat) (before after : Objects) :
    Prop where
  nodes : ∀ index < nodeCount, ∃ body, node.kwokTemplate index = .ok body ∧
    after.get? (nodeKey index) = some body
  slices : node.enableDra = true → ∀ index < sliceCount, ∃ body,
    node.resourceSliceTemplate index = .ok body ∧
      after.get? (sliceKey index) = some ((before.get? (sliceKey index)).getD body)
  others : ∀ key, node.Foreign nodeCount sliceCount key → after.get? key = before.get? key

/-! ## The requests of one index -/

/-- However its attempts go, the creation of a node only puts its body, and has done so
when it returns. -/
theorem createNodeAt_spec (run : CreateRun) (index : Nat) (body : Text)
    (objects : Objects) :
    MayPut false (nodeKey index) body objects
        (createNodeAt run index body objects).state ∧
      ((createNodeAt run index body objects).result = .ok () →
        (createNodeAt run index body objects).state.get? (nodeKey index) = some body) := by
  have kept (attempt : Nat) (state : Objects)
      (reached : MayPut false (nodeKey index) body objects state) :
      MayPut false (nodeKey index) body objects
        (createNode (run.nodeFaults index) (nodeName index) body attempt state).2 :=
    reached.trans (createNode_mayPut _ _ _ _ _)
  exact executeWithRetries_post kept
    (fun result state => MayPut false (nodeKey index) body objects state ∧
      (result = .ok () → state.get? (nodeKey index) = some body))
    (MayPut.refl objects)
    fun attempt before reached => ⟨kept attempt before reached, createNode_ok⟩

theorem createSliceAt_spec (run : CreateRun) (index : Nat) (body : Text)
    (objects : Objects) :
    MayPut true (sliceKey index) body objects
        (createSliceAt run index body objects).state ∧
      ((createSliceAt run index body objects).result = .ok () →
        (createSliceAt run index body objects).state.get? (sliceKey index) ≠ none) := by
  have kept (attempt : Nat) (state : Objects)
      (reached : MayPut true (sliceKey index) body objects state) :
      MayPut true (sliceKey index) body objects
        (createResourceSlice (run.sliceFaults index) (resourceSliceName index) body
          attempt state).2 :=
    reached.trans (createResourceSlice_mayPut _ _ _ _ _)
  exact executeWithRetries_post kept
    (fun result state => MayPut true (sliceKey index) body objects state ∧
      (result = .ok () → state.get? (sliceKey index) ≠ none))
    (MayPut.refl objects)
    fun attempt before reached => ⟨kept attempt before reached, createResourceSlice_ok⟩

/-- Every way in which an iteration of `create` ends. -/
theorem createAt_cases (node : Node) (run : CreateRun) (index : Nat) (objects : Objects) :
    (∃ error, node.kwokTemplate index = .error error ∧
        node.createAt run index objects = (.error error, objects)) ∨
      ∃ body, node.kwokTemplate index = .ok body ∧
        ((∃ error, node.createAt run index objects =
            (.error error, (createNodeAt run index body objects).state)) ∨
          ((createNodeAt run index body objects).result = .ok () ∧
            ((node.enableDra = false ∧ node.createAt run index objects =
                (.ok (), (createNodeAt run index body objects).state)) ∨
              (node.enableDra = true ∧ ∃ sliceBody,
                node.resourceSliceTemplate index = .ok sliceBody ∧
                  node.createAt run index objects =
                    ((createSliceAt run index sliceBody
                        (createNodeAt run index body objects).state).result,
                      (createSliceAt run index sliceBody
                        (createNodeAt run index body objects).state).state))))) := by
  unfold createAt
  cases node.kwokTemplate index with
  | error error => exact .inl ⟨error, rfl, rfl⟩
  | ok body =>
      refine .inr ⟨body, rfl, ?_⟩
      dsimp only
      cases (createNodeAt run index body objects).result with
      | error error => exact .inl ⟨error, rfl⟩
      | ok value =>
          cases node.enableDra with
          | false => exact .inr ⟨rfl, .inl ⟨rfl, rfl⟩⟩
          | true =>
              cases node.resourceSliceTemplate index with
              | error error => exact .inl ⟨error, rfl⟩
              | ok sliceBody => exact .inr ⟨rfl, .inr ⟨rfl, sliceBody, rfl, rfl⟩⟩

/-! ## Every run of `create` -/

namespace PartlyCreated

variable {node : Node} {before after later : Objects} {index : Nat} {body : Text}

theorem refl (node : Node) (objects : Objects) : node.PartlyCreated objects objects :=
  ⟨fun _ _ => .inl rfl, fun _ _ _ => .inl rfl, fun _ _ => rfl⟩

theorem putNode (partly : node.PartlyCreated before after) (below : index < node.nodeCount)
    (template : node.kwokTemplate index = .ok body)
    (put : MayPut false (nodeKey index) body after later) :
    node.PartlyCreated before later where
  nodes other otherBelow := by
    by_cases same : other = index
    · subst same
      rcases put.here with unchanged | ⟨-, present⟩
      · rw [unchanged]
        exact partly.nodes other otherBelow
      · exact .inr ⟨body, template, present⟩
    · rw [put.elsewhere _ (nodeKey_injective.ne same)]
      exact partly.nodes other otherBelow
  slices enabled other otherBelow := by
    rw [put.elsewhere _ (sliceKey_ne_nodeKey other index)]
    exact partly.slices enabled other otherBelow
  others key isForeign := by
    rw [put.elsewhere _ (isForeign.1 index below)]
    exact partly.others key isForeign

theorem putSlice (partly : node.PartlyCreated before after) (below : index < node.nodeCount)
    (enabled : node.enableDra = true)
    (template : node.resourceSliceTemplate index = .ok body)
    (put : MayPut true (sliceKey index) body after later) :
    node.PartlyCreated before later where
  nodes other otherBelow := by
    rw [put.elsewhere _ (sliceKey_ne_nodeKey index other).symm]
    exact partly.nodes other otherBelow
  slices _ other otherBelow := by
    by_cases same : other = index
    · subst same
      rcases put.here with unchanged | ⟨absent, present⟩
      · rw [unchanged]
        exact partly.slices enabled other otherBelow
      · refine .inr ⟨?_, body, template, present⟩
        rcases partly.slices enabled other otherBelow with kept | ⟨fresh, -⟩
        · rw [← kept]
          exact absent rfl
        · exact fresh
    · rw [put.elsewhere _ (sliceKey_injective.ne same)]
      exact partly.slices enabled other otherBelow
  others key isForeign := by
    rw [put.elsewhere _ (isForeign.2 enabled index below)]
    exact partly.others key isForeign

theorem createAt (partly : node.PartlyCreated before after)
    (below : index < node.nodeCount) (run : CreateRun) :
    node.PartlyCreated before (node.createAt run index after).2 := by
  rcases node.createAt_cases run index after with
    ⟨error, -, ended⟩ | ⟨body, template, ended⟩
  · rw [ended]
    exact partly
  · have created := partly.putNode below template (createNodeAt_spec run index body after).1
    rcases ended with ⟨error, ended⟩ | ⟨-, ⟨-, ended⟩ | ⟨enabled, sliceBody, sliceTemplate, ended⟩⟩
    · rw [ended]
      exact created
    · rw [ended]
      exact created
    · rw [ended]
      exact created.putSlice below enabled sliceTemplate (createSliceAt_spec _ _ _ _).1

end PartlyCreated

/-- Wherever `create` stops, some of its objects have been created and nothing else has
changed. -/
theorem create_partlyCreated (node : Node) (run : CreateRun) (objects : Objects) :
    node.PartlyCreated objects (node.create run objects).2 := by
  unfold create
  cases run.setup with
  | error error => exact PartlyCreated.refl node objects
  | ok value =>
      have looped : node.PartlyCreated objects
          (forEach (node.createAt run) (List.range node.nodeCount) objects).2 :=
        forEach_invariant (fun index member _ partly =>
          partly.createAt (List.mem_range.mp member) run) (PartlyCreated.refl node objects)
      dsimp only
      rcases ended : forEach (node.createAt run) (List.range node.nodeCount) objects with
        ⟨result, after⟩
      rw [ended] at looped
      cases result with
      | ok value => exact looped
      | error error => exact looped

/-! ## A run of `create` that returns -/

namespace Created

variable {node : Node} {before after later : Objects} {nodeCount sliceCount : Nat}
  {body : Text}

theorem nil (node : Node) (objects : Objects) : node.Created 0 0 objects objects :=
  ⟨fun _ below => absurd below (Nat.not_lt_zero _),
    fun _ _ below => absurd below (Nat.not_lt_zero _), fun _ _ => rfl⟩

theorem putNode (created : node.Created nodeCount sliceCount before after)
    (template : node.kwokTemplate nodeCount = .ok body)
    (put : MayPut false (nodeKey nodeCount) body after later)
    (present : later.get? (nodeKey nodeCount) = some body) :
    node.Created (nodeCount + 1) sliceCount before later where
  nodes index below := by
    rcases Nat.lt_succ_iff_lt_or_eq.mp below with lower | rfl
    · rw [put.elsewhere _ (nodeKey_injective.ne (Nat.ne_of_lt lower))]
      exact created.nodes index lower
    · exact ⟨body, template, present⟩
  slices enabled index below := by
    rw [put.elsewhere _ (sliceKey_ne_nodeKey index nodeCount)]
    exact created.slices enabled index below
  others key isForeign := by
    rw [put.elsewhere _ (isForeign.1 nodeCount (Nat.lt_succ_self nodeCount))]
    exact created.others key
      ⟨fun index below => isForeign.1 index (Nat.lt_succ_of_lt below), isForeign.2⟩

theorem putSlice (created : node.Created nodeCount sliceCount before after)
    (enabled : node.enableDra = true)
    (template : node.resourceSliceTemplate sliceCount = .ok body)
    (put : MayPut true (sliceKey sliceCount) body after later)
    (present : later.get? (sliceKey sliceCount) ≠ none) :
    node.Created nodeCount (sliceCount + 1) before later where
  nodes index below := by
    rw [put.elsewhere _ (sliceKey_ne_nodeKey sliceCount index).symm]
    exact created.nodes index below
  slices _ index below := by
    rcases Nat.lt_succ_iff_lt_or_eq.mp below with lower | rfl
    · rw [put.elsewhere _ (sliceKey_injective.ne (Nat.ne_of_lt lower))]
      exact created.slices enabled index lower
    · have untouched : after.get? (sliceKey index) = before.get? (sliceKey index) :=
        created.others _ ⟨fun other _ => sliceKey_ne_nodeKey index other,
          fun _ other lower => sliceKey_injective.ne (Nat.ne_of_gt lower)⟩
      refine ⟨body, template, ?_⟩
      rw [← untouched]
      rcases put.here with kept | ⟨absent, put⟩
      · rw [kept] at present ⊢
        obtain ⟨old, found⟩ := Option.ne_none_iff_exists'.mp present
        rw [found]
        rfl
      · rw [absent rfl, put]
        rfl
  others key isForeign := by
    rw [put.elsewhere _ (isForeign.2 enabled sliceCount (Nat.lt_succ_self sliceCount))]
    exact created.others key ⟨isForeign.1, fun enabled index below =>
      isForeign.2 enabled index (Nat.lt_succ_of_lt below)⟩

private theorem skipSlice (created : node.Created nodeCount sliceCount before after)
    (disabled : node.enableDra = false) :
    node.Created nodeCount (sliceCount + 1) before after where
  nodes := created.nodes
  slices enabled := by
    rw [disabled] at enabled
    exact nomatch enabled
  others key isForeign := created.others key ⟨isForeign.1, fun enabled => by
    rw [disabled] at enabled
    exact nomatch enabled⟩

theorem createAt {count : Nat} (created : node.Created count count before after)
    {run : CreateRun} (returned : (node.createAt run count after).1 = .ok ()) :
    node.Created (count + 1) (count + 1) before (node.createAt run count after).2 := by
  rcases node.createAt_cases run count after with
    ⟨error, -, ended⟩ | ⟨body, template, ended⟩
  · rw [ended] at returned
    exact nomatch returned
  · obtain ⟨put, present⟩ := createNodeAt_spec run count body after
    rcases ended with ⟨error, ended⟩ |
      ⟨succeeded, ⟨disabled, ended⟩ | ⟨enabled, sliceBody, sliceTemplate, ended⟩⟩
    · rw [ended] at returned
      exact nomatch returned
    · rw [ended]
      exact (created.putNode template put (present succeeded)).skipSlice disabled
    · rw [ended] at returned ⊢
      obtain ⟨slicePut, slicePresent⟩ := createSliceAt_spec run count sliceBody
        (createNodeAt run count body after).state
      exact (created.putNode template put (present succeeded)).putSlice enabled
        sliceTemplate slicePut (slicePresent returned)

theorem loop {count : Nat} {run : CreateRun} {objects : Objects}
    (returned : (forEach (node.createAt run) (List.range count) objects).1 = .ok ()) :
    node.Created count count objects
      (forEach (node.createAt run) (List.range count) objects).2 := by
  induction count with
  | zero => exact nil node objects
  | succ count induction =>
      rw [List.range_succ, forEach_append] at returned ⊢
      rcases ended : forEach (node.createAt run) (List.range count) objects with
        ⟨result, after⟩
      rw [ended] at returned induction
      cases result with
      | error error => cases returned
      | ok value =>
          have step : (node.createAt run count after).1 = .ok () →
              node.Created (count + 1) (count + 1) objects
                (node.createAt run count after).2 := (induction rfl).createAt
          simp only [forEach] at returned ⊢
          rcases stepped : node.createAt run count after with ⟨outcome, final⟩
          rw [stepped] at step returned
          cases outcome with
          | error error => cases returned
          | ok value => exact step rfl

end Created

/-- A run of `create` that returns has created every node and slice. -/
theorem create_created {node : Node} {run : CreateRun} {objects : Objects}
    (returned : (node.create run objects).1 = .ok ()) :
    node.Created node.nodeCount node.nodeCount objects (node.create run objects).2 := by
  unfold create at returned ⊢
  cases setup : run.setup with
  | error error => simp [setup] at returned
  | ok value =>
      simp only [setup] at returned ⊢
      have looped := @Created.loop node node.nodeCount run objects
      rcases ended : forEach (node.createAt run) (List.range node.nodeCount) objects with
        ⟨result, after⟩
      rw [ended] at returned looped
      cases result with
      | error error => exact nomatch returned
      | ok value => exact looped rfl

private theorem own_or_foreign (node : Node) (key : ClusterKey) :
    (∃ index < node.nodeCount, key = nodeKey index) ∨
      (node.enableDra = true ∧ ∃ index < node.nodeCount, key = sliceKey index) ∨
        node.Foreign node.nodeCount node.nodeCount key := by
  by_cases isNode : ∃ index < node.nodeCount, key = nodeKey index
  · exact .inl isNode
  · by_cases isSlice : node.enableDra = true ∧ ∃ index < node.nodeCount, key = sliceKey index
    · exact .inr (.inl isSlice)
    · refine .inr (.inr ⟨fun index below same => isNode ⟨index, below, same⟩, ?_⟩)
      exact fun enabled index below same => isSlice ⟨enabled, index, below, same⟩

/-- Two complete creations from the same objects agree on every object. -/
theorem Created.get?_eq {node : Node} {before first second : Objects}
    (left : node.Created node.nodeCount node.nodeCount before first)
    (right : node.Created node.nodeCount node.nodeCount before second) (key : ClusterKey) :
    first.get? key = second.get? key := by
  rcases node.own_or_foreign key with ⟨index, below, rfl⟩ | ⟨enabled, index, below, rfl⟩ | isForeign
  · obtain ⟨body, template, found⟩ := left.nodes index below
    obtain ⟨other, otherTemplate, otherFound⟩ := right.nodes index below
    rw [template] at otherTemplate
    cases otherTemplate
    rw [found, otherFound]
  · obtain ⟨body, template, found⟩ := left.slices enabled index below
    obtain ⟨other, otherTemplate, otherFound⟩ := right.slices enabled index below
    rw [template] at otherTemplate
    cases otherTemplate
    rw [found, otherFound]
  · rw [left.others key isForeign, right.others key isForeign]

/-- Completing a partial creation completes the creation. -/
theorem PartlyCreated.completed {node : Node} {before between after : Objects}
    (partly : node.PartlyCreated before between)
    (created : node.Created node.nodeCount node.nodeCount between after) :
    node.Created node.nodeCount node.nodeCount before after where
  nodes := created.nodes
  slices enabled index below := by
    obtain ⟨body, template, found⟩ := created.slices enabled index below
    refine ⟨body, template, ?_⟩
    rcases partly.slices enabled index below with kept | ⟨absent, made, madeTemplate, present⟩
    · rw [found, kept]
    · rw [template] at madeTemplate
      cases madeTemplate
      rw [found, present, absent]
      rfl
  others key isForeign :=
    (created.others key isForeign).trans (partly.others key isForeign)

/-! ## A run of `create` without faults -/

structure CreateRun.Clean (run : CreateRun) : Prop where
  setup : run.setup = .ok ()
  creates : ∀ index attempt, (run.nodeFaults index).create attempt = none
  replaces : ∀ index attempt, (run.nodeFaults index).replace attempt = none
  slices : ∀ index attempt, run.sliceFaults index attempt = none

private theorem createAt_ok_iff {node : Node} {run : CreateRun} (clean : run.Clean) (index : Nat)
    (objects : Objects) :
    (node.createAt run index objects).1 = .ok () ↔
      (∃ body, node.kwokTemplate index = .ok body) ∧
        (node.enableDra = true → ∃ body, node.resourceSliceTemplate index = .ok body) := by
  have nodeCreated (body : Text) : (createNodeAt run index body objects).result = .ok () := by
    obtain ⟨value, returned⟩ := @executeWithRetries_ok _ _ _
      (createNode (run.nodeFaults index) (nodeName index) body) backoffTime (fun _ => True)
      (fun _ _ _ => trivial) maxRetries objects trivial
      ⟨0, Nat.zero_le _, fun before _ => ⟨(), createNode_returns (clean.creates index 0)
        (clean.replaces index 0) _ _ before⟩⟩
    exact returned
  have sliceCreated (body : Text) (between : Objects) :
      (createSliceAt run index body between).result = .ok () := by
    obtain ⟨value, returned⟩ := @executeWithRetries_ok _ _ _
      (createResourceSlice (run.sliceFaults index) (resourceSliceName index) body)
      backoffTime (fun _ => True) (fun _ _ _ => trivial) maxRetries between trivial
      ⟨0, Nat.zero_le _, fun before _ => ⟨(), createResourceSlice_returns
        (clean.slices index 0) _ _ before⟩⟩
    exact returned
  unfold createAt
  cases node.kwokTemplate index with
  | error error => simp
  | ok body =>
      simp only [nodeCreated]
      cases node.enableDra with
      | false => simp
      | true =>
          cases node.resourceSliceTemplate index with
          | error error => simp
          | ok sliceBody => simp [sliceCreated]

/-- Whether a clean run returns does not depend on the objects that it meets. -/
theorem create_ok_iff {node : Node} {run : CreateRun} (clean : run.Clean)
    (objects : Objects) :
    (node.create run objects).1 = .ok () ↔ ∀ index ∈ List.range node.nodeCount,
      (∃ body, node.kwokTemplate index = .ok body) ∧
        (node.enableDra = true → ∃ body, node.resourceSliceTemplate index = .ok body) := by
  rw [← forEach_ok_iff (fun index _ state => createAt_ok_iff clean index state) objects]
  unfold create
  rw [clean.setup]
  dsimp only
  rcases forEach (node.createAt run) (List.range node.nodeCount) objects with ⟨result, after⟩
  cases result with
  | ok value => simp
  | error error => simp

/-! ## Tearing down -/

/-- Every deletion succeeds or finds nothing within its retries. -/
structure TearDownRun.WithinBudget (run : TearDownRun) (node : Node) : Prop where
  nodes : ∀ index < node.nodeCount, ∃ attempt ≤ maxRetries,
    run.nodeFaults index attempt = none
  slices : node.enableDra = true → ∀ index < node.nodeCount, ∃ attempt ≤ maxRetries,
    run.sliceFaults index attempt = none

theorem retried_deletion {what name : Text} {faults : Nat → Option Fault} {key : ClusterKey}
    (budget : ∃ attempt ≤ maxRetries, faults attempt = none) (objects : Objects) :
    (executeWithRetries (deleteByName what faults key name) backoffTime maxRetries
        objects).result = .ok () ∧
      (executeWithRetries (deleteByName what faults key name) backoffTime maxRetries
        objects).state = objects.erase key := by
  have kept (attempt : Nat) (state : Objects)
      (reached : state = objects ∨ state = objects.erase key) :
      (deleteByName what faults key name attempt state).2 = objects ∨
        (deleteByName what faults key name attempt state).2 = objects.erase key := by
    rcases deleteByName_mayErase what faults key name attempt state with same | erased
    · rw [same]
      exact reached
    · rw [erased]
      rcases reached with rfl | rfl
      · exact .inr rfl
      · exact .inr (objects.erase_erase key)
  obtain ⟨attempt, within, faultless⟩ := budget
  obtain ⟨value, returned⟩ := @executeWithRetries_ok _ _ _
    (deleteByName what faults key name) backoffTime
    (fun state => state = objects ∨ state = objects.erase key) kept maxRetries objects (.inl rfl)
    ⟨attempt, within, fun before _ => ⟨(), deleteByName_returns faultless _ _ _ before⟩⟩
  refine ⟨returned, ?_⟩
  refine executeWithRetries_post kept
    (fun result state => result = .ok () → state = objects.erase key) (.inl rfl) ?_ returned
  intro attempt before reached deleted
  rw [deleteByName_ok deleted]
  rcases reached with rfl | rfl
  · rfl
  · exact objects.erase_erase key

def ownKeysAt (node : Node) (index : Nat) : List ClusterKey :=
  nodeKey index :: if node.enableDra then [sliceKey index] else []

/-- The keys of the nodes and slices that a teardown deletes. -/
def ownKeys (node : Node) : List ClusterKey :=
  (List.range node.nodeCount).flatMap node.ownKeysAt

theorem mem_ownKeys {node : Node} {key : ClusterKey} :
    key ∈ node.ownKeys ↔ (∃ index < node.nodeCount, key = nodeKey index) ∨
      (node.enableDra = true ∧ ∃ index < node.nodeCount, key = sliceKey index) := by
  simp only [ownKeys, ownKeysAt, List.mem_flatMap, List.mem_range, List.mem_cons]
  cases node.enableDra with
  | false => simp
  | true => simp [and_or_left, exists_or]

theorem tearDown_eq {node : Node} {run : TearDownRun} (budget : run.WithinBudget node)
    (objects : Objects) :
    node.tearDown run objects = (.ok (), objects.eraseAll node.ownKeys) := by
  have step : ∀ index ∈ List.range node.nodeCount, ∀ state : Objects,
      node.tearDownAt run index state = (.ok (), state.eraseAll (node.ownKeysAt index)) := by
    intro index member state
    have below := List.mem_range.mp member
    obtain ⟨deleted, erased⟩ : (executeWithRetries
          (deleteNode (run.nodeFaults index) (nodeName index)) backoffTime maxRetries
          state).result = .ok () ∧
        (executeWithRetries (deleteNode (run.nodeFaults index) (nodeName index))
          backoffTime maxRetries state).state = state.erase (nodeKey index) :=
      retried_deletion (budget.nodes index below) state
    unfold tearDownAt ownKeysAt
    simp only [deleted, erased]
    cases enabled : node.enableDra with
    | false => rfl
    | true =>
        have sliceErased : (executeWithRetries
            (deleteResourceSlice (run.sliceFaults index) (resourceSliceName index))
            backoffTime maxRetries (state.erase (nodeKey index))).state =
              (state.erase (nodeKey index)).erase (sliceKey index) :=
          (retried_deletion (budget.slices enabled index below) _).2
        simp only [if_true, sliceErased]
        rfl
  rw [tearDown, forEach_eq_foldl step, ownKeys, Store.eraseAll, List.foldl_flatMap]
  rfl

/-- After any run of `create`, a teardown whose deletions succeed within their retries
returns, leaves none of the nodes and slices that `create` makes, deletes nothing else,
and changes nothing when repeated; and a later run of `create` that returns leaves the
objects of a run on the original cluster, which a run without faults does whenever that
one returns.  Without DRA neither call touches a slice. -/
theorem tear_down_undoes_create (node : Node) (run : CreateRun) (objects : Objects)
    (teardown again : TearDownRun) (budget : teardown.WithinBudget node)
    (budgetAgain : again.WithinBudget node) :
    let stopped := (node.create run objects).2
    let down := node.tearDown teardown stopped
    down.1 = .ok () ∧
      (∀ index < node.nodeCount, down.2.get? (nodeKey index) = none ∧
        (node.enableDra = true ∨ objects.get? (sliceKey index) = none →
          down.2.get? (sliceKey index) = none)) ∧
      (∀ key, (∀ index < node.nodeCount, key ≠ nodeKey index ∧ key ≠ sliceKey index) →
        down.2.get? key = stopped.get? key ∧ down.2.get? key = objects.get? key) ∧
      node.tearDown again down.2 = (.ok (), down.2) ∧
      (∀ rerun clean, (node.create rerun stopped).1 = .ok () →
        (node.create clean objects).1 = .ok () → ∀ key,
          (node.create rerun stopped).2.get? key = (node.create clean objects).2.get? key) ∧
      ∀ clean : CreateRun, clean.Clean →
        ((node.create clean stopped).1 = .ok () ↔ (node.create clean objects).1 = .ok ()) := by
  intro stopped down
  have partly : node.PartlyCreated objects stopped := node.create_partlyCreated run objects
  have torn : down = (.ok (), stopped.eraseAll node.ownKeys) := tearDown_eq budget stopped
  have gone : ∀ key ∈ node.ownKeys, (stopped.eraseAll node.ownKeys).get? key = none :=
    fun key member => Store.get?_eraseAll_of_mem member stopped
  rw [torn]
  refine ⟨rfl, ?_, ?_, ?_, ?_, ?_⟩
  · intro index below
    refine ⟨gone _ (mem_ownKeys.mpr (.inl ⟨index, below, rfl⟩)), fun covered => ?_⟩
    cases enabled : node.enableDra with
    | true => exact gone _ (mem_ownKeys.mpr (.inr ⟨enabled, index, below, rfl⟩))
    | false =>
        have isForeign : node.Foreign node.nodeCount node.nodeCount (sliceKey index) :=
          ⟨fun other _ => sliceKey_ne_nodeKey index other, by simp [enabled]⟩
        have notOwn : sliceKey index ∉ node.ownKeys := by
          rw [mem_ownKeys]
          rintro (⟨other, -, same⟩ | ⟨isEnabled, -⟩)
          · exact sliceKey_ne_nodeKey index other same
          · rw [enabled] at isEnabled
            exact nomatch isEnabled
        rw [Store.get?_eraseAll_of_not_mem notOwn, partly.others _ isForeign]
        exact covered.resolve_left (by simp [enabled])
  · intro key other
    have isForeign : node.Foreign node.nodeCount node.nodeCount key :=
      ⟨fun index below => (other index below).1, fun _ index below => (other index below).2⟩
    have notOwn : key ∉ node.ownKeys := by
      rw [mem_ownKeys]
      rintro (⟨index, below, same⟩ | ⟨-, index, below, same⟩)
      · exact (other index below).1 same
      · exact (other index below).2 same
    have kept := Store.get?_eraseAll_of_not_mem notOwn stopped
    exact ⟨kept, kept.trans (partly.others key isForeign)⟩
  · rw [tearDown_eq budgetAgain, Store.eraseAll_of_absent gone]
  · intro rerun clean returned cleanReturned key
    exact (partly.completed (create_created returned)).get?_eq
      (create_created cleanReturned) key
  · intro clean isClean
    rw [create_ok_iff isClean, create_ok_iff isClean]

/-! ## Two nodes, the second of which fails -/

/-- A server error that comes before the request takes effect. -/
def unavailable : Fault where
  refusal := .api 503 (lit "Service Unavailable")
  effective := false
  notFoundExcluded _ := by simp
  conflictExcluded _ := by simp

def twoNodes : Node where
  nodeCount := 2
  nodeManifestPath := lit "kwok/config/kwok-node.yaml"
  nodeCpu := lit "32"
  nodeMemory := lit "256Gi"
  nodePods := lit "110"
  nodeGpu := lit "0"
  enableDra := true
  nodeTemplate := some (lit "kind: Node")
  sliceTemplate := some (lit "kind: ResourceSlice")

def failingRun : CreateRun where
  setup := .ok ()
  nodeFaults _ := ⟨fun _ => none, fun _ => none⟩
  sliceFaults index _ := if index = 1 then some unavailable else none

def slowTearDown : TearDownRun where
  nodeFaults _ attempt := if attempt = 0 then some unavailable else none
  sliceFaults _ attempt := if attempt = 0 then some unavailable else none

theorem slowTearDown_withinBudget : slowTearDown.WithinBudget twoNodes :=
  ⟨fun _ _ => ⟨1, by decide, rfl⟩, fun _ _ _ => ⟨1, by decide, rfl⟩⟩

theorem two_nodes_torn_down :
    (twoNodes.create failingRun Store.empty).1 ≠ .ok () ∧
      (twoNodes.tearDown slowTearDown (twoNodes.create failingRun Store.empty).2).1 =
        .ok () := by
  refine ⟨fun returned => (nomatch returned), ?_⟩
  exact (tear_down_undoes_create twoNodes failingRun Store.empty
    slowTearDown slowTearDown slowTearDown_withinBudget slowTearDown_withinBudget).1

end Node

end Telescope.Kwok
