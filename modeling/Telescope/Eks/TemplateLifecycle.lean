import Telescope.Data.Run
import Telescope.Eks.Client

namespace Telescope.Eks

open Telescope

/-! Launch templates over a whole history of creations and deletions by one
client, which remembers only the last template it attached. -/

namespace Account

/-- The named group exists and is attached to the template. -/
def Uses (account : Account) (name : Text) (id : TemplateId) : Prop :=
  ∃ group spec, account.nodeGroups.get? name = some group ∧
    group.launchTemplate = some spec ∧ spec.id = id

def Live (account : Account) (id : TemplateId) : Prop :=
  ∃ template, account.launchTemplates.get? id = some template

theorem Uses.issued {account : Account} {name : Text} {id : TemplateId}
    (uses : account.Uses name id) : id.index < account.nextTemplate := by
  obtain ⟨group, spec, found, attached, rfl⟩ := uses
  exact account.attachedIssued name group spec found attached

theorem Uses.unique {account : Account} {name : Text} {first second : TemplateId}
    (left : account.Uses name first) (right : account.Uses name second) :
    first = second := by
  obtain ⟨group, spec, found, attached, rfl⟩ := left
  obtain ⟨other, otherSpec, otherFound, otherAttached, rfl⟩ := right
  have same := Option.some.inj (found.symm.trans otherFound)
  rw [← same] at otherAttached
  rw [Option.some.inj (attached.symm.trans otherAttached)]

/-- A free name and a live template make a creation succeed. -/
theorem createNodegroup_of_free (account : Account) (params : CreateParams)
    (free : account.nodeGroups.get? params.nodegroupName = none)
    (live : account.Live params.launchTemplate.id) :
    ∃ created, account.createNodegroup params = .ok created ∧
      created.launchTemplates = account.launchTemplates ∧
      created.nodeGroups = account.nodeGroups.put params.nodegroupName
        { scalingConfig := params.scalingConfig
          launchTemplate := some params.launchTemplate } := by
  obtain ⟨template, found⟩ := live
  rw [createNodegroup, free]
  simp only
  split
  · rename_i missing
    exact absurd (missing.symm.trans found) (Option.some_ne_none template).symm
  · exact ⟨_, rfl, rfl, rfl⟩

private theorem uses_put_iff {account created : Account} {name : Text} {config : ScalingConfig}
    {spec : TemplateSpec}
    (groups : created.nodeGroups = account.nodeGroups.put name
      { scalingConfig := config, launchTemplate := some spec })
    (other : Text) (id : TemplateId) :
    created.Uses other id ↔
      other = name ∧ id = spec.id ∨ other ≠ name ∧ account.Uses other id := by
  rw [Uses, groups]
  by_cases same : other = name
  · subst same
    rw [Store.get?_put_self]
    constructor
    · rintro ⟨group, attached, found, attachment, rfl⟩
      rw [← Option.some.inj found] at attachment
      exact .inl ⟨rfl, congrArg TemplateSpec.id (Option.some.inj attachment).symm⟩
    · rintro (⟨-, rfl⟩ | ⟨different, -⟩)
      · exact ⟨_, spec, rfl, rfl, rfl⟩
      · exact absurd rfl different
  · rw [Store.get?_put_of_ne _ same]
    constructor
    · intro uses
      exact .inr ⟨same, uses⟩
    · rintro (⟨equal, -⟩ | ⟨-, uses⟩)
      · exact absurd equal same
      · exact uses

private theorem uses_erase_iff (account : Account) (name other : Text) (id : TemplateId) :
    (account.eraseNodegroup name).Uses other id ↔
      other ≠ name ∧ account.Uses other id := by
  simp only [Uses, eraseNodegroup]
  by_cases same : other = name
  · subst same
    rw [Store.get?_erase_self]
    constructor
    · rintro ⟨group, spec, found, -⟩
      exact absurd found (Option.some_ne_none group).symm
    · rintro ⟨different, -⟩
      exact absurd rfl different
  · rw [Store.get?_erase_of_ne _ same]
    exact ⟨fun uses => ⟨same, uses⟩, And.right⟩

end Account

/-! Histories.  Creations and deletions of AWS objects succeed exactly when the
named object is absent or present; the waits on Kubernetes may fail. -/

inductive LifecycleCall where
  | create (args : CreateArgs) (world : CreateWorld)
      (accepted : world.groupAccepted = .ok ())
  | delete (name : Text) (world : DeleteWorld) (read : world.clusterData = .ok ())

def LifecycleCall.perform (system : System) : LifecycleCall → System
  | .create args world _ => (createNodeGroup system args world).system
  | .delete name world _ => (deleteNodeGroup system name world).system

def runLifecycle (system : System) (calls : List LifecycleCall) : System :=
  calls.foldl LifecycleCall.perform system

/-- A creation names an absent group, and no group uses a template of its template
name; a deletion is of the group whose template the client remembers. -/
def LifecycleCall.Tidy (system : System) : LifecycleCall → Prop
  | .create args _ _ =>
      system.account.nodeGroups.get? args.nodeGroupName = none ∧
        ∀ name id template, system.account.Uses name id →
          system.account.launchTemplates.get? id = some template →
            template.name ≠ launchTemplateName system.client args
  | .delete name _ _ => ∀ group, system.account.nodeGroups.get? name = some group →
      ∃ spec, group.launchTemplate = some spec ∧
        system.client.launchTemplateId = some spec.id

/-- Deleting the group deletes the live template attached to it, which no other
group uses, and then the group. -/
def DeletesOwnTemplate (system : System) (name : Text) (world : DeleteWorld) : Prop :=
  ∀ group, system.account.nodeGroups.get? name = some group →
    ∃ spec, group.launchTemplate = some spec ∧ system.account.Live spec.id ∧
      (∀ other, system.account.Uses other spec.id → other = name) ∧
      (deleteNodeGroup system name world).result = world.settled ∧
      (deleteNodeGroup system name world).system.account =
        (system.account.eraseLaunchTemplate spec.id).eraseNodegroup name ∧
      (deleteNodeGroup system name world).system.calls =
        system.calls ++ [.deleteLaunchTemplate spec.id, .deleteNodegroup name]

/-- Every group created by this client has been deleted. -/
def System.AllDeleted (system : System) : Prop :=
  ∀ params, ApiCall.createNodegroup params ∈ system.calls →
    system.account.nodeGroups.get? params.nodegroupName = none

def System.NoTemplateLeft (system : System) : Prop :=
  ∀ id, ApiCall.createLaunchTemplate id ∈ system.calls → ¬ system.account.Live id

structure Tracked (system : System) : Prop where
  current : ∀ id name, system.client.launchTemplateId = some id →
    system.account.Uses name id →
      system.account.Live id ∧ ∀ other, system.account.Uses other id → other = name
  accounted : ∀ id, ApiCall.createLaunchTemplate id ∈ system.calls →
    system.account.Live id → ∃ params, ApiCall.createNodegroup params ∈ system.calls ∧
      system.account.Uses params.nodegroupName id

private theorem Tracked.noTemplateLeft {system : System} (tracked : Tracked system)
    (deleted : system.AllDeleted) : system.NoTemplateLeft := by
  intro id created live
  obtain ⟨params, sent, group, spec, found, -⟩ := tracked.accounted id created live
  exact absurd ((deleted params sent).symm.trans found) (Option.some_ne_none group).symm

theorem Tracked.deletesOwnTemplate {system : System} (tracked : Tracked system)
    (name : Text) (world : DeleteWorld) (read : world.clusterData = .ok ())
    (tidy : (LifecycleCall.delete name world read).Tidy system) :
    DeletesOwnTemplate system name world := by
  intro group found
  obtain ⟨spec, attached, remembered⟩ := tidy group found
  obtain ⟨live, alone⟩ := tracked.current spec.id name remembered
    ⟨group, spec, found, attached, rfl⟩
  have described : system.account.describeNodegroup name = .ok group := by
    rw [Account.describeNodegroup, found]
  obtain ⟨template, templateFound⟩ := live
  have templateDeleted : system.account.deleteLaunchTemplate spec.id =
      .ok (system.account.eraseLaunchTemplate spec.id) := by
    rw [Account.deleteLaunchTemplate, templateFound]
  have groupDeleted : (system.account.eraseLaunchTemplate spec.id).deleteNodegroup name =
      .ok ((system.account.eraseLaunchTemplate spec.id).eraseNodegroup name) := by
    rw [Account.deleteNodegroup, Account.eraseLaunchTemplate, found]
  refine ⟨spec, attached, ⟨template, templateFound⟩, alone, ?_⟩
  simp only [deleteNodeGroup, described, read, remembered, templateDeleted,
    sendDeleteNodegroup, groupDeleted, System.send, List.append_assoc, List.cons_append,
    List.nil_append, and_self]

/-! What one tidy call does to the history. -/

/-- A creation attached a template that no group used before to a new group. -/
structure Attaches (before after : System) (name : Text) (id : TemplateId) : Prop where
  remembered : after.client.launchTemplateId = some id
  unused : ∀ other, ¬ before.account.Uses other id
  uses : ∀ other used, after.account.Uses other used ↔
    other = name ∧ used = id ∨ other ≠ name ∧ before.account.Uses other used
  live : ∀ other, after.account.Live other ↔ other = id ∨ before.account.Live other
  sent : ∃ params, params.nodegroupName = name ∧
    ApiCall.createNodegroup params ∈ after.calls
  kept : ∀ params, ApiCall.createNodegroup params ∈ before.calls →
    ApiCall.createNodegroup params ∈ after.calls
  created : ∀ other, ApiCall.createLaunchTemplate other ∈ after.calls →
    other = id ∨ ApiCall.createLaunchTemplate other ∈ before.calls

private theorem Account.describeLaunchTemplates_some {account : Account} {name : Text}
    {id : TemplateId} (found : account.describeLaunchTemplates name = some id) :
    ∃ template, account.launchTemplates.get? id = some template ∧
      template.name = name := by
  obtain ⟨⟨stored, template⟩, first, rfl⟩ := Option.map_eq_some_iff.mp found
  refine ⟨template, ?_, ?_⟩
  · exact account.launchTemplates.get?_eq_some_iff.mpr (List.mem_of_find?_eq_some first)
  · have named := List.find?_some first
    exact of_decide_eq_true named

private theorem Account.live_createLaunchTemplate (account : Account) (name : Text)
    (data : LaunchTemplateData) (id : TemplateId) :
    (account.createLaunchTemplate name data).Live id ↔
      id = ⟨account.nextTemplate⟩ ∨ account.Live id := by
  rw [Live, Live, createLaunchTemplate]
  by_cases same : id = ⟨account.nextTemplate⟩
  · rw [same, Store.get?_put_self]
    exact ⟨fun _ => .inl rfl, fun _ => ⟨_, rfl⟩⟩
  · rw [Store.get?_put_of_ne _ same]
    exact ⟨.inr, fun either => either.resolve_left same⟩

/-- The prepared template is live, unused and remembered. -/
theorem prepareNodeGroup_tidy {system ready : System} {args : CreateArgs}
    {world : CreateWorld} {params : CreateParams}
    {accepted : world.groupAccepted = .ok ()}
    (tidy : (LifecycleCall.create args world accepted).Tidy system)
    (prepared : prepareNodeGroup system args world = (.ok params, ready)) :
    params.nodegroupName = args.nodeGroupName ∧
      ready.account.nodeGroups = system.account.nodeGroups ∧
      ready.client.launchTemplateId = some params.launchTemplate.id ∧
      (∀ other, ¬ system.account.Uses other params.launchTemplate.id) ∧
      (∀ other, ready.account.Live other ↔
        other = params.launchTemplate.id ∨ system.account.Live other) ∧
      (ready.calls = system.calls ∨ ready.calls = system.calls ++
        [.createLaunchTemplate params.launchTemplate.id]) := by
  obtain ⟨amiType, placement, id, -, created, paramsEquation⟩ :=
    prepareNodeGroup_ok prepared
  subst paramsEquation
  rcases createLaunchTemplate_ok created with
    ⟨found, readyEquation⟩ | ⟨-, idEquation, maxNic, readyEquation⟩
  · subst readyEquation
    obtain ⟨template, live, named⟩ := Account.describeLaunchTemplates_some found
    refine ⟨rfl, rfl, rfl, ?_, ?_, .inl rfl⟩
    · intro other uses
      exact tidy.2 other id template uses live named
    · intro other
      constructor
      · exact .inr
      · rintro (rfl | stays)
        · exact ⟨template, live⟩
        · exact stays
  · subst readyEquation idEquation
    refine ⟨rfl, rfl, rfl, ?_, ?_, .inr rfl⟩
    · intro other uses
      exact Nat.lt_irrefl _ uses.issued
    · intro other
      exact Account.live_createLaunchTemplate _ _ _ other

private theorem createNodeGroup_tidy {system : System} {args : CreateArgs} {world : CreateWorld}
    {accepted : world.groupAccepted = .ok ()}
    (tidy : (LifecycleCall.create args world accepted).Tidy system) :
    (createNodeGroup system args world).system = system.noteVmSize args ∨
      ∃ id, Attaches system (createNodeGroup system args world).system
        args.nodeGroupName id := by
  rw [createNodeGroup]
  split
  · rename_i raised ready stopped
    exact .inl (prepareNodeGroup_error stopped)
  · rename_i params ready prepared
    obtain ⟨name, groups, remembered, unused, live, calls⟩ :=
      prepareNodeGroup_tidy tidy prepared
    have free : ready.account.nodeGroups.get? params.nodegroupName = none := by
      rw [groups, name]
      exact tidy.1
    obtain ⟨account, created, templates, stored⟩ :=
      ready.account.createNodegroup_of_free params free ((live _).mpr (.inl rfl))
    right
    refine ⟨params.launchTemplate.id, ?_⟩
    simp only [sendCreateNodegroup, accepted, created, System.send]
    rw [groups] at stored
    have inherited : ∀ call, call ∈ ready.calls →
        call = .createLaunchTemplate params.launchTemplate.id ∨ call ∈ system.calls := by
      intro call member
      rcases calls with same | grown
      · exact .inr (same ▸ member)
      · rw [grown, List.mem_append, List.mem_singleton] at member
        exact member.symm
    have grows : ∀ call, call ∈ system.calls → call ∈ ready.calls := by
      intro call member
      rcases calls with same | grown
      · exact same ▸ member
      · rw [grown]
        exact List.mem_append_left _ member
    constructor
    · exact remembered
    · exact unused
    · intro other used
      rw [← name]
      exact Account.uses_put_iff stored other used
    · intro other
      rw [← live other, Account.Live, Account.Live, templates]
    · exact ⟨params, name, by simp⟩
    · intro other sent
      exact List.mem_append_left _ (grows _ sent)
    · intro other sent
      rw [List.mem_append, List.mem_singleton] at sent
      rcases sent with early | late
      · rcases inherited _ early with same | before
        · exact .inl (ApiCall.createLaunchTemplate.inj same)
        · exact .inr before
      · exact ApiCall.noConfusion late

theorem Tracked.noteVmSize {system : System} (tracked : Tracked system)
    (args : CreateArgs) : Tracked (system.noteVmSize args) :=
  ⟨tracked.current, tracked.accounted⟩

theorem Tracked.attach {before after : System} {name : Text} {id : TemplateId}
    (tracked : Tracked before) (fresh : before.account.nodeGroups.get? name = none)
    (attaches : Attaches before after name id) : Tracked after where
  current := by
    intro other user remembered uses
    have same : id = other :=
      Option.some.inj (attaches.remembered.symm.trans remembered)
    subst same
    refine ⟨(attaches.live id).mpr (.inl rfl), ?_⟩
    have only : ∀ another, after.account.Uses another id → another = name := by
      intro another used
      rcases (attaches.uses another id).mp used with ⟨here, -⟩ | ⟨-, old⟩
      · exact here
      · exact absurd old (attaches.unused another)
    intro another used
    rw [only another used, only user uses]
  accounted := by
    intro other created live
    obtain ⟨params, named, sent⟩ := attaches.sent
    by_cases same : other = id
    · refine ⟨params, sent, (attaches.uses _ _).mpr (.inl ⟨named, same⟩)⟩
    · have createdBefore := (attaches.created other created).resolve_left same
      have liveBefore := ((attaches.live other).mp live).resolve_left same
      obtain ⟨old, oldSent, uses⟩ := tracked.accounted other createdBefore liveBefore
      refine ⟨old, attaches.kept old oldSent, (attaches.uses _ _).mpr (.inr ⟨?_, uses⟩)⟩
      intro reused
      obtain ⟨group, spec, found, -⟩ := uses
      rw [reused] at found
      exact absurd (fresh.symm.trans found) (Option.some_ne_none group).symm

private theorem Account.live_eraseLaunchTemplate (account : Account) (id other : TemplateId)
    (live : (account.eraseLaunchTemplate id).Live other) :
    other ≠ id ∧ account.Live other := by
  obtain ⟨template, found⟩ := live
  rw [eraseLaunchTemplate, Store.get?_eq_some_iff, Store.mem_entries_erase] at found
  exact ⟨found.2, template, account.launchTemplates.get?_eq_some_iff.mpr found.1⟩

private theorem deleteNodeGroup_client (system : System) (name : Text) (world : DeleteWorld) :
    (deleteNodeGroup system name world).system.client = system.client := by
  rw [deleteNodeGroup]
  split
  · rfl
  · split
    · rfl
    · split
      · rw [sendDeleteNodegroup]
        split <;> rfl
      · simp only
        split
        · rfl
        · rw [sendDeleteNodegroup]
          split <;> rfl

theorem Tracked.delete {system : System} (tracked : Tracked system) (name : Text)
    (world : DeleteWorld) (read : world.clusterData = .ok ()) (group : NodeGroup)
    (found : system.account.nodeGroups.get? name = some group)
    (tidy : (LifecycleCall.delete name world read).Tidy system) :
    Tracked (deleteNodeGroup system name world).system := by
  obtain ⟨spec, attached, -, alone, -, account, calls⟩ :=
    tracked.deletesOwnTemplate name world read tidy group found
  have usesAfter : ∀ other id,
      (deleteNodeGroup system name world).system.account.Uses other id ↔
        other ≠ name ∧ system.account.Uses other id := by
    intro other id
    rw [account, Account.uses_erase_iff]
    rfl
  have liveAfter : ∀ id, (deleteNodeGroup system name world).system.account.Live id →
      id ≠ spec.id ∧ system.account.Live id := by
    intro id live
    rw [account] at live
    exact system.account.live_eraseLaunchTemplate spec.id id live
  constructor
  · intro id user remembered uses
    rw [deleteNodeGroup_client] at remembered
    obtain ⟨different, usedBefore⟩ := (usesAfter user id).mp uses
    obtain ⟨own, ownAttached, ownRemembered⟩ := tidy group found
    have same : id = spec.id := by
      rw [Option.some.inj (attached.symm.trans ownAttached)]
      exact Option.some.inj (remembered.symm.trans ownRemembered)
    rw [same] at usedBefore
    exact absurd (alone user usedBefore) different
  · intro id created live
    obtain ⟨different, liveBefore⟩ := liveAfter id live
    rw [calls, List.mem_append] at created
    have createdBefore : ApiCall.createLaunchTemplate id ∈ system.calls := by
      simpa using created
    obtain ⟨params, sent, uses⟩ := tracked.accounted id createdBefore liveBefore
    refine ⟨params, ?_, (usesAfter _ _).mpr ⟨?_, uses⟩⟩
    · rw [calls]
      exact List.mem_append_left _ sent
    · intro deleted
      rw [deleted] at uses
      exact different (uses.unique ⟨group, spec, found, attached, rfl⟩)

private theorem deleteNodeGroup_of_absent (system : System) (name : Text) (world : DeleteWorld)
    (absent : system.account.nodeGroups.get? name = none) :
    (deleteNodeGroup system name world).system = system := by
  rw [deleteNodeGroup, Account.describeNodegroup, absent]

theorem Tracked.step {system : System} (tracked : Tracked system) (call : LifecycleCall)
    (tidy : call.Tidy system) : Tracked (call.perform system) := by
  cases call with
  | create args world accepted =>
      rcases createNodeGroup_tidy tidy with stopped | ⟨id, attaches⟩
      · rw [LifecycleCall.perform, stopped]
        exact tracked.noteVmSize args
      · exact tracked.attach tidy.1 attaches
  | delete name world read =>
      cases found : system.account.nodeGroups.get? name with
      | none =>
          rw [LifecycleCall.perform, deleteNodeGroup_of_absent system name world found]
          exact tracked
      | some group => exact tracked.delete name world read group found tidy

/-- Every call of the history is tidy in the state it is issued in. -/
abbrev TidyHistory (start : System) (calls : List LifecycleCall) : Prop :=
  AllowedRun LifecycleCall.perform LifecycleCall.Tidy start calls

/-- In a tidy history of a fresh client every deletion deletes the template of its
own group and reaches the group, and once every created group is deleted no
created template is left. -/
theorem tidy_history_deletes_own_templates (account : Account) (client : EksClient)
    (calls : List LifecycleCall) (fresh : client.launchTemplateId = none)
    (history : TidyHistory ⟨account, client, []⟩ calls) :
    (∀ before name world read after, calls = before ++ .delete name world read :: after →
      DeletesOwnTemplate (runLifecycle ⟨account, client, []⟩ before) name world) ∧
    ∀ before after, calls = before ++ after →
      (runLifecycle ⟨account, client, []⟩ before).AllDeleted →
        (runLifecycle ⟨account, client, []⟩ before).NoTemplateLeft := by
  have initial : Tracked ⟨account, client, []⟩ := by
    constructor
    · intro id name remembered
      exact absurd (fresh.symm.trans remembered) (Option.some_ne_none id).symm
    · intro id created
      exact absurd created List.not_mem_nil
  have upTo : ∀ before after, calls = before ++ after →
      Tracked (runLifecycle ⟨account, client, []⟩ before) := by
    intro before after split
    have earlier : TidyHistory ⟨account, client, []⟩ before := (split ▸ history).left
    exact earlier.invariant Tracked initial fun _ call tracked tidy =>
      tracked.step call tidy
  constructor
  · intro before name world read after split
    exact (upTo before _ split).deletesOwnTemplate name world read
      (history before _ after split)
  · intro before after split
    exact (upTo before after split).noTemplateLeft

def createPool (name : Text) : LifecycleCall :=
  .create
    { nodeGroupName := name
      instanceType := lit "m5.large"
      nodeCount := 1
      maxNodeCount := 1
      capacityType := lit "ON_DEMAND" }
    (.smooth []) rfl

def deletePool (name : Text) : LifecycleCall := .delete name ⟨.ok (), .ok ()⟩ rfl

theorem single_pool_deletes_own_template :
    TidyHistory ⟨.empty, .withOneSubnet, []⟩
        [createPool (lit "pool1"), deletePool (lit "pool1")] ∧
      DeletesOwnTemplate
        (runLifecycle ⟨.empty, .withOneSubnet, []⟩ [createPool (lit "pool1")])
        (lit "pool1") ⟨.ok (), .ok ()⟩ := by
  have history : TidyHistory ⟨.empty, .withOneSubnet, []⟩
      [createPool (lit "pool1"), deletePool (lit "pool1")] := by
    refine allowedRun_cons.mpr ⟨⟨rfl, ?_⟩, allowedRun_cons.mpr ⟨?_, allowedRun_nil _⟩⟩
    · rintro name id template ⟨group, spec, found, -⟩
      exact absurd found (Option.some_ne_none group).symm
    · intro group found
      rw [← Option.some.inj found]
      exact ⟨⟨⟨0⟩, 1⟩, rfl, rfl⟩
  exact ⟨history, (tidy_history_deletes_own_templates .empty .withOneSubnet _ rfl history).1
    [createPool (lit "pool1")] (lit "pool1") ⟨.ok (), .ok ()⟩ rfl [] rfl⟩

/-- With two groups, deleting the older one deletes the template of the newer. -/
theorem older_pool_deletes_newer_template :
    ¬ DeletesOwnTemplate
      (runLifecycle ⟨.empty, .withOneSubnet, []⟩
        [createPool (lit "pool1"), createPool (lit "pool2")])
      (lit "pool1") ⟨.ok (), .ok ()⟩ := by
  intro deletes
  obtain ⟨spec, attached, -, -, -, -, calls⟩ := deletes _ rfl
  have own : spec.id = ⟨0⟩ := by
    rw [← Option.some.inj attached]
    rfl
  rw [own] at calls
  have last : ApiCall.deleteLaunchTemplate ⟨1⟩ = .deleteLaunchTemplate ⟨0⟩ := by
    have fifth := congrArg (fun sent => sent[4]?) calls
    exact Option.some.inj fifth
  exact absurd (ApiCall.deleteLaunchTemplate.inj last) (by decide)

end Telescope.Eks
