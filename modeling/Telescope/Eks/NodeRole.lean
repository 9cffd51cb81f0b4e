import Telescope.Data.Contract
import Telescope.Eks.Client

namespace Telescope.Eks

open Telescope

/-! Constructing an `EKSClient`: the cluster of the run, its subnets, the IAM role of new node
groups and the role's access entry.  A request that fails may have had its effect. -/

structure Role where
  arn : Text
  trustPolicy : Text
  description : Text
  tags : List (Text × Text)
  attachedPolicies : List Text
  inlinePolicies : Store Text Text

/-- The roles by name, the access entries of principals to clusters, and the number of
requests so far. -/
structure Iam where
  accountId : Text
  roles : Text → Option Role
  accessEntries : List (Text × Text)
  requests : Nat

def Iam.next (iam : Iam) : Iam := { iam with requests := iam.requests + 1 }

structure IamFault where
  error : Error
  effective : Bool

structure ClusterDetails where
  runId : Option Text
  version : Option Text

/-- What one construction of the client meets. -/
structure Connection where
  runId : Text
  listClusters : Except Error (List Text)
  describeCluster : Text → Except Error ClusterDetails
  describeSubnets : Except Error (List Subnet)
  listNodegroups : Text → Except Error (List Text)
  nodeRole : Text → Text → Except Error Text
  fault : Nat → Option IamFault

structure ConnectedClient where
  clusterName : Text
  subnetMap : List Subnet
  nodeRoleArn : Text

/-- `arn.split("/")[-1]` -/
def lastSegment (arn : Text) : Text := ((arn.splitOn '/').getLast?).getD []

/-- `eks-node-role-{cluster_name}`, cut to the 64 characters that a role name may have. -/
def newRoleName (clusterName : Text) : Text := (lit "eks-node-role-" ++ clusterName).take 64

def noSuchEntity : Error := .clientError (lit "NoSuchEntity")

def Role.attach (role : Role) (policyArn : Text) : Role :=
  if policyArn ∈ role.attachedPolicies then role
  else { role with attachedPolicies := role.attachedPolicies ++ [policyArn] }

def Role.putInline (role : Role) (policyName document : Text) : Role :=
  { role with inlinePolicies := role.inlinePolicies.put policyName document }

/-- `raise Exception(...) from e` -/
def wrapping {σ α : Type} (wrap : Error → Error) (program : EStateM Error σ α) :
    EStateM Error σ α := fun state =>
  match program state with
  | .ok value after => .ok value after
  | .error error after => .error (wrap error) after

def ofExcept {σ α : Type} (result : Except Error α) : EStateM Error σ α := fun state =>
  match result with
  | .ok value => .ok value state
  | .error error => .error error state

namespace Connection

variable (connection : Connection)

/-! ## Requests -/

def request {α : Type} (answer : Iam → Except Error α × Iam) : EStateM Error Iam α :=
  fun iam =>
    let answered := answer iam
    match connection.fault iam.requests, answered.1 with
    | some fault, _ => .error fault.error (if fault.effective then answered.2.next else iam.next)
    | none, .ok value => .ok value answered.2.next
    | none, .error error => .error error answered.2.next

/-- `get_role`; a missing role is `NoSuchEntityException`. -/
def findRole (roleName : Text) : EStateM Error Iam (Option Role) :=
  connection.request fun iam => (.ok (iam.roles roleName), iam)

def getRole (roleName : Text) : EStateM Error Iam Role := do
  match ← connection.findRole roleName with
  | some role => return role
  | none => throw noSuchEntity

def listAttachedRolePolicies (roleName : Text) : EStateM Error Iam (List Text) := do
  return (← connection.getRole roleName).attachedPolicies

def listRolePolicies (roleName : Text) : EStateM Error Iam (List Text) := do
  return (← connection.getRole roleName).inlinePolicies.keys

def getRolePolicy (roleName policyName : Text) : EStateM Error Iam Text := do
  match (← connection.getRole roleName).inlinePolicies.get? policyName with
  | some document => return document
  | none => throw noSuchEntity

def createRole (roleName trustPolicy description : Text) (tags : List (Text × Text)) :
    EStateM Error Iam Text :=
  connection.request fun iam =>
    match iam.roles roleName with
    | some _ => (.error (.clientError (lit "EntityAlreadyExists")), iam)
    | none =>
        let arn := lit "arn:aws:iam::" ++ iam.accountId ++ lit ":role/" ++ roleName
        let role : Role := ⟨arn, trustPolicy, description, tags, [], .empty⟩
        (.ok arn, { iam with roles := Function.update iam.roles roleName (some role) })

def updateRole (roleName : Text) (change : Role → Role) : EStateM Error Iam Unit :=
  connection.request fun iam =>
    match iam.roles roleName with
    | none => (.error noSuchEntity, iam)
    | some role =>
        (.ok (), { iam with roles := Function.update iam.roles roleName (some (change role)) })

def attachRolePolicy (roleName policyArn : Text) : EStateM Error Iam Unit :=
  connection.updateRole roleName fun role => role.attach policyArn

def putRolePolicy (roleName policyName document : Text) : EStateM Error Iam Unit :=
  connection.updateRole roleName fun role => role.putInline policyName document

/-- Whether there is an entry; a missing one is `ResourceNotFoundException`. -/
def describeAccessEntry (clusterName principalArn : Text) : EStateM Error Iam Bool :=
  connection.request fun iam =>
    (.ok (decide ((clusterName, principalArn) ∈ iam.accessEntries)), iam)

def addAccessEntry (clusterName principalArn : Text) : EStateM Error Iam Unit :=
  connection.request fun iam =>
    if (clusterName, principalArn) ∈ iam.accessEntries then
      (.error (.clientError (lit "ResourceInUseException")), iam)
    else (.ok (), { iam with accessEntries := (clusterName, principalArn) :: iam.accessEntries })

/-! ## The construction -/

def firstMatching : List Text → Except Error Text
  | [] => .error ⟨.external, lit "No EKS cluster found with run_id: " ++ connection.runId⟩
  | clusterName :: rest => do
      let details ← connection.describeCluster clusterName
      if details.runId = some connection.runId then .ok clusterName else firstMatching rest

def getClusterNameByRunId : Except Error Text := do
  connection.firstMatching (← connection.listClusters)

def loadSubnetIds : Except Error (List Subnet) := do
  let subnets ← connection.describeSubnets
  if subnets = [] then .error ⟨.external, lit "No subnets found for run_id: " ++ connection.runId⟩
  else .ok subnets

def loadNodeRoleArn (clusterName : Text) : Except Error Text :=
  let loaded : Except Error Text := do
    match ← connection.listNodegroups clusterName with
    | [] => .error ⟨.external, lit "No node groups found for cluster: " ++ clusterName⟩
    | first :: _ => connection.nodeRole clusterName first
  loaded.mapError fun error =>
    ⟨.external, lit "Could not find existing node group role: " ++ error.message⟩

/-- The new role with the policies of the existing one, unless it is there already. -/
def duplicateRole (existingRoleName roleName clusterName : Text) : EStateM Error Iam Text := do
  let existing ← connection.getRole existingRoleName
  let attachedPolicies ← connection.listAttachedRolePolicies existingRoleName
  let inlinePolicies ← connection.listRolePolicies existingRoleName
  match ← connection.findRole roleName with
  | some role => return role.arn
  | none =>
      let arn ← connection.createRole roleName existing.trustPolicy
        (lit "Duplicate of " ++ existingRoleName ++ lit " for EKS node groups in cluster " ++
          clusterName) existing.tags
      attachedPolicies.forM fun policyArn => connection.attachRolePolicy roleName policyArn
      inlinePolicies.forM fun policyName => do
        let document ← connection.getRolePolicy existingRoleName policyName
        connection.putRolePolicy roleName policyName document
      return arn

def createNodeRoleArn (clusterName : Text) : EStateM Error Iam Text := do
  let existingRoleArn ← ofExcept (connection.loadNodeRoleArn clusterName)
  wrapping (fun error => ⟨.external,
      lit "Failed to create duplicate IAM role for EKS node groups: " ++ error.message⟩)
    (connection.duplicateRole (lastSegment existingRoleArn) (newRoleName clusterName) clusterName)

def createAccessEntry (clusterName nodeRoleArn : Text) : EStateM Error Iam Unit := do
  let _ ← retrying 10 2 (connection.getRole (lastSegment nodeRoleArn))
  if ← connection.describeAccessEntry clusterName nodeRoleArn then return ()
  else retrying 10 2 (connection.addAccessEntry clusterName nodeRoleArn)

/-- `EKSClient.__init__` from the search for the cluster on. -/
def connect : EStateM Error Iam ConnectedClient := do
  let clusterName ← ofExcept connection.getClusterNameByRunId
  let subnetMap ← ofExcept connection.loadSubnetIds
  let nodeRoleArn ← connection.createNodeRoleArn clusterName
  connection.createAccessEntry clusterName nodeRoleArn
  return { clusterName, subnetMap, nodeRoleArn }

end Connection

/-! ## Copies of a role -/

/-- The role can be assumed by whom the source can be, and has no policies that the source has
not.  A permissions boundary is not copied, and not modelled. -/
structure Role.BoundedBy (role source : Role) : Prop where
  trustPolicy : role.trustPolicy = source.trustPolicy
  tags : role.tags = source.tags
  attached : ∀ policy ∈ role.attachedPolicies, policy ∈ source.attachedPolicies
  inline : ∀ name document, role.inlinePolicies.get? name = some document →
    source.inlinePolicies.get? name = some document

structure Role.Duplicates (role source : Role) : Prop extends role.BoundedBy source where
  allAttached : ∀ policy ∈ source.attachedPolicies, policy ∈ role.attachedPolicies
  allInline : ∀ name document, source.inlinePolicies.get? name = some document →
    role.inlinePolicies.get? name = some document

theorem Role.mem_attach {role : Role} {policy other : Text} :
    other ∈ (role.attach policy).attachedPolicies ↔
      other ∈ role.attachedPolicies ∨ other = policy := by
  unfold Role.attach
  split
  · rename_i there
    refine ⟨.inl, ?_⟩
    rintro (member | rfl)
    · exact member
    · exact there
  · exact List.mem_append.trans (or_congr_right List.mem_singleton)

private theorem Role.attach_fields (role : Role) (policy : Text) :
    (role.attach policy).arn = role.arn ∧ (role.attach policy).trustPolicy = role.trustPolicy ∧
      (role.attach policy).tags = role.tags ∧
      (role.attach policy).inlinePolicies = role.inlinePolicies := by
  unfold Role.attach
  split
  · exact ⟨rfl, rfl, rfl, rfl⟩
  · exact ⟨rfl, rfl, rfl, rfl⟩

/-- The new role with these of the source's policies at least. -/
structure Copied (before : Text → Option Role) (roleName : Text) (source : Role) (arn : Text)
    (attached inline : List Text) (roles : Text → Option Role) (role : Role) : Prop where
  added : roles = Function.update before roleName (some role)
  named : role.arn = arn
  bounded : role.BoundedBy source
  attached : ∀ policy ∈ attached, policy ∈ role.attachedPolicies
  inline : ∀ name ∈ inline, role.inlinePolicies.get? name = source.inlinePolicies.get? name

/-- The source's copy has been created. -/
def Begun (before : Text → Option Role) (roleName : Text) (source : Role)
    (roles : Text → Option Role) : Prop :=
  ∃ arn role, Copied before roleName source arn [] [] roles role

namespace Copied

variable {before roles : Text → Option Role} {roleName arn : Text} {source role : Role}
  {attached inline : List Text}

theorem begun (copied : Copied before roleName source arn attached inline roles role) :
    Begun before roleName source roles :=
  ⟨arn, role, copied.added, copied.named, copied.bounded,
    fun _ member => absurd member List.not_mem_nil, fun _ member => absurd member List.not_mem_nil⟩

theorem attach {policy : Text}
    (copied : Copied before roleName source arn attached inline roles role)
    (ofSource : policy ∈ source.attachedPolicies) :
    Copied before roleName source arn (attached ++ [policy]) inline
      (Function.update roles roleName (some (role.attach policy))) (role.attach policy) := by
  obtain ⟨sameArn, sameTrust, sameTags, sameInline⟩ := role.attach_fields policy
  refine ⟨?_, sameArn.trans copied.named, ⟨?_, ?_, ?_, ?_⟩, ?_, ?_⟩
  · rw [copied.added, Function.update_idem]
  · exact sameTrust.trans copied.bounded.trustPolicy
  · exact sameTags.trans copied.bounded.tags
  · intro other member
    rcases Role.mem_attach.mp member with earlier | rfl
    · exact copied.bounded.attached other earlier
    · exact ofSource
  · rw [sameInline]
    exact copied.bounded.inline
  · intro other member
    rcases List.mem_append.mp member with earlier | last
    · exact Role.mem_attach.mpr (.inl (copied.attached other earlier))
    · exact Role.mem_attach.mpr (.inr (List.mem_singleton.mp last))
  · rw [sameInline]
    exact copied.inline

theorem put {name document : Text}
    (copied : Copied before roleName source arn attached inline roles role)
    (ofSource : source.inlinePolicies.get? name = some document) :
    Copied before roleName source arn attached (inline ++ [name])
      (Function.update roles roleName (some (role.putInline name document)))
      (role.putInline name document) := by
  have stored (other : Text) : (role.putInline name document).inlinePolicies.get? other =
      if other = name then some document else role.inlinePolicies.get? other := by
    by_cases same : other = name
    · subst same
      simp [Role.putInline]
    · rw [if_neg same]
      exact role.inlinePolicies.get?_put_of_ne same document
  refine ⟨?_, copied.named, ⟨copied.bounded.trustPolicy, copied.bounded.tags,
    copied.bounded.attached, ?_⟩, copied.attached, ?_⟩
  · rw [copied.added, Function.update_idem]
  · intro other found present
    rw [stored] at present
    split at present
    · rename_i same
      rw [same, ofSource]
      exact present
    · exact copied.bounded.inline other found present
  · intro other member
    rw [stored]
    split
    · rename_i same
      rw [same, ofSource]
    · rename_i different
      rcases List.mem_append.mp member with earlier | last
      · exact copied.inline other earlier
      · exact absurd (List.mem_singleton.mp last) different

theorem duplicates (copied : Copied before roleName source arn source.attachedPolicies
    source.inlinePolicies.keys roles role) : role.Duplicates source where
  toBoundedBy := copied.bounded
  allAttached := copied.attached
  allInline name document present := by
    have listed : name ∈ source.inlinePolicies.keys := by
      by_contra missing
      rw [source.inlinePolicies.get?_eq_none_iff.mpr missing] at present
      cases present
    rw [copied.inline name listed, present]

end Copied

/-! ## What the requests do to the roles -/

namespace Connection

variable {connection : Connection} {α : Type}

theorem request_meets {answer : Iam → Except Error α × Iam} {pre raised : Iam → Prop}
    {post : α → Iam → Prop}
    (returns : ∀ iam, pre iam → ∀ value, (answer iam).1 = .ok value →
      post value (answer iam).2.next)
    (fails : ∀ iam, pre iam → raised iam.next ∧ raised (answer iam).2.next) :
    Meets pre (connection.request answer) post raised := by
  intro iam holds
  have returned := returns iam holds
  obtain ⟨unanswered, answered⟩ := fails iam holds
  unfold request
  dsimp only
  cases connection.fault iam.requests with
  | some fault =>
      dsimp only
      split
      · exact answered
      · exact unanswered
  | none =>
      cases result : (answer iam).1 with
      | ok value => exact returned value result
      | error error => exact answered

variable {holds : (Text → Option Role) → Prop}

theorem findRole_meets (connection : Connection) (roleName : Text) :
    Meets (fun iam => holds iam.roles) (connection.findRole roleName)
      (fun found iam => holds iam.roles ∧ iam.roles roleName = found)
      (fun iam => holds iam.roles) := by
  refine request_meets (fun iam reached found answered => ⟨reached, ?_⟩)
    (fun iam reached => ⟨reached, reached⟩)
  exact Except.ok.inj answered

theorem getRole_meets (connection : Connection) (roleName : Text) :
    Meets (fun iam => holds iam.roles) (connection.getRole roleName)
      (fun role iam => holds iam.roles ∧ iam.roles roleName = some role)
      (fun iam => holds iam.roles) := by
  refine (connection.findRole_meets roleName).bind fun found => ?_
  cases found with
  | none => exact .throw fun iam reached => reached.1
  | some role => exact .pure fun iam reached => reached

/-- What is read of a role that is known to be there. -/
theorem getRole_map_meets {source : Role} {roleName : Text}
    (known : ∀ roles, holds roles → roles roleName = some source) (read : Role → α) :
    Meets (fun iam => holds iam.roles)
      (do return read (← connection.getRole roleName))
      (fun value iam => value = read source ∧ holds iam.roles) (fun iam => holds iam.roles) := by
  refine (connection.getRole_meets roleName).bind fun role => .pure ?_
  rintro iam ⟨reached, found⟩
  rw [known iam.roles reached] at found
  exact ⟨congrArg read (Option.some.inj found).symm, reached⟩

private theorem getRolePolicy_meets {source : Role} {roleName : Text}
    (known : ∀ roles, holds roles → roles roleName = some source) (policyName : Text) :
    Meets (fun iam => holds iam.roles) (connection.getRolePolicy roleName policyName)
      (fun document iam => source.inlinePolicies.get? policyName = some document ∧ holds iam.roles)
      (fun iam => holds iam.roles) := by
  refine (connection.getRole_meets roleName).bind fun role => ?_
  cases found : role.inlinePolicies.get? policyName with
  | none => exact .throw fun iam reached => reached.1
  | some document =>
      refine .pure ?_
      rintro iam ⟨reached, there⟩
      rw [known iam.roles reached] at there
      rw [Option.some.inj there]
      exact ⟨found, reached⟩

section Copying

variable {before : Text → Option Role} {roleName : Text} {source : Role} {arn : Text}
  {attached inline attachedAfter inlineAfter : List Text}

private theorem createRole_meets (absent : before roleName = none) (description : Text) :
    Meets (fun iam => iam.roles = before)
      (connection.createRole roleName source.trustPolicy description source.tags)
      (fun arn iam => ∃ role, Copied before roleName source arn [] [] iam.roles role)
      (fun iam => iam.roles = before ∨ Begun before roleName source iam.roles) := by
  have created (iam : Iam) (arn : Text) : ∃ role, Copied before roleName source arn [] []
      (Function.update before roleName
        (some ⟨arn, source.trustPolicy, description, source.tags, [], .empty⟩)) role := by
    refine ⟨_, rfl, rfl, ⟨rfl, rfl, ?_, ?_⟩, ?_, ?_⟩
    · exact fun _ member => absurd member List.not_mem_nil
    · exact fun _ _ found => nomatch found
    · exact fun _ member => absurd member List.not_mem_nil
    · exact fun _ member => absurd member List.not_mem_nil
  refine request_meets (fun iam same value answered => ?_) (fun iam same => ⟨.inl same, ?_⟩)
  · subst same
    simp only [absent] at answered ⊢
    rw [← Except.ok.inj answered]
    exact created iam _
  · subst same
    simp only [absent]
    obtain ⟨role, copied⟩ := created iam
      (lit "arn:aws:iam::" ++ iam.accountId ++ lit ":role/" ++ roleName)
    exact .inr copied.begun

theorem updateRole_meets {change : Role → Role}
    (step : ∀ roles role, Copied before roleName source arn attached inline roles role →
      Copied before roleName source arn attachedAfter inlineAfter
        (Function.update roles roleName (some (change role))) (change role)) :
    Meets (fun iam => ∃ role, Copied before roleName source arn attached inline iam.roles role)
      (connection.updateRole roleName change)
      (fun _ iam => ∃ role,
        Copied before roleName source arn attachedAfter inlineAfter iam.roles role)
      (fun iam => Begun before roleName source iam.roles) := by
  have there {roles : Text → Option Role} {role : Role}
      (copied : Copied before roleName source arn attached inline roles role) :
      roles roleName = some role := by
    rw [copied.added, Function.update_self]
  refine request_meets (fun iam reached value answered => ?_) (fun iam reached => ?_)
  · obtain ⟨role, copied⟩ := reached
    simp only [there copied] at answered ⊢
    exact ⟨change role, step iam.roles role copied⟩
  · obtain ⟨role, copied⟩ := reached
    simp only [there copied]
    exact ⟨copied.begun, (step iam.roles role copied).begun⟩

end Copying

section Duplication

variable {before : Text → Option Role} {existingRoleName roleName clusterName : Text}
  {source : Role}

/-- The policies are copied one by one, and those of the source do not change meanwhile. -/
theorem copyPolicies_meets (absent : before roleName = none)
    (present : before existingRoleName = some source) (arn : Text) :
    Meets (fun iam => ∃ role, Copied before roleName source arn [] [] iam.roles role)
      (do
        source.attachedPolicies.forM fun policyArn =>
          connection.attachRolePolicy roleName policyArn
        source.inlinePolicies.keys.forM fun policyName => do
          let document ← connection.getRolePolicy existingRoleName policyName
          connection.putRolePolicy roleName policyName document
        return arn)
      (fun result iam => result = arn ∧ ∃ role, Copied before roleName source arn
        source.attachedPolicies source.inlinePolicies.keys iam.roles role)
      (fun iam => Begun before roleName source iam.roles) := by
  let copying (attached inline : List Text) (iam : Iam) : Prop :=
    ∃ role, Copied before roleName source arn attached inline iam.roles role
  have other : existingRoleName ≠ roleName := by
    rintro rfl
    rw [absent] at present
    cases present
  have attaches : ∀ done, ∀ policy ∈ source.attachedPolicies,
      Meets (copying done []) (connection.attachRolePolicy roleName policy)
        (fun _ => copying (done ++ [policy]) [])
        (fun iam => Begun before roleName source iam.roles) :=
    fun done policy member => updateRole_meets fun roles role copied => copied.attach member
  have puts : ∀ done, ∀ policyName ∈ source.inlinePolicies.keys,
      Meets (copying source.attachedPolicies done)
        (do
          let document ← connection.getRolePolicy existingRoleName policyName
          connection.putRolePolicy roleName policyName document)
        (fun _ => copying source.attachedPolicies (done ++ [policyName]))
        (fun iam => Begun before roleName source iam.roles) := by
    intro done policyName member
    let holds (roles : Text → Option Role) : Prop := ∃ role,
      Copied before roleName source arn source.attachedPolicies done roles role
    have known : ∀ roles, holds roles → roles existingRoleName = some source := by
      rintro roles ⟨role, copied⟩
      rw [copied.added, Function.update_of_ne other]
      exact present
    have read := (getRolePolicy_meets known policyName : Meets _
      (connection.getRolePolicy existingRoleName policyName) _ _)
    refine (read.weaken (fun _ reached => reached) (fun _ _ reached => reached) ?_).bind
      fun document => ?_
    · rintro iam ⟨role, copied⟩
      exact copied.begun
    · exact .given fun ofSource => updateRole_meets fun roles role copied => copied.put ofSource
  refine (Meets.forM (copying · []) [] attaches).bind fun _ => ?_
  refine (Meets.forM (copying source.attachedPolicies) [] puts).bind fun _ => ?_
  exact .pure fun iam reached => ⟨rfl, reached⟩

/-- The role that is used: one that was there, or a full copy. -/
def Obtained (before : Text → Option Role) (existingRoleName roleName arn : Text)
    (roles : Text → Option Role) : Prop :=
  (roles = before ∧ ∃ role, before roleName = some role ∧ role.arn = arn) ∨
    (before roleName = none ∧ ∃ source role, before existingRoleName = some source ∧
      roles = Function.update before roleName (some role) ∧ role.Duplicates source ∧
      role.arn = arn)

/-- How an interrupted duplication leaves the roles. -/
def Interrupted (before : Text → Option Role) (existingRoleName roleName : Text)
    (roles : Text → Option Role) : Prop :=
  roles = before ∨ (before roleName = none ∧ ∃ source,
    before existingRoleName = some source ∧ Begun before roleName source roles)

private theorem duplicateRole_meets (before : Text → Option Role)
    (existingRoleName roleName clusterName : Text) :
    Meets (fun iam => iam.roles = before)
      (connection.duplicateRole existingRoleName roleName clusterName)
      (fun arn iam => Obtained before existingRoleName roleName arn iam.roles)
      (fun iam => Interrupted before existingRoleName roleName iam.roles) := by
  let holds (roles : Text → Option Role) : Prop := roles = before
  have unchanged (iam : Iam) (same : holds iam.roles) :
      Interrupted before existingRoleName roleName iam.roles := .inl same
  refine (connection.getRole_meets existingRoleName : Meets (fun iam => holds iam.roles)
    _ _ _).weaken (fun _ same => same) (fun _ _ reached => reached) unchanged |>.bind
      fun source => ?_
  refine Meets.weaken (.given fun present : before existingRoleName = some source => ?_)
    (fun iam reached => ⟨reached.1 ▸ reached.2, reached.1⟩) (fun _ _ reached => reached)
    (fun _ reached => reached)
  have known : ∀ roles, holds roles → roles existingRoleName = some source := by
    intro roles same
    rw [same]
    exact present
  refine ((getRole_map_meets known Role.attachedPolicies).weaken (fun _ same => same)
    (fun _ _ reached => reached) unchanged).bind fun attachedPolicies => ?_
  refine .given fun listed => ?_
  subst listed
  refine ((getRole_map_meets known fun role => role.inlinePolicies.keys).weaken
    (fun _ same => same) (fun _ _ reached => reached) unchanged).bind fun inlinePolicies => ?_
  refine .given fun listed => ?_
  subst listed
  refine ((connection.findRole_meets roleName).weaken (fun _ same => same)
    (fun _ _ reached => reached) unchanged).bind fun found => ?_
  cases found with
  | some role => exact .pure fun iam reached => .inl ⟨reached.1, role, reached.1 ▸ reached.2, rfl⟩
  | none =>
      refine Meets.weaken (.given fun absent : before roleName = none => ?_)
        (fun iam reached => ⟨reached.1 ▸ reached.2, reached.1⟩) (fun _ _ reached => reached)
        (fun _ reached => reached)
      refine ((createRole_meets absent _).weaken (fun _ same => same)
        (fun _ _ reached => reached) ?_).bind fun arn => ?_
      · rintro iam (same | begun)
        · exact .inl same
        · exact .inr ⟨absent, source, present, begun⟩
      · refine (copyPolicies_meets absent present arn).weaken (fun _ reached => reached) ?_ ?_
        · rintro result iam ⟨rfl, role, copied⟩
          exact .inr ⟨absent, source, role, present, copied.added, copied.duplicates, copied.named⟩
        · exact fun iam begun => .inr ⟨absent, source, present, begun⟩

end Duplication

/-! ## The whole construction -/

private theorem wrapping_meets {σ β : Type} {pre raised : σ → Prop} {post : β → σ → Prop}
    {program : EStateM Error σ β} (wrap : Error → Error) (meets : Meets pre program post raised) :
    Meets pre (wrapping wrap program) post raised := by
  intro state reached
  have ran := meets state reached
  unfold wrapping
  cases outcome : program state with
  | ok value after =>
      rw [outcome] at ran
      exact ran
  | error error after =>
      rw [outcome] at ran
      exact ran

theorem ofExcept_meets {σ β : Type} {pre : σ → Prop} (result : Except Error β) :
    Meets pre (ofExcept result) (fun value state => result = .ok value ∧ pre state) pre := by
  intro state reached
  cases result with
  | ok value => exact ⟨rfl, reached⟩
  | error error => exact reached

private theorem createAccessEntry_meets (connection : Connection) (clusterName nodeRoleArn : Text) :
    Meets (fun iam => holds iam.roles) (connection.createAccessEntry clusterName nodeRoleArn)
      (fun _ iam => holds iam.roles ∧ (clusterName, nodeRoleArn) ∈ iam.accessEntries)
      (fun iam => holds iam.roles) := by
  have described : Meets (fun iam => holds iam.roles)
      (connection.describeAccessEntry clusterName nodeRoleArn)
      (fun found iam => holds iam.roles ∧
        (found = true → (clusterName, nodeRoleArn) ∈ iam.accessEntries))
      (fun iam => holds iam.roles) := by
    refine request_meets (fun iam reached found answered => ⟨reached, ?_⟩)
      (fun iam reached => ⟨reached, reached⟩)
    rw [← Except.ok.inj answered]
    exact of_decide_eq_true
  have added : Meets (fun iam => holds iam.roles)
      (connection.addAccessEntry clusterName nodeRoleArn)
      (fun _ iam => holds iam.roles ∧ (clusterName, nodeRoleArn) ∈ iam.accessEntries)
      (fun iam => holds iam.roles) := by
    refine request_meets (fun iam reached value answered => ?_) (fun iam reached => ⟨reached, ?_⟩)
    · split at answered
      · cases answered
      · rename_i absent
        simp only [if_neg absent]
        exact ⟨reached, List.mem_cons_self⟩
    · split
      · exact reached
      · exact reached
  refine (((connection.getRole_meets (lastSegment nodeRoleArn)).weaken (fun _ reached => reached)
    (fun _ _ reached => reached.1) (fun _ reached => reached)).retryingTo 10 2).bind fun _ => ?_
  refine described.bind fun found => ?_
  cases found with
  | true => exact .pure fun iam reached => ⟨reached.1, reached.2 rfl⟩
  | false =>
      exact (added.retryingTo 10 2).weaken (fun iam reached => reached.1)
        (fun _ _ reached => reached) (fun _ reached => reached)

/-- What a construction does to the roles: nothing, or it adds one that is bounded by the role
of a node group of its cluster, and is a full copy if the construction returned. -/
def Leaves (connection : Connection) (returned : Prop) (before after : Text → Option Role) :
    Prop :=
  after = before ∨ ∃ clusterName existingRoleArn source role,
    connection.getClusterNameByRunId = .ok clusterName ∧
    connection.loadNodeRoleArn clusterName = .ok existingRoleArn ∧
    before (newRoleName clusterName) = none ∧
    before (lastSegment existingRoleArn) = some source ∧
    after = Function.update before (newRoleName clusterName) (some role) ∧
    role.BoundedBy source ∧ (returned → role.Duplicates source)

section Construction

variable {before after : Text → Option Role} {clusterName existingRoleArn arn : Text}
  (matched : connection.getClusterNameByRunId = .ok clusterName)
  (loaded : connection.loadNodeRoleArn clusterName = .ok existingRoleArn)

include matched loaded

theorem Obtained.leaves (returned : Prop)
    (obtained : Obtained before (lastSegment existingRoleArn) (newRoleName clusterName) arn after) :
    connection.Leaves returned before after := by
  rcases obtained with ⟨same, -⟩ | ⟨absent, source, role, present, added, duplicates, -⟩
  · exact .inl same
  · exact .inr ⟨clusterName, existingRoleArn, source, role, matched, loaded, absent, present, added,
      duplicates.toBoundedBy, fun _ => duplicates⟩

theorem Interrupted.leaves
    (interrupted : Interrupted before (lastSegment existingRoleArn) (newRoleName clusterName)
      after) : connection.Leaves False before after := by
  rcases interrupted with same | ⟨absent, source, present, arn, role, copied⟩
  · exact .inl same
  · exact .inr ⟨clusterName, existingRoleArn, source, role, matched, loaded, absent, present,
      copied.added, copied.bounded, False.elim⟩

end Construction

private theorem Obtained.exists_role {before after : Text → Option Role}
    {existingRoleName roleName arn : Text}
    (obtained : Obtained before existingRoleName roleName arn after) :
    ∃ role, after roleName = some role ∧ role.arn = arn := by
  rcases obtained with ⟨rfl, found⟩ | ⟨-, -, role, -, rfl, -, named⟩
  · exact found
  · exact ⟨role, Function.update_self .., named⟩

/-- The role of a connected client exists and has access to its cluster. -/
def Connected (connection : Connection) (client : ConnectedClient) (iam : Iam) : Prop :=
  connection.getClusterNameByRunId = .ok client.clusterName ∧
    (∃ role, iam.roles (newRoleName client.clusterName) = some role ∧
      role.arn = client.nodeRoleArn) ∧
    (client.clusterName, client.nodeRoleArn) ∈ iam.accessEntries

theorem connect_meets (connection : Connection) (before : Text → Option Role) :
    Meets (fun iam => iam.roles = before) connection.connect
      (fun client iam => connection.Leaves True before iam.roles ∧ connection.Connected client iam)
      (fun iam => connection.Leaves False before iam.roles) := by
  have unchanged (iam : Iam) (same : iam.roles = before) :
      connection.Leaves False before iam.roles := .inl same
  refine ((ofExcept_meets connection.getClusterNameByRunId).weaken (fun _ same => same)
    (fun _ _ reached => reached) unchanged).bind fun clusterName => ?_
  refine .given fun matched => ?_
  refine ((ofExcept_meets connection.loadSubnetIds).weaken (fun _ same => same)
    (fun _ _ reached => reached) unchanged).bind fun subnetMap => ?_
  refine .given fun _ => ?_
  have obtains : Meets (fun iam => iam.roles = before) (connection.createNodeRoleArn clusterName)
      (fun arn iam => ∃ existingRoleArn, connection.loadNodeRoleArn clusterName =
        .ok existingRoleArn ∧ Obtained before (lastSegment existingRoleArn)
          (newRoleName clusterName) arn iam.roles)
      (fun iam => connection.Leaves False before iam.roles) := by
    refine ((ofExcept_meets (connection.loadNodeRoleArn clusterName)).weaken (fun _ same => same)
      (fun _ _ reached => reached) unchanged).bind fun existingRoleArn => ?_
    refine .given fun loaded => ?_
    exact wrapping_meets _ ((duplicateRole_meets before _ _ _).weaken (fun _ same => same)
      (fun arn iam obtained => ⟨existingRoleArn, loaded, obtained⟩)
      (fun iam interrupted => interrupted.leaves matched loaded))
  refine obtains.bind fun nodeRoleArn => ?_
  let holds (roles : Text → Option Role) : Prop := ∃ existingRoleArn,
    connection.loadNodeRoleArn clusterName = .ok existingRoleArn ∧
      Obtained before (lastSegment existingRoleArn) (newRoleName clusterName) nodeRoleArn roles
  have entered : Meets (fun iam => holds iam.roles)
      (connection.createAccessEntry clusterName nodeRoleArn) _ _ :=
    connection.createAccessEntry_meets clusterName nodeRoleArn
  refine (entered.weaken (fun _ reached => reached) (fun _ _ reached => reached) ?_).bind
    fun _ => .pure ?_
  · rintro iam ⟨existingRoleArn, loaded, obtained⟩
    exact obtained.leaves matched loaded False
  · rintro iam ⟨⟨existingRoleArn, loaded, obtained⟩, entry⟩
    exact ⟨obtained.leaves matched loaded True, matched, obtained.exists_role, entry⟩

theorem Leaves.mono {before after : Text → Option Role} {returned completed : Prop}
    (entails : completed → returned) (leaves : connection.Leaves returned before after) :
    connection.Leaves completed before after := by
  rcases leaves with same | ⟨clusterName, arn, source, role, matched, loaded, absent, present,
    added, bounded, full⟩
  · exact .inl same
  · exact .inr ⟨clusterName, arn, source, role, matched, loaded, absent, present, added, bounded,
      fun ended => full (entails ended)⟩

theorem Leaves.kept {before after : Text → Option Role} {returned : Prop}
    (leaves : connection.Leaves returned before after) {name : Text} {role : Role}
    (found : before name = some role) : after name = some role := by
  rcases leaves with rfl | ⟨clusterName, -, -, added, -, -, absent, -, rfl, -, -⟩
  · exact found
  · have other : name ≠ newRoleName clusterName := by
      rintro rfl
      rw [absent] at found
      cases found
    rw [Function.update_of_ne other]
    exact found

def Returns (connection : Connection) (iam : Iam) : Prop :=
  ∃ client after, connection.connect iam = .ok client after

theorem connect_leaves (connection : Connection) (iam : Iam) :
    connection.Leaves (connection.Returns iam) iam.roles
      (leftBy connection.connect iam).roles := by
  have ran := connection.connect_meets iam.roles iam rfl
  unfold leftBy Returns
  cases outcome : connection.connect iam with
  | ok client after =>
      rw [outcome] at ran
      exact ran.1.mono fun _ => trivial
  | error error after =>
      rw [outcome] at ran
      refine ran.mono ?_
      rintro ⟨client, later, returned⟩
      cases returned

end Connection

/-! ## Any number of constructions -/

def connectAll (history : List Connection) (iam : Iam) : Iam :=
  history.foldl (fun iam connection => leftBy connection.connect iam) iam

/-- The role was added by this construction, as a copy of what its node group had then. -/
structure Connection.Adds (connection : Connection) (iam : Iam) (name : Text) (role : Role) :
    Prop where
  absent : iam.roles name = none
  bounded : ∃ clusterName existingRoleArn source,
    connection.getClusterNameByRunId = .ok clusterName ∧ newRoleName clusterName = name ∧
    connection.loadNodeRoleArn clusterName = .ok existingRoleArn ∧
    iam.roles (lastSegment existingRoleArn) = some source ∧ role.BoundedBy source ∧
    (connection.Returns iam → role.Duplicates source)

theorem connectAll_kept (history : List Connection) {iam : Iam} {name : Text} {role : Role}
    (found : iam.roles name = some role) : (connectAll history iam).roles name = some role := by
  induction history generalizing iam with
  | nil => exact found
  | cons connection rest induction => exact induction ((connection.connect_leaves iam).kept found)

private theorem exists_adding (history : List Connection) {iam : Iam} {name : Text} {role : Role}
    (absent : iam.roles name = none)
    (found : (connectAll history iam).roles name = some role) :
    ∃ earlier connection later, history = earlier ++ connection :: later ∧
      connection.Adds (connectAll earlier iam) name role := by
  induction history generalizing iam with
  | nil =>
      rw [show connectAll [] iam = iam from rfl, absent] at found
      cases found
  | cons connection rest induction =>
      let after := leftBy connection.connect iam
      cases here : after.roles name with
      | none =>
          obtain ⟨earlier, adding, later, rfl, adds⟩ := induction here found
          exact ⟨connection :: earlier, adding, later, rfl, adds⟩
      | some added =>
          refine ⟨[], connection, rest, rfl, absent, ?_⟩
          have kept := connectAll_kept rest here
          obtain rfl : added = role := Option.some.inj (kept.symm.trans found)
          rcases connection.connect_leaves iam with same | ⟨clusterName, arn, source, copy, matched,
            loaded, -, present, changed, bounded, full⟩
          · rw [← show after.roles = iam.roles from same, here] at absent
            cases absent
          · have atName : name = newRoleName clusterName := by
              by_contra other
              rw [show after.roles = _ from changed, Function.update_of_ne other, absent] at here
              cases here
            subst atName
            rw [show after.roles = _ from changed, Function.update_self] at here
            obtain rfl : copy = added := Option.some.inj here
            exact ⟨clusterName, arn, source, matched, rfl, loaded, present, bounded, full⟩

/-- Whatever the constructions of clients meet: no role is ever changed once it is there;
every role that they add has no policies that the role of a node group of its cluster lacked, and
has all of them if its construction returned; and a client that gets connected has a role with
access to its cluster. -/
theorem added_roles_are_copies (iam : Iam) (history : List Connection) :
    let reached := connectAll history iam
    (∀ name role, iam.roles name = some role → reached.roles name = some role) ∧
      (∀ name role, reached.roles name = some role → iam.roles name = none →
        ∃ earlier connection later, history = earlier ++ connection :: later ∧
          connection.Adds (connectAll earlier iam) name role) ∧
      ∀ (connection : Connection) (client : ConnectedClient) (after : Iam),
        connection.connect reached = .ok client after → connection.Connected client after := by
  refine ⟨fun name role => connectAll_kept history, fun name role found absent =>
    exists_adding history absent found, ?_⟩
  intro connection client after connected
  have ran := connection.connect_meets (connectAll history iam).roles (connectAll history iam) rfl
  rw [connected] at ran
  exact ran.2

end Telescope.Eks
