import Telescope.Eks.Client

namespace Telescope.Eks

open Telescope

/-! The launch template attached to a new node group against the request.  A new
template matches; one reused by name is attached unread. -/

/-- The first listed reservation that is active, of this type, in one of these
zones and has this many instances available. -/
def firstFitting (world : CreateWorld) (instanceType : Text) (count : Int)
    (availabilityZones : List Text) : Option CapacityReservation :=
  match world.reservations with
  | .error _ => none
  | .ok reservations => reservations.find? fun reservation =>
      (reservation.instanceType = instanceType ∧
        reservation.availabilityZone ∈ availabilityZones ∧
        reservation.state = .active) ∧ count ≤ reservation.availableInstanceCount

private theorem getCapacityReservationId_eq (world : CreateWorld) (instanceType : Text)
    (count : Int) (availabilityZones : List Text) :
    getCapacityReservationId world instanceType count availabilityZones =
      firstFitting world instanceType count availabilityZones := by
  rw [getCapacityReservationId, firstFitting]
  cases world.reservations with
  | error raised => rfl
  | ok reservations =>
      simp only [describeCapacityReservations, List.find?_filter, not_lt]
      congr 1
      funext reservation
      simp

private theorem firstFitting_some {world : CreateWorld} {instanceType : Text} {count : Int}
    {availabilityZones : List Text} {reservation : CapacityReservation}
    (selected : firstFitting world instanceType count availabilityZones =
      some reservation) :
    reservation.state = .active ∧ count ≤ reservation.availableInstanceCount := by
  rw [firstFitting] at selected
  split at selected
  · simp at selected
  · have fits := List.find?_some selected
    simp only [decide_eq_true_eq] at fits
    exact ⟨fits.1.2.2, fits.2⟩

/-- The reservation that the request selects: none unless it asks for one. -/
def requestedReservation (client : EksClient) (args : CreateArgs) (world : CreateWorld) :
    Option CapacityReservation :=
  if args.capacityType = capacityBlock then
    firstFitting world args.instanceType args.maxNodeCount client.subnetAzs
  else none

/-- The attached template has the requested instance type and targets exactly the
selected reservation, whose zone holds every subnet passed. -/
structure TemplateMatches (client : EksClient) (args : CreateArgs) (world : CreateWorld)
    (params : CreateParams) (account : Account) : Prop where
  attached : ∃ template data,
    account.launchTemplates.get? params.launchTemplate.id = some template ∧
      template.version? params.launchTemplate.version = some data ∧
      data.instanceType = args.instanceType ∧
      data.capacityReservationId = (requestedReservation client args world).map
        CapacityReservation.reservationId
  reserved : args.capacityType = capacityBlock →
    ∃ reservation, requestedReservation client args world = some reservation ∧
      reservation.state = .active ∧
      args.maxNodeCount ≤ reservation.availableInstanceCount ∧
      ∀ subnetId ∈ params.subnets, ∃ subnet ∈ client.subnetMap,
        subnet.subnetId = subnetId ∧ subnet.publicSubnet = false ∧
          subnet.availabilityZone = reservation.availabilityZone

private theorem selectPlacement_ok {client : EksClient} {args : CreateArgs} {world : CreateWorld}
    {placement : Placement} (placed : selectPlacement client args world = .ok placement) :
    placement.reservation = requestedReservation client args world ∧
      (args.capacityType = capacityBlock →
        ∃ reservation, requestedReservation client args world = some reservation ∧
          reservation.state = .active ∧
          args.maxNodeCount ≤ reservation.availableInstanceCount ∧
          ∀ subnetId ∈ placement.subnets, ∃ subnet ∈ client.subnetMap,
            subnet.subnetId = subnetId ∧ subnet.publicSubnet = false ∧
              subnet.availabilityZone = reservation.availabilityZone) := by
  rw [selectPlacement] at placed
  split at placed
  · rename_i block
    rw [getCapacityReservationId_eq] at placed
    have requested : requestedReservation client args world =
        firstFitting world args.instanceType args.maxNodeCount client.subnetAzs := by
      rw [requestedReservation, if_pos block]
    split at placed
    · simp at placed
    · rename_i reservation selected
      simp only at placed
      split at placed
      · simp at placed
      · have placementEquation := Except.ok.inj placed
        obtain ⟨active, available⟩ := firstFitting_some selected
        rw [requested, selected, ← placementEquation]
        refine ⟨rfl, fun _ => ⟨reservation, rfl, active, available, ?_⟩⟩
        intro subnetId member
        obtain ⟨subnet, filtered, same⟩ := List.mem_map.mp member
        obtain ⟨listed, kept⟩ := List.mem_filter.mp filtered
        simp only [decide_eq_true_eq, Bool.not_eq_true] at kept
        exact ⟨subnet, listed, same, kept.2, kept.1⟩
  · rename_i other
    have placementEquation := Except.ok.inj placed
    rw [requestedReservation, if_neg other, ← placementEquation]
    exact ⟨rfl, fun block => absurd block other⟩

private theorem capacityReservationId_launchTemplateData (client : EksClient) (args : CreateArgs)
    (world : CreateWorld) (maxNic : Nat) :
    (launchTemplateData args ((requestedReservation client args world).map
        CapacityReservation.reservationId) maxNic).capacityReservationId =
      (requestedReservation client args world).map CapacityReservation.reservationId := by
  simp only [launchTemplateData]
  split
  · cases requestedReservation client args world with
    | none => rfl
    | some reservation => simp [Option.filter, reservation.idNonempty]
  · rename_i other
    rw [requestedReservation, if_neg other]
    rfl

/-- A template already stored under the name, if any, has in its first version the
requested instance type and targets exactly the selected reservation. -/
def StoredTemplateFits (system : System) (args : CreateArgs) (world : CreateWorld) :
    Prop :=
  ∀ id, system.account.describeLaunchTemplates (launchTemplateName system.client args) =
      some id →
    ∃ template data, system.account.launchTemplates.get? id = some template ∧
      template.version? 1 = some data ∧ data.instanceType = args.instanceType ∧
      data.capacityReservationId = (requestedReservation system.client args world).map
        CapacityReservation.reservationId

/-- The attached template matches the request exactly when a template stored under
the same name already did. -/
theorem attached_template_matches_iff (system : System) (args : CreateArgs)
    (world : CreateWorld) (params : CreateParams) (ready : System)
    (reached : prepareNodeGroup system args world = (.ok params, ready)) :
    TemplateMatches system.client args world params ready.account ↔
      StoredTemplateFits system args world := by
  obtain ⟨amiType, placement, id, placed, created, paramsEquation⟩ :=
    prepareNodeGroup_ok reached
  obtain ⟨reservation, reserved⟩ := selectPlacement_ok placed
  subst paramsEquation
  rw [reservation] at created
  rcases createLaunchTemplate_ok created with
    ⟨found, readyEquation⟩ | ⟨absent, idEquation, maxNic, readyEquation⟩
  · subst readyEquation
    constructor
    · intro fits other otherFound
      have same : id = other := Option.some.inj (found.symm.trans otherFound)
      rw [← same]
      exact fits.attached
    · intro fits
      exact ⟨fits id found, reserved⟩
  · subst readyEquation idEquation
    constructor
    · intro _ other otherFound
      exact absurd (absent.symm.trans otherFound) (Option.some_ne_none other).symm
    · intro _
      refine ⟨⟨_, _, Store.get?_put_self _ _ _, rfl, rfl, ?_⟩, reserved⟩
      exact capacityReservationId_launchTemplateData system.client args world maxNic

/-- A request for a capacity block, with one reservation to select. -/
def blockRequest : CreateArgs :=
  { nodeGroupName := lit "gpupool"
    instanceType := lit "p5.48xlarge"
    nodeCount := 0
    maxNodeCount := 2
    capacityType := capacityBlock }

def blockWorld : CreateWorld :=
  .smooth
    [{ reservationId := lit "cr-new"
       idNonempty := by decide
       instanceType := lit "p5.48xlarge"
       availabilityZone := lit "us-east-2a"
       state := .active
       totalInstanceCount := 4
       availableInstanceCount := 2 }]

theorem new_template_matches_iff :
    ∃ params ready,
      prepareNodeGroup ⟨.empty, .withOneSubnet, []⟩ blockRequest blockWorld =
          (.ok params, ready) ∧
        (TemplateMatches .withOneSubnet blockRequest blockWorld params ready.account ↔
          StoredTemplateFits ⟨.empty, .withOneSubnet, []⟩ blockRequest blockWorld) :=
  ⟨_, _, rfl, attached_template_matches_iff ⟨.empty, .withOneSubnet, []⟩ blockRequest
    blockWorld _ _ rfl⟩

/-- An earlier run left a template of the same name with its own reservation. -/
def staleAccount : Account :=
  Account.empty.createLaunchTemplate (lit "eks-gpupool-p5.48xlarge")
    { instanceType := lit "p5.48xlarge"
      marketType := some (lit "capacity-block")
      capacityReservationId := some (lit "cr-old")
      networkInterfaces := networkInterfaces 1 }

theorem stale_reservation_attached :
    ∃ params ready,
      prepareNodeGroup ⟨staleAccount, .withOneSubnet, []⟩ blockRequest blockWorld =
          (.ok params, ready) ∧
        ¬ TemplateMatches .withOneSubnet blockRequest blockWorld params ready.account := by
  refine ⟨_, _, rfl, ?_⟩
  intro fits
  obtain ⟨template, data, found, version, -, target⟩ := fits.attached
  have templateEquation := Option.some.inj found
  subst templateEquation
  have dataEquation := Option.some.inj version
  subst dataEquation
  exact absurd target (by decide)

end Telescope.Eks
