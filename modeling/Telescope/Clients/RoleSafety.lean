import Telescope.Clients.PodCommand

namespace Telescope.Clients

open Telescope

/-! Every command runs in the context, the container and a pod of its role, and is one
that the current call asks for, whatever fails before it. -/

/-- The address was read in the server's context: as an address, of the type asked for,
of a pod found there with the server's label selector, or of the service. -/
def ReadOnServer (config : Config) (events : List Event) (serverIpType address : Text) :
    Prop :=
  (serverIpType = lit "pod" ∧
    ∃ pod, .podFound config.serverContext config.serverLabelSelector pod ∈ events ∧
      pod.ip = some address) ∨
  (serverIpType = lit "node" ∧
    ∃ pod, .podFound config.serverContext config.serverLabelSelector pod ∈ events ∧
      pod.nodeIp = some address) ∨
  (serverIpType = lit "external" ∧
    .serviceRead config.serverContext (some address) ∈ events)

/-- The commands that a call may run for a role, given what happened before: its own
command, the validation command, or an `iperf3` against an address of the server; and
none for the calls that only find, read or wait. -/
def Call.Asks (config : Config) : Call → List Event → Role → Text → Prop
  | .getPodByRole _, _, _, _ => False
  | .getServiceExternalIp, _, _, _ => False
  | .runCommandForRole roleText asked, _, role, command =>
      role? roleText = some role ∧ command = asked
  | .validate, _, _, command => command = config.validateCommand
  | .collect, _, _, _ => False
  | .configure, _, _, _ => False
  | .runIperf3 iperf3Command serverIpType, before, role, command =>
      role = .client ∧ ∃ serverIp, ReadOnServer config before serverIpType serverIp ∧
        command = iperf3CommandCli serverIp iperf3Command

/-- What must have happened before an event, when `asks` tells the commands asked for. -/
def Justified (config : Config) (asks : List Event → Role → Text → Prop)
    (before : List Event) : Event → Prop
  | .executed role context podName container command =>
      context = config.context role ∧
        container = presentText (some (config.container role)) ∧
        (∃ pod, .podFound (config.context role) (config.labelSelector role) pod ∈ before ∧
          pod.name = podName) ∧
        asks before role command
  | .podFound _ _ _ => True
  | .serviceRead _ _ => True

/-- The events after the first ones are justified. -/
structure SoundFrom (config : Config) (asks : List Event → Role → Text → Prop)
    (first events : List Event) : Prop where
  continues : first <+: events
  justified : ∀ before event after, events = before ++ event :: after → first <+: before →
    Justified config asks before event

private theorem SoundFrom.refl (config : Config) (asks : List Event → Role → Text → Prop)
    (first : List Event) : SoundFrom config asks first first where
  continues := List.prefix_refl first
  justified before event after split within := by
    have shorter := within.length_le
    rw [split, List.length_append, List.length_cons] at shorter
    omega

private theorem SoundFrom.append {config : Config}
    {asks : List Event → Role → Text → Prop} {first events : List Event}
    (sound : SoundFrom config asks first events) {event : Event}
    (justified : Justified config asks events event) :
    SoundFrom config asks first (events ++ [event]) where
  continues := sound.continues.trans (List.prefix_append events [event])
  justified before last after split within := by
    rcases List.eq_nil_or_concat after with rfl | ⟨rest, final, rfl⟩
    · obtain ⟨rfl, same⟩ := List.append_inj' split rfl
      rw [← (List.cons.inj same).1]
      exact justified
    · rw [List.concat_eq_append, ← List.cons_append, ← List.append_assoc] at split
      exact sound.justified before last rest (List.append_inj' split rfl).1 within

/-- The events since the call began are sound, the caches hold only what was read in the
right context, and the given events have happened. -/
structure Consistent (config : Config) (asks : List Event → Role → Text → Prop)
    (first known : List Event) (state : State) : Prop where
  sound : SoundFrom config asks first state.events
  pods : ∀ role pod, state.podRole role = some pod →
    .podFound (config.context role) (config.labelSelector role) pod ∈ state.events
  service : ∀ ip, state.serviceExternalIp = some ip →
    .serviceRead config.serverContext (some ip) ∈ state.events
  happened : known ⊆ state.events

namespace Consistent

variable {config : Config} {asks : List Event → Role → Text → Prop}
  {first known : List Event} {state : State}

theorem atContext (consistent : Consistent config asks first known state) (context : Context)
    (interactions : Nat) :
    Consistent config asks first known
      { state with context := context, interactions := interactions } :=
  ⟨consistent.sound, consistent.pods, consistent.service, consistent.happened⟩

theorem record (consistent : Consistent config asks first known state) {event : Event}
    (justified : Justified config asks state.events event) :
    Consistent config asks first (event :: known)
      { state with
        interactions := state.interactions + 1
        events := state.events ++ [event] } where
  sound := consistent.sound.append justified
  pods role pod cached := List.mem_append_left _ (consistent.pods role pod cached)
  service ip cached := List.mem_append_left _ (consistent.service ip cached)
  happened := by
    intro other member
    rcases List.mem_cons.mp member with rfl | earlier
    · exact List.mem_append_right _ (List.mem_singleton_self _)
    · exact List.mem_append_left _ (consistent.happened earlier)

theorem skip (consistent : Consistent config asks first known state) :
    Consistent config asks first known
      { state with
        interactions := state.interactions + 1
        events := state.events ++ [] } := by
  rw [List.append_nil]
  exact consistent.atContext state.context _

theorem weaken (consistent : Consistent config asks first known state) {fewer : List Event}
    (subset : fewer ⊆ known) : Consistent config asks first fewer state :=
  ⟨consistent.sound, consistent.pods, consistent.service,
    List.Subset.trans subset consistent.happened⟩

private theorem cachePod (consistent : Consistent config asks first known state) {role : Role}
    {pod : Pod}
    (found : .podFound (config.context role) (config.labelSelector role) pod ∈ known) :
    Consistent config asks first known
      { state with
        podRole := fun other => if other = role then some pod else state.podRole other } where
  sound := consistent.sound
  pods other cached held := by
    dsimp only at held
    by_cases same : other = role
    · rw [if_pos same] at held
      cases held
      rw [same]
      exact consistent.happened found
    · rw [if_neg same] at held
      exact consistent.pods other cached held
  service := consistent.service
  happened := consistent.happened

private theorem cacheService (consistent : Consistent config asks first known state)
    {ip : Option Text}
    (read : .serviceRead config.serverContext ip ∈ known) :
    Consistent config asks first known { state with serviceExternalIp := ip } where
  sound := consistent.sound
  pods := consistent.pods
  service address held := by
    rw [← held]
    exact consistent.happened read
  happened := consistent.happened

end Consistent

/-! ## Contracts of the client calls -/

section Contracts

variable {config : Config} {asks : List Event → Role → Text → Prop}
  {first known : List Event} (world : World)

theorem setContext_meets (context : Context) :
    Meets (Consistent config asks first known) (setContext world context)
      (fun _ state => Consistent config asks first known state ∧ state.context = context)
      (Consistent config asks first known) := by
  apply Meets.get
  intro state consistent
  cases world.switch state.interactions with
  | none =>
      apply Meets.set
      intro _ _
      exact ⟨consistent.atContext _ _, rfl⟩
  | some failed =>
      have moved : Meets (fun current => current = state)
          (set { state with context := failed.2, interactions := state.interactions + 1 } :
            Program Unit)
          (fun _ => Consistent config asks first known) (Consistent config asks first known) :=
        Meets.set fun _ _ => consistent.atContext _ _
      exact moved.bind fun _ => Meets.throw fun _ kept => kept

theorem failed_meets {α : Type} {post : α → State → Prop} {state : State}
    (consistent : Consistent config asks first known state) (error : Error) :
    Meets (fun current => current = state)
      (do interact []
          throw error)
      post (Consistent config asks first known) := by
  have counted : Meets (fun current => current = state) (interact [])
      (fun _ => Consistent config asks first known) (Consistent config asks first known) :=
    Meets.modify fun current same => by
      rw [same]
      exact consistent.skip
  exact counted.bind fun _ => Meets.throw fun _ kept => kept

private theorem getPodNameAndIp_meets (context : Context) (labelSelector space : Text) :
    Meets (fun state => Consistent config asks first known state ∧ state.context = context)
      (getPodNameAndIp world labelSelector space)
      (fun pod => Consistent config asks first (.podFound context labelSelector pod :: known))
      (Consistent config asks first known) := by
  apply Meets.get
  rintro state ⟨consistent, rfl⟩
  cases world.pods state.interactions with
  | error error => exact failed_meets consistent error
  | ok pods =>
      cases pods with
      | nil => exact failed_meets consistent _
      | cons pod rest =>
          have recorded : Meets (fun current => current = state)
              (interact [.podFound state.context labelSelector pod])
              (fun _ => Consistent config asks first
                (.podFound state.context labelSelector pod :: known))
              (Consistent config asks first known) :=
            Meets.modify fun current same => by
              rw [same]
              exact consistent.record trivial
          exact recorded.bind fun _ => Meets.pure fun _ kept => kept

private theorem readServiceExternalIp_meets (context : Context) :
    Meets (fun state => Consistent config asks first known state ∧ state.context = context)
      (readServiceExternalIp world)
      (fun ip => Consistent config asks first (.serviceRead context ip :: known))
      (Consistent config asks first known) := by
  apply Meets.get
  rintro state ⟨consistent, rfl⟩
  cases world.service state.interactions with
  | error error => exact failed_meets consistent error
  | ok ip =>
      have recorded : Meets (fun current => current = state)
          (interact [.serviceRead state.context ip])
          (fun _ => Consistent config asks first (.serviceRead state.context ip :: known))
          (Consistent config asks first known) :=
        Meets.modify fun current same => by
          rw [same]
          exact consistent.record trivial
      exact recorded.bind fun _ => Meets.pure fun _ kept => kept

theorem otherReads_meets :
    Meets (Consistent config asks first known) (otherReads world)
      (fun _ => Consistent config asks first known)
      (Consistent config asks first known) := by
  apply Meets.get
  intro state consistent
  have counted : Meets (fun current => current = state) (interact [])
      (fun _ => Consistent config asks first known) (Consistent config asks first known) :=
    Meets.modify fun current same => by
      rw [same]
      exact consistent.skip
  refine counted.bind fun _ => ?_
  cases world.other state.interactions with
  | error error => exact Meets.throw fun _ kept => kept
  | ok value => exact Meets.pure fun _ kept => kept

/-- An execution of a command asked for, in the context of its role and in a pod that was
found there. -/
theorem runPodExecCommand_meets {role : Role} {pod : Pod} {command : Text}
    (found : .podFound (config.context role) (config.labelSelector role) pod ∈ known)
    (asked : ∀ before, known ⊆ before → asks before role command) :
    Meets (fun state => Consistent config asks first known state ∧
        state.context = config.context role)
      (runPodExecCommand world role pod.name (config.container role) command)
      (fun _ state => Consistent config asks first known state ∧
        state.context = config.context role)
      (fun state => Consistent config asks first known state ∧
        state.context = config.context role) := by
  apply Meets.get
  rintro state ⟨consistent, inContext⟩
  have subset : known ⊆ state.events := consistent.happened
  have justified : Justified config asks state.events (.executed role state.context pod.name
      (presentText (some (config.container role))) command) :=
    ⟨inContext, rfl, ⟨pod, subset found, rfl⟩, asked state.events subset⟩
  have recorded : Meets (fun current => current = state)
      (interact [.executed role state.context pod.name
        (presentText (some (config.container role))) command])
      (fun _ after => Consistent config asks first known after ∧
        after.context = config.context role)
      (fun after => Consistent config asks first known after ∧
        after.context = config.context role) :=
    Meets.modify fun current same => by
      rw [same]
      exact ⟨(consistent.record justified).weaken (List.subset_cons_self _ _), inContext⟩
  refine recorded.bind fun _ => ?_
  cases world.execution state.interactions with
  | error error => exact Meets.throw fun _ kept => kept
  | ok output => exact Meets.pure fun _ kept => kept

/-! ## Contracts of the methods -/

theorem setContextByRole_meets (role : Role) :
    Meets (Consistent config asks first known) (setContextByRole config world role)
      (fun labelSelector state => labelSelector = config.labelSelector role ∧
        Consistent config asks first known state ∧ state.context = config.context role)
      (Consistent config asks first known) :=
  (setContext_meets world (config.context role)).bind fun _ =>
    Meets.pure fun _ switched => ⟨rfl, switched⟩

private theorem findPod_meets (role : Role) :
    Meets (Consistent config asks first known) (findPod config world role)
      (fun pod => Consistent config asks first
        (.podFound (config.context role) (config.labelSelector role) pod :: known))
      (Consistent config asks first known) := by
  refine (setContextByRole_meets world role).bind fun labelSelector => ?_
  apply Meets.given
  rintro rfl
  refine (getPodNameAndIp_meets world (config.context role) _ _).bind fun pod => ?_
  have cached : Meets (Consistent config asks first
        (.podFound (config.context role) (config.labelSelector role) pod :: known))
      (modify fun state => { state with
        podRole := fun other => if other = role then some pod else state.podRole other } :
        Program Unit)
      (fun _ => Consistent config asks first
        (.podFound (config.context role) (config.labelSelector role) pod :: known))
      (Consistent config asks first known) :=
    Meets.modify fun state consistent => consistent.cachePod List.mem_cons_self
  exact cached.bind fun _ => Meets.pure fun _ kept => kept

/-- Cached or not, the pod was found in the role's context with its label selector. -/
theorem getPodByRole_meets {roleText : Text} {role : Role} (known? : role? roleText = some role) :
    Meets (Consistent config asks first known) (getPodByRole config world roleText)
      (fun pod => Consistent config asks first
        (.podFound (config.context role) (config.labelSelector role) pod :: known))
      (Consistent config asks first known) := by
  unfold getPodByRole
  simp only [known?]
  apply Meets.get
  intro state consistent
  cases cached : state.podRole role with
  | none =>
      exact (findPod_meets world role).weaken (fun _ same => same ▸ consistent)
        (fun _ _ found => found) (fun _ kept => kept)
  | some pod =>
      apply Meets.pure
      rintro _ rfl
      exact ⟨consistent.sound, consistent.pods, consistent.service,
        List.cons_subset.mpr ⟨consistent.pods role pod cached, consistent.happened⟩⟩

private theorem getPodByRole_unsupported {roleText : Text} (unknown : role? roleText = none)
    {post : Pod → State → Prop} :
    Meets (Consistent config asks first known) (getPodByRole config world roleText) post
      (Consistent config asks first known) := by
  unfold getPodByRole
  simp only [unknown]
  exact Meets.throw fun _ kept => kept

/-- The service address, cached or not, was read in the server's context. -/
theorem getServiceExternalIp_meets :
    Meets (Consistent config asks first known) (getServiceExternalIp config world)
      (fun ip state => Consistent config asks first known state ∧ ∀ address, ip = some address →
        .serviceRead config.serverContext (some address) ∈ state.events)
      (Consistent config asks first known) := by
  unfold getServiceExternalIp
  split
  · exact Meets.throw fun _ kept => kept
  · apply Meets.get
    intro state consistent
    cases cached : presentText state.serviceExternalIp with
    | some ip =>
        apply Meets.pure
        rintro _ rfl
        refine ⟨consistent, fun address same => ?_⟩
        obtain rfl := Option.some.inj same
        exact consistent.service ip (Option.filter_eq_some_iff.mp cached).1
    | none =>
        have switched : Meets (fun current => current = state)
            (setContextByRole config world .server)
            (fun _ after => Consistent config asks first known after ∧
              after.context = config.serverContext) (Consistent config asks first known) :=
          (setContextByRole_meets world .server).weaken (fun _ same => same ▸ consistent)
            (fun _ _ reached => reached.2) (fun _ kept => kept)
        refine switched.bind fun _ => (readServiceExternalIp_meets world _).bind fun ip => ?_
        have stored : Meets
            (Consistent config asks first (.serviceRead config.serverContext ip :: known))
            (modify fun state => { state with serviceExternalIp := ip } : Program Unit)
            (fun _ => Consistent config asks first (.serviceRead config.serverContext ip :: known))
            (Consistent config asks first known) :=
          Meets.modify fun state consistent => consistent.cacheService List.mem_cons_self
        refine stored.bind fun _ => Meets.pure fun after reached => ?_
        refine ⟨reached.weaken (List.subset_cons_self _ _), fun address same => ?_⟩
        rw [← same]
        exact reached.happened List.mem_cons_self

/-- A command for a role that the call asks for. -/
theorem runCommandForRole_meets (roleText command : Text)
    (asked : ∀ role before, role? roleText = some role → known ⊆ before →
      asks before role command) :
    Meets (Consistent config asks first known)
      (runCommandForRole config world roleText command)
      (fun _ => Consistent config asks first known) (Consistent config asks first known) := by
  unfold runCommandForRole
  cases known? : role? roleText with
  | none => exact Meets.throw fun _ kept => kept
  | some role =>
      refine (getPodByRole_meets world known?).bind fun pod => ?_
      have switches : Meets
          (Consistent config asks first
            (.podFound (config.context role) (config.labelSelector role) pod :: known))
          (setContext world (config.context role))
          (fun _ state => Consistent config asks first
              (.podFound (config.context role) (config.labelSelector role) pod :: known) state ∧
            state.context = config.context role)
          (Consistent config asks first known) :=
        (setContext_meets world (config.context role)).weaken
          (fun _ consistent => consistent) (fun _ _ reached => reached)
          (fun _ kept => Consistent.weaken kept (List.subset_cons_self _ _))
      have askedNow (before : List Event) (happened : Event.podFound (config.context role)
          (config.labelSelector role) pod :: known ⊆ before) : asks before role command :=
        asked role before known? (List.Subset.trans (List.subset_cons_self _ _) happened)
      refine switches.bind fun _ =>
        ((runPodExecCommand_meets world List.mem_cons_self askedNow).retrying 10 2).weaken
          (fun _ reached => reached)
          (fun _ _ reached => reached.1.weaken (List.subset_cons_self _ _))
          (fun _ reached => reached.1.weaken (List.subset_cons_self _ _))

private theorem serverAddress_meets {pod : Pod} (serverIpType : Text)
    (found : .podFound config.serverContext config.serverLabelSelector pod ∈ known) :
    Meets (Consistent config asks first known)
      (serverAddress config world pod serverIpType)
      (fun ip state => Consistent config asks first known state ∧
        ∀ address, ip = some address →
          ReadOnServer config state.events serverIpType address)
      (Consistent config asks first known) := by
  unfold serverAddress
  split
  · rename_i asked
    exact Meets.pure fun _ consistent => ⟨consistent, fun address same =>
      .inl ⟨asked, pod, consistent.happened found, same⟩⟩
  · split
    · rename_i asked
      exact Meets.pure fun _ consistent => ⟨consistent, fun address same =>
        .inr (.inl ⟨asked, pod, consistent.happened found, same⟩)⟩
    · split
      · rename_i asked
        exact (getServiceExternalIp_meets world).weaken (fun _ consistent => consistent)
          (fun _ _ reached =>
            ⟨reached.1, fun address same => .inr (.inr ⟨asked, reached.2 address same⟩)⟩)
          (fun _ kept => kept)
      · exact Meets.throw fun _ kept => kept

private theorem ReadOnServer.mono {fewer more : List Event} {serverIpType address : Text}
    (read : ReadOnServer config fewer serverIpType address) (subset : fewer ⊆ more) :
    ReadOnServer config more serverIpType address := by
  obtain ⟨type, pod, found, has⟩ | ⟨type, pod, found, has⟩ | ⟨type, service⟩ := read
  · exact .inl ⟨type, pod, subset found, has⟩
  · exact .inr (.inl ⟨type, pod, subset found, has⟩)
  · exact .inr (.inr ⟨type, subset service⟩)

private theorem runIperf3_meets (iperf3Command serverIpType : Text) :
    Meets (Consistent config (Call.Asks config (.runIperf3 iperf3Command serverIpType)) first
        known)
      (runIperf3 config world iperf3Command serverIpType)
      (fun _ => Consistent config (Call.Asks config (.runIperf3 iperf3Command serverIpType))
        first known)
      (Consistent config (Call.Asks config (.runIperf3 iperf3Command serverIpType)) first
        known) := by
  have serverRole : role? (lit "server") = some .server := by decide
  have clientRole : role? (lit "client") = some .client := by decide
  refine (getPodByRole_meets world serverRole).bind fun pod => ?_
  refine ((serverAddress_meets world serverIpType List.mem_cons_self).weaken
    (fun _ consistent => consistent) (fun _ _ reached => reached)
    (fun _ kept => Consistent.weaken kept (List.subset_cons_self _ _))).bind
      fun serverIp => ?_
  cases present : presentText serverIp with
  | none =>
      exact Meets.throw fun _ reached => reached.1.weaken (List.subset_cons_self _ _)
  | some address =>
      have given : serverIp = some address := (Option.filter_eq_some_iff.mp present).1
      have runs : Meets (fun state => Consistent config
            (Call.Asks config (.runIperf3 iperf3Command serverIpType)) first
            (.podFound config.serverContext config.serverLabelSelector pod :: known) state ∧
            ∀ address, serverIp = some address →
              ReadOnServer config state.events serverIpType address)
          (runCommandForRole config world (lit "client")
            (iperf3CommandCli address iperf3Command))
          (fun _ => Consistent config
            (Call.Asks config (.runIperf3 iperf3Command serverIpType)) first known)
          (Consistent config (Call.Asks config (.runIperf3 iperf3Command serverIpType)) first
            known) := by
        rintro state ⟨consistent, read⟩
        -- Whatever has happened by now is known to the command.
        have complete : Consistent config
            (Call.Asks config (.runIperf3 iperf3Command serverIpType)) first state.events
            state :=
          ⟨consistent.sound, consistent.pods, consistent.service, List.Subset.refl _⟩
        have subset : known ⊆ state.events :=
          List.Subset.trans (List.subset_cons_self _ _) consistent.happened
        have asked (role : Role) (before : List Event)
            (named : role? (lit "client") = some role) (happened : state.events ⊆ before) :
            Call.Asks config (.runIperf3 iperf3Command serverIpType) before role
              (iperf3CommandCli address iperf3Command) :=
          ⟨Option.some.inj (named.symm.trans clientRole), address,
            (read address given).mono happened, rfl⟩
        exact (runCommandForRole_meets world _ _ asked).weaken (fun _ kept => kept)
          (fun _ _ kept => Consistent.weaken kept subset)
          (fun _ kept => Consistent.weaken kept subset) state complete
      refine runs.bind fun output => ?_
      split
      · exact Meets.throw fun _ kept => kept
      · exact Meets.pure fun _ kept => kept

/-- Every method keeps the caches and the events consistent, however it ends. -/
theorem call_meets (call : Call) :
    Meets (Consistent config (call.Asks config) first known) (call.program config world)
      (fun _ => Consistent config (call.Asks config) first known)
      (Consistent config (call.Asks config) first known) := by
  have reads : Meets (Consistent config (call.Asks config) first known)
      (readBothRoles config world)
      (fun _ => Consistent config (call.Asks config) first known)
      (Consistent config (call.Asks config) first known) := by
    have switches (context : Context) : Meets
        (Consistent config (call.Asks config) first known) (setContext world context)
        (fun _ => Consistent config (call.Asks config) first known)
        (Consistent config (call.Asks config) first known) :=
      (setContext_meets world context).weaken (fun _ consistent => consistent)
        (fun _ _ reached => reached.1) (fun _ kept => kept)
    exact (switches _).bind fun _ => (otherReads_meets world).bind fun _ =>
      (switches _).bind fun _ => otherReads_meets world
  cases call with
  | getPodByRole role =>
      cases known? : role? role with
      | none =>
          exact (getPodByRole_unsupported world known?).bind fun _ =>
            Meets.pure fun _ kept => kept
      | some role =>
          exact (getPodByRole_meets world known?).bind fun _ =>
            Meets.pure fun _ reached => reached.weaken (List.subset_cons_self _ _)
  | getServiceExternalIp =>
      exact (getServiceExternalIp_meets world).bind fun _ =>
        Meets.pure fun _ reached => reached.1
  | runCommandForRole role text =>
      exact (runCommandForRole_meets world role text fun _ _ named _ => ⟨named, rfl⟩).bind
        fun _ => Meets.pure fun _ kept => kept
  | validate =>
      have command (role : Text) :
          Meets (Consistent config (Call.Asks config .validate) first known)
            (runCommandForRole config world role config.validateCommand)
            (fun _ => Consistent config (Call.Asks config .validate) first known)
            (Consistent config (Call.Asks config .validate) first known) :=
        runCommandForRole_meets world role config.validateCommand fun _ _ _ _ => rfl
      simp only [Call.program, validate]
      split
      · exact Meets.pure fun _ kept => kept
      · exact (command _).bind fun _ => (command _).bind fun _ =>
          Meets.pure fun _ kept => kept
  | collect => exact reads
  | configure => exact reads
  | runIperf3 iperf3Command serverIpType =>
      exact (runIperf3_meets world iperf3Command serverIpType).bind fun _ =>
        Meets.pure fun _ kept => kept

end Contracts

/-! ## Sequences of calls -/

section Calls

variable (config : Config) (world : World)

/-- What holds of the caches between two calls. -/
private theorem runCalls_consistent (calls : List Call) {state : State}
    (asks : List Event → Role → Text → Prop)
    (consistent : Consistent config asks state.events [] state) :
    let after := runCalls config world calls state
    Consistent config asks after.events [] after := by
  induction calls generalizing state with
  | nil => exact consistent
  | cons call rest induction =>
      have begun : Consistent config (call.Asks config) state.events [] state :=
        ⟨.refl _ _ _, consistent.pods, consistent.service, List.nil_subset _⟩
      have reached := (call_meets world call).leftBy begun
      exact induction
        ⟨.refl _ _ _, reached.pods, reached.service, List.nil_subset _⟩

private theorem runCalls_snoc (calls : List Call) (call : Call) (state : State) :
    runCalls config world (calls ++ [call]) state =
      leftBy (call.program config world) (runCalls config world calls state) := by
  rw [runCalls, List.foldl_append]
  rfl

/-- The events of one more call follow those before it and are what it asks for. -/
private theorem runCalls_snoc_sound (context : Context) (calls : List Call) (call : Call) :
    SoundFrom config (call.Asks config)
      (runCalls config world calls (initialState context)).events
      (runCalls config world (calls ++ [call]) (initialState context)).events := by
  have start : Consistent config (call.Asks config) (initialState context).events []
      (initialState context) :=
    ⟨.refl _ _ _, fun _ _ cached => (nomatch cached), fun _ cached => (nomatch cached),
      List.nil_subset _⟩
  rw [runCalls_snoc]
  exact ((call_meets world call).leftBy
    (runCalls_consistent config world calls (call.Asks config) start)).sound

/-- In every sequence of calls, with every pattern of failures, each event belongs to one
call of the sequence, and if it is an execution for a role then it happens in that role's
context, names its container, targets a pod found there with its label selector, and runs
a command that this very call asks for: for `run_iperf3`, `iperf3` on the client against
an address that was read in the server's context. -/
theorem commands_run_for_their_role (context : Context) (calls : List Call)
    (before : List Event) (event : Event) (after : List Event)
    (split : (runCalls config world calls (initialState context)).events =
      before ++ event :: after) :
    ∃ earlier call later, calls = earlier ++ call :: later ∧
      (runCalls config world earlier (initialState context)).events <+: before ∧
      before ++ [event] <+:
        (runCalls config world (earlier ++ [call]) (initialState context)).events ∧
      Justified config (call.Asks config) before event := by
  induction calls using List.reverseRecOn generalizing after with
  | nil =>
      have impossible : [] = before ++ event :: after := split
      simp at impossible
  | append_singleton calls call induction =>
      have sound := runCalls_snoc_sound config world context calls call
      have reached : before ++ [event] <+:
          (runCalls config world (calls ++ [call]) (initialState context)).events :=
        ⟨after, by rw [List.append_assoc, split, List.singleton_append]⟩
      cases Nat.lt_or_ge before.length
          (runCalls config world calls (initialState context)).events.length with
      | inr later =>
          have within := List.prefix_of_prefix_length_le sound.continues
            ((List.prefix_append before [event]).trans reached) later
          exact ⟨calls, call, [], rfl, within, reached,
            sound.justified before event after split within⟩
      | inl earlier =>
          -- the event has happened before the last call began
          obtain ⟨rest, same⟩ := List.prefix_of_prefix_length_le reached sound.continues
            (by rw [List.length_append, List.length_singleton]; exact earlier)
          rw [List.append_assoc, List.singleton_append] at same
          obtain ⟨done, own, later, rfl, begun, ended, justified⟩ :=
            induction rest same.symm
          exact ⟨done, own, later ++ [call], by rw [List.append_assoc, List.cons_append],
            begun, ended, justified⟩

end Calls

/-! A command on the server, and then `iperf3` against its cached pod, which fails once. -/

def iperf3PodConfig : Config where
  clientLabelSelector := lit "app=iperf3-client"
  serverLabelSelector := lit "app=iperf3-server"
  clientContainer := lit "iperf3-client"
  serverContainer := lit "iperf3-server"
  clientContext := some (lit "run-client")
  serverContext := some (lit "run-server")
  validateCommand := lit "iperf3 --version"
  serviceName := lit "iperf3-server"
  «namespace» := lit "default"

def serverPod : Pod := ⟨lit "iperf3-server-0", some (lit "10.0.0.4"), none⟩

def clientPod : Pod := ⟨lit "iperf3-client-0", some (lit "10.0.1.4"), none⟩

def failingOnce : World where
  switch _ := none
  pods interaction := .ok (if interaction = 1 then [serverPod] else [clientPod])
  service _ := .ok none
  execution interaction :=
    if interaction = 7 then .error ⟨.external, lit "connection reset"⟩ else .ok (lit "{}")
  other _ := .ok ()

def pastEvents : List Event :=
  [.podFound (some (lit "run-server")) (lit "app=iperf3-server") serverPod,
   .executed .server (some (lit "run-server")) (lit "iperf3-server-0")
     (some (lit "iperf3-server")) (lit "netstat -s"),
   .podFound (some (lit "run-client")) (lit "app=iperf3-client") clientPod,
   .executed .client (some (lit "run-client")) (lit "iperf3-client-0")
     (some (lit "iperf3-client")) (lit "iperf3 -c 10.0.0.4 -t 60 --json")]

theorem retried_iperf3_runs_for_its_role :
    let calls := [.runCommandForRole (lit "server") (lit "netstat -s"),
      .runIperf3 (lit "-t 60") (lit "pod")]
    ∃ earlier call later, calls = earlier ++ call :: later ∧
      (runCalls iperf3PodConfig failingOnce earlier (initialState none)).events <+:
        pastEvents ∧
      pastEvents ++ [.executed .client (some (lit "run-client")) (lit "iperf3-client-0")
          (some (lit "iperf3-client")) (lit "iperf3 -c 10.0.0.4 -t 60 --json")] <+:
        (runCalls iperf3PodConfig failingOnce (earlier ++ [call]) (initialState none)).events ∧
      Justified iperf3PodConfig (call.Asks iperf3PodConfig) pastEvents
        (.executed .client (some (lit "run-client")) (lit "iperf3-client-0")
          (some (lit "iperf3-client")) (lit "iperf3 -c 10.0.0.4 -t 60 --json")) :=
  commands_run_for_their_role iperf3PodConfig failingOnce none _ pastEvents _ [] rfl

end Telescope.Clients
