import HelianthusModbus.Core.Endpoint.Operation
import HelianthusModbus.Theory.Endpoint.Frames
import HelianthusModbus.Theory.OwnerProgress
import HelianthusModbus.Theory.Delivery

/-!
# The Owners of an Endpoint

What a region does to the owners of the endpoint's connections, and to the groups that
hold their reservations.

A region changes one owner at most, by operations of that owner, or enters a new one under
a connection number that was never used. Only one kind of region marks a request. So a
reservation of some owner is followed through any regions by following one owner, and this
is what `Region.exec_step` is for.

The group of a reservation adds one fact. As long as its write has not begun, whatever
completes the group gives the reservation back on the way.

## Main definitions

* `OwnersStep`, `GroupsStep`, `RegionStep`: What a region does to the owners and to the groups.
* `EndpointState.Orderly`: The owners and groups of an endpoint of a run.

## Theorems

* `Region.exec_step`: Every region is such a step.
* `EndpointState.Orderly.run`: Every endpoint of a run is orderly.
* `EndpointState.Carries.unmarked`, `EndpointState.Carries.last`: What keeps the stage.
* `CoalescedRead.Holds.transition`: Completing an unwritten group gives its reservation back.
-/

namespace HelianthusModbus

/-- What a section of an owner's mutex does to the owner: operations of it, and only one
    kind of section marks a request. -/
theorem OwnerOp.exec_unmarked (connection : Nat) (owner : TCPConnectionOwner) (op : OwnerOp) :
    owner.Unmarked (op.exec connection owner).2 ∨
      ∃ reservation, op = .markWriteInvoked reservation ∧
        (op.exec connection owner).2 = (owner.markWriteInvoked reservation).2 := by
  cases op with
  | markWriteInvoked reservation => exact Or.inr ⟨reservation, rfl, rfl⟩
  | reserve unitID request deadline =>
    exact Or.inl (.call owner (.reserve unitID request deadline) fun _ => rfl)
  | cancelBeforeWrite reservation =>
    exact Or.inl (.call owner (.cancelBeforeWrite reservation) fun _ => rfl)
  | recordTransmit reservation result deadline =>
    exact Or.inl (.call owner (.recordTransmit reservation result deadline) fun _ => rfl)
  | abandonAfterWrite reservation reason =>
    exact Or.inl (.call owner (.abandonAfterWrite reservation reason) fun _ => rfl)
  | abandonExpired site now => exact Or.inl (.call owner (.abandonExpired now) fun _ => rfl)
  | correlate generation frame =>
    exact Or.inl (.call owner (.correlate generation frame) fun _ => rfl)
  | close => exact Or.inl (.call owner .close fun _ => rfl)
  | takePoolSlot => exact Or.inl (.operation owner .takePoolSlot fun _ => rfl)
  | _ => exact Or.inl .refl

namespace CoalescedRead

theorem releaseReservation_unmarked (group : CoalescedRead) (wasAttached : Bool)
    (activeAfter : Nat) (owner : TCPConnectionOwner) :
    owner.Unmarked (group.releaseReservation wasAttached activeAfter owner).2.2 := by
  unfold releaseReservation
  dsimp only
  have hreleased : owner.Unmarked
      (if group.writeBegun = false ∧ activeAfter = 0 ∧ group.owner.isSome then
        owner.cancelBeforeWrite group.reservation else (none, owner)).2 := by
    split
    · exact .call owner (.cancelBeforeWrite group.reservation) fun _ => rfl
    · exact .refl
  split
  · split
    · exact hreleased.trans (TCPConnectionOwner.Unmarked.call _
        (.abandonAfterWrite group.reservation .cancellation) fun _ => rfl)
    · exact hreleased
  · exact hreleased

theorem cancelLocked_unmarked (group : CoalescedRead) (view : Nat) (owner : TCPConnectionOwner) :
    owner.Unmarked (group.cancelLocked view owner).2.2 := by
  unfold cancelLocked
  split
  · exact .refl
  split
  · exact .refl
  split
  · exact .refl
  dsimp only
  split
  · split
    · exact .refl
    next replacement _ =>
    have hreplaced : owner.Unmarked
        (if group.owner.isSome then owner.replaceReservedRead group.reservation replacement
          else (none, owner)).2 := by
      split
      · exact .call owner (.replaceReservedRead group.reservation replacement) fun _ => rfl
      · exact .refl
    split
    · exact hreplaced
    · exact hreplaced
  · split
    · exact group.releaseReservation_unmarked _ _ owner
    · exact group.releaseReservation_unmarked _ _ owner

end CoalescedRead

theorem GroupTransition.exec_unmarked (transition : GroupTransition) (group : CoalescedRead)
    (owner : TCPConnectionOwner) : owner.Unmarked (transition.exec group owner).2.2 := by
  cases transition with
  | cancel logicalViewID => exact group.cancelLocked_unmarked logicalViewID owner
  | finishWriteFailure | replay response =>
    simp only [GroupTransition.exec]
    split
    · exact .refl
    · exact .refl
  | fail response => exact .refl
  | failTransport =>
    simp only [GroupTransition.exec, CoalescedRead.failTransportLocked]
    split
    · exact .refl
    · dsimp only
      split
      · exact .call owner (.cancelBeforeWrite group.reservation) fun _ => rfl
      · exact .refl

/-- What a region does to the owners. -/
inductive OwnersStep (region : Region) (state after : EndpointState) : Prop where
  | same (howners : after.owners = state.owners)
      (hnext : after.pool.nextConnectionID = state.pool.nextConnectionID ∨
        (state.pool.nextConnectionID ≠ 0 ∧
          after.pool.nextConnectionID = nextUint64 state.pool.nextConnectionID))
  | moved (connection : Nat) (owner changed : TCPConnectionOwner)
      (hlook : state.owners.lookup connection = some owner)
      (howners : after.owners = state.owners.insert connection changed)
      (hnext : after.pool.nextConnectionID = state.pool.nextConnectionID)
      (hmoved : owner.Unmarked changed ∨
        ∃ reservation, region = .owner connection (.markWriteInvoked reservation) ∧
          changed = (owner.markWriteInvoked reservation).2)
  | opened (owner) (horderly : owner.Orderly)
      (hconnection : owner.connectionID = state.pool.nextConnectionID)
      (hne : state.pool.nextConnectionID ≠ 0)
      (howners : after.owners = state.owners.insert state.pool.nextConnectionID owner)
      (hnext : after.pool.nextConnectionID = nextUint64 state.pool.nextConnectionID)

/-- What a region does to the groups. -/
inductive GroupsStep (region : Region) (state after : EndpointState) : Prop where
  | same (hgroups : after.system.groups = state.system.groups)
      (hnext : after.system.nextGroup = state.system.nextGroup)
  | scheduled (group)
      (hgroups : after.system.groups = state.system.groups.insert state.system.nextGroup group)
      (hnext : after.system.nextGroup = state.system.nextGroup + 1)
  | changed (id op group changed) (hregion : region = .group id op)
      (hlook : state.system.groups.lookup id = some group)
      (hgroups : after.system.groups = state.system.groups.insert id changed)
      (hnext : after.system.nextGroup = state.system.nextGroup)

/-- What a region does to both. -/
structure RegionStep (region : Region) (state after : EndpointState) : Prop where
  owners : OwnersStep region state after
  groups : GroupsStep region state after

namespace RegionStep

variable {region : Region} {state after : EndpointState}

theorem of_core (h : after.core = state.core) : RegionStep region state after := by
  simp only [EndpointState.core, Prod.mk.injEq] at h
  exact ⟨.same h.1 (Or.inl (by rw [h.2.1])), .same (by rw [h.2.2]) (by rw [h.2.2])⟩

theorem of_scheduler (howners : after.owners = state.owners) (hpool : after.pool = state.pool)
    (hgroups : after.system.groups = state.system.groups)
    (hnext : after.system.nextGroup = state.system.nextGroup) : RegionStep region state after :=
  ⟨.same howners (Or.inl (by rw [hpool])), .same hgroups hnext⟩

theorem of_owner {connection : Nat} {owner changed : TCPConnectionOwner}
    (hlook : state.owners.lookup connection = some owner)
    (howners : after.owners = state.owners.insert connection changed)
    (hpool : after.pool.nextConnectionID = state.pool.nextConnectionID)
    (hsystem : after.system = state.system)
    (hmoved : owner.Unmarked changed ∨
      ∃ reservation, region = .owner connection (.markWriteInvoked reservation) ∧
        changed = (owner.markWriteInvoked reservation).2) : RegionStep region state after :=
  ⟨.moved connection owner changed hlook howners hpool hmoved,
    .same (by rw [hsystem]) (by rw [hsystem])⟩

theorem openConnection (input : Input) :
    RegionStep region state (state.openConnection input).2 := by
  have hsystem := state.system_openConnection input
  refine ⟨?_, .same (by rw [hsystem]) (by rw [hsystem])⟩
  unfold EndpointState.openConnection
  dsimp only
  split
  · exact (of_core rfl).owners
  split
  · exact (of_core rfl).owners
  split
  · exact (of_core rfl).owners
  split
  · exact (of_core rfl).owners
  split
  · exact (of_core rfl).owners
  next hne =>
  split
  · exact (of_core rfl).owners
  split
  · exact .same rfl (Or.inr ⟨hne, rfl⟩)
  next owner hnew =>
  split
  · exact .same rfl (Or.inr ⟨hne, rfl⟩)
  · exact .opened _ (.start hnew _ _ _) rfl hne rfl rfl

/-- A transition of a group works on the group and on the owner of its reservation. -/
theorem transitionGroup {id : Nat} {op : GroupOp} {group : CoalescedRead}
    (hlook : state.system.groups.lookup id = some group) (transition : GroupTransition) :
    RegionStep (.group id op) state (state.transitionGroup id group transition).2 := by
  refine ⟨?_, .changed id op group _ rfl hlook rfl rfl⟩
  have hunmarked := transition.exec_unmarked group (state.ownerOf group)
  cases howner : group.owner with
  | none =>
    refine .same ?_ (Or.inl rfl)
    simp [EndpointState.transitionGroup, EndpointState.setOwnerOf, howner]
  | some connection =>
    cases hlook : state.owners.lookup connection with
    | none =>
      refine .same ?_ (Or.inl rfl)
      simp [EndpointState.transitionGroup, EndpointState.setOwnerOf, howner, hlook]
    | some owner =>
      have hsame : state.ownerOf group = owner := by
        simp [EndpointState.ownerOf, howner, hlook]
      rw [hsame] at hunmarked
      refine .moved connection owner _ hlook ?_ rfl (Or.inl hunmarked)
      simp [EndpointState.transitionGroup, EndpointState.setOwnerOf, howner, hlook, hsame]

end RegionStep

namespace EndpointState

theorem lookup_of_freeGroup {state : EndpointState} {id : Nat} {group : CoalescedRead}
    (h : state.freeGroup id = some group) : state.system.groups.lookup id = some group := by
  unfold freeGroup at h
  split at h
  · cases h
  · exact h

theorem lookup_of_heldGroup {state : EndpointState} {id : Nat} {group : CoalescedRead}
    (h : state.heldGroup id = some group) : state.system.groups.lookup id = some group := by
  unfold heldGroup at h
  split at h
  · exact h
  · cases h

end EndpointState

open EndpointState in
theorem GroupOp.exec_step {state after : EndpointState} {id : Nat} {op : GroupOp}
    {reply : op.Reply} (h : op.exec state id = some (reply, after)) :
    RegionStep (.group id op) state after := by
  cases op with
  | setOperationDeadline deadline | bindReservation reservation =>
    simp only [GroupOp.exec, Option.map_eq_some_iff] at h
    rcases h with ⟨group, hfree, hdone⟩
    cases hdone
    exact ⟨.same rfl (Or.inl rfl), .changed id _ group _ rfl (lookup_of_freeGroup hfree) rfl rfl⟩
  | beginWrite transport =>
    simp only [GroupOp.exec, Option.map_eq_some_iff] at h
    rcases h with ⟨group, hheld, hdone⟩
    cases hdone
    exact ⟨.same rfl (Or.inl rfl), .changed id _ group _ rfl (lookup_of_heldGroup hheld) rfl rfl⟩
  | transition change =>
    simp only [GroupOp.exec, Option.map_eq_some_iff] at h
    rcases h with ⟨group, hfree, hdone⟩
    have hafter : (state.transitionGroup id group change).2 = after := congrArg Prod.snd hdone
    rw [← hafter]
    exact .transitionGroup (lookup_of_freeGroup hfree) change
  | prepareWrite transport generation =>
    simp only [GroupOp.exec, Option.map_eq_some_iff] at h
    rcases h with ⟨group, _, hdone⟩
    split at hdone
    · cases hdone
      exact .of_core rfl
    · cases hdone
      exact .of_core rfl
  | _ =>
    simp only [GroupOp.exec, Option.map_eq_some_iff] at h
    rcases h with ⟨group, _, hdone⟩
    cases hdone
    exact .of_scheduler rfl rfl rfl rfl

theorem SchedulerOp.exec_step {region : Region} (state : EndpointState) (op : SchedulerOp) :
    RegionStep region state (op.exec state).2 := by
  cases op with
  | scheduleCoalesced request intents =>
    refine ⟨.same rfl (Or.inl rfl), ?_⟩
    simp only [SchedulerOp.exec, SchedulerSystem.scheduleCoalesced]
    split
    · exact .same rfl rfl
    · split
      · exact .same rfl rfl
      · split
        · exact .same rfl rfl
        · exact .scheduled _ rfl rfl
  | finish id =>
    simp only [SchedulerOp.exec]
    split
    · exact .of_core rfl
    · exact .of_scheduler rfl rfl rfl rfl
  | _ => exact .of_scheduler rfl rfl rfl rfl

theorem TransportOp.exec_unmarked {input : Input} {state : EndpointState}
    {connection : Nat} {socket : EndpointTransport} {owner : TCPConnectionOwner}
    {op : TransportOp} {done : op.Reply × EndpointTransport × TCPConnectionOwner}
    (h : op.exec input state connection socket owner = some done) :
    owner.Unmarked done.2.2 := by
  cases op with
  | closeTerminal =>
    simp only [TransportOp.exec] at h
    split at h
    · cases h
      exact .refl
    · cases h
      exact .call owner (.loseTransport connection) fun _ => rfl
  | acquireGate gate =>
    simp only [TransportOp.exec] at h
    split at h
    · cases h
      exact .refl
    · split at h
      · cases h
        exact .refl
      · cases h
  | registerCoalesced physicalRequestID id =>
    simp only [TransportOp.exec] at h
    split_ifs at h
    · cases h
      exact .refl
    · cases h
      exact .refl
    · cases h
      exact .refl
  | closeDetached =>
    simp only [TransportOp.exec] at h
    split at h
    · cases h
      exact .refl
    · cases h
      exact .refl
  | _ =>
    cases h
    exact .refl

/-- Every region changes the owners and the groups in one of these ways. -/
theorem Region.exec_step {region : Region} {input : Input} {state after : EndpointState}
    {reply : region.Reply} (h : region.exec input state = some (reply, after)) :
    RegionStep region state after := by
  cases region with
  | owner connection op =>
    simp only [Region.exec, Option.map_eq_some_iff] at h
    rcases h with ⟨owner, hlook, hdone⟩
    cases hdone
    refine .of_owner hlook rfl rfl rfl ?_
    -- Only the section that marks a write can set a mark.
    rcases op.exec_unmarked connection owner with hunmarked | ⟨reservation, rfl, hmarked⟩
    · exact Or.inl hunmarked
    · exact Or.inr ⟨reservation, rfl, hmarked⟩
  | transport connection op =>
    simp only [Region.exec, Option.bind_eq_some_iff, Option.map_eq_some_iff] at h
    rcases h with ⟨socket, _, owner, hlook, done, hexec, hdone⟩
    cases hdone
    exact .of_owner hlook rfl rfl rfl (Or.inl (op.exec_unmarked hexec))
  | pool connection op =>
    cases op with
    | ownerForEndpoint =>
      cases h
      exact .of_core rfl
    | retire =>
      simp only [Region.exec, PoolOp.exec] at h
      split at h
      · cases h
        exact .of_core rfl
      · rw [Option.map_eq_some_iff] at h
        rcases h with ⟨owner, hlook, hdone⟩
        cases hdone
        exact .of_owner hlook rfl rfl rfl (Or.inl (.call owner .retire fun _ => rfl))
    | remove =>
      cases h
      exact ⟨.same rfl (Or.inl rfl), .same rfl rfl⟩
  | scheduler op =>
    simp only [Region.exec, Option.some.injEq] at h
    have hafter : (op.exec state).2 = after := congrArg Prod.snd h
    rw [← hafter]
    exact op.exec_step state
  | group id op => exact op.exec_step h
  | table op =>
    simp only [Region.exec, Option.some.injEq] at h
    have hafter : (op.exec input state).2 = after := congrArg Prod.snd h
    rw [← hafter]
    -- No other section of the tables reaches the owners and the groups.
    by_cases hop : op = .openConnection
    · subst hop
      exact .openConnection input
    · exact .of_core (op.core_exec input state hop)
  | acquire mutex =>
    simp only [Region.exec] at h
    split at h
    · cases h
    · cases h
      exact .of_core rfl
  | handle requestID op =>
    simp only [Region.exec, Option.map_eq_some_iff] at h
    rcases h with ⟨backoff, _, hdone⟩
    cases hdone
    exact .of_core rfl
  | awaitWriteDone channel =>
    simp only [Region.exec] at h
    split at h
    · cases h
      exact .of_core rfl
    · cases h
  | stuck => cases h
  | _ =>
    cases h
    exact .of_core rfl

/-- Operations of an owner keep it orderly, and they keep its connection. -/
theorem TCPConnectionOwner.Orderly.moved {region : Region} {connection : Nat}
    {owner changed : TCPConnectionOwner} (h : owner.Orderly)
    (hmoved : owner.Unmarked changed ∨
      ∃ reservation, region = .owner connection (.markWriteInvoked reservation) ∧
        changed = (owner.markWriteInvoked reservation).2) :
    changed.Orderly ∧ changed.connectionID = owner.connectionID := by
  rcases hmoved with hunmarked | ⟨reservation, _, rfl⟩
  · induction hunmarked with
    | refl => exact ⟨h, rfl⟩
    | tail _ hstep ih =>
      rcases hstep with ⟨operation, _, rfl⟩
      exact ⟨ih.1.operate operation, (ih.1.tracked.operate_frame operation).1.trans ih.2⟩
  · exact ⟨h.operate (.call (.markWriteInvoked reservation)),
      (h.tracked.operate_frame (.call (.markWriteInvoked reservation))).1⟩

namespace EndpointState

/-- The owners and groups of an endpoint of a run are filed under their own numbers, which
    were all handed out before. -/
structure Orderly (state : EndpointState) : Prop where
  next_le : state.pool.nextConnectionID ≤ maxUint64
  owners : ∀ connection owner, state.owners.lookup connection = some owner →
    HandedOut connection state.pool.nextConnectionID ∧ owner.connectionID = connection ∧
      owner.Orderly
  groups : ∀ id group, state.system.groups.lookup id = some group → id < state.system.nextGroup

theorem Orderly.start {config : TCPEndpointConfig} {state : EndpointState}
    (hnew : newTCPEndpoint config = .ok state) : state.Orderly := by
  unfold newTCPEndpoint at hnew
  split at hnew
  · cases hnew
  split at hnew
  · cases hnew
  split at hnew
  · cases hnew
    refine ⟨show 1 ≤ maxUint64 by decide, fun connection owner hlook => ?_,
      fun id group hlook => ?_⟩
    · cases (AList.lookup_empty connection).symm.trans hlook
    · cases (AList.lookup_empty id).symm.trans hlook
  · cases hnew
  · cases hnew

theorem Orderly.region {region : Region} {input : Input} {state after : EndpointState}
    {reply : region.Reply} (h : state.Orderly)
    (hexec : region.exec input state = some (reply, after)) :
    after.Orderly where
  next_le := by
    rcases (Region.exec_step hexec).owners with ⟨_, hnext | ⟨_, hnext⟩⟩ |
      ⟨_, _, _, _, _, hnext, _⟩ | ⟨_, _, _, _, _, hnext⟩
    · rw [hnext]
      exact h.next_le
    · rw [hnext]
      exact nextUint64_le _
    · rw [hnext]
      exact h.next_le
    · rw [hnext]
      exact nextUint64_le _
  owners := by
    intro connection owner hlook
    -- The owners stay, one of them moves, or one is opened under the next number.
    rcases (Region.exec_step hexec).owners with ⟨howners, hnext⟩ |
      ⟨moved, old, changed, hold, howners, hnext, hmoved⟩ |
      ⟨opened, horderly, hconnection, hne, howners, hnext⟩
    · rw [howners] at hlook
      rcases h.owners connection owner hlook with ⟨hpast, hfiled⟩
      refine ⟨?_, hfiled⟩
      rcases hnext with hnext | ⟨hne, hnext⟩
      · rw [hnext]
        exact hpast
      · rw [hnext]
        exact hpast.step h.next_le hne
    · rw [hnext]
      rw [howners, Table.lookup_insert_ite] at hlook
      split_ifs at hlook with heq
      · cases hlook
        rcases h.owners moved old hold with ⟨hpast, hfiled, horderly⟩
        rcases horderly.moved hmoved with ⟨horderly', hsame⟩
        rw [heq]
        exact ⟨hpast, hsame.trans hfiled, horderly'⟩
      · exact h.owners connection owner hlook
    · rw [hnext]
      rw [howners, Table.lookup_insert_ite] at hlook
      split_ifs at hlook with heq
      · cases hlook
        rw [heq]
        exact ⟨.self _ h.next_le hne, hconnection, horderly⟩
      · rcases h.owners connection owner hlook with ⟨hpast, hfiled⟩
        exact ⟨hpast.step h.next_le hne, hfiled⟩
  groups := by
    intro id group hlook
    rcases (Region.exec_step hexec).groups with ⟨hgroups, hnext⟩ | ⟨_, hgroups, hnext⟩ |
      ⟨changed, _, old, _, _, hold, hgroups, hnext⟩
    · rw [hnext]
      rw [hgroups] at hlook
      exact h.groups id group hlook
    · rw [hnext]
      rw [hgroups, Table.lookup_insert_ite] at hlook
      split_ifs at hlook with heq
      · omega
      · exact Nat.lt_succ_of_lt (h.groups id group hlook)
    · rw [hnext]
      rw [hgroups, Table.lookup_insert_ite] at hlook
      split_ifs at hlook with heq
      · rw [heq]
        exact h.groups changed old hold
      · exact h.groups id group hlook

theorem Orderly.run {state after : EndpointState} (h : state.Orderly)
    (regions : List (Region × Input)) (hrun : Region.run state regions = some after) :
    after.Orderly := by
  induction regions generalizing state with
  | nil =>
    cases hrun
    exact h
  | cons step rest ih =>
    simp only [Region.run] at hrun
    split at hrun
    · cases hrun
    · next reply next hexec => exact ih (h.region hexec) hrun

/-- An endpoint with an owner whose reservation is at a stage. -/
structure Carries (state : EndpointState) (connection : Nat) (reservation : TCPReservation)
    (stage : TCPReservation.Stage) (owner : TCPConnectionOwner) : Prop where
  orderly : state.Orderly
  look : state.owners.lookup connection = some owner
  issued : reservation.IssuedBy owner
  at_stage : reservation.At owner stage

variable {state after : EndpointState} {connection : Nat} {reservation : TCPReservation}
  {stage : TCPReservation.Stage} {owner : TCPConnectionOwner} {region : Region} {input : Input}
  {reply : region.Reply}

section Carrying

variable (h : state.Carries connection reservation stage owner)
include h

theorem Carries.own : reservation.owner = some connection := by
  rw [h.issued.own, (h.orderly.owners connection owner h.look).2.1]

/-- A region keeps the stage of a reservation if every operation it can perform on the
    owner does. -/
theorem Carries.step (hexec : region.exec input state = some (reply, after))
    (hmark : ∀ other, region = .owner connection (.markWriteInvoked other) →
      reservation.At (owner.markWriteInvoked other).2 stage) :
    ∃ changed, after.Carries connection reservation stage changed := by
  have horderly := h.orderly.region hexec
  rcases (Region.exec_step hexec).owners with ⟨howners, _⟩ |
    ⟨moved, old, changed, hold, howners, _, hmoved⟩ | ⟨opened, _, _, hne, howners, _⟩
  · exact ⟨owner, horderly, by rw [howners]; exact h.look, h.issued, h.at_stage⟩
  · by_cases heq : connection = moved
    · subst heq
      rw [h.look, Option.some.injEq] at hold
      subst hold
      have hlook : after.owners.lookup connection = some changed := by
        rw [howners]
        exact AList.lookup_insert _
      rcases hmoved with hunmarked | ⟨other, hregion, rfl⟩
      · rcases h.at_stage.unmarked h.issued hunmarked with ⟨hissued, hstage⟩
        exact ⟨changed, horderly, hlook, hissued, hstage⟩
      · exact ⟨_, horderly, hlook, h.issued.operate (.call (.markWriteInvoked other)),
          hmark other hregion⟩
    · refine ⟨owner, horderly, ?_, h.issued, h.at_stage⟩
      rw [howners, AList.lookup_insert_ne heq]
      exact h.look
  · refine ⟨owner, horderly, ?_, h.issued, h.at_stage⟩
    have hpast := (h.orderly.owners connection owner h.look).1
    rw [howners, AList.lookup_insert_ne (hpast.ne hne)]
    exact h.look

theorem Carries.unmarked (hexec : region.exec input state = some (reply, after))
    (hmarks : ∀ other, region = .owner connection (.markWriteInvoked other) →
      other.physicalRequestID ≠ reservation.physicalRequestID) :
    ∃ changed, after.Carries connection reservation stage changed :=
  h.step hexec fun other hregion =>
    h.at_stage.operate h.issued (.call (.markWriteInvoked other))
      (decide_eq_false (hmarks other hregion))

theorem Carries.last (hlast : stage = .settled ∨ stage = .gone)
    (hexec : region.exec input state = some (reply, after)) :
    ∃ changed, after.Carries connection reservation stage changed :=
  h.step hexec fun other _ =>
    h.at_stage.operate_last hlast h.issued (.call (.markWriteInvoked other))

theorem Carries.ownerOp {op : OwnerOp} {answer : op.Reply}
    (hexec : (Region.owner connection op).exec input state = some (answer, after)) :
    answer = (op.exec connection owner).1 ∧ after.Orderly ∧ after.system = state.system ∧
      after.owners.lookup connection = some (op.exec connection owner).2 := by
  have horderly := h.orderly.region hexec
  simp only [Region.exec, h.look, Option.map_some, Option.some.injEq] at hexec
  cases hexec
  exact ⟨rfl, horderly, rfl, AList.lookup_insert _⟩

end Carrying

end EndpointState

namespace CoalescedRead

/-- A group that holds a reservation and whose write has not begun. If it is complete, the
    reservation is gone. -/
structure Holds (group : CoalescedRead) (reservation : TCPReservation)
    (owner : TCPConnectionOwner) : Prop where
  physicalRequestID : group.physicalRequestID = reservation.physicalRequestID
  owner_eq : group.owner = reservation.owner
  reservation_eq : group.reservation = reservation
  unbegun : group.writeBegun = false
  gone : group.completed = true → reservation.At owner .gone

variable {group after : CoalescedRead} {reservation : TCPReservation}
  {owner changed : TCPConnectionOwner}

theorem Holds.same (h : group.Holds reservation owner) (hsame : group.SameBinding after)
    (hbegun : after.writeBegun = group.writeBegun)
    (hgone : after.completed = true → reservation.At changed .gone) :
    after.Holds reservation changed where
  physicalRequestID := hsame.physicalRequestID.trans h.physicalRequestID
  owner_eq := hsame.owner.trans h.owner_eq
  reservation_eq := hsame.reservation.trans h.reservation_eq
  unbegun := hbegun.trans h.unbegun
  gone := hgone

section Unwritten

variable (h : group.Holds reservation owner) (hissued : reservation.IssuedBy owner)
  (hreserved : reservation.At owner .reserved)
include h hissued hreserved

theorem Holds.failTransport : reservation.At (group.failTransportLocked owner).2.2.2 .gone := by
  unfold failTransportLocked
  split
  · next hcompleted => exact h.gone hcompleted
  · have hsome : group.owner.isSome = true := by
      rw [h.owner_eq, hissued.own]
      rfl
    simp only [hsome, h.unbegun, and_self, if_true, h.reservation_eq]
    exact hreserved.cancelBeforeWrite hissued

/-- The last dependent of an unwritten group gives the reservation back. -/
theorem Holds.releaseReservation (wasAttached : Bool) :
    reservation.At (group.releaseReservation wasAttached 0 owner).2.2 .gone := by
  have hsome : group.owner.isSome = true := by
    rw [h.owner_eq, hissued.own]
    rfl
  have hgone := hreserved.cancelBeforeWrite hissued
  have hissued' := hissued.operate (.call (.cancelBeforeWrite reservation))
  simp only [CoalescedRead.releaseReservation, hsome, h.unbegun, and_self, if_true,
    h.reservation_eq]
  split
  · exact hgone.operate hissued' (.call (.abandonAfterWrite reservation .cancellation)) rfl
  · exact hgone

/-- A cancelled dependent of an unwritten group completes it only as the last one. -/
theorem Holds.cancel (view : Nat) :
    (group.cancelLocked view owner).2.1.Holds reservation (group.cancelLocked view owner).2.2 := by
  unfold cancelLocked
  split
  · exact h
  next hopen =>
  have hkept : ∀ changed, group.Holds reservation changed :=
    fun changed => h.same (.refl group) rfl fun hcompleted => absurd hcompleted hopen
  split
  · exact h
  next dependent hfind =>
  split
  · exact h
  next hactive =>
  rw [Bool.not_eq_false] at hactive
  have hcount := countP_markCancelled view group.dependents dependent hfind hactive
  dsimp only
  -- While others are active the request only shrinks, and the group stays open.
  split
  · next hshrink =>
    split
    · exact h
    next replacement _ =>
    split
    · exact hkept _
    · refine h.same (group.without_binding view (some replacement))
        (group.without_writeBegun view (some replacement)) fun hcompleted => ?_
      have hzero : (group.completed || (markCancelled view group.dependents).countP
          (fun dependent => dependent.state.active) == 0) = true := hcompleted
      rw [Bool.or_eq_true, beq_iff_eq] at hzero
      have hleft : 0 < group.dependents.countP (fun dependent => dependent.state.active) - 1 :=
        hshrink.2
      rcases hzero with hclosed | hzero
      · exact absurd hclosed hopen
      · omega
  -- The last one completes the group, so the reservation has to go back.
  · next hlast =>
    have hnone : group.activeDependentCount - 1 = 0 := by
      by_contra hsome
      exact hlast ⟨h.unbegun, Nat.pos_of_ne_zero hsome⟩
    rw [hnone]
    split
    · exact hkept _
    · refine h.same (group.without_binding view none) (group.without_writeBegun view none) ?_
      exact fun _ => h.releaseReservation hissued hreserved _

/-- Whatever completes an unwritten group gives its reservation back. -/
theorem Holds.transition (transition : GroupTransition)
    (hother : transition ≠ .finishWriteFailure) :
    (transition.exec group owner).2.1.Holds reservation (transition.exec group owner).2.2 := by
  cases transition with
  | cancel view => exact h.cancel hissued hreserved view
  | finishWriteFailure => exact absurd rfl hother
  | replay response =>
    have hrefused : group.replayMatches response = false := by
      simp [replayMatches, h.unbegun]
    simp only [GroupTransition.exec, replayLocked, hrefused, if_true]
    exact h
  | fail response =>
    simp only [GroupTransition.exec, failLocked, h.unbegun, or_true, true_or, if_true]
    exact h
  | failTransport =>
    refine h.same ?_ ?_ fun _ => h.failTransport hissued hreserved
    · simp only [GroupTransition.exec, failTransportLocked]
      split
      · exact .refl group
      · exact ⟨rfl, rfl, rfl, rfl⟩
    · simp only [GroupTransition.exec, failTransportLocked]
      split
      · rfl
      · rfl

end Unwritten

end CoalescedRead

namespace EndpointState

variable {state after : EndpointState} {connection id : Nat} {reservation : TCPReservation}
  {owner : TCPConnectionOwner} {group : CoalescedRead}

theorem Carries.transition (h : state.Carries connection reservation .reserved owner)
    (hholds : group.Holds reservation owner) (id : Nat) (transition : GroupTransition) :
    (state.transitionGroup id group transition).2.owners.lookup connection =
        some (transition.exec group owner).2.2 ∧
      (state.transitionGroup id group transition).2.system.groups.lookup id =
        some (transition.exec group owner).2.1 := by
  have howner : group.owner = some connection := hholds.owner_eq.trans h.own
  have hsame : state.ownerOf group = owner := by
    simp [ownerOf, howner, h.look]
  simp only [transitionGroup, setOwnerOf, setGroup, howner, h.look, hsame, Option.isSome_some,
    if_true]
  exact ⟨AList.lookup_insert _, AList.lookup_insert _⟩

/-- A section of the mutex of a group that is not part of its write. -/
theorem Carries.groupOp (h : state.Carries connection reservation .reserved owner)
    (hlook : state.system.groups.lookup id = some group)
    (hholds : group.Holds reservation owner) {op : GroupOp} {reply : op.Reply}
    (hexec : op.exec state id = some (reply, after))
    (hbegin : ∀ transport, op ≠ .beginWrite transport)
    (hfail : op ≠ .transition .finishWriteFailure) :
    ∃ changed kept, after.owners.lookup connection = some changed ∧
      after.system.groups.lookup id = some kept ∧ kept.Holds reservation changed := by
  have hfound : ∀ found, state.freeGroup id = some found → found = group := by
    intro found hfree
    exact Option.some.inj ((lookup_of_freeGroup hfree).symm.trans hlook)
  cases op with
  | beginWrite transport => exact absurd rfl (hbegin transport)
  | transition change =>
    simp only [GroupOp.exec, Option.map_eq_some_iff] at hexec
    rcases hexec with ⟨found, hfree, hdone⟩
    have hafter : (state.transitionGroup id found change).2 = after := congrArg Prod.snd hdone
    rw [← hafter, hfound found hfree]
    have hother : change ≠ .finishWriteFailure := by
      rintro rfl
      exact hfail rfl
    exact ⟨_, _, (h.transition hholds id change).1, (h.transition hholds id change).2,
      hholds.transition h.issued h.at_stage change hother⟩
  | setOperationDeadline deadline =>
    simp only [GroupOp.exec, Option.map_eq_some_iff] at hexec
    rcases hexec with ⟨found, hfree, hdone⟩
    cases hdone
    rw [hfound found hfree]
    refine ⟨owner, _, h.look, AList.lookup_insert _, ?_⟩
    unfold CoalescedRead.setOperationDeadline
    split
    · exact hholds
    · exact hholds.same ⟨rfl, rfl, rfl, rfl⟩ rfl hholds.gone
  | bindReservation other =>
    simp only [GroupOp.exec, Option.map_eq_some_iff] at hexec
    rcases hexec with ⟨found, hfree, hdone⟩
    cases hdone
    rw [hfound found hfree]
    refine ⟨owner, _, h.look, AList.lookup_insert _, ?_⟩
    -- A group that is bound refuses a second reservation.
    have hbound : group.physicalRequestID ≠ 0 := by
      rw [hholds.physicalRequestID]
      exact h.issued.handedOut.1
    unfold CoalescedRead.bindReservation
    rw [if_pos (Or.inr (Or.inr (Or.inl hbound)))]
    exact hholds
  | prepareWrite transport generation =>
    simp only [GroupOp.exec, Option.map_eq_some_iff] at hexec
    rcases hexec with ⟨found, hfree, hdone⟩
    split at hdone
    · cases hdone
      exact ⟨owner, group, h.look, hlook, hholds⟩
    · cases hdone
      exact ⟨owner, group, h.look, hlook, hholds⟩
  | _ =>
    simp only [GroupOp.exec, Option.map_eq_some_iff] at hexec
    rcases hexec with ⟨found, _, hdone⟩
    cases hdone
    exact ⟨owner, group, h.look, hlook, hholds⟩

end EndpointState

end HelianthusModbus
