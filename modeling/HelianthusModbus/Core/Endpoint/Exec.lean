import HelianthusModbus.Core.Endpoint.Region

/-!
# Effects of the Regions

What each region does to the endpoint. The effects of one kind of region are given on
the object they concern and lifted to the endpoint by `Region.exec`, so that a region
visibly leaves every other object alone.

A region that cannot run yet has no effect: a mutex or a gate that is taken, a group
whose mutex is held, a channel that is not closed.

## Main definitions

* `HandleOp.exec`, `OwnerOp.exec`, `GroupTransition.exec`, and so on: The effects on one
  object.
* `TableOp.exec`: The effects on the tables of the endpoint.
-/

namespace HelianthusModbus

/-- `effectiveRequestDeadlineLocked`. -/
def RequestBackoff.effectiveDeadline (backoff : RequestBackoff) : Option Duration :=
  if backoff.deadlineOffset ≤ 0 ∨ backoff.clockDebt < 0 ∨
      backoff.clockDebt ≥ backoff.deadlineOffset then none
  else some (backoff.deadlineOffset - backoff.clockDebt)

/-- Whether the effective deadline of a handle has passed or does not exist. -/
def RequestBackoff.expired (backoff : RequestBackoff) (now : Duration) : Bool :=
  match backoff.effectiveDeadline with
  | none => true
  | some deadline => now ≥ deadline

namespace HandleOp

/-- Ending a handle without a recovery debt. -/
def cleared (backoff : RequestBackoff) : RequestBackoff :=
  { backoff with lifecycle := .terminal, requiresBackoff := false, backoffSatisfied := false }

/-- The checks of `Retry` on the handle. -/
def retryChecked (input : Input) (maxRetries : Int) (backoff : RequestBackoff) :
    RetryEntry × RequestBackoff :=
  if backoff.lifecycle ≠ .retryable then
    (.refused (.protocol .invalidRequest "tcp_request_lifecycle"), backoff)
  else if backoff.backoffWaiting then
    (.refused (.protocol .invalidRequest "reconnect_backoff"), backoff)
  else if backoff.retries ≥ maxRetries then (.attempts, cleared backoff)
  else if backoff.requiresBackoff = true ∧ backoff.backoffSatisfied = false then
    (.refused (.protocol .invalidRequest "reconnect_backoff"), backoff)
  else
    match backoff.effectiveDeadline with
    | none => (.deadline, { backoff with lifecycle := .terminal })
    | some deadline =>
      if input.now ≥ deadline then (.deadline, { backoff with lifecycle := .terminal })
      else (.ready backoff deadline, { backoff with lifecycle := .retrying })

/-- The entry checks of `WaitReconnect` on the handle. -/
def canWait (backoff : RequestBackoff) : Bool :=
  (backoff.lifecycle = .retryable ∨
      (backoff.lifecycle = .terminal ∧ backoff.requiresBackoff = true)) ∧
    backoff.requiresBackoff = true ∧ backoff.backoffSatisfied = false ∧
    backoff.backoffWaiting = false

/-- What one finished delay means for a retained handle. The flag says that the handle
    has to leave the table. -/
def completed (after additionalDebt : Duration) (backoff : RequestBackoff) :
    Bool × RequestBackoff :=
  if backoff.requiresBackoff = false then (false, backoff)
  else if backoff.lifecycle = .terminal then
    (true, { backoff with requiresBackoff := false, backoffSatisfied := false })
  else if backoff.lifecycle ≠ .retryable then (false, backoff)
  else
    let debt := backoff.clockDebt + additionalDebt
    if additionalDebt > maxDuration - backoff.clockDebt ∨
        debt > remainingDuration after ∨ after + debt ≥ backoff.deadlineOffset then
      (true, cleared backoff)
    else (false, { backoff with clockDebt := debt, backoffSatisfied := true })

def exec (input : Input) (maxRetries : Int) (backoff : RequestBackoff) :
    (op : HandleOp) → op.Reply × RequestBackoff
  | .setLifecycle lifecycle => ((), { backoff with lifecycle := lifecycle })
  | .setRetryState lifecycle required =>
    ((), { backoff with
      lifecycle := lifecycle, requiresBackoff := required, backoffSatisfied := false })
  | .requiresBackoff => (backoff.requiresBackoff, backoff)
  | .clear => ((), cleared backoff)
  | .expire now =>
    let after :=
      if backoff.lifecycle = .retryable ∧ backoff.expired now = true then
        { backoff with lifecycle := .terminal, backoffSatisfied := false }
      else backoff
    (after.lifecycle = .terminal ∧ after.requiresBackoff = false, after)
  | .terminalize => ((), { backoff with lifecycle := .terminal, backoffSatisfied := false })
  | .filterReads logicalViewID =>
    ((), { backoff with
      reads := backoff.reads.filter fun logical => logical.logicalViewID ≠ logicalViewID })
  | .retryEntry => retryChecked input maxRetries backoff
  | .restore =>
    let after :=
      if backoff.lifecycle = .retrying then
        { backoff with
          lifecycle := if backoff.expired input.now then .terminal else .retryable }
      else backoff
    (after.lifecycle, after)
  | .waitEntry =>
    if canWait backoff then
      (some (decide (backoff.lifecycle = .terminal), backoff.clockDebt, backoff.deadlineOffset),
        { backoff with backoffWaiting := true })
    else (none, backoff)
  | .stopWaiting => ((), { backoff with backoffWaiting := false })
  | .waitEnd additionalDebt =>
    let after := { backoff with backoffWaiting := false }
    if ¬(backoff.lifecycle = .retryable ∨ backoff.lifecycle = .terminal) ∨
        backoff.requiresBackoff = false then (.changed, after)
    else if additionalDebt > maxDuration - backoff.clockDebt then (.overflow, cleared after)
    else (.kept, after)
  | .completeBackoff after additionalDebt => completed after additionalDebt backoff
  | .outcome => ((backoff.lifecycle, backoff.backoffSatisfied), backoff)

end HandleOp

def OwnerOp.exec (connection : Nat) (owner : TCPConnectionOwner) :
    (op : OwnerOp) → op.Reply × TCPConnectionOwner
  | .reserve unitID request deadline =>
    let reserved := owner.reserve unitID request deadline
    (reserved.1.mapError fun err => [.protocol err], reserved.2)
  | .closed => (owner.closed, owner)
  | .cancelBeforeWrite reservation =>
    let cancelled := owner.cancelBeforeWrite reservation
    (.ofOption cancelled.1, cancelled.2)
  | .wireIdentity reservation =>
    ((owner.reservationWireIdentity reservation).mapError fun err => [.protocol err], owner)
  | .transportCurrent generation => (owner.transportCurrent connection generation, owner)
  | .encode reservation =>
    ((owner.encodeReservation reservation).mapError fun err => [.protocol err], owner)
  | .markWriteInvoked reservation =>
    let marked := owner.markWriteInvoked reservation
    (.ofOption marked.1, marked.2)
  | .recordTransmit reservation result responseDeadline =>
    let recorded := owner.recordTransmitUntil reservation result responseDeadline
    ((recorded.1, .ofOption recorded.2.1), recorded.2.2)
  | .abandonAfterWrite reservation reason =>
    let abandoned := owner.abandonAfterWrite reservation reason
    ((abandoned.1, .ofOption abandoned.2.1), abandoned.2.2)
  | .abandonExpired _ now =>
    let abandoned := owner.abandonExpired now
    ((abandoned.1, abandoned.2.1, .ofOption abandoned.2.2.1), abandoned.2.2.2)
  | .hasTombstones => (owner.hasTombstones, owner)
  | .correlate generation frame =>
    let correlated := owner.correlate generation frame
    ((correlated.1, correlated.2.1.map .protocol), correlated.2.2)
  | .canonicalLive reservation =>
    (match owner.inFlight.lookup reservation.transactionID with
      | none => none
      | some request =>
        if request.generation ≠ reservation.generation then none
        else some (owner.reservationOf request, request.state), owner)
  | .close => owner.close
  | .takePoolSlot => owner.takePoolSlot

/-- The effect on a group and on the owner of its reservation. -/
def GroupTransition.exec (group : CoalescedRead) (owner : TCPConnectionOwner) :
    GroupTransition → GroupReply × CoalescedRead × TCPConnectionOwner
  | .cancel logicalViewID =>
    let cancelled := group.cancelLocked logicalViewID owner
    ({ err := .ofOption cancelled.1.err, released := cancelled.1.released,
       completed := cancelled.1.completed, transport := cancelled.1.transport,
       physicalRequestID := group.physicalRequestID,
       transition := cancelled.1.transition }, cancelled.2)
  | .finishWriteFailure =>
    if group.completed then ({}, group, owner)
    else
      let failed := group.finishWriteFailureLocked
      ({ released := failed.1, completed := true, transport := group.tcpTransport,
         physicalRequestID := group.physicalRequestID }, failed.2, owner)
  | .replay response =>
    let replayed := group.replayLocked response
    let reply : GroupReply :=
      { released := replayed.2.1, completed := replayed.2.2.completed,
        transport := group.tcpTransport, physicalRequestID := group.physicalRequestID }
    match replayed.1 with
    | .error err => ({ reply with err := [.protocol err] }, replayed.2.2, owner)
    | .ok views => ({ reply with views := views }, replayed.2.2, owner)
  | .fail response =>
    let failed := group.failLocked response
    ({ err := .ofOption failed.1, released := failed.2.1, completed := failed.2.2.completed,
       transport := group.tcpTransport, physicalRequestID := group.physicalRequestID },
      failed.2.2, owner)
  | .failTransport =>
    let failed := group.failTransportLocked owner
    ({ err := .ofOption failed.1, released := failed.2.1, completed := failed.2.2.1.completed,
       transport := group.tcpTransport, physicalRequestID := group.physicalRequestID },
      failed.2.2)

namespace EndpointState

/-- The owner of a group's reservation. A group without a reservation never asks. -/
def ownerOf (state : EndpointState) (group : CoalescedRead) : TCPConnectionOwner :=
  (group.owner.bind state.owners.lookup).getD
    { endpoint := "", generation := 0, limits := ⟨0, 0⟩ }

/-- Writing the owner of a group's reservation back. -/
def setOwnerOf (state : EndpointState) (group : CoalescedRead) (owner : TCPConnectionOwner) :
    Table Nat TCPConnectionOwner :=
  match group.owner with
  | none => state.owners
  | some connection =>
    if (state.owners.lookup connection).isSome then state.owners.insert connection owner
    else state.owners

def setGroup (state : EndpointState) (id : Nat) (group : CoalescedRead) : EndpointState :=
  { state with
    system := { state.system with groups := state.system.groups.insert id group } }

/-- A transition of a group. The mutex of the group stays held while dependents have to
    be given back. -/
def transitionGroup (state : EndpointState) (id : Nat) (group : CoalescedRead)
    (transition : GroupTransition) : GroupReply × EndpointState :=
  let changed := transition.exec group (state.ownerOf group)
  let released := if group.scheduled then changed.1.released else 0
  ({ changed.1 with released := released },
    { state.setGroup id changed.2.1 with
      owners := state.setOwnerOf group changed.2.2
      lockedGroups :=
        if released > 0 then state.lockedGroups.insert id () else state.lockedGroups })

/-- A group whose mutex no operation holds across regions. -/
def freeGroup (state : EndpointState) (id : Nat) : Option CoalescedRead :=
  if (state.lockedGroups.lookup id).isSome then none else state.system.groups.lookup id

/-- A group whose mutex is held across regions. -/
def heldGroup (state : EndpointState) (id : Nat) : Option CoalescedRead :=
  if (state.lockedGroups.lookup id).isSome then state.system.groups.lookup id else none

def unlockGroup (state : EndpointState) (id : Nat) : EndpointState :=
  { state with lockedGroups := state.lockedGroups.erase id }

def setScheduler (state : EndpointState) (scheduler : EndpointScheduler) : EndpointState :=
  { state with system := { state.system with scheduler := scheduler } }

end EndpointState

open EndpointState in
def GroupOp.exec (state : EndpointState) (id : Nat) :
    (op : GroupOp) → Option (op.Reply × EndpointState)
  | .physicalRequest => (state.freeGroup id).map fun group => (group.physical, state)
  | .setOperationDeadline deadline => (state.freeGroup id).map fun group =>
    ((), state.setGroup id (group.setOperationDeadline deadline))
  | .bindReservation reservation => (state.freeGroup id).map fun group =>
    let bound := group.bindReservation reservation
      (state.ownerOf { group with owner := reservation.owner })
    (.ofOption bound.1, state.setGroup id bound.2)
  | .prepareWrite transport generation => (state.freeGroup id).map fun group =>
    match group.reservationForTransport transport generation with
    | .error err => (.error [.protocol err], state)
    | .ok reservation =>
      (.ok reservation, { state with lockedGroups := state.lockedGroups.insert id () })
  | .checkBeginWrite transport generation => (state.heldGroup id).map fun group =>
    (.ofOption (group.checkBeginWrite transport generation), state)
  | .beginWrite transport => (state.heldGroup id).map fun group =>
    ((), (state.setGroup id (group.beginWrite transport)).unlockGroup id)
  | .leaveWrite => (state.heldGroup id).map fun _ => ((), state.unlockGroup id)
  | .transition change => (state.freeGroup id).map fun group =>
    state.transitionGroup id group change
  | .release count => (state.heldGroup id).map fun group =>
    ((), (state.setScheduler (state.system.scheduler.releaseDependentCount group count)
      ).unlockGroup id)
  | .activeDependentCount => (state.freeGroup id).map fun group =>
    (group.activeDependentCount, state)

def SchedulerOp.exec (state : EndpointState) : (op : SchedulerOp) → op.Reply × EndpointState
  | .enqueue request =>
    let queued := state.system.scheduler.enqueue request
    (.ofOption queued.1, state.setScheduler queued.2)
  | .scheduleCoalesced request intents =>
    let scheduled := state.system.scheduleCoalesced request intents
    (match scheduled.1.err.toList ++ scheduled.1.scheduling with
      | [] => .ok state.system.nextGroup
      | errs => .error (errs.map .protocol), { state with system := scheduled.2 })
  | .dispatch now =>
    let dispatched := state.system.scheduler.dispatch now
    ((dispatched.1.toOption, dispatched.2.1), state.setScheduler dispatched.2.2)
  | .cancelQueued requestID =>
    let cancelled := state.system.scheduler.cancelQueued requestID
    (match cancelled.1 with
      | .cancelled group => group
      | _ => none, state.setScheduler cancelled.2)
  | .complete requestID =>
    let completed := state.system.scheduler.complete requestID
    (.ofOption completed.1, state.setScheduler completed.2)
  | .requireDispatch id =>
    (match state.system.groups.lookup id with
      | none => []
      | some group =>
        if group.scheduled then .ofOption (state.system.scheduler.requireCoalescedDispatch id)
        else [], state)
  | .finish id =>
    match state.system.groups.lookup id with
    | none => ([], state)
    | some group =>
      let finished := state.system.scheduler.finishScheduling id group
      (.ofOption finished.1, state.setScheduler finished.2)

namespace EndpointTransport

def gateFree (transport : EndpointTransport) : Gate → Bool
  | .write => transport.writeGate
  | .read => transport.readGate

def setGate (transport : EndpointTransport) (free : Bool) : Gate → EndpointTransport
  | .write => { transport with writeGate := free }
  | .read => { transport with readGate := free }

/-- The state of a transport after its socket was closed. -/
def shut (transport : EndpointTransport) : EndpointTransport :=
  { transport with closed := true, claimed := false, coalesced := ∅, closeFailures := [] }

def groups (transport : EndpointTransport) : List Nat :=
  transport.coalesced.entries.map fun entry => entry.2

end EndpointTransport

def Input.closeErr (input : Input) : Err := if input.closeFailed then [.io] else []

/-- The effect of a section of a transport's mutex, or on its gates. -/
def TransportOp.exec (input : Input) (state : EndpointState) (connection : Nat)
    (transport : EndpointTransport) (owner : TCPConnectionOwner) :
    (op : TransportOp) → Option (op.Reply × EndpointTransport × TCPConnectionOwner)
  | .acquireGate gate =>
    match input.interrupted with
    | some cause => some (some cause, transport, owner)
    | none =>
      if transport.gateFree gate then some (none, transport.setGate false gate, owner)
      else none
  | .releaseGate gate => some ((), transport.setGate true gate, owner)
  | .registerCoalesced physicalRequestID id =>
    let idle := match state.system.groups.lookup id with
      | none => true
      | some group => group.completed || group.activeDependentCount == 0
    if idle then some ([], transport, owner)
    else if transport.closed then
      some (.protocol .invalidRequest "closed_transport", transport, owner)
    else
      some ([], { transport with
        coalesced := transport.coalesced.insert physicalRequestID id }, owner)
  | .forgetCoalesced physicalRequestID =>
    some ((), { transport with coalesced := transport.coalesced.erase physicalRequestID }, owner)
  | .closeTerminal =>
    if transport.closed then
      some ({ transition := { closeConnection := true, failed := transport.closeFailures } },
        { transport with closeFailures := [] }, owner)
    else
      let lost := owner.loseTransport connection
      some
        ({ transition :=
             { closeConnection := true, failed := transport.closeFailures ++ lost.1.failed }
           groups := transport.groups, lost := lost.1.closeConnection
           err := input.closeErr }, transport.shut, lost.2)
  | .closeDetached =>
    if transport.closed then some ({}, transport, owner)
    else some ({ groups := transport.groups, err := input.closeErr }, transport.shut, owner)

def BackoffOp.exec (input : Input) (backoff : ReconnectBackoff) :
    (op : BackoffOp) → op.Reply × ReconnectBackoff
  | .base remaining => ((backoff.base remaining).mapError fun err => [.protocol err], backoff)
  | .advance remaining attempt delay =>
    let advanced := backoff.advance remaining attempt delay input.jitter
    (advanced.1.mapError fun err => [.protocol err], advanced.2)
  | .validCorrelatedResponse => ((), backoff.validCorrelatedResponse)

namespace EndpointState

/-- `connectionLocked`: the generation of a registered connection whose lease is live. -/
def connectionLocked (state : EndpointState) (connection : Nat) : Option Nat :=
  if (state.pool.connections.lookup connection).isSome then state.connections.lookup connection
  else none

/-- A registered request. -/
def ref (state : EndpointState) (requestID : Nat) : Option RequestRef :=
  (state.requests.lookup requestID).map fun object =>
    { object := object, request := state.object object }

def updateObject (state : EndpointState) (object : Nat)
    (change : EndpointRequest → EndpointRequest) : EndpointState :=
  { state with objects := state.objects.insert object (change (state.object object)) }

/-- Whether an object is still the registered one. -/
def registered (state : EndpointState) (object : Nat) : Bool :=
  state.requests.lookup (state.object object).requestID = some object

def removeRequestLocked (state : EndpointState) (requestID : Nat) : EndpointState :=
  match state.ref requestID with
  | none => state
  | some ref =>
    { state with
      requests := state.requests.erase requestID
      physical :=
        if ref.request.physicalRequestID ≠ 0 then
          state.physical.erase (ref.request.connectionID, ref.request.physicalRequestID)
        else state.physical }

/-- The registered requests that pass a test, in ascending order. -/
def requestIDs (state : EndpointState) (selected : EndpointRequest → Bool) : List Nat :=
  state.requests.sortedKeys.filter fun requestID =>
    (state.ref requestID).any fun ref => selected ref.request

def takeRequests (state : EndpointState) (requestIDs : List Nat) :
    List RequestRef × EndpointState :=
  (requestIDs.filterMap state.ref, requestIDs.foldl removeRequestLocked state)

/-- Forgetting a connection: its registration, its retired responses and its requests. -/
def forgetConnection (state : EndpointState) (connection : Nat) :
    List RequestRef × EndpointState :=
  let retired := state.retiredPhysical.keys.filter fun key => key.1 = connection
  { state with
    connections := state.connections.erase connection
    retiredPhysical := state.retiredPhysical.eraseAll retired }.takeRequests
    (state.requestIDs fun request => request.connectionID = connection)

/-- Keeping the identity of a response that may still arrive. -/
def retire (state : EndpointState) (connection physicalRequestID : Nat) : EndpointState :=
  { state with
    retiredPhysical := state.retiredPhysical.insert (connection, physicalRequestID) () }

/-- `OpenConnection` from the lock to the unlock of the endpoint. A transport that
    cannot be bound gives its lease back at once. -/
def openConnection (state : EndpointState) (input : Input) :
    Except Err (Nat × Bool) × EndpointState :=
  let pool := state.pool
  if state.closed then (.error invalidEndpointConfig, state)
  else if state.reconnectRequired = true ∧ state.reconnectReady = false then
    (.error (.protocol .invalidRequest "reconnect_backoff"), state)
  else if let some err := input.claimErr then (.error [.protocol err], state)
  else if (pool.connections.entries.length : Int) ≥ state.config.poolLimits.maxConnections then
    (.error (.protocol .invalidRange "connections"), state)
  else if pool.nextConnectionID = 0 then
    (.error (.protocol .invalidRange "connection_identity"), state)
  else if pool.nextGeneration = maxUint64 then
    (.error (.protocol .invalidRange "transport_generation"), state)
  else
    let connection := pool.nextConnectionID
    let generation := pool.nextGeneration + 1
    let advanced := { pool with
      nextConnectionID := nextUint64 connection, nextGeneration := generation }
    match newTCPConnectionOwner state.config.endpoint generation
        state.config.poolLimits.connection with
    | .error err => (.error [.protocol err], { state with pool := advanced })
    | .ok owner =>
      match input.bindErr with
      | some err => (.error [.protocol err], { state with pool := advanced })
      | none =>
        (.ok (connection, state.reconnectRequired),
          { state with
            pool :=
              { advanced with connections := advanced.connections.insert connection () }
            owners := state.owners.insert connection
              { owner with
                connectionID := connection, pooled := true
                boundTransport := some connection }
            transports := state.transports.insert connection { generation := generation }
            connections := state.connections.insert connection generation
            reconnectRequired := false
            reconnectReady := state.reconnectReady && !state.reconnectRequired })

/-- `Close` from the lock to the unlock of the endpoint. -/
def shutdown (state : EndpointState) : Option ShutdownReply × EndpointState :=
  if state.closed then (none, state)
  else
    let taken :=
      { state with
        closed := true
        disableReason := if state.disableReason = "" then "closed" else state.disableReason
        reconnectRequired := false
        reconnectReady := false
        reconnectWaiting := false
        connections := ∅
        retiredPhysical := ∅ }.takeRequests state.requests.sortedKeys
    (some
      { connections := state.connections.sortedKeys, requests := taken.1
        retryable := state.retryable.sortedKeys }, { taken.2 with retryable := ∅ })

def enter (state : EndpointState) (requestID : Nat) (request : EndpointRequest) :
    EndpointState :=
  { state with
    objects := state.objects.insert state.nextObject request
    nextObject := state.nextObject + 1
    requests := state.requests.insert requestID state.nextObject }

/-- The registration at the end of `EnqueueRead` and `EnqueueDeviceID`. -/
def register (state : EndpointState) (requestID : Nat) (request : EndpointRequest)
    (backoff : RequestBackoff) : RegisterReply × EndpointState :=
  if state.closed then (.closed, state)
  else if state.connectionLocked request.connectionID = none then (.stale, state)
  else if state.nextRequestID ≠ requestID then (.identityChanged, state)
  else
    (.registered,
      { state.enter requestID request with
        handles := state.handles.insert requestID backoff
        nextRequestID := nextUint64 state.nextRequestID })

/-- The requests `Dispatch` finds expired, in the order it fails them. -/
def pruneExpired (state : EndpointState) (now : Duration) : List RequestRef × EndpointState :=
  let taken := state.takeRequests (state.requestIDs fun request =>
    (request.phase = .queued ∨ request.phase = .dispatched) ∧ request.operationDeadline ≤ now)
  (taken.1.insertionSort fun first second =>
    first.request.deadlineOffset < second.request.deadlineOffset ∨
      (first.request.deadlineOffset = second.request.deadlineOffset ∧
        first.request.requestID ≤ second.request.requestID), taken.2)

/-- What `Dispatch` does with the request the scheduler selected. -/
def take (state : EndpointState) (requestID : Nat) (now : Duration) :
    TakeReply × EndpointState :=
  match state.ref requestID with
  | none => (.gone, state)
  | some ref =>
    if ref.request.phase ≠ .queued ∨ ref.request.operationDeadline ≤ now then
      (.stale ref, state.removeRequestLocked requestID)
    else if state.connections.lookup ref.request.connectionID ≠
        some ref.request.transportGeneration then
      (.lost ref, state.removeRequestLocked requestID)
    else
      let dispatchID := state.nextDispatchID
      (.taken dispatchID,
        { state.updateObject ref.object fun request =>
            { request with phase := .dispatched, dispatchID := dispatchID } with
          nextDispatchID := nextUint64 dispatchID })

/-- The start of `Write`: the dispatch token is used up and the write gets a channel
    that is closed at its end. -/
def beginWriting (state : EndpointState) (dispatchID requestID : Nat) :
    Option RequestRef × EndpointState :=
  match state.ref requestID with
  | none => (none, state)
  | some ref =>
    if dispatchID = 0 ∨ requestID = 0 ∨ ref.request.phase ≠ .dispatched ∨
        ref.request.dispatchID ≠ dispatchID ∨
        state.connections.lookup ref.request.connectionID ≠
          some ref.request.transportGeneration then (none, state)
    else
      let after :=
        { state.updateObject ref.object fun request =>
            { request with
              phase := .writing, writeCancel := true, writeDone := state.nextChannel } with
          nextChannel := state.nextChannel + 1 }
      (some { ref with request := after.object ref.object }, after)

/-- Binding a registered request to its reservation. -/
def attachPhysical (state : EndpointState) (object : Nat) (reservation : TCPReservation) :
    Bool × EndpointState :=
  let request := state.object object
  if state.registered object = false then (false, state)
  else
    (true,
      { state.updateObject object fun request =>
          { request with
            physicalRequestID := reservation.physicalRequestID
            transactionID := reservation.transactionID } with
        physical := state.physical.insert
          (request.connectionID, reservation.physicalRequestID) request.requestID })

/-- The region of `Write` after the transport write. -/
def finishWrite (state : EndpointState) (object : Nat) (reservation : TCPReservation)
    (failed abandoned : Bool) : FinishWriteReply × EndpointState :=
  let request := state.object object
  if state.registered object = false then (.moved, state)
  else if failed then
    let retired :=
      if abandoned = true ∧ request.physicalRequestID ≠ 0 then
        state.retire request.connectionID request.physicalRequestID
      else state
    (.failed, retired.removeRequestLocked request.requestID)
  else
    match (state.owners.lookup request.connectionID).bind fun owner =>
        owner.responseDeadline reservation with
    | none => (.noDeadline, state.removeRequestLocked request.requestID)
    | some deadline =>
      (.waiting,
        state.updateObject object fun request =>
          { request with
            responseDeadline := deadline, phase := .waiting, writeCancel := false })

/-- `trackRetryableState` under the mutex of the endpoint. A full table gives up the
    oldest handle that does not require a backoff for one that does. -/
def trackRetryable (state : EndpointState) (requestID : Nat) (lifecycle : RequestLifecycle)
    (requiresBackoff : Bool) : TrackReply × EndpointState :=
  let retain := lifecycle = .retryable ∨ lifecycle = .retrying ∨
    (lifecycle = .terminal ∧ requiresBackoff = true)
  if retain ∧ state.closed = false then
    if (state.retryable.lookup requestID).isSome ∨
        (state.retryable.entries.length : Int) <
          state.config.schedulerLimits.maxInFlightRequests then
      ({}, { state with retryable := state.retryable.insert requestID () })
    else if requiresBackoff then
      match state.retryable.sortedKeys.find? fun candidate =>
          (state.handles.lookup candidate).any fun backoff => !backoff.requiresBackoff with
      | none => ({ refused := true }, state)
      | some evicted =>
        ({ evicted := some evicted },
          { state with
            retryable := (state.retryable.erase evicted).insert requestID () })
    else ({ refused := true }, state)
  else
    ({ refused := decide retain },
      { state with retryable := state.retryable.erase requestID })

/-- A handle that `Cancel` and `CancelLogical` find waiting for a retry. -/
def retainedHandle (state : EndpointState) (requestID : Nat) : Option RequestBackoff :=
  if (state.retryable.lookup requestID).isSome then state.handles.lookup requestID else none

/-- Writing back a retained handle that was cancelled. A handle with nothing left to do
    and no debt leaves the table. -/
def cancelRetained (state : EndpointState) (requestID : Nat) (backoff : RequestBackoff) :
    EndpointState :=
  { state with
    handles := state.handles.insert requestID backoff
    retryable :=
      if backoff.lifecycle = .terminal ∧ backoff.requiresBackoff = false then
        state.retryable.erase requestID
      else state.retryable }

/-- The first region of `CancelLogical`. A retained handle is cancelled here. -/
def cancelLookup (state : EndpointState) (requestID logicalViewID : Nat) :
    CancelLookup × EndpointState :=
  match state.ref requestID with
  | some ref =>
    if ref.request.group = none then
      (.refused (.deviceID .invalidRequest "logical_view_id"), state)
    else (.live ref, state)
  | none =>
    match state.retainedHandle requestID with
    | none => (.refused (.protocol .invalidRequest "tcp_request_handle"), state)
    | some backoff =>
      if backoff.lifecycle ≠ .retryable ∧ backoff.lifecycle ≠ .retrying then
        (.refused (.protocol .invalidRequest "tcp_request_lifecycle"), state)
      else if ∀ logical ∈ backoff.reads, logical.logicalViewID ≠ logicalViewID then
        (.refused (.protocol .invalidRequest "logical_view_id"), state)
      else
        let reads := backoff.reads.eraseP fun logical => logical.logicalViewID = logicalViewID
        let after :=
          if reads = [] then
            { backoff with reads := [], lifecycle := .terminal, backoffSatisfied := false }
          -- A retry in progress loses the handle and has to start over.
          else { backoff with reads := reads, lifecycle := .retryable }
        (.cancelled, state.cancelRetained requestID after)

/-- The first region of `Cancel`. -/
def cancelAllLookup (state : EndpointState) (requestID : Nat) :
    CancelAllLookup × EndpointState :=
  match state.ref requestID with
  | some ref =>
    match ref.request.group with
    | none => (.deviceID, state)
    | some id =>
      let dependents : List CoalescedDependent := match state.system.groups.lookup id with
        | none => []
        | some group => group.dependents.filter fun dependent => dependent.state.active
      (.live ((dependents.map fun dependent =>
        dependent.slice.logicalViewID).insertionSort (· ≤ ·)), state)
  | none =>
    match state.retainedHandle requestID with
    | none => (.refused (.protocol .invalidRequest "tcp_request_handle"), state)
    | some backoff =>
      if backoff.lifecycle ≠ .retryable ∧ backoff.lifecycle ≠ .retrying then
        (.refused (.protocol .invalidRequest "tcp_request_lifecycle"), state)
      else
        (.cancelled backoff.reads.length,
          state.cancelRetained requestID
            { backoff with reads := [], lifecycle := .terminal, backoffSatisfied := false })

/-- Taking a Device Identification request out for its cancellation. A response it
    waits for is remembered, and its reservation is named if the lease is live. -/
def removeDevice (state : EndpointState) (ref : RequestRef) :
    CancelDeviceReply × EndpointState :=
  let request := ref.request
  let connected := (state.connections.lookup request.connectionID).isSome
  if request.phase = .waiting ∧ connected = true then
    let owner :=
      if (state.pool.connections.lookup request.connectionID).isSome then
        some request.connectionID
      else none
    (.removed ref connected
      { owner := owner, transactionID := request.transactionID
        physicalRequestID := request.physicalRequestID
        generation := request.transportGeneration, deadlineOffset := request.responseDeadline },
      (state.retire request.connectionID request.physicalRequestID).removeRequestLocked
        request.requestID)
  else (.removed ref connected {}, state.removeRequestLocked request.requestID)

/-- The region of `Cancel` for Device Identification. While the request is being
    written, the write is cancelled and the region is entered again at its end. -/
def cancelDevice (state : EndpointState) (requestID : Nat) (written : Bool) :
    CancelDeviceReply × EndpointState :=
  match state.ref requestID with
  | none => (if written then .gone else .unknown, state)
  | some ref =>
    let request := ref.request
    if written then
      if request.group ≠ none ∨ request.phase ≠ .waiting then (.lifecycle, state)
      else state.removeDevice ref
    else if request.group ≠ none then (.unknown, state)
    else if request.phase = .writing then
      let pending := state.updateObject ref.object fun request =>
        { request with cancelPending := true }
      if request.writeCancel = false ∨ request.writeDone = 0 then (.lifecycle, pending)
      else (.writing request.writeDone, pending)
    else state.removeDevice ref

/-- The registration at the end of `Retry`. -/
def retryRegister (state : EndpointState) (connection requestID : Nat)
    (request : EndpointRequest) : RetryRegisterReply × EndpointState :=
  match state.handles.lookup requestID with
  | none => (.refused false false .terminal, state)
  | some backoff =>
    let current := (state.connectionLocked connection).isSome
    let stillOwned := (state.retryable.lookup requestID).isSome &&
      backoff.lifecycle == .retrying
    if current = false ∨ (state.requests.lookup requestID).isSome ∨ state.closed = true ∨
        stillOwned = false then
      (.refused current stillOwned backoff.lifecycle, state)
    else
      (.registered,
        { state.enter requestID request with
          handles := state.handles.insert requestID
            { backoff with
              retries := backoff.retries + 1, lifecycle := .active, requiresBackoff := false
              backoffSatisfied := false }
          retryable := state.retryable.erase requestID })

/-- `earliestWaitingDeadlineLocked`. -/
def earliestWaitingDeadline (state : EndpointState) (connection : Nat) : Option Duration :=
  let waiting := (state.requests.sortedKeys.filterMap state.ref).filter fun ref =>
    ref.request.connectionID = connection ∧
      (ref.request.phase = .waiting ∨ ref.request.phase = .writing)
  let earliest := waiting.foldl (fun earliest ref =>
    let deadline :=
      if ref.request.responseDeadline ≤ 0 then ref.request.deadlineOffset
      else ref.request.responseDeadline
    if earliest = 0 ∨ deadline < earliest then deadline else earliest) (0 : Duration)
  if earliest > 0 then some earliest else none

def forPhysical (state : EndpointState) (connection physicalRequestID : Nat) :
    Option RequestRef :=
  (state.physical.lookup (connection, physicalRequestID)).bind state.ref

/-- The region of `requeueDeviceIDContinuation` that puts the request back to the
    queued phase. -/
def continueDeviceID (state : EndpointState) (object : Nat) (next : DeviceIDRequest) :
    Bool × EndpointState :=
  let request := state.object object
  if state.registered object = false ∨
      state.connections.lookup request.connectionID = none then (false, state)
  else
    (true,
      { state.updateObject object fun request =>
          { request with
            deviceID := next, phase := .queued, dispatchID := 0, physicalRequestID := 0
            transactionID := 0, responseDeadline := 0 } with
        physical := state.physical.erase (request.connectionID, request.physicalRequestID) })

end EndpointState

open EndpointState in
/-- The effect of a section of the endpoint's mutex, or on a request object. -/
def TableOp.exec (input : Input) (state : EndpointState) :
    (op : TableOp) → op.Reply × EndpointState
  | .handleKnown requestID => ((state.handles.lookup requestID).isSome, state)
  | .openConnection => state.openConnection input
  | .admitRequest connection planValid =>
    (match state.connectionLocked connection with
      | none => .refused
      | some generation =>
        if state.closed = true ∨ planValid = false then .refused
        else if state.nextRequestID = 0 then .exhausted
        else .admitted state.nextRequestID generation, state)
  | .register requestID request backoff => state.register requestID request backoff
  | .dispatchIdentityAvailable => (state.nextDispatchID ≠ 0, state)
  | .pruneExpired now => state.pruneExpired now
  | .take requestID now => state.take requestID now
  | .beginWriting dispatchID requestID => state.beginWriting dispatchID requestID
  | .attachPhysical object reservation => state.attachPhysical object reservation
  | .finishWrite object reservation failed abandoned =>
    state.finishWrite object reservation failed abandoned
  | .closeWriteDone channel =>
    ((), { state with doneChannels := state.doneChannels.insert channel () })
  | .removeRequest requestID => (state.ref requestID, state.removeRequestLocked requestID)
  | .dropConnection connection => state.forgetConnection connection
  | .closeConnection connection =>
    match state.connectionLocked connection with
    | none => (none, state)
    | some _ =>
      let forgotten := state.forgetConnection connection
      (some forgotten.1, forgotten.2)
  | .shutdown => state.shutdown
  | .setDisableReason reason =>
    ((), { state with
      disableReason := if state.disableReason = "" then reason else state.disableReason })
  | .markReconnectRequired _ =>
    ((), if state.closed then state
      else { state with reconnectRequired := true, reconnectReady := false })
  | .requireReconnect =>
    ((), { state with reconnectRequired := true, reconnectReady := false })
  | .trackRetryable requestID lifecycle requiresBackoff =>
    state.trackRetryable requestID lifecycle requiresBackoff
  | .retryableHandles => (state.retryable.sortedKeys, state)
  | .forgetRetryable requestID =>
    ((), { state with retryable := state.retryable.erase requestID })
  | .cancelLookup requestID logicalViewID => state.cancelLookup requestID logicalViewID
  | .cancelAllLookup requestID => state.cancelAllLookup requestID
  | .cancelDevice requestID written => state.cancelDevice requestID written
  | .retirePhysical object =>
    ((), state.retire (state.object object).connectionID
      (state.object object).physicalRequestID)
  | .retryConnection connection requestID =>
    ((state.connectionLocked connection, (state.requests.lookup requestID).isSome), state)
  | .retryRegister connection requestID request =>
    state.retryRegister connection requestID request
  | .beginReconnectWait =>
    if state.reconnectRequired = false ∨ state.reconnectWaiting = true then (false, state)
    else (true, { state with reconnectWaiting := true })
  | .endReconnectWait => ((), { state with reconnectWaiting := false })
  | .completeReconnect =>
    ((), { state with
      reconnectReady := state.reconnectReady || state.reconnectRequired
      reconnectWaiting := false })
  | .lookupConnection connection => (state.connectionLocked connection, state)
  | .earliestWaitingDeadline connection => (state.earliestWaitingDeadline connection, state)
  | .requestForPhysical connection physicalRequestID =>
    (state.forPhysical connection physicalRequestID, state)
  | .failPhysical connection physicalRequestID =>
    match state.forPhysical connection physicalRequestID with
    | none => (none, state)
    | some ref => (some ref, state.removeRequestLocked ref.request.requestID)
  | .retireFailed connection physicalRequestID =>
    ((), state.retire connection physicalRequestID)
  | .takeRetired connection physicalRequestID =>
    ((state.retiredPhysical.lookup (connection, physicalRequestID)).isSome,
      { state with
        retiredPhysical := state.retiredPhysical.erase (connection, physicalRequestID) })
  | .current object => (state.registered object, state)
  | .continueDeviceID object next => state.continueDeviceID object next
  | .readObject object => (state.object object, state)
  | .addSegment object segment =>
    let after := state.updateObject object fun request =>
      { request with deviceIDSegments := request.deviceIDSegments ++ [segment] }
    ((after.object object).deviceIDSegments, after)
  | .setTraversal object traversal =>
    ((), state.updateObject object fun request =>
      { request with deviceIDTraversal := some traversal })

/-- Recording events until the sequence is used up. -/
def EndpointTimeline.record (timeline : EndpointTimeline) (count : Nat) : EndpointTimeline :=
  if timeline.exhausted then timeline
  else
    { sequence := min (timeline.sequence + count) maxUint64
      exhausted := decide (timeline.sequence + count ≥ maxUint64) }

def PoolOp.exec (state : EndpointState) (connection : Nat) :
    (op : PoolOp) → Option (op.Reply × EndpointState)
  | .ownerForEndpoint => some ((state.pool.connections.lookup connection).isSome, state)
  | .retire =>
    if (state.pool.connections.lookup connection).isNone then some (none, state)
    else (state.owners.lookup connection).map fun owner =>
      let retired := owner.retire
      (some retired.1, { state with owners := state.owners.insert connection retired.2 })
  | .remove =>
    some ((), { state with
      pool := { state.pool with connections := state.pool.connections.erase connection } })

/-- The effect of a region, if it can run. -/
def Region.exec : (region : Region) → Input → EndpointState →
    Option (region.Reply × EndpointState)
  | .observe _, input, state => some (input, state)
  | .record count, input, state =>
    some ((), { state with timeline := state.timeline.record (count + input.callbackEvents) })
  | .timelineAvailable, _, state => some (!state.timeline.exhausted, state)
  | .acquire mutex, _, state =>
    if state.held mutex then none
    else some ((), { state with held := Function.update state.held mutex true })
  | .release mutex, _, state =>
    some ((), { state with held := Function.update state.held mutex false })
  | .handle requestID op, input, state =>
    (state.handles.lookup requestID).map fun backoff =>
      let changed := op.exec input state.config.schedulerLimits.maxRetryAttempts backoff
      (changed.1, { state with handles := state.handles.insert requestID changed.2 })
  | .owner connection op, _, state =>
    (state.owners.lookup connection).map fun owner =>
      let changed := op.exec connection owner
      (changed.1, { state with owners := state.owners.insert connection changed.2 })
  | .transport connection op, input, state =>
    (state.transports.lookup connection).bind fun socket =>
      (state.owners.lookup connection).bind fun holder =>
        (op.exec input state connection socket holder).map fun changed =>
          (changed.1, { state with
            transports := state.transports.insert connection changed.2.1
            owners := state.owners.insert connection changed.2.2 })
  | .pool connection op, _, state => op.exec state connection
  | .backoff op, input, state =>
    let changed := op.exec input state.backoff
    some (changed.1, { state with backoff := changed.2 })
  | .scheduler op, _, state => some (op.exec state)
  | .group id op, _, state => op.exec state id
  | .table op, input, state => some (op.exec input state)
  | .awaitWriteDone channel, _, state =>
    if (state.doneChannels.lookup channel).isSome then some ((), state) else none
  | .stuck, _, _ => none

end HelianthusModbus
