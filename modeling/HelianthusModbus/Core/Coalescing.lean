import HelianthusModbus.Core.Owner

/-!
# Coalesced Reads

Several logical reads of overlapping register ranges share one physical request.
A group holds that request together with its dependents, one for each logical
view, and follows every dependent to exactly one terminal state.

Until the write begins, a cancelled dependent shrinks the physical request to
what the others still need, and the owner's reservation is replaced along with
it. After the write has begun the request cannot change any more, so a cancelled
dependent is only marked, and cancelling the last one abandons the request.

The functions here are the parts of the group's methods that run under its own
mutex, with the owner they consult as an argument and result. Each of them
reports how many dependents stopped being active. The caller gives that number
back to the scheduler, which is the one thing they do outside the group and the
owner.

## Main definitions

* `ReadIntent`: One logical read with its coalescing identity.
* `CoalescedRead`: The group.
* `coalesceReads`: Building a group from its intents.
* `CoalescedRead.cancelLocked`: Cancelling one dependent.
* `CoalescedRead.replayLocked`: Delivering a response to the dependents.
* `CoalescedRead.failLocked`, `CoalescedRead.failTransportLocked`,
  `CoalescedRead.finishWriteFailureLocked`: The three ways a group fails.
-/

namespace HelianthusModbus

def maxCoalescedDependents : Int := 4096

/-- Queue capacity is isolated by authorization scope and unit. -/
structure AdmissionKey where
  authorizationScope : String := ""
  unitID : UInt8 := 0
  deriving DecidableEq, Repr, Inhabited

/-- Every field two reads must share to be coalesced, and the read itself. -/
structure ReadIntentSpec where
  logicalViewID : Nat
  endpoint : String
  transport : TransportFamily
  transportGeneration : Nat
  unitID : UInt8
  authorizationScope : String
  pollGeneration : Nat
  deadlineIdentity : Nat
  request : ReadRegistersRequest
  deriving DecidableEq, Repr

structure ReadIntent where
  spec : ReadIntentSpec
  deriving DecidableEq, Repr

def newReadIntent (spec : ReadIntentSpec) : Except ProtocolError ReadIntent :=
  if spec.logicalViewID = 0 ∨ spec.endpoint = "" ∨
      (spec.transport ≠ .tcp ∧ spec.transport ≠ .rtu) ∨ spec.transportGeneration = 0 ∨
      spec.unitID > 247 ∨ (spec.unitID = 0 ∧ spec.transport ≠ .tcp) ∨
      spec.authorizationScope = "" ∨ spec.pollGeneration = 0 ∨ spec.deadlineIdentity = 0 then
    .error (protocolError .invalidRequest spec.request.function 0 "read_intent" (-1))
  else
    match validateReadRegistersRequest spec.request with
    | .error err => .error err
    | .ok () => .ok { spec := spec }

inductive DependentState where
  | queued
  | attached
  | cancelled
  | delivered
  | failed
  deriving DecidableEq, Repr

def DependentState.active : DependentState → Bool
  | .queued => true
  | .attached => true
  | _ => false

/-- Where a logical read lies inside the physical response. -/
structure CoalescedSlice where
  logicalViewID : Nat
  logicalOffset : Nat
  logicalWords : Nat
  sliceOffset : Nat
  sliceWordCount : Nat
  deriving DecidableEq, Repr

structure CoalescedDependent where
  slice : CoalescedSlice
  state : DependentState
  deriving DecidableEq, Repr

/-- One physical request with its logical dependents. `scheduled` says that a
    scheduler admitted it, and `tcpTransport` names the transport its write was
    begun on. -/
structure CoalescedRead where
  physical : ReadRegistersRequest
  dependents : List CoalescedDependent
  endpoint : String
  transport : TransportFamily
  intentGeneration : Nat
  unitID : UInt8
  authorizationScope : String
  pollGeneration : Nat
  deadlineIdentity : Nat
  operationDeadline : Duration := 0
  owner : Option Nat := none
  reservation : TCPReservation := {}
  physicalRequestID : Nat := 0
  generation : Nat := 0
  writeBegun : Bool := false
  completed : Bool := false
  scheduled : Bool := false
  admissionKey : AdmissionKey := {}
  tcpTransport : Option Nat := none
  deriving DecidableEq, Repr

def subUint16 (a b : Nat) : Nat := (a + 65536 - b) % 65536

def sameCoalescingIdentity (first second : ReadIntentSpec) : Bool :=
  first.endpoint = second.endpoint ∧ first.transport = second.transport ∧
    first.transportGeneration = second.transportGeneration ∧ first.unitID = second.unitID ∧
    first.request.function = second.request.function ∧
    first.request.table = second.request.table ∧
    first.authorizationScope = second.authorizationScope ∧
    first.pollGeneration = second.pollGeneration ∧
    first.deadlineIdentity = second.deadlineIdentity

/-- The running bounds of the union, and the view ids seen so far. -/
structure CoalesceBounds where
  minOffset : Nat
  maxEnd : Nat
  maxStart : Nat
  minEnd : Nat
  seenIDs : List Nat := []
  deriving DecidableEq, Repr

/-- The loop of `coalesceReads` over the intents. -/
def coalesceBounds (base : ReadIntentSpec) :
    CoalesceBounds → List ReadIntent → Except ProtocolError CoalesceBounds
  | bounds, [] => .ok bounds
  | bounds, intent :: rest =>
    let spec := intent.spec
    match newReadIntent spec with
    | .error err => .error err
    | .ok _ =>
      if spec.logicalViewID ∈ bounds.seenIDs then
        .error (protocolError .invalidRequest spec.request.function 0 "logical_view_id" (-1))
      else if sameCoalescingIdentity base spec = false then
        .error (protocolError .invalidRequest spec.request.function 0
          "coalescing_identity" (-1))
      else
        let start := spec.request.offset
        let stop := start + spec.request.quantity
        coalesceBounds base
          { minOffset := min bounds.minOffset start, maxEnd := max bounds.maxEnd stop,
            maxStart := max bounds.maxStart start, minEnd := min bounds.minEnd stop,
            seenIDs := spec.logicalViewID :: bounds.seenIDs } rest

/-- The dependent of one intent, placed in a physical request that starts at
    `minOffset`. -/
def dependentOf (minOffset : Nat) (intent : ReadIntent) : CoalescedDependent :=
  let request := intent.spec.request
  { slice :=
      { logicalViewID := intent.spec.logicalViewID, logicalOffset := request.offset,
        logicalWords := request.quantity, sliceOffset := subUint16 request.offset minOffset,
        sliceWordCount := request.quantity },
    state := .queued }

def coalesceReads (intents : List ReadIntent) (maxDependents : Int) :
    Except ProtocolError CoalescedRead :=
  if maxDependents ≤ 0 ∨ maxDependents > maxCoalescedDependents then
    .error (protocolError .invalidRequest 0 0 "max_coalesced_dependents" (-1))
  else if (intents.length : Int) > maxDependents then
    .error (protocolError .invalidRange 0 0 "read_intents" (-1))
  else
    match intents with
    | [] => .error (protocolError .invalidRequest 0 0 "read_intents" (-1))
    | first :: rest =>
      let base := first.spec
      match newReadIntent base with
      | .error err => .error err
      | .ok _ =>
        let start := base.request.offset
        let stop := start + base.request.quantity
        match coalesceBounds base
          { minOffset := start, maxEnd := stop, maxStart := start, minEnd := stop }
          intents with
        | .error err => .error err
        | .ok bounds =>
          if rest ≠ [] ∧ bounds.maxStart ≥ bounds.minEnd then
            .error (protocolError .invalidRange base.request.function 0
              "non_overlapping_ranges" (-1))
          else
            let union := bounds.maxEnd - bounds.minOffset
            if union = 0 ∨ union > maxReadRegisters then
              .error (protocolError .invalidRange base.request.function 0
                "physical_union" (-1))
            else
              match newReadRegistersRequest base.request.function
                (bounds.minOffset % 65536) (union % 65536) with
              | .error err => .error err
              | .ok physical =>
                .ok
                  { physical := physical
                    dependents := intents.map (dependentOf (bounds.minOffset % 65536))
                    endpoint := base.endpoint, transport := base.transport
                    intentGeneration := base.transportGeneration
                    unitID := base.unitID
                    authorizationScope := base.authorizationScope
                    pollGeneration := base.pollGeneration
                    deadlineIdentity := base.deadlineIdentity }

/-- What remains to be transmitted after a cancellation, and what the transport
    has to do. -/
structure CoalescedTransition where
  transmitPhysical : Bool := false
  abandonTransport : Bool := false
  ownerTransition : OwnerTransition := {}
  deriving DecidableEq, Repr, Inhabited

/-- The self-contained source record of a delivered view. -/
structure LogicalViewProvenance where
  physicalRequestID : Nat
  wire : WireProvenance
  authorizationScope : String
  pollGeneration : Nat
  deadlineIdentity : Nat
  logicalOffset : Nat
  logicalWordCount : Nat
  sliceOffset : Nat
  sliceWordCount : Nat
  deriving DecidableEq, Repr

structure LogicalReadView where
  logicalViewID : Nat
  wireResponseID : Nat
  logicalOffset : Nat
  logicalWords : Nat
  sliceOffset : Nat
  sliceWordCount : Nat
  words : List Nat
  wireBytes : List UInt8
  provenance : LogicalViewProvenance
  deriving DecidableEq, Repr

namespace CoalescedRead

/-- The dependents that have not reached a terminal state. -/
def activeDependentCount (group : CoalescedRead) : Nat :=
  group.dependents.countP fun dependent => dependent.state.active

/-- The deadline is only taken before the write begins. -/
def setOperationDeadline (group : CoalescedRead) (deadline : Duration) : CoalescedRead :=
  if group.writeBegun || group.completed then group
  else { group with operationDeadline := deadline }

/-- Binding the group to a reservation of `owner`, the owner the reservation
    names. -/
def bindReservation (group : CoalescedRead) (reservation : TCPReservation)
    (owner : TCPConnectionOwner) : Option ProtocolError × CoalescedRead :=
  if group.completed = true ∨ group.writeBegun = true ∨ group.physicalRequestID ≠ 0 ∨
      reservation.owner = none ∨ reservation.physicalRequestID = 0 ∨
      reservation.generation = 0 then
    (some (protocolError .invalidRequest group.physical.function 0
      "physical_reservation" (-1)), group)
  else if group.transport ≠ .tcp ∨
      owner.matchesReadReservation reservation group.endpoint group.intentGeneration
        group.unitID group.physical = false then
    (some (protocolError .invalidRequest group.physical.function 0
      "reservation_identity" (-1)), group)
  else
    (none,
      { group with
        physicalRequestID := reservation.physicalRequestID
        generation := reservation.generation
        owner := reservation.owner
        reservation := reservation })

def reservationForTransport (group : CoalescedRead) (owner generation : Nat) :
    Except ProtocolError TCPReservation :=
  if group.writeBegun = true ∨ group.completed = true ∨ group.physicalRequestID = 0 ∨
      group.owner ≠ some owner ∨ group.generation ≠ generation then
    .error (protocolError .invalidRequest 0 0 "coalesced_state" (-1))
  else if group.activeDependentCount = 0 then
    .error (protocolError .invalidRange 0 0 "active_dependents" (-1))
  else .ok group.reservation

/-- The checks of `beginWriteLocked` on the group itself. -/
def checkBeginWrite (group : CoalescedRead) (transport generation : Nat) :
    Option ProtocolError :=
  if group.writeBegun = true ∨ group.completed = true ∨ group.physicalRequestID = 0 ∨
      group.activeDependentCount = 0 then
    some (protocolError .invalidRequest 0 0 "coalesced_state" (-1))
  else if group.owner ≠ some transport ∨ group.generation ≠ generation then
    some (protocolError .invalidRequest 0 0 "coalesced_transport" (-1))
  else none

/-- The state change at the end of `beginWriteLocked`. -/
def beginWrite (group : CoalescedRead) (transport : Nat) : CoalescedRead :=
  { group with
    tcpTransport := some transport
    writeBegun := true
    dependents := group.dependents.map fun dependent =>
      if dependent.state = .queued then { dependent with state := .attached } else dependent }

/-- Moving every dependent in a selected state to the failed state. The number is
    how many moved. -/
def failDependents (group : CoalescedRead) (selected : DependentState → Bool) :
    Nat × CoalescedRead :=
  (group.dependents.countP fun dependent => selected dependent.state,
    { group with
      completed := true
      dependents := group.dependents.map fun dependent =>
        if selected dependent.state then { dependent with state := .failed } else dependent })

def finishWriteFailureLocked (group : CoalescedRead) : Nat × CoalescedRead :=
  if group.completed then (0, group)
  else group.failDependents fun state => state = .attached

/-- The minimal union of what the active dependents other than one still need. -/
def unionWithout (group : CoalescedRead) (excludedLogicalViewID : Nat) : Option (Nat × Nat) :=
  (group.dependents.filter fun dependent =>
      dependent.state.active && dependent.slice.logicalViewID != excludedLogicalViewID).foldl
    (fun bounds dependent =>
      let start := dependent.slice.logicalOffset
      let stop := start + dependent.slice.logicalWords
      match bounds with
      | none => some (start, stop)
      | some (minOffset, maxEnd) => some (min minOffset start, max maxEnd stop)) none

def physicalWithoutLogical (group : CoalescedRead) (excludedLogicalViewID : Nat) :
    Except ProtocolError ReadRegistersRequest :=
  match group.unionWithout excludedLogicalViewID with
  | none =>
    .error (protocolError .invalidRequest group.physical.function 0 "physical_union" (-1))
  | some (minOffset, maxEnd) =>
    if maxEnd ≤ minOffset then
      .error (protocolError .invalidRequest group.physical.function 0 "physical_union" (-1))
    else
      newReadRegistersRequest group.physical.function (minOffset % 65536)
        ((maxEnd - minOffset) % 65536)

/-- Moving the group to a smaller physical request. Only active slices move. -/
def applyPhysical (group : CoalescedRead) (physical : ReadRegistersRequest) : CoalescedRead :=
  { group with
    physical := physical
    dependents := group.dependents.map fun dependent =>
      if dependent.state.active then
        { dependent with
          slice := { dependent.slice with
            sliceOffset := subUint16 dependent.slice.logicalOffset physical.offset } }
      else dependent }

/-- Marking the first dependent of a view as cancelled. -/
def markCancelled (logicalViewID : Nat) : List CoalescedDependent → List CoalescedDependent
  | [] => []
  | dependent :: rest =>
    if dependent.slice.logicalViewID = logicalViewID then
      { dependent with state := .cancelled } :: rest
    else dependent :: markCancelled logicalViewID rest

/-- What a cancellation reports: the transition, the transport the write was begun
    on, whether the group is complete, the error and how many dependents stopped
    being active. -/
structure CancelOutcome where
  transition : CoalescedTransition := {}
  transport : Option Nat := none
  completed : Bool := false
  err : Option ProtocolError := none
  released : Nat := 0
  deriving DecidableEq, Repr

/-- The end of a cancellation that goes through. -/
def cancelDependent (group : CoalescedRead) (logicalViewID : Nat) (wasAttached : Bool)
    (replacement : Option ReadRegistersRequest) (ownerTransition : OwnerTransition)
    (err : Option ProtocolError) : CancelOutcome × CoalescedRead :=
  let marked := { group with dependents := markCancelled logicalViewID group.dependents }
  let active := marked.activeDependentCount
  let moved := match replacement with
    | none => marked
    | some physical => marked.applyPhysical physical
  let after := { moved with completed := group.completed || active == 0 }
  ({ transition :=
       { transmitPhysical := !group.writeBegun && active > 0
         abandonTransport := wasAttached && active == 0
         ownerTransition := ownerTransition }
     transport := group.tcpTransport, completed := after.completed, err := err, released := 1 },
    after)

/-- Giving up the physical request when its last dependent goes. Before the write
    the reservation is released; afterwards the owner abandons it. -/
def releaseReservation (group : CoalescedRead) (wasAttached : Bool) (activeAfter : Nat)
    (owner : TCPConnectionOwner) :
    OwnerTransition × Option ProtocolError × TCPConnectionOwner :=
  let released :=
    if group.writeBegun = false ∧ activeAfter = 0 ∧ group.owner.isSome then
      owner.cancelBeforeWrite group.reservation
    else (none, owner)
  if wasAttached = true ∧ activeAfter = 0 then
    if group.owner.isSome then released.2.abandonAfterWrite group.reservation .cancellation
    else ({}, some invalidOwner, released.2)
  else ({}, released.1, released.2)

def cancelLocked (group : CoalescedRead) (logicalViewID : Nat) (owner : TCPConnectionOwner) :
    CancelOutcome × CoalescedRead × TCPConnectionOwner :=
  if group.completed then
    ({ err := some (protocolError .invalidRequest 0 0 "coalesced_state" (-1)) }, group, owner)
  else
    match group.dependents.find? fun dependent =>
        dependent.slice.logicalViewID = logicalViewID with
    | none =>
      ({ err := some (protocolError .invalidRequest group.physical.function 0
          "logical_view_id" (-1)) }, group, owner)
    | some dependent =>
      if dependent.state.active = false then
        ({ err := some (protocolError .invalidRequest group.physical.function 0
            "dependent_state" (-1)) }, group, owner)
      else
        let wasAttached := dependent.state == .attached
        let activeAfter := group.activeDependentCount - 1
        if group.writeBegun = false ∧ activeAfter > 0 then
          -- The others go on with a smaller request, if the owner accepts it.
          match group.physicalWithoutLogical logicalViewID with
          | .error err => ({ err := some err }, group, owner)
          | .ok replacement =>
            let replaced :=
              if group.owner.isSome then
                owner.replaceReservedRead group.reservation replacement
              else (none, owner)
            match replaced.1 with
            | some err => ({ err := some err }, group, replaced.2)
            | none =>
              let after := group.cancelDependent logicalViewID wasAttached
                (some replacement) {} none
              (after.1, after.2, replaced.2)
        else
          let given := group.releaseReservation wasAttached activeAfter owner
          if given.2.1.isSome ∧ given.1.closeConnection = false then
            ({ err := given.2.1 }, group, given.2.2)
          else
            let after := group.cancelDependent logicalViewID wasAttached none given.1 given.2.1
            (after.1, after.2, given.2.2)

/-- The view a dependent gets out of a response. -/
def viewOf (group : CoalescedRead) (response : WireResponse) (slice : CoalescedSlice) :
    LogicalReadView :=
  { logicalViewID := slice.logicalViewID, wireResponseID := response.wireResponseID,
    logicalOffset := slice.logicalOffset, logicalWords := slice.logicalWords,
    sliceOffset := slice.sliceOffset, sliceWordCount := slice.sliceWordCount,
    words := (response.words.drop slice.sliceOffset).take slice.sliceWordCount,
    wireBytes := response.bytes,
    provenance :=
      { physicalRequestID := response.physicalRequestID, wire := response.provenance,
        authorizationScope := group.authorizationScope, pollGeneration := group.pollGeneration,
        deadlineIdentity := group.deadlineIdentity, logicalOffset := slice.logicalOffset,
        logicalWordCount := slice.logicalWords, sliceOffset := slice.sliceOffset,
        sliceWordCount := slice.sliceWordCount } }

/-- The delivery loop. A dependent that is neither cancelled nor attached, or a
    slice outside the response, stops it; the dependents passed before that keep
    the delivered state they were given. -/
def deliver (group : CoalescedRead) (response : WireResponse) :
    List CoalescedDependent →
    Except ProtocolError (List LogicalReadView) × List CoalescedDependent
  | [] => (.ok [], [])
  | dependent :: rest =>
    match dependent.state with
    | .cancelled =>
      let next := group.deliver response rest
      (next.1, dependent :: next.2)
    | .attached =>
      if dependent.slice.sliceOffset + dependent.slice.sliceWordCount >
          response.words.length then
        (.error (protocolError .invalidRange group.physical.function 0
          "logical_slice" (-1)), dependent :: rest)
      else
        let next := group.deliver response rest
        (next.1.map fun views => group.viewOf response dependent.slice :: views,
          { dependent with state := .delivered } :: next.2)
    | _ =>
      (.error (protocolError .invalidRequest group.physical.function 0
        "dependent_state" (-1)), dependent :: rest)

/-- Whether a response is the successful answer to the group's own request. -/
def replayMatches (group : CoalescedRead) (response : WireResponse) : Bool :=
  !group.completed && group.writeBegun && response.wireResponseID != 0 &&
    response.owner == group.owner && response.deliverable &&
    response.outcome == .successfulData &&
    response.physicalRequestID == group.physicalRequestID &&
    response.provenance.transport == .tcp &&
    response.provenance.transportGeneration == group.generation &&
    response.provenance.requestedFunction == group.physical.function &&
    response.provenance.table == group.physical.table &&
    response.provenance.offset == group.physical.offset &&
    response.provenance.quantity == group.physical.quantity

/-- The locked part of `ReplaySuccessfulResponse`. The number is how many
    dependents are given back to the scheduler. -/
def replayLocked (group : CoalescedRead) (response : WireResponse) :
    Except ProtocolError (List LogicalReadView) × Nat × CoalescedRead :=
  if group.replayMatches response = false then
    (.error (protocolError .invalidRequest 0 0 "replay_identity" (-1)), 0, group)
  else if response.words.length ≠ group.physical.quantity then
    (.error (protocolError .invalidRange group.physical.function 0 "physical_words" (-1)),
      0, group)
  else
    let delivered := group.deliver response group.dependents
    match delivered.1 with
    | .error err => (.error err, 0, { group with dependents := delivered.2 })
    | .ok views =>
      (.ok views, views.length,
        { group with dependents := delivered.2, completed := true })

/-- The locked part of `Fail`, for a correlated response without data. -/
def failLocked (group : CoalescedRead) (response : WireResponse) :
    Option ProtocolError × Nat × CoalescedRead :=
  if group.completed = true ∨ group.writeBegun = false ∨ response.wireResponseID = 0 ∨
      response.owner ≠ group.owner ∨ response.physicalRequestID ≠ group.physicalRequestID ∨
      response.deliverable = true ∨
      (response.outcome ≠ .protocolException ∧ response.outcome ≠ .malformedResponse) then
    (some (protocolError .invalidRequest group.physical.function 0 "failed_response" (-1)),
      0, group)
  else
    let failed := group.failDependents fun state => state = .attached
    (none, failed.1, failed.2)

/-- The locked part of `FailTransport`. A reservation that was never written is
    released on the way. -/
def failTransportLocked (group : CoalescedRead) (owner : TCPConnectionOwner) :
    Option ProtocolError × Nat × CoalescedRead × TCPConnectionOwner :=
  if group.completed then (none, 0, group, owner)
  else
    let released :=
      if group.owner.isSome ∧ group.writeBegun = false then
        owner.cancelBeforeWrite group.reservation
      else (none, owner)
    let failed := group.failDependents DependentState.active
    (released.1, failed.1, failed.2, released.2)

end CoalescedRead

end HelianthusModbus
