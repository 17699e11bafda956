import HelianthusModbus.Core.TcpAdu
import HelianthusModbus.Lib.Table

/-!
# Connection Owner

The owner of all transaction state of one socket: which transaction identifiers
are in use, which requests wait for a response, and which were given up and are
kept as tombstones so that their identifier is not handed out again while a late
response may still arrive.

Each definition here is one critical section of the owner's mutex, so a sequence
of them is exactly what concurrent callers can do to an owner. They return the
new owner beside the result of the Go method.

An owner is named by its connection id. A reservation carries the name of the
owner that issued it, in place of the pointer of the source, and `requestFor`
refuses a reservation of another owner or of another generation.

The map of early completions records a response that arrived while its write was
still being performed. The request has left the in-flight table by then, and the
writer clears the record when it reports a complete transmission.

## Main definitions

* `TCPConnectionOwner`: The owner itself.
* `TCPConnectionOwner.reserve`: Taking a transaction identifier.
* `TCPConnectionOwner.recordTransmitUntil`: Applying the result of a write.
* `TCPConnectionOwner.abandonAfterWrite`, `TCPConnectionOwner.abandonExpired`:
  Giving up a response.
* `TCPConnectionOwner.correlate`: Binding a received frame to a request.
-/

namespace HelianthusModbus

/-- A monotonic clock reading or a duration, in nanoseconds. -/
abbrev Duration := Int

def maxDuration : Duration := 9223372036854775807

/-- The family of a transport. The zero value of the source is the empty string. -/
inductive TransportFamily where
  | unset
  | tcp
  | rtu
  deriving DecidableEq, Repr

structure ConnectionLimits where
  maxInFlight : Int
  maxTombstones : Int
  deriving DecidableEq, Repr

inductive RequestKind where
  | read
  | deviceID
  deriving DecidableEq, Repr

/-- How far the write of an owned request has come. -/
inductive RequestState where
  | reserved
  | writeInvoked
  | waiting
  deriving DecidableEq, Repr

/-- One entry of the in-flight table. -/
structure OwnedRequest where
  transactionID : UInt16
  physicalRequestID : Nat
  generation : Nat
  unitID : UInt8
  kind : RequestKind
  function : FunctionCode
  read : ReadRegistersRequest
  deviceID : DeviceIDRequest
  deviceIDDecoding : DeviceIDDecoding
  state : RequestState
  deadlineOffset : Duration
  deriving DecidableEq, Repr

/-- The handle of a reserved request. The default is the Go zero value, which
    belongs to no owner. -/
structure TCPReservation where
  owner : Option Nat := none
  transactionID : UInt16 := 0
  physicalRequestID : Nat := 0
  generation : Nat := 0
  deadlineOffset : Duration := 0
  deriving DecidableEq, Repr, Inhabited

/-- The result of a transport write, as far as it is known. -/
inductive TransmitResult where
  | provableZero
  | partialWrite
  | indeterminate
  | cancellationRace
  | ambiguous
  | complete
  deriving DecidableEq, Repr

inductive AbandonReason where
  | timeout
  | cancellation
  deriving DecidableEq, Repr

/-- What an owner step asks of the transport: whether the socket must close, and
    which sibling requests were failed with it. -/
structure OwnerTransition where
  closeConnection : Bool := false
  failed : List TCPReservation := []
  deriving DecidableEq, Repr, Inhabited

inductive WireOutcome where
  | successfulData
  | protocolException
  | malformedResponse
  | lateAfterAbandonment
  | droppedUncorrelated
  deriving DecidableEq, Repr

/-- The request a response was bound to. -/
structure WireProvenance where
  endpoint : String := ""
  connectionID : Nat := 0
  transport : TransportFamily := .unset
  transportGeneration : Nat := 0
  unitID : UInt8 := 0
  requestedFunction : FunctionCode := 0
  receivedFunction : FunctionCode := 0
  table : LogicalTable := .unset
  offset : Nat := 0
  quantity : Nat := 0
  deviceIDAccess : DeviceIDAccess := 0
  deviceIDObjectID : UInt8 := 0
  deriving DecidableEq, Repr

/-- Receipt identity of a frame that was bound to no request. -/
structure DiagnosticFrameProvenance where
  endpoint : String := ""
  connectionID : Nat := 0
  receivedTransportGeneration : Nat := 0
  activeTransportGeneration : Nat := 0
  unitID : UInt8 := 0
  receivedFunction : FunctionCode := 0
  deriving DecidableEq, Repr

/-- A received frame after correlation. `wireResponseID` is zero when the frame
    was bound to no request, and then `diagnosticFrameID` identifies it. -/
structure WireResponse where
  owner : Option Nat := none
  outcome : WireOutcome
  deliverable : Bool := false
  wireResponseID : Nat := 0
  diagnosticFrameID : Nat := 0
  physicalRequestID : Nat := 0
  provenance : WireProvenance := {}
  diagnostic : DiagnosticFrameProvenance := {}
  words : List Nat := []
  deviceIDSegment : Option DeviceIDSegment := none
  deviceIDPage : Option DeviceIDPage := none
  bytes : List UInt8 := []
  deriving DecidableEq, Repr

/-- The transaction state of one live socket. `boundTransport` names the
    transport that writes to it, and `pooled` says that the owner still holds
    its pool slot. -/
structure TCPConnectionOwner where
  endpoint : String
  connectionID : Nat := 0
  generation : Nat
  limits : ConnectionLimits
  closed : Bool := false
  retired : Bool := false
  nextTransactionID : UInt16 := 0
  nextPhysicalRequestID : Nat := 1
  nextWireResponseID : Nat := 1
  nextDiagnosticFrameID : Nat := 1
  inFlight : Table UInt16 OwnedRequest := ∅
  tombstones : Table UInt16 OwnedRequest := ∅
  closingTombstone : Option OwnedRequest := none
  earlyCompletions : Table Nat UInt16 := ∅
  pendingFailures : List TCPReservation := []
  boundTransport : Option Nat := none
  pooled : Bool := false

def newTCPConnectionOwner (endpoint : String) (generation : Nat) (limits : ConnectionLimits) :
    Except ProtocolError TCPConnectionOwner :=
  if endpoint = "" ∨ generation = 0 ∨ limits.maxInFlight ≤ 0 ∨ limits.maxInFlight > 65536 ∨
      limits.maxTombstones ≤ 0 ∨ limits.maxTombstones > 65536 then
    .error (protocolError .invalidRequest 0 0 "connection_limits" (-1))
  else .ok { endpoint := endpoint, generation := generation, limits := limits }

def invalidOwner : ProtocolError :=
  protocolError .invalidRequest 0 0 "connection_owner" (-1)

namespace TCPConnectionOwner

def allocationClosed : ProtocolError :=
  protocolError .invalidRange 0 0 "connection_closed" (-1)

/-- Handing out the next identifier that neither a live request nor a tombstone
    holds. The cursor moves over the refused ones as well. -/
def allocateTransactionID (owner : TCPConnectionOwner) :
    (attempts : Nat) → UInt16 → Option UInt16 × UInt16
  | 0, next => (none, next)
  | attempts + 1, candidate =>
    if (owner.inFlight.lookup candidate).isSome ∨ (owner.tombstones.lookup candidate).isSome then
      allocateTransactionID owner attempts (candidate + 1)
    else (some candidate, candidate + 1)

/-- The reservation that names a live request. -/
def reservationOf (owner : TCPConnectionOwner) (request : OwnedRequest) : TCPReservation :=
  { owner := some owner.connectionID, transactionID := request.transactionID,
    physicalRequestID := request.physicalRequestID, generation := request.generation,
    deadlineOffset := request.deadlineOffset }

/-- What a caller asks to reserve: a register read or a Device Identification
    page. -/
inductive Reserve where
  | read (request : ReadRegistersRequest)
  | deviceID (request : DeviceIDRequest) (decoding : DeviceIDDecoding)
  deriving DecidableEq, Repr

def Reserve.function : Reserve → FunctionCode
  | .read request => request.function
  | .deviceID _ _ => functionEncapsulatedInterface

/-- The validation that precedes the critical section of a reservation. -/
def Reserve.validate : Reserve → Except ProtocolError Unit
  | .read request => validateReadRegistersRequest request
  | .deviceID request _ => validateDeviceIDRequest request

/-- The table entry of a fresh reservation. -/
def Reserve.owned (reserve : Reserve) (transactionID : UInt16) (physicalRequestID generation : Nat)
    (unitID : UInt8) (deadlineOffset : Duration) : OwnedRequest :=
  { transactionID := transactionID, physicalRequestID := physicalRequestID,
    generation := generation, unitID := unitID,
    kind := match reserve with | .read _ => .read | .deviceID _ _ => .deviceID,
    function := reserve.function,
    read := match reserve with | .read request => request | .deviceID _ _ => {},
    deviceID := match reserve with | .read _ => {} | .deviceID request _ => request,
    deviceIDDecoding := match reserve with | .read _ => .strict | .deviceID _ decoding => decoding,
    state := .reserved, deadlineOffset := deadlineOffset }

def reserve (owner : TCPConnectionOwner) (unitID : UInt8) (request : Reserve)
    (deadlineOffset : Duration) : Except ProtocolError TCPReservation × TCPConnectionOwner :=
  match request.validate with
  | .error err => (.error err, owner)
  | .ok () =>
    if owner.closed || owner.retired then (.error allocationClosed, owner)
    else if unitID > 247 then
      (.error (protocolError .invalidRequest 0 0 "unit_id" (-1)), owner)
    else if ((owner.inFlight.entries.length + owner.earlyCompletions.entries.length : Nat) : Int)
        ≥ owner.limits.maxInFlight then
      (.error (protocolError .invalidRange 0 0 "in_flight" (-1)), owner)
    else
      match owner.allocateTransactionID 65536 owner.nextTransactionID with
      | (none, next) =>
        (.error (protocolError .invalidRange 0 0 "transaction_identifiers" (-1)),
          { owner with nextTransactionID := next, closed := true })
      | (some transactionID, next) =>
        if owner.nextPhysicalRequestID = 0 then
          (.error (protocolError .invalidRange 0 0 "physical_request_id" (-1)),
            { owner with nextTransactionID := next, closed := true })
        else
          let owned := request.owned transactionID owner.nextPhysicalRequestID
            owner.generation unitID deadlineOffset
          (.ok (owner.reservationOf owned),
            { owner with
              nextTransactionID := next
              nextPhysicalRequestID := nextUint64 owner.nextPhysicalRequestID
              inFlight := owner.inFlight.insert transactionID owned })

/-- The live request a reservation names, if it is in the given state. -/
def requestFor (owner : TCPConnectionOwner) (reservation : TCPReservation)
    (state : RequestState) : Except ProtocolError OwnedRequest :=
  if reservation.owner ≠ some owner.connectionID ∨
      reservation.generation ≠ owner.generation then
    .error (protocolError .invalidRequest 0 0 "reservation_owner" (-1))
  else
    match owner.inFlight.lookup reservation.transactionID with
    | none => .error (protocolError .invalidRequest 0 0 "reservation_state" (-1))
    | some request =>
      if request.physicalRequestID ≠ reservation.physicalRequestID ∨ request.state ≠ state then
        .error (protocolError .invalidRequest 0 0 "reservation_state" (-1))
      else .ok request

/-- Giving the last identifier back when nothing was allocated after it. -/
def rewindAllocator (owner : TCPConnectionOwner) (transactionID : UInt16) :
    TCPConnectionOwner :=
  if owner.nextTransactionID - 1 = transactionID then
    { owner with nextTransactionID := transactionID }
  else owner

def removeInFlight (owner : TCPConnectionOwner) (transactionID : UInt16) :
    TCPConnectionOwner :=
  { owner with inFlight := owner.inFlight.erase transactionID }

/-- Writing a changed request back to the table. The source changes it in place. -/
def updateInFlight (owner : TCPConnectionOwner) (request : OwnedRequest) :
    TCPConnectionOwner :=
  { owner with inFlight := owner.inFlight.insert request.transactionID request }

def cancelBeforeWrite (owner : TCPConnectionOwner) (reservation : TCPReservation) :
    Option ProtocolError × TCPConnectionOwner :=
  match owner.requestFor reservation .reserved with
  | .error err => (some err, owner)
  | .ok request =>
    (none, (owner.removeInFlight request.transactionID).rewindAllocator request.transactionID)

def replaceReservedRead (owner : TCPConnectionOwner) (reservation : TCPReservation)
    (request : ReadRegistersRequest) : Option ProtocolError × TCPConnectionOwner :=
  match validateReadRegistersRequest request with
  | .error err => (some err, owner)
  | .ok () =>
    match owner.requestFor reservation .reserved with
    | .error err => (some err, owner)
    | .ok owned =>
      if owned.kind ≠ .read ∨ owned.read.function ≠ request.function then
        (some (protocolError .invalidRequest request.function 0
          "reserved_read_identity" (-1)), owner)
      else (none, owner.updateInFlight { owned with read := request })

def markWriteInvoked (owner : TCPConnectionOwner) (reservation : TCPReservation) :
    Option ProtocolError × TCPConnectionOwner :=
  match owner.requestFor reservation .reserved with
  | .error err => (some err, owner)
  | .ok request => (none, owner.updateInFlight { request with state := .writeInvoked })

/-- The live requests in the order in which a lost socket fails them. -/
def sortedInFlight (owner : TCPConnectionOwner) : List OwnedRequest :=
  (owner.inFlight.entries.map fun e => e.2).insertionSort fun first second =>
    first.physicalRequestID < second.physicalRequestID ∨
      (first.physicalRequestID = second.physicalRequestID ∧
        first.transactionID ≤ second.transactionID)

/-- Failing every live request except one, which the caller removes itself. -/
def failAllExcept (owner : TCPConnectionOwner) (excludedTransactionID : UInt16) :
    List TCPReservation × TCPConnectionOwner :=
  let failed := owner.sortedInFlight.filter fun request =>
    request.transactionID ≠ excludedTransactionID
  (failed.map owner.reservationOf,
    { owner with
      inFlight := owner.inFlight.eraseAll (failed.map OwnedRequest.transactionID) })

def failAll (owner : TCPConnectionOwner) : List TCPReservation × TCPConnectionOwner :=
  (owner.sortedInFlight.map owner.reservationOf, { owner with inFlight := ∅ })

/-- Keeping a request as a tombstone. The flag is false when the table is full. -/
def addTombstone (owner : TCPConnectionOwner) (request : OwnedRequest) :
    Bool × TCPConnectionOwner :=
  if (owner.tombstones.entries.length : Int) < owner.limits.maxTombstones then
    (true, { owner with tombstones := owner.tombstones.insert request.transactionID request })
  else (false, owner)

/-- A write whose bytes may have reached the wire: the request becomes a
    tombstone, every sibling fails and the socket has to close. -/
def loseAfterWrite (owner : TCPConnectionOwner) (request : OwnedRequest) :
    OwnerTransition × TCPConnectionOwner :=
  let buried := match owner.addTombstone request with
    | (true, owner) => owner
    | (false, owner) => { owner with closingTombstone := some request }
  let failed := buried.failAllExcept request.transactionID
  ({ closeConnection := true, failed := failed.1 },
    { failed.2.removeInFlight request.transactionID with closed := true })

def recordTransmitUntil (owner : TCPConnectionOwner) (reservation : TCPReservation)
    (result : TransmitResult) (responseDeadlineOffset : Duration) :
    OwnerTransition × Option ProtocolError × TCPConnectionOwner :=
  match owner.earlyCompletions.lookup reservation.physicalRequestID with
  | some transactionID =>
    if reservation.owner ≠ some owner.connectionID ∨
        reservation.generation ≠ owner.generation ∨
        reservation.transactionID ≠ transactionID ∨ result ≠ .complete then
      ({ closeConnection := true },
        some (protocolError .invalidRequest 0 0 "early_response_transmit_result" (-1)),
        { owner with closed := true })
    else
      ({}, none,
        { owner with
          earlyCompletions := owner.earlyCompletions.erase reservation.physicalRequestID })
  | none =>
    match owner.requestFor reservation .writeInvoked with
    | .error err => ({}, some err, owner)
    | .ok request =>
      match result with
      | .provableZero =>
        ({}, none,
          (owner.removeInFlight request.transactionID).rewindAllocator
            request.transactionID)
      | .complete =>
        let deadlineOffset :=
          if responseDeadlineOffset > 0 then responseDeadlineOffset
          else request.deadlineOffset
        ({}, none,
          owner.updateInFlight
            { request with state := .waiting, deadlineOffset := deadlineOffset })
      | .partialWrite | .indeterminate | .cancellationRace | .ambiguous =>
        let lost := owner.loseAfterWrite request
        (lost.1, none, lost.2)

/-- The waiting requests whose deadline has passed, in the order they expire. -/
def expiredCandidates (owner : TCPConnectionOwner) (nowOffset : Duration) : List OwnedRequest :=
  ((owner.inFlight.entries.map fun e => e.2).filter fun request =>
      request.state = .waiting ∧ 0 < request.deadlineOffset ∧
        request.deadlineOffset ≤ nowOffset).insertionSort fun first second =>
    first.deadlineOffset < second.deadlineOffset ∨
      (first.deadlineOffset = second.deadlineOffset ∧
        (first.physicalRequestID < second.physicalRequestID ∨
          (first.physicalRequestID = second.physicalRequestID ∧
            first.transactionID ≤ second.transactionID)))

/-- The loop of `abandonExpired`: each expired request becomes a tombstone, until
    the tombstone table is full and the socket has to close instead. -/
def abandonCandidates : List OwnedRequest → TCPConnectionOwner →
    List TCPReservation × OwnerTransition × Option ProtocolError × TCPConnectionOwner
  | [], owner => ([], {}, none, owner)
  | request :: rest, owner =>
    if (owner.tombstones.entries.length : Int) ≥ owner.limits.maxTombstones then
      let failed :=
        { owner with closingTombstone := some request }.removeInFlight
          request.transactionID |>.failAll
      ([owner.reservationOf request], { closeConnection := true, failed := failed.1 },
        some (protocolError .invalidRange request.function 0 "tombstones" (-1)),
        { failed.2 with
          pendingFailures := failed.2.pendingFailures ++ failed.1, closed := true })
    else
      let next := abandonCandidates rest
        ((owner.addTombstone request).2.removeInFlight request.transactionID)
      (owner.reservationOf request :: next.1, next.2)

def abandonExpired (owner : TCPConnectionOwner) (nowOffset : Duration) :
    List TCPReservation × OwnerTransition × Option ProtocolError × TCPConnectionOwner :=
  if nowOffset < 0 then ([], {}, some invalidOwner, owner)
  else abandonCandidates (owner.expiredCandidates nowOffset) owner

/-- The absolute response deadline of a waiting request. -/
def responseDeadline (owner : TCPConnectionOwner) (reservation : TCPReservation) :
    Option Duration :=
  if reservation.owner ≠ some owner.connectionID then none
  else
    match owner.inFlight.lookup reservation.transactionID with
    | none => none
    | some request =>
      if request.physicalRequestID ≠ reservation.physicalRequestID ∨
          request.generation ≠ reservation.generation ∨ request.state ≠ .waiting ∨
          request.deadlineOffset ≤ 0 then none
      else some request.deadlineOffset

/-- Giving up a request after its write was invoked. A waiting request becomes a
    tombstone; one whose write is still running costs the socket. -/
def abandonAfterWrite (owner : TCPConnectionOwner) (reservation : TCPReservation)
    (_reason : AbandonReason) : OwnerTransition × Option ProtocolError × TCPConnectionOwner :=
  match owner.requestFor reservation .waiting with
  | .ok request =>
    if (owner.tombstones.entries.length : Int) ≥ owner.limits.maxTombstones then
      let failed :=
        { owner with closingTombstone := some request }.failAllExcept request.transactionID
      ({ closeConnection := true },
        some (protocolError .invalidRange request.function 0 "tombstones" (-1)),
        { failed.2.removeInFlight request.transactionID with
          pendingFailures := failed.2.pendingFailures ++ failed.1, closed := true })
    else
      ({}, none, (owner.addTombstone request).2.removeInFlight request.transactionID)
  | .error _ =>
    match owner.requestFor reservation .writeInvoked with
    | .error err => ({}, some err, owner)
    | .ok request =>
      let lost := owner.loseAfterWrite request
      (lost.1, none, lost.2)

/-- Whether a reservation is exactly the read a coalesced group describes. -/
def matchesReadReservation (owner : TCPConnectionOwner) (reservation : TCPReservation)
    (endpoint : String) (generation : Nat) (unitID : UInt8) (request : ReadRegistersRequest) :
    Bool :=
  match owner.requestFor reservation .reserved with
  | .error _ => false
  | .ok owned =>
    owner.endpoint = endpoint ∧ owner.generation = generation ∧ owned.unitID = unitID ∧
      owned.kind = .read ∧ owned.read = request

/-- What a reserved request will put on the wire, as the trace records it. -/
structure ReservationWireIdentity where
  function : FunctionCode
  table : LogicalTable := .unset
  offset : Nat := 0
  quantity : Nat := 0
  unitID : UInt8
  deriving DecidableEq, Repr

def wireIdentityFor (request : OwnedRequest) : ReservationWireIdentity :=
  match request.kind with
  | .read =>
    { function := request.function, unitID := request.unitID, table := request.read.table,
      offset := request.read.offset, quantity := request.read.quantity }
  | .deviceID => { function := request.function, unitID := request.unitID }

def reservationWireIdentity (owner : TCPConnectionOwner) (reservation : TCPReservation) :
    Except ProtocolError ReservationWireIdentity :=
  match owner.requestFor reservation .reserved with
  | .error err => .error err
  | .ok request => .ok (wireIdentityFor request)

def bindTransport (owner : TCPConnectionOwner) (transport : Nat) :
    Except ProtocolError Nat × TCPConnectionOwner :=
  if owner.closed || owner.retired || owner.boundTransport.isSome then
    (.error (protocolError .invalidRequest 0 0 "transport_binding" (-1)), owner)
  else (.ok owner.generation, { owner with boundTransport := some transport })

/-- Dropping all socket-scoped state. -/
def forgetSocket (owner : TCPConnectionOwner) : TCPConnectionOwner :=
  { owner with tombstones := ∅, closingTombstone := none, earlyCompletions := ∅ }

def loseTransport (owner : TCPConnectionOwner) (transport : Nat) :
    OwnerTransition × TCPConnectionOwner :=
  if owner.boundTransport ≠ some transport then ({}, owner)
  else
    let failed := { owner with boundTransport := none }.failAll
    ({ closeConnection := true, failed := failed.1 },
      { failed.2 with closed := true, retired := owner.retired || owner.pooled }.forgetSocket)

def transportCurrent (owner : TCPConnectionOwner) (transport generation : Nat) : Bool :=
  !owner.closed && !owner.retired && owner.boundTransport == some transport &&
    owner.generation == generation

def encodeReservation (owner : TCPConnectionOwner) (reservation : TCPReservation) :
    Except ProtocolError (List UInt8 × ReservationWireIdentity) :=
  match owner.requestFor reservation .reserved with
  | .error err => .error err
  | .ok request =>
    let adu := match request.kind with
      | .read => encodeTCPReadADU request.transactionID request.unitID request.read
      | .deviceID =>
        encodeTCPDeviceIDAccessADU request.transactionID request.unitID request.deviceID
    match adu with
    | .error err => .error err
    | .ok adu => .ok (adu, wireIdentityFor request)

/-- A frame is a candidate answer when it carries the request's unit and either
    its function code or the exception form of it. -/
def candidateMatches (request : OwnedRequest) (adu : TCPADU) : Bool :=
  adu.unitID == request.unitID &&
    (match adu.pdu with
      | [] => false
      | received :: _ => received == request.function || received == request.function ||| 0x80)

structure DecodedOwnedResponse where
  words : List Nat := []
  segment : Option DeviceIDSegment := none
  page : Option DeviceIDPage := none
  deriving DecidableEq, Repr

def validateOwnedResponse (request : OwnedRequest) (pdu : List UInt8) :
    Except ProtocolError DecodedOwnedResponse :=
  match request.kind with
  | .read =>
    match decodeReadRegistersResponse request.read pdu with
    | .error err => .error err
    | .ok response => .ok { words := response.words }
  | .deviceID =>
    match request.deviceIDDecoding with
    | .tolerant =>
      match decodeDeviceIDPage request.deviceID pdu with
      | (_, some err) => .error err
      | (page, none) => .ok { page := some page }
    | .strict =>
      match decodeDeviceIDSegment request.deviceID pdu with
      | .error err => .error err
      | .ok segment => .ok { segment := some segment }

def wireProvenance (owner : TCPConnectionOwner) (request : OwnedRequest) (adu : TCPADU) :
    WireProvenance :=
  let base : WireProvenance :=
    { endpoint := owner.endpoint, connectionID := owner.connectionID, transport := .tcp,
      transportGeneration := request.generation, unitID := request.unitID,
      requestedFunction := request.function, receivedFunction := adu.pdu.headD 0 }
  match request.kind with
  | .read =>
    { base with
      table := request.read.table, offset := request.read.offset,
      quantity := request.read.quantity }
  | .deviceID =>
    { base with
      deviceIDAccess := request.deviceID.access, deviceIDObjectID := request.deviceID.objectID }

def newWireResponse (owner : TCPConnectionOwner) (outcome : WireOutcome) (deliverable : Bool)
    (request : OwnedRequest) (adu : TCPADU) (decoded : DecodedOwnedResponse) :
    WireResponse × TCPConnectionOwner :=
  ({ owner := some owner.connectionID, outcome := outcome, deliverable := deliverable,
     wireResponseID := owner.nextWireResponseID,
     physicalRequestID := request.physicalRequestID,
     provenance := owner.wireProvenance request adu, words := decoded.words,
     deviceIDSegment := decoded.segment, deviceIDPage := decoded.page, bytes := adu.raw },
   { owner with nextWireResponseID := nextUint64 owner.nextWireResponseID })

def newDiagnosticFrame (owner : TCPConnectionOwner) (receivedGeneration : Nat) (adu : TCPADU) :
    WireResponse × List ProtocolError × TCPConnectionOwner :=
  if owner.nextDiagnosticFrameID = 0 then
    ({ outcome := .droppedUncorrelated },
      [protocolError .invalidRange 0 0 "diagnostic_frame_id" (-1)],
      { owner with closed := true })
  else
    ({ owner := some owner.connectionID, outcome := .droppedUncorrelated,
       diagnosticFrameID := owner.nextDiagnosticFrameID,
       diagnostic :=
         { endpoint := owner.endpoint, connectionID := owner.connectionID,
           receivedTransportGeneration := receivedGeneration,
           activeTransportGeneration := owner.generation, unitID := adu.unitID,
           receivedFunction := adu.pdu.headD 0 },
       bytes := adu.raw }, [],
      { owner with nextDiagnosticFrameID := nextUint64 owner.nextDiagnosticFrameID })

/-- Answering a live request. It leaves the in-flight table whatever the frame
    turns out to hold. -/
def correlateActive (owner : TCPConnectionOwner) (request : OwnedRequest) (adu : TCPADU) :
    WireResponse × List ProtocolError × TCPConnectionOwner :=
  let owner := owner.removeInFlight request.transactionID
  match validateOwnedResponse request adu.pdu with
  | .ok decoded =>
    let response := owner.newWireResponse .successfulData true request adu decoded
    (response.1, [], response.2)
  | .error err =>
    let outcome := match err.kind with
      | .exceptionResponse => .protocolException
      | _ => .malformedResponse
    let response := owner.newWireResponse outcome false request adu {}
    (response.1, [err], response.2)

/-- Recording that a response overtook the end of its own write. -/
def noteEarlyCompletion (owner : TCPConnectionOwner) (request : OwnedRequest) :
    TCPConnectionOwner :=
  match request.state with
  | .writeInvoked =>
    { owner with
      earlyCompletions :=
        owner.earlyCompletions.insert request.physicalRequestID request.transactionID }
  | _ => owner

/-- The abandoned request a frame may be a late answer to. -/
def abandonedFor (owner : TCPConnectionOwner) (transactionID : UInt16) : Option OwnedRequest :=
  match owner.tombstones.lookup transactionID with
  | some tombstone => some tombstone
  | none => owner.closingTombstone.filter fun tombstone => tombstone.transactionID = transactionID

/-- A late answer, never deliverable. -/
def correlateAbandoned (owner : TCPConnectionOwner) (tombstone : OwnedRequest) (adu : TCPADU) :
    WireResponse × List ProtocolError × TCPConnectionOwner :=
  match validateOwnedResponse tombstone adu.pdu with
  | .ok decoded =>
    let response := owner.newWireResponse .lateAfterAbandonment false tombstone adu decoded
    (response.1, [], response.2)
  | .error err =>
    match err.kind with
    | .malformedResponse =>
      let response := owner.newWireResponse .malformedResponse false tombstone adu {}
      (response.1, [err], response.2)
    | _ =>
      let response := owner.newWireResponse .lateAfterAbandonment false tombstone adu {}
      (response.1, [], response.2)

def correlate (owner : TCPConnectionOwner) (generation : Nat) (adu : TCPADU) :
    WireResponse × List ProtocolError × TCPConnectionOwner :=
  if generation ≠ owner.generation then owner.newDiagnosticFrame generation adu
  else if owner.nextWireResponseID = 0 then
    let frame := { owner with closed := true }.newDiagnosticFrame generation adu
    (frame.1, frame.2.1 ++ [protocolError .invalidRange 0 0 "wire_response_id" (-1)], frame.2.2)
  else
    match (if owner.closed then none else owner.inFlight.lookup adu.transactionID) with
    | some request =>
      if request.state = .reserved ∨ candidateMatches request adu = false then
        owner.newDiagnosticFrame generation adu
      else
        let answered := owner.correlateActive request adu
        (answered.1, answered.2.1, answered.2.2.noteEarlyCompletion request)
    | none =>
      match owner.abandonedFor adu.transactionID with
      | none => owner.newDiagnosticFrame generation adu
      | some tombstone =>
        if candidateMatches tombstone adu then owner.correlateAbandoned tombstone adu
        else owner.newDiagnosticFrame generation adu

def hasTombstones (owner : TCPConnectionOwner) : Bool :=
  !owner.tombstones.entries.isEmpty || owner.closingTombstone.isSome

/-- Closing the owner. The transport that was bound is returned; the caller
    closes it outside the critical section. -/
def close (owner : TCPConnectionOwner) : Option Nat × TCPConnectionOwner :=
  let failed := owner.failAll
  (owner.boundTransport,
    { failed.2.forgetSocket with
      closed := true, pendingFailures := owner.pendingFailures ++ failed.1,
      boundTransport := none })

/-- Retiring a pooled owner for good. -/
def retire (owner : TCPConnectionOwner) : Option Nat × TCPConnectionOwner :=
  let failed := owner.failAll
  (owner.boundTransport,
    { failed.2.forgetSocket with
      closed := true, retired := true, pooled := false,
      pendingFailures := owner.pendingFailures ++ failed.1, boundTransport := none })

/-- Taking over the failures of the close paths that return no transition. -/
def drainFailedReservations (owner : TCPConnectionOwner) :
    List TCPReservation × TCPConnectionOwner :=
  (owner.pendingFailures, { owner with pendingFailures := [] })

/-- The first half of `releasePoolSlot`: whether this call gives the slot up. -/
def takePoolSlot (owner : TCPConnectionOwner) : Bool × TCPConnectionOwner :=
  (owner.pooled, { owner with pooled := false })

/-- Starting a new socket generation. `allocated` is the answer of the generation
    allocator, or nothing where the owner has none. -/
def reconnect (owner : TCPConnectionOwner) (allocated : Option Nat) :
    Nat × TCPConnectionOwner :=
  if owner.closed = false ∨ owner.retired = true ∨ owner.boundTransport.isSome then
    (owner.generation, owner)
  else
    let nextGeneration := allocated.getD (nextUint64 owner.generation)
    if nextGeneration = 0 then (owner.generation, owner)
    else
      (nextGeneration,
        { owner with
          generation := nextGeneration, closed := false, nextTransactionID := 0, inFlight := ∅
          }.forgetSocket)

theorem requestFor_ok (owner : TCPConnectionOwner) (reservation : TCPReservation)
    (state : RequestState) (request : OwnedRequest) :
    owner.requestFor reservation state = .ok request ↔
      reservation.owner = some owner.connectionID ∧
        reservation.generation = owner.generation ∧
        owner.inFlight.lookup reservation.transactionID = some request ∧
        request.physicalRequestID = reservation.physicalRequestID ∧ request.state = state := by
  unfold requestFor
  split_ifs with howner
  · simp only [false_iff]
    rintro ⟨h1, h2, _⟩
    rcases howner with h | h
    · exact h h1
    · exact h h2
  · push Not at howner
    cases hlookup : owner.inFlight.lookup reservation.transactionID with
    | none => simp only [reduceCtorEq, false_and, and_false]
    | some found =>
      simp only
      split_ifs with hstate
      · simp only [Option.some.injEq, false_iff]
        rintro ⟨_, _, rfl, h1, h2⟩
        rcases hstate with h | h
        · exact h h1
        · exact h h2
      · push Not at hstate
        simp only [Except.ok.injEq, Option.some.injEq]
        constructor
        · rintro rfl
          exact ⟨howner.1, howner.2, rfl, hstate.1, hstate.2⟩
        · rintro ⟨_, _, rfl, _⟩
          rfl

/-- An allocated identifier is held by neither a live request nor a tombstone. -/
theorem allocateTransactionID_free (owner : TCPConnectionOwner) (attempts : Nat)
    (candidate t next : UInt16)
    (h : owner.allocateTransactionID attempts candidate = (some t, next)) :
    owner.inFlight.lookup t = none ∧ owner.tombstones.lookup t = none := by
  induction attempts generalizing candidate with
  | zero => simp only [allocateTransactionID, Prod.mk.injEq, reduceCtorEq, false_and] at h
  | succ attempts ih =>
    unfold allocateTransactionID at h
    split_ifs at h with hheld
    · exact ih _ h
    · push Not at hheld
      simp only [Prod.mk.injEq, Option.some.injEq] at h
      rw [← h.1]
      simpa only [Bool.not_eq_true, Option.isSome_eq_false_iff, Option.isNone_iff_eq_none]
        using hheld

/-- The three ways a reservation can go: refused, refused with the owner closed
    because an identifier space is used up, or granted with a free identifier and
    the next physical id. -/
theorem reserve_cases (owner : TCPConnectionOwner) (unitID : UInt8) (request : Reserve)
    (deadlineOffset : Duration) :
    (∃ err, owner.reserve unitID request deadlineOffset = (.error err, owner)) ∨
      (∃ err next, owner.reserve unitID request deadlineOffset =
        (.error err, { owner with nextTransactionID := next, closed := true })) ∨
      ∃ t next, owner.closed = false ∧ owner.nextPhysicalRequestID ≠ 0 ∧
        owner.inFlight.lookup t = none ∧ owner.tombstones.lookup t = none ∧
        ((owner.inFlight.entries.length + owner.earlyCompletions.entries.length : Nat) : Int) <
          owner.limits.maxInFlight ∧
        owner.reserve unitID request deadlineOffset =
          (.ok (owner.reservationOf (request.owned t owner.nextPhysicalRequestID
              owner.generation unitID deadlineOffset)),
            { owner with
              nextTransactionID := next
              nextPhysicalRequestID := nextUint64 owner.nextPhysicalRequestID
              inFlight := owner.inFlight.insert t (request.owned t owner.nextPhysicalRequestID
                owner.generation unitID deadlineOffset) }) := by
  unfold reserve
  split
  · exact Or.inl ⟨_, rfl⟩
  split
  · exact Or.inl ⟨_, rfl⟩
  next hopen =>
  split
  · exact Or.inl ⟨_, rfl⟩
  split
  · exact Or.inl ⟨_, rfl⟩
  next hroom =>
  split
  · exact Or.inr (Or.inl ⟨_, _, rfl⟩)
  next hallocate =>
  split
  · exact Or.inr (Or.inl ⟨_, _, rfl⟩)
  next hnext =>
  have hfree := allocateTransactionID_free owner _ _ _ _ hallocate
  rw [Bool.not_eq_true, Bool.or_eq_false_iff] at hopen
  exact Or.inr (Or.inr ⟨_, _, hopen.1, hnext, hfree.1, hfree.2, Int.not_le.mp hroom, rfl⟩)

section Fields

variable (owner : TCPConnectionOwner)

theorem failAllExcept_lookup (t t' : UInt16) (request : OwnedRequest)
    (h : (owner.failAllExcept t).2.inFlight.lookup t' = some request) :
    owner.inFlight.lookup t' = some request := by
  simp only [failAllExcept, Table.lookup_eraseAll] at h
  split_ifs at h
  exact h

theorem mem_expiredCandidates (nowOffset : Duration) (request : OwnedRequest)
    (h : request ∈ owner.expiredCandidates nowOffset) :
    ∃ t, owner.inFlight.lookup t = some request := by
  unfold expiredCandidates at h
  rw [List.mem_insertionSort, List.mem_filter, List.mem_map] at h
  rcases h with ⟨⟨e, he, hrequest⟩, _⟩
  exact ⟨e.1, by rw [← hrequest]; exact (Table.mem_entries_iff _ _ _).mp he⟩

/-- Expiring requests have distinct identifiers, since the table lists each key
    once and files every request under its own identifier. -/
theorem expiredCandidates_nodup (nowOffset : Duration)
    (hkey : ∀ t request, owner.inFlight.lookup t = some request → request.transactionID = t) :
    ((owner.expiredCandidates nowOffset).map OwnedRequest.transactionID).Nodup := by
  have hentries : (owner.inFlight.entries.map fun e => e.2).map OwnedRequest.transactionID =
      owner.inFlight.entries.map Sigma.fst := by
    rw [List.map_map]
    refine List.map_congr_left (fun e he => ?_)
    exact hkey e.1 e.2 ((Table.mem_entries_iff _ _ _).mp he)
  have hkeys :
      ((owner.inFlight.entries.map fun e => e.2).map OwnedRequest.transactionID).Nodup := by
    rw [hentries]
    exact owner.inFlight.keys_nodup
  unfold expiredCandidates
  refine ((List.perm_insertionSort _ _).map _).nodup_iff.mpr ?_
  exact hkeys.sublist (List.Sublist.map _ List.filter_sublist)

end Fields

end TCPConnectionOwner

end HelianthusModbus
