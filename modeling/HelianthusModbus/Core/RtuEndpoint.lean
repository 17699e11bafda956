import HelianthusModbus.Core.Coalescing
import HelianthusModbus.Core.RtuAdu

/-!
# The RTU Fixture Endpoint

The owner of an RTU line that never opens a serial port: bytes, write results and
clock readings are handed to it. It has one request at a time. A request that may have
been sent and gets no answer puts the endpoint into quarantine, from which it is
released once the line has been silent for long enough.

An operation takes the endpoint's emit lock for its whole duration, so the operations
of one endpoint are a sequence. Each of them reads the clock at most once and the
context of the current request at most once; both readings are arguments. An operation
that is called from inside an event callback is refused before it looks at anything.

## Main definitions

* `RTUFixtureEndpoint`: The state of one endpoint.
* `RTUFixtureEndpoint.eventLocked`: Building an event with the next sequence number.
* `RTUFixtureEndpoint.beginRead`, `RTUFixtureEndpoint.beginDeviceID`: Starting a request.
* `RTUFixtureEndpoint.completeTransmit`, `RTUFixtureEndpoint.tick`,
  `RTUFixtureEndpoint.abandon`: The ends of a request that got no response.
* `RTUFixtureEndpoint.prepareQuarantineLocked`, `RTUFixtureEndpoint.setQuarantineLocked`:
  Entering quarantine.
-/

namespace HelianthusModbus

inductive RTUEventKind where
  | beginRead
  | beginDeviceID
  | transmitResult
  | responseReceive
  | quarantineTransition
  | waiterResolved
  | frameDiscarded
  | resynchronized
  | recoveryRequired
  | recovered
  | closed
  deriving DecidableEq, Repr

inductive RTUEndpointState where
  | idle
  | writing
  | responseWait
  | interFrameGuard
  | quarantine
  | recoveryRequired
  | closed
  deriving DecidableEq, Repr

/-- One owner-assigned transition, with what is known of the request it is about. -/
structure RTUEvent where
  clockContractVersion : String
  endpoint : String
  kind : RTUEventKind
  monotonicOffset : Duration
  sequence : Nat
  generation : Nat
  requestID : Nat
  unitID : UInt8
  requestedFunction : FunctionCode := 0
  receivedFunction : FunctionCode := 0
  table : LogicalTable := .unset
  offset : Nat := 0
  quantity : Nat := 0
  authorizationScope : String := ""
  pollGeneration : Nat := 0
  deadlineIdentity : Nat := 0
  deadlineOffset : Duration := 0
  logicalViewID : Nat := 0
  deviceIDAccess : DeviceIDAccess := 0
  deviceIDObjectID : UInt8 := 0
  requestADUHex : String := ""
  responseADUHex : String := ""
  wireResponseID : Nat := 0
  diagnosticFrameID : Nat := 0
  wireOutcome : Option WireOutcome := none
  state : RTUEndpointState
  transmitResult : Option TransmitResult
  detail : String
  deriving DecidableEq, Repr

/-- The arguments of one call of `eventLocked`. -/
structure RTUEventCall where
  kind : RTUEventKind
  requestID : Nat := 0
  unitID : UInt8 := 0
  result : Option TransmitResult := none
  detail : String := ""
  deriving DecidableEq, Repr

def TransmitResult.text : TransmitResult → String
  | .provableZero => "provable_zero"
  | .partialWrite => "partial_write"
  | .indeterminate => "indeterminate_error"
  | .cancellationRace => "cancellation_race"
  | .ambiguous => "ambiguous_completion"
  | .complete => "complete"

def WireOutcome.text : WireOutcome → String
  | .successfulData => "successful_data"
  | .protocolException => "protocol_exception"
  | .malformedResponse => "malformed_response"
  | .lateAfterAbandonment => "late_after_abandonment"
  | .droppedUncorrelated => "dropped_uncorrelated"

/-- Two lower-case digits for each byte. -/
def hexEncode (bytes : List UInt8) : String :=
  String.ofList (bytes.flatMap fun value =>
    [Nat.digitChar (value.toNat / 16), Nat.digitChar (value.toNat % 16)])

structure RTUReadPlan where
  unitID : UInt8
  authorizationScope : String
  pollGeneration : Nat
  deadlineIdentity : Nat
  logicalViewID : Nat := 0
  timeout : Duration
  request : ReadRegistersRequest := {}
  deriving DecidableEq, Repr

structure RTUDeviceIDPlan where
  unitID : UInt8
  authorizationScope : String
  pollGeneration : Nat
  deadlineIdentity : Nat
  timeout : Duration
  request : DeviceIDRequest
  deriving DecidableEq, Repr

/-- The handle of one request. The default belongs to no endpoint. -/
structure RTURequestHandle where
  endpoint : Option Nat := none
  requestID : Nat := 0
  generation : Nat := 0
  deriving DecidableEq, Repr, Inhabited

structure RTUOwnedRequest where
  handle : RTURequestHandle
  plan : RTUReadPlan
  deviceID : Option DeviceIDRequest := none
  frame : List UInt8
  writeInvocation : Duration
  deadline : Duration
  transmitCompletion : Duration := 0
  deriving DecidableEq, Repr

namespace RTUOwnedRequest

def function (request : RTUOwnedRequest) : FunctionCode :=
  match request.deviceID with
  | some _ => functionEncapsulatedInterface
  | none => request.plan.request.function

def requestKind (request : RTUOwnedRequest) : RequestKind :=
  match request.deviceID with
  | some _ => .deviceID
  | none => .read

end RTUOwnedRequest

/-- The state of one endpoint. `id` stands for its address. Nothing reads `exhausted`, which
    counts how often an event found no sequence number left. -/
structure RTUFixtureEndpoint where
  id : Nat
  endpoint : String
  clockContract : String
  timing : RTUTiming
  decoder : RTUFrameDecoder
  maxDiscardedFrames : UInt64
  state : RTUEndpointState := .idle
  generation : Nat := 1
  nextRequestID : Nat := 1
  nextWireResponseID : Nat := 1
  nextDiagnosticID : Nat := 1
  nextSequence : Nat := 0
  current : Option RTUOwnedRequest := none
  quarantined : Option RTUOwnedRequest := none
  lastClock : Duration := 0
  haveClock : Bool := false
  quarantineAnchor : Duration := 0
  latencyDeadline : Duration := 0
  quiescenceDeadline : Duration := 0
  idleDeadline : Duration := 0
  guardDeadline : Duration := 0
  guardRequestID : Nat := 0
  guardUnitID : UInt8 := 0
  discardedFrames : UInt64 := 0
  quarantineDiscarded : UInt64 := 0
  quarantineSawBytes : Bool := false
  pendingRecovery : String := ""
  lastObservedByte : Duration := 0
  haveObservedByte : Bool := false
  exhausted : Nat := 0
  deriving DecidableEq, Repr

/-- The configuration of an endpoint. `clockContract` is the contract version of its
    clock. -/
structure RTUFixtureEndpointConfig where
  endpoint : String
  timing : RTUTiming
  clockContract : String
  fixtureOptIn : Bool
  maxDiscardedFrames : UInt64
  deriving DecidableEq, Repr

/-- The endpoint a configuration stands for, before it claims its line. -/
def newRTUFixtureEndpoint (id : Nat) (config : RTUFixtureEndpointConfig) :
    Except ProtocolError RTUFixtureEndpoint :=
  let invalid : ProtocolError := protocolError .invalidRequest 0 0 "rtu_fixture_config" (-1)
  match checkedRTUOffsetAdd config.timing.maxResponseLatency config.timing.interFrame with
  | none => .error invalid
  | some minimumQuiescence =>
    if config.endpoint = "" ∨ config.clockContract = "" ∨ config.fixtureOptIn = false ∨
        config.maxDiscardedFrames = 0 ∨ config.timing.characterTime ≤ 0 ∨
        minimumQuiescence > config.timing.maxQuiescence then
      .error invalid
    else
      match newRTUFrameDecoder config.timing with
      | .error err => .error err
      | .ok decoder =>
        .ok { id := id, endpoint := config.endpoint, clockContract := config.clockContract
              timing := config.timing, decoder := decoder
              maxDiscardedFrames := config.maxDiscardedFrames }

inductive RTUError where
  | frameDiscarded
  | state
  | eventReentry
  | context
  | protocol (err : ProtocolError)
  deriving DecidableEq, Repr

/-- A received frame, as the operation that ended it returns it. The fields are absent
    where the source returns zero values. -/
structure RTUReadResult where
  deliverable : Bool := false
  response : Option ReadRegistersResponse := none
  deviceIDSegment : Option DeviceIDSegment := none
  wire : Option WireResponse := none
  logical : Option LogicalReadView := none
  deriving DecidableEq, Repr, Inhabited

/-- What an operation returns, with the events it dispatched. -/
structure RTUReply where
  err : Option RTUError := none
  events : List RTUEvent := []
  handle : RTURequestHandle := {}
  frame : List UInt8 := []
  result : RTUReadResult := {}
  deriving DecidableEq, Repr, Inhabited

/-- An operation that only returns an error. -/
def RTUReply.fail (err : RTUError) : RTUReply := { err := some err }

structure RTUQuarantineDeadlines where
  latency : Duration
  quiescence : Duration
  idle : Duration
  hadBufferedBytes : Bool
  deriving DecidableEq, Repr

namespace RTUFixtureEndpoint

def canEmitLocked (endpoint : RTUFixtureEndpoint) (count : Nat) : Bool :=
  decide (count > 0 ∧ endpoint.nextSequence ≤ maxUint64 - count)

def requireRecoveryLocked (endpoint : RTUFixtureEndpoint) (detail : String) :
    RTUFixtureEndpoint :=
  { endpoint with
    state := .recoveryRequired
    pendingRecovery := if endpoint.pendingRecovery = "" then detail
      else endpoint.pendingRecovery }

/-- Reading the clock. A reading that is negative or goes back ends every request; the
    error carries the endpoint it leaves. -/
def nowLocked (endpoint : RTUFixtureEndpoint) (now : Duration) :
    Except RTUFixtureEndpoint RTUFixtureEndpoint :=
  if now < 0 ∨ (endpoint.haveClock = true ∧ now < endpoint.lastClock) then
    .error { endpoint.requireRecoveryLocked "clock_regression" with
      current := none, quarantined := none }
  else .ok { endpoint with lastClock := now, haveClock := true }

def matchesLocked (endpoint : RTUFixtureEndpoint) (handle : RTURequestHandle) :
    Option RTUOwnedRequest :=
  match endpoint.current with
  | none => none
  | some current =>
    if handle.endpoint = some endpoint.id ∧ handle.requestID ≠ 0 ∧
        handle.requestID = current.handle.requestID ∧
        handle.generation = endpoint.generation then
      some current
    else none

/-- The request an event about `requestID` describes. -/
def eventRequest (endpoint : RTUFixtureEndpoint) (requestID : Nat) : Option RTUOwnedRequest :=
  match endpoint.current.filter (fun current => current.handle.requestID = requestID) with
  | some current => some current
  | none =>
    endpoint.quarantined.filter fun quarantined => quarantined.handle.requestID = requestID

/-- An event with the given sequence number. -/
def eventAt (endpoint : RTUFixtureEndpoint) (sequence : Nat) (call : RTUEventCall) : RTUEvent :=
  let event : RTUEvent :=
    { clockContractVersion := endpoint.clockContract, endpoint := endpoint.endpoint
      kind := call.kind, monotonicOffset := endpoint.lastClock, sequence := sequence
      generation := endpoint.generation, requestID := call.requestID, unitID := call.unitID
      state := endpoint.state, transmitResult := call.result, detail := call.detail }
  match endpoint.eventRequest call.requestID with
  | none => event
  | some current =>
    let described : RTUEvent :=
      { event with
        requestedFunction := current.function
        authorizationScope := current.plan.authorizationScope
        pollGeneration := current.plan.pollGeneration
        deadlineIdentity := current.plan.deadlineIdentity
        deadlineOffset := current.deadline
        logicalViewID := current.plan.logicalViewID
        requestADUHex := hexEncode current.frame }
    match current.deviceID with
    | some deviceID =>
      { described with
        deviceIDAccess := deviceID.access, deviceIDObjectID := deviceID.objectID }
    | none =>
      { described with
        table := current.plan.request.table, offset := current.plan.request.offset
        quantity := current.plan.request.quantity }

/-- The next event. There is none, and the endpoint needs recovery, once the sequence
    numbers are used up. -/
def eventLocked (endpoint : RTUFixtureEndpoint) (call : RTUEventCall) :
    Option RTUEvent × RTUFixtureEndpoint :=
  if endpoint.nextSequence = maxUint64 then
    (none, { endpoint with
             state := .recoveryRequired, exhausted := endpoint.exhausted + 1 })
  else
    (some (endpoint.eventAt (endpoint.nextSequence + 1) call),
      { endpoint with nextSequence := endpoint.nextSequence + 1 })

/-- Several events in a row. An event without a sequence number is not dispatched. -/
def eventsLocked (endpoint : RTUFixtureEndpoint) :
    List RTUEventCall → List RTUEvent × RTUFixtureEndpoint
  | [] => ([], endpoint)
  | call :: rest =>
    let emitted := endpoint.eventLocked call
    let more := emitted.2.eventsLocked rest
    (emitted.1.toList ++ more.1, more.2)

/-- The part that `BeginRead` and `BeginDeviceID` share. `encoded` is the frame of the
    request and `planned` what the check of its plan says. -/
def beginRequest (endpoint : RTUFixtureEndpoint) (kind : RTUEventKind) (cancelled : Bool)
    (encoded : Except ProtocolError (List UInt8)) (planned : Option ProtocolError)
    (function : FunctionCode) (plan : RTUReadPlan) (deviceID : Option DeviceIDRequest)
    (now : Duration) : RTUReply × RTUFixtureEndpoint :=
  if cancelled then (.fail .context, endpoint)
  else
    match encoded with
    | .error err => (.fail (.protocol err), endpoint)
    | .ok frame =>
      match planned with
      | some err => (.fail (.protocol err), endpoint)
      | none =>
        if endpoint.state ≠ .idle then (.fail .state, endpoint)
        else if endpoint.nextRequestID = 0 ∨ endpoint.nextRequestID = maxUint64 ∨
            endpoint.canEmitLocked 1 = false then
          (.fail .state, endpoint.requireRecoveryLocked "request_identity_or_event_capacity")
        else
          match endpoint.nowLocked now with
          | .error failed => (.fail .state, failed)
          | .ok endpoint =>
            match checkedRTUOffsetAdd now plan.timeout with
            | none =>
              (.fail (.protocol
                (protocolError .invalidRange function 0 "rtu_deadline" (-1))), endpoint)
            | some deadline =>
              let handle : RTURequestHandle :=
                { endpoint := some endpoint.id, requestID := endpoint.nextRequestID
                  generation := endpoint.generation }
              let begun : RTUFixtureEndpoint :=
                { endpoint with
                  nextRequestID := endpoint.nextRequestID + 1
                  state := .writing
                  lastObservedByte := 0
                  haveObservedByte := false
                  current := some
                    { handle := handle, plan := plan, deviceID := deviceID, frame := frame
                      writeInvocation := now, deadline := deadline } }
              let emitted := begun.eventsLocked
                [{ kind := kind, requestID := handle.requestID, unitID := plan.unitID }]
              ({ events := emitted.1, handle := handle, frame := frame }, emitted.2)

def beginRead (endpoint : RTUFixtureEndpoint) (cancelled : Bool) (plan : RTUReadPlan)
    (now : Duration) : RTUReply × RTUFixtureEndpoint :=
  endpoint.beginRequest .beginRead cancelled (encodeRTUReadADU plan.unitID plan.request)
    (if plan.authorizationScope = "" ∨ plan.pollGeneration = 0 ∨ plan.deadlineIdentity = 0 ∨
        plan.logicalViewID = 0 ∨ plan.timeout ≤ 0 then
      some (protocolError .invalidRequest plan.request.function 0 "rtu_read_plan" (-1))
    else none)
    plan.request.function plan none now

def beginDeviceID (endpoint : RTUFixtureEndpoint) (cancelled : Bool) (plan : RTUDeviceIDPlan)
    (now : Duration) : RTUReply × RTUFixtureEndpoint :=
  endpoint.beginRequest .beginDeviceID cancelled
    (encodeRTUDeviceIDAccessADU plan.unitID plan.request)
    (if plan.authorizationScope = "" ∨ plan.pollGeneration = 0 ∨ plan.deadlineIdentity = 0 ∨
        plan.timeout ≤ 0 then
      some (protocolError .invalidRequest functionEncapsulatedInterface 0
        "rtu_device_id_plan" (-1))
    else none)
    functionEncapsulatedInterface
    { unitID := plan.unitID, authorizationScope := plan.authorizationScope
      pollGeneration := plan.pollGeneration, deadlineIdentity := plan.deadlineIdentity
      timeout := plan.timeout }
    (some plan.request) now

/-- The deadlines of a quarantine that starts at `anchor`. The error carries the endpoint
    that is left when one of them is out of range. -/
def prepareQuarantineLocked (endpoint : RTUFixtureEndpoint) (anchor : Duration) :
    Except RTUFixtureEndpoint RTUQuarantineDeadlines :=
  let failed (detail : String) : Except RTUFixtureEndpoint RTUQuarantineDeadlines :=
    .error { endpoint.requireRecoveryLocked detail with current := none }
  match checkedRTUOffsetAdd anchor endpoint.timing.maxResponseLatency with
  | none => failed "latency_deadline"
  | some latencyDeadline =>
    match checkedRTUOffsetAdd anchor endpoint.timing.maxQuiescence with
    | none => failed "quiescence_deadline"
    | some quiescenceDeadline =>
      match checkedRTUOffsetAdd latencyDeadline endpoint.timing.interFrame with
      | none => failed "idle_deadline"
      | some idleDeadline =>
        if idleDeadline > quiescenceDeadline then failed "idle_deadline"
        else if endpoint.haveObservedByte then
          match checkedRTUOffsetAdd endpoint.lastObservedByte
              endpoint.timing.interFrame with
          | none => failed "observed_idle_deadline"
          | some bufferedIdle =>
            if bufferedIdle > quiescenceDeadline then failed "observed_idle_deadline"
            else
              .ok { latency := latencyDeadline, quiescence := quiescenceDeadline
                    idle := if bufferedIdle > idleDeadline then bufferedIdle
                      else idleDeadline
                    hadBufferedBytes := true }
        else
          .ok { latency := latencyDeadline, quiescence := quiescenceDeadline
                idle := idleDeadline, hadBufferedBytes := false }

def setQuarantineLocked (endpoint : RTUFixtureEndpoint) (current : RTUOwnedRequest)
    (anchor : Duration) (deadlines : RTUQuarantineDeadlines) : RTUFixtureEndpoint :=
  { endpoint with
    state := .quarantine
    quarantineAnchor := anchor
    latencyDeadline := deadlines.latency
    quiescenceDeadline := deadlines.quiescence
    idleDeadline := deadlines.idle
    quarantined := some current
    current := none
    quarantineDiscarded := 0
    quarantineSawBytes := deadlines.hadBufferedBytes
    decoder := endpoint.decoder.reset }

/-- Entering quarantine: its deadlines are prepared, it is set and then announced. -/
def enterQuarantine (endpoint : RTUFixtureEndpoint) (current : RTUOwnedRequest)
    (anchor : Duration) (calls : List RTUEventCall) : RTUReply × RTUFixtureEndpoint :=
  match endpoint.prepareQuarantineLocked anchor with
  | .error failed => (.fail .state, failed)
  | .ok deadlines =>
    let emitted := (endpoint.setQuarantineLocked current anchor deadlines).eventsLocked calls
    ({ events := emitted.1 }, emitted.2)

/-- Recovery is required and the request is dropped without a word. -/
def dropCurrent (endpoint : RTUFixtureEndpoint) (detail : String) : RTUFixtureEndpoint :=
  { endpoint.requireRecoveryLocked detail with current := none }

/-- The anchor of a quarantine after a write whose end is not known: the time its frame
    needs on the line, but not before now. -/
def quarantineUnfinished (endpoint : RTUFixtureEndpoint) (current : RTUOwnedRequest)
    (now : Duration) (calls : List RTUEventCall) : RTUReply × RTUFixtureEndpoint :=
  match endpoint.timing.frameTransmitHorizon current.frame.length with
  | .error err => (.fail (.protocol err), endpoint.dropCurrent "transmit_horizon")
  | .ok horizon =>
    match checkedRTUOffsetAdd current.writeInvocation horizon with
    | none => (.fail .state, endpoint.dropCurrent "transmit_anchor")
    | some anchor =>
      endpoint.enterQuarantine current (if anchor < now then now else anchor) calls

/-- How many events the result of a write is announced by. -/
def transmitEventCount (result : TransmitResult) (cancelled expired : Bool) : Nat :=
  if result = .provableZero then 2
  else if result ≠ .complete ∨ cancelled = true ∨ expired = true then 3
  else 1

def completeTransmit (endpoint : RTUFixtureEndpoint) (handle : RTURequestHandle)
    (result : TransmitResult) (cancelled : Bool) (now : Duration) :
    RTUReply × RTUFixtureEndpoint :=
  match endpoint.matchesLocked handle with
  | none => (.fail .state, endpoint)
  | some current =>
    if endpoint.state ≠ .writing then (.fail .state, endpoint)
    else
      match endpoint.nowLocked now with
      | .error failed => (.fail .state, failed)
      | .ok endpoint =>
        let expired := decide (now ≥ current.deadline)
        let about (kind : RTUEventKind) (result : Option TransmitResult) (detail : String) :
            RTUEventCall :=
          { kind := kind, requestID := handle.requestID, unitID := current.plan.unitID
            result := result, detail := detail }
        if endpoint.canEmitLocked (transmitEventCount result cancelled expired) = false then
          (.fail .state, endpoint.dropCurrent "event_capacity")
        else
          match result with
          | .provableZero =>
            let detail :=
              if cancelled then "cancellation_before_provable_zero"
              else if expired then "timeout_before_provable_zero"
              else TransmitResult.provableZero.text
            let emitted := { endpoint with state := .idle }.eventsLocked
              [about .transmitResult (some .provableZero) TransmitResult.provableZero.text,
               about .waiterResolved (some .provableZero) detail]
            ({ events := emitted.1 },
              { emitted.2 with
                current := none, lastObservedByte := 0, haveObservedByte := false })
          | .complete =>
            let completed := { current with transmitCompletion := now }
            if cancelled = false ∧ expired = false then
              let emitted :=
                { endpoint with
                  state := .responseWait, current := some completed }.eventsLocked
                  [about .transmitResult (some .complete) TransmitResult.complete.text]
              ({ events := emitted.1 }, emitted.2)
            else
              let detail := if cancelled then "cancellation" else "timeout"
              { endpoint with current := some completed }.enterQuarantine completed now
                [about .transmitResult (some .complete) TransmitResult.complete.text,
                 about .quarantineTransition none detail,
                 about .waiterResolved none detail]
          | result =>
            endpoint.quarantineUnfinished current now
              [about .transmitResult (some result) result.text,
               about .quarantineTransition none result.text,
               about .waiterResolved none result.text]

/-- The two events of a request that is given up while it waits for its response. -/
def abandonCalls (current : RTUOwnedRequest) (detail : String) : List RTUEventCall :=
  [{ kind := .quarantineTransition, requestID := current.handle.requestID
     unitID := current.plan.unitID, detail := detail },
   { kind := .waiterResolved, requestID := current.handle.requestID
     unitID := current.plan.unitID, detail := detail }]

/-- The request and unit that events of a quarantine are about. -/
def quarantinedRequest (endpoint : RTUFixtureEndpoint) : Nat × UInt8 :=
  match endpoint.quarantined with
  | none => (0, 0)
  | some quarantined => (quarantined.handle.requestID, quarantined.plan.unitID)

/-- Recovery is required because the quarantine lasted too long. `sawBytes` is what the
    operation that noticed it leaves of the mark that bytes were seen. -/
def quiescenceTimeout (endpoint : RTUFixtureEndpoint) (sawBytes : Bool) :
    RTUReply × RTUFixtureEndpoint :=
  if endpoint.canEmitLocked 1 = false then
    (.fail .state,
      { endpoint.requireRecoveryLocked "event_capacity" with
        quarantined := none, decoder := endpoint.decoder.reset })
  else
    let about := endpoint.quarantinedRequest
    let emitted :=
      { endpoint with
        state := .recoveryRequired, quarantined := none, quarantineSawBytes := sawBytes
        decoder := endpoint.decoder.reset }.eventsLocked
        [{ kind := .recoveryRequired, requestID := about.1, unitID := about.2
           detail := "quiescence_timeout" }]
    ({ err := some .state, events := emitted.1 }, emitted.2)

def tick (endpoint : RTUFixtureEndpoint) (cancelled : Bool) (now : Duration) :
    RTUReply × RTUFixtureEndpoint :=
  match endpoint.nowLocked now with
  | .error failed => (.fail .state, failed)
  | .ok endpoint =>
    if endpoint.state = .quarantine then
      if now ≤ endpoint.quiescenceDeadline then ({}, endpoint)
      else endpoint.quiescenceTimeout endpoint.quarantineSawBytes
    else
      match endpoint.current with
      | none => ({}, endpoint)
      | some current =>
        if cancelled = false ∧ now < current.deadline then ({}, endpoint)
        else
          match endpoint.state with
          | .writing =>
            if endpoint.canEmitLocked 3 = false then
              (.fail .state, endpoint.dropCurrent "event_capacity")
            else
              let result : TransmitResult :=
                if cancelled then .cancellationRace else .ambiguous
              let detail :=
                if cancelled then "cancellation_during_write" else "deadline_during_write"
              endpoint.quarantineUnfinished current now
                ({ kind := .transmitResult, requestID := current.handle.requestID
                   unitID := current.plan.unitID, result := some result
                   detail := detail } :: abandonCalls current detail)
          | .responseWait =>
            if endpoint.canEmitLocked 2 = false then
              (.fail .state, endpoint.dropCurrent "event_capacity")
            else
              endpoint.enterQuarantine current current.transmitCompletion
                (abandonCalls current (if cancelled then "cancellation" else "timeout"))
          | _ => (.fail .state, endpoint)

def abandon (endpoint : RTUFixtureEndpoint) (handle : RTURequestHandle) (reason : AbandonReason)
    (now : Duration) : RTUReply × RTUFixtureEndpoint :=
  match endpoint.matchesLocked handle with
  | none => (.fail .state, endpoint)
  | some current =>
    if endpoint.state ≠ .responseWait then (.fail .state, endpoint)
    else if endpoint.canEmitLocked 2 = false then
      (.fail .state, endpoint.dropCurrent "event_capacity")
    else
      match endpoint.nowLocked now with
      | .error failed => (.fail .state, failed)
      | .ok endpoint =>
        endpoint.enterQuarantine current current.transmitCompletion
          (abandonCalls current
            (if reason = .cancellation then "cancellation" else "timeout"))

end RTUFixtureEndpoint

end HelianthusModbus
