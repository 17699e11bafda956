import HelianthusModbus.Core.RtuEndpoint

/-!
# Receiving on the RTU Fixture Endpoint

The operations that bytes and frames reach, those that release an endpoint from its
guard, its quarantine or its failure, and the line that several endpoints share.

A byte is taken in the response wait, in quarantine, where it only moves the time from
which the endpoint may be released, and in the guard after a response. A frame in the
response wait ends the request if it comes from its unit with its function, and is
diagnostic evidence otherwise.

## Main definitions

* `RTUFixtureEndpoint.feedByte`, `RTUFixtureEndpoint.endFrame`: Bytes and frames.
* `RTUFixtureEndpoint.tryResynchronize`, `RTUFixtureEndpoint.failQuiescence`,
  `RTUFixtureEndpoint.recover`, `RTUFixtureEndpoint.close`: Releases and ends.
* `RTUOperation`, `RTUCall`: The operations with everything they read from outside.
* `RTUFixtureEndpoint.step`, `RTUFixtureEndpoint.run`: One call, and a sequence of calls.
* `RTUFixtureLine`: Any number of endpoints on one line, of which at most one owns it.
-/

namespace HelianthusModbus

namespace RTUFixtureEndpoint

/-- `FeedByte` once the quarantine is known not to have expired. -/
def feedByteLocked (endpoint : RTUFixtureEndpoint) (value : UInt8) (now : Duration) :
    RTUReply × RTUFixtureEndpoint :=
  match endpoint.state with
  | .quarantine =>
    let observed := { endpoint with lastObservedByte := now, haveObservedByte := true }
    match checkedRTUOffsetAdd now endpoint.timing.interFrame with
    | none =>
      (.fail .state,
        { observed.requireRecoveryLocked "idle_deadline" with quarantined := none })
    | some idleDeadline =>
      let fed := endpoint.decoder.feedByte now value
      ({}, { observed with
             idleDeadline := if idleDeadline < endpoint.latencyDeadline then
                 endpoint.latencyDeadline else idleDeadline
             quarantineSawBytes := true
             decoder := if fed.1.isSome then fed.2.reset else fed.2 })
  | .responseWait =>
    let fed := endpoint.decoder.feedByte now value
    ({ err := fed.1.map .protocol },
      { endpoint with lastObservedByte := now, haveObservedByte := true, decoder := fed.2 })
  | .interFrameGuard =>
    match checkedRTUOffsetAdd now endpoint.timing.interFrame with
    | none => (.fail .state, endpoint.requireRecoveryLocked "inter_frame_guard_activity")
    | some guardDeadline =>
      if endpoint.discardedFrames.toNat = maxUint64 ∨ endpoint.canEmitLocked 1 = false then
        (.fail .state, endpoint.requireRecoveryLocked "inter_frame_guard_activity")
      else
        let emitted :=
          { endpoint with
            guardDeadline := guardDeadline
            discardedFrames := endpoint.discardedFrames + 1 }.eventsLocked
            [{ kind := .frameDiscarded, requestID := endpoint.guardRequestID
               unitID := endpoint.guardUnitID, detail := "inter_frame_guard_activity" }]
        ({ err := some .frameDiscarded, events := emitted.1 }, emitted.2)
  | _ => (.fail .state, endpoint)

def feedByte (endpoint : RTUFixtureEndpoint) (value : UInt8) (now : Duration) :
    RTUReply × RTUFixtureEndpoint :=
  match endpoint.nowLocked now with
  | .error failed => (.fail .state, failed)
  | .ok endpoint =>
    if endpoint.state = .quarantine ∧ now > endpoint.quiescenceDeadline then
      endpoint.quiescenceTimeout false
    else endpoint.feedByteLocked value now

/-- Dropping one frame of a quarantine. Too many of them require recovery. -/
def discardQuarantineFrameLocked (endpoint : RTUFixtureEndpoint) :
    RTUReply × RTUFixtureEndpoint :=
  if endpoint.discardedFrames.toNat = maxUint64 ∨
      endpoint.quarantineDiscarded.toNat = maxUint64 then
    (.fail .state,
      { endpoint.requireRecoveryLocked "discard_identity" with quarantined := none })
  else
    let recovery := decide (endpoint.quarantineDiscarded ≥ endpoint.maxDiscardedFrames)
    if endpoint.canEmitLocked (if recovery then 2 else 1) = false then
      (.fail .state, { endpoint.requireRecoveryLocked "event_capacity" with quarantined := none })
    else
      let about := endpoint.quarantinedRequest
      let discarded :=
        { endpoint with
          discardedFrames := endpoint.discardedFrames + 1
          quarantineDiscarded := endpoint.quarantineDiscarded + 1 }.eventsLocked
          [{ kind := .frameDiscarded, requestID := about.1, unitID := about.2
             detail := "quarantine" }]
      if recovery then
        let required :=
          { discarded.2 with state := .recoveryRequired, quarantined := none }.eventsLocked
            [{ kind := .recoveryRequired, requestID := about.1, unitID := about.2
               detail := "discard_bound" }]
        ({ err := some .frameDiscarded, events := discarded.1 ++ required.1 }, required.2)
      else ({ err := some .frameDiscarded, events := discarded.1 }, discarded.2)

/-- What a frame decodes to for the current request: its bytes, the words or the segment
    it has, and the error otherwise. -/
structure RTUDecodedFrame where
  raw : List UInt8
  response : Option ReadRegistersResponse := none
  segment : Option DeviceIDSegment := none
  err : Option ProtocolError := none
  deriving DecidableEq, Repr

def decodeFrame (current : RTUOwnedRequest) (frame : List UInt8) : RTUDecodedFrame :=
  match current.deviceID with
  | some deviceID =>
    let decoded := decodeRTUDeviceIDResponseADU current.plan.unitID deviceID frame
    match decoded.2 with
    | .ok segment => { raw := decoded.1.raw, segment := some segment }
    | .error err => { raw := decoded.1.raw, err := some err }
  | none =>
    let decoded := decodeRTUReadResponseADU current.plan.unitID current.plan.request frame
    match decoded.2 with
    | .ok response => { raw := decoded.1.raw, response := some response }
    | .error err => { raw := decoded.1.raw, err := some err }

/-- A frame that answers no request is kept as diagnostic evidence. -/
def receiveUncorrelated (endpoint : RTUFixtureEndpoint) (decoded : RTUDecodedFrame)
    (receivedUnitID : UInt8) (receivedFunction : FunctionCode) :
    RTUReply × RTUFixtureEndpoint :=
  if endpoint.nextDiagnosticID = 0 ∨ endpoint.nextDiagnosticID = maxUint64 ∨
      endpoint.canEmitLocked 1 = false then
    (.fail .state, endpoint.dropCurrent "diagnostic_identity_or_event_capacity")
  else
    let diagnosticID := endpoint.nextDiagnosticID
    let wire : WireResponse :=
      { outcome := .droppedUncorrelated, diagnosticFrameID := diagnosticID
        diagnostic :=
          { endpoint := endpoint.endpoint
            receivedTransportGeneration := endpoint.generation
            activeTransportGeneration := endpoint.generation
            unitID := receivedUnitID, receivedFunction := receivedFunction }
        bytes := decoded.raw }
    let emitted :=
      { endpoint with nextDiagnosticID := diagnosticID + 1 }.eventsLocked
        [{ kind := .responseReceive, unitID := receivedUnitID
           detail := WireOutcome.droppedUncorrelated.text }]
    ({ err := decoded.err.map .protocol
       events := emitted.1.map fun event =>
         { event with
           receivedFunction := receivedFunction, responseADUHex := hexEncode decoded.raw
           diagnosticFrameID := diagnosticID, wireOutcome := some .droppedUncorrelated }
       result := { wire := some wire } }, emitted.2)

/-- The outcome of a frame that answers the current request. -/
def outcomeOf (err : Option ProtocolError) : WireOutcome :=
  match err with
  | none => .successfulData
  | some err => if err.kind = .exceptionResponse then .protocolException else .malformedResponse

/-- A frame of the unit and function of the current request ends it, whatever it holds. -/
def receiveCorrelated (endpoint : RTUFixtureEndpoint) (current : RTUOwnedRequest)
    (decoded : RTUDecodedFrame) (receivedFunction : FunctionCode) (now : Duration) :
    RTUReply × RTUFixtureEndpoint :=
  match checkedRTUOffsetAdd now endpoint.timing.interFrame with
  | none => (.fail .state, endpoint.dropCurrent "guard_deadline")
  | some guardDeadline =>
    if endpoint.canEmitLocked 1 = false then
      (.fail .state, endpoint.dropCurrent "event_capacity")
    else if endpoint.nextWireResponseID = 0 ∨ endpoint.nextWireResponseID = maxUint64 then
      (.fail .state, endpoint.dropCurrent "wire_response_identity")
    else
      let wireID := endpoint.nextWireResponseID
      let base : WireProvenance :=
        { endpoint := endpoint.endpoint, transport := .rtu
          transportGeneration := endpoint.generation, unitID := current.plan.unitID
          requestedFunction := current.function, receivedFunction := receivedFunction }
      let provenance : WireProvenance :=
        match current.deviceID with
        | some deviceID =>
          { base with deviceIDAccess := deviceID.access, deviceIDObjectID := deviceID.objectID }
        | none =>
          { base with
            table := current.plan.request.table, offset := current.plan.request.offset
            quantity := current.plan.request.quantity }
      let outcome := outcomeOf decoded.err
      let deliverable := decoded.err.isNone
      let words := (decoded.response.map ReadRegistersResponse.words).getD []
      let wire : WireResponse :=
        { outcome := outcome, deliverable := deliverable, wireResponseID := wireID
          physicalRequestID := current.handle.requestID, provenance := provenance
          words := words, deviceIDSegment := decoded.segment, bytes := decoded.raw }
      let logical : LogicalReadView :=
        { logicalViewID := current.plan.logicalViewID, wireResponseID := wireID
          logicalOffset := current.plan.request.offset
          logicalWords := current.plan.request.quantity
          sliceOffset := 0, sliceWordCount := current.plan.request.quantity
          words := words, wireBytes := []
          provenance :=
            { physicalRequestID := current.handle.requestID, wire := provenance
              authorizationScope := current.plan.authorizationScope
              pollGeneration := current.plan.pollGeneration
              deadlineIdentity := current.plan.deadlineIdentity
              logicalOffset := current.plan.request.offset
              logicalWordCount := current.plan.request.quantity
              sliceOffset := 0, sliceWordCount := current.plan.request.quantity } }
      let emitted :=
        { endpoint with
          nextWireResponseID := wireID + 1
          state := .interFrameGuard
          guardDeadline := guardDeadline
          guardRequestID := current.handle.requestID
          guardUnitID := current.plan.unitID }.eventsLocked
          [{ kind := .responseReceive, requestID := current.handle.requestID
             unitID := current.plan.unitID, result := some .complete, detail := outcome.text }]
      ({ err := decoded.err.map .protocol
         events := emitted.1.map fun event =>
           { event with
             receivedFunction := receivedFunction, responseADUHex := hexEncode decoded.raw
             wireResponseID := wireID, wireOutcome := some outcome }
         result :=
           { deliverable := deliverable, response := decoded.response
             deviceIDSegment := decoded.segment, wire := some wire
             logical := if deliverable = true ∧ current.deviceID = none then some logical
               else none } },
        { emitted.2 with current := none })

def receiveFrameLocked (endpoint : RTUFixtureEndpoint) (current : RTUOwnedRequest)
    (frame : List UInt8) (now : Duration) : RTUReply × RTUFixtureEndpoint :=
  let decoded := decodeFrame current frame
  let receivedUnitID := frame.headD 0
  let receivedFunction := (frame.drop 1).headD 0
  if receivedUnitID = current.plan.unitID ∧ (receivedFunction = current.function ∨
      receivedFunction = current.function ||| 0x80) then
    endpoint.receiveCorrelated current decoded receivedFunction now
  else endpoint.receiveUncorrelated decoded receivedUnitID receivedFunction

/-- A frame that came after its request expired or was cancelled. -/
def discardExpired (endpoint : RTUFixtureEndpoint) (current : RTUOwnedRequest)
    (cancelled : Bool) : RTUReply × RTUFixtureEndpoint :=
  if endpoint.discardedFrames.toNat = maxUint64 ∨ endpoint.canEmitLocked 3 = false then
    (.fail .state,
      { endpoint.dropCurrent "discard_identity_or_event_capacity" with
        decoder := endpoint.decoder.reset })
  else
    match endpoint.prepareQuarantineLocked current.transmitCompletion with
    | .error failed => (.fail .state, failed)
    | .ok deadlines =>
      let set := endpoint.setQuarantineLocked current current.transmitCompletion deadlines
      let discarded : RTUEventCall :=
        { kind := .frameDiscarded, requestID := current.handle.requestID
          unitID := current.plan.unitID, detail := "expired_response" }
      let emitted :=
        { set with
          quarantineSawBytes := false
          lastObservedByte := 0
          haveObservedByte := false
          discardedFrames := set.discardedFrames + 1
          quarantineDiscarded := set.quarantineDiscarded + 1 }.eventsLocked
          (abandonCalls current (if cancelled then "cancellation" else "timeout") ++
            [discarded])
      ({ err := some .frameDiscarded, events := emitted.1 }, emitted.2)

/-- `EndFrame` and `EndDeviceIDFrame`, which differ in the kind of request they expect. -/
def endFrame (endpoint : RTUFixtureEndpoint) (expected : RequestKind) (cancelled : Bool)
    (now : Duration) : RTUReply × RTUFixtureEndpoint :=
  match endpoint.nowLocked now with
  | .error failed => (.fail .state, failed)
  | .ok endpoint =>
    if endpoint.state = .quarantine ∧ now > endpoint.quiescenceDeadline then
      endpoint.quiescenceTimeout false
    else
      match endpoint.state, endpoint.current with
      | .quarantine, _ =>
        if endpoint.quarantineSawBytes = false then (.fail .state, endpoint)
        else
          let cleared : RTUFixtureEndpoint :=
            { endpoint with
              decoder := endpoint.decoder.reset
              quarantineSawBytes := false
              lastObservedByte := 0
              haveObservedByte := false }
          cleared.discardQuarantineFrameLocked
      | .responseWait, some current =>
        if current.requestKind ≠ expected then (.fail .state, endpoint)
        else
          let ended := endpoint.decoder.endFrame now
          let endpoint := { endpoint with decoder := ended.2 }
          match ended.1.2, ended.1.1.raw with
          | some frameErr, [] => (.fail (.protocol frameErr), endpoint)
          | _, frame =>
            if cancelled = true ∨ now ≥ current.deadline then
              endpoint.discardExpired current cancelled
            else endpoint.receiveFrameLocked current frame now
      | _, _ => (.fail .state, endpoint)

/-- The end of `TryResynchronize`: the endpoint is idle again. `events` were built on
    the way. -/
def release (endpoint : RTUFixtureEndpoint) (events : List RTUEvent) :
    RTUReply × RTUFixtureEndpoint :=
  let emitted :=
    { endpoint with
      state := .idle
      quarantined := none
      quarantineSawBytes := false
      quarantineDiscarded := 0
      lastObservedByte := 0
      haveObservedByte := false
      decoder := endpoint.decoder.reset }.eventsLocked
      [{ kind := .resynchronized, requestID := endpoint.guardRequestID
         unitID := endpoint.guardUnitID }]
  ({ events := events ++ emitted.1 }, { emitted.2 with guardRequestID := 0, guardUnitID := 0 })

/-- Releasing a quarantine whose deadlines are over. Bytes that no frame end has
    discarded yet count as one more frame. -/
def releaseQuarantine (endpoint : RTUFixtureEndpoint) : RTUReply × RTUFixtureEndpoint :=
  if endpoint.canEmitLocked (if endpoint.quarantineSawBytes then 2 else 1) = false then
    (.fail .state,
      { endpoint.requireRecoveryLocked "event_capacity" with
        quarantined := none, decoder := endpoint.decoder.reset })
  else if endpoint.quarantineSawBytes then
    if endpoint.discardedFrames.toNat = maxUint64 ∨
        endpoint.quarantineDiscarded.toNat = maxUint64 then
      let emitted :=
        { endpoint with
          state := .recoveryRequired, quarantined := none
          decoder := endpoint.decoder.reset }.eventsLocked
          [{ kind := .recoveryRequired, detail := "discard_bound" }]
      ({ err := some .state, events := emitted.1 }, emitted.2)
    else
      let about := endpoint.quarantinedRequest
      let discarded :=
        { endpoint with
          discardedFrames := endpoint.discardedFrames + 1
          quarantineDiscarded := endpoint.quarantineDiscarded + 1 }.eventsLocked
          [{ kind := .frameDiscarded, requestID := about.1, unitID := about.2
             detail := "buffered_at_resynchronization" }]
      if discarded.2.quarantineDiscarded > endpoint.maxDiscardedFrames then
        let required :=
          { discarded.2 with
            state := .recoveryRequired, quarantined := none, quarantineSawBytes := false
            decoder := discarded.2.decoder.reset }.eventsLocked
            [{ kind := .recoveryRequired, requestID := about.1, unitID := about.2
               detail := "discard_bound" }]
        ({ err := some .state, events := discarded.1 ++ required.1 }, required.2)
      else discarded.2.release discarded.1
  else endpoint.release []

def tryResynchronize (endpoint : RTUFixtureEndpoint) (now : Duration) :
    RTUReply × RTUFixtureEndpoint :=
  match endpoint.nowLocked now with
  | .error failed => (.fail .state, failed)
  | .ok endpoint =>
    match endpoint.state with
    | .interFrameGuard =>
      if now < endpoint.guardDeadline then (.fail .state, endpoint)
      else if endpoint.canEmitLocked 1 = false then
        (.fail .state,
          { endpoint.requireRecoveryLocked "event_capacity" with
            quarantined := none, decoder := endpoint.decoder.reset })
      else endpoint.release []
    | .quarantine =>
      if now > endpoint.quiescenceDeadline then
        if endpoint.canEmitLocked 1 = false then
          (.fail .state, endpoint.requireRecoveryLocked "event_capacity")
        else
          let emitted := { endpoint with state := .recoveryRequired }.eventsLocked
            [{ kind := .recoveryRequired, detail := "quiescence_timeout" }]
          ({ err := some .state, events := emitted.1 }, emitted.2)
      else if now < endpoint.latencyDeadline ∨ now < endpoint.idleDeadline then
        (.fail .state, endpoint)
      else endpoint.releaseQuarantine
    | _ => (.fail .state, endpoint)

def failQuiescence (endpoint : RTUFixtureEndpoint) (now : Duration) :
    RTUReply × RTUFixtureEndpoint :=
  if endpoint.state ≠ .quarantine then (.fail .state, endpoint)
  else
    match endpoint.nowLocked now with
    | .error failed => (.fail .state, failed)
    | .ok endpoint =>
      if endpoint.canEmitLocked 1 = false then
        (.fail .state, endpoint.requireRecoveryLocked "event_capacity")
      else
        let emitted := { endpoint with state := .recoveryRequired }.eventsLocked
          [{ kind := .recoveryRequired, detail := "quiescence" }]
        ({ events := emitted.1 }, emitted.2)

/-- A new generation after explicit recovery. -/
def recover (endpoint : RTUFixtureEndpoint) (now : Duration) : RTUReply × RTUFixtureEndpoint :=
  if endpoint.state ≠ .recoveryRequired ∨ endpoint.generation = maxUint64 then
    (.fail .state, endpoint)
  else
    match endpoint.nowLocked now with
    | .error failed => (.fail .state, failed)
    | .ok endpoint =>
      if endpoint.canEmitLocked (if endpoint.pendingRecovery = "" then 1 else 2) = false then
        (.fail .state, endpoint)
      else
        let pending :=
          if endpoint.pendingRecovery = "" then ([], endpoint)
          else
            let emitted := endpoint.eventsLocked
              [{ kind := .recoveryRequired, detail := endpoint.pendingRecovery }]
            (emitted.1, { emitted.2 with pendingRecovery := "" })
        let emitted :=
          { pending.2 with
            generation := pending.2.generation + 1
            nextRequestID := 1
            nextWireResponseID := 1
            nextDiagnosticID := 1
            state := .idle
            current := none
            quarantined := none
            quarantineAnchor := 0
            latencyDeadline := 0
            quiescenceDeadline := 0
            idleDeadline := 0
            guardDeadline := 0
            guardRequestID := 0
            guardUnitID := 0
            quarantineDiscarded := 0
            quarantineSawBytes := false
            lastObservedByte := 0
            haveObservedByte := false
            decoder := pending.2.decoder.reset }.eventsLocked [{ kind := .recovered }]
        ({ events := pending.1 ++ emitted.1 }, emitted.2)

def close (endpoint : RTUFixtureEndpoint) (now : Duration) : RTUReply × RTUFixtureEndpoint :=
  if endpoint.state = .closed then ({}, endpoint)
  else
    match endpoint.nowLocked now with
    | .error failed =>
      (.fail .state,
        { failed with state := .closed, current := none, quarantined := none })
    | .ok endpoint =>
      if endpoint.canEmitLocked 1 = false then
        (.fail .state, { endpoint with state := .closed, current := none })
      else
        let emitted :=
          { endpoint with
            state := .closed
            current := none
            quarantined := none
            guardRequestID := 0
            guardUnitID := 0
            lastObservedByte := 0
            haveObservedByte := false
            decoder := endpoint.decoder.reset }.eventsLocked [{ kind := .closed }]
        ({ events := emitted.1 }, emitted.2)

end RTUFixtureEndpoint

/-- An operation with everything it reads from outside: the clock, and whether the
    context it looks at is cancelled. -/
inductive RTUOperation where
  | beginRead (cancelled : Bool) (plan : RTUReadPlan) (now : Duration)
  | beginDeviceID (cancelled : Bool) (plan : RTUDeviceIDPlan) (now : Duration)
  | completeTransmit (handle : RTURequestHandle) (result : TransmitResult) (cancelled : Bool)
      (now : Duration)
  | tick (cancelled : Bool) (now : Duration)
  | abandon (handle : RTURequestHandle) (reason : AbandonReason) (now : Duration)
  | feedByte (value : UInt8) (now : Duration)
  | endFrame (expected : RequestKind) (cancelled : Bool) (now : Duration)
  | tryResynchronize (now : Duration)
  | failQuiescence (now : Duration)
  | recover (now : Duration)
  | close (now : Duration)
  deriving DecidableEq, Repr

/-- One call. `callback` says that an event callback of the endpoint is running. -/
structure RTUCall where
  operation : RTUOperation
  callback : Bool := false
  deriving DecidableEq, Repr

namespace RTUFixtureEndpoint

def perform (endpoint : RTUFixtureEndpoint) : RTUOperation → RTUReply × RTUFixtureEndpoint
  | .beginRead cancelled plan now => endpoint.beginRead cancelled plan now
  | .beginDeviceID cancelled plan now => endpoint.beginDeviceID cancelled plan now
  | .completeTransmit handle result cancelled now =>
    endpoint.completeTransmit handle result cancelled now
  | .tick cancelled now => endpoint.tick cancelled now
  | .abandon handle reason now => endpoint.abandon handle reason now
  | .feedByte value now => endpoint.feedByte value now
  | .endFrame expected cancelled now => endpoint.endFrame expected cancelled now
  | .tryResynchronize now => endpoint.tryResynchronize now
  | .failQuiescence now => endpoint.failQuiescence now
  | .recover now => endpoint.recover now
  | .close now => endpoint.close now

def step (endpoint : RTUFixtureEndpoint) (call : RTUCall) : RTUReply × RTUFixtureEndpoint :=
  if call.callback then (.fail .eventReentry, endpoint) else endpoint.perform call.operation

/-- A call of `Close` gives the line back on every path but that of a closed endpoint. -/
def releases (endpoint : RTUFixtureEndpoint) (call : RTUCall) : Bool :=
  match call.operation with
  | .close _ => decide (call.callback = false ∧ endpoint.state ≠ .closed)
  | _ => false

/-- A sequence of calls, with what each of them returned. -/
def run (endpoint : RTUFixtureEndpoint) : List RTUCall → List RTUReply × RTUFixtureEndpoint
  | [] => ([], endpoint)
  | call :: rest =>
    let stepped := endpoint.step call
    let more := stepped.2.run rest
    (stepped.1 :: more.1, more.2)

end RTUFixtureEndpoint

/-- A line with every endpoint that was built on it, by the number it was built under.
    `owner` is the endpoint that has the line. -/
structure RTUFixtureLine where
  identity : String
  owner : Option Nat := none
  endpoints : List RTUFixtureEndpoint := []
  deriving DecidableEq, Repr

def newRTUFixtureLine (identity : String) : Except ProtocolError RTUFixtureLine :=
  if identity = "" then
    .error (protocolError .invalidRequest 0 0 "rtu_fixture_identity" (-1))
  else .ok { identity := identity }

inductive RTULineCall where
  | newEndpoint (config : RTUFixtureEndpointConfig)
  | call (id : Nat) (call : RTUCall)
  deriving DecidableEq, Repr

namespace RTUFixtureLine

/-- Claiming the line for a new endpoint. -/
def newEndpoint (line : RTUFixtureLine) (config : RTUFixtureEndpointConfig) :
    RTUReply × RTUFixtureLine :=
  match newRTUFixtureEndpoint line.endpoints.length config with
  | .error err => (.fail (.protocol err), line)
  | .ok endpoint =>
    if line.owner.isSome then
      (.fail (.protocol (protocolError .invalidRequest 0 0 "rtu_fixture_owner" (-1))), line)
    else
      ({}, { line with
             owner := some line.endpoints.length, endpoints := line.endpoints ++ [endpoint] })

/-- One call. A number that no endpoint has does nothing. -/
def step (line : RTUFixtureLine) : RTULineCall → RTUReply × RTUFixtureLine
  | .newEndpoint config => line.newEndpoint config
  | .call id call =>
    match line.endpoints[id]? with
    | none => (.fail .state, line)
    | some endpoint =>
      let stepped := endpoint.step call
      (stepped.1,
        { line with
          owner := if endpoint.releases call = true ∧ line.owner = some id then none
            else line.owner
          endpoints := line.endpoints.set id stepped.2 })

/-- The line after a sequence of calls. -/
def run (line : RTUFixtureLine) (calls : List RTULineCall) : RTUFixtureLine :=
  calls.foldl (fun line call => (line.step call).2) line

end RTUFixtureLine

end HelianthusModbus
