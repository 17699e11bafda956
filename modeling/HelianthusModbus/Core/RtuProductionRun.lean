import HelianthusModbus.Core.RtuProduction
import HelianthusModbus.Lib.Machine

/-!
# Calls on the RTU Production Endpoint

The operations of the endpoint as machines, split where they take and give back the lock
and where they call the stream, an admission or a classifier.

Everything that such a call answers is an input of the step, and so are the readings of
the clocks and the errors of the contexts. An exchange that has reserved the endpoint goes
through `releasing` on every path, as the deferred function does in the source.

## Main definitions

* `RTUProductionCall`: The operations.
* `RTUPhase`: Where an operation is, with its local variables.
* `rtuProduction`: The machine of all operations.
-/

namespace HelianthusModbus

inductive RTUProductionCall where
  | read (unit : UInt8) (request : ReadRegistersRequest)
  | exchangePrivateFunction (unit : UInt8) (request : PrivateFunctionRequest)
      (policy : PrivateFunctionResponsePolicy) (classifier : Bool)
  | recover
  | close
  | lastEvidence
  | lastPrivateFunctionEvidence
  deriving DecidableEq, Repr

/-- A classification of a response frame. -/
inductive RTUPrivateFunctionDisposition where
  | continued
  | terminal
  | invalid (value : UInt8)
  deriving DecidableEq, Repr

/-- What a step reads from outside. A panic of a classifier is one of its errors. -/
structure RTUInput where
  admitted : Bool := false
  written : Nat := 0
  writeErr : Option RTUFault := none
  read : RTUByteRead := { byte := .error { deadlineExceeded := true } }
  contextErr : Option RTUFault := none
  classified : Except RTUFault RTUPrivateFunctionDisposition := .ok .terminal
  offset : Duration := 0
  fenceOffset : Duration := 0
  closeErr : Option RTUFault := none

structure RTUResult where
  err : Option RTUProductionError := none
  response : Option ReadRegistersResponse := none
  responses : List RTUPrivateFunctionResponseADU := []
  evidence : Option RTUReadEvidence := none
  privateEvidence : Option RTUPrivateFunctionEvidence := none
  deriving DecidableEq, Repr

def RTUResult.fail (err : RTUProductionError) : RTUResult := { err := some err }

inductive RTUReceipt where
  | read (evidence : RTUReadEvidence)
  | privateFunction (evidence : RTUPrivateFunctionEvidence)

/-- How an exchange ends. `response` are the bytes of a read response. -/
structure RTUEnding where
  response : List UInt8 := []
  wall : Option Int := none
  integrity : Bool
  outcome : RTUOutcome
  result : RTUResult

/-- The frames a private exchange has collected. -/
structure RTUCollected where
  responses : List RTUPrivateFunctionResponseADU := []
  wall : Option Int := none

/-- Where an operation is. -/
inductive RTUPhase where
  | entering (frame : List UInt8)
  | admitting (frame : List UInt8) (generation : UInt64)
  | rechecking (frame : List UInt8) (generation : UInt64)
  | writing (frame : List UInt8) (receipt : RTUReceipt)
  | receiving (evidence : RTUReadEvidence) (loop : RTUReceiveLoop)
  | collecting (evidence : RTUPrivateFunctionEvidence) (collected : RTUCollected)
      (loop : RTUFrameLoop)
  | classifying (evidence : RTUPrivateFunctionEvidence) (collected : RTUCollected)
      (response : RTUPrivateFunctionResponseADU)
  | finishing (receipt : RTUReceipt) (ending : RTUEnding)
  | releasing (result : RTUResult)
  | recovering
  | draining (quarantineUntil : Duration)
  | succeeding
  | closing
  | closingStream
  | inspecting
  | done (result : RTUResult)

def RTUPhase.isDone : RTUPhase → Bool
  | .done _ => true
  | _ => false

/-- The function codes that a private exchange may use. -/
def productionPrivateFunctionCode (code : PrivateFunctionCode) : Bool :=
  decide ((code ≥ 65 ∧ code ≤ 72) ∨ (code ≥ 100 ∧ code ≤ 110))

namespace RTUProductionCall

/-- The error of an exchange that is not admitted. -/
def notAdmitted : RTUProductionCall → RTUProductionError
  | .read _ request =>
    .protocol (protocolError .invalidRequest request.function 0 "rtu_read_admission" (-1))
  | .exchangePrivateFunction _ request _ _ =>
    .protocol (protocolError .invalidRequest request.function 0
      "rtu_private_function_admission" (-1))
  | _ => .state

/-- The part of an operation before its first lock. -/
def start : RTUProductionCall → RTUPhase
  | .read unit request =>
    match encodeRTUReadADU unit request with
    | .error err => .done (.fail (.protocol err))
    | .ok frame => .entering frame
  | .exchangePrivateFunction unit request policy classifier =>
    if productionPrivateFunctionCode request.function = false ∨ policy.maxAttempts ≠ 1 then
      .done (.fail (exchangePrivateFunction unit request policy classifier).notAdmitted)
    else
      match encodeRTUPrivateFunctionADU unit request with
      | .error err => .done (.fail (.protocol err))
      | .ok frame => .entering frame
  | .recover => .recovering
  | .close => .closing
  | .lastEvidence | .lastPrivateFunctionEvidence => .inspecting

/-- The receipt of an exchange that is about to be sent. -/
def receipt (call : RTUProductionCall) (endpoint : RTUProductionEndpoint) (frame : List UInt8)
    (sentAt : Duration) : Option RTUReceipt :=
  match call with
  | .read unit request =>
    some (.read
      { endpoint := endpoint.endpoint, generation := endpoint.generation
        requestID := endpoint.nextID, unitID := unit, function := request.function
        offset := request.offset, quantity := request.quantity, requestADU := frame
        sentAt := sentAt })
  | .exchangePrivateFunction unit request _ _ =>
    some (.privateFunction
      { endpoint := endpoint.endpoint, generation := endpoint.generation
        requestID := endpoint.nextID, unitID := unit, function := request.function
        requestADU := frame, sentAt := sentAt })
  | _ => none

end RTUProductionCall

/-- The next frame of a private exchange. -/
def RTUProductionEndpoint.collect (endpoint : RTUProductionEndpoint)
    (evidence : RTUPrivateFunctionEvidence) (collected : RTUCollected) : RTUPhase :=
  match endpoint.frameLoop with
  | .ok loop => .collecting evidence collected loop
  | .error err =>
    .finishing (.privateFunction evidence)
      { wall := collected.wall, integrity := decide (evidence.responseADUs.length ≠ 0)
        outcome := .transportFault, result := .fail (.protocol err) }

/-- The part of an exchange right after its write. -/
def RTUProductionEndpoint.afterWrite (endpoint : RTUProductionEndpoint) (frame : List UInt8)
    (receipt : RTUReceipt) (input : RTUInput) : RTUPhase :=
  if input.writeErr.isSome = true ∨ input.written ≠ frame.length then
    .finishing receipt
      { integrity := false, outcome := .writeFault
        result := .fail (match input.writeErr with
          | some err => .fault err
          | none => .shortWrite) }
  else
    match receipt with
    | .read evidence =>
      match endpoint.receiveLoop with
      | .ok loop => .receiving evidence loop
      | .error err =>
        .finishing (.read evidence)
          { integrity := false, outcome := .transportFault, result := .fail (.protocol err) }
    | .privateFunction evidence => endpoint.collect evidence {}

/-- The end of `Read` once `receive` has returned. -/
def RTUReceived.finishing (received : RTUReceived) (evidence : RTUReadEvidence) : RTUPhase :=
  match received.result with
  | .ok response =>
    .finishing (.read { evidence with words := response.words })
      { response := received.raw, wall := received.wall, integrity := true
        outcome := .success, result := { response := some response } }
  | .error err =>
    .finishing (.read evidence)
      { response := received.raw, wall := received.wall, integrity := err.isException
        outcome := if err.isException then .exception else .transportFault
        result := .fail err }

/-- The part of a private exchange after a response was classified. -/
def RTUProductionEndpoint.afterClassification (endpoint : RTUProductionEndpoint)
    (request : PrivateFunctionRequest) (evidence : RTUPrivateFunctionEvidence)
    (collected : RTUCollected) (disposition : RTUPrivateFunctionDisposition)
    (input : RTUInput) : RTUPhase :=
  let finishing (outcome : RTUOutcome) (result : RTUResult) : RTUPhase :=
    .finishing (.privateFunction evidence)
      { wall := collected.wall, integrity := true, outcome := outcome, result := result }
  match disposition with
  | .invalid value =>
    finishing .classifierFault (.fail (.protocol (protocolError .invalidRequest
      request.function 0 "rtu_private_function_disposition" value.toNat)))
  | .terminal =>
    match input.contextErr with
    | some err => finishing .transportFault (.fail (.fault err))
    | none => finishing .success { responses := collected.responses }
  | .continued =>
    if (collected.responses.length : Int) ≥ endpoint.privateFunction.maxResponses then
      finishing .responseBound (.fail (.protocol (protocolError .malformedResponse
        request.function 0 "rtu_private_function_response_count" collected.responses.length)))
    else endpoint.collect evidence collected

/-- The part of a private exchange once a frame was read. -/
def RTUProductionEndpoint.afterFrame (endpoint : RTUProductionEndpoint) (unit : UInt8)
    (request : PrivateFunctionRequest) (classifier : Bool)
    (evidence : RTUPrivateFunctionEvidence) (collected : RTUCollected)
    (received : RTUReceivedFrame) (input : RTUInput) : RTUPhase :=
  let wall := collected.wall.or received.wall
  let evidence : RTUPrivateFunctionEvidence :=
    if received.raw.length ≠ 0 then
      { evidence with responseADUs := evidence.responseADUs ++ [received.raw] }
    else evidence
  let failed (integrity : Bool) (outcome : RTUOutcome) (err : RTUProductionError) : RTUPhase :=
    .finishing (.privateFunction evidence)
      { wall := wall, integrity := integrity, outcome := outcome, result := .fail err }
  match received.complete with
  | .error err =>
    failed (decide (received.raw.length = 0 ∧ evidence.responseADUs.length ≠ 0))
      .transportFault err
  | .ok complete =>
    match decodeRTUPrivateFunctionResponseADU unit request complete with
    | .error err =>
      if err.kind = .exceptionResponse then failed true .exception (.protocol err)
      else failed false .transportFault (.protocol err)
    | .ok response =>
      let collected : RTUCollected :=
        { responses := collected.responses ++ [response], wall := wall }
      if classifier then .classifying evidence collected response
      else endpoint.afterClassification request evidence collected .terminal input

def RTUProductionCall.advance (call : RTUProductionCall) (input : RTUInput) (phase : RTUPhase)
    (endpoint : RTUProductionEndpoint) : Option (RTUPhase × RTUProductionEndpoint) :=
  match phase, call with
  | .entering frame, .read _ _ =>
    match endpoint.enter with
    | .error err => some (.done (.fail err), endpoint)
    | .ok entered => some (.admitting frame endpoint.generation, entered)
  | .entering frame, .exchangePrivateFunction _ request _ _ =>
    match endpoint.enterPrivate request.function with
    | .error err => some (.done (.fail err), endpoint)
    | .ok entered => some (.admitting frame endpoint.generation, entered)
  | .admitting frame generation, _ =>
    if input.admitted then some (.rechecking frame generation, endpoint)
    else some (.releasing (.fail call.notAdmitted), endpoint)
  | .rechecking frame generation, _ =>
    match endpoint.recheck generation with
    | none => some (.releasing (.fail .state), endpoint)
    | some checked =>
      (call.receipt checked frame input.offset).map fun receipt =>
        (.writing frame receipt, checked)
  | .writing frame receipt, _ => some (endpoint.afterWrite frame receipt input, endpoint)
  | .receiving evidence loop, .read unit request =>
    match loop.receiveByte unit request input.read with
    | .again loop => some (.receiving evidence loop, endpoint)
    | .done received => some (received.finishing evidence, endpoint)
  | .collecting evidence collected loop, .exchangePrivateFunction unit request _ classifier =>
    match loop.readByte input.read with
    | .again loop => some (.collecting evidence collected loop, endpoint)
    | .done received =>
      some (endpoint.afterFrame unit request classifier evidence collected received input,
        endpoint)
  | .classifying evidence collected _, .exchangePrivateFunction _ request _ _ =>
    match input.classified with
    | .error err =>
      some (.finishing (.privateFunction evidence)
        { wall := collected.wall, integrity := true, outcome := .classifierFault
          result := .fail (.fault err) }, endpoint)
    | .ok disposition =>
      some (endpoint.afterClassification request evidence collected disposition input,
        endpoint)
  | .finishing (.read evidence) ending, _ =>
    let finished := endpoint.finish evidence ending.response ending.wall ending.integrity
      ending.outcome ending.outcome.fences input.offset input.fenceOffset
    some (.releasing { ending.result with evidence := some finished.1 }, finished.2)
  | .finishing (.privateFunction evidence) ending, _ =>
    let finished := endpoint.finishPrivate evidence ending.wall ending.integrity
      ending.outcome ending.outcome.fences input.offset input.fenceOffset
    some (.releasing { ending.result with privateEvidence := some finished.1 }, finished.2)
  | .releasing result, _ => some (.done result, endpoint.release)
  | .recovering, _ =>
    match endpoint.beginRecover with
    | none => some (.done (.fail .state), endpoint)
    | some (quarantineUntil, begun) => some (.draining quarantineUntil, begun)
  | .draining quarantineUntil, _ =>
    match input.read.byte with
    | .ok _ => some (.draining quarantineUntil, endpoint)
    | .error fault =>
      if fault.deadlineExceeded = false ∨ input.read.deadlineErr.isSome = true then
        some (.done (.fail (.fault fault)), endpoint)
      else if input.offset < quarantineUntil then some (.draining quarantineUntil, endpoint)
      else some (.succeeding, endpoint)
  | .succeeding, _ => some (.done {}, endpoint.endRecover)
  | .closing, _ =>
    if endpoint.closed then some (.done {}, endpoint)
    else some (.closingStream, endpoint.close)
  | .closingStream, _ => some (.done { err := input.closeErr.map .fault }, endpoint)
  | .inspecting, .lastEvidence => some (.done { evidence := endpoint.lastEvidence }, endpoint)
  | .inspecting, .lastPrivateFunctionEvidence =>
    some (.done { privateEvidence := endpoint.lastPrivateFunctionEvidence }, endpoint)
  | _, _ => none

/-- The machine of all operations. -/
def rtuProduction : Machine RTUProductionEndpoint RTUProductionCall RTUPhase RTUInput where
  start := RTUProductionCall.start
  advance := RTUProductionCall.advance
  done := RTUPhase.isDone

end HelianthusModbus
