import HelianthusModbus.Core.PrivateFunction

/-!
# The RTU Production Endpoint

The state of the endpoint, what each of its locked regions does to it, and the loops that
collect a response from the stream.

An exchange reserves the endpoint, asks for admission without the lock, checks again that
nothing has changed, and then sends. What it ends with is a receipt: a fault also fences
the endpoint, and only a recovery that has seen the line silent makes a new generation.

Errors of the stream and of a context are known by what the endpoint asks of them: whether
they are an exceeded deadline, and the protocol error they wrap, if any.

## Main definitions

* `RTUProductionConfig`, `newRTUProductionEndpoint`: A checked configuration.
* `RTUProductionEndpoint`: The state of one endpoint.
* `RTUReadEvidence`, `RTUPrivateFunctionEvidence`: The receipts of its two exchanges.
* `RTUReceiveLoop.receiveByte`, `RTUFrameLoop.readByte`: One turn of the loop that
  receives a response, and of the one that receives a private frame.
* `RTUProductionEndpoint.finish`, `RTUProductionEndpoint.finishPrivate`: Storing a receipt.
* `RTUProductionEndpoint.lastEvidence`, `RTUProductionEndpoint.lastPrivateFunctionEvidence`:
  The receipts as they are reported.
-/

namespace HelianthusModbus

structure RTUSerialConfig where
  path : String
  baud : UInt32
  dataBits : UInt8
  parity : RTUParity
  stopBits : UInt8
  deriving DecidableEq, Repr

def supportedRTUSerialBaud (baud : UInt32) : Bool :=
  decide (baud ∈ [9600, 19200, 38400, 57600, 115200, 230400])

def RTUSerialConfig.validate (config : RTUSerialConfig) : Option ProtocolError :=
  if config.path = "" ∨ supportedRTUSerialBaud config.baud = false ∨ config.dataBits ≠ 8 ∨
      config.parity = .unset ∨ (config.stopBits ≠ 1 ∧ config.stopBits ≠ 2) then
    some (protocolError .invalidRequest 0 0 "rtu_serial_config" (-1))
  else none

def maxRTUProductionPrivateResponses : Int := 8

/-- The opt-in to private functions. `admission` says that there is one. -/
structure RTUPrivateFunctionConfig where
  admission : Bool := false
  maxResponses : Int := 0
  deriving DecidableEq, Repr

def validateRTUPrivateFunctionConfig (config : RTUPrivateFunctionConfig) :
    Option ProtocolError :=
  if config.admission = false ∧ config.maxResponses = 0 then none
  else if config.admission = false ∨ config.maxResponses < 1 ∨
      config.maxResponses > maxRTUProductionPrivateResponses then
    some (protocolError .invalidRequest 0 0 "rtu_private_function_config" (-1))
  else none

structure RTUProductionConfig where
  endpoint : String
  serial : RTUSerialConfig
  timing : RTUTiming
  responseTimeout : Duration
  enabled : Bool
  admission : Bool
  privateFunction : RTUPrivateFunctionConfig := {}
  deriving DecidableEq, Repr

def validateRTUProductionConfig (config : RTUProductionConfig) : Option ProtocolError :=
  let bits := 1 + config.serial.dataBits + config.serial.stopBits
  let bits := if config.serial.parity ≠ .none then bits + 1 else bits
  let limit := config.responseTimeout + config.timing.interFrame
  if limit > maxDuration ∨ limit < config.responseTimeout ∨ config.enabled = false ∨
      config.endpoint = "" ∨ config.admission = false ∨ config.serial.validate.isSome = true ∨
      config.serial.baud ≠ config.timing.baud ∨
      bits.toNat ≠ config.timing.bitsPerCharacter ∨ config.responseTimeout ≤ 0 ∨
      config.responseTimeout > 30 * second ∨ config.timing.maxResponseLatency ≤ 0 ∨
      config.timing.maxResponseLatency > config.responseTimeout ∨
      config.timing.maxQuiescence ≤ config.timing.maxResponseLatency ∨
      config.timing.maxQuiescence > limit ∨ config.timing.maxQuiescence > 60 * second ∨
      (validateRTUPrivateFunctionConfig config.privateFunction).isSome = true then
    some (protocolError .invalidRequest 0 0 "rtu_production_config" (-1))
  else none

inductive RTUOutcome where
  | success
  | exception
  | writeFault
  | transportFault
  | classifierFault
  | responseBound
  deriving DecidableEq, Repr

/-- The outcomes after which the endpoint is fenced. -/
def RTUOutcome.fences : RTUOutcome → Bool
  | .success | .exception => false
  | _ => true

/-- The receipt of a read. There is no wall time where no byte was received. -/
structure RTUReadEvidence where
  endpoint : String
  generation : UInt64
  requestID : UInt64
  unitID : UInt8
  function : FunctionCode
  offset : Nat
  quantity : Nat
  requestADU : List UInt8
  responseADU : List UInt8 := []
  sentAt : Duration
  receivedAt : Duration := 0
  integrityValid : Bool := false
  terminalOutcome : Option RTUOutcome := none
  current : Bool := false
  words : List Nat := []
  receiptWall : Option Int := none
  clockEpoch : String := "system-monotonic-v1"
  deriving DecidableEq, Repr

/-- The receipt of a private exchange. -/
structure RTUPrivateFunctionEvidence where
  endpoint : String
  generation : UInt64
  requestID : UInt64
  unitID : UInt8
  function : PrivateFunctionCode
  requestADU : List UInt8
  responseADUs : List (List UInt8) := []
  sentAt : Duration
  receivedAt : Duration := 0
  integrityValid : Bool := false
  terminalOutcome : Option RTUOutcome := none
  current : Bool := false
  receiptWall : Option Int := none
  clockEpoch : String := "system-monotonic-v1"
  deriving DecidableEq, Repr

/-- The state of one endpoint. A receipt is absent until one has been stored. -/
structure RTUProductionEndpoint where
  endpoint : String
  timing : RTUTiming
  timeout : Duration
  generation : UInt64 := 1
  nextID : UInt64 := 0
  inflight : Bool := false
  fenced : Bool := false
  closed : Bool := false
  recoveryAttempted : Bool := false
  quarantineUntil : Duration := 0
  last : Option RTUReadEvidence := none
  privateFunction : RTUPrivateFunctionConfig
  lastPrivate : Option RTUPrivateFunctionEvidence := none
  deriving DecidableEq, Repr

def newRTUProductionEndpoint (config : RTUProductionConfig) :
    Except ProtocolError RTUProductionEndpoint :=
  match validateRTUProductionConfig config with
  | some _ => .error (protocolError .invalidRequest 0 0 "rtu_production_config" (-1))
  | none =>
    .ok { endpoint := config.endpoint, timing := config.timing
          timeout := config.responseTimeout, privateFunction := config.privateFunction }

/-- An error of the stream, of a context or of a classifier, by what is asked of it. -/
structure RTUFault where
  deadlineExceeded : Bool := false
  protocol : Option ProtocolError := none
  deriving DecidableEq, Repr

inductive RTUProductionError where
  | state
  | shortWrite
  | protocol (err : ProtocolError)
  | fault (fault : RTUFault)
  deriving DecidableEq, Repr

/-- The error wraps an exception response. -/
def RTUProductionError.isException : RTUProductionError → Bool
  | .protocol err => decide (err.kind = .exceptionResponse)
  | .fault err => err.protocol.any fun err => decide (err.kind = .exceptionResponse)
  | _ => false

/-- The answer of `ReadRTUByte`, with the wall clock and the error of the context that
    bounds the loop as they are read after it. -/
structure RTUByteRead where
  byte : Except RTUFault UInt8
  offset : Duration := 0
  wall : Int := 0
  deadlineErr : Option RTUFault := none

/-- What a loop does next. -/
inductive RTUTurn (α β : Type) where
  | again (loop : α)
  | done (result : β)

/-- The expected length of a read response, as soon as its header is complete, and zero
    before. -/
def rtuReadResponseLength (request : ReadRegistersRequest) (raw : List UInt8) :
    Except ProtocolError Nat :=
  let checked (length : Nat) : Except ProtocolError Nat :=
    if raw.length > length then
      .error (protocolError .malformedResponse request.function 0 "rtu_read_response_length"
        raw.length)
    else .ok length
  match raw with
  | [] => .ok 0
  | [_] => .ok 0
  | _ :: received :: data =>
    if received = request.function ||| 0x80 then checked 5
    else if received = request.function then
      match data with
      | [] => .ok 0
      | count :: _ =>
        if count.toNat ≠ 2 * request.quantity then
          .error (protocolError .malformedResponse request.function 0 "byte_count" 2)
        else checked (5 + count.toNat)
    else .error (protocolError .malformedResponse request.function 0 "function_code" 1)

/-- What was received of a response, and what came of it. -/
structure RTUReceived where
  raw : List UInt8
  wall : Option Int
  result : Except RTUProductionError ReadRegistersResponse

/-- The loop of `receive`. -/
structure RTUReceiveLoop where
  decoder : RTUFrameDecoder
  raw : List UInt8 := []
  haveBytes : Bool := false
  wall : Option Int := none
  expectedLength : Nat := 0

/-- The loop of `receive` starts with the gap that a buffered host may leave between two
    characters. -/
def RTUProductionEndpoint.receiveLoop (endpoint : RTUProductionEndpoint) :
    Except ProtocolError RTUReceiveLoop :=
  match newRTUFrameDecoder
      { endpoint.timing with interCharacter := endpoint.timing.readInterCharacter } with
  | .error err => .error err
  | .ok decoder => .ok { decoder := decoder }

namespace RTUReceiveLoop

def fail (loop : RTUReceiveLoop) (err : RTUProductionError) : RTUTurn RTUReceiveLoop RTUReceived :=
  .done { raw := loop.raw, wall := loop.wall, result := .error err }

/-- The line was silent after a response of the expected length. -/
def endFrame (loop : RTUReceiveLoop) (unit : UInt8) (request : ReadRegistersRequest)
    (offset : Duration) : RTUTurn RTUReceiveLoop RTUReceived :=
  let ended := (loop.decoder.endFrame offset).1
  match ended.2 with
  | some err => loop.fail (.protocol err)
  | none =>
    match (decodeRTUReadResponseADU unit request ended.1.raw).2 with
    | .error err => { loop with raw := ended.1.raw }.fail (.protocol err)
    | .ok response => .done { raw := ended.1.raw, wall := loop.wall, result := .ok response }

/-- One turn of the loop of `receive`. -/
def receiveByte (loop : RTUReceiveLoop) (unit : UInt8) (request : ReadRegistersRequest)
    (read : RTUByteRead) : RTUTurn RTUReceiveLoop RTUReceived :=
  match read.byte with
  | .ok value =>
    let loop :=
      { loop with raw := loop.raw ++ [value], wall := loop.wall.or (some read.wall) }
    match rtuReadResponseLength request loop.raw with
    | .error err => loop.fail (.protocol err)
    | .ok expectedLength =>
      let fed := loop.decoder.feedByte read.offset value
      match fed.1 with
      | some err => loop.fail (.protocol err)
      | none =>
        .again { loop with
                 decoder := fed.2, expectedLength := expectedLength, haveBytes := true }
  | .error fault =>
    if fault.deadlineExceeded = false then loop.fail (.fault fault)
    else
      match read.deadlineErr with
      | some err => loop.fail (.fault err)
      | none =>
        if loop.haveBytes = false then .again loop
        else if loop.expectedLength = 0 ∨ loop.raw.length ≠ loop.expectedLength then
          loop.fail (.protocol (protocolError .malformedResponse request.function 0
            "rtu_read_response_length" loop.raw.length))
        else loop.endFrame unit request read.offset

end RTUReceiveLoop

/-- One received private frame: its bytes, and the checked frame or the error. -/
structure RTUReceivedFrame where
  raw : List UInt8
  wall : Option Int
  complete : Except RTUProductionError (List UInt8)

/-- The loop of `readPrivateFrame`. -/
structure RTUFrameLoop where
  decoder : RTUFrameDecoder
  raw : List UInt8 := []
  haveBytes : Bool := false
  wall : Option Int := none

def RTUProductionEndpoint.frameLoop (endpoint : RTUProductionEndpoint) :
    Except ProtocolError RTUFrameLoop :=
  match newRTUFrameDecoder endpoint.timing with
  | .error err => .error err
  | .ok decoder => .ok { decoder := decoder }

namespace RTUFrameLoop

def fail (loop : RTUFrameLoop) (err : RTUProductionError) :
    RTUTurn RTUFrameLoop RTUReceivedFrame :=
  .done { raw := loop.raw, wall := loop.wall, complete := .error err }

/-- One turn of the loop of `readPrivateFrame`. -/
def readByte (loop : RTUFrameLoop) (read : RTUByteRead) :
    RTUTurn RTUFrameLoop RTUReceivedFrame :=
  match read.byte with
  | .ok value =>
    let loop :=
      { loop with raw := loop.raw ++ [value], wall := loop.wall.or (some read.wall) }
    let fed := loop.decoder.feedByte read.offset value
    match fed.1 with
    | some err => loop.fail (.protocol err)
    | none => .again { loop with decoder := fed.2, haveBytes := true }
  | .error fault =>
    if fault.deadlineExceeded = false then loop.fail (.fault fault)
    else
      match read.deadlineErr with
      | some err => loop.fail (.fault err)
      | none =>
        if loop.haveBytes = false then .again loop
        else
          let ended := (loop.decoder.endFrame read.offset).1
          match ended.2 with
          | some err => loop.fail (.protocol err)
          | none =>
            .done { raw := ended.1.raw, wall := loop.wall, complete := .ok ended.1.raw }

end RTUFrameLoop

namespace RTUProductionEndpoint

/-- The reservation of an exchange, before it asks for admission. -/
def enter (endpoint : RTUProductionEndpoint) : Except RTUProductionError RTUProductionEndpoint :=
  if endpoint.closed = true ∨ endpoint.fenced = true ∨ endpoint.inflight = true then .error .state
  else .ok { endpoint with inflight := true }

/-- The same for a private exchange, which also needs the opt-in. -/
def enterPrivate (endpoint : RTUProductionEndpoint) (function : PrivateFunctionCode) :
    Except RTUProductionError RTUProductionEndpoint :=
  if endpoint.closed = true ∨ endpoint.fenced = true ∨ endpoint.inflight = true then .error .state
  else if endpoint.privateFunction.admission = false then
    .error (.protocol
      (protocolError .invalidRequest function 0 "rtu_private_function_admission" (-1)))
  else .ok { endpoint with inflight := true }

/-- The check right before the send: the generation that was admitted is still open. -/
def recheck (endpoint : RTUProductionEndpoint) (generation : UInt64) :
    Option RTUProductionEndpoint :=
  if endpoint.closed = true ∨ endpoint.fenced = true ∨ endpoint.generation ≠ generation then none
  else some { endpoint with nextID := endpoint.nextID + 1 }

/-- `fenceLocked`, which closes the endpoint where the quarantine would end out of range. -/
def fenceLocked (endpoint : RTUProductionEndpoint) (now : Duration) : RTUProductionEndpoint :=
  let quarantineUntil := now + endpoint.timing.maxResponseLatency
  if quarantineUntil > maxDuration then { endpoint with fenced := true, closed := true }
  else { endpoint with fenced := true, quarantineUntil := quarantineUntil }

/-- `finish`. The stream's clock is read at `receivedAt`, and at `fencedAt` where the
    endpoint is fenced. -/
def finish (endpoint : RTUProductionEndpoint) (evidence : RTUReadEvidence)
    (response : List UInt8) (wall : Option Int) (integrity : Bool) (outcome : RTUOutcome)
    (fence : Bool) (receivedAt fencedAt : Duration) : RTUReadEvidence × RTUProductionEndpoint :=
  let finished :=
    { evidence with
      responseADU := response
      receiptWall := if response.length ≠ 0 then wall else evidence.receiptWall
      integrityValid := integrity
      terminalOutcome := some outcome
      receivedAt := receivedAt
      current := decide (outcome = .success ∧ fence = false ∧ endpoint.closed = false ∧
        endpoint.fenced = false) }
  let fenced := if fence then endpoint.fenceLocked fencedAt else endpoint
  (finished, { fenced with last := some finished })

def finishPrivate (endpoint : RTUProductionEndpoint) (evidence : RTUPrivateFunctionEvidence)
    (wall : Option Int) (integrity : Bool) (outcome : RTUOutcome) (fence : Bool)
    (receivedAt fencedAt : Duration) : RTUPrivateFunctionEvidence × RTUProductionEndpoint :=
  let finished :=
    { evidence with
      receiptWall := if evidence.responseADUs.length ≠ 0 then wall else evidence.receiptWall
      integrityValid := integrity
      terminalOutcome := some outcome
      receivedAt := receivedAt
      current := decide (outcome = .success ∧ fence = false ∧ endpoint.closed = false ∧
        endpoint.fenced = false) }
  let fenced := if fence then endpoint.fenceLocked fencedAt else endpoint
  (finished, { fenced with lastPrivate := some finished })

def release (endpoint : RTUProductionEndpoint) : RTUProductionEndpoint :=
  { endpoint with inflight := false }

/-- The start of `Recover`, with the end of the quarantine it has to outlast. -/
def beginRecover (endpoint : RTUProductionEndpoint) : Option (Duration × RTUProductionEndpoint) :=
  if endpoint.closed = true ∨ endpoint.fenced = false ∨ endpoint.inflight = true ∨
      endpoint.recoveryAttempted = true then none
  else some (endpoint.quarantineUntil, { endpoint with recoveryAttempted := true })

/-- The end of a `Recover` that returns nil. -/
def endRecover (endpoint : RTUProductionEndpoint) : RTUProductionEndpoint :=
  { endpoint with
    generation := endpoint.generation + 1, fenced := false, recoveryAttempted := false }

def close (endpoint : RTUProductionEndpoint) : RTUProductionEndpoint :=
  { endpoint with closed := true, fenced := true, generation := endpoint.generation + 1 }

/-- A receipt of this generation may still be reported as current. -/
def reports (endpoint : RTUProductionEndpoint) (generation : UInt64) : Bool :=
  decide (generation = endpoint.generation ∧ endpoint.closed = false ∧ endpoint.fenced = false)

def lastEvidence (endpoint : RTUProductionEndpoint) : Option RTUReadEvidence :=
  endpoint.last.map fun evidence =>
    { evidence with current := evidence.current && endpoint.reports evidence.generation }

def lastPrivateFunctionEvidence (endpoint : RTUProductionEndpoint) :
    Option RTUPrivateFunctionEvidence :=
  endpoint.lastPrivate.map fun evidence =>
    { evidence with current := evidence.current && endpoint.reports evidence.generation }

end RTUProductionEndpoint

end HelianthusModbus
