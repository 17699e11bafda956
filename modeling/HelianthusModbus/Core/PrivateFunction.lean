import HelianthusModbus.Core.RtuAdu
import HelianthusModbus.Core.TcpStream

/-!
# Private Function Requests

A private function is a function code outside the public ones, with a payload that this
package does not look into. A response has to come from the unit and carry the function
of the request; its payload is handed on as it is.

Over TCP a response is decoded from the bytes of one whole frame: a strict stream decoder is
fed with them, has to be empty afterwards and must have seen one frame.

## Main definitions

* `PrivateFunctionRequest`: A function code and a payload.
* `encodeRTUPrivateFunctionADU`: The frame of a request.
* `decodeRTUPrivateFunctionResponseADU`, `decodeTCPPrivateFunctionResponseADU`: A response
  checked against its request. The frame that an error carries along is left out.
* `PrivateFunctionResponsePolicy`: How often a request may be sent.

## Theorems

* `decodeRTUReadResponseADU_exception`, `decodeRTUPrivateFunctionResponseADU_exception`:
  Only a checked exception frame of the unit and the function decodes to an exception.
-/

namespace HelianthusModbus

abbrev PrivateFunctionCode := UInt8

/-- One bounded PDU that is not interpreted. -/
structure PrivateFunctionRequest where
  function : PrivateFunctionCode
  payload : List UInt8
  deriving DecidableEq, Repr

/-- `NewPrivateFunctionCode`. -/
def checkPrivateFunctionCode (value : UInt8) : Option ProtocolError :=
  if value = 0 ∨ value &&& 0x80 ≠ 0 then
    some (protocolError .unsupportedOperation value 0 "private_function_code" 0)
  else none

/-- `NewPrivateFunctionRequest`. -/
def checkPrivateFunctionRequest (request : PrivateFunctionRequest) : Option ProtocolError :=
  match checkPrivateFunctionCode request.function with
  | some err => some err
  | none =>
    if request.payload.length > maxPDUSize - 1 then
      some (protocolError .invalidRange request.function 0 "private_function_payload_length"
        request.payload.length)
    else none

def PrivateFunctionRequest.encodePDU (request : PrivateFunctionRequest) :
    Except ProtocolError (List UInt8) :=
  match checkPrivateFunctionRequest request with
  | some err => .error err
  | none => .ok (request.function :: request.payload)

def encodeRTUPrivateFunctionADU (unitID : UInt8) (request : PrivateFunctionRequest) :
    Except ProtocolError (List UInt8) :=
  match request.encodePDU with
  | .error err => .error err
  | .ok pdu => encodeRTUADU unitID pdu

/-- A normal response with its frame. -/
structure RTUPrivateFunctionResponseADU where
  adu : RTUADU
  payload : List UInt8
  deriving DecidableEq, Repr

/-- The payload of a normal response PDU that starts at `offset` in what errors point into. -/
def decodePrivateFunctionPDU (offset : Int) (request : PrivateFunctionRequest)
    (pdu : List UInt8) : Except ProtocolError (List UInt8) :=
  match pdu with
  | [] => .error (protocolError .malformedResponse request.function 0 "function" offset)
  | received :: payload =>
    if received = request.function ||| 0x80 then
      match payload with
      | [code] =>
        .error { protocolError .exceptionResponse request.function received
          "exception_code" (offset + 1) with exceptionCode := code }
      | _ =>
        .error (protocolError .malformedResponse request.function received
          "exception_length" pdu.length)
    else if received ≠ request.function then
      .error (protocolError .malformedResponse request.function received "function_mismatch"
        offset)
    else .ok payload

def decodeRTUPrivateFunctionResponseADU (expectedUnitID : UInt8)
    (request : PrivateFunctionRequest) (frame : List UInt8) :
    Except ProtocolError RTUPrivateFunctionResponseADU :=
  if expectedUnitID = 0 ∨ expectedUnitID > 247 then
    .error (protocolError .invalidRequest request.function 0 "unit_id" 0)
  else
    match checkPrivateFunctionRequest request with
    | some err => .error err
    | none =>
      let decoded := decodeRTUResponseADU expectedUnitID request.function frame
        (decodePrivateFunctionPDU 0 request)
      match decoded.2 with
      | .error err => .error err
      | .ok payload => .ok { adu := decoded.1, payload := payload }

structure TCPPrivateFunctionResponseADU where
  adu : TCPADU
  payload : List UInt8
  deriving DecidableEq, Repr

def decodeTCPPrivateFunctionResponseADU (expectedTransactionID : UInt16) (expectedUnitID : UInt8)
    (request : PrivateFunctionRequest) (frame : List UInt8) :
    Except TCPStreamError TCPPrivateFunctionResponseADU :=
  if expectedUnitID > 247 then
    .error (.protocol (protocolError .invalidRequest request.function 0 "unit_id" 6))
  else
    match checkPrivateFunctionRequest request with
    | some err => .error (.protocol err)
    | none =>
      match newTCPStreamDecoder maxTCPADUSize with
      | .error err => .error (.protocol err)
      | .ok decoder =>
        let fed := decoder.feed frame
        match fed.err with
        | some err => .error err
        | none =>
          match fed.state.finish.1 with
          | some err => .error err
          | none =>
            match fed.out with
            | [adu] =>
              if adu.transactionID ≠ expectedTransactionID then
                .error (.protocol
                  (protocolError .malformedResponse request.function 0 "transaction_id" 0))
              else if adu.unitID ≠ expectedUnitID then
                .error (.protocol
                  (protocolError .malformedResponse request.function 0 "unit_id" 6))
              else
                match decodePrivateFunctionPDU 7 request adu.pdu with
                | .error err => .error (.protocol err)
                | .ok payload => .ok { adu := adu, payload := payload }
            | frames =>
              .error (.protocol (protocolError .malformedResponse request.function 0
                "tcp_adu_count" frames.length))

/-- How often a request may be sent. The default is the Go zero value, which no endpoint
    accepts. -/
structure PrivateFunctionResponsePolicy where
  maxAttempts : UInt8 := 0
  replaySafe : Bool := false
  deriving DecidableEq, Repr

/-- A checked frame of `unitID` that is the exception answer to `function`. -/
structure RTUExceptionFrame (unitID : UInt8) (function : FunctionCode) (frame : List UInt8) :
    Prop where
  valid : ValidRTUFrame unitID (function ||| 0x80) frame
  size : frame.length = 5

theorem decodeRTUADU_error (frame : List UInt8) (err : ProtocolError)
    (h : (decodeRTUADU frame).2 = some err) : err.kind = .malformedResponse := by
  unfold decodeRTUADU at h
  split_ifs at h <;> cases h <;> rfl

/-- An exception comes from a checked frame, if it only comes from an exception PDU. -/
theorem decodeRTUResponseADU_exception {α : Type} (unitID : UInt8) (function : FunctionCode)
    (frame : List UInt8) (decode : List UInt8 → Except ProtocolError α) (err : ProtocolError)
    (h : (decodeRTUResponseADU unitID function frame decode).2 = .error err)
    (hkind : err.kind = .exceptionResponse)
    (hdecode : ∀ pdu, decode pdu = .error err → ∃ code, pdu = [function ||| 0x80, code]) :
    RTUExceptionFrame unitID function frame := by
  unfold decodeRTUResponseADU at h
  dsimp only at h
  split at h
  · next malformed hdecoded =>
    cases h
    rw [decodeRTUADU_error frame _ hdecoded] at hkind
    exact nomatch hkind
  · next hdecoded =>
    rcases decodeRTUADU_ok frame hdecoded with ⟨hmin, hmax, hcrc, hunit, hpdu⟩
    split_ifs at h with hexpected
    · cases h
      exact nomatch hkind
    rcases hdecode _ h with ⟨code, hcode⟩
    rw [hpdu] at hcode
    refine ⟨⟨⟨hmin, hmax⟩, hcrc, by rw [hunit, not_not.mp hexpected], ?_⟩, ?_⟩
    · rw [← head?_pdu frame hmin, hcode]
      rfl
    · have hlength := congrArg List.length hcode
      simp only [List.length_drop, List.length_take, List.length_cons, List.length_nil]
        at hlength
      unfold minRTUADUSize at hmin
      omega

theorem validateReadRegistersRequest_error (request : ReadRegistersRequest)
    (err : ProtocolError) (h : validateReadRegistersRequest request = .error err) :
    err.kind ≠ .exceptionResponse := by
  unfold validateReadRegistersRequest checkReadRange at h
  split at h
  · cases h
    simp [protocolError]
  · split_ifs at h <;> cases h <;> simp [protocolError]

theorem decodeReadRegistersResponse_exception (request : ReadRegistersRequest)
    (pdu : List UInt8) (err : ProtocolError) (hkind : err.kind = .exceptionResponse)
    (h : decodeReadRegistersResponse request pdu = .error err) :
    ∃ code, pdu = [request.function ||| 0x80, code] := by
  unfold decodeReadRegistersResponse at h
  split at h
  · next hvalid =>
    cases h
    exact absurd hkind (validateReadRegistersRequest_error request err hvalid)
  split at h
  · cases h
    exact nomatch hkind
  split at h
  · next hreceived =>
    split at h
    · next code => exact ⟨code, by rw [hreceived]⟩
    · cases h
      exact nomatch hkind
  · split at h
    · cases h
      exact nomatch hkind
    split at h
    · cases h
      exact nomatch hkind
    · split_ifs at h <;> cases h <;> exact nomatch hkind

theorem decodeRTUReadResponseADU_exception (unitID : UInt8) (request : ReadRegistersRequest)
    (frame : List UInt8) (err : ProtocolError) (hkind : err.kind = .exceptionResponse)
    (h : (decodeRTUReadResponseADU unitID request frame).2 = .error err) :
    RTUExceptionFrame unitID request.function frame := by
  unfold decodeRTUReadResponseADU at h
  split_ifs at h with hunit
  · cases h
    exact nomatch hkind
  · exact decodeRTUResponseADU_exception unitID _ frame _ err h hkind fun pdu hpdu =>
      decodeReadRegistersResponse_exception request pdu err hkind hpdu

theorem checkPrivateFunctionRequest_error (request : PrivateFunctionRequest)
    (err : ProtocolError) (h : checkPrivateFunctionRequest request = some err) :
    err.kind ≠ .exceptionResponse := by
  unfold checkPrivateFunctionRequest checkPrivateFunctionCode at h
  split_ifs at h <;> cases h <;> simp [protocolError]

theorem decodePrivateFunctionPDU_exception (offset : Int) (request : PrivateFunctionRequest)
    (pdu : List UInt8) (err : ProtocolError) (hkind : err.kind = .exceptionResponse)
    (h : decodePrivateFunctionPDU offset request pdu = .error err) :
    ∃ code, pdu = [request.function ||| 0x80, code] := by
  unfold decodePrivateFunctionPDU at h
  split at h
  · cases h
    exact nomatch hkind
  split at h
  · next hreceived =>
    split at h
    · next code => exact ⟨code, by rw [hreceived]⟩
    · cases h
      exact nomatch hkind
  · split_ifs at h
    cases h
    exact nomatch hkind

theorem decodeRTUPrivateFunctionResponseADU_exception (unitID : UInt8)
    (request : PrivateFunctionRequest) (frame : List UInt8) (err : ProtocolError)
    (hkind : err.kind = .exceptionResponse)
    (h : decodeRTUPrivateFunctionResponseADU unitID request frame = .error err) :
    RTUExceptionFrame unitID request.function frame := by
  unfold decodeRTUPrivateFunctionResponseADU at h
  split_ifs at h
  · cases h
    exact nomatch hkind
  split at h
  · next hrequest =>
    cases h
    exact absurd hkind (checkPrivateFunctionRequest_error request err hrequest)
  dsimp only at h
  split at h
  · next hdecoded =>
    cases h
    exact decodeRTUResponseADU_exception unitID _ frame _ err hdecoded hkind
      fun pdu hpdu => decodePrivateFunctionPDU_exception 0 request pdu err hkind hpdu
  · exact nomatch h

end HelianthusModbus
