import HelianthusModbus.Core.DeviceId

/-!
# Modbus TCP Frames

The application data unit of Modbus TCP: a seven-byte header with the transaction
identifier, a length and the unit identifier, and then the PDU. The encoder
refuses a unit above 247 and a PDU that is empty or longer than the protocol
allows; both errors name the byte of the frame they are about.

## Main definitions

* `TCPADU`: One decoded frame.
* `encodeTCPADU`: Building a frame from its parts.
* `encodeTCPReadADU`, `encodeTCPDeviceIDAccessADU`: The two request frames.
-/

namespace HelianthusModbus

/-- One decoded Modbus TCP frame. -/
structure TCPADU where
  transactionID : UInt16
  unitID : UInt8
  pdu : List UInt8
  raw : List UInt8 := []
  deriving DecidableEq, Repr

def encodeTCPADU (transactionID : UInt16) (unitID : UInt8) (pdu : List UInt8) :
    Except ProtocolError (List UInt8) :=
  if unitID > 247 then .error (protocolError .invalidRequest 0 0 "unit_id" 6)
  else if pdu = [] ∨ pdu.length > maxPDUSize then
    .error (protocolError .invalidRange 0 0 "pdu_length" 7)
  else
    let length := pdu.length + 1
    .ok ([(transactionID >>> 8).toUInt8, transactionID.toUInt8, 0, 0,
      UInt8.ofNat (length / 256), UInt8.ofNat length, unitID] ++ pdu)

def encodeTCPReadADU (transactionID : UInt16) (unitID : UInt8) (request : ReadRegistersRequest) :
    Except ProtocolError (List UInt8) :=
  match request.encodePDU with
  | .error err => .error err
  | .ok pdu => encodeTCPADU transactionID unitID pdu

def encodeTCPDeviceIDAccessADU (transactionID : UInt16) (unitID : UInt8)
    (request : DeviceIDRequest) : Except ProtocolError (List UInt8) :=
  match request.encodePDU with
  | .error err => .error err
  | .ok pdu => encodeTCPADU transactionID unitID pdu

end HelianthusModbus
