import HelianthusModbus.Core.RtuTiming

/-!
# Modbus RTU Frames

The application data unit of Modbus RTU: the unit identifier, the PDU and a CRC of
sixteen bits with its low byte first. A frame that does not decode keeps its bytes,
so that what was received can still be reported.

`RTUFrameDecoder` collects the bytes of one frame against clock offsets. A gap that is
too long inside a frame poisons the decoder until the line has been silent for a whole
inter-frame interval.

## Main definitions

* `rtuCRC16`, `rtuFrameCRC`: The checksum, and the one a frame carries.
* `RTUADU`: One received frame; unit and PDU are filled in once it is checked.
* `encodeRTUADU`, `decodeRTUADU`: Building and checking a frame.
* `decodeRTUReadResponseADU`, `decodeRTUDeviceIDResponseADU`: A frame checked against
  the request it answers.

## Theorems

* `decodeRTUADU_ok`: A frame that decodes has the CRC it carries.
* `decodeRTUReadResponseADU_ok`, `decodeRTUDeviceIDResponseADU_ok`: A response that
  decodes comes from a checked frame of the expected unit and function.
-/

namespace HelianthusModbus

/-- One shift of the CRC register. -/
def rtuCRCShift (crc : UInt16) : UInt16 :=
  if crc &&& 1 ≠ 0 then (crc >>> 1) ^^^ 0xa001 else crc >>> 1

def rtuCRC16 (data : List UInt8) : UInt16 :=
  data.foldl (fun crc value => Nat.repeat rtuCRCShift 8 (crc ^^^ value.toUInt16)) 0xffff

/-- The CRC in the last two bytes of a frame, low byte first. -/
def rtuFrameCRC (frame : List UInt8) : UInt16 :=
  (frame.getD (frame.length - 2) 0).toUInt16 |||
    ((frame.getD (frame.length - 1) 0).toUInt16 <<< 8)

structure RTUADU where
  unitID : UInt8 := 0
  pdu : List UInt8 := []
  raw : List UInt8 := []
  deriving DecidableEq, Repr, Inhabited

def encodeRTUADU (unitID : UInt8) (pdu : List UInt8) : Except ProtocolError (List UInt8) :=
  if unitID = 0 ∨ unitID > 247 then .error (protocolError .invalidRequest 0 0 "unit_id" 0)
  else if pdu = [] ∨ pdu.length > maxPDUSize then
    .error (protocolError .invalidRange 0 0 "pdu_length" 1)
  else
    let crc := rtuCRC16 (unitID :: pdu)
    .ok (unitID :: pdu ++ [crc.toUInt8, (crc >>> 8).toUInt8])

def encodeRTUReadADU (unitID : UInt8) (request : ReadRegistersRequest) :
    Except ProtocolError (List UInt8) :=
  match request.encodePDU with
  | .error err => .error err
  | .ok pdu => encodeRTUADU unitID pdu

def encodeRTUDeviceIDAccessADU (unitID : UInt8) (request : DeviceIDRequest) :
    Except ProtocolError (List UInt8) :=
  match request.encodePDU with
  | .error err => .error err
  | .ok pdu => encodeRTUADU unitID pdu

/-- Checking a frame. The bytes are kept whether or not it is one. -/
def decodeRTUADU (frame : List UInt8) : RTUADU × Option ProtocolError :=
  if frame.length < minRTUADUSize ∨ frame.length > maxRTUADUSize then
    ({ raw := frame },
      some (protocolError .malformedResponse 0 0 "rtu_adu_length" frame.length))
  else if frame.headD 0 = 0 ∨ frame.headD 0 > 247 then
    ({ raw := frame }, some (protocolError .malformedResponse 0 0 "unit_id" 0))
  else if rtuFrameCRC frame ≠ rtuCRC16 (frame.take (frame.length - 2)) then
    ({ raw := frame },
      some (protocolError .malformedResponse 0 0 "crc16" (frame.length - 2)))
  else
    ({ unitID := frame.headD 0, pdu := (frame.take (frame.length - 2)).drop 1, raw := frame },
      none)

/-- A frame of `expectedUnitID`, and what its PDU decodes to. -/
def decodeRTUResponseADU {α : Type} (expectedUnitID : UInt8) (function : FunctionCode)
    (frame : List UInt8) (decode : List UInt8 → Except ProtocolError α) :
    RTUADU × Except ProtocolError α :=
  let decoded := decodeRTUADU frame
  match decoded.2 with
  | some err => (decoded.1, .error err)
  | none =>
    if decoded.1.unitID ≠ expectedUnitID then
      (decoded.1, .error (protocolError .malformedResponse function 0 "unit_id" 0))
    else (decoded.1, decode decoded.1.pdu)

def decodeRTUReadResponseADU (expectedUnitID : UInt8) (request : ReadRegistersRequest)
    (frame : List UInt8) : RTUADU × Except ProtocolError ReadRegistersResponse :=
  if expectedUnitID = 0 ∨ expectedUnitID > 247 then
    ({}, .error (protocolError .invalidRequest request.function 0 "unit_id" 0))
  else
    decodeRTUResponseADU expectedUnitID request.function frame
      (decodeReadRegistersResponse request)

def decodeRTUDeviceIDResponseADU (expectedUnitID : UInt8) (request : DeviceIDRequest)
    (frame : List UInt8) : RTUADU × Except ProtocolError DeviceIDSegment :=
  if expectedUnitID = 0 ∨ expectedUnitID > 247 then
    ({}, .error (protocolError .invalidRequest functionEncapsulatedInterface 0 "unit_id" 0))
  else
    match validateDeviceIDRequest request with
    | .error err => ({}, .error err)
    | .ok () =>
      decodeRTUResponseADU expectedUnitID functionEncapsulatedInterface frame
        (decodeDeviceIDSegment request)

/-- The bytes of the frame being received. -/
structure RTUFrameDecoder where
  timing : RTUTiming
  buffer : List UInt8 := []
  lastByte : Duration := 0
  haveByte : Bool := false
  poisoned : Bool := false
  deriving DecidableEq, Repr, Inhabited

def newRTUFrameDecoder (timing : RTUTiming) : Except ProtocolError RTUFrameDecoder :=
  if timing.characterTime ≤ 0 ∨ timing.interCharacter ≤ 0 ∨ timing.interFrame ≤ 0 then
    .error (protocolError .invalidRequest 0 0 "rtu_timing" (-1))
  else .ok { timing := timing }

namespace RTUFrameDecoder

def reset (decoder : RTUFrameDecoder) : RTUFrameDecoder :=
  { timing := decoder.timing }

/-- The bytes so far are dropped, and none is taken before the line was silent. -/
def poison (decoder : RTUFrameDecoder) (lastByte : Duration) : RTUFrameDecoder :=
  { decoder with buffer := [], lastByte := lastByte, haveByte := false, poisoned := true }

/-- The part of `FeedByte` after the resynchronization gap. -/
def appendByte (decoder : RTUFrameDecoder) (offset : Duration) (value : UInt8) :
    Option ProtocolError × RTUFrameDecoder :=
  if decoder.haveByte = true ∧ offset < decoder.lastByte then
    (some (protocolError .malformedResponse 0 0 "rtu_inter_character_gap" (-1)),
      decoder.poison decoder.lastByte)
  else if decoder.haveByte = true ∧ offset - decoder.lastByte > decoder.timing.interCharacter then
    (some (protocolError .malformedResponse 0 0 "rtu_inter_character_gap" (-1)),
      decoder.poison offset)
  else if decoder.buffer.length = maxRTUADUSize then
    (some (protocolError .invalidRange 0 0 "rtu_buffer" (-1)), decoder.poison offset)
  else
    (none, { decoder with
             buffer := decoder.buffer ++ [value], lastByte := offset, haveByte := true })

def feedByte (decoder : RTUFrameDecoder) (offset : Duration) (value : UInt8) :
    Option ProtocolError × RTUFrameDecoder :=
  if offset < 0 then (some (protocolError .invalidRequest 0 0 "rtu_decoder" (-1)), decoder)
  else if decoder.poisoned then
    if offset < decoder.lastByte ∨ offset - decoder.lastByte < decoder.timing.interFrame then
      (some (protocolError .malformedResponse 0 0 "rtu_resynchronization_gap" (-1)),
        if offset ≥ decoder.lastByte then { decoder with lastByte := offset } else decoder)
    else { decoder with poisoned := false, lastByte := 0 }.appendByte offset value
  else decoder.appendByte offset value

/-- The frame received so far, once the line has been silent after it. The first
    component has no bytes when there is no frame to look at. -/
def endFrame (decoder : RTUFrameDecoder) (offset : Duration) :
    (RTUADU × Option ProtocolError) × RTUFrameDecoder :=
  if decoder.poisoned = true ∨ decoder.haveByte = false ∨ offset < decoder.lastByte ∨
      offset - decoder.lastByte < decoder.timing.interFrame then
    (({}, some (protocolError .malformedResponse 0 0 "rtu_inter_frame_gap" (-1))), decoder)
  else (decodeRTUADU decoder.buffer, decoder.reset)

end RTUFrameDecoder

/-- A frame that carries its own checksum, from `unitID` and with `function` as the first
    byte of its PDU. -/
structure ValidRTUFrame (unitID : UInt8) (function : FunctionCode) (frame : List UInt8) :
    Prop where
  size : minRTUADUSize ≤ frame.length ∧ frame.length ≤ maxRTUADUSize
  crc : rtuFrameCRC frame = rtuCRC16 (frame.take (frame.length - 2))
  unit : frame.head? = some unitID
  function : (frame.drop 1).head? = some function

theorem decodeRTUADU_raw (frame : List UInt8) : (decodeRTUADU frame).1.raw = frame := by
  unfold decodeRTUADU
  split_ifs <;> rfl

theorem decodeRTUADU_ok (frame : List UInt8) (h : (decodeRTUADU frame).2 = none) :
    minRTUADUSize ≤ frame.length ∧ frame.length ≤ maxRTUADUSize ∧
      rtuFrameCRC frame = rtuCRC16 (frame.take (frame.length - 2)) ∧
      frame.head? = some (decodeRTUADU frame).1.unitID ∧
      (decodeRTUADU frame).1.pdu = (frame.take (frame.length - 2)).drop 1 := by
  unfold decodeRTUADU at h ⊢
  split_ifs at h ⊢ with hsize hunit hcrc
  have hlength : minRTUADUSize ≤ frame.length ∧ frame.length ≤ maxRTUADUSize := by omega
  refine ⟨hlength.1, hlength.2, not_not.mp hcrc, ?_, rfl⟩
  cases frame with
  | nil => simp only [List.length_nil, minRTUADUSize] at hlength; omega
  | cons unitID rest => rfl

example : (decodeRTUADU [1, 3, 0, 0, 0, 10, 0xc5, 0xcd]).2 = none := by decide +kernel

/-- The first byte of the checked PDU is the second byte of the frame. -/
theorem head?_pdu (frame : List UInt8) (hsize : minRTUADUSize ≤ frame.length) :
    ((frame.take (frame.length - 2)).drop 1).head? = (frame.drop 1).head? := by
  unfold minRTUADUSize at hsize
  match frame, hsize with
  | unitID :: function :: low :: high :: rest, _ => rfl

theorem decodeRTUResponseADU_raw {α : Type} (expectedUnitID : UInt8) (function : FunctionCode)
    (frame : List UInt8) (decode : List UInt8 → Except ProtocolError α) :
    (decodeRTUResponseADU expectedUnitID function frame decode).1.raw = frame := by
  unfold decodeRTUResponseADU
  dsimp only
  split
  · exact decodeRTUADU_raw frame
  · split_ifs <;> exact decodeRTUADU_raw frame

theorem decodeRTUResponseADU_ok {α : Type} (expectedUnitID : UInt8) (function : FunctionCode)
    (frame : List UInt8) (decode : List UInt8 → Except ProtocolError α) (response : α)
    (h : (decodeRTUResponseADU expectedUnitID function frame decode).2 = .ok response)
    (hhead : ∀ pdu, decode pdu = .ok response → pdu.head? = some function) :
    ValidRTUFrame expectedUnitID function frame := by
  unfold decodeRTUResponseADU at h
  dsimp only at h
  split at h
  · exact nomatch h
  · next hdecoded =>
    rcases decodeRTUADU_ok frame hdecoded with ⟨hmin, hmax, hcrc, hunit, hpdu⟩
    split_ifs at h with hexpected
    refine ⟨⟨hmin, hmax⟩, hcrc, by rw [hunit, not_not.mp hexpected], ?_⟩
    rw [← head?_pdu frame hmin, ← hpdu]
    exact hhead _ h

theorem decodeRTUReadResponseADU_ok (expectedUnitID : UInt8) (request : ReadRegistersRequest)
    (frame : List UInt8) (response : ReadRegistersResponse)
    (h : (decodeRTUReadResponseADU expectedUnitID request frame).2 = .ok response) :
    ValidRTUFrame expectedUnitID request.function frame ∧
      (decodeRTUReadResponseADU expectedUnitID request frame).1.raw = frame := by
  unfold decodeRTUReadResponseADU at h ⊢
  split_ifs at h ⊢ with hunit
  refine ⟨decodeRTUResponseADU_ok _ _ _ _ _ h fun pdu hpdu => ?_, decodeRTUResponseADU_raw ..⟩
  exact (decodeReadRegistersResponse_ok request pdu response hpdu).1

theorem decodeRTUDeviceIDResponseADU_ok (expectedUnitID : UInt8) (request : DeviceIDRequest)
    (frame : List UInt8) (segment : DeviceIDSegment)
    (h : (decodeRTUDeviceIDResponseADU expectedUnitID request frame).2 = .ok segment) :
    ValidRTUFrame expectedUnitID functionEncapsulatedInterface frame ∧
      (decodeRTUDeviceIDResponseADU expectedUnitID request frame).1.raw = frame := by
  unfold decodeRTUDeviceIDResponseADU at h ⊢
  split_ifs at h ⊢ with hunit
  cases hvalid : validateDeviceIDRequest request with
  | error err => exact nomatch hvalid ▸ h
  | ok checked =>
    rw [hvalid] at h
    refine ⟨decodeRTUResponseADU_ok _ _ _ _ _ h fun pdu hpdu => ?_, decodeRTUResponseADU_raw ..⟩
    exact decodeDeviceIDSegment_function request pdu segment hpdu

end HelianthusModbus
