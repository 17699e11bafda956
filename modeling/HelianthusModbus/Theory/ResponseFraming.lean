import HelianthusModbus.Core.RtuProduction
import HelianthusModbus.Theory.TcpFraming

/-!
# Two Readings of One Response

A response can be read in more than one way, and the readings have to agree.

The production RTU reader judges a read response byte by byte, by the length its header
announces, while the decoder judges the whole frame. A frame of the unit with a right
checksum has one of two layouts or is no answer for either of them.

A private function response is read from an RTU frame or from a TCP frame with the same
PDU. The encoder of each transport is undone by its decoder, so what is left is the PDU.
The length in the TCP header is that of the frame, so no byte can be added or removed.

## Main definitions

* `Answered`, `AnswerLayout`: The answers to a read, and the frames that carry one.
* `tcpFrame`, `announced`: The TCP frame of a PDU, and the length a header announces.

## Theorems

* `rtuReadResponseLength_self`, `decodeRTUReadResponseADU_answered`: Both readings of a read
  response accept the two layouts and nothing else.
* `announced_length_agrees`: The announced length agrees with the decoder.
* `decodeRTUADU_encodeRTUADU`, `feed_tcpFrame`: Each decoder undoes its encoder.
* `decodeTCPPrivateFunctionResponseADU_length`: What decodes is one frame and nothing else.
* `private_function_transports_agree`: A private function response means the same over both
  transports.
-/

namespace HelianthusModbus

/-- The words of a device, or its exception. -/
def Answered : Except ProtocolError ReadRegistersResponse → Prop
  | .ok _ => True
  | .error err => err.kind = .exceptionResponse

/-- The two layouts of an answer, told apart by the function it carries. -/
inductive AnswerLayout (request : ReadRegistersRequest) : List UInt8 → Prop where
  | exception (unit : UInt8) (data : List UInt8) (hsize : data.length = 3) :
      AnswerLayout request (unit :: (request.function ||| 0x80) :: data)
  | words (unit count : UInt8) (data : List UInt8) (hcount : count.toNat = 2 * request.quantity)
      (hsize : data.length = count.toNat + 2) :
      AnswerLayout request (unit :: request.function :: count :: data)

section Valid

variable (request : ReadRegistersRequest) (hvalid : validateReadRegistersRequest request = .ok ())
include hvalid

theorem exception_ne : request.function ≠ request.function ||| 0x80 := by
  have htable := ((validateReadRegistersRequest_ok request).mp hvalid).1
  unfold tableOfFunction at htable
  split_ifs at htable with hholding hinput
  · rw [hholding]
    decide
  · rw [hinput]
    decide

theorem rtuReadResponseLength_self (frame : List UInt8) (hframe : frame ≠ []) :
    rtuReadResponseLength request frame = .ok frame.length ↔ AnswerLayout request frame := by
  constructor
  · intro h
    unfold rtuReadResponseLength at h
    match frame, hframe with
    | [_], _ => simp at h
    | unit :: received :: data, _ =>
      dsimp only at h
      split_ifs at h with hexception hsize hfunction
      · rw [hexception]
        exact .exception unit data (by simpa using h.symm)
      · match data with
        | [] => simp at h
        | count :: data =>
          dsimp only at h
          split_ifs at h with hcount hsize
          rw [hfunction]
          refine .words unit count data (not_not.mp hcount) ?_
          simp only [Except.ok.injEq, List.length_cons] at h
          omega
  · intro h
    cases h with
    | exception unit data hsize => simp [rtuReadResponseLength, hsize]
    | words unit count data hcount hsize =>
      simp only [rtuReadResponseLength, if_neg (exception_ne request hvalid), if_pos,
        if_neg (not_not.mpr hcount), List.length_cons, hsize]
      rw [if_neg (by omega), Except.ok.injEq]
      omega

/-- A prefix of an answer announces nothing yet, or the length of the answer. -/
theorem rtuReadResponseLength_start (frame start : List UInt8)
    (hlayout : AnswerLayout request frame) (hstart : start <+: frame) :
    ∃ n, rtuReadResponseLength request start = .ok n ∧ (n = 0 ∨ n = frame.length) := by
  have hle := hstart.length_le
  cases hlayout with
  | exception unit data hsize =>
    match start, hstart with
    | [], _ | [_], _ => exact ⟨0, rfl, .inl rfl⟩
    | _ :: received :: rest, hstart =>
      simp only [List.cons_prefix_cons] at hstart
      refine ⟨5, ?_, .inr (by simp [hsize])⟩
      simp only [List.length_cons, hsize] at hle
      simp [rtuReadResponseLength, hstart.2.1]
      omega
  | words unit count data hcount hsize =>
    match start, hstart with
    | [], _ | [_], _ => exact ⟨0, rfl, .inl rfl⟩
    | [_, received], hstart =>
      simp only [List.cons_prefix_cons] at hstart
      exact ⟨0, by simp [rtuReadResponseLength, hstart.2.1, exception_ne request hvalid],
        .inl rfl⟩
    | _ :: received :: first :: rest, hstart =>
      simp only [List.cons_prefix_cons] at hstart
      refine ⟨5 + count.toNat, ?_, .inr (by simp [hsize]; omega)⟩
      simp only [List.length_cons, hsize] at hle
      simp [rtuReadResponseLength, hstart.2.1, hstart.2.2.1, exception_ne request hvalid, hcount]
      omega

/-- The PDUs that answer a request. -/
theorem decodeReadRegistersResponse_answered (received : UInt8) (body : List UInt8) :
    Answered (decodeReadRegistersResponse request (received :: body)) ↔
      received = request.function ||| 0x80 ∧ body.length = 1 ∨
        received = request.function ∧ ∃ count payload, body = count :: payload ∧
          count.toNat = 2 * request.quantity ∧ payload.length = count.toNat := by
  have hquantity := ((validateReadRegistersRequest_ok request).mp hvalid).2.2.1
  unfold maxReadRegisters at hquantity
  simp only [decodeReadRegistersResponse, hvalid]
  by_cases hexception : received = request.function ||| 0x80
  · have hne : received ≠ request.function := fun h =>
      exception_ne request hvalid (h ▸ hexception)
    rw [if_pos hexception]
    rcases body with _ | ⟨_, _ | ⟨_, _⟩⟩
    · simp [Answered, protocolError]
    · simp [Answered, protocolError, hexception]
    · simp [Answered, protocolError, hne]
  rw [if_neg hexception]
  by_cases hfunction : received = request.function
  · rw [if_neg (not_not.mpr hfunction)]
    rcases body with _ | ⟨count, payload⟩
    · simp [Answered, protocolError, hexception]
    · dsimp only
      split_ifs with hcount hlength
      · simp [Answered, protocolError, hexception]
        omega
      · simp only [List.length_cons, maxPDUSize] at hlength
        simp [Answered, protocolError, hexception]
        omega
      · simp only [List.length_cons, maxPDUSize] at hlength
        simp [Answered, hfunction]
        omega
  · simp [Answered, protocolError, hexception, hfunction]

theorem decodeRTUReadResponseADU_answered (unit : UInt8)
    (hunit : unit ≠ 0 ∧ unit ≤ 247) (frame : List UInt8) (hhead : frame.head? = some unit)
    (hcrc : rtuFrameCRC frame = rtuCRC16 (frame.take (frame.length - 2))) :
    Answered (decodeRTUReadResponseADU unit request frame).2 ↔ AnswerLayout request frame := by
  have hquantity := ((validateReadRegistersRequest_ok request).mp hvalid).2.2.1
  unfold maxReadRegisters at hquantity
  have hbad : ¬(unit = 0 ∨ unit > 247) := by
    rintro (hzero | hlarge)
    · exact hunit.1 hzero
    · exact absurd hlarge (UInt8.not_lt.mpr hunit.2)
  have hfirst : frame.headD 0 = unit := by
    rw [List.headD_eq_head?_getD, hhead]
    rfl
  unfold decodeRTUReadResponseADU decodeRTUResponseADU decodeRTUADU
  rw [if_neg hbad, hfirst]
  by_cases hsize : frame.length < minRTUADUSize ∨ frame.length > maxRTUADUSize
  · -- Neither layout is so short or so long.
    rw [if_pos hsize]
    refine iff_of_false (by simp [Answered, protocolError]) ?_
    unfold minRTUADUSize maxRTUADUSize at hsize
    intro hlayout
    cases hlayout with
    | exception _ data hdata | words _ count data hcount hdata =>
      simp only [List.length_cons] at hsize
      omega
  rw [if_neg hsize, if_neg hbad, if_neg (not_not.mpr hcrc)]
  dsimp only
  rw [if_neg (not_not.mpr rfl)]
  unfold minRTUADUSize at hsize
  rcases frame with _ | ⟨first, _ | ⟨received, data⟩⟩
  · exact absurd (.inl (by simp)) hsize
  · exact absurd (.inl (by simp)) hsize
  · have hdata : 2 ≤ data.length := by
      simp only [List.length_cons] at hsize
      omega
    have hpdu : ((first :: received :: data).take ((first :: received :: data).length - 2)).drop 1
        = received :: data.take (data.length - 2) := by
      rw [List.length_cons, List.length_cons,
        show data.length + 1 + 1 - 2 = (data.length - 2) + 1 + 1 by omega]
      rfl
    rw [hpdu, decodeReadRegistersResponse_answered request hvalid]
    constructor
    · rintro (⟨rfl, hbody⟩ | ⟨rfl, count, payload, hbody, hcount, hpayload⟩)
      · rw [List.length_take] at hbody
        exact .exception first data (by omega)
      · have hlength := congrArg List.length hbody
        rw [List.length_take, List.length_cons] at hlength
        rcases data with _ | ⟨count', rest⟩
        · cases hbody
        · simp only [List.length_cons] at hlength hdata
          rw [List.length_cons, show rest.length + 1 - 2 = (rest.length - 2) + 1 by omega,
            List.take_succ_cons, List.cons.injEq] at hbody
          rw [hbody.1]
          exact .words first count rest hcount (by omega)
    · intro hlayout
      cases hlayout with
      | exception _ _ hthree => exact .inl ⟨rfl, by rw [List.length_take]; omega⟩
      | words _ count rest hcount hrest =>
        refine .inr ⟨rfl, count, rest.take (rest.length - 2), ?_, hcount, ?_⟩
        · rw [List.length_cons, show rest.length + 1 - 2 = (rest.length - 2) + 1 by omega]
          rfl
        · rw [List.length_take]
          omega

end Valid

/-- The length announced byte by byte agrees with the decoder: a frame of the unit with a
    right checksum is an answer exactly if no prefix of it is refused and the whole frame
    announces its own length. No prefix of an answer then announces another length. -/
theorem announced_length_agrees (request : ReadRegistersRequest)
    (hvalid : validateReadRegistersRequest request = .ok ()) (unit : UInt8)
    (hunit : unit ≠ 0 ∧ unit ≤ 247) (frame : List UInt8) (hhead : frame.head? = some unit)
    (hcrc : rtuFrameCRC frame = rtuCRC16 (frame.take (frame.length - 2))) :
    (Answered (decodeRTUReadResponseADU unit request frame).2 ↔
        (∀ start, start <+: frame → ∃ n, rtuReadResponseLength request start = .ok n) ∧
          rtuReadResponseLength request frame = .ok frame.length) ∧
      (Answered (decodeRTUReadResponseADU unit request frame).2 → ∀ start, start <+: frame →
        start ≠ frame → ∃ n, rtuReadResponseLength request start = .ok n ∧
          (n = 0 ∨ start.length < n ∧ n = frame.length)) := by
  have hframe : frame ≠ [] := by
    rintro rfl
    exact nomatch hhead
  rw [decodeRTUReadResponseADU_answered request hvalid unit hunit frame hhead hcrc,
    rtuReadResponseLength_self request hvalid frame hframe]
  refine ⟨⟨fun hlayout => ⟨fun start hstart => ?_, hlayout⟩, fun h => h.2⟩, ?_⟩
  · rcases rtuReadResponseLength_start request hvalid frame start hlayout hstart with ⟨n, hn, _⟩
    exact ⟨n, hn⟩
  · intro hlayout start hstart hproper
    rcases rtuReadResponseLength_start request hvalid frame start hlayout hstart with
      ⟨n, hn, hzero | hwhole⟩
    · exact ⟨n, hn, .inl hzero⟩
    · have hne : start.length ≠ frame.length := fun h => hproper (hstart.eq_of_length h)
      have hle := hstart.length_le
      exact ⟨n, hn, .inr ⟨by omega, hwhole⟩⟩

/-- A read of one register. -/
def oneRegister : ReadRegistersRequest :=
  { function := 3, table := .holdingRegisters, offset := 0, quantity := 1 }

theorem announced_length_agrees_one :
    rtuReadResponseLength oneRegister [1, 3, 2, 0, 10, 0x38, 0x43] = .ok 7 :=
  ((announced_length_agrees oneRegister (by decide) 1 (by decide) [1, 3, 2, 0, 10, 0x38, 0x43]
    rfl (by decide +kernel)).1.mp (by
      rw [show (decodeRTUReadResponseADU 1 oneRegister [1, 3, 2, 0, 10, 0x38, 0x43]).2 =
        .ok { words := [10],
              provenance :=
                { function := 3, table := .holdingRegisters, offset := 0, quantity := 1 } }
        by decide +kernel]
      trivial)).2

open TCPStreamDecoder

/-- A word is put together from its two bytes. -/
theorem uint16_of_bytes (value : UInt16) :
    (value >>> 8).toUInt8.toUInt16 <<< 8 ||| value.toUInt8.toUInt16 = value := by
  have hlt := value.toNat_lt
  have hor := Nat.two_pow_add_eq_or_of_lt (i := 8) (b := value.toNat % 256) (by omega)
    (value.toNat / 256)
  apply UInt16.toNat_inj.mp
  simp only [UInt16.toNat_or, UInt16.toNat_shiftLeft, UInt16.toNat_shiftRight,
    UInt8.toNat_toUInt16, UInt16.toNat_toUInt8, Nat.shiftLeft_eq, Nat.shiftRight_eq_div_pow,
    UInt16.reduceToNat, Nat.reducePow, Nat.reduceMod]
  rw [Nat.mod_eq_of_lt (show value.toNat / 256 < 256 by omega),
    Nat.mod_eq_of_lt (show value.toNat / 256 * 256 < 65536 by omega), Nat.mul_comm, ← hor]
  omega

/-- What `encodeRTUADU` builds decodes to its unit and its PDU. -/
theorem decodeRTUADU_encodeRTUADU (unitID : UInt8) (pdu : List UInt8)
    (hunit : ¬(unitID = 0 ∨ unitID > 247)) (hpdu : ¬(pdu = [] ∨ pdu.length > maxPDUSize)) :
    ∃ frame, encodeRTUADU unitID pdu = .ok frame ∧
      decodeRTUADU frame = ({ unitID := unitID, pdu := pdu, raw := frame }, none) := by
  refine ⟨_, by rw [encodeRTUADU, if_neg hunit, if_neg hpdu], ?_⟩
  generalize hcrc : rtuCRC16 (unitID :: pdu) = crc
  generalize hframe : unitID :: pdu ++ [crc.toUInt8, (crc >>> 8).toUInt8] = frame
  have hlength : frame.length = (unitID :: pdu).length + 2 := by
    rw [← hframe, List.length_append]
    rfl
  have htake : frame.take (frame.length - 2) = unitID :: pdu := by
    rw [hlength, Nat.add_sub_cancel, ← hframe, List.take_left]
  have hword : rtuFrameCRC frame = crc := by
    have hlow : frame.getD (frame.length - 2) 0 = crc.toUInt8 := by
      rw [hlength, Nat.add_sub_cancel, ← hframe, List.getD_eq_getElem?_getD,
        List.getElem?_append_right (Nat.le_refl _), Nat.sub_self]
      rfl
    have hhigh : frame.getD (frame.length - 1) 0 = (crc >>> 8).toUInt8 := by
      rw [hlength, Nat.add_sub_assoc (by decide), ← hframe, List.getD_eq_getElem?_getD,
        List.getElem?_append_right (Nat.le_add_right ..), Nat.add_sub_cancel_left]
      rfl
    rw [rtuFrameCRC, hlow, hhigh, UInt16.or_comm, uint16_of_bytes]
  have hhead : frame.headD 0 = unitID := by
    rw [← hframe]
    rfl
  have hsome := List.length_pos_of_ne_nil (fun h => hpdu (.inl h))
  have hsize : ¬(frame.length < minRTUADUSize ∨ frame.length > maxRTUADUSize) := by
    simp only [List.length_cons, minRTUADUSize, maxRTUADUSize, maxPDUSize] at hlength hpdu ⊢
    omega
  rw [decodeRTUADU, if_neg hsize, hhead, if_neg hunit, htake, hword, hcrc,
    if_neg (not_not.mpr rfl), List.drop_one, List.tail_cons]

/-- The frame of a PDU over TCP. -/
def tcpFrame (transactionID : UInt16) (unitID : UInt8) (pdu : List UInt8) : List UInt8 :=
  [(transactionID >>> 8).toUInt8, transactionID.toUInt8, 0, 0,
    UInt8.ofNat ((pdu.length + 1) / 256), UInt8.ofNat (pdu.length + 1), unitID] ++ pdu

/-- The length a header announces. -/
def announced (bytes : List UInt8) : Nat :=
  (bytes.getD 4 0).toNat * 256 + (bytes.getD 5 0).toNat

/-- A strict decoder of the protocol's size. -/
def loaded (buffer : List UInt8) : TCPStreamDecoder :=
  { maxBuffered := maxTCPADUSize, framing := .strict, buffer := buffer }

section Frame

variable (transactionID : UInt16) (unitID : UInt8) (pdu : List UInt8)

theorem length_tcpFrame : (tcpFrame transactionID unitID pdu).length = 7 + pdu.length := by
  simp only [tcpFrame, List.length_append, List.length_cons, List.length_nil]

theorem getD_tcpFrame (bytes : List UInt8)
    (hstart : bytes.take 7 = (tcpFrame transactionID unitID pdu).take 7) (index : Nat)
    (hindex : index < 7) :
    bytes.getD index 0 = (tcpFrame transactionID unitID pdu).getD index 0 := by
  rw [List.getD_eq_getElem?_getD, List.getD_eq_getElem?_getD,
    ← List.getElem?_take_of_lt hindex, hstart, List.getElem?_take_of_lt hindex]

variable (hpdu : ¬(pdu = [] ∨ pdu.length > maxPDUSize))
include hpdu

/-- Whatever starts with the header of a frame announces the length of that frame. -/
theorem announced_tcpFrame (bytes : List UInt8)
    (hstart : bytes.take 7 = (tcpFrame transactionID unitID pdu).take 7) :
    announced bytes = pdu.length + 1 := by
  have hbyte := getD_tcpFrame transactionID unitID pdu bytes hstart
  rw [announced, hbyte 4 (by decide), hbyte 5 (by decide)]
  simp only [tcpFrame, List.cons_append, List.getD_cons_succ, List.getD_cons_zero,
    UInt8.toNat_ofNat']
  unfold maxPDUSize at hpdu
  omega

/-- With the header of a frame in it, the buffer waits for the rest of the frame. -/
theorem demand_tcpFrame (buffer : List UInt8)
    (hstart : buffer.take 7 = (tcpFrame transactionID unitID pdu).take 7)
    (hlong : 7 ≤ buffer.length) :
    (loaded buffer).demand =
      if buffer.length < 7 + pdu.length then .more (7 + pdu.length - buffer.length)
      else .whole (7 + pdu.length) := by
  have hbyte := getD_tcpFrame transactionID unitID pdu buffer hstart
  have hlength : (loaded buffer).length = pdu.length + 1 :=
    announced_tcpFrame transactionID unitID pdu hpdu buffer hstart
  have hsome := List.length_pos_of_ne_nil (fun h => hpdu (.inl h))
  have hcase := demands (loaded buffer)
  unfold maxPDUSize at hpdu
  generalize (loaded buffer).demand = demanded at hcase ⊢
  -- The header is right, so the buffer is short of the frame or has all of it.
  cases hcase with
  | header hshort => exact absurd hlong (Nat.not_le.mpr hshort)
  | protocolID _ hbad =>
    rcases hbad with hbad | hbad
    · exact absurd (hbyte 2 (by decide)) hbad
    · exact absurd (hbyte 3 (by decide)) hbad
  | length _ hbad =>
    rw [hlength] at hbad
    simp only [loaded, minMBAPLength, lengthBound, maxMBAPLength, maxPDUSize] at hbad
    omega
  | full _ _ hshort hfull =>
    rw [hlength] at hshort
    simp only [loaded, maxTCPADUSize, maxMBAPLength, maxPDUSize, mbapHeaderSize] at hshort hfull
    omega
  | rest _ _ _ hshort =>
    rw [hlength] at hshort ⊢
    simp only [loaded, maxTCPADUSize, maxMBAPLength, maxPDUSize, mbapHeaderSize] at hshort ⊢
    rw [if_pos (by omega)]
    congr 1
    omega
  | whole _ hwhole =>
    rw [hlength] at hwhole ⊢
    simp only [loaded] at hwhole
    rw [if_neg (by omega)]
    congr 1
    omega

/-- A strict decoder of the protocol's size takes a frame whole. -/
theorem feed_tcpFrame :
    (loaded []).feed (tcpFrame transactionID unitID pdu) =
      { out := [{ transactionID := transactionID, unitID := unitID, pdu := pdu,
                  raw := tcpFrame transactionID unitID pdu }]
        state := loaded [] } := by
  have hdemand := demand_tcpFrame transactionID unitID pdu hpdu
  generalize hframe : tcpFrame transactionID unitID pdu = frame at *
  have hlength : frame.length = 7 + pdu.length := hframe ▸ length_tcpFrame ..
  have hsome := List.length_pos_of_ne_nil (fun h => hpdu (.inl h))
  have hne : frame ≠ [] := List.ne_nil_of_length_pos (by omega)
  have hpart : (frame.take 7).length = 7 := by
    rw [List.length_take]
    omega
  -- The header, the PDU, the frame, and the wait for the next one.
  have hheader : feedLoop.turn ⟨loaded [], [], frame⟩ = .inr ⟨loaded (frame.take 7), [], pdu⟩ := by
    rw [turn_more _ 7 rfl hne, consume, hlength,
      Nat.min_eq_left (Nat.le_add_right 7 _), ← hframe]
    rfl
  have hrest : feedLoop.turn ⟨loaded (frame.take 7), [], pdu⟩ = .inr ⟨loaded frame, [], []⟩ := by
    have hmore := hdemand (frame.take 7) (by simp) (by omega)
    rw [if_pos (by omega)] at hmore
    rw [turn_more _ _ hmore (fun h => hpdu (.inl h)), consume, hpart, Nat.add_sub_cancel_left,
      Nat.min_self, List.take_length, List.drop_length, ← hframe]
    rfl
  have hwhole : feedLoop.turn ⟨loaded frame, [], []⟩ = .inr ⟨loaded [],
      [{ transactionID := transactionID, unitID := unitID, pdu := pdu, raw := frame }], []⟩ := by
    have htotal := hdemand frame rfl (by omega)
    rw [if_neg (by omega)] at htotal
    rw [turn_whole _ _ htotal, extract, frameOf, ← hlength, List.nil_append]
    simp only [loaded, List.take_length, List.drop_length, byte]
    rw [← hframe]
    simp only [tcpFrame, List.cons_append, List.getD_cons_zero, List.getD_cons_succ,
      uint16_of_bytes, List.drop_succ_cons, List.nil_append, List.drop_zero]
  rw [feed, feedLoop.run_next _ _ hheader, feedLoop.run_next _ _ hrest,
    feedLoop.run_next _ _ hwhole, feedLoop.run_done _ _ (turn_wait _ 7 rfl rfl)]

end Frame

theorem decodeTCPPrivateFunctionResponseADU_length (transactionID : UInt16) (unitID : UInt8)
    (request : PrivateFunctionRequest) (bytes : List UInt8)
    (response : TCPPrivateFunctionResponseADU)
    (h : decodeTCPPrivateFunctionResponseADU transactionID unitID request bytes = .ok response) :
    mbapHeaderSize ≤ bytes.length ∧ bytes.length = 6 + announced bytes := by
  unfold decodeTCPPrivateFunctionResponseADU at h
  split_ifs at h
  split at h
  · cases h
  rw [show newTCPStreamDecoder maxTCPADUSize = .ok (loaded []) from rfl] at h
  dsimp only at h
  split at h
  · cases h
  next hfed =>
  split at h
  · cases h
  next hfinish =>
  have hempty : ((loaded []).feed bytes).state.buffer = [] := by
    unfold finish at hfinish
    split at hfinish
    · next hempty => exact List.eq_nil_of_length_eq_zero hempty
    · cases hfinish
  -- What was fed is in the frame, since nothing is left in the buffer.
  have hkept := feed_keeps (loaded []) bytes hfed
  split at h
  · next adu hout =>
    rw [hout, hempty] at hkept
    simp only [List.map_cons, List.map_nil, List.flatten_cons, List.flatten_nil, List.append_nil]
      at hkept
    have hraw : adu.raw = bytes := hkept.1
    have hframed := hkept.2 adu List.mem_cons_self
    have hlength := hframed.length
    have hheader := hframed.header
    rw [hframed.pdu, hraw, List.length_drop] at hlength
    rw [hraw] at hheader
    unfold announced
    unfold mbapHeaderSize at hheader ⊢
    omega
  · cases h

/-- Two results that mean the same to a caller. -/
def SameMeaning : Except ProtocolError RTUPrivateFunctionResponseADU →
    Except TCPStreamError TCPPrivateFunctionResponseADU → Prop
  | .ok rtu, .ok tcp => rtu.payload = tcp.payload
  | .error rtu, .error tcp =>
    rtu.kind = .exceptionResponse ∧ tcp.cause.kind = .exceptionResponse ∧
        rtu.exceptionCode = tcp.cause.exceptionCode ∨
      rtu.kind = .malformedResponse ∧ tcp.cause.kind = .malformedResponse ∧
        rtu.field = tcp.cause.field ∧ rtu.receivedFunction = tcp.cause.receivedFunction
  | _, _ => False

/-- Where a PDU starts in its frame shows in nothing but the offsets of errors. -/
theorem sameMeaning_pdu (request : PrivateFunctionRequest) (pdu : List UInt8) (rtu : RTUADU)
    (tcp : TCPADU) :
    SameMeaning
      (match decodePrivateFunctionPDU 0 request pdu with
        | .error err => .error err
        | .ok payload => .ok { adu := rtu, payload := payload })
      (match decodePrivateFunctionPDU 7 request pdu with
        | .error err => .error (.protocol err)
        | .ok payload => .ok { adu := tcp, payload := payload }) := by
  unfold decodePrivateFunctionPDU
  rcases pdu with _ | ⟨received, payload⟩
  · exact .inr ⟨rfl, rfl, rfl, rfl⟩
  dsimp only
  by_cases hexception : received = request.function ||| 0x80
  · rw [if_pos hexception, if_pos hexception]
    -- Only a PDU of two bytes is an exception; a shorter or longer one is malformed.
    rcases payload with _ | ⟨code, _ | _⟩
    · exact .inr ⟨rfl, rfl, rfl, rfl⟩
    · exact .inl ⟨rfl, rfl, rfl⟩
    · exact .inr ⟨rfl, rfl, rfl, rfl⟩
  · rw [if_neg hexception, if_neg hexception]
    by_cases hfunction : received ≠ request.function
    · rw [if_pos hfunction, if_pos hfunction]
      exact .inr ⟨rfl, rfl, rfl, rfl⟩
    · rw [if_neg hfunction, if_neg hfunction]
      rfl

/-- A private function response means the same over RTU and over TCP. Bytes added to the
    end of the TCP frame, or missing there, make it no response at all. -/
theorem private_function_transports_agree (request : PrivateFunctionRequest)
    (hrequest : checkPrivateFunctionRequest request = none) (unitID : UInt8)
    (hunit : unitID ≠ 0 ∧ unitID ≤ 247) (transactionID : UInt16) (pdu : List UInt8)
    (hpdu : pdu ≠ [] ∧ pdu.length ≤ 253) :
    ∃ rtu tcp, encodeRTUADU unitID pdu = .ok rtu ∧ encodeTCPADU transactionID unitID pdu = .ok tcp ∧
      SameMeaning (decodeRTUPrivateFunctionResponseADU unitID request rtu)
        (decodeTCPPrivateFunctionResponseADU transactionID unitID request tcp) ∧
      ∀ changed run, run ≠ [] → changed = tcp ++ run ∨ tcp = changed ++ run →
        ∃ err, decodeTCPPrivateFunctionResponseADU transactionID unitID request changed =
          .error err := by
  have hsize : ¬(pdu = [] ∨ pdu.length > maxPDUSize) := by
    rintro (hempty | hlong)
    · exact hpdu.1 hempty
    · exact absurd hpdu.2 (Nat.not_le.mpr hlong)
  have hlarge : ¬unitID > 247 := UInt8.not_lt.mpr hunit.2
  have hbad : ¬(unitID = 0 ∨ unitID > 247) := not_or.mpr ⟨hunit.1, hlarge⟩
  rcases decodeRTUADU_encodeRTUADU unitID pdu hbad hsize with ⟨rtu, hrtu, hdecoded⟩
  refine ⟨rtu, tcpFrame transactionID unitID pdu, hrtu, ?_, ?_, ?_⟩
  · rw [encodeTCPADU, if_neg hlarge, if_neg hsize]
    rfl
  · unfold decodeRTUPrivateFunctionResponseADU decodeTCPPrivateFunctionResponseADU
      decodeRTUResponseADU
    rw [if_neg hbad, if_neg hlarge, hrequest, hdecoded,
      show newTCPStreamDecoder maxTCPADUSize = .ok (loaded []) from rfl]
    dsimp only
    rw [feed_tcpFrame transactionID unitID pdu hsize, if_neg (not_not.mpr rfl)]
    simp only [show (loaded []).finish.1 = none from rfl, ne_eq, not_true_eq_false, if_false]
    exact sameMeaning_pdu request pdu _ _
  · intro changed run hrun hchanged
    cases hresult : decodeTCPPrivateFunctionResponseADU transactionID unitID request changed with
    | error err => exact ⟨err, rfl⟩
    | ok response =>
      -- The header is still there, so it still announces the old length.
      rcases decodeTCPPrivateFunctionResponseADU_length _ _ _ _ _ hresult with ⟨hheader, hlength⟩
      have hframe := length_tcpFrame transactionID unitID pdu
      have hpositive := List.length_pos_of_ne_nil hrun
      unfold mbapHeaderSize at hheader
      rw [announced_tcpFrame transactionID unitID pdu hsize] at hlength
      · rcases hchanged with hadded | hremoved
        · rw [hadded, List.length_append] at hlength
          omega
        · rw [hremoved, List.length_append] at hframe
          omega
      · rcases hchanged with hadded | hremoved
        · rw [hadded, List.take_append_of_le_length (by omega)]
        · rw [hremoved, List.take_append_of_le_length hheader]

/-- A request of the first private function. -/
def privateRequest : PrivateFunctionRequest :=
  { function := 65, payload := [] }

/-- The exception to a private function, with one byte behind it. -/
theorem private_function_transports_agree_sample :
    decodeTCPPrivateFunctionResponseADU 1 2 privateRequest [0, 1, 0, 0, 0, 3, 2, 193, 4] =
        .error (.protocol { protocolError .exceptionResponse 65 193 "exception_code" 8 with
          exceptionCode := 4 }) ∧
      ∃ err, decodeTCPPrivateFunctionResponseADU 1 2 privateRequest
        [0, 1, 0, 0, 0, 3, 2, 193, 4, 0] = .error err := by
  refine ⟨by decide +kernel, ?_⟩
  rcases private_function_transports_agree privateRequest (by decide) 2 (by decide) 1 [193, 4]
    (by decide) with ⟨rtu, tcp, _, htcp, _, hfails⟩
  cases htcp
  exact hfails _ [0] (by decide) (.inl rfl)

end HelianthusModbus
