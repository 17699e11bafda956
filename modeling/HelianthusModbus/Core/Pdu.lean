import Mathlib.Data.List.Basic

/-!
# Register Read PDUs

The protocol data units of the two register reads, function codes `0x03` and
`0x04`, and the error value every validation of the runtime returns.

A request is built through `newReadRegistersRequest`, which checks it, but the
Go type can also be built as a zero value, so encoding and decoding check the
request again. The zero value has no logical table at all; `LogicalTable.unset`
stands for the empty string it holds there.

Offsets and quantities are sixteen bit in the source. They are natural numbers
here, since every request that passes validation satisfies
`offset + quantity ≤ 65536`, and the places that narrow to sixteen bits say so
with an explicit remainder.

## Main definitions

* `ProtocolError`: The error value, with the field and byte offset it names.
* `ReadRegistersRequest`: A register read, validated or zero.
* `newReadRegistersRequest`: Building a request from a function and a range.
* `validateReadRegistersRequest`: The check that encoding and decoding repeat.
* `decodeReadRegistersResponse`: Decoding one response PDU against its request.

## Theorems

* `newReadRegistersRequest_ok`: The requests that can be built are those that validate.
* `decodeReadRegistersResponse_ok`: A decoded response carries the request's
  function code in its first byte and has exactly the requested words.
-/

namespace HelianthusModbus

/-- The largest Modbus protocol data unit, in bytes. -/
def maxPDUSize : Nat := 253

/-- The largest register quantity of one read. -/
def maxReadRegisters : Nat := 125

/-- The largest value of a signed machine integer. -/
def maxInt : Int := 9223372036854775807

/-- The largest value of an unsigned 64-bit counter. -/
def maxUint64 : Nat := 18446744073709551615

/-- A 64-bit counter advanced by one, wrapping as the machine integer does. -/
def nextUint64 (n : Nat) : Nat := (n + 1) % 18446744073709551616

/-- A Modbus function code. Any byte can arrive from the wire, so this is not
    an enumeration. -/
abbrev FunctionCode := UInt8

def functionReadHoldingRegisters : FunctionCode := 0x03
def functionReadInputRegisters : FunctionCode := 0x04
def functionEncapsulatedInterface : FunctionCode := 0x2b

/-- The table a register offset points into. -/
inductive LogicalTable where
  | unset
  | holdingRegisters
  | inputRegisters
  deriving DecidableEq, Repr

/-- The class of a local validation failure or of a remote protocol failure. -/
inductive ErrorKind where
  | unsupportedOperation
  | invalidRequest
  | invalidRange
  | malformedResponse
  | exceptionResponse
  deriving DecidableEq, Repr

/-- A protocol error. The field names what was checked, and the offset is the
    byte position in the PDU, or `-1` where there is none. -/
structure ProtocolError where
  kind : ErrorKind
  requestedFunction : FunctionCode
  receivedFunction : FunctionCode
  field : String
  offset : Int
  exceptionCode : UInt8 := 0
  deriving DecidableEq, Repr

def protocolError (kind : ErrorKind) (requested received : FunctionCode) (field : String)
    (offset : Int) : ProtocolError :=
  { kind := kind, requestedFunction := requested, receivedFunction := received,
    field := field, offset := offset }

/-- A register read request. The default field values are those of the Go zero
    value, which does not validate. -/
structure ReadRegistersRequest where
  function : FunctionCode := 0
  table : LogicalTable := .unset
  offset : Nat := 0
  quantity : Nat := 0
  deriving DecidableEq, Repr, Inhabited

/-- The logical read a response answers. -/
structure ReadProvenance where
  function : FunctionCode
  table : LogicalTable
  offset : Nat
  quantity : Nat
  deriving DecidableEq, Repr

/-- A decoded response: words in wire order, not interpreted. -/
structure ReadRegistersResponse where
  words : List Nat
  provenance : ReadProvenance
  deriving DecidableEq, Repr

/-- The table a register function code reads from. -/
def tableOfFunction (function : FunctionCode) : Option LogicalTable :=
  if function = functionReadHoldingRegisters then some .holdingRegisters
  else if function = functionReadInputRegisters then some .inputRegisters
  else none

/-- The range checks shared by the constructor and the validator. -/
def checkReadRange (function : FunctionCode) (offset quantity : Nat) :
    Except ProtocolError Unit :=
  if quantity = 0 ∨ quantity > maxReadRegisters then
    .error (protocolError .invalidRange function 0 "quantity" 3)
  else if offset + quantity - 1 > 0xffff then
    .error (protocolError .invalidRange function 0 "range_wrap" 1)
  else .ok ()

def newReadRegistersRequest (function : FunctionCode) (offset quantity : Nat) :
    Except ProtocolError ReadRegistersRequest :=
  match tableOfFunction function with
  | none => .error (protocolError .unsupportedOperation function 0 "function" 0)
  | some table =>
    match checkReadRange function offset quantity with
    | .error err => .error err
    | .ok () =>
      .ok { function := function, table := table, offset := offset, quantity := quantity }

def validateReadRegistersRequest (request : ReadRegistersRequest) : Except ProtocolError Unit :=
  match tableOfFunction request.function with
  | none => .error (protocolError .unsupportedOperation request.function 0 "function" 0)
  | some expectedTable =>
    if request.table ≠ expectedTable then
      .error (protocolError .invalidRequest request.function 0 "logical_table" (-1))
    else checkReadRange request.function request.offset request.quantity

namespace ReadRegistersRequest

/-- The five bytes of a register read request. -/
def encodePDU (request : ReadRegistersRequest) : Except ProtocolError (List UInt8) :=
  match validateReadRegistersRequest request with
  | .error err => .error err
  | .ok () =>
    .ok [request.function, UInt8.ofNat (request.offset / 256), UInt8.ofNat request.offset,
      UInt8.ofNat (request.quantity / 256), UInt8.ofNat request.quantity]

end ReadRegistersRequest

/-- Big-endian words of a byte list. A trailing odd byte is dropped, but the
    decoder calls this only after the length has been checked. -/
def wordsOfBytes : List UInt8 → List Nat
  | high :: low :: rest => (high.toNat * 256 + low.toNat) :: wordsOfBytes rest
  | _ => []

def decodeReadRegistersResponse (request : ReadRegistersRequest) (pdu : List UInt8) :
    Except ProtocolError ReadRegistersResponse :=
  match validateReadRegistersRequest request with
  | .error err => .error err
  | .ok () =>
    match pdu with
    | [] => .error (protocolError .malformedResponse request.function 0 "function" 0)
    | received :: body =>
      if received = request.function ||| 0x80 then
        match body with
        | [code] =>
          .error { protocolError .exceptionResponse request.function received
            "exception_code" 1 with exceptionCode := code }
        | _ =>
          .error (protocolError .malformedResponse request.function received
            "exception_length" pdu.length)
      else if received ≠ request.function then
        .error (protocolError .malformedResponse request.function received
          "function_mismatch" 0)
      else
        match body with
        | [] =>
          .error (protocolError .malformedResponse request.function received
            "byte_count" 1)
        | count :: payload =>
          if count.toNat ≠ request.quantity * 2 then
            .error (protocolError .malformedResponse request.function received
              "byte_count" 1)
          else if pdu.length ≠ request.quantity * 2 + 2 ∨ pdu.length > maxPDUSize then
            .error (protocolError .malformedResponse request.function received
              "response_length" pdu.length)
          else
            .ok { words := wordsOfBytes payload,
                  provenance :=
                    { function := request.function, table := request.table,
                      offset := request.offset, quantity := request.quantity } }

theorem checkReadRange_ok (function : FunctionCode) (offset quantity : Nat) :
    checkReadRange function offset quantity = .ok () ↔
      0 < quantity ∧ quantity ≤ maxReadRegisters ∧ offset + quantity ≤ 65536 := by
  unfold checkReadRange
  split_ifs with hquantity hwrap
  · simp only [false_iff]
    omega
  · simp only [false_iff]
    omega
  · simp only [true_iff]
    omega

/-- A request that validates is a register function with its own table and a
    range that fits the sixteen-bit address space. -/
theorem validateReadRegistersRequest_ok (request : ReadRegistersRequest) :
    validateReadRegistersRequest request = .ok () ↔
      tableOfFunction request.function = some request.table ∧ 0 < request.quantity ∧
        request.quantity ≤ maxReadRegisters ∧ request.offset + request.quantity ≤ 65536 := by
  unfold validateReadRegistersRequest
  cases htable : tableOfFunction request.function with
  | none => simp
  | some table =>
    by_cases heq : request.table = table
    · simp [heq, checkReadRange_ok]
    · simp only [ne_eq, heq, not_false_eq_true, if_true, reduceCtorEq, Option.some.injEq,
        false_iff, not_and]
      exact fun h => absurd h.symm heq

/-- A built request carries exactly the fields it was built from, and passes the
    check that encoding and decoding repeat. -/
theorem newReadRegistersRequest_ok (function : FunctionCode) (offset quantity : Nat)
    (request : ReadRegistersRequest) :
    newReadRegistersRequest function offset quantity = .ok request ↔
      request.function = function ∧ request.offset = offset ∧ request.quantity = quantity ∧
        validateReadRegistersRequest request = .ok () := by
  rw [validateReadRegistersRequest_ok]
  unfold newReadRegistersRequest
  constructor
  · intro h
    split at h
    · cases h
    next table htable =>
    split at h
    · cases h
    next hrange =>
    cases h
    exact ⟨rfl, rfl, rfl, htable, (checkReadRange_ok function offset quantity).mp hrange⟩
  · rintro ⟨rfl, rfl, rfl, htable, hrange⟩
    rw [htable]
    simp [(checkReadRange_ok _ _ _).mpr hrange]

theorem wordsOfBytes_length (payload : List UInt8) :
    (wordsOfBytes payload).length = payload.length / 2 := by
  induction payload using wordsOfBytes.induct with
  | case1 high low rest ih =>
    simp only [wordsOfBytes, List.length_cons, ih]
    omega
  | case2 payload hshort =>
    -- Only the empty list and the single byte are left.
    match payload, hshort with
    | [], _ => simp [wordsOfBytes]
    | [_], _ => simp [wordsOfBytes]
    | high :: low :: rest, hshort => exact absurd rfl (hshort high low rest)

/-- What a successful decode says: the request was valid, the first byte is the
    request's function code, and there are as many words as were asked for. -/
theorem decodeReadRegistersResponse_ok (request : ReadRegistersRequest) (pdu : List UInt8)
    (response : ReadRegistersResponse)
    (h : decodeReadRegistersResponse request pdu = .ok response) :
    pdu.head? = some request.function ∧ response.words.length = request.quantity := by
  unfold decodeReadRegistersResponse at h
  cases hvalid : validateReadRegistersRequest request with
  | error err => simp only [hvalid, reduceCtorEq] at h
  | ok u =>
    simp only [hvalid] at h
    cases pdu with
    | nil => simp only [reduceCtorEq] at h
    | cons received body =>
      by_cases hexception : received = request.function ||| 0x80
      · simp only [if_pos hexception] at h
        split at h <;> simp only [reduceCtorEq] at h
      · by_cases hfunction : received = request.function
        · simp only [if_neg hexception, if_neg (not_not.mpr hfunction)] at h
          cases body with
          | nil => simp only [reduceCtorEq] at h
          | cons count payload =>
            simp only at h
            split_ifs at h with hcount hlength
            simp only [Except.ok.injEq] at h
            subst h
            refine ⟨by rw [List.head?_cons, hfunction], ?_⟩
            rw [wordsOfBytes_length]
            simp only [List.length_cons] at hlength
            omega
        · simp only [if_neg hexception, ne_eq, hfunction, not_false_eq_true, if_true,
            reduceCtorEq] at h

end HelianthusModbus
