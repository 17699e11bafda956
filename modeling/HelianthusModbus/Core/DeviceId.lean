import HelianthusModbus.Core.Pdu

/-!
# Device Identification PDUs

Function code `0x2b` with MEI type `0x0e`: a traversal of identification
objects that spreads over several response pages. The runtime decodes a page in
one of two ways. Strict decoding checks the page against the specification and
refuses anything else. Tolerant decoding keeps every byte, decodes what parses
and names each deviation as an anomaly; it fails only on an exception reply, a
wrong function or MEI type, and a PDU too short for its header.

Both ways page forward through a cursor. A strict continuation must name an
object past the last one of its page. A tolerant continuation must name an
object past the requested one, with a single backward wrap allowed on an
extended stream, and that is what bounds the traversal.

The decoders below walk the list of remaining bytes and carry the absolute
cursor beside it, because the errors name byte positions of the whole PDU.

## Main definitions

* `DeviceIDRequest`: A request with its cursor and stream flags.
* `decodeDeviceIDSegment`: Strict decoding of one page.
* `decodeDeviceIDPage`: Tolerant decoding of one page.
* `nextDeviceIDRequest`, `nextDeviceIDPageRequest`: The two continuations.
* `aggregateDeviceID`: The strict fold over a complete traversal.
* `DeviceIDTolerantTraversal`: The tolerant fold, one page at a time.

## Theorems

* `decodeDeviceIDPage_function`: So does a tolerant one.
-/

namespace HelianthusModbus

def deviceIDMEIType : UInt8 := 0x0e
def maxDeviceIDSegments : Int := 256
def maxDeviceIDObjects : Int := 256
def maxDeviceIDObjectValueBytes : Nat := 244
def maxDeviceIDAggregateBytes : Int := 62464

/-- The largest PDU that tolerant framing reads. -/
def maxTolerantPDUSize : Nat := 4096

abbrev DeviceIDAccess := UInt8

def deviceIDBasic : DeviceIDAccess := 0x01
def deviceIDRegular : DeviceIDAccess := 0x02
def deviceIDExtended : DeviceIDAccess := 0x03
def deviceIDIndividual : DeviceIDAccess := 0x04

abbrev DeviceIDConformity := UInt8

/-- A request for one page. `wrapped` records that an extended stream already
    passed from `0xff` back to `0x00`, so that it cannot do so twice. -/
structure DeviceIDRequest where
  access : DeviceIDAccess := 0
  objectID : UInt8 := 0
  continuation : Bool := false
  extended : Bool := false
  wrapped : Bool := false
  deriving DecidableEq, Repr, Inhabited

structure DeviceIDObject where
  id : UInt8
  value : List UInt8
  deriving DecidableEq, Repr

/-- One strictly decoded page. -/
structure DeviceIDSegment where
  request : DeviceIDRequest
  conformity : DeviceIDConformity
  moreFollows : Bool
  nextObjectID : UInt8
  objects : List DeviceIDObject
  decoded : Bool
  deriving DecidableEq, Repr

/-- Traversal bounds. They are machine integers that a caller supplies, so they
    may be negative before they are validated. -/
structure DeviceIDLimits where
  maxSegments : Int
  maxObjects : Int
  maxValueBytes : Int
  deriving DecidableEq, Repr

structure DeviceIDResult where
  conformity : DeviceIDConformity
  objects : List DeviceIDObject
  segments : List DeviceIDSegment
  deriving DecidableEq, Repr

def defaultDeviceIDLimits : DeviceIDLimits :=
  { maxSegments := maxDeviceIDSegments, maxObjects := maxDeviceIDObjects,
    maxValueBytes := maxDeviceIDAggregateBytes }

def malformedDeviceID (received : FunctionCode) (field : String) (offset : Int) :
    ProtocolError :=
  protocolError .malformedResponse functionEncapsulatedInterface received field offset

/-- The error of a request the runtime refuses to build or to encode. -/
def invalidDeviceID (field : String) (offset : Int) : ProtocolError :=
  protocolError .invalidRequest functionEncapsulatedInterface 0 field offset

def validDeviceIDAccess (access : DeviceIDAccess) : Bool :=
  deviceIDBasic ≤ access && access ≤ deviceIDIndividual

def validateDeviceIDRequest (request : DeviceIDRequest) : Except ProtocolError Unit :=
  if !validDeviceIDAccess request.access then
    .error (invalidDeviceID "read_device_id_code" 2)
  else if request.access = deviceIDIndividual then
    if request.continuation || request.extended || request.wrapped then
      .error (invalidDeviceID "individual_continuation" (-1))
    else .ok ()
  else if request.extended then
    if request.access ≠ deviceIDExtended ∨ (!request.continuation && request.wrapped) then
      .error (invalidDeviceID "extended_stream_cursor" 3)
    else .ok ()
  else if (!request.continuation && request.objectID != 0) ||
      (request.continuation && request.objectID == 0) then
    .error (invalidDeviceID "stream_cursor" 3)
  else .ok ()

def newDeviceIDRequest (access : DeviceIDAccess) (objectID : UInt8) :
    Except ProtocolError DeviceIDRequest :=
  if !validDeviceIDAccess access then
    .error (invalidDeviceID "read_device_id_code" 2)
  else if access ≠ deviceIDIndividual ∧ objectID ≠ 0 then
    .error (invalidDeviceID "initial_cursor" 3)
  else .ok { access := access, objectID := objectID }

def newExtendedDeviceIDStreamRequest (objectID : UInt8) :
    Except ProtocolError DeviceIDRequest :=
  let request : DeviceIDRequest :=
    { access := deviceIDExtended, objectID := objectID, extended := true }
  match validateDeviceIDRequest request with
  | .error err => .error err
  | .ok () => .ok request

namespace DeviceIDRequest

def encodePDU (request : DeviceIDRequest) : Except ProtocolError (List UInt8) :=
  match validateDeviceIDRequest request with
  | .error err => .error err
  | .ok () =>
    .ok [functionEncapsulatedInterface, deviceIDMEIType, request.access, request.objectID]

end DeviceIDRequest

def validDeviceIDConformity (conformity : DeviceIDConformity) : Bool :=
  conformity == 0x01 || conformity == 0x02 || conformity == 0x03 ||
    conformity == 0x81 || conformity == 0x82 || conformity == 0x83

def decodeMoreFollows (value : UInt8) : Option Bool :=
  if value = 0x00 then some false else if value = 0xff then some true else none

def objectAllowedByAccess (objectID : UInt8) (access : DeviceIDAccess) : Bool :=
  if access = deviceIDBasic then objectID ≤ 0x02
  else if access = deviceIDRegular then objectID ≤ 0x06
  else if access = deviceIDExtended then objectID ≤ 0x06 || objectID ≥ 0x80
  else true

def objectAllowedByConformity (objectID : UInt8) (conformity : DeviceIDConformity) : Bool :=
  if conformity &&& 0x7f = 0x01 then objectID ≤ 0x02
  else if conformity &&& 0x7f = 0x02 then objectID ≤ 0x06
  else if conformity &&& 0x7f = 0x03 then objectID ≤ 0x06 || objectID ≥ 0x80
  else false

def reservedObjectID (objectID : UInt8) : Bool :=
  0x07 ≤ objectID && objectID < 0x80

/-- One step of an extended stream: forward, or once from `0xff` to `0x00`. The
    result is the new wrap flag, or nothing if the step is not allowed. -/
def advanceExtendedDeviceIDObject (previous next : UInt8) (wrapped : Bool) : Option Bool :=
  if next > previous then some wrapped
  else if previous = 0xff ∧ next = 0 ∧ wrapped = false then some true
  else none

/-- The loop of `validateExtendedDeviceIDProgress` over the objects of a page.
    It returns the last object id and the wrap flag. -/
def extendedObjectsProgress :
    (previous : UInt8) → (haveObject : Bool) → (encodedSize : Nat) → (seen : List UInt8) →
    (wrapped : Bool) → List DeviceIDObject → Except ProtocolError (UInt8 × Bool)
  | previous, _, _, _, wrapped, [] => .ok (previous, wrapped)
  | previous, haveObject, encodedSize, seen, wrapped, object :: rest =>
    if object.value.length > maxDeviceIDObjectValueBytes then
      .error (malformedDeviceID 0 "object_value_length" (-1))
    else if encodedSize + (2 + object.value.length) > maxPDUSize then
      .error (malformedDeviceID 0 "segment_pdu_length" (-1))
    else if object.id ∈ seen then
      .error (malformedDeviceID 0 "object_progress" (-1))
    else if haveObject = false ∧ object.id = previous then
      extendedObjectsProgress previous true (encodedSize + (2 + object.value.length))
        (object.id :: seen) wrapped rest
    else
      match advanceExtendedDeviceIDObject previous object.id wrapped with
      | none => .error (malformedDeviceID 0 "object_progress" (-1))
      | some nextWrapped =>
        extendedObjectsProgress object.id true (encodedSize + (2 + object.value.length))
          (object.id :: seen) nextWrapped rest

def validateExtendedDeviceIDProgress (segment : DeviceIDSegment) (wrapped : Bool) :
    Except ProtocolError Bool :=
  let request := segment.request
  if request.extended = false ∨ request.access ≠ deviceIDExtended ∨
      segment.conformity &&& 0x7f ≠ deviceIDExtended then
    .error (malformedDeviceID 0 "extended_stream_identity" (-1))
  else
    match extendedObjectsProgress request.objectID false 7 [] wrapped segment.objects with
    | .error err => .error err
    | .ok (previous, wrapped) =>
      if segment.moreFollows then
        match advanceExtendedDeviceIDObject previous segment.nextObjectID wrapped with
        | none => .error (malformedDeviceID 0 "next_object_id" 5)
        | some nextWrapped => .ok nextWrapped
      else .ok wrapped

/-- The object loop of `validateDeviceIDSegment` on a standard stream. The first
    object has no predecessor, so `previous` is an option. -/
def standardObjectsValid (request : DeviceIDRequest) (conformity : DeviceIDConformity) :
    (previous : Option UInt8) → (encodedSize : Nat) → List DeviceIDObject →
    Except ProtocolError Unit
  | _, _, [] => .ok ()
  | previous, encodedSize, object :: rest =>
    if object.value.length > maxDeviceIDObjectValueBytes then
      .error (malformedDeviceID 0 "object_value_length" (-1))
    else if encodedSize + (2 + object.value.length) > maxPDUSize then
      .error (malformedDeviceID 0 "segment_pdu_length" (-1))
    else if previous.any (fun last => object.id ≤ last) then
      .error (malformedDeviceID 0 "object_order" (-1))
    else if reservedObjectID object.id then
      .error (malformedDeviceID 0 "reserved_object_id" (-1))
    else if request.access ≠ deviceIDIndividual ∧
        ((previous = none ∧ object.id < request.objectID) ∨
          objectAllowedByAccess object.id request.access = false) then
      .error (malformedDeviceID 0 "requested_category" (-1))
    else if objectAllowedByConformity object.id conformity = false then
      .error (malformedDeviceID 0 "conformity_category" (-1))
    else
      standardObjectsValid request conformity (some object.id)
        (encodedSize + (2 + object.value.length)) rest

def validateDeviceIDSegment (segment : DeviceIDSegment) : Except ProtocolError Unit :=
  let request := segment.request
  if segment.decoded = false ∨ validateDeviceIDRequest request ≠ .ok () ∨
      validDeviceIDConformity segment.conformity = false then
    .error (malformedDeviceID 0 "segment_identity" (-1))
  else if segment.objects.length > 0xff then
    .error (malformedDeviceID 0 "number_of_objects" 6)
  else if (segment.moreFollows = false ∧ segment.nextObjectID ≠ 0) ∨
      (segment.moreFollows = true ∧ segment.nextObjectID = 0 ∧ request.extended = false) ∨
      (segment.moreFollows = true ∧ segment.objects = []) then
    .error (malformedDeviceID 0 "continuation" (-1))
  else if request.access = deviceIDIndividual ∧
      (segment.conformity &&& 0x80 = 0 ∨ segment.moreFollows = true ∨
        segment.nextObjectID ≠ 0 ∨ segment.objects.map DeviceIDObject.id ≠ [request.objectID]) then
    .error (malformedDeviceID 0 "individual_response" (-1))
  else if request.extended then
    match validateExtendedDeviceIDProgress segment request.wrapped with
    | .error err => .error err
    | .ok _ => .ok ()
  else
    match standardObjectsValid request segment.conformity none 7 segment.objects with
    | .error err => .error err
    | .ok () =>
      if segment.moreFollows then
        match segment.objects.getLast? with
        | none => .ok ()
        | some last =>
          if segment.nextObjectID ≤ last.id ∨ reservedObjectID segment.nextObjectID ∨
              objectAllowedByAccess segment.nextObjectID request.access = false ∨
              objectAllowedByConformity segment.nextObjectID segment.conformity = false then
            .error (malformedDeviceID 0 "next_object_id" (-1))
          else .ok ()
      else .ok ()

def nextDeviceIDRequest (segment : DeviceIDSegment) : Except ProtocolError DeviceIDRequest :=
  match validateDeviceIDSegment segment with
  | .error err => .error err
  | .ok () =>
    if segment.request.access = deviceIDIndividual ∨ segment.moreFollows = false then
      .error (invalidDeviceID "continuation_unavailable" (-1))
    else
      let progress : Except ProtocolError Bool :=
        if segment.request.extended then
          validateExtendedDeviceIDProgress segment segment.request.wrapped
        else .ok segment.request.wrapped
      match progress with
      | .error err => .error err
      | .ok wrapped =>
        .ok { access := segment.request.access, objectID := segment.nextObjectID,
              continuation := true, extended := segment.request.extended,
              wrapped := wrapped }

/-- The object loop of strict decoding. It reads `count` objects and returns the
    cursor and the bytes left over. -/
def decodeDeviceIDObjects (received : FunctionCode) :
    (count cursor : Nat) → List UInt8 →
    Except ProtocolError (List DeviceIDObject × Nat × List UInt8)
  | 0, cursor, rest => .ok ([], cursor, rest)
  | count + 1, cursor, objectID :: valueLength :: rest =>
    if valueLength.toNat > maxDeviceIDObjectValueBytes ∨ valueLength.toNat > rest.length then
      .error (malformedDeviceID received "object_value" (cursor + 2))
    else
      match decodeDeviceIDObjects received count (cursor + 2 + valueLength.toNat)
          (rest.drop valueLength.toNat) with
      | .error err => .error err
      | .ok (objects, tail) =>
        .ok ({ id := objectID, value := rest.take valueLength.toNat } :: objects, tail)
  | _ + 1, cursor, _ => .error (malformedDeviceID received "object_header" cursor)

/-- An exception reply to a Device Identification request. -/
def deviceIDException (received : FunctionCode) (code : UInt8) : ProtocolError :=
  { protocolError .exceptionResponse functionEncapsulatedInterface received "exception_code" 1
    with exceptionCode := code }

def decodeDeviceIDSegment (request : DeviceIDRequest) (pdu : List UInt8) :
    Except ProtocolError DeviceIDSegment :=
  match validateDeviceIDRequest request with
  | .error err => .error err
  | .ok () =>
    match pdu with
    | [] => .error (malformedDeviceID 0 "function" 0)
    | received :: body =>
      if received = functionEncapsulatedInterface ||| 0x80 then
        match body with
        | [code] => .error (deviceIDException received code)
        | _ => .error (malformedDeviceID received "exception_length" pdu.length)
      else
        match body with
        | meiType :: access :: conformity :: moreFollowsByte :: nextObjectID :: count :: rest =>
          if pdu.length > maxPDUSize then
            .error (malformedDeviceID received "response_length" pdu.length)
          else if received ≠ functionEncapsulatedInterface then
            .error (malformedDeviceID received "function_mismatch" 0)
          else if meiType ≠ deviceIDMEIType then
            .error (malformedDeviceID received "mei_type" 1)
          else if access ≠ request.access then
            .error (malformedDeviceID received "read_device_id_code" 2)
          else if validDeviceIDConformity conformity = false then
            .error (malformedDeviceID received "conformity_level" 3)
          else
            match decodeMoreFollows moreFollowsByte with
            | none => .error (malformedDeviceID received "more_follows" 4)
            | some moreFollows =>
              if (moreFollows = false ∧ nextObjectID ≠ 0) ∨
                  (moreFollows = true ∧ nextObjectID = 0 ∧ request.extended = false) then
                .error (malformedDeviceID received "next_object_id" 5)
              else if moreFollows = true ∧ count = 0 then
                .error (malformedDeviceID received "number_of_objects" 6)
              else
                match decodeDeviceIDObjects received count.toNat 7 rest with
                | .error err => .error err
                | .ok (_, cursor, _ :: _) =>
                  .error (malformedDeviceID received "trailing_bytes" cursor)
                | .ok (objects, _, []) =>
                  let segment : DeviceIDSegment :=
                    { request := request, conformity := conformity,
                      moreFollows := moreFollows, nextObjectID := nextObjectID,
                      objects := objects, decoded := true }
                  match validateDeviceIDSegment segment with
                  | .error err => .error err
                  | .ok () => .ok segment
        | _ => .error (malformedDeviceID received "response_length" pdu.length)

def validateDeviceIDLimits (limits : DeviceIDLimits) : Except ProtocolError Unit :=
  if limits.maxSegments < 1 ∨ limits.maxSegments > maxDeviceIDSegments ∨
      limits.maxObjects < 1 ∨ limits.maxObjects > maxDeviceIDObjects ∨
      limits.maxValueBytes < 1 ∨ limits.maxValueBytes > maxDeviceIDAggregateBytes then
    .error (invalidDeviceID "aggregation_limits" (-1))
  else .ok ()

/-- What the strict fold carries from object to object. -/
structure DeviceIDAggregate where
  seen : List UInt8 := []
  objects : List DeviceIDObject := []
  valueBytes : Int := 0
  previousObjectID : Option UInt8 := none
  wrapped : Bool := false
  deriving DecidableEq, Repr

/-- Whether an object may follow the previous one, and the wrap flag after it.
    A refused extended step leaves the flag as it was. -/
def DeviceIDAggregate.progress (aggregate : DeviceIDAggregate) (extended : Bool)
    (objectID : UInt8) : Bool × Bool :=
  match aggregate.previousObjectID with
  | none => (true, aggregate.wrapped)
  | some previous =>
    if extended then
      match advanceExtendedDeviceIDObject previous objectID aggregate.wrapped with
      | some wrapped => (true, wrapped)
      | none => (false, aggregate.wrapped)
    else (previous < objectID, aggregate.wrapped)

/-- The inner loop of `aggregateDeviceID`, over the objects of one segment. -/
def aggregateDeviceIDObjects (limits : DeviceIDLimits) (extended : Bool) :
    DeviceIDAggregate → List DeviceIDObject → Except ProtocolError DeviceIDAggregate
  | aggregate, [] => .ok aggregate
  | aggregate, object :: rest =>
    let progress := aggregate.progress extended object.id
    if object.id ∈ aggregate.seen ∨ progress.1 = false then
      .error (malformedDeviceID 0 "object_progress" (-1))
    else if (aggregate.objects.length : Int) = limits.maxObjects ∨
        (object.value.length : Int) > limits.maxValueBytes - aggregate.valueBytes then
      .error (malformedDeviceID 0 "aggregate_limit" (-1))
    else
      aggregateDeviceIDObjects limits extended
        { seen := object.id :: aggregate.seen, objects := aggregate.objects ++ [object],
          valueBytes := aggregate.valueBytes + object.value.length,
          previousObjectID := some object.id, wrapped := progress.2 } rest

/-- The outer loop of `aggregateDeviceID`. The first segment fixes the
    conformity, and the last one is the one with nothing after it. -/
def aggregateDeviceIDSegments (limits : DeviceIDLimits) (extended : Bool) :
    (expectedRequest : DeviceIDRequest) → (conformity : Option DeviceIDConformity) →
    DeviceIDAggregate → List DeviceIDSegment →
    Except ProtocolError (DeviceIDAggregate × DeviceIDConformity)
  | _, conformity, aggregate, [] => .ok (aggregate, conformity.getD 0)
  | expectedRequest, conformity, aggregate, segment :: rest =>
    if segment.request ≠ expectedRequest then
      .error (malformedDeviceID 0 "continuation_request" (-1))
    else
      match validateDeviceIDSegment segment with
      | .error err => .error err
      | .ok () =>
        if conformity.any (fun first => segment.conformity ≠ first) then
          .error (malformedDeviceID 0 "conformity_change" 3)
        else
          match aggregateDeviceIDObjects limits extended aggregate segment.objects with
          | .error err => .error err
          | .ok aggregate =>
            let conformity := conformity.getD segment.conformity
            if segment.moreFollows then
              if rest = [] then
                .error (malformedDeviceID 0 "missing_continuation" (-1))
              else
                match nextDeviceIDRequest segment with
                | .error err => .error err
                | .ok next =>
                  aggregateDeviceIDSegments limits extended next (some conformity)
                    aggregate rest
            else if rest ≠ [] then
              .error (malformedDeviceID 0 "trailing_segment" (-1))
            else .ok (aggregate, conformity)

def aggregateDeviceIDStream (firstRequest : DeviceIDRequest) (segments : List DeviceIDSegment)
    (limits : DeviceIDLimits) (extended : Bool) : Except ProtocolError DeviceIDResult :=
  match validateDeviceIDLimits limits with
  | .error err => .error err
  | .ok () =>
    let standardInvalid :=
      firstRequest.access == deviceIDIndividual || !validDeviceIDAccess firstRequest.access ||
        firstRequest.objectID != 0 || firstRequest.extended
    let extendedInvalid :=
      firstRequest.access != deviceIDExtended || !firstRequest.extended ||
        firstRequest.continuation || firstRequest.wrapped
    if (!extended && standardInvalid) || (extended && extendedInvalid) then
      .error (invalidDeviceID "initial_cursor" 3)
    else if segments = [] ∨ (segments.length : Int) > limits.maxSegments then
      .error (malformedDeviceID 0 "segment_count" (-1))
    else
      match aggregateDeviceIDSegments limits extended firstRequest none {} segments with
      | .error err => .error err
      | .ok (aggregate, conformity) =>
        if !extended && !([0, 1, 2].all fun objectID => aggregate.seen.contains objectID) then
          .error (malformedDeviceID 0 "mandatory_basic_object" (-1))
        else
          .ok { conformity := conformity, objects := aggregate.objects, segments := segments }

def aggregateDeviceID (firstRequest : DeviceIDRequest) (segments : List DeviceIDSegment)
    (limits : DeviceIDLimits) : Except ProtocolError DeviceIDResult :=
  aggregateDeviceIDStream firstRequest segments limits false

def aggregateExtendedDeviceIDStream (firstRequest : DeviceIDRequest)
    (segments : List DeviceIDSegment) (limits : DeviceIDLimits) :
    Except ProtocolError DeviceIDResult :=
  aggregateDeviceIDStream firstRequest segments limits true

/-- How the pages of a traversal are decoded. Strict is the Go zero value. -/
inductive DeviceIDDecoding where
  | strict
  | tolerant
  deriving DecidableEq, Repr

instance : Inhabited DeviceIDDecoding := ⟨.strict⟩

/-- The deviations that tolerant decoding names. The first fifteen describe one
    page, the rest describe the page sequence. -/
inductive DeviceIDAnomaly where
  | oversizePage
  | countOnlyPage
  | objectCountMismatch
  | objectOutsideCategory
  | objectOutsideConformity
  | reservedObjectID
  | oversizeObjectValue
  | objectOrder
  | duplicateObject
  | truncatedObject
  | accessCodeMismatch
  | conformityValue
  | moreFollowsValue
  | nextObjectWithoutMoreFollows
  | moreFollowsWithoutProgress
  | conformityChange
  | mandatoryObjectMissing
  | continuationUnavailable
  | pageLimitReached
  | aggregateLimitReached
  deriving DecidableEq, Repr

/-- A set of anomalies in first-seen order. -/
abbrev DeviceIDAnomalySet := List DeviceIDAnomaly

def DeviceIDAnomalySet.add (set : DeviceIDAnomalySet) (anomaly : DeviceIDAnomaly) :
    DeviceIDAnomalySet :=
  if anomaly ∈ set then set else set ++ [anomaly]

/-- Adding an anomaly when a check finds it. -/
def DeviceIDAnomalySet.addIf (set : DeviceIDAnomalySet) (found : Bool)
    (anomaly : DeviceIDAnomaly) : DeviceIDAnomalySet :=
  if found then DeviceIDAnomalySet.add set anomaly else set

/-- One tolerantly decoded page. `pdu` keeps every received byte. -/
structure DeviceIDPage where
  request : DeviceIDRequest := {}
  pdu : List UInt8 := []
  accessCode : DeviceIDAccess := 0
  conformity : DeviceIDConformity := 0
  moreFollowsValue : UInt8 := 0
  nextObjectID : UInt8 := 0
  declaredObjects : Nat := 0
  objects : List DeviceIDObject := []
  undecodedOffset : Nat := 0
  anomalies : DeviceIDAnomalySet := []
  deriving DecidableEq, Repr

def DeviceIDPage.moreFollows (page : DeviceIDPage) : Bool :=
  page.moreFollowsValue != 0

def deviceIDPageCursorAdvances (last next : UInt8) (extended : Bool) : Bool :=
  last < next || (extended && last == 0xff && next == 0x00)

structure DeviceIDPageScan where
  cursor : Nat := 7
  objects : List DeviceIDObject := []
  anomalies : DeviceIDAnomalySet := []
  deriving DecidableEq, Repr

/-- Reading one object in tolerant decoding: the anomalies it shows, in the order
    the source tests for them, and the object itself. -/
def DeviceIDPageScan.read (scan : DeviceIDPageScan) (request : DeviceIDRequest)
    (conformity : DeviceIDConformity) (object : DeviceIDObject) : DeviceIDPageScan :=
  let anomalies := scan.anomalies
    |>.addIf (object.value.length > maxDeviceIDObjectValueBytes) .oversizeObjectValue
    |>.addIf (scan.objects.any fun earlier => earlier.id == object.id) .duplicateObject
    |>.addIf (scan.objects.getLast?.any fun previous =>
        !deviceIDPageCursorAdvances previous.id object.id request.extended) .objectOrder
    |>.addIf (HelianthusModbus.reservedObjectID object.id) .reservedObjectID
    |>.addIf ((request.access == deviceIDIndividual && object.id != request.objectID) ||
        (request.access != deviceIDIndividual &&
          !objectAllowedByAccess object.id request.access)) .objectOutsideCategory
    |>.addIf (validDeviceIDConformity conformity &&
        !objectAllowedByConformity object.id conformity) .objectOutsideConformity
  { cursor := scan.cursor + 2 + object.value.length, objects := scan.objects ++ [object],
    anomalies := anomalies }

/-- The object loop of tolerant decoding. Every turn consumes at least the two
    header bytes, so the length of the remaining bytes is enough fuel. -/
def scanDeviceIDPage (request : DeviceIDRequest) (conformity : DeviceIDConformity) :
    (fuel : Nat) → DeviceIDPageScan → List UInt8 → DeviceIDPageScan
  | _, scan, [] => scan
  | 0, scan, _ => scan
  | _ + 1, scan, [_] =>
    { scan with anomalies := DeviceIDAnomalySet.add scan.anomalies .truncatedObject }
  | fuel + 1, scan, objectID :: valueLength :: rest =>
    if valueLength.toNat > rest.length then
      { scan with anomalies := DeviceIDAnomalySet.add scan.anomalies .truncatedObject }
    else
      scanDeviceIDPage request conformity fuel
        (scan.read request conformity
          { id := objectID, value := rest.take valueLength.toNat })
        (rest.drop valueLength.toNat)

/-- Tolerant decoding. A failed decode still returns a page with every byte. -/
def decodeDeviceIDPage (request : DeviceIDRequest) (pdu : List UInt8) :
    DeviceIDPage × Option ProtocolError :=
  match validateDeviceIDRequest request with
  | .error err => ({}, some err)
  | .ok () =>
    let page : DeviceIDPage := { request := request, pdu := pdu }
    match pdu with
    | [] => (page, some (malformedDeviceID 0 "function" 0))
    | received :: body =>
      if received = functionEncapsulatedInterface ||| 0x80 then
        match body with
        | [code] => (page, some (deviceIDException received code))
        | _ => (page, some (malformedDeviceID received "exception_length" pdu.length))
      else if received ≠ functionEncapsulatedInterface then
        (page, some (malformedDeviceID received "function_mismatch" 0))
      else
        match body with
        | meiType :: access :: conformity :: moreFollowsByte :: nextObjectID :: count :: rest =>
          if pdu.length > maxTolerantPDUSize then
            (page, some (malformedDeviceID received "response_length" pdu.length))
          else if meiType ≠ deviceIDMEIType then
            (page, some (malformedDeviceID received "mei_type" 1))
          else
            let moreFollows := moreFollowsByte != 0
            let header : DeviceIDAnomalySet :=
              DeviceIDAnomalySet.addIf [] (pdu.length > maxPDUSize) .oversizePage
              |>.addIf (access != request.access) .accessCodeMismatch
              |>.addIf (!validDeviceIDConformity conformity) .conformityValue
              |>.addIf (moreFollowsByte != 0x00 && moreFollowsByte != 0xff) .moreFollowsValue
              |>.addIf (!moreFollows && nextObjectID != 0) .nextObjectWithoutMoreFollows
            let scan := scanDeviceIDPage request conformity rest.length
              { anomalies := header } rest
            let anomalies := scan.anomalies
              |>.addIf (count.toNat != scan.objects.length) .objectCountMismatch
              |>.addIf (scan.objects.length == 1 &&
                  scan.objects.all (fun object => object.value.length == 1) &&
                  count.toNat > scan.objects.length) .countOnlyPage
              |>.addIf (moreFollows && (scan.objects.getLast?.all fun last =>
                  !deviceIDPageCursorAdvances last.id nextObjectID request.extended))
                  .moreFollowsWithoutProgress
            ({ page with
                accessCode := access, conformity := conformity,
                moreFollowsValue := moreFollowsByte, nextObjectID := nextObjectID,
                declaredObjects := count.toNat, objects := scan.objects,
                undecodedOffset := scan.cursor, anomalies := anomalies }, none)
        | _ => (page, some (malformedDeviceID received "response_length" pdu.length))

/-- The continuation of an already decoded page. -/
def continueDeviceIDPage (page : DeviceIDPage) : Except ProtocolError DeviceIDRequest :=
  let request := page.request
  if request.access = deviceIDIndividual ∨ page.moreFollows = false then
    .error (invalidDeviceID "continuation_unavailable" (-1))
  else
    let next : DeviceIDRequest :=
      { access := request.access, objectID := page.nextObjectID, continuation := true,
        extended := request.extended, wrapped := request.wrapped }
    let advanced : Option DeviceIDRequest :=
      if request.objectID < page.nextObjectID then some next
      else if request.extended = true ∧ request.wrapped = false ∧
          page.nextObjectID < request.objectID then some { next with wrapped := true }
      else none
    match advanced with
    | none => .error (malformedDeviceID 0 "next_object_id" 5)
    | some next =>
      match validateDeviceIDRequest next with
      | .error err => .error err
      | .ok () => .ok next

/-- The exported continuation decodes the page again, so only the received bytes
    decide it. -/
def nextDeviceIDPageRequest (page : DeviceIDPage) : Except ProtocolError DeviceIDRequest :=
  match decodeDeviceIDPage page.request page.pdu with
  | (_, some err) => .error err
  | (decoded, none) => continueDeviceIDPage decoded

structure DeviceIDTolerantResult where
  complete : Bool := false
  conformity : DeviceIDConformity := 0
  objects : List DeviceIDObject := []
  pages : List DeviceIDPage := []
  anomalies : DeviceIDAnomalySet := []
  deriving DecidableEq, Repr

/-- The running state of a tolerant traversal. -/
structure DeviceIDTolerantTraversal where
  limits : DeviceIDLimits
  expected : DeviceIDRequest
  result : DeviceIDTolerantResult := {}
  anomalies : DeviceIDAnomalySet := []
  seen : List UInt8 := []
  valueBytes : Int := 0
  closed : Bool := false
  deriving DecidableEq, Repr

def newDeviceIDTolerantTraversal (firstRequest : DeviceIDRequest) (limits : DeviceIDLimits) :
    Except ProtocolError DeviceIDTolerantTraversal :=
  match validateDeviceIDLimits limits with
  | .error err => .error err
  | .ok () =>
    if validateDeviceIDRequest firstRequest ≠ .ok () ∨ firstRequest.continuation = true ∨
        firstRequest.wrapped = true then
      .error (invalidDeviceID "initial_cursor" 3)
    else .ok { limits := limits, expected := firstRequest }

namespace DeviceIDTolerantTraversal

def close (traversal : DeviceIDTolerantTraversal) (complete : Bool) :
    DeviceIDTolerantTraversal :=
  let first := (traversal.result.pages.head?.map DeviceIDPage.request).getD {}
  let missing := !first.extended && first.access != deviceIDIndividual &&
    !([0, 1, 2].all fun objectID => traversal.seen.contains objectID)
  { traversal with
    closed := true
    result := { traversal.result with complete := complete }
    anomalies := traversal.anomalies.addIf missing .mandatoryObjectMissing }

/-- The object loop of `add`. The flag says that a limit closed the traversal,
    which ends the loop. -/
def addObjects : DeviceIDTolerantTraversal → List DeviceIDObject →
    DeviceIDTolerantTraversal × Bool
  | traversal, [] => (traversal, false)
  | traversal, object :: rest =>
    if object.id ∈ traversal.seen then
      addObjects
        { traversal with anomalies := traversal.anomalies.add .duplicateObject } rest
    else if (traversal.result.objects.length : Int) = traversal.limits.maxObjects ∨
        (object.value.length : Int) > traversal.limits.maxValueBytes - traversal.valueBytes then
      (close { traversal with anomalies := traversal.anomalies.add .aggregateLimitReached }
        false, true)
    else
      addObjects
        { traversal with
          seen := object.id :: traversal.seen
          valueBytes := traversal.valueBytes + object.value.length
          result := { traversal.result with
            objects := traversal.result.objects ++ [object] } } rest

/-- Folding the next page. Afterwards the traversal is closed, or it expects
    `expected` as the next request. -/
def add (traversal : DeviceIDTolerantTraversal) (page : DeviceIDPage) :
    Except ProtocolError DeviceIDTolerantTraversal :=
  if traversal.closed then .error (malformedDeviceID 0 "trailing_segment" (-1))
  else if page.request ≠ traversal.expected then
    .error (malformedDeviceID 0 "continuation_request" (-1))
  else
    match decodeDeviceIDPage page.request page.pdu with
    | (_, some err) => .error err
    | (decoded, none) =>
      let first := traversal.result.pages.isEmpty
      let conformity := if first then decoded.conformity else traversal.result.conformity
      let anomalies := decoded.anomalies.foldl DeviceIDAnomalySet.add
        (traversal.anomalies.addIf (decoded.conformity != conformity) .conformityChange)
      let added := addObjects
        { traversal with
          anomalies := anomalies
          result := { traversal.result with
            conformity := conformity
            pages := traversal.result.pages ++ [decoded] } } decoded.objects
      if added.2 then .ok added.1
      else if decoded.moreFollows = false then .ok (close added.1 true)
      else
        match continueDeviceIDPage decoded with
        | .error _ =>
          .ok (close { added.1 with
            anomalies := added.1.anomalies.add .continuationUnavailable } false)
        | .ok next =>
          if (added.1.result.pages.length : Int) = added.1.limits.maxSegments then
            .ok (close { added.1 with
              anomalies := added.1.anomalies.add .pageLimitReached } false)
          else .ok { added.1 with expected := next }

def finish (traversal : DeviceIDTolerantTraversal) :
    Except ProtocolError DeviceIDTolerantResult :=
  if traversal.closed then .ok { traversal.result with anomalies := traversal.anomalies }
  else .error (malformedDeviceID 0 "missing_continuation" (-1))

end DeviceIDTolerantTraversal

def aggregateTolerantDeviceID (firstRequest : DeviceIDRequest) (pages : List DeviceIDPage)
    (limits : DeviceIDLimits) : Except ProtocolError DeviceIDTolerantResult :=
  match newDeviceIDTolerantTraversal firstRequest limits with
  | .error err => .error err
  | .ok traversal =>
    if pages = [] ∨ (pages.length : Int) > limits.maxSegments then
      .error (malformedDeviceID 0 "segment_count" (-1))
    else
      match pages.foldlM DeviceIDTolerantTraversal.add traversal with
      | .error err => .error err
      | .ok traversal => traversal.finish

/-- A strict page that decodes starts with the Device Identification function
    code: the check stands between the length and the MEI type. -/
theorem decodeDeviceIDSegment_function (request : DeviceIDRequest) (pdu : List UInt8)
    (segment : DeviceIDSegment) (h : decodeDeviceIDSegment request pdu = .ok segment) :
    pdu.head? = some functionEncapsulatedInterface := by
  unfold decodeDeviceIDSegment at h
  split at h
  · simp only [reduceCtorEq] at h
  split at h
  · simp only [reduceCtorEq] at h
  split at h
  · split at h <;> simp only [reduceCtorEq] at h
  split at h
  · split at h
    · simp only [reduceCtorEq] at h
    split at h
    · simp only [reduceCtorEq] at h
    · rename_i hfunction
      rw [List.head?_cons, not_not.mp hfunction]
  · simp only [reduceCtorEq] at h

theorem decodeDeviceIDPage_function (request : DeviceIDRequest) (pdu : List UInt8)
    (h : (decodeDeviceIDPage request pdu).2 = none) :
    pdu.head? = some functionEncapsulatedInterface := by
  unfold decodeDeviceIDPage at h
  split at h
  · simp only [reduceCtorEq] at h
  split at h
  · simp only [reduceCtorEq] at h
  split at h
  · split at h <;> simp only [reduceCtorEq] at h
  split at h
  · simp only [reduceCtorEq] at h
  · rename_i hfunction
    rw [List.head?_cons, not_not.mp hfunction]

end HelianthusModbus
