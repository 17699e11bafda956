import HelianthusModbus.Theory.DeviceIdPages

/-!
# The Bytes of a Device Identification Page

Strict decoding reads a page in two passes. The parser follows the lengths inside the
bytes, and a validator that never sees the bytes adds the size of the page up again from
the objects. What both accept is a grammar: the encodings of the valid segments, each of
them the encoding of one segment only.

Tolerant decoding has no grammar to check against. It keeps what it cannot read, so its
law is one of conservation: the header, the objects and the bytes behind them are the page.

## Main definitions

* `DeviceIDObject.encode`, `DeviceIDSegment.encode`: The bytes of an object and of a page.

## Theorems

* `validateDeviceIDSegment_fits`: A valid segment fits in a PDU.
* `strict_page_grammar`: Strict decoding accepts the encodings of valid segments.
* `tolerant_page_accounts`: A tolerant page accounts for every byte.
-/

namespace HelianthusModbus

/-- The bytes of an object: its id, the length of its value, and the value. -/
def DeviceIDObject.encode (object : DeviceIDObject) : List UInt8 :=
  object.id :: UInt8.ofNat object.value.length :: object.value

/-- The bytes of a page. -/
def DeviceIDSegment.encode (segment : DeviceIDSegment) : List UInt8 :=
  [functionEncapsulatedInterface, deviceIDMEIType, segment.request.access, segment.conformity,
    if segment.moreFollows then 0xff else 0x00, segment.nextObjectID,
    UInt8.ofNat segment.objects.length] ++ segment.objects.flatMap DeviceIDObject.encode

/-- The object loop of strict decoding reads exactly the encodings of so many objects. -/
theorem decodeDeviceIDObjects_ok_iff (received : FunctionCode) (count cursor : Nat)
    (bytes : List UInt8) (objects : List DeviceIDObject) :
    (∃ last, decodeDeviceIDObjects received count cursor bytes = .ok (objects, last, [])) ↔
      objects.length = count ∧ bytes = objects.flatMap DeviceIDObject.encode ∧
        ∀ object ∈ objects, object.value.length ≤ maxDeviceIDObjectValueBytes := by
  induction count generalizing cursor bytes objects with
  | zero =>
    simp only [decodeDeviceIDObjects, Except.ok.injEq, Prod.mk.injEq, exists_and_left,
      exists_eq_left', List.length_eq_zero_iff]
    constructor
    · rintro ⟨rfl, rfl⟩
      simp
    · rintro ⟨rfl, rfl, _⟩
      simp
  | succ count ih =>
    constructor
    · rintro ⟨last, h⟩
      rcases bytes with _ | ⟨objectID, _ | ⟨valueLength, rest⟩⟩
      · simp [decodeDeviceIDObjects] at h
      · simp [decodeDeviceIDObjects] at h
      · simp only [decodeDeviceIDObjects] at h
        split_ifs at h with hlong
        split at h
        · cases h
        next more tail hmore =>
          simp only [Except.ok.injEq, Prod.mk.injEq] at h
          rcases h with ⟨rfl, rfl⟩
          rcases (ih _ _ more).mp ⟨last, hmore⟩ with ⟨hcount, hrest, hvalues⟩
          have hlength : (rest.take valueLength.toNat).length = valueLength.toNat := by
            rw [List.length_take]
            omega
          refine ⟨by simp [hcount], ?_, ?_⟩
          · rw [List.flatMap_cons, ← hrest, DeviceIDObject.encode, hlength]
            simp
          · simp only [List.forall_mem_cons]
            exact ⟨by omega, hvalues⟩
    · rintro ⟨hcount, rfl, hvalues⟩
      rcases objects with _ | ⟨object, more⟩
      · simp at hcount
      · simp only [List.length_cons, Nat.add_right_cancel_iff] at hcount
        rw [List.forall_mem_cons] at hvalues
        have hvalue := hvalues.1
        unfold maxDeviceIDObjectValueBytes at hvalue
        -- A value that is not too long has its length in one byte.
        have hlength : (UInt8.ofNat object.value.length).toNat = object.value.length := by
          rw [UInt8.toNat_ofNat']
          omega
        rcases (ih (cursor + 2 + object.value.length)
          (more.flatMap DeviceIDObject.encode) more).mpr ⟨hcount, rfl, hvalues.2⟩ with
          ⟨last, hmore⟩
        refine ⟨last, ?_⟩
        simp only [List.flatMap_cons, DeviceIDObject.encode, List.cons_append,
          decodeDeviceIDObjects, hlength, List.drop_left, hmore, List.take_left]
        rw [if_neg]
        simp only [List.length_append, maxDeviceIDObjectValueBytes]
        omega

theorem DeviceIDObject.encode_length (object : DeviceIDObject) :
    object.encode.length = 2 + object.value.length := by
  simp only [DeviceIDObject.encode, List.length_cons]
  omega

theorem standardObjectsValid_size (request : DeviceIDRequest) (conformity : DeviceIDConformity)
    (previous : Option UInt8) (encodedSize : Nat) (objects : List DeviceIDObject)
    (hsize : encodedSize ≤ maxPDUSize)
    (h : standardObjectsValid request conformity previous encodedSize objects = .ok ()) :
    (∀ object ∈ objects, object.value.length ≤ maxDeviceIDObjectValueBytes) ∧
      encodedSize + (objects.flatMap DeviceIDObject.encode).length ≤ maxPDUSize := by
  induction objects generalizing previous encodedSize with
  | nil => simpa using hsize
  | cons object rest ih =>
    simp only [standardObjectsValid] at h
    split_ifs at h with hvalue hroom
    rcases ih _ _ (Nat.not_lt.mp hroom) h with ⟨hvalues, htotal⟩
    simp only [List.forall_mem_cons, List.flatMap_cons, List.length_append,
      DeviceIDObject.encode_length]
    exact ⟨⟨Nat.not_lt.mp hvalue, hvalues⟩, by omega⟩

theorem extendedObjectsProgress_size (previous last : UInt8) (haveObject : Bool)
    (encodedSize : Nat) (seen : List UInt8) (wrapped after : Bool) (objects : List DeviceIDObject)
    (hsize : encodedSize ≤ maxPDUSize)
    (h : extendedObjectsProgress previous haveObject encodedSize seen wrapped objects =
      .ok (last, after)) :
    (∀ object ∈ objects, object.value.length ≤ maxDeviceIDObjectValueBytes) ∧
      encodedSize + (objects.flatMap DeviceIDObject.encode).length ≤ maxPDUSize := by
  induction objects generalizing previous haveObject encodedSize seen wrapped with
  | nil => simpa using hsize
  | cons object rest ih =>
    simp only [extendedObjectsProgress] at h
    simp only [List.forall_mem_cons, List.flatMap_cons, List.length_append,
      DeviceIDObject.encode_length]
    split_ifs at h with hvalue hroom
    · rcases ih _ _ _ _ _ (Nat.not_lt.mp hroom) h with ⟨hvalues, htotal⟩
      exact ⟨⟨Nat.not_lt.mp hvalue, hvalues⟩, by omega⟩
    · split at h
      · cases h
      · rcases ih _ _ _ _ _ (Nat.not_lt.mp hroom) h with ⟨hvalues, htotal⟩
        exact ⟨⟨Nat.not_lt.mp hvalue, hvalues⟩, by omega⟩

/-- What the parser needs to know of a valid segment. -/
structure DeviceIDSegment.Fits (segment : DeviceIDSegment) : Prop where
  decoded : segment.decoded = true
  request : validateDeviceIDRequest segment.request = .ok ()
  conformity : validDeviceIDConformity segment.conformity = true
  count : segment.objects.length ≤ 0xff
  last : segment.moreFollows = false → segment.nextObjectID = 0
  more : segment.moreFollows = true → segment.objects ≠ [] ∧
    (segment.nextObjectID = 0 → segment.request.extended = true)
  values : ∀ object ∈ segment.objects, object.value.length ≤ maxDeviceIDObjectValueBytes
  size : segment.encode.length ≤ maxPDUSize

theorem validateDeviceIDSegment_fits (segment : DeviceIDSegment)
    (h : validateDeviceIDSegment segment = .ok ()) : segment.Fits := by
  have hsizes : (∀ object ∈ segment.objects,
      object.value.length ≤ maxDeviceIDObjectValueBytes) ∧
      7 + (segment.objects.flatMap DeviceIDObject.encode).length ≤ maxPDUSize := by
    by_cases hextended : segment.request.extended = true
    · rcases validateDeviceIDSegment_extended segment hextended h with ⟨after, hprogress, _⟩
      rcases validateExtendedDeviceIDProgress_split segment _ after hprogress with
        ⟨last, middle, hobjects, _⟩
      exact extendedObjectsProgress_size _ _ _ 7 _ _ _ _ (by decide) hobjects
    · rw [Bool.not_eq_true] at hextended
      rcases validateDeviceIDSegment_standard segment hextended h with ⟨_, hobjects, _⟩
      exact standardObjectsValid_size _ _ _ 7 _ (by decide) hobjects
  have hlength : segment.encode.length =
      7 + (segment.objects.flatMap DeviceIDObject.encode).length := by
    simp only [DeviceIDSegment.encode, List.length_append, List.length_cons, List.length_nil]
  unfold validateDeviceIDSegment at h
  simp only at h
  split_ifs at h with hidentity hcount hcontinuation
  all_goals
    push Not at hidentity hcontinuation
    rcases hidentity with ⟨hdecoded, hrequest, hconformity⟩
    rcases hcontinuation with ⟨hlast, hzero, hsome⟩
    exact ⟨by simpa using hdecoded, hrequest, by simpa using hconformity, Nat.not_lt.mp hcount,
      hlast, fun hmore => ⟨hsome hmore, fun hnext => by simpa using hzero hmore hnext⟩,
      hsizes.1, hlength ▸ hsizes.2⟩

theorem decodeDeviceIDSegment_encode (segment : DeviceIDSegment)
    (h : validateDeviceIDSegment segment = .ok ()) :
    decodeDeviceIDSegment segment.request segment.encode = .ok segment := by
  have hfits := validateDeviceIDSegment_fits segment h
  have hcount : (UInt8.ofNat segment.objects.length).toNat = segment.objects.length := by
    have hle := hfits.count
    rw [UInt8.toNat_ofNat']
    omega
  have hsize := hfits.size
  rcases (decodeDeviceIDObjects_ok_iff functionEncapsulatedInterface segment.objects.length 7
    (segment.objects.flatMap DeviceIDObject.encode) segment.objects).mpr
    ⟨rfl, rfl, hfits.values⟩ with ⟨last, hobjects⟩
  have hnext : ¬((segment.moreFollows = false ∧ segment.nextObjectID ≠ 0) ∨
      (segment.moreFollows = true ∧ segment.nextObjectID = 0 ∧
        segment.request.extended = false)) := by
    rintro (⟨hlast, hne⟩ | ⟨hmore, hzero, hstandard⟩)
    · exact hne (hfits.last hlast)
    · rw [(hfits.more hmore).2 hzero] at hstandard
      cases hstandard
  have hnonempty : ¬(segment.moreFollows = true ∧
      UInt8.ofNat segment.objects.length = 0) := by
    rintro ⟨hmore, hzero⟩
    rw [hzero] at hcount
    exact (hfits.more hmore).1 (List.length_eq_zero_iff.mp hcount.symm)
  have hsegment : { segment with decoded := true } = segment := by
    rw [← hfits.decoded]
  simp only [DeviceIDSegment.encode, List.cons_append, List.nil_append] at hsize ⊢
  unfold decodeDeviceIDSegment
  simp only [hfits.request]
  rw [if_neg (by decide), if_neg (Nat.not_lt.mpr hsize), if_neg (by simp), if_neg (by simp),
    if_neg (by simp), if_neg (by simp [hfits.conformity])]
  simp only [(decodeMoreFollows_eq_some _ _).mpr rfl]
  rw [if_neg hnext, if_neg hnonempty, hcount, hobjects]
  simp [hsegment, h]

theorem encode_of_decodeDeviceIDSegment (request : DeviceIDRequest) (pdu : List UInt8)
    (segment : DeviceIDSegment) (h : decodeDeviceIDSegment request pdu = .ok segment) :
    pdu = segment.encode := by
  rcases decodeDeviceIDSegment_ok request pdu segment h with ⟨moreByte, count, rest, hbytes⟩
  rcases (decodeDeviceIDObjects_ok_iff _ _ _ _ _).mp hbytes.objects with ⟨hcount, hrest, _⟩
  have hmore := (decodeMoreFollows_eq_some _ _).mp hbytes.more
  rw [hbytes.bytes, DeviceIDSegment.encode, hbytes.asked, hcount, UInt8.ofNat_toNat, ← hmore,
    ← hrest]
  rfl

/-- Strict decoding accepts exactly the encodings of the valid segments of its request, and
    returns the segment. So encoding it again gives the same bytes, no two byte strings
    decode to one segment, and every valid segment fits in a PDU. -/
theorem strict_page_grammar (request : DeviceIDRequest) :
    (∀ pdu segment, decodeDeviceIDSegment request pdu = .ok segment ↔
      segment.request = request ∧ validateDeviceIDSegment segment = .ok () ∧
        pdu = segment.encode) ∧
    (∀ pdu segment, decodeDeviceIDSegment request pdu = .ok segment → segment.encode = pdu) ∧
    (∀ pdu pdu' segment, decodeDeviceIDSegment request pdu = .ok segment →
      decodeDeviceIDSegment request pdu' = .ok segment → pdu = pdu') ∧
    ∀ segment, segment.request = request → validateDeviceIDSegment segment = .ok () →
      segment.encode.length ≤ maxPDUSize := by
  refine ⟨fun pdu segment => ⟨fun h => ?_, ?_⟩, fun pdu segment h => ?_,
    fun pdu pdu' segment h h' => ?_, fun segment _ h => ?_⟩
  · rcases decodeDeviceIDSegment_ok request pdu segment h with ⟨_, _, _, hbytes⟩
    exact ⟨hbytes.asked, hbytes.checked, encode_of_decodeDeviceIDSegment request pdu segment h⟩
  · rintro ⟨rfl, hvalid, rfl⟩
    exact decodeDeviceIDSegment_encode segment hvalid
  · exact (encode_of_decodeDeviceIDSegment request pdu segment h).symm
  · rw [encode_of_decodeDeviceIDSegment request pdu segment h,
      encode_of_decodeDeviceIDSegment request pdu' segment h']
  · exact (validateDeviceIDSegment_fits segment h).size

namespace DeviceIDAnomalySet

variable (set : DeviceIDAnomalySet) (anomaly other : DeviceIDAnomaly) (found : Bool)

@[simp] theorem mem_add : other ∈ set.add anomaly ↔ other ∈ set ∨ other = anomaly := by
  unfold add
  split_ifs with hmem
  · exact ⟨Or.inl, fun h => h.elim id fun heq => heq ▸ hmem⟩
  · simp

@[simp] theorem mem_addIf :
    other ∈ set.addIf found anomaly ↔ other ∈ set ∨ (found = true ∧ other = anomaly) := by
  cases found <;> simp [addIf]

variable {set}

theorem nodup_add (h : set.Nodup) : (set.add anomaly).Nodup := by
  unfold add
  split_ifs with hmem
  · exact h
  · refine List.nodup_append.mpr ⟨h, by simp, fun earlier hearlier _ hlast heq => ?_⟩
    rw [List.mem_singleton.mp hlast] at heq
    exact hmem (heq ▸ hearlier)

theorem nodup_addIf (h : set.Nodup) : (set.addIf found anomaly).Nodup := by
  unfold addIf
  split_ifs
  · exact nodup_add anomaly h
  · exact h

end DeviceIDAnomalySet

/-- A whole object starts at the front of some bytes. -/
def CompleteObjectAt (bytes : List UInt8) : Prop :=
  ∃ object : DeviceIDObject, object.value.length < 256 ∧ object.encode <+: bytes

/-- Bytes of which the first two announce a value that is not there. -/
theorem not_completeObjectAt (objectID valueLength : UInt8) (rest : List UInt8)
    (h : rest.length < valueLength.toNat) :
    ¬ CompleteObjectAt (objectID :: valueLength :: rest) := by
  rintro ⟨object, hlength, hbytes⟩
  simp only [DeviceIDObject.encode, List.cons_prefix_cons] at hbytes
  rcases hbytes with ⟨_, rfl, hvalue⟩
  rw [UInt8.toNat_ofNat'] at h
  have := hvalue.length_le
  omega

/-- What the object loop of tolerant decoding reads, and what it leaves. -/
structure ScannedTo (scan after : DeviceIDPageScan) (read : List DeviceIDObject)
    (left : List UInt8) : Prop where
  objects : after.objects = scan.objects ++ read
  cursor : after.cursor = scan.cursor + (read.flatMap DeviceIDObject.encode).length
  stuck : ¬ CompleteObjectAt left
  truncated : .truncatedObject ∈ after.anomalies ↔
    .truncatedObject ∈ scan.anomalies ∨ left ≠ []
  counted : .objectCountMismatch ∈ after.anomalies ↔ .objectCountMismatch ∈ scan.anomalies
  nodup : scan.anomalies.Nodup → after.anomalies.Nodup

/-- The loop stops with an anomaly before bytes that hold no whole object. -/
theorem ScannedTo.stopped (scan : DeviceIDPageScan) (left : List UInt8) (hleft : left ≠ [])
    (hstuck : ¬ CompleteObjectAt left) :
    ScannedTo scan { scan with anomalies := scan.anomalies.add .truncatedObject } [] left where
  objects := by simp
  cursor := by simp
  stuck := hstuck
  truncated := by simp [hleft]
  counted := by simp
  nodup := DeviceIDAnomalySet.nodup_add _

theorem ScannedTo.read {scan after : DeviceIDPageScan} {request : DeviceIDRequest}
    {conformity : DeviceIDConformity} {object : DeviceIDObject} {read : List DeviceIDObject}
    {left : List UInt8} (h : ScannedTo (scan.read request conformity object) after read left) :
    ScannedTo scan after (object :: read) left where
  objects := by simp [h.objects, DeviceIDPageScan.read]
  cursor := by
    rw [h.cursor, List.flatMap_cons, List.length_append, DeviceIDObject.encode_length]
    simp only [DeviceIDPageScan.read]
    omega
  stuck := h.stuck
  truncated := by simp [h.truncated, DeviceIDPageScan.read]
  counted := by simp [h.counted, DeviceIDPageScan.read]
  nodup := fun hnodup => h.nodup (by
    simp only [DeviceIDPageScan.read]
    iterate 6 apply DeviceIDAnomalySet.nodup_addIf
    exact hnodup)

/-- The object loop of tolerant decoding: the objects it reads and the bytes it leaves are
    the bytes it was given. -/
theorem scanDeviceIDPage_conserves (request : DeviceIDRequest) (conformity : DeviceIDConformity)
    (fuel : Nat) (scan : DeviceIDPageScan) (bytes : List UInt8) (hfuel : bytes.length ≤ fuel) :
    ∃ read left, bytes = read.flatMap DeviceIDObject.encode ++ left ∧
      ScannedTo scan (scanDeviceIDPage request conformity fuel scan bytes) read left := by
  induction fuel generalizing scan bytes with
  | zero =>
    rw [Nat.le_zero, List.length_eq_zero_iff] at hfuel
    subst hfuel
    refine ⟨[], [], rfl, by simp [scanDeviceIDPage], by simp [scanDeviceIDPage], ?_,
      by simp [scanDeviceIDPage], by simp [scanDeviceIDPage], fun h => h⟩
    simp [CompleteObjectAt, DeviceIDObject.encode]
  | succ fuel ih =>
    rcases bytes with _ | ⟨objectID, _ | ⟨valueLength, rest⟩⟩
    · refine ⟨[], [], rfl, by simp [scanDeviceIDPage], by simp [scanDeviceIDPage], ?_,
        by simp [scanDeviceIDPage], by simp [scanDeviceIDPage], fun h => h⟩
      simp [CompleteObjectAt, DeviceIDObject.encode]
    · refine ⟨[], _, rfl, .stopped scan _ (List.cons_ne_nil _ _) ?_⟩
      simp [CompleteObjectAt, DeviceIDObject.encode]
    · simp only [scanDeviceIDPage]
      split_ifs with hlong
      · exact ⟨[], _, rfl, .stopped scan _ (List.cons_ne_nil _ _)
          (not_completeObjectAt objectID valueLength rest hlong)⟩
      · simp only [List.length_cons] at hfuel
        rcases ih (scan.read request conformity
          { id := objectID, value := rest.take valueLength.toNat })
          (rest.drop valueLength.toNat) (by rw [List.length_drop]; omega) with
          ⟨read, left, hbytes, hscanned⟩
        refine ⟨_, left, ?_, hscanned.read⟩
        have hlength : (rest.take valueLength.toNat).length = valueLength.toNat := by
          rw [List.length_take]
          omega
        rw [List.flatMap_cons, List.append_assoc, ← hbytes, DeviceIDObject.encode, hlength]
        simp

/-- The header bytes of a tolerant page, rebuilt from its fields. -/
def DeviceIDPage.header (page : DeviceIDPage) : List UInt8 :=
  [functionEncapsulatedInterface, deviceIDMEIType, page.accessCode, page.conformity,
    page.moreFollowsValue, page.nextObjectID, UInt8.ofNat page.declaredObjects]

/-- A tolerant page accounts for every byte: the header, the objects and the bytes from the
    undecoded offset on are the PDU, and the anomalies say exactly whether something is left
    and whether the count is wrong. -/
theorem tolerant_page_accounts (request : DeviceIDRequest) (pdu : List UInt8)
    (hvalid : validateDeviceIDRequest request = .ok ()) (hmin : 7 ≤ pdu.length)
    (hmax : pdu.length ≤ maxTolerantPDUSize)
    (hfunction : pdu[0]? = some functionEncapsulatedInterface)
    (hmei : pdu[1]? = some deviceIDMEIType) :
    ∃ page, decodeDeviceIDPage request pdu = (page, none) ∧
      page.header ++ page.objects.flatMap DeviceIDObject.encode ++
        pdu.drop page.undecodedOffset = pdu ∧
      (.truncatedObject ∈ page.anomalies ↔ page.undecodedOffset < pdu.length) ∧
      (page.undecodedOffset < pdu.length →
        ¬ CompleteObjectAt (pdu.drop page.undecodedOffset)) ∧
      (.objectCountMismatch ∈ page.anomalies ↔
        page.declaredObjects ≠ page.objects.length) ∧
      page.anomalies.Nodup := by
  match pdu with
  | [] | [_] | [_, _] | [_, _, _] | [_, _, _, _] | [_, _, _, _, _] | [_, _, _, _, _, _] =>
    simp at hmin
  | received :: meiType :: access :: conformity :: moreByte :: nextObjectID :: count :: rest =>
    simp only [List.getElem?_cons_zero, List.getElem?_cons_succ, Option.some.injEq]
      at hfunction hmei
    subst hfunction hmei
    unfold decodeDeviceIDPage
    simp only [hvalid]
    rw [if_neg (by decide), if_neg (by simp), if_neg (Nat.not_lt.mpr hmax), if_neg (by simp)]
    refine ⟨_, rfl, ?_⟩
    simp only
    generalize hheader : DeviceIDAnomalySet.addIf _ _ .nextObjectWithoutMoreFollows = header
    have hfresh : .truncatedObject ∉ header ∧ .objectCountMismatch ∉ header ∧
        header.Nodup := by
      subst hheader
      refine ⟨by simp, by simp, ?_⟩
      iterate 5 apply DeviceIDAnomalySet.nodup_addIf
      exact List.nodup_nil
    rcases scanDeviceIDPage_conserves request conformity rest.length
      { anomalies := header } rest (Nat.le_refl _) with ⟨read, left, hrest, hscanned⟩
    generalize scanDeviceIDPage request conformity rest.length { anomalies := header } rest =
      scan at hscanned ⊢
    have hobjects : scan.objects = read := by simpa using hscanned.objects
    have hcursor : scan.cursor = 7 + (read.flatMap DeviceIDObject.encode).length :=
      hscanned.cursor
    subst hobjects hrest
    rw [hcursor]
    refine ⟨?_, ?_, fun _ => ?_, ?_, ?_⟩
    · simp [DeviceIDPage.header, Nat.add_comm 7]
    · refine Iff.trans (b := left ≠ []) (by simp [hscanned.truncated, hfresh.1]) ?_
      rw [← List.length_pos_iff]
      simp only [List.length_cons, List.length_append]
      omega
    · simpa [Nat.add_comm 7] using hscanned.stuck
    · simp [hscanned.counted, hfresh.2.1]
    · iterate 3 apply DeviceIDAnomalySet.nodup_addIf
      exact hscanned.nodup hfresh.2.2

/-- A page that announces two objects and is cut off inside the second. -/
def shortPage : List UInt8 :=
  [0x2b, 0x0e, 0x01, 0x01, 0x00, 0x00, 0x02, 0x00, 0x01, 0x41, 0x01, 0x05]

theorem tolerant_page_accounts_short :
    ∃ page, decodeDeviceIDPage { access := deviceIDBasic } shortPage = (page, none) ∧
      page.header ++ page.objects.flatMap DeviceIDObject.encode ++
        shortPage.drop page.undecodedOffset = shortPage ∧
      .truncatedObject ∈ page.anomalies ∧ .objectCountMismatch ∈ page.anomalies := by
  rcases tolerant_page_accounts { access := deviceIDBasic } shortPage rfl (by decide) (by decide)
    rfl rfl with ⟨page, hpage, hbytes, htruncated, _, hcount, _⟩
  have hoffset : page.undecodedOffset = 10 ∧ page.declaredObjects = 2 ∧
      page.objects.length = 1 := by
    rw [show page = (decodeDeviceIDPage { access := deviceIDBasic } shortPage).1 by rw [hpage]]
    decide +kernel
  exact ⟨page, hpage, hbytes, htruncated.mpr (by rw [hoffset.1]; decide),
    hcount.mpr (by omega)⟩

end HelianthusModbus
