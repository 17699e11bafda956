import HelianthusModbus.Core.DeviceId
import HelianthusModbus.Lib.Checks

/-!
# Pages of a Device Identification Stream

A page is decoded by one of two parsers that were written apart: the strict one refuses
whatever the specification does not allow, the tolerant one reads on and names each
deviation. On the bytes that the strict parser accepts the tolerant one reads the same
objects, and on a standard stream it finds nothing to name.

## Theorems

* `decodeDeviceIDSegment_ok`: The bytes of a page the strict parser accepts.
* `decodeDeviceIDPage_of_segment`: The tolerant page of such bytes.
* `validateDeviceIDSegment_standard`, `validateDeviceIDSegment_extended`: What the checks of
  a page say about its objects.
* `standard_page_clean`: A strict standard page has no anomaly.
-/

namespace HelianthusModbus

/-- What the strict parser accepts, byte by byte. -/
structure SegmentBytes (request : DeviceIDRequest) (pdu : List UInt8)
    (segment : DeviceIDSegment) (moreByte count : UInt8) (rest : List UInt8) : Prop where
  valid : validateDeviceIDRequest request = .ok ()
  checked : validateDeviceIDSegment segment = .ok ()
  asked : segment.request = request
  conformity : validDeviceIDConformity segment.conformity = true
  size : pdu.length ≤ maxPDUSize
  bytes : pdu = functionEncapsulatedInterface :: deviceIDMEIType :: request.access ::
    segment.conformity :: moreByte :: segment.nextObjectID :: count :: rest
  more : decodeMoreFollows moreByte = some segment.moreFollows
  cursor : segment.moreFollows = false → segment.nextObjectID = 0
  objects : ∃ last, decodeDeviceIDObjects functionEncapsulatedInterface count.toNat 7 rest =
    .ok (segment.objects, last, [])

theorem decodeDeviceIDSegment_ok (request : DeviceIDRequest) (pdu : List UInt8)
    (segment : DeviceIDSegment) (h : decodeDeviceIDSegment request pdu = .ok segment) :
    ∃ moreByte count rest, SegmentBytes request pdu segment moreByte count rest := by
  unfold decodeDeviceIDSegment at h
  split at h
  · cases h
  next hvalid =>
  split at h
  · cases h
  split at h
  · split at h <;> cases h
  split at h
  case h_2 => cases h
  next meiType access conformity moreByte nextObjectID count rest =>
  split_ifs at h with hsize hfunction hmei haccess hconformity
  rw [not_not] at hfunction hmei haccess
  subst hfunction hmei haccess
  split at h
  · cases h
  next moreFollows hmore =>
  split_ifs at h with hnext
  split at h
  · cases h
  · cases h
  next objects last hobjects =>
  simp only at h
  split at h
  · cases h
  next hchecked =>
  cases h
  refine ⟨moreByte, count, rest, hvalid, hchecked, rfl, by simpa using hconformity,
    Nat.not_lt.mp hsize, rfl, hmore, fun hlast => ?_, last, hobjects⟩
  by_contra hne
  exact hnext (.inl ⟨hlast, hne⟩)

/-- The tolerant object loop reads the objects the strict one reads. -/
theorem scanDeviceIDPage_eq (request : DeviceIDRequest) (conformity : DeviceIDConformity)
    (received : FunctionCode) (count cursor fuel last : Nat) (bytes : List UInt8)
    (objects : List DeviceIDObject) (scan : DeviceIDPageScan)
    (h : decodeDeviceIDObjects received count cursor bytes = .ok (objects, last, []))
    (hfuel : bytes.length ≤ fuel) :
    scanDeviceIDPage request conformity fuel scan bytes =
        objects.foldl (fun scan object => scan.read request conformity object) scan ∧
      objects.length = count := by
  induction count generalizing cursor fuel bytes objects scan with
  | zero =>
    simp only [decodeDeviceIDObjects, Except.ok.injEq, Prod.mk.injEq] at h
    rcases h with ⟨rfl, _, rfl⟩
    simp [scanDeviceIDPage]
  | succ count ih =>
    match bytes with
    | [] => simp [decodeDeviceIDObjects] at h
    | [single] => simp [decodeDeviceIDObjects] at h
    | objectID :: valueLength :: rest =>
      simp only [decodeDeviceIDObjects] at h
      split_ifs at h with hlength
      split at h
      · cases h
      next more tail hmore =>
      simp only [Except.ok.injEq, Prod.mk.injEq] at h
      rcases h with ⟨rfl, rfl⟩
      cases fuel with
      | zero => simp at hfuel
      | succ fuel =>
        simp only [List.length_cons] at hfuel
        rcases ih _ fuel _ more _ hmore (by rw [List.length_drop]; omega) with
          ⟨hscan, hcount⟩
        refine ⟨?_, by rw [List.length_cons, hcount]⟩
        rw [scanDeviceIDPage, if_neg (by omega), hscan, List.foldl_cons]

theorem foldl_read_objects (request : DeviceIDRequest) (conformity : DeviceIDConformity)
    (objects : List DeviceIDObject) (scan : DeviceIDPageScan) :
    (objects.foldl (fun scan object => scan.read request conformity object) scan).objects =
      scan.objects ++ objects := by
  induction objects generalizing scan with
  | nil => simp
  | cons object rest ih =>
    rw [List.foldl_cons, ih]
    simp [DeviceIDPageScan.read]

theorem decodeMoreFollows_eq_some (moreByte : UInt8) (moreFollows : Bool) :
    decodeMoreFollows moreByte = some moreFollows ↔
      moreByte = if moreFollows then 0xff else 0x00 := by
  unfold decodeMoreFollows
  cases moreFollows <;> split_ifs <;> simp_all

theorem moreFollows_of_byte (moreByte : UInt8) (moreFollows : Bool)
    (h : decodeMoreFollows moreByte = some moreFollows) : (moreByte != 0) = moreFollows := by
  rw [(decodeMoreFollows_eq_some _ _).mp h]
  cases moreFollows <;> rfl

theorem not_oversize (pdu : List UInt8) (h : pdu.length ≤ maxPDUSize) :
    ¬ pdu.length > maxTolerantPDUSize := by
  unfold maxPDUSize at h
  unfold maxTolerantPDUSize
  omega

/-- The tolerant page of the bytes of a strict segment. -/
structure PageOf (request : DeviceIDRequest) (pdu : List UInt8) (segment : DeviceIDSegment)
    (page : DeviceIDPage) : Prop where
  request : page.request = request
  pdu : page.pdu = pdu
  objects : page.objects = segment.objects
  conformity : page.conformity = segment.conformity
  nextObjectID : page.nextObjectID = segment.nextObjectID
  moreFollows : page.moreFollows = segment.moreFollows

/-- The tolerant parser reads what the strict one reads, for any valid request. -/
theorem decodeDeviceIDPage_of_segment (request : DeviceIDRequest) (pdu : List UInt8)
    (segment : DeviceIDSegment) (h : decodeDeviceIDSegment request pdu = .ok segment)
    (other : DeviceIDRequest) (hvalid : validateDeviceIDRequest other = .ok ()) :
    ∃ page, decodeDeviceIDPage other pdu = (page, none) ∧ PageOf other pdu segment page := by
  rcases decodeDeviceIDSegment_ok request pdu segment h with ⟨moreByte, count, rest, hbytes⟩
  rcases hbytes.objects with ⟨last, hobjects⟩
  have hsize := hbytes.size
  have hpdu := hbytes.bytes
  subst hpdu
  unfold decodeDeviceIDPage
  rw [hvalid]
  simp only
  rw [if_neg (by decide), if_neg (by simp), if_neg (not_oversize _ hsize), if_neg (by simp)]
  -- Only the anomalies depend on the request.
  refine ⟨_, rfl, rfl, rfl, ?_, rfl, rfl, moreFollows_of_byte _ _ hbytes.more⟩
  simp only
  rw [(scanDeviceIDPage_eq other segment.conformity _ _ _ _ _ rest _ _ hobjects
    (Nat.le_refl _)).1, foldl_read_objects]
  simp

/-- One step of an extended stream: the cursor grows, or the flag goes up. -/
theorem advanceExtendedDeviceIDObject_ok (previous next : UInt8) (wrapped after : Bool)
    (h : advanceExtendedDeviceIDObject previous next wrapped = some after) :
    (after = wrapped ∧ previous < next) ∨
      (wrapped = false ∧ after = true ∧ previous = 0xff ∧ next = 0) := by
  unfold advanceExtendedDeviceIDObject at h
  split_ifs at h with hforward hwrap
  · cases h
    exact .inl ⟨rfl, hforward⟩
  · cases h
    exact .inr ⟨hwrap.2.2, rfl, hwrap.1, hwrap.2.1⟩

/-- The progress of an extended page, over its objects and then to the next cursor. -/
theorem validateExtendedDeviceIDProgress_split (segment : DeviceIDSegment) (wrapped after : Bool)
    (h : validateExtendedDeviceIDProgress segment wrapped = .ok after) :
    ∃ last middle, extendedObjectsProgress segment.request.objectID false 7 [] wrapped
        segment.objects = .ok (last, middle) ∧
      (segment.moreFollows = true →
        advanceExtendedDeviceIDObject last segment.nextObjectID middle = some after) := by
  unfold validateExtendedDeviceIDProgress at h
  rw [ite_error_eq_ok] at h
  rcases h with ⟨_, h⟩
  split at h
  · cases h
  next last middle hobjects =>
  refine ⟨last, middle, hobjects, fun hmore => ?_⟩
  rw [if_pos hmore] at h
  split at h
  · cases h
  next nextWrapped hadvance =>
  cases h
  exact hadvance

theorem nextDeviceIDRequest_ok (segment : DeviceIDSegment) (next : DeviceIDRequest)
    (h : nextDeviceIDRequest segment = .ok next) :
    segment.moreFollows = true ∧ next.access = segment.request.access ∧
      next.objectID = segment.nextObjectID ∧ next.extended = segment.request.extended ∧
      (segment.request.extended = true →
        validateExtendedDeviceIDProgress segment segment.request.wrapped = .ok next.wrapped) := by
  unfold nextDeviceIDRequest at h
  split at h
  · cases h
  rw [ite_error_eq_ok] at h
  rcases h with ⟨hcontinues, h⟩
  simp only at h
  split at h
  · cases h
  next wrapped hprogress =>
  cases h
  push Not at hcontinues
  refine ⟨by simpa using hcontinues.2, rfl, rfl, rfl, fun hextended => ?_⟩
  rwa [if_pos hextended] at hprogress

@[simp] theorem addIf_false (set : DeviceIDAnomalySet) (anomaly : DeviceIDAnomaly) :
    set.addIf false anomaly = set := rfl

/-- What the object loop of the strict parser says about one object of a standard page. -/
theorem standardObjectsValid_cons (request : DeviceIDRequest) (conformity : DeviceIDConformity)
    (previous : Option UInt8) (encodedSize : Nat) (object : DeviceIDObject)
    (rest : List DeviceIDObject)
    (h : standardObjectsValid request conformity previous encodedSize (object :: rest) = .ok ()) :
    object.value.length ≤ maxDeviceIDObjectValueBytes ∧
      (∀ last, previous = some last → last < object.id) ∧
      reservedObjectID object.id = false ∧
      (request.access ≠ deviceIDIndividual →
        (previous = none → request.objectID ≤ object.id) ∧
          objectAllowedByAccess object.id request.access = true) ∧
      objectAllowedByConformity object.id conformity = true ∧
      standardObjectsValid request conformity (some object.id)
        (encodedSize + (2 + object.value.length)) rest = .ok () := by
  rw [standardObjectsValid] at h
  split_ifs at h with hvalue hsize horder hreserved hcategory hconformity
  refine ⟨by omega, ?_, by simpa using hreserved, ?_, by simpa using hconformity, h⟩
  · rintro last rfl
    simpa using horder
  · intro haccess
    push Not at hcategory
    rcases hcategory haccess with ⟨hfirst, hallowed⟩
    exact ⟨fun hnone => UInt8.not_lt.mp (by simpa using hfirst hnone), by simpa using hallowed⟩

/-- The tolerant object loop adds no anomaly on the objects of a strict standard page. -/
theorem foldl_read_clean (request : DeviceIDRequest) (conformity : DeviceIDConformity)
    (haccess : request.access ≠ deviceIDIndividual) (encodedSize : Nat)
    (objects : List DeviceIDObject) (scan : DeviceIDPageScan)
    (hordered : ∀ earlier ∈ scan.objects, ∀ last ∈ scan.objects.getLast?, earlier.id ≤ last.id)
    (h : standardObjectsValid request conformity (scan.objects.getLast?.map DeviceIDObject.id)
      encodedSize objects = .ok ()) :
    (objects.foldl (fun scan object => scan.read request conformity object) scan).anomalies =
      scan.anomalies := by
  induction objects generalizing scan encodedSize with
  | nil => rfl
  | cons object rest ih =>
    rcases standardObjectsValid_cons _ _ _ _ _ _ h with
      ⟨hvalue, horder, hreserved, hcategory, hconformity, hrest⟩
    rcases hcategory haccess with ⟨_, hallowed⟩
    have hlast : ∀ last ∈ scan.objects.getLast?, last.id < object.id := by
      intro last hmem
      exact horder last.id (by rw [hmem]; rfl)
    have hbelow : ∀ earlier ∈ scan.objects, earlier.id < object.id := by
      intro earlier hearlier
      cases hscan : scan.objects.getLast? with
      | none =>
        rw [List.getLast?_eq_none_iff.mp hscan] at hearlier
        cases hearlier
      | some last =>
        exact UInt8.lt_of_le_of_lt (hordered earlier hearlier last hscan)
          (hlast last hscan)
    have hread : (scan.read request conformity object).anomalies = scan.anomalies := by
      -- The objects are in order, so none is a duplicate.
      have hduplicate : (scan.objects.any fun earlier => earlier.id == object.id) = false := by
        rw [List.any_eq_false]
        intro earlier hearlier hsame
        rw [beq_iff_eq] at hsame
        have := hbelow earlier hearlier
        rw [hsame] at this
        exact UInt8.lt_irrefl _ this
      have hprogress : (scan.objects.getLast?.any fun previous =>
          !deviceIDPageCursorAdvances previous.id object.id request.extended) = false := by
        rw [Option.any_eq_false]
        intro last hmem
        simp [deviceIDPageCursorAdvances, hlast last hmem]
      simp [DeviceIDPageScan.read, hduplicate, hprogress, hreserved,
        beq_false_of_ne haccess, hallowed, hconformity, Nat.not_lt.mpr hvalue]
    have hlastIs : (scan.read request conformity object).objects.getLast? = some object :=
      List.getLast?_concat
    rw [List.foldl_cons, ih _ _ ?_ (by rw [hlastIs]; exact hrest), hread]
    intro earlier hearlier last hmem
    rw [hlastIs] at hmem
    cases hmem
    rcases List.mem_append.mp hearlier with hbefore | hthis
    · exact UInt8.le_of_lt (hbelow earlier hbefore)
    · rw [List.mem_singleton.mp hthis]
      exact UInt8.le_refl _

/-- A strict standard page: its request, its objects, and the cursor it continues with. -/
theorem validateDeviceIDSegment_standard (segment : DeviceIDSegment)
    (hstandard : segment.request.extended = false)
    (h : validateDeviceIDSegment segment = .ok ()) :
    validateDeviceIDRequest segment.request = .ok () ∧
      standardObjectsValid segment.request segment.conformity none 7 segment.objects = .ok () ∧
      (segment.moreFollows = true →
        ∃ last, segment.objects.getLast? = some last ∧ last.id < segment.nextObjectID) := by
  unfold validateDeviceIDSegment at h
  simp only [ite_error_eq_ok, hstandard, Bool.false_eq_true, if_false] at h
  rcases h with ⟨hidentity, _, hcontinuation, _, h⟩
  push Not at hidentity
  split at h
  · cases h
  next hobjects =>
  refine ⟨hidentity.2.1, hobjects, fun hmore => ?_⟩
  rw [if_pos hmore] at h
  cases hlast : segment.objects.getLast? with
  | none =>
    refine absurd (.inr (.inr ⟨hmore, ?_⟩)) hcontinuation
    exact List.getLast?_eq_none_iff.mp hlast
  | some last =>
    simp only [hlast, ite_error_eq_ok] at h
    push Not at h
    exact ⟨last, rfl, UInt8.not_le.mp h.1.1⟩

/-- A strict extended page: its progress from the cursor of its request. -/
theorem validateDeviceIDSegment_extended (segment : DeviceIDSegment)
    (hextended : segment.request.extended = true)
    (h : validateDeviceIDSegment segment = .ok ()) :
    ∃ after, validateExtendedDeviceIDProgress segment segment.request.wrapped = .ok after ∧
      (segment.moreFollows = true → segment.objects ≠ []) := by
  unfold validateDeviceIDSegment at h
  simp only [ite_error_eq_ok, hextended, if_true] at h
  rcases h with ⟨_, _, hcontinuation, _, h⟩
  split at h
  · cases h
  next after hprogress =>
  exact ⟨after, hprogress, fun hmore hnone => hcontinuation (.inr (.inr ⟨hmore, hnone⟩))⟩

/-- The last object of a strict standard page is not below the first. -/
theorem standardObjectsValid_last (request : DeviceIDRequest) (conformity : DeviceIDConformity)
    (previous : UInt8) (encodedSize : Nat) (objects : List DeviceIDObject) (last : DeviceIDObject)
    (h : standardObjectsValid request conformity (some previous) encodedSize objects = .ok ())
    (hlast : objects.getLast? = some last) : previous ≤ last.id := by
  induction objects generalizing previous encodedSize with
  | nil => cases hlast
  | cons object rest ih =>
    rcases standardObjectsValid_cons _ _ _ _ _ _ h with ⟨_, horder, _, _, _, hrest⟩
    have hstep := UInt8.le_of_lt (horder previous rfl)
    cases rest with
    | nil =>
      cases hlast
      exact hstep
    | cons next more =>
      rw [List.getLast?_cons_cons] at hlast
      exact UInt8.le_trans hstep (ih _ _ hrest hlast)

/-- The cursor of a standard continuation is above the cursor of its request. -/
theorem standard_cursor_grows (segment : DeviceIDSegment)
    (hstandard : segment.request.extended = false)
    (haccess : segment.request.access ≠ deviceIDIndividual)
    (h : validateDeviceIDSegment segment = .ok ()) (hmore : segment.moreFollows = true) :
    segment.request.objectID < segment.nextObjectID := by
  rcases validateDeviceIDSegment_standard segment hstandard h with ⟨_, hobjects, hnext⟩
  rcases hnext hmore with ⟨last, hlast, habove⟩
  cases hlist : segment.objects with
  | nil =>
    rw [hlist] at hlast
    cases hlast
  | cons first rest =>
    rw [hlist] at hobjects hlast
    rcases standardObjectsValid_cons _ _ _ _ _ _ hobjects with ⟨_, _, _, hcategory, _, hrest⟩
    have hfirst := (hcategory haccess).1 rfl
    cases rest with
    | nil =>
      cases hlast
      exact UInt8.lt_of_le_of_lt hfirst habove
    | cons next more =>
      rw [List.getLast?_cons_cons] at hlast
      have hmiddle := standardObjectsValid_last _ _ _ _ _ _ hrest hlast
      exact UInt8.lt_of_le_of_lt (UInt8.le_trans hfirst hmiddle) habove

theorem standard_page_clean (request : DeviceIDRequest) (pdu : List UInt8)
    (segment : DeviceIDSegment) (h : decodeDeviceIDSegment request pdu = .ok segment)
    (hstandard : request.extended = false) (haccess : request.access ≠ deviceIDIndividual) :
    ∃ page, decodeDeviceIDPage request pdu = (page, none) ∧
      PageOf request pdu segment page ∧ page.anomalies = [] := by
  rcases decodeDeviceIDSegment_ok request pdu segment h with ⟨moreByte, count, rest, hbytes⟩
  rcases decodeDeviceIDPage_of_segment request pdu segment h request hbytes.valid with
    ⟨page, hpage, hof⟩
  refine ⟨page, hpage, hof, ?_⟩
  rcases hbytes.objects with ⟨last, hobjects⟩
  rcases validateDeviceIDSegment_standard segment (hbytes.asked ▸ hstandard) hbytes.checked with
    ⟨_, hvalid, hnext⟩
  rw [hbytes.asked] at hvalid
  have hscan := scanDeviceIDPage_eq request segment.conformity _ _ _ _ _ rest _ {} hobjects
    (Nat.le_refl _)
  have hclean := foldl_read_clean request segment.conformity haccess 7 segment.objects {}
    (fun _ hnone => nomatch hnone) hvalid
  have hread := foldl_read_objects request segment.conformity segment.objects {}
  rw [← hscan.1] at hclean hread
  rw [List.nil_append] at hread
  have hcount : (count.toNat != segment.objects.length) = false := by simp [hscan.2]
  have hdeclared : decide (count.toNat > segment.objects.length) = false := by simp [hscan.2]
  have hmore := moreFollows_of_byte _ _ hbytes.more
  have hbyte : (moreByte != 0 && moreByte != 0xff) = false := by
    rw [(decodeMoreFollows_eq_some _ _).mp hbytes.more]
    cases segment.moreFollows <;> rfl
  have hcursor : (!segment.moreFollows && segment.nextObjectID != 0) = false := by
    cases hfollows : segment.moreFollows with
    | true => rfl
    | false => simp [hbytes.cursor hfollows]
  have hprogress : (segment.moreFollows && (segment.objects.getLast?.all fun last =>
      !deviceIDPageCursorAdvances last.id segment.nextObjectID request.extended)) = false := by
    cases hfollows : segment.moreFollows with
    | false => rfl
    | true =>
      rcases hnext hfollows with ⟨final, hfinal, habove⟩
      simp [hfinal, deviceIDPageCursorAdvances, habove]
  -- Every check of the tolerant parser is one of the facts above.
  have hsize := hbytes.size
  have hpdu := hbytes.bytes
  subst hpdu
  unfold decodeDeviceIDPage at hpage
  rw [hbytes.valid] at hpage
  simp only at hpage
  rw [if_neg (by decide), if_neg (by simp), if_neg (not_oversize _ hsize), if_neg (by simp)]
    at hpage
  have hheader : ∀ oversize, oversize = false →
      ((((DeviceIDAnomalySet.addIf [] oversize .oversizePage).addIf
        (request.access != request.access) .accessCodeMismatch).addIf
        (!validDeviceIDConformity segment.conformity) .conformityValue).addIf
        (moreByte != 0x00 && moreByte != 0xff) .moreFollowsValue).addIf
        (!(moreByte != 0) && segment.nextObjectID != 0) .nextObjectWithoutMoreFollows = [] := by
    rintro oversize rfl
    rw [bne_self_eq_false, hbytes.conformity, hbyte, hmore, hcursor]
    rfl
  rw [hheader _ (by simpa using hsize)] at hpage
  cases hpage
  simp only
  rw [hread, hclean, hmore, hcount, hdeclared, hprogress]
  simp

/-- A continuation of a standard stream passes the check of requests. -/
theorem validateDeviceIDRequest_continuation (request : DeviceIDRequest) (cursor : UInt8)
    (hvalid : validateDeviceIDRequest request = .ok ()) (hstandard : request.extended = false)
    (haccess : request.access ≠ deviceIDIndividual) (hcursor : request.objectID < cursor) :
    validateDeviceIDRequest
      { access := request.access, objectID := cursor, continuation := true
        extended := request.extended, wrapped := request.wrapped } = .ok () := by
  have hnonzero : cursor ≠ 0 := by
    rintro rfl
    exact UInt8.not_lt_zero hcursor
  unfold validateDeviceIDRequest at hvalid ⊢
  split at hvalid
  next => cases hvalid
  next hknown =>
    rw [if_neg hknown, if_neg haccess, if_neg (by rw [hstandard]; exact Bool.false_ne_true),
      if_neg (by simp [hnonzero])]

/-- On a standard stream both parsers ask for the same next page, or for none. -/
theorem standard_continuation_eq (request : DeviceIDRequest) (pdu : List UInt8)
    (segment : DeviceIDSegment) (page : DeviceIDPage)
    (h : decodeDeviceIDSegment request pdu = .ok segment)
    (hstandard : request.extended = false) (haccess : request.access ≠ deviceIDIndividual)
    (hof : PageOf request pdu segment page) :
    continueDeviceIDPage page = nextDeviceIDRequest segment := by
  rcases decodeDeviceIDSegment_ok request pdu segment h with ⟨moreByte, count, rest, hbytes⟩
  have hasked := hbytes.asked
  unfold continueDeviceIDPage nextDeviceIDRequest
  simp only [hbytes.checked, hof.request, hof.moreFollows, hof.nextObjectID, hasked]
  cases hmore : segment.moreFollows with
  | false => simp
  | true =>
    have hgrows := standard_cursor_grows segment (hasked ▸ hstandard) (hasked ▸ haccess)
      hbytes.checked hmore
    rw [hasked] at hgrows
    have hnext := validateDeviceIDRequest_continuation request segment.nextObjectID
      hbytes.valid hstandard haccess hgrows
    rw [hstandard] at hnext
    simp [haccess, hstandard, hgrows, hnext]

end HelianthusModbus
