import HelianthusModbus.Theory.DeviceIdStreams

/-!
# Tolerant and Strict Traversals

A tolerant traversal of a stream that strict decoding accepts should notice nothing: it
asks for the same pages, reads the same objects and is complete. On a standard stream this
is so, and there is no anomaly either.

On an extended stream the two differ in how they see progress. The strict traversal goes
from object to object, the tolerant one from the cursor of a request to the cursor its page
ends with, and takes a cursor that is asked for again for no progress. A stream that wraps
around within a page may end that page with the cursor it was asked for, and then only the
strict traversal goes on.

## Main definitions

* `CursorsMove`: No page ends with the cursor it was asked for.

## Theorems

* `tolerant_completes_extended`: It completes the extended streams whose cursors move.
* `tolerant_extends_standard`: On standard streams it is a conservative extension.
-/

namespace HelianthusModbus

/-- A strict traversal: each response is decoded for its request, and the next request is
    the continuation of the page. -/
def strictDeviceIDPages (request : DeviceIDRequest) :
    List (List UInt8) → Except ProtocolError (List DeviceIDSegment)
  | [] => .ok []
  | pdu :: rest =>
    match decodeDeviceIDSegment request pdu with
    | .error err => .error err
    | .ok segment =>
      if rest = [] then .ok [segment]
      else
        match nextDeviceIDRequest segment with
        | .error err => .error err
        | .ok next =>
          match strictDeviceIDPages next rest with
          | .error err => .error err
          | .ok pages => .ok (segment :: pages)

theorem strictDeviceIDPages_cons (request : DeviceIDRequest) (pdu : List UInt8)
    (rest : List (List UInt8)) (pages : List DeviceIDSegment)
    (h : strictDeviceIDPages request (pdu :: rest) = .ok pages) :
    ∃ segment, decodeDeviceIDSegment request pdu = .ok segment ∧
      (rest = [] ∧ pages = [segment] ∨
        rest ≠ [] ∧ ∃ next more, nextDeviceIDRequest segment = .ok next ∧
          strictDeviceIDPages next rest = .ok more ∧ pages = segment :: more) := by
  rw [strictDeviceIDPages] at h
  split at h
  · cases h
  next segment hsegment =>
  refine ⟨segment, hsegment, ?_⟩
  split_ifs at h with hlast
  · cases h
    exact .inl ⟨hlast, rfl⟩
  split at h
  · cases h
  next next hnext =>
  split at h
  · cases h
  next more hrest =>
  cases h
  exact .inr ⟨hlast, next, more, hnext, hrest, rfl⟩

theorem strictDeviceIDPages_length (request : DeviceIDRequest) (pdus : List (List UInt8))
    (pages : List DeviceIDSegment) (h : strictDeviceIDPages request pdus = .ok pages) :
    pages.length = pdus.length := by
  induction pdus generalizing request pages with
  | nil =>
    cases h
    rfl
  | cons pdu rest ih =>
    rcases strictDeviceIDPages_cons request pdu rest pages h with
      ⟨segment, _, ⟨rfl, rfl⟩ | ⟨_, next, more, _, hmore, rfl⟩⟩
    · rfl
    · rw [List.length_cons, List.length_cons, ih next more hmore]

namespace DeviceIDTolerantTraversal

/-- A tolerant traversal takes the next response: decoded for the request it expects. -/
def receive (traversal : DeviceIDTolerantTraversal) (pdu : List UInt8) :
    Except ProtocolError DeviceIDTolerantTraversal :=
  match decodeDeviceIDPage traversal.expected pdu with
  | (_, some err) => .error err
  | (page, none) => traversal.add page

/-- The traversal has the objects of a strict aggregate. -/
structure Mirrors (traversal : DeviceIDTolerantTraversal) (aggregate : DeviceIDAggregate) :
    Prop where
  seen : traversal.seen = aggregate.seen
  objects : traversal.result.objects = aggregate.objects
  valueBytes : traversal.valueBytes = aggregate.valueBytes

/-- The traversal with the objects of another aggregate. -/
def holding (traversal : DeviceIDTolerantTraversal) (aggregate : DeviceIDAggregate) :
    DeviceIDTolerantTraversal :=
  { traversal with
    seen := aggregate.seen, valueBytes := aggregate.valueBytes
    result := { traversal.result with objects := aggregate.objects } }

/-- Objects that the strict fold takes are taken by the tolerant one: it finds no duplicate
    and no limit. -/
theorem addObjects_of_aggregate (extended : Bool) (aggregate after : DeviceIDAggregate)
    (objects : List DeviceIDObject) (traversal : DeviceIDTolerantTraversal)
    (hmirrors : traversal.Mirrors aggregate)
    (h : aggregateDeviceIDObjects traversal.limits extended aggregate objects = .ok after) :
    traversal.addObjects objects = (traversal.holding after, false) := by
  induction objects generalizing traversal aggregate with
  | nil =>
    cases h
    rw [addObjects, holding, ← hmirrors.seen, ← hmirrors.objects, ← hmirrors.valueBytes]
  | cons object rest ih =>
    rw [aggregateDeviceIDObjects] at h
    split_ifs at h with hprogress hlimit
    rw [← hmirrors.objects, ← hmirrors.valueBytes] at hlimit
    rw [addObjects, if_neg (by rw [hmirrors.seen]; exact fun hseen => hprogress (.inl hseen)),
      if_neg hlimit, ih _ { traversal with
        seen := object.id :: traversal.seen
        valueBytes := traversal.valueBytes + object.value.length
        result := { traversal.result with
          objects := traversal.result.objects ++ [object] } } ?_ h]
    · rfl
    · exact ⟨by rw [hmirrors.seen], by rw [hmirrors.objects], by rw [hmirrors.valueBytes]⟩

/-- The conformity of the first page. -/
def conformityWith (traversal : DeviceIDTolerantTraversal) (page : DeviceIDPage) :
    DeviceIDConformity :=
  if traversal.result.pages.isEmpty then page.conformity else traversal.result.conformity

/-- The traversal with one more page, before the objects of the page. -/
def withPage (traversal : DeviceIDTolerantTraversal) (page : DeviceIDPage) :
    DeviceIDTolerantTraversal :=
  { traversal with
    anomalies := page.anomalies.foldl DeviceIDAnomalySet.add
      (traversal.anomalies.addIf (page.conformity != traversal.conformityWith page)
        .conformityChange)
    result := { traversal.result with
      conformity := traversal.conformityWith page
      pages := traversal.result.pages ++ [page] } }

/-- A page of a strict traversal, as a tolerant one in step with it sees it. -/
structure Takes (traversal : DeviceIDTolerantTraversal) (page : DeviceIDPage)
    (aggregate after : DeviceIDAggregate) (extended : Bool) : Prop where
  isOpen : traversal.closed = false
  expected : page.request = traversal.expected
  decoded : decodeDeviceIDPage page.request page.pdu = (page, none)
  mirrors : traversal.Mirrors aggregate
  objects : aggregateDeviceIDObjects traversal.limits extended aggregate page.objects = .ok after

section Adding

variable (traversal : DeviceIDTolerantTraversal) (page : DeviceIDPage)
  (aggregate after : DeviceIDAggregate) (extended : Bool)

/-- Taking a page: its objects are those of the strict fold, and what is left is whether the
    stream goes on. -/
theorem add_eq (h : traversal.Takes page aggregate after extended) :
    traversal.add page =
      let taken := (traversal.withPage page).holding after
      if page.moreFollows = false then .ok (taken.close true)
      else
        match continueDeviceIDPage page with
        | .error _ =>
          .ok (close { taken with
            anomalies := taken.anomalies.add .continuationUnavailable } false)
        | .ok next =>
          if (taken.result.pages.length : Int) = taken.limits.maxSegments then
            .ok (close { taken with anomalies := taken.anomalies.add .pageLimitReached } false)
          else .ok { taken with expected := next } := by
  have hadded := addObjects_of_aggregate extended aggregate after page.objects
    (traversal.withPage page) ⟨h.mirrors.seen, h.mirrors.objects, h.mirrors.valueBytes⟩ h.objects
  rw [withPage, conformityWith] at hadded
  rw [add, if_neg (by rw [h.isOpen]; exact Bool.false_ne_true), if_neg (not_not.mpr h.expected),
    h.decoded]
  simp only [hadded]
  rfl

theorem add_last (h : traversal.Takes page aggregate after extended)
    (hlast : page.moreFollows = false) :
    traversal.add page = .ok (((traversal.withPage page).holding after).close true) := by
  rw [add_eq traversal page aggregate after extended h]
  exact if_pos hlast

/-- The stream goes on, if there may be another page and the cursor moves. -/
theorem add_more (next : DeviceIDRequest) (h : traversal.Takes page aggregate after extended)
    (hmore : page.moreFollows = true) (hnext : continueDeviceIDPage page = .ok next)
    (hroom : (traversal.result.pages.length : Int) + 1 < traversal.limits.maxSegments) :
    traversal.add page =
      .ok { (traversal.withPage page).holding after with expected := next } := by
  have hpages : ¬ (((traversal.withPage page).holding after).result.pages.length : Int) =
      ((traversal.withPage page).holding after).limits.maxSegments := by
    simp only [holding, withPage, List.length_append, List.length_singleton]
    omega
  rw [add_eq traversal page aggregate after extended h]
  simp only [hmore, hnext, if_neg hpages]
  rfl

theorem add_stuck (err : ProtocolError) (h : traversal.Takes page aggregate after extended)
    (hmore : page.moreFollows = true) (hstuck : continueDeviceIDPage page = .error err) :
    ∃ stopped, traversal.add page = .ok stopped ∧ stopped.closed = true := by
  rw [add_eq traversal page aggregate after extended h]
  simp only [hmore, hstuck]
  exact ⟨_, rfl, rfl⟩

/-- A tolerant traversal goes along with the pages of a strict one: it is open and asks for the
    same object before each of them, and after the last it is complete with these objects. -/
def Completes (traversal : DeviceIDTolerantTraversal) (pdus : List (List UInt8))
    (pages : List DeviceIDSegment) (objects : List DeviceIDObject) : Prop :=
  (∀ index page, pages[index]? = some page →
    ∃ state, (pdus.take index).foldlM receive traversal = .ok state ∧ state.closed = false ∧
      state.expected.objectID = page.request.objectID) ∧
  ∃ final, pdus.foldlM receive traversal = .ok final ∧ final.closed = true ∧
    final.result.complete = true ∧ final.result.objects = objects

end Adding

theorem completes_cons {traversal state : DeviceIDTolerantTraversal} {pdu : List UInt8}
    (hreceive : traversal.receive pdu = .ok state) (rest : List (List UInt8))
    (page : DeviceIDSegment) (later : List DeviceIDSegment) (objects : List DeviceIDObject) :
    traversal.Completes (pdu :: rest) (page :: later) objects ↔
      (traversal.closed = false ∧ traversal.expected.objectID = page.request.objectID) ∧
        state.Completes rest later objects := by
  have hrun (pdus : List (List UInt8)) :
      (pdu :: pdus).foldlM receive traversal = pdus.foldlM receive state := by
    rw [List.foldlM_cons, hreceive]
    rfl
  unfold Completes
  rw [hrun]
  constructor
  · rintro ⟨hasks, hfinal⟩
    refine ⟨?_, fun index other hindex => ?_, hfinal⟩
    · rcases hasks 0 page rfl with ⟨_, ⟨⟩, hopen⟩
      exact hopen
    · rcases hasks (index + 1) other hindex with ⟨reached, hreached, hopen⟩
      rw [List.take_succ_cons, hrun] at hreached
      exact ⟨reached, hreached, hopen⟩
  · rintro ⟨hfirst, hasks, hfinal⟩
    refine ⟨fun index other hindex => ?_, hfinal⟩
    cases index with
    | zero =>
      cases hindex
      exact ⟨traversal, rfl, hfirst⟩
    | succ index =>
      rcases hasks index other hindex with ⟨reached, hreached, hopen⟩
      rw [List.take_succ_cons, hrun]
      exact ⟨reached, hreached, hopen⟩

end DeviceIDTolerantTraversal

theorem aggregateDeviceIDSegments_cons (limits : DeviceIDLimits) (extended : Bool)
    (request : DeviceIDRequest) (known : Option DeviceIDConformity)
    (aggregate : DeviceIDAggregate) (segment : DeviceIDSegment) (rest : List DeviceIDSegment)
    (result : DeviceIDAggregate × DeviceIDConformity)
    (h : aggregateDeviceIDSegments limits extended request known aggregate (segment :: rest) =
      .ok result) :
    segment.request = request ∧ validateDeviceIDSegment segment = .ok () ∧
      (∀ first ∈ known, segment.conformity = first) ∧
      ∃ after, aggregateDeviceIDObjects limits extended aggregate segment.objects = .ok after ∧
        (rest = [] ∧ segment.moreFollows = false ∧
            result = (after, known.getD segment.conformity) ∨
          rest ≠ [] ∧ segment.moreFollows = true ∧
            ∃ next, nextDeviceIDRequest segment = .ok next ∧
              aggregateDeviceIDSegments limits extended next
                (some (known.getD segment.conformity)) after rest = .ok result) := by
  rw [aggregateDeviceIDSegments, ite_error_eq_ok] at h
  rcases h with ⟨hasked, h⟩
  split at h
  · cases h
  next hvalid =>
  rw [ite_error_eq_ok] at h
  rcases h with ⟨hconformity, h⟩
  split at h
  · cases h
  next after hafter =>
  refine ⟨not_not.mp hasked, hvalid, ?_, after, hafter, ?_⟩
  · rintro first hmem
    rw [Option.mem_def] at hmem
    subst hmem
    simpa using hconformity
  · simp only at h
    split_ifs at h with hmore hrest hrest
    · split at h
      · cases h
      next next hnext => exact .inr ⟨hrest, hmore, next, hnext, h⟩
    · cases h
      exact .inl ⟨not_not.mp hrest, by simpa using hmore, rfl⟩

/-- No page but the last ends with the cursor it was asked for. The cursor a page ends with
    is the sixth byte of its response. -/
def CursorsMove (cursor : UInt8) : List (List UInt8) → Prop
  | [] => True
  | pdu :: rest => (rest ≠ [] → pdu.getD 5 0 ≠ cursor) ∧ CursorsMove (pdu.getD 5 0) rest

/-- The request a tolerant extended traversal is at follows the one of the strict traversal:
    it asks for the same object, and has wrapped around only if the other one has. -/
structure FollowsRequest (expected request : DeviceIDRequest) : Prop where
  access : expected.access = deviceIDExtended
  extended : expected.extended = true
  first : expected.continuation = false → expected.wrapped = false
  strict : request.extended = true
  objectID : expected.objectID = request.objectID
  wrapped : expected.wrapped = true → request.wrapped = true

theorem validateDeviceIDRequest_extended (request : DeviceIDRequest)
    (haccess : request.access = deviceIDExtended) (hextended : request.extended = true)
    (hfirst : request.continuation = false → request.wrapped = false) :
    validateDeviceIDRequest request = .ok () := by
  have hfresh : (!request.continuation && request.wrapped) = false := by
    cases hcontinuation : request.continuation with
    | true => rfl
    | false => simp [hfirst hcontinuation]
  simp [validateDeviceIDRequest, haccess, hextended, hfresh, validDeviceIDAccess, deviceIDBasic,
    deviceIDExtended, deviceIDIndividual]

/-- The cursor a strict page ends with moves on for the tolerant traversal as well, unless it
    is the cursor of the request: below it the strict traversal has wrapped around. -/
theorem continueDeviceIDPage_follows (expected request next : DeviceIDRequest)
    (pdu : List UInt8) (segment : DeviceIDSegment) (page : DeviceIDPage)
    (hasked : segment.request = request) (hof : PageOf expected pdu segment page)
    (hfollows : FollowsRequest expected request)
    (hnext : nextDeviceIDRequest segment = .ok next)
    (hmoves : segment.nextObjectID ≠ request.objectID) :
    ∃ following, continueDeviceIDPage page = .ok following ∧ FollowsRequest following next := by
  rcases nextDeviceIDRequest_ok segment next hnext with ⟨hmore, _, hcursor, hkind, hprogress⟩
  rw [hasked] at hkind
  have hstrict := hkind.trans hfollows.strict
  have hstep := validateExtendedDeviceIDProgress_ok segment _ _
    (hprogress (hasked ▸ hfollows.strict)) hmore
  rw [hasked] at hstep
  have hindividual : expected.access ≠ deviceIDIndividual := by
    rw [hfollows.access]
    decide
  unfold continueDeviceIDPage
  simp only [hof.request, hof.moreFollows, hof.nextObjectID, hmore]
  rw [if_neg (by simp [hindividual])]
  by_cases hforward : expected.objectID < segment.nextObjectID
  · have hvalid := validateDeviceIDRequest_extended
      { access := expected.access, objectID := segment.nextObjectID, continuation := true
        extended := expected.extended, wrapped := expected.wrapped }
      hfollows.access hfollows.extended (fun h => nomatch h)
    refine ⟨{ access := expected.access, objectID := segment.nextObjectID, continuation := true
              extended := expected.extended, wrapped := expected.wrapped }, ?_, ?_⟩
    · simp [if_pos hforward, hvalid]
    · refine ⟨hfollows.access, hfollows.extended, fun h => (nomatch h), hstrict, hcursor.symm, ?_⟩
      intro hwrapped
      rcases hstep with ⟨hkept, _⟩ | ⟨_, hup⟩
      · rw [hkept]
        exact hfollows.wrapped hwrapped
      · exact hup
  · rw [hfollows.objectID] at hforward ⊢
    have hbelow : segment.nextObjectID < request.objectID :=
      UInt8.lt_of_le_of_ne (UInt8.not_lt.mp hforward) hmoves
    -- The cursor went down, so the strict flag went up, and the tolerant one was not up yet.
    rcases hstep with ⟨_, habove⟩ | ⟨hlow, hup⟩
    · exact absurd habove hforward
    · have hfresh : expected.wrapped = false := by
        cases hwrapped : expected.wrapped with
        | false => rfl
        | true =>
          rw [hfollows.wrapped hwrapped] at hlow
          cases hlow
      have hvalid := validateDeviceIDRequest_extended
        { access := expected.access, objectID := segment.nextObjectID, continuation := true
          extended := expected.extended, wrapped := true }
        hfollows.access hfollows.extended (fun h => nomatch h)
      have hturns : expected.extended = true ∧ expected.wrapped = false ∧
          segment.nextObjectID < request.objectID := ⟨hfollows.extended, hfresh, hbelow⟩
      refine ⟨{ access := expected.access, objectID := segment.nextObjectID, continuation := true
                extended := expected.extended, wrapped := true }, ?_, ?_⟩
      · simp [if_neg hforward, if_pos hturns, hvalid]
      · exact ⟨hfollows.access, hfollows.extended, fun h => (nomatch h), hstrict, hcursor.symm,
          fun _ => hup⟩

/-- A page that ends with the cursor it was asked for has no continuation. -/
theorem continueDeviceIDPage_same (page : DeviceIDPage)
    (h : page.nextObjectID = page.request.objectID) :
    ∃ err, continueDeviceIDPage page = .error err := by
  unfold continueDeviceIDPage
  dsimp only
  split
  · exact ⟨_, rfl⟩
  · rw [h, if_neg (UInt8.lt_irrefl _), if_neg (fun hbelow => UInt8.lt_irrefl _ hbelow.2.2)]
    exact ⟨_, rfl⟩

theorem nextObjectID_eq_byte (request : DeviceIDRequest) (pdu : List UInt8)
    (segment : DeviceIDSegment) (h : decodeDeviceIDSegment request pdu = .ok segment) :
    segment.request = request ∧ segment.nextObjectID = pdu.getD 5 0 := by
  rcases decodeDeviceIDSegment_ok request pdu segment h with ⟨_, _, _, hbytes⟩
  refine ⟨hbytes.asked, ?_⟩
  rw [hbytes.bytes]
  rfl

namespace DeviceIDTolerantTraversal

/-- A tolerant extended traversal in step with a strict one. -/
structure InStep (traversal : DeviceIDTolerantTraversal) (request : DeviceIDRequest)
    (aggregate : DeviceIDAggregate) : Prop where
  isOpen : traversal.closed = false
  mirrors : traversal.Mirrors aggregate
  follows : FollowsRequest traversal.expected request

/-- The next page of a strict traversal, taken by a tolerant one in step with it. -/
theorem InStep.takes {traversal : DeviceIDTolerantTraversal} {request : DeviceIDRequest}
    {aggregate after : DeviceIDAggregate} (h : traversal.InStep request aggregate)
    (pdu : List UInt8) (segment : DeviceIDSegment)
    (hdecoded : decodeDeviceIDSegment request pdu = .ok segment)
    (hobjects : aggregateDeviceIDObjects traversal.limits true aggregate segment.objects =
      .ok after) :
    ∃ page, traversal.receive pdu = traversal.add page ∧
      PageOf traversal.expected pdu segment page ∧ traversal.Takes page aggregate after true := by
  rcases decodeDeviceIDPage_of_segment request pdu segment hdecoded traversal.expected
    (validateDeviceIDRequest_extended _ h.follows.access h.follows.extended h.follows.first) with
    ⟨page, hpage, hof⟩
  refine ⟨page, ?_, hof, h.isOpen, hof.request, ?_, h.mirrors, ?_⟩
  · rw [receive, hpage]
  · rw [hof.request, hof.pdu, hpage]
  · rw [hof.objects, hobjects]

/-- A strict extended traversal, from some page on. -/
theorem InStep.completes_iff {traversal : DeviceIDTolerantTraversal} {request : DeviceIDRequest}
    {aggregate : DeviceIDAggregate} (h : traversal.InStep request aggregate)
    (pdus : List (List UInt8)) (pages : List DeviceIDSegment)
    (known : Option DeviceIDConformity) (result : DeviceIDAggregate × DeviceIDConformity)
    (hne : pdus ≠ []) (hpages : strictDeviceIDPages request pdus = .ok pages)
    (haggregate : aggregateDeviceIDSegments traversal.limits true request known aggregate pages =
      .ok result)
    (hroom : (traversal.result.pages.length : Int) + pdus.length ≤ traversal.limits.maxSegments) :
    traversal.Completes pdus pages result.1.objects ↔ CursorsMove request.objectID pdus := by
  -- By induction on the pages: the two stay in step until a page ends with the cursor it was asked
  -- for, which closes the tolerant traversal while the strict one goes on.
  induction pdus generalizing traversal request aggregate pages known with
  | nil => exact absurd rfl hne
  | cons pdu rest ih =>
    rcases strictDeviceIDPages_cons request pdu rest pages hpages with
      ⟨segment, hdecoded, hshape⟩
    rcases nextObjectID_eq_byte request pdu segment hdecoded with ⟨hasked, hbyte⟩
    have hfirst : traversal.closed = false ∧
        traversal.expected.objectID = segment.request.objectID :=
      ⟨h.isOpen, by rw [hasked]; exact h.follows.objectID⟩
    rcases hshape with ⟨rfl, rfl⟩ | ⟨hmore, next, later, hnext, hlater, rfl⟩
    · rcases aggregateDeviceIDSegments_cons _ _ _ _ _ _ _ _ haggregate with
        ⟨_, _, _, after, hafter, ⟨_, hlast, hresult⟩ | ⟨habsurd, _⟩⟩
      · rcases h.takes pdu segment hdecoded hafter with ⟨page, hreceive, hof, htakes⟩
        rw [completes_cons (hreceive.trans (add_last traversal page aggregate after true htakes
          (hof.moreFollows.trans hlast)))]
        refine iff_of_true ⟨hfirst, ⟨?_, _, rfl, rfl, rfl, ?_⟩⟩
          ⟨fun hrest => absurd rfl hrest, trivial⟩
        · intro index other hindex
          cases hindex
        · rw [hresult]
          rfl
      · exact absurd rfl habsurd
    · have hlength := strictDeviceIDPages_length next rest later hlater
      rcases aggregateDeviceIDSegments_cons _ _ _ _ _ _ _ _ haggregate with
        ⟨_, _, _, after, hafter, ⟨habsurd, _⟩ | ⟨_, hfollows, next', hnext', hrest⟩⟩
      · rw [habsurd] at hlength
        exact absurd (List.length_eq_zero_iff.mp hlength.symm) hmore
      rw [hnext] at hnext'
      cases hnext'
      rcases h.takes pdu segment hdecoded hafter with ⟨page, hreceive, hof, htakes⟩
      by_cases hsame : pdu.getD 5 0 = request.objectID
      · -- The tolerant traversal is closed before the next page.
        rcases continueDeviceIDPage_same page (by
          rw [hof.nextObjectID, hof.request, hbyte, hsame, h.follows.objectID]) with ⟨err, hstuck⟩
        rcases add_stuck traversal page aggregate after true err htakes
          (hof.moreFollows.trans hfollows) hstuck with ⟨stopped, hstopped, hclosed⟩
        rw [completes_cons (hreceive.trans hstopped)]
        refine iff_of_false ?_ (fun hmove => hmove.1 hmore hsame)
        rintro ⟨_, hasks, _⟩
        cases later with
        | nil => exact hmore (List.length_eq_zero_iff.mp hlength.symm)
        | cons second others =>
          rcases hasks 0 second rfl with ⟨_, ⟨⟩, hopen, _⟩
          exact Bool.false_ne_true (hopen.symm.trans hclosed)
      · rcases continueDeviceIDPage_follows traversal.expected request next pdu segment page
          hasked hof h.follows hnext (by rw [hbyte]; exact hsame) with
          ⟨following, hfollowing, hstep⟩
        have hpositive := List.length_pos_of_ne_nil hmore
        rw [List.length_cons] at hroom
        have hadd := add_more traversal page aggregate after true following htakes
          (hof.moreFollows.trans hfollows) hfollowing (by omega)
        have hcursor := (nextDeviceIDRequest_ok segment next hnext).2.2.1
        have hnextStep : InStep
            { (traversal.withPage page).holding after with expected := following } next after :=
          ⟨h.isOpen, ⟨rfl, rfl, rfl⟩, hstep⟩
        rw [completes_cons (hreceive.trans hadd), ih hnextStep later _ hmore hlater hrest (by
          simp only [holding, withPage, List.length_append, List.length_singleton]
          omega), hcursor, hbyte]
        exact ⟨fun hmove => ⟨fun _ => hsame, hmove.2⟩, fun hmove => ⟨hfirst, hmove.2⟩⟩

end DeviceIDTolerantTraversal

/-- A tolerant traversal completes an extended stream that a strict one completes exactly if no
    page but the last ends with the cursor it was asked for. -/
theorem tolerant_completes_extended (start : UInt8) (limits : DeviceIDLimits)
    (request : DeviceIDRequest) (pdus : List (List UInt8)) (pages : List DeviceIDSegment)
    (result : DeviceIDResult) (hrequest : newExtendedDeviceIDStreamRequest start = .ok request)
    (hpages : strictDeviceIDPages request pdus = .ok pages)
    (hresult : aggregateExtendedDeviceIDStream request pages limits = .ok result) :
    (∃ traversal, newDeviceIDTolerantTraversal request limits = .ok traversal ∧
      (∀ index page, pages[index]? = some page →
        ∃ state, (pdus.take index).foldlM DeviceIDTolerantTraversal.receive traversal =
            .ok state ∧ state.closed = false ∧
          state.expected.objectID = page.request.objectID) ∧
      ∃ final published, pdus.foldlM DeviceIDTolerantTraversal.receive traversal = .ok final ∧
        final.closed = true ∧ final.finish = .ok published ∧ published.complete = true ∧
        published.objects = result.objects) ↔ CursorsMove start pdus := by
  have hrequestIs := newExtendedDeviceIDStreamRequest_ok start request hrequest
  subst hrequestIs
  rcases aggregateDeviceIDStream_ok _ pages limits true result hresult with
    ⟨hlimits, hsome, hcount, aggregate, haggregate, hobjects, _⟩
  have hlength := strictDeviceIDPages_length _ pdus pages hpages
  have hnew : newDeviceIDTolerantTraversal (streamFrom start) limits =
      .ok { limits := limits, expected := streamFrom start } := by
    rw [newDeviceIDTolerantTraversal, hlimits]
    simp only
    rw [if_neg (by simp [validateDeviceIDRequest_extended, streamFrom])]
  have hstep : DeviceIDTolerantTraversal.InStep
      { limits := limits, expected := streamFrom start } (streamFrom start) {} :=
    ⟨rfl, ⟨rfl, rfl, rfl⟩, rfl, rfl, fun _ => rfl, rfl, rfl, fun h => h⟩
  have hne : pdus ≠ [] := by
    rintro rfl
    exact hsome (List.length_eq_zero_iff.mp hlength)
  have hiff := hstep.completes_iff pdus pages none _ hne hpages haggregate
    (by simp only [List.length_nil]; omega)
  constructor
  · rintro ⟨traversal, hcreated, hasks, final, published, hfinal, hclosed, hfinish, hdone⟩
    cases hnew.symm.trans hcreated
    rw [DeviceIDTolerantTraversal.finish, if_pos hclosed] at hfinish
    cases hfinish
    exact hiff.mp ⟨hasks, final, hfinal, hclosed, hdone.1, hdone.2.trans hobjects⟩
  · intro hmove
    rcases hiff.mpr hmove with ⟨hasks, final, hfinal, hclosed, hcomplete, hall⟩
    refine ⟨_, hnew, hasks, final, { final.result with anomalies := final.anomalies }, hfinal,
      hclosed, ?_, hcomplete, hall.trans hobjects.symm⟩
    rw [DeviceIDTolerantTraversal.finish, if_pos hclosed]

/-- A stream that wraps around within its first page. -/
theorem tolerant_completes_extended_wrap :
    ∃ traversal final published,
      newDeviceIDTolerantTraversal (streamFrom 5) defaultDeviceIDLimits = .ok traversal ∧
      [pageBytes 0xff 3 [5, 0xff, 0], pageBytes 0 0 [3]].foldlM
        DeviceIDTolerantTraversal.receive traversal = .ok final ∧
      final.finish = .ok published ∧ published.complete = true ∧
      published.objects.map DeviceIDObject.id = [5, 0xff, 0, 3] := by
  have hresult : aggregateExtendedDeviceIDStream (streamFrom 5)
      [pageFor (streamFrom 5) true 3 [5, 0xff, 0], pageFor (wrappedTo 3) false 0 [3]]
      defaultDeviceIDLimits =
        .ok { conformity := 0x83
              objects := [5, 0xff, 0, 3].map fun id => { id := id, value := [0x41] }
              segments := [pageFor (streamFrom 5) true 3 [5, 0xff, 0],
                pageFor (wrappedTo 3) false 0 [3]] } := by
    decide +kernel
  rcases (tolerant_completes_extended 5 defaultDeviceIDLimits (streamFrom 5)
    [pageBytes 0xff 3 [5, 0xff, 0], pageBytes 0 0 [3]] _ _ rfl (by decide +kernel) hresult).mpr
    ⟨fun _ => by decide, fun h => absurd rfl h, trivial⟩ with
    ⟨traversal, hnew, _, final, published, hrun, _, hfinish, hcomplete, hobjects⟩
  exact ⟨traversal, final, published, hnew, hrun, hfinish, hcomplete, by rw [hobjects]; rfl⟩

/-- A stream that a strict traversal completes: its first page wraps around and ends with
    the cursor it was asked for. The tolerant traversal stops there. -/
theorem tolerant_stops_extended :
    newExtendedDeviceIDStreamRequest 0 = .ok (streamFrom 0) ∧
      strictDeviceIDPages (streamFrom 0) [pageBytes 0xff 0 [1, 0xff], pageBytes 0 0 [0]] =
        .ok [pageFor (streamFrom 0) true 0 [1, 0xff], pageFor (wrappedTo 0) false 0 [0]] ∧
      (∃ result, aggregateExtendedDeviceIDStream (streamFrom 0)
        [pageFor (streamFrom 0) true 0 [1, 0xff], pageFor (wrappedTo 0) false 0 [0]]
        defaultDeviceIDLimits = .ok result) ∧
      ∃ traversal stopped,
        newDeviceIDTolerantTraversal (streamFrom 0) defaultDeviceIDLimits = .ok traversal ∧
        traversal.receive (pageBytes 0xff 0 [1, 0xff]) = .ok stopped ∧ stopped.closed = true ∧
        stopped.result.complete = false ∧ stopped.anomalies = [.continuationUnavailable] := by
  refine ⟨rfl, by decide +kernel, ⟨_, rfl⟩, _, _, rfl, rfl, ?_, ?_, ?_⟩ <;> decide +kernel

/-- The tolerant parser on a page of a strict traversal: the same objects, nothing to name,
    and the same continuation. -/
def SegmentAgrees (segment : DeviceIDSegment) (pdu : List UInt8) : Prop :=
  (decodeDeviceIDPage segment.request pdu).2 = none ∧
    (decodeDeviceIDPage segment.request pdu).1.objects = segment.objects ∧
    (decodeDeviceIDPage segment.request pdu).1.anomalies = [] ∧
    nextDeviceIDPageRequest (decodeDeviceIDPage segment.request pdu).1 =
      nextDeviceIDRequest segment

/-- The tolerant pages of a strict traversal. -/
def tolerantPages (pages : List DeviceIDSegment) (pdus : List (List UInt8)) :
    List DeviceIDPage :=
  List.zipWith (fun segment pdu => (decodeDeviceIDPage segment.request pdu).1) pages pdus

namespace DeviceIDTolerantTraversal

/-- A tolerant standard traversal in step with a strict one, which has noticed nothing. -/
structure Clean (traversal : DeviceIDTolerantTraversal) (request : DeviceIDRequest)
    (aggregate : DeviceIDAggregate) (known : Option DeviceIDConformity) : Prop where
  isOpen : traversal.closed = false
  mirrors : traversal.Mirrors aggregate
  expected : traversal.expected = request
  anomalies : traversal.anomalies = []
  fresh : known = none → traversal.result.pages = []
  conformity : ∀ first ∈ known,
    traversal.result.pages ≠ [] ∧ traversal.result.conformity = first

theorem Clean.page {traversal : DeviceIDTolerantTraversal} {request : DeviceIDRequest}
    {aggregate after : DeviceIDAggregate} {known : Option DeviceIDConformity}
    (h : traversal.Clean request aggregate known) (pdu : List UInt8) (segment : DeviceIDSegment)
    (hstandard : request.extended = false) (haccess : request.access ≠ deviceIDIndividual)
    (hdecoded : decodeDeviceIDSegment request pdu = .ok segment)
    (hconformity : ∀ first ∈ known, segment.conformity = first)
    (hobjects : aggregateDeviceIDObjects traversal.limits false aggregate segment.objects =
      .ok after) :
    ∃ page, decodeDeviceIDPage segment.request pdu = (page, none) ∧
      PageOf request pdu segment page ∧ traversal.Takes page aggregate after false ∧
      continueDeviceIDPage page = nextDeviceIDRequest segment ∧ SegmentAgrees segment pdu ∧
      (traversal.withPage page).anomalies = [] ∧
      traversal.conformityWith page = known.getD segment.conformity := by
  have hasked := (nextObjectID_eq_byte request pdu segment hdecoded).1
  rcases standard_page_clean request pdu segment hdecoded hstandard haccess with
    ⟨page, hpage, hof, hclean⟩
  have hcontinue := standard_continuation_eq request pdu segment page hdecoded hstandard haccess
    hof
  have hagain : decodeDeviceIDPage page.request page.pdu = (page, none) := by
    rw [hof.request, hof.pdu, hpage]
  have hwith : traversal.conformityWith page = known.getD segment.conformity := by
    rw [conformityWith, hof.conformity]
    cases hknown : known with
    | none =>
      rw [h.fresh hknown]
      rfl
    | some first =>
      rcases h.conformity first hknown with ⟨hpages, hsame⟩
      rw [if_neg (by simpa using hpages)]
      exact hsame
  refine ⟨page, hasked ▸ hpage, hof, ?_, hcontinue, ?_, ?_, hwith⟩
  · exact ⟨h.isOpen, hof.request.trans h.expected.symm, hagain, h.mirrors,
      by rw [hof.objects, hobjects]⟩
  · rw [SegmentAgrees, hasked, hpage]
    refine ⟨rfl, hof.objects, hclean, ?_⟩
    rw [nextDeviceIDPageRequest, hagain]
    exact hcontinue
  · have hsame : (page.conformity != traversal.conformityWith page) = false := by
      rw [hwith, hof.conformity]
      cases hknown : known with
      | none => simp
      | some first => simp [hconformity first hknown]
    rw [withPage, hsame, hclean, h.anomalies]
    rfl

/-- A strict standard traversal, from some page on. -/
theorem Clean.completes {traversal : DeviceIDTolerantTraversal} {request : DeviceIDRequest}
    {aggregate : DeviceIDAggregate} {known : Option DeviceIDConformity}
    (h : traversal.Clean request aggregate known) (pdus : List (List UInt8))
    (pages : List DeviceIDSegment) (result : DeviceIDAggregate × DeviceIDConformity)
    (hstandard : request.extended = false) (haccess : request.access ≠ deviceIDIndividual)
    (hne : pdus ≠ []) (hpages : strictDeviceIDPages request pdus = .ok pages)
    (haggregate : aggregateDeviceIDSegments traversal.limits false request known aggregate pages =
      .ok result)
    (hmandatory : ∀ id ∈ [0, 1, 2], id ∈ result.1.seen)
    (hroom : (traversal.result.pages.length : Int) + pdus.length ≤ traversal.limits.maxSegments) :
    (∀ pair ∈ pages.zip pdus, SegmentAgrees pair.1 pair.2) ∧
    ∃ final, (tolerantPages pages pdus).foldlM add traversal = .ok final ∧ final.closed = true ∧
      final.anomalies = [] ∧
      final.result = { traversal.result with
        complete := true, conformity := result.2, objects := result.1.objects
        pages := traversal.result.pages ++ tolerantPages pages pdus } := by
  induction pdus generalizing traversal request aggregate pages known with
  | nil => exact absurd rfl hne
  | cons pdu rest ih =>
    rcases strictDeviceIDPages_cons request pdu rest pages hpages with
      ⟨segment, hdecoded, hshape⟩
    have hasked := (nextObjectID_eq_byte request pdu segment hdecoded).1
    -- The strict traversal stops after this page or goes on, and so does the tolerant one.
    rcases hshape with ⟨rfl, rfl⟩ | ⟨hmore, next, later, hnext, hlater, rfl⟩
    · rcases aggregateDeviceIDSegments_cons _ _ _ _ _ _ _ _ haggregate with
        ⟨_, _, hconformity, after, hafter, ⟨_, hlast, hresult⟩ | ⟨habsurd, _⟩⟩
      · rcases h.page pdu segment hstandard haccess hdecoded hconformity hafter with
          ⟨page, hpage, hof, htakes, _, hagrees, hclean, hwith⟩
        refine ⟨by simpa using hagrees,
          ((traversal.withPage page).holding after).close true, ?_, rfl, ?_, ?_⟩
        · simp only [tolerantPages, List.zipWith_cons_cons, hpage, List.zipWith_nil_right,
            List.foldlM_cons]
          rw [add_last traversal page aggregate after false htakes (hof.moreFollows.trans hlast)]
          rfl
        · rw [hresult] at hmandatory
          have hseen : 0 ∈ after.seen ∧ 1 ∈ after.seen ∧ 2 ∈ after.seen := by
            simpa using hmandatory
          simp [close, holding, hseen, hclean]
        · rw [hresult]
          simp only [tolerantPages, List.zipWith_cons_cons, hpage, List.zipWith_nil_right]
          simp [close, holding, withPage, hwith]
      · exact absurd rfl habsurd
    · rcases aggregateDeviceIDSegments_cons _ _ _ _ _ _ _ _ haggregate with
        ⟨_, _, hconformity, after, hafter,
          ⟨habsurd, _⟩ | ⟨_, hfollows, next', hnext', hrest⟩⟩
      · have hlength := strictDeviceIDPages_length next rest later hlater
        rw [habsurd] at hlength
        exact absurd (List.length_eq_zero_iff.mp hlength.symm) hmore
      · rw [hnext] at hnext'
        cases hnext'
        rcases h.page pdu segment hstandard haccess hdecoded hconformity hafter with
          ⟨page, hpage, hof, htakes, hcontinue, hagrees, hclean, hwith⟩
        rcases nextDeviceIDRequest_ok segment next hnext with ⟨_, hkind, _, hextended, _⟩
        rw [hasked] at hkind hextended
        have hpositive := List.length_pos_of_ne_nil hmore
        rw [List.length_cons] at hroom
        have hadd := add_more traversal page aggregate after false next htakes
          (hof.moreFollows.trans hfollows) (hcontinue.trans hnext) (by omega)
        have hstep : Clean { (traversal.withPage page).holding after with expected := next }
            next after (some (known.getD segment.conformity)) := by
          refine ⟨h.isOpen, ⟨rfl, rfl, rfl⟩, rfl, hclean, fun hnone => (nomatch hnone), ?_⟩
          rintro first ⟨⟩
          exact ⟨by simp [holding, withPage], hwith⟩
        rcases ih hstep later (hextended.trans hstandard) (hkind ▸ haccess) hmore hlater hrest (by
            simp only [holding, withPage, List.length_append, List.length_singleton]
            omega) with ⟨hall, final, hfinal, hclosed, hnothing, hresult⟩
        refine ⟨?_, final, ?_, hclosed, hnothing, ?_⟩
        · intro pair hpair
          rcases List.mem_cons.mp hpair with rfl | htail
          · exact hagrees
          · exact hall pair htail
        · simp only [tolerantPages, List.zipWith_cons_cons, hpage, List.foldlM_cons, hadd]
          exact hfinal
        · rw [hresult]
          simp [tolerantPages, hpage, holding, withPage]

end DeviceIDTolerantTraversal

theorem newDeviceIDRequest_ok (access : DeviceIDAccess) (objectID : UInt8)
    (request : DeviceIDRequest) (haccess : access ≠ deviceIDIndividual)
    (h : newDeviceIDRequest access objectID = .ok request) :
    request = { access := access } ∧ validateDeviceIDRequest request = .ok () := by
  unfold newDeviceIDRequest at h
  split_ifs at h with hknown hcursor
  cases h
  have hzero : objectID = 0 := by
    by_contra hne
    exact hcursor ⟨haccess, hne⟩
  subst hzero
  refine ⟨rfl, ?_⟩
  rw [validateDeviceIDRequest, if_neg hknown]
  simp [haccess]

/-- On a standard stream tolerant decoding is a conservative extension of strict decoding:
    page by page it reads the same objects, names no anomaly and asks for the same next
    page, and in the end it publishes the same result. -/
theorem tolerant_extends_standard (access : DeviceIDAccess) (objectID : UInt8)
    (limits : DeviceIDLimits) (request : DeviceIDRequest) (pdus : List (List UInt8))
    (pages : List DeviceIDSegment) (result : DeviceIDResult)
    (hrequest : newDeviceIDRequest access objectID = .ok request)
    (haccess : access ≠ deviceIDIndividual)
    (hpages : strictDeviceIDPages request pdus = .ok pages)
    (hresult : aggregateDeviceID request pages limits = .ok result) :
    pages.length = pdus.length ∧ (∀ pair ∈ pages.zip pdus, SegmentAgrees pair.1 pair.2) ∧
      aggregateTolerantDeviceID request (tolerantPages pages pdus) limits =
        .ok { complete := true, conformity := result.conformity, objects := result.objects
              pages := tolerantPages pages pdus, anomalies := [] } := by
  rcases newDeviceIDRequest_ok access objectID request haccess hrequest with ⟨rfl, hvalid⟩
  rcases aggregateDeviceIDStream_ok _ pages limits false result hresult with
    ⟨hlimits, hsome, hcount, aggregate, haggregate, hobjects, hmandatory⟩
  have hlength := strictDeviceIDPages_length _ pdus pages hpages
  have hstart : DeviceIDTolerantTraversal.Clean
      { limits := limits, expected := { access := access } } { access := access } {} none :=
    ⟨rfl, ⟨rfl, rfl, rfl⟩, rfl, rfl, fun _ => rfl, fun _ hnone => (nomatch hnone)⟩
  have hne : pdus ≠ [] := by
    rintro rfl
    exact hsome (List.length_eq_zero_iff.mp hlength)
  rcases hstart.completes pdus pages _ rfl haccess hne hpages haggregate (hmandatory rfl)
    (by simp only [List.length_nil]; omega) with
    ⟨hall, final, hfinal, hclosed, hnothing, hpublished⟩
  refine ⟨hlength, hall, ?_⟩
  have htolerant : (tolerantPages pages pdus).length = pages.length := by
    simp [tolerantPages, hlength]
  rw [aggregateTolerantDeviceID, newDeviceIDTolerantTraversal, hlimits]
  simp only
  rw [if_neg (by simp [hvalid])]
  simp only
  rw [if_neg (not_or.mpr ⟨?_, by rw [htolerant]; omega⟩), hfinal]
  · simp [DeviceIDTolerantTraversal.finish, hclosed, hpublished, hnothing, hobjects]
  · intro hnil
    rw [hnil] at htolerant
    exact hsome (List.length_eq_zero_iff.mp htolerant.symm)

/-- The bytes of the three mandatory objects on two pages. -/
def basicBytes : List (List UInt8) :=
  [[functionEncapsulatedInterface, deviceIDMEIType, deviceIDBasic, 0x01, 0xff, 2, 2,
      0, 1, 0x41, 1, 1, 0x42],
    [functionEncapsulatedInterface, deviceIDMEIType, deviceIDBasic, 0x01, 0, 0, 1, 2, 1, 0x43]]

/-- The pages themselves. -/
def basicSegments : List DeviceIDSegment :=
  [{ request := { access := deviceIDBasic }, conformity := 0x01, moreFollows := true
     nextObjectID := 2, objects := [⟨0, [0x41]⟩, ⟨1, [0x42]⟩], decoded := true },
    { request := { access := deviceIDBasic, objectID := 2, continuation := true }
      conformity := 0x01, moreFollows := false, nextObjectID := 0, objects := [⟨2, [0x43]⟩]
      decoded := true }]

theorem tolerant_extends_standard_basic :
    ∃ published, aggregateTolerantDeviceID { access := deviceIDBasic }
        (tolerantPages basicSegments basicBytes) defaultDeviceIDLimits = .ok published ∧
      published.complete = true ∧ published.anomalies = [] ∧
      published.objects = [⟨0, [0x41]⟩, ⟨1, [0x42]⟩, ⟨2, [0x43]⟩] := by
  have hpages : strictDeviceIDPages { access := deviceIDBasic } basicBytes =
      .ok basicSegments := by
    decide +kernel
  exact ⟨_, (tolerant_extends_standard deviceIDBasic 0 defaultDeviceIDLimits _ basicBytes _
    { conformity := 0x01, objects := [⟨0, [0x41]⟩, ⟨1, [0x42]⟩, ⟨2, [0x43]⟩], segments := _ }
    rfl (by decide) hpages rfl).2.2, rfl, rfl, rfl⟩

end HelianthusModbus
