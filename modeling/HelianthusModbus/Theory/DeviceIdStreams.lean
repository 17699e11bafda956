import HelianthusModbus.Theory.DeviceIdWalk
import Mathlib.Data.List.Chain

/-!
# Strict Device Identification Streams

A traversal asks for a page, decodes it, and asks for the next one from the cursor the page
ends with. Progress of an extended stream is checked twice, by different measures: strict
decoding of a page goes from the cursor of the request to the objects and on to the next
cursor, and the aggregate goes from object to object over all pages.

The measures differ where the cursor is at an end of the range. The aggregate does not see
the cursor between two pages, so a page that starts behind a cursor of `0x00`, or wraps
around from a cursor of `0xff`, looks like a step back and is refused. Away from this case
pages that are accepted one by one are accepted as a whole.

## Main definitions

* `StartsAtEnd`: A page asked for at an end of the range starts there.
* `HasRoom`: What the aggregate asks of objects.

## Theorems

* `extended_stream_accepted`: When pages that are accepted are accepted as a whole.
* `extended_stream_refused`: A stream with a wrap that is not.
-/

namespace HelianthusModbus

/-- Some objects are new to an aggregate, and it has room for them. -/
structure HasRoom (limits : DeviceIDLimits) (aggregate : DeviceIDAggregate)
    (objects : List DeviceIDObject) : Prop where
  fresh : ∀ object ∈ objects, object.id ∉ aggregate.seen
  distinct : (objects.map DeviceIDObject.id).Nodup
  count : (aggregate.objects.length : Int) + objects.length ≤ limits.maxObjects
  bytes : aggregate.valueBytes + valueBytesOf objects ≤ limits.maxValueBytes

/-- The aggregate with one more object. -/
def DeviceIDAggregate.push (aggregate : DeviceIDAggregate) (object : DeviceIDObject)
    (wrapped : Bool) : DeviceIDAggregate :=
  { seen := object.id :: aggregate.seen, objects := aggregate.objects ++ [object]
    valueBytes := aggregate.valueBytes + object.value.length
    previousObjectID := some object.id, wrapped := wrapped }

theorem valueBytesOf_nonneg (objects : List DeviceIDObject) : 0 ≤ valueBytesOf objects := by
  induction objects with
  | nil => exact Int.le_refl 0
  | cons object rest ih =>
    simp only [valueBytesOf, List.map_cons, List.sum_cons] at ih ⊢
    omega

theorem aggregateDeviceIDObjects_cons (limits : DeviceIDLimits) (aggregate : DeviceIDAggregate)
    (object : DeviceIDObject) (rest : List DeviceIDObject) (wrapped : Bool)
    (hroom : HasRoom limits aggregate (object :: rest))
    (hprogress : aggregate.progress true object.id = (true, wrapped)) :
    aggregateDeviceIDObjects limits true aggregate (object :: rest) =
        aggregateDeviceIDObjects limits true (aggregate.push object wrapped) rest ∧
      HasRoom limits (aggregate.push object wrapped) rest := by
  have hcount := hroom.count
  have hbytes := hroom.bytes
  have hdistinct := hroom.distinct
  have hrest := valueBytesOf_nonneg rest
  simp only [List.length_cons, valueBytesOf, List.map_cons, List.sum_cons] at hcount hbytes hrest
  simp only [List.map_cons, List.nodup_cons] at hdistinct
  constructor
  · rw [aggregateDeviceIDObjects]
    simp only [hprogress]
    rw [if_neg (by simp [hroom.fresh object (List.mem_cons_self)]), if_neg (by omega)]
    rfl
  · refine ⟨fun later hlater => ?_, hdistinct.2, ?_, ?_⟩
    · simp only [DeviceIDAggregate.push, List.mem_cons, not_or]
      refine ⟨fun hsame => ?_, hroom.fresh later (List.mem_cons_of_mem _ hlater)⟩
      exact hdistinct.1 (hsame ▸ List.mem_map_of_mem hlater)
    · simp only [DeviceIDAggregate.push, List.length_append, List.length_singleton]
      omega
    · simp only [DeviceIDAggregate.push, valueBytesOf]
      omega

/-- A page at an end of the range starts with the object it was asked for. -/
def StartsAtEnd (page : DeviceIDSegment) : Prop :=
  page.request.objectID = 0 ∨ page.request.objectID = 0xff →
    ∀ first ∈ page.objects.head?, first.id = page.request.objectID

/-- A step to the cursor of a page and one to its first object are one step, if the page
    starts with its cursor at the ends of the range. -/
theorem advanceExtendedDeviceIDObject_trans (previous cursor id : UInt8)
    (before middle after : Bool)
    (hcursor : advanceExtendedDeviceIDObject previous cursor before = some middle)
    (hfirst : (id = cursor ∧ after = middle) ∨
      advanceExtendedDeviceIDObject cursor id middle = some after)
    (hend : cursor = 0 ∨ cursor = 0xff → id = cursor) :
    advanceExtendedDeviceIDObject previous id before = some after := by
  rcases hfirst with ⟨rfl, rfl⟩ | hstep
  · exact hcursor
  · rcases advanceExtendedDeviceIDObject_ok _ _ _ _ hstep with ⟨rfl, hless⟩ | ⟨_, _, hlast, hzero⟩
    · rcases advanceExtendedDeviceIDObject_ok _ _ _ _ hcursor with
        ⟨rfl, hbelow⟩ | ⟨_, _, _, hzero⟩
      · simp [advanceExtendedDeviceIDObject, UInt8.lt_trans hbelow hless]
      · -- behind a cursor of zero the page starts with zero
        rw [hend (Or.inl hzero)] at hless
        exact absurd hless (UInt8.lt_irrefl _)
    · have hsame := hend (Or.inr hlast)
      rw [hzero, hlast] at hsame
      cases hsame

/-- The first of some extended pages: the walk through its objects, and on to the cursor of
    the next one. -/
theorem AcceptedPages.head {request : DeviceIDRequest} {page : DeviceIDSegment}
    {rest : List DeviceIDSegment} (h : AcceptedPages request (page :: rest))
    (hextended : request.extended = true) :
    page.request = request ∧ ∃ last middle,
      walkIDs true false request.objectID request.wrapped (idsOf page.objects) =
        some (last, middle) ∧
      (rest ≠ [] → page.objects ≠ [] ∧ ∃ next, AcceptedPages next rest ∧ next.extended = true ∧
        advanceExtendedDeviceIDObject last next.objectID middle = some next.wrapped) := by
  rcases h with ⟨⟨pdu, hdecoded⟩, hrest⟩
  rcases decodeDeviceIDSegment_ok request pdu page hdecoded with ⟨_, _, _, hbytes⟩
  have hasked := hbytes.asked
  rcases validateDeviceIDSegment_extended page (hasked ▸ hextended) hbytes.checked with
    ⟨progress, hprogress, hobjects⟩
  rcases validateExtendedDeviceIDProgress_split page _ progress hprogress with
    ⟨last, middle, hpage, hadvance⟩
  have hwalk := extendedObjectsProgress_walk _ _ _ _ hpage
  rw [hasked] at hwalk
  refine ⟨hasked, last, middle, hwalk, fun hne => ?_⟩
  rw [if_neg hne] at hrest
  rcases hrest with ⟨hmore, next, hnext, haccepted⟩
  rcases nextDeviceIDRequest_ok page next hnext with ⟨_, _, hcursor, hfollows, hwrapped⟩
  rw [hasked] at hfollows hwrapped
  rw [hasked, hwrapped hextended] at hprogress
  cases hprogress
  refine ⟨hobjects hmore, next, haccepted, hfollows.trans hextended, ?_⟩
  rw [hcursor]
  exact hadvance hmore

theorem idsOf_objectsOf_cons (page : DeviceIDSegment) (rest : List DeviceIDSegment) :
    idsOf (objectsOf (page :: rest)) = idsOf page.objects ++ idsOf (objectsOf rest) := by
  simp [idsOf, objectsOf]

theorem walkIDs_of_accepted (pages : List DeviceIDSegment) (request : DeviceIDRequest)
    (haccepted : AcceptedPages request pages) (hextended : request.extended = true)
    (hstart : ∀ page ∈ pages.tail, StartsAtEnd page) :
    (walkIDs true false request.objectID request.wrapped (idsOf (objectsOf pages))).isSome =
      true := by
  induction pages generalizing request with
  | nil => cases haccepted
  | cons page rest ih =>
    rcases haccepted.head hextended with ⟨_, last, middle, hwalk, hmore⟩
    rw [idsOf_objectsOf_cons, walkIDs_append, hwalk, Option.bind_some]
    cases rest with
    | nil => simp [objectsOf, idsOf, walkIDs]
    | cons second more =>
      rcases hmore (List.cons_ne_nil _ _) with ⟨hobjects, next, haccepted, hnext, hturn⟩
      have hlater := ih next haccepted hnext fun page' hmem =>
        hstart page' (List.mem_of_mem_tail hmem)
      have hsome : (idsOf page.objects).isEmpty = false := by simpa [idsOf] using hobjects
      rw [hsome]
      rcases haccepted.head hnext with ⟨hasked, _, _, _, hlast⟩
      have hends := hstart second List.mem_cons_self
      rw [StartsAtEnd, hasked] at hends
      cases hsecond : second.objects with
      | nil =>
        -- a page without objects is the last one
        have hnil : more = [] := by
          by_contra hne
          exact (hlast hne).1 hsecond
        simp [hnil, objectsOf, hsecond, idsOf, walkIDs]
      | cons object objects =>
        have hall : idsOf (objectsOf (second :: more)) =
            object.id :: idsOf (objects ++ objectsOf more) := by
          simp [idsOf, objectsOf, hsecond]
        rw [hall] at hlater ⊢
        rw [hsecond] at hends
        have hend := fun h => hends h object rfl
        simp only [walkIDs, stepID, if_true] at hlater
        simp only [walkIDs, stepID, if_true, Bool.not_false, Bool.or_true, Bool.true_eq_false,
          false_and, if_false]
        split_ifs at hlater with hfirst
        · rw [advanceExtendedDeviceIDObject_trans _ _ _ _ _ _ hturn
            (Or.inl ⟨hfirst.2, rfl⟩) hend, hfirst.2]
          exact hlater
        · rcases Option.isSome_iff_exists.mp (Option.isSome_of_isSome_bind hlater) with
            ⟨flag, hflag⟩
          rw [hflag] at hlater
          rw [advanceExtendedDeviceIDObject_trans _ _ _ _ _ _ hturn (Or.inr hflag) hend]
          exact hlater

/-- A walk with the flag up can also start with the flag down. -/
theorem walkIDs_lower (cursor : UInt8) (wrapped : Bool) (ids : List UInt8)
    (h : (walkIDs true true cursor wrapped ids).isSome = true) :
    (walkIDs true true cursor false ids).isSome = true := by
  cases wrapped with
  | false => exact h
  | true =>
    induction ids generalizing cursor with
    | nil => rfl
    | cons id rest ih =>
      simp only [walkIDs, stepID, if_true, Bool.true_eq_false, false_and, if_false] at h ⊢
      rcases Option.isSome_iff_exists.mp (Option.isSome_of_isSome_bind h) with ⟨flag, hflag⟩
      -- With the flag up the walk cannot wrap around any more, so every step goes up.
      rcases advanceExtendedDeviceIDObject_ok _ _ _ _ hflag with ⟨rfl, hless⟩ | ⟨hup, _⟩
      · rw [hflag] at h
        simpa [advanceExtendedDeviceIDObject, hless] using ih id h
      · cases hup

theorem aggregateDeviceIDObjects_of_walk (limits : DeviceIDLimits) (aggregate : DeviceIDAggregate)
    (previous : UInt8) (objects : List DeviceIDObject)
    (hprevious : aggregate.previousObjectID = some previous)
    (hroom : HasRoom limits aggregate objects)
    (h : (walkIDs true true previous aggregate.wrapped (idsOf objects)).isSome = true) :
    ∃ after, aggregateDeviceIDObjects limits true aggregate objects = .ok after ∧
      after.objects = aggregate.objects ++ objects := by
  induction objects generalizing aggregate previous with
  | nil => exact ⟨aggregate, rfl, by simp⟩
  | cons object rest ih =>
    simp only [idsOf, List.map_cons, walkIDs, stepID, if_true, Bool.true_eq_false, false_and,
      if_false] at h
    rcases Option.isSome_iff_exists.mp (Option.isSome_of_isSome_bind h) with ⟨flag, hflag⟩
    have hprogress : aggregate.progress true object.id = (true, flag) := by
      simp [DeviceIDAggregate.progress, hprevious, hflag]
    rcases aggregateDeviceIDObjects_cons limits aggregate object rest flag hroom hprogress with
      ⟨hstep, hroom'⟩
    rw [hflag] at h
    rcases ih (aggregate.push object flag) object.id rfl hroom' h with ⟨after, hafter, hall⟩
    exact ⟨after, hstep.trans hafter, by simp [hall, DeviceIDAggregate.push]⟩

/-- An id that may come after another one, whatever the wrap flag. -/
def Follows (previous id : UInt8) : Prop := previous < id ∨ previous = 0xff ∧ id = 0

theorem follows_of_advance {previous id : UInt8} {wrapped after : Bool}
    (h : advanceExtendedDeviceIDObject previous id wrapped = some after) : Follows previous id :=
  (advanceExtendedDeviceIDObject_ok _ _ _ _ h).imp And.right fun hwrap => hwrap.2.2

/-- Between two objects the cursor of the second page is at an end of the range only if the page
    starts there: nothing but `0xff` is followed by zero. -/
theorem follows_end {last cursor id : UInt8} (hcursor : Follows last cursor)
    (hfirst : Follows cursor id) (hstep : Follows last id)
    (hend : cursor = 0 ∨ cursor = 0xff) : id = cursor := by
  have hrange := id.toNat_lt
  have hlast := last.toNat_lt
  simp only [Follows, UInt8.lt_iff_toNat_lt, ← UInt8.toNat_inj, UInt8.reduceToNat] at *
  omega

/-- The aggregate takes only objects that follow each other. -/
theorem aggregateDeviceIDObjects_chain (limits : DeviceIDLimits)
    (aggregate after : DeviceIDAggregate) (objects : List DeviceIDObject)
    (h : aggregateDeviceIDObjects limits true aggregate objects = .ok after) :
    (aggregate.previousObjectID.toList ++ idsOf objects).IsChain Follows := by
  induction objects generalizing aggregate with
  | nil => cases aggregate.previousObjectID <;> simp [idsOf]
  | cons object rest ih =>
    rw [aggregateDeviceIDObjects] at h
    split_ifs at h with hprogress hlimit
    have hrest := ih _ h
    cases hprevious : aggregate.previousObjectID with
    | none => exact hrest
    | some previous =>
      refine List.isChain_cons_cons.mpr ⟨?_, hrest⟩
      cases hadvance : advanceExtendedDeviceIDObject previous object.id aggregate.wrapped with
      | none => simp [DeviceIDAggregate.progress, hprevious, hadvance] at hprogress
      | some wrapped => exact follows_of_advance hadvance

theorem walkIDs_last (extended entered : Bool) (cursor : UInt8) (wrapped : Bool)
    (ids : List UInt8) (reached : UInt8 × Bool) (hne : ids ≠ [])
    (h : walkIDs extended entered cursor wrapped ids = some reached) :
    ids.getLast? = some reached.1 := by
  induction ids generalizing entered cursor wrapped with
  | nil => exact absurd rfl hne
  | cons id rest ih =>
    have hlater : ∃ flag, walkIDs extended true id flag rest = some reached := by
      rw [walkIDs] at h
      split_ifs at h with hfirst
      · exact ⟨wrapped, hfirst.2 ▸ h⟩
      · rcases Option.bind_eq_some_iff.mp h with ⟨flag, _, hrest⟩
        exact ⟨flag, hrest⟩
    rcases hlater with ⟨flag, hlater⟩
    cases rest with
    | nil =>
      cases hlater
      rfl
    | cons second more =>
      rw [List.getLast?_cons_cons]
      exact ih _ _ _ (List.cons_ne_nil _ _) hlater

/-- Pages whose objects follow each other start at the ends of the range they were asked for. -/
theorem startsAtEnd_of_chain (pages : List DeviceIDSegment) (request : DeviceIDRequest)
    (haccepted : AcceptedPages request pages) (hextended : request.extended = true)
    (hchain : (idsOf (objectsOf pages)).IsChain Follows) :
    ∀ page ∈ pages.tail, StartsAtEnd page := by
  induction pages generalizing request with
  | nil => cases haccepted
  | cons page rest ih =>
    rcases haccepted.head hextended with ⟨_, last, middle, hwalk, hmore⟩
    rw [idsOf_objectsOf_cons, List.isChain_append] at hchain
    rcases hchain with ⟨_, hlater, hbetween⟩
    cases rest with
    | nil => simp
    | cons second more =>
      rcases hmore (List.cons_ne_nil _ _) with ⟨hobjects, next, haccepted, hnext, hturn⟩
      refine List.forall_mem_cons.mpr ⟨?_, ih next haccepted hnext hlater⟩
      rcases haccepted.head hnext with ⟨hasked, _, _, hsecond, _⟩
      rw [StartsAtEnd, hasked]
      intro hend first hfirst
      cases hobjects' : second.objects with
      | nil =>
        rw [hobjects'] at hfirst
        cases hfirst
      | cons object objects =>
        rw [hobjects'] at hfirst hsecond
        obtain rfl := Option.some.inj hfirst
        -- The last id of one page and the first of the next stand side by side in the chain.
        have hstep : Follows last object.id := by
          refine hbetween last ?_ object.id ?_
          · exact walkIDs_last _ _ _ _ _ _ (by simpa [idsOf] using hobjects) hwalk
          · simp [idsOf, objectsOf, hobjects']
        simp only [idsOf, List.map_cons, walkIDs, stepID, if_true] at hsecond
        split_ifs at hsecond with hsame
        · exact hsame.2
        · rcases Option.bind_eq_some_iff.mp hsecond with ⟨_, hadvance, _⟩
          exact follows_end (follows_of_advance hturn) (follows_of_advance hadvance) hstep hend

/-- The first request of an extended stream. -/
def streamFrom (start : UInt8) : DeviceIDRequest :=
  { access := deviceIDExtended, objectID := start, extended := true }

theorem newExtendedDeviceIDStreamRequest_ok (start : UInt8) (request : DeviceIDRequest)
    (h : newExtendedDeviceIDStreamRequest start = .ok request) :
    request = streamFrom start := by
  unfold newExtendedDeviceIDStreamRequest at h
  simp only at h
  split at h <;> cases h
  rfl

/-- What the strict fold of a whole stream says. -/
theorem aggregateDeviceIDStream_ok (request : DeviceIDRequest) (pages : List DeviceIDSegment)
    (limits : DeviceIDLimits) (extended : Bool) (result : DeviceIDResult)
    (h : aggregateDeviceIDStream request pages limits extended = .ok result) :
    validateDeviceIDLimits limits = .ok () ∧ pages ≠ [] ∧
      (pages.length : Int) ≤ limits.maxSegments ∧
      ∃ aggregate, aggregateDeviceIDSegments limits extended request none {} pages =
          .ok (aggregate, result.conformity) ∧ result.objects = aggregate.objects ∧
        (extended = false → ∀ id ∈ [0, 1, 2], id ∈ aggregate.seen) := by
  unfold aggregateDeviceIDStream at h
  split at h
  · cases h
  next hlimits =>
  simp only [ite_error_eq_ok] at h
  rcases h with ⟨_, hcount, h⟩
  push Not at hcount
  split at h
  · cases h
  next aggregate conformity haggregate =>
  rw [ite_error_eq_ok] at h
  rcases h with ⟨hmandatory, ⟨⟩⟩
  refine ⟨hlimits, hcount.1, by omega, aggregate, haggregate, rfl, ?_⟩
  rintro rfl
  simpa using hmandatory

/-- An extended stream whose pages are accepted one by one and keep the limits is accepted as a
    whole exactly if the limits are valid and each page after the first that was asked for at
    an end of the range starts there. -/
theorem extended_stream_accepted (start : UInt8) (limits : DeviceIDLimits)
    (request : DeviceIDRequest) (pages : List DeviceIDSegment) (conformity : DeviceIDConformity)
    (hrequest : newExtendedDeviceIDStreamRequest start = .ok request)
    (haccepted : AcceptedPages request pages)
    (hconformity : ∀ page ∈ pages, page.conformity = conformity)
    (hdistinct : ((objectsOf pages).map DeviceIDObject.id).Nodup)
    (hsegments : (pages.length : Int) ≤ limits.maxSegments)
    (hobjects : ((objectsOf pages).length : Int) ≤ limits.maxObjects)
    (hbytes : valueBytesOf (objectsOf pages) ≤ limits.maxValueBytes) :
    aggregateExtendedDeviceIDStream request pages limits =
        .ok { conformity := conformity, objects := objectsOf pages, segments := pages } ↔
      validateDeviceIDLimits limits = .ok () ∧ ∀ page ∈ pages.tail, StartsAtEnd page := by
  have hrequestIs := newExtendedDeviceIDStreamRequest_ok start request hrequest
  have hextended : request.extended = true := by rw [hrequestIs]; rfl
  have hfold := aggregateDeviceIDSegments_accepted limits true request none conformity {} pages
    haccepted hconformity (by simp)
  constructor
  · intro haggregated
    rcases aggregateDeviceIDStream_ok _ _ _ _ _ haggregated with
      ⟨hlimits, _, _, aggregate, haggregate, _⟩
    rw [hfold] at haggregate
    cases hall : aggregateDeviceIDObjects limits true {} (objectsOf pages) with
    | error err =>
      rw [hall] at haggregate
      cases haggregate
    | ok after =>
      exact ⟨hlimits, startsAtEnd_of_chain pages request haccepted hextended
        (aggregateDeviceIDObjects_chain limits {} after _ hall)⟩
  rintro ⟨hlimits, hstart⟩
  have hroom : HasRoom limits {} (objectsOf pages) :=
    ⟨fun _ _ hseen => (nomatch hseen), hdistinct, by simpa using hobjects, by simpa using hbytes⟩
  have hwalk := walkIDs_of_accepted pages request haccepted hextended hstart
  -- Taken as a whole the flag starts with the first object, not with the first cursor.
  have htaken : ∃ after, aggregateDeviceIDObjects limits true {} (objectsOf pages) = .ok after ∧
      after.objects = objectsOf pages := by
    cases hall : objectsOf pages with
    | nil => exact ⟨{}, rfl, rfl⟩
    | cons object rest =>
      rw [hall] at hroom hwalk
      rcases aggregateDeviceIDObjects_cons limits {} object rest false hroom rfl with
        ⟨hstep, hroom'⟩
      have hrest : ∃ flag, (walkIDs true true object.id flag (idsOf rest)).isSome = true := by
        simp only [idsOf, List.map_cons, walkIDs] at hwalk
        split_ifs at hwalk with hfirst
        · exact ⟨_, hfirst.2 ▸ hwalk⟩
        · rcases Option.isSome_iff_exists.mp (Option.isSome_of_isSome_bind hwalk) with
            ⟨flag, hflag⟩
          rw [hflag] at hwalk
          exact ⟨flag, hwalk⟩
      rcases hrest with ⟨flag, hrest⟩
      rcases aggregateDeviceIDObjects_of_walk limits _ object.id rest rfl hroom'
        (walkIDs_lower object.id flag _ hrest) with ⟨after, hafter, hobjects⟩
      exact ⟨after, hstep.trans hafter, hobjects⟩
  rcases htaken with ⟨after, hafter, hall⟩
  have hnonempty : pages ≠ [] := by
    rintro rfl
    exact haccepted
  unfold aggregateExtendedDeviceIDStream aggregateDeviceIDStream
  simp only [hlimits]
  rw [if_neg (by simp [hrequestIs, streamFrom]),
    if_neg (not_or.mpr ⟨hnonempty, Int.not_lt.mpr hsegments⟩), hfold, hafter]
  simp [Except.map, hall]

/-- The bytes of a page with one-byte objects. -/
def pageBytes (moreFollows nextObjectID : UInt8) (ids : List UInt8) : List UInt8 :=
  [functionEncapsulatedInterface, deviceIDMEIType, deviceIDExtended, 0x83, moreFollows,
    nextObjectID, UInt8.ofNat ids.length] ++ ids.flatMap fun id => [id, 1, 0x41]

/-- The page itself. -/
def pageFor (request : DeviceIDRequest) (moreFollows : Bool) (nextObjectID : UInt8)
    (ids : List UInt8) : DeviceIDSegment :=
  { request := request, conformity := 0x83, moreFollows := moreFollows
    nextObjectID := nextObjectID
    objects := ids.map fun id => { id := id, value := [0x41] }, decoded := true }

/-- The request behind a wrap of the cursor. -/
def wrappedTo (cursor : UInt8) : DeviceIDRequest :=
  { access := deviceIDExtended, objectID := cursor, continuation := true, extended := true
    wrapped := true }

/-- A stream with a wrap of the cursor between two pages, the second of which starts with
    the object it was asked for. -/
def wrappedPages : List DeviceIDSegment :=
  [pageFor (streamFrom 0xfe) true 0 [0xfe, 0xff], pageFor (wrappedTo 0) false 0 [0, 1]]

theorem extended_stream_accepted_wrap :
    aggregateExtendedDeviceIDStream (streamFrom 0xfe) wrappedPages defaultDeviceIDLimits =
      .ok { conformity := 0x83
            objects := [0xfe, 0xff, 0, 1].map fun id => { id := id, value := [0x41] }
            segments := wrappedPages } := by
  refine (extended_stream_accepted 0xfe defaultDeviceIDLimits _ _ 0x83 rfl ?_ ?_ ?_ ?_ ?_ ?_).mpr
    ⟨rfl, ?_⟩
  · exact ⟨⟨pageBytes 0xff 0 [0xfe, 0xff], by decide +kernel⟩, rfl, wrappedTo 0,
      by decide +kernel, ⟨pageBytes 0 0 [0, 1], by decide +kernel⟩, rfl⟩
  · decide +kernel
  · decide +kernel
  · decide +kernel
  · decide +kernel
  · decide +kernel
  · intro page hmem _ first hfirst
    rw [wrappedPages, List.tail_cons, List.mem_singleton] at hmem
    subst hmem
    cases hfirst
    rfl

/-- Two pages with a wrap of the cursor in between, the second of which starts behind the
    object it was asked for. -/
def refusedPages : List DeviceIDSegment :=
  [pageFor (streamFrom 0xfe) true 0 [0xff], pageFor (wrappedTo 0) false 0 [1]]

/-- They are accepted one by one and refused as a whole. -/
theorem extended_stream_refused :
    newExtendedDeviceIDStreamRequest 0xfe = .ok (streamFrom 0xfe) ∧
      validateDeviceIDLimits defaultDeviceIDLimits = .ok () ∧
      AcceptedPages (streamFrom 0xfe) refusedPages ∧
      (∀ page ∈ refusedPages, page.conformity = 0x83) ∧
      ((objectsOf refusedPages).map DeviceIDObject.id).Nodup ∧
      (refusedPages.length : Int) ≤ defaultDeviceIDLimits.maxSegments ∧
      ((objectsOf refusedPages).length : Int) ≤ defaultDeviceIDLimits.maxObjects ∧
      valueBytesOf (objectsOf refusedPages) ≤ defaultDeviceIDLimits.maxValueBytes ∧
      aggregateExtendedDeviceIDStream (streamFrom 0xfe) refusedPages defaultDeviceIDLimits =
        .error (malformedDeviceID 0 "object_progress" (-1)) := by
  refine ⟨rfl, rfl, ?_, by decide +kernel, by decide +kernel, by decide +kernel,
    by decide +kernel, by decide +kernel, by decide +kernel⟩
  exact ⟨⟨pageBytes 0xff 0 [0xff], by decide +kernel⟩, rfl, wrappedTo 0, by decide +kernel,
    ⟨pageBytes 0 0 [1], by decide +kernel⟩, rfl⟩

end HelianthusModbus
