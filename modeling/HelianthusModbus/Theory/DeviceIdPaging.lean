import HelianthusModbus.Theory.DeviceIdTolerant
import Mathlib.Data.Fintype.Card

/-!
# Paging of Device Identification Streams

A stream is a sequence of objects that arrives in pages. What a successful aggregation says
about its objects does not mention the pages, and neither does whether there is one: a page
is valid if the walk through its ids goes on to the cursor it announces, and if that is the
first id of the next page, the walks through the pages are one walk through all objects.

## Main definitions

* `Cut`, `encodeCut`: Cutting a sequence of objects into pages.

## Theorems

* `aggregation_sound`: A successful aggregation is sound.
* `paging_irrelevant`: Two cuts of one sequence have the same outcome.
-/

namespace HelianthusModbus

/-- Ids that go up, except for one step from the end of the range to its start if the wrap
    flag is up. -/
def Rising (wrapped : Bool) (ids : List UInt8) : Prop :=
  ∃ first second, ids = first ++ second ∧ first.Pairwise (· < ·) ∧ second.Pairwise (· < ·) ∧
    (second ≠ [] → wrapped = true ∧ first.getLast? = some 0xff ∧ second.head? = some 0)

theorem pairwise_concat {ids : List UInt8} (h : ids.Pairwise (· < ·)) (id : UInt8)
    (hlast : ∀ previous ∈ ids.getLast?, previous < id) : (ids ++ [id]).Pairwise (· < ·) := by
  rcases ids.eq_nil_or_concat' with rfl | ⟨before, last, rfl⟩
  · simp
  · have hless : last < id := hlast last (by simp)
    refine List.pairwise_append.mpr ⟨h, by simp, fun earlier hearlier _ hid => ?_⟩
    rw [List.mem_singleton.mp hid]
    rcases List.mem_append.mp hearlier with hbefore | hthis
    · exact UInt8.lt_trans ((List.pairwise_append.mp h).2.2 earlier hbefore last (by simp)) hless
    · rw [List.mem_singleton.mp hthis]
      exact hless

/-- One more id: the step that the aggregate allows. -/
theorem Rising.push {wrapped after : Bool} {ids : List UInt8} (h : Rising wrapped ids) (id : UInt8)
    (hfirst : ids = [] → after = wrapped)
    (hstep : ∀ previous ∈ ids.getLast?, (after = wrapped ∧ previous < id) ∨
      (wrapped = false ∧ after = true ∧ previous = 0xff ∧ id = 0)) :
    Rising after (ids ++ [id]) := by
  rcases h with ⟨first, second, rfl, hone, htwo, hwrap⟩
  -- Before the wrap the id rises or is the wrap itself; after it, it can only rise.
  cases second with
  | nil =>
    rw [List.append_nil] at hfirst hstep ⊢
    by_cases hforward : ∀ previous ∈ first.getLast?, previous < id
    · exact ⟨first ++ [id], [], by simp, pairwise_concat hone id hforward, by simp, by simp⟩
    · push Not at hforward
      rcases hforward with ⟨previous, hprevious, hback⟩
      rcases hstep previous hprevious with ⟨_, hless⟩ | ⟨_, hup, hend, rfl⟩
      · exact absurd hless hback
      · exact ⟨first, [0], rfl, hone, by simp, fun _ => ⟨hup, hend ▸ hprevious, rfl⟩⟩
  | cons zero more =>
    have hup := (hwrap (List.cons_ne_nil _ _)).1
    have hlast : (first ++ zero :: more).getLast? = (zero :: more).getLast? :=
      List.getLast?_append_of_ne_nil first (List.cons_ne_nil zero more)
    refine ⟨first, zero :: more ++ [id], by simp, hone, pairwise_concat htwo id ?_, ?_⟩
    · intro previous hprevious
      rcases hstep previous (hlast ▸ hprevious) with ⟨_, hless⟩ | ⟨hdown, _⟩
      · exact hless
      · rw [hup] at hdown
        cases hdown
    · intro _
      refine ⟨?_, (hwrap (List.cons_ne_nil _ _)).2⟩
      rcases hstep _ (hlast ▸ List.getLast?_eq_some_getLast (List.cons_ne_nil zero more)) with
        ⟨hsame, _⟩ | ⟨_, hafter, _⟩
      · exact hsame.trans hup
      · exact hafter

/-- What the strict fold has checked about the objects it holds. -/
structure DeviceIDAggregate.Sound (limits : DeviceIDLimits) (aggregate : DeviceIDAggregate) :
    Prop where
  seen : ∀ id, id ∈ aggregate.seen ↔ id ∈ idsOf aggregate.objects
  distinct : (idsOf aggregate.objects).Nodup
  previous : aggregate.previousObjectID = (idsOf aggregate.objects).getLast?
  rising : Rising aggregate.wrapped (idsOf aggregate.objects)
  count : (aggregate.objects.length : Int) ≤ limits.maxObjects
  valueBytes : aggregate.valueBytes = valueBytesOf aggregate.objects
  bytes : aggregate.valueBytes ≤ limits.maxValueBytes

theorem DeviceIDAggregate.progress_ok (aggregate : DeviceIDAggregate) (extended : Bool)
    (id : UInt8) (h : (aggregate.progress extended id).1 = true) :
    (aggregate.previousObjectID = none →
        (aggregate.progress extended id).2 = aggregate.wrapped) ∧
      ∀ previous ∈ aggregate.previousObjectID,
        ((aggregate.progress extended id).2 = aggregate.wrapped ∧ previous < id) ∨
          (extended = true ∧ aggregate.wrapped = false ∧
            (aggregate.progress extended id).2 = true ∧ previous = 0xff ∧ id = 0) := by
  unfold DeviceIDAggregate.progress at h ⊢
  cases hprevious : aggregate.previousObjectID with
  | none => simp
  | some previous =>
    simp only [hprevious] at h ⊢
    refine ⟨nofun, fun _ hsame => ?_⟩
    cases hsame
    split_ifs at h ⊢ with hextended
    · split at h
      next wrapped hadvance =>
        rcases advanceExtendedDeviceIDObject_ok _ _ _ _ hadvance with
          ⟨rfl, hless⟩ | ⟨hdown, rfl, hend, hzero⟩
        · exact Or.inl ⟨rfl, hless⟩
        · exact Or.inr ⟨hextended, hdown, rfl, hend, hzero⟩
      next => cases h
    · exact Or.inl ⟨rfl, by simpa using h⟩

/-- One more object that is new, makes progress and fits. -/
theorem DeviceIDAggregate.Sound.push {limits : DeviceIDLimits} {aggregate : DeviceIDAggregate}
    (hsound : aggregate.Sound limits) (extended : Bool) (object : DeviceIDObject)
    (hfresh : object.id ∉ aggregate.seen)
    (hprogress : (aggregate.progress extended object.id).1 = true)
    (hcount : (aggregate.objects.length : Int) ≠ limits.maxObjects)
    (hbytes : (object.value.length : Int) ≤ limits.maxValueBytes - aggregate.valueBytes) :
    (aggregate.push object (aggregate.progress extended object.id).2).Sound limits := by
  rcases aggregate.progress_ok extended object.id hprogress with ⟨hfirst, hstep⟩
  have hids : idsOf (aggregate.objects ++ [object]) =
      idsOf aggregate.objects ++ [object.id] := by simp [idsOf]
  have hlength := hsound.count
  refine ⟨fun id => ?_, ?_, ?_, ?_, ?_, ?_, ?_⟩ <;> simp only [DeviceIDAggregate.push]
  · simp [hids, hsound.seen, or_comm]
  · rw [hids, List.nodup_append]
    refine ⟨hsound.distinct, by simp, fun earlier hearlier _ hid heq => ?_⟩
    rw [heq, List.mem_singleton.mp hid] at hearlier
    exact hfresh ((hsound.seen _).mpr hearlier)
  · simp [hids]
  · rw [hids]
    refine hsound.rising.push object.id (fun hnone => ?_) (fun previous hprevious => ?_)
    · exact hfirst (hsound.previous.trans (by rw [hnone]; rfl))
    · rcases hstep previous (hsound.previous ▸ hprevious) with hforward | ⟨_, hback⟩
      · exact Or.inl hforward
      · exact Or.inr hback
  · simp only [List.length_append, List.length_singleton]
    omega
  · simp [hsound.valueBytes, valueBytesOf]
  · omega

/-- The inner loop of the strict fold keeps what was checked, and on a standard stream the
    wrap flag. -/
theorem DeviceIDAggregate.Sound.objects {limits : DeviceIDLimits} {extended : Bool}
    {aggregate after : DeviceIDAggregate} (objects : List DeviceIDObject)
    (hsound : aggregate.Sound limits)
    (h : aggregateDeviceIDObjects limits extended aggregate objects = .ok after) :
    after.Sound limits ∧ after.objects = aggregate.objects ++ objects ∧
      (extended = false → after.wrapped = aggregate.wrapped) := by
  induction objects generalizing aggregate with
  | nil =>
    cases h
    exact ⟨hsound, by simp, fun _ => rfl⟩
  | cons object rest ih =>
    rw [aggregateDeviceIDObjects] at h
    split_ifs at h with hrefused hlimit
    push Not at hrefused hlimit
    have hprogress : (aggregate.progress extended object.id).1 = true := by
      simpa using hrefused.2
    rcases ih (hsound.push extended object hrefused.1 hprogress hlimit.1 hlimit.2) h with
      ⟨hafter, hobjects, hwrapped⟩
    refine ⟨hafter, by simp [hobjects, DeviceIDAggregate.push], fun hstandard => ?_⟩
    refine (hwrapped hstandard).trans ?_
    -- without the extended rule the flag is only carried along
    rw [hstandard]
    unfold DeviceIDAggregate.push DeviceIDAggregate.progress
    cases aggregate.previousObjectID <;> rfl

/-- The outer loop of the strict fold: every segment answers its request. -/
theorem DeviceIDAggregate.Sound.segments {limits : DeviceIDLimits} {extended : Bool}
    {request : DeviceIDRequest} {known : Option DeviceIDConformity}
    {aggregate after : DeviceIDAggregate} {conformity : DeviceIDConformity}
    (segments : List DeviceIDSegment) (hsound : aggregate.Sound limits) (hne : segments ≠ [])
    (h : aggregateDeviceIDSegments limits extended request known aggregate segments =
      .ok (after, conformity)) :
    after.Sound limits ∧ after.objects = aggregate.objects ++ objectsOf segments ∧
      (extended = false → after.wrapped = aggregate.wrapped) ∧
      AcceptedPages request segments := by
  induction segments generalizing request known aggregate with
  | nil => exact absurd rfl hne
  | cons segment rest ih =>
    rcases aggregateDeviceIDSegments_cons _ _ _ _ _ _ _ _ h with
      ⟨rfl, hvalid, _, middle, hmiddle, hrest⟩
    rcases hsound.objects segment.objects hmiddle with ⟨hsound', hobjects, hwrapped⟩
    have hdecoded := decodeDeviceIDSegment_encode segment hvalid
    rcases hrest with ⟨rfl, hlast, hresult⟩ | ⟨hmore, hfollows, next, hnext, hrest⟩
    · cases hresult
      exact ⟨hsound', by simp [hobjects, objectsOf], hwrapped, ⟨_, hdecoded⟩, hlast⟩
    · rcases ih hsound' hmore hrest with ⟨hafter, hall, hflag, haccepted⟩
      refine ⟨hafter, by simp [hall, hobjects, objectsOf],
        fun hstandard => (hflag hstandard).trans (hwrapped hstandard), ⟨_, hdecoded⟩, ?_⟩
      rw [if_neg hmore]
      exact ⟨hfollows, next, hnext, haccepted⟩

/-- What a successful aggregation of a stream says. -/
structure SoundStream (request : DeviceIDRequest) (segments : List DeviceIDSegment)
    (limits : DeviceIDLimits) (result : DeviceIDResult) : Prop where
  objects : result.objects = objectsOf segments
  distinct : (idsOf result.objects).Nodup
  chained : AcceptedPages request segments
  pages : (segments.length : Int) ≤ limits.maxSegments
  count : (result.objects.length : Int) ≤ limits.maxObjects
  bytes : valueBytesOf result.objects ≤ limits.maxValueBytes
  ids : result.objects.length ≤ 256

theorem length_le_of_nodup (ids : List UInt8) (h : ids.Nodup) : ids.length ≤ 256 := by
  have hnodup : (ids.map UInt8.toFin).Nodup := h.map fun _ _ heq => UInt8.toFin_inj.mp heq
  simpa using hnodup.length_le_card

theorem aggregateDeviceIDStream_sound (request : DeviceIDRequest)
    (segments : List DeviceIDSegment) (limits : DeviceIDLimits) (extended : Bool)
    (result : DeviceIDResult)
    (h : aggregateDeviceIDStream request segments limits extended = .ok result) :
    SoundStream request segments limits result ∧ Rising extended (idsOf result.objects) ∧
      (extended = false → ∀ id ∈ [0, 1, 2], id ∈ idsOf result.objects) := by
  rcases aggregateDeviceIDStream_ok _ _ _ _ _ h with
    ⟨hlimits, hne, hpages, aggregate, haggregate, hobjects, hbasic⟩
  have hlimits' : 1 ≤ limits.maxObjects ∧ 1 ≤ limits.maxValueBytes := by
    unfold validateDeviceIDLimits at hlimits
    split_ifs at hlimits with hbad
    omega
  have hstart : ({} : DeviceIDAggregate).Sound limits :=
    ⟨by simp [idsOf], by simp [idsOf], rfl, ⟨[], [], by simp [idsOf]⟩,
      show (0 : Int) ≤ _ by omega, rfl, show (0 : Int) ≤ _ by omega⟩
  rcases hstart.segments segments hne haggregate with ⟨hsound, hall, hflag, hchained⟩
  rw [← hobjects] at hall
  have hdistinct : (idsOf result.objects).Nodup := by
    rw [hobjects]
    exact hsound.distinct
  refine ⟨⟨by simpa using hall, hdistinct, hchained, hpages, ?_, ?_, ?_⟩, ?_, fun hstandard => ?_⟩
  · rw [hobjects]
    exact hsound.count
  · rw [hobjects, ← hsound.valueBytes]
    exact hsound.bytes
  · simpa [idsOf] using length_le_of_nodup _ hdistinct
  · rcases hsound.rising with ⟨first, second, hids, hfirst, hsecond, hwrap⟩
    rw [hobjects]
    refine ⟨first, second, hids, hfirst, hsecond, fun hne => ?_⟩
    refine ⟨?_, (hwrap hne).2⟩
    by_contra hstandard
    rw [hflag (by simpa using hstandard)] at hwrap
    exact absurd (hwrap hne).1 (by simp)
  · intro id hid
    rw [hobjects]
    exact (hsound.seen id).mp (hbasic hstandard id hid)

/-- A successful aggregation is sound, and its ids go up: around the end of the range once at
    most if the stream is an extended one, and not at all otherwise. -/
theorem aggregation_sound (request : DeviceIDRequest) (segments : List DeviceIDSegment)
    (limits : DeviceIDLimits) (result : DeviceIDResult) :
    (aggregateDeviceID request segments limits = .ok result →
      SoundStream request segments limits result ∧
        (idsOf result.objects).Pairwise (· < ·) ∧
        ∀ id ∈ [0, 1, 2], id ∈ idsOf result.objects) ∧
    (aggregateExtendedDeviceIDStream request segments limits = .ok result →
      SoundStream request segments limits result ∧ Rising true (idsOf result.objects)) := by
  refine ⟨fun h => ?_, fun h => ?_⟩
  · rcases aggregateDeviceIDStream_sound _ _ _ _ _ h with ⟨hsound, hrising, hbasic⟩
    refine ⟨hsound, ?_, hbasic rfl⟩
    rcases hrising with ⟨first, second, hids, hfirst, _, hwrap⟩
    cases second with
    | nil => rwa [hids, List.append_nil]
    | cons zero more => exact absurd (hwrap (List.cons_ne_nil _ _)).1 (by decide)
  · exact ⟨(aggregateDeviceIDStream_sound _ _ _ _ _ h).1,
      (aggregateDeviceIDStream_sound _ _ _ _ _ h).2.1⟩

/-- The mandatory objects on two pages. -/
def basicPages : List DeviceIDSegment :=
  [pageFor { access := deviceIDBasic } true 2 [0, 1],
    pageFor { access := deviceIDBasic, objectID := 2, continuation := true } false 0 [2]]

/-- The ids of two standard pages go up, and those of two extended pages with a wrap between
    them go up around the end of the range. -/
theorem aggregation_sound_basic :
    (∃ result, aggregateDeviceID { access := deviceIDBasic } basicPages defaultDeviceIDLimits =
          .ok result ∧ idsOf result.objects = [0, 1, 2] ∧
        SoundStream { access := deviceIDBasic } basicPages defaultDeviceIDLimits result) ∧
      ∃ result, aggregateExtendedDeviceIDStream (streamFrom 0xfe) wrappedPages
            defaultDeviceIDLimits = .ok result ∧ idsOf result.objects = [0xfe, 0xff, 0, 1] ∧
        SoundStream (streamFrom 0xfe) wrappedPages defaultDeviceIDLimits result ∧
        Rising true (idsOf result.objects) :=
  ⟨⟨_, rfl, rfl, ((aggregation_sound _ _ _ _).1 rfl).1⟩,
    ⟨_, rfl, rfl, (aggregation_sound _ _ _ _).2 rfl⟩⟩

theorem walkIDs_standard (entered : Bool) (cursor : UInt8) (wrapped : Bool) (id : UInt8)
    (rest : List UInt8) :
    (walkIDs false entered cursor wrapped (id :: rest)).isSome = true ↔
      ((entered = false ∧ id = cursor) ∨ cursor < id) ∧
        (walkIDs false true id wrapped rest).isSome = true := by
  simp only [walkIDs, stepID]
  by_cases hcursor : entered = false ∧ id = cursor
  · simp [hcursor]
  · by_cases hless : cursor < id <;> simp [hcursor, hless]

theorem walkIDs_standard_flag (entered : Bool) (cursor : UInt8) (wrapped : Bool)
    (ids : List UInt8) (reached : UInt8 × Bool)
    (h : walkIDs false entered cursor wrapped ids = some reached) : reached.2 = wrapped := by
  induction ids generalizing entered cursor with
  | nil =>
    cases h
    rfl
  | cons id rest ih =>
    simp only [walkIDs, stepID, Bool.false_eq_true, if_false] at h
    split_ifs at h with hcursor hless
    · exact ih _ _ h
    · exact ih _ _ h
    · cases h

/-- One more id of a standard stream: it is above the last one. -/
theorem walkIDs_standard_concat (cursor : UInt8) (wrapped : Bool) (objects : List DeviceIDObject)
    (last : DeviceIDObject) (id : UInt8) (hlast : objects.getLast? = some last) :
    (walkIDs false false cursor wrapped (idsOf objects ++ [id])).isSome = true ↔
      (walkIDs false false cursor wrapped (idsOf objects)).isSome = true ∧ last.id < id := by
  rcases List.getLast?_eq_some_iff.mp hlast with ⟨before, rfl⟩
  have hids : idsOf (before ++ [last]) = idsOf before ++ [last.id] := by simp [idsOf]
  rw [hids, walkIDs_append]
  cases hwalk : walkIDs false false cursor wrapped (idsOf before ++ [last.id]) with
  | none => simp
  | some reached =>
    have hreached : reached.1 = last.id := by
      rw [walkIDs_append] at hwalk
      rcases Option.bind_eq_some_iff.mp hwalk with ⟨middle, _, hstep⟩
      simp only [walkIDs] at hstep
      split_ifs at hstep with hcursor
      · cases hstep
        exact hcursor.2.symm
      · rcases Option.bind_eq_some_iff.mp hstep with ⟨flag, _, hflag⟩
        cases hflag
        rfl
    by_cases hless : last.id < id <;> simp [walkIDs, stepID, hreached, hless]

/-- The rules of a standard stream for an id. -/
def Allows (request : DeviceIDRequest) (conformity : DeviceIDConformity) (id : UInt8) : Prop :=
  request.extended = false → reservedObjectID id = false ∧
    objectAllowedByAccess id request.access = true ∧
    objectAllowedByConformity id conformity = true

/-- The objects of a standard page that fit are valid if their ids are allowed and the walk
    goes through. -/
theorem standardObjectsValid_iff (request : DeviceIDRequest) (conformity : DeviceIDConformity)
    (previous : Option UInt8) (encodedSize : Nat) (objects : List DeviceIDObject)
    (hstandard : request.extended = false) (haccess : request.access ≠ deviceIDIndividual)
    (hheader : 7 ≤ encodedSize)
    (hroom : encodedSize + (objects.flatMap DeviceIDObject.encode).length ≤ maxPDUSize) :
    standardObjectsValid request conformity previous encodedSize objects = .ok () ↔
      (∀ id ∈ idsOf objects, Allows request conformity id) ∧
        (walkIDs false previous.isSome (previous.getD request.objectID) request.wrapped
          (idsOf objects)).isSome = true := by
  induction objects generalizing previous encodedSize with
  | nil => simp [standardObjectsValid, walkIDs, idsOf]
  | cons object rest ih =>
    rcases encode_room hroom hheader with ⟨hvalue, hsize, hleft⟩
    have hrest := ih (some object.id) _ (by omega) hleft
    have hstep : (¬(previous.any fun last => object.id ≤ last) = true ∧
        ¬(previous = none ∧ object.id < request.objectID)) ↔
        (previous.isSome = false ∧ object.id = previous.getD request.objectID) ∨
          previous.getD request.objectID < object.id := by
      cases previous with
      | none => simp [UInt8.le_iff_lt_or_eq, or_comm, eq_comm]
      | some last => simp
    simp only [standardObjectsValid, ite_error_eq_ok, hrest]
    simp only [idsOf, List.map_cons, List.forall_mem_cons, walkIDs_standard, ← hstep,
      Option.isSome_some, Option.getD_some, Allows, hstandard, true_implies]
    simp only [Nat.not_lt.mpr hvalue, Nat.not_lt.mpr hsize, haccess, ne_eq, not_false_eq_true,
      true_and, not_or, Bool.not_eq_true, Bool.not_eq_false]
    tauto

/-- A page with some objects, which announces the next id if there is one. -/
abbrev pageOf (request : DeviceIDRequest) (conformity : DeviceIDConformity)
    (objects : List DeviceIDObject) (next : Option UInt8) : DeviceIDSegment :=
  { request := request, conformity := conformity, moreFollows := next.isSome
    nextObjectID := next.getD 0, objects := objects, decoded := true }

/-- What a page needs besides its objects. -/
structure Streamable (request : DeviceIDRequest) (conformity : DeviceIDConformity) : Prop where
  valid : validateDeviceIDRequest request = .ok ()
  extended : request.extended = true →
    request.access = deviceIDExtended ∧ conformity &&& 0x7f = deviceIDExtended
  conformity : validDeviceIDConformity conformity = true

/-- The request that continues a stream. -/
abbrev DeviceIDRequest.continueAt (request : DeviceIDRequest) (id : UInt8) (flag : Bool) :
    DeviceIDRequest :=
  { access := request.access, objectID := id, continuation := true
    extended := request.extended, wrapped := flag }

section Page

variable (request : DeviceIDRequest) (conformity : DeviceIDConformity)
  (objects : List DeviceIDObject) (next : Option UInt8)

theorem pageOf_length : (pageOf request conformity objects next).encode.length =
    7 + (objects.flatMap DeviceIDObject.encode).length := by
  simp only [DeviceIDSegment.encode, List.length_append, List.length_cons, List.length_nil]

theorem length_le_encode : 2 * objects.length ≤ (objects.flatMap DeviceIDObject.encode).length := by
  induction objects with
  | nil => simp
  | cons object rest ih =>
    simp only [List.flatMap_cons, List.length_append, List.length_cons,
      DeviceIDObject.encode_length]
    omega

theorem decodeDeviceIDObjects_encode (encodedSize : Nat) (hheader : 7 ≤ encodedSize)
    (hroom : encodedSize + (objects.flatMap DeviceIDObject.encode).length ≤ maxPDUSize)
    (found : List DeviceIDObject)
    (h : ∃ last, decodeDeviceIDObjects functionEncapsulatedInterface
      (UInt8.ofNat objects.length).toNat 7 (objects.flatMap DeviceIDObject.encode) =
        .ok (found, last, [])) : objects = found := by
  have hlength := length_le_encode objects
  rw [maxPDUSize] at hroom
  have hvalues : ∀ object ∈ objects, object.value.length ≤ maxDeviceIDObjectValueBytes := by
    intro object hobject
    have hle := (List.sublist_flatten_of_mem
      (List.mem_map_of_mem (f := DeviceIDObject.encode) hobject)).length_le
    rw [← List.flatMap_def, DeviceIDObject.encode_length] at hle
    rw [maxDeviceIDObjectValueBytes]
    omega
  have hcount : (UInt8.ofNat objects.length).toNat = objects.length := by
    rw [UInt8.toNat_ofNat']
    omega
  rcases h with ⟨last, hread⟩
  rcases (decodeDeviceIDObjects_ok_iff functionEncapsulatedInterface objects.length 7
    (objects.flatMap DeviceIDObject.encode) objects).mpr ⟨rfl, rfl, hvalues⟩ with ⟨last', hread'⟩
  rw [hcount, hread'] at hread
  exact (Prod.mk.inj (Except.ok.inj hread)).1

variable (haccess : request.access ≠ deviceIDIndividual) (hne : objects ≠ [])
  (hfits : (pageOf request conformity objects next).encode.length ≤ maxPDUSize)

include hne hfits in
/-- An extended page is valid if no id repeats and the walk goes through, on to the cursor it
    announces. -/
theorem validateExtendedDeviceIDProgress_iff (flag : Bool) (hextended : request.extended = true)
    (hidentity : request.access = deviceIDExtended ∧ conformity &&& 0x7f = deviceIDExtended) :
    validateExtendedDeviceIDProgress (pageOf request conformity objects next) request.wrapped =
        .ok flag ↔
      (idsOf objects).Nodup ∧ ∃ last,
        walkIDs true false request.objectID request.wrapped (idsOf objects ++ next.toList) =
          some (last, flag) := by
  rw [pageOf_length] at hfits
  have hids : idsOf objects ≠ [] := by simpa [idsOf] using hne
  have hobjects := fun reached => extendedObjectsProgress_iff request.objectID false 7 []
    request.wrapped objects reached (Nat.le_refl 7) hfits
  simp only [List.not_mem_nil, not_false_eq_true, implies_true, and_true] at hobjects
  unfold validateExtendedDeviceIDProgress
  rw [ite_error_eq_ok]
  simp only [hextended, hidentity.1, hidentity.2, Bool.true_eq_false, ne_eq, not_true_eq_false,
    or_self, not_false_eq_true, true_and]
  constructor
  · intro h
    split at h
    next => cases h
    next last middle hprogress =>
      rcases (hobjects _).mp hprogress with ⟨hnodup, hwalk⟩
      refine ⟨hnodup, ?_⟩
      -- Without a cursor the walk ends with the objects; with one it takes a step more.
      cases next with
      | none =>
        cases h
        exact ⟨last, by simpa using hwalk⟩
      | some id =>
        simp only [Option.isSome_some, if_true, Option.getD_some] at h
        split at h
        next => cases h
        next after hadvance =>
          cases h
          exact ⟨id, by simp [walkIDs_append, hwalk, walkIDs, stepID, hadvance, hids]⟩
  · rintro ⟨hnodup, last, hwalk⟩
    cases next with
    | none =>
      rw [Option.toList_none, List.append_nil] at hwalk
      rw [(hobjects _).mpr ⟨hnodup, hwalk⟩]
      rfl
    | some id =>
      rcases walkIDs_concat _ _ _ _ _ _ hids hwalk with ⟨rfl, before, hbefore, hstep⟩
      rw [(hobjects before).mpr ⟨hnodup, hbefore⟩]
      simp only [stepID, if_true] at hstep
      simp [hstep]

include haccess hne hfits in
/-- A page is valid if its request is one of a stream, its ids may stand in it and the walk
    goes through, on to the cursor it announces. -/
theorem validateDeviceIDSegment_iff :
    validateDeviceIDSegment (pageOf request conformity objects next) = .ok () ↔
      Streamable request conformity ∧ (request.extended = true → (idsOf objects).Nodup) ∧
        (∀ id ∈ idsOf objects ++ next.toList, Allows request conformity id) ∧
        (walkIDs request.extended false request.objectID request.wrapped
          (idsOf objects ++ next.toList)).isSome = true := by
  have hcount : ¬objects.length > 0xff := by
    have hlength := length_le_encode objects
    rw [pageOf_length, maxPDUSize] at hfits
    omega
  have hids : idsOf objects ≠ [] := by simpa [idsOf] using hne
  have hcontinuation : ¬((next.isSome = false ∧ next.getD 0 ≠ 0) ∨
      (next.isSome = true ∧ next.getD 0 = 0 ∧ request.extended = false) ∨
      (next.isSome = true ∧ objects = [])) ↔ (next = some 0 → request.extended = true) := by
    cases next <;> simp [hne]
  unfold validateDeviceIDSegment
  simp only [ite_error_eq_ok, hcontinuation, hcount, haccess, false_and, not_false_eq_true,
    true_and]
  -- The two stream kinds are checked by two functions, so each has its own equivalence.
  by_cases hextended : request.extended = true
  · have hprogress := fun flag => validateExtendedDeviceIDProgress_iff request conformity objects
      next hne hfits flag hextended
    simp only [hextended, if_true]
    constructor
    · rintro ⟨hidentity, _, h⟩
      split at h
      next => cases h
      next flag hflag =>
        push Not at hidentity
        have hstream : request.access = deviceIDExtended ∧
            conformity &&& 0x7f = deviceIDExtended := by
          unfold validateExtendedDeviceIDProgress at hflag
          rw [ite_error_eq_ok] at hflag
          simpa [not_or, hextended] using hflag.1
        rcases (hprogress flag hstream).mp hflag with ⟨hnodup, last, hwalk⟩
        exact ⟨⟨hidentity.2.1, fun _ => hstream, by simpa using hidentity.2.2⟩, fun _ => hnodup,
          fun _ _ hstandard => by simp [hextended] at hstandard, by simp [hwalk]⟩
    · rintro ⟨hstream, hnodup, _, hwalk⟩
      rcases Option.isSome_iff_exists.mp hwalk with ⟨⟨last, flag⟩, hwalk⟩
      rw [(hprogress flag (hstream.extended hextended)).mpr ⟨hnodup trivial, last, hwalk⟩]
      simp [hstream.valid, hstream.conformity]
  · have hstandard : request.extended = false := by simpa using hextended
    have hobjects := standardObjectsValid_iff request conformity none 7 objects hstandard haccess
      (Nat.le_refl 7) (pageOf_length request conformity objects next ▸ hfits)
    simp only [Option.isSome_none, Option.getD_none] at hobjects
    have hlast := List.getLast?_eq_some_getLast hne
    simp only [hstandard, Bool.false_eq_true, if_false]
    constructor
    · rintro ⟨hidentity, _, h⟩
      push Not at hidentity
      split at h
      next => cases h
      next hvalid =>
        rcases hobjects.mp hvalid with ⟨hallowed, hwalk⟩
        refine ⟨⟨hidentity.2.1, fun habsurd => absurd habsurd hextended,
          by simpa using hidentity.2.2⟩, by simp, ?_⟩
        cases next with
        | none => simpa using ⟨hallowed, hwalk⟩
        | some id =>
          simp only [Option.isSome_some, if_true, hlast, Option.getD_some, ite_error_eq_ok] at h
          push Not at h
          rw [Option.toList_some, walkIDs_standard_concat _ _ _ _ _ hlast]
          refine ⟨fun other hother => ?_, hwalk, UInt8.not_le.mp h.1.1⟩
          rcases List.mem_append.mp hother with hthis | hnext
          · exact hallowed other hthis
          · rw [List.mem_singleton.mp hnext]
            exact fun _ => by simpa using h.1.2
    · rintro ⟨hstream, _, hallowed, hwalk⟩
      have hvalid : standardObjectsValid request conformity none 7 objects = .ok () := by
        refine hobjects.mpr ⟨fun id hid => hallowed id (List.mem_append_left _ hid), ?_⟩
        rw [walkIDs_append] at hwalk
        exact Option.isSome_of_isSome_bind hwalk
      rw [hvalid]
      cases next with
      | none => simp [hstream.valid, hstream.conformity]
      | some id =>
        rw [Option.toList_some, walkIDs_standard_concat _ _ _ _ _ hlast] at hwalk
        have hid := hallowed id (by simp) hstandard
        have hzero : id ≠ 0 := by
          rintro rfl
          exact UInt8.not_lt_zero hwalk.2
        simp [hstream.valid, hstream.conformity, hlast, hid, hwalk.2, hzero]

include haccess hne hfits in
theorem nextDeviceIDRequest_pageOf (id : UInt8) (hnext : next = some id)
    (h : validateDeviceIDSegment (pageOf request conformity objects next) = .ok ()) :
    ∃ flag, walkIDs request.extended false request.objectID request.wrapped
        (idsOf objects ++ [id]) = some (id, flag) ∧
      nextDeviceIDRequest (pageOf request conformity objects next) =
        .ok (request.continueAt id flag) := by
  have hids : idsOf objects ≠ [] := by simpa [idsOf] using hne
  rcases (validateDeviceIDSegment_iff request conformity objects next haccess hne hfits).mp h with
    ⟨hstream, hnodup, _, hwalk⟩
  rcases Option.isSome_iff_exists.mp hwalk with ⟨⟨last, flag⟩, hwalk⟩
  subst hnext
  rcases walkIDs_concat _ _ _ _ _ _ hids hwalk with ⟨rfl, _⟩
  refine ⟨flag, hwalk, ?_⟩
  unfold nextDeviceIDRequest
  simp only [h, haccess, Option.isSome_some, Bool.true_eq_false, or_self, if_false,
    Option.getD_some]
  by_cases hextended : request.extended = true
  · rw [if_pos hextended, (validateExtendedDeviceIDProgress_iff request conformity objects
      _ hne hfits flag hextended (hstream.extended hextended)).mpr
      ⟨hnodup hextended, _, hextended ▸ hwalk⟩]
  · rw [if_neg hextended]
    rw [Bool.not_eq_true] at hextended
    rw [hextended] at hwalk
    have hflag : flag = request.wrapped := walkIDs_standard_flag _ _ _ _ _ hwalk
    rw [hflag]

include hfits in
/-- Decoding the bytes of a page gives the page, if it is valid. -/
theorem decodeDeviceIDSegment_pageOf (segment : DeviceIDSegment) :
    decodeDeviceIDSegment request (pageOf request conformity objects next).encode =
        .ok segment ↔
      segment = pageOf request conformity objects next ∧
        validateDeviceIDSegment (pageOf request conformity objects next) = .ok () := by
  constructor
  · intro h
    rcases decodeDeviceIDSegment_ok _ _ _ h with ⟨moreByte, count, rest, hbytes⟩
    have hsegment : segment = pageOf request conformity objects next := by
      have hheader := hbytes.bytes
      simp only [DeviceIDSegment.encode, List.cons_append, List.nil_append, List.cons.injEq,
        true_and] at hheader
      rcases hheader with ⟨hconformity, rfl, hnext, rfl, rfl⟩
      have hmore : next.isSome = segment.moreFollows :=
        Option.some.inj (((decodeMoreFollows_eq_some _ _).mpr rfl).symm.trans hbytes.more)
      have hobjects := decodeDeviceIDObjects_encode objects _ (Nat.le_refl 7)
        (pageOf_length request conformity objects next ▸ hfits) segment.objects hbytes.objects
      have hdecoded := (validateDeviceIDSegment_fits segment hbytes.checked).decoded
      have hasked := hbytes.asked
      cases segment
      simp_all
    exact ⟨hsegment, hsegment ▸ hbytes.checked⟩
  · rintro ⟨rfl, hvalid⟩
    exact decodeDeviceIDSegment_encode _ hvalid

end Page

/-- The id that the page before some others announces. -/
def firstID (rest : List (List DeviceIDObject)) : Option UInt8 :=
  (rest.head?.bind List.head?).map DeviceIDObject.id

/-- The responses of a device that cuts its objects into pages. -/
def encodeCut (access : DeviceIDAccess) (conformity : DeviceIDConformity) :
    List (List DeviceIDObject) → List (List UInt8)
  | [] => []
  | objects :: rest =>
    (pageOf { access := access } conformity objects (firstID rest)).encode ::
      encodeCut access conformity rest

/-- Of a request only the access code is in the bytes. -/
theorem encodeCut_cons (request : DeviceIDRequest) (conformity : DeviceIDConformity)
    (objects : List DeviceIDObject) (rest : List (List DeviceIDObject)) :
    encodeCut request.access conformity (objects :: rest) =
      (pageOf request conformity objects (firstID rest)).encode ::
        encodeCut request.access conformity rest := rfl

theorem encodeCut_length (access : DeviceIDAccess) (conformity : DeviceIDConformity)
    (cut : List (List DeviceIDObject)) : (encodeCut access conformity cut).length = cut.length := by
  induction cut with
  | nil => rfl
  | cons objects rest ih => simp [encodeCut, ih]

/-- A way to cut objects into pages: none is empty, and each fits in a PDU. -/
structure Cut (access : DeviceIDAccess) (conformity : DeviceIDConformity)
    (pages : List (List DeviceIDObject)) : Prop where
  nonempty : ∀ objects ∈ pages, objects ≠ []
  fits : ∀ pdu ∈ encodeCut access conformity pages, pdu.length ≤ maxPDUSize

theorem Cut.tail {access : DeviceIDAccess} {conformity : DeviceIDConformity}
    {objects : List DeviceIDObject} {rest : List (List DeviceIDObject)}
    (h : Cut access conformity (objects :: rest)) : Cut access conformity rest :=
  ⟨fun page hpage => h.nonempty page (List.mem_cons_of_mem _ hpage),
    fun pdu hpdu => h.fits pdu (List.mem_cons_of_mem _ hpdu)⟩

/-- What announces the next page is the first id of all that is left. -/
theorem Cut.firstID {access : DeviceIDAccess} {conformity : DeviceIDConformity}
    {page : List DeviceIDObject} {rest : List (List DeviceIDObject)}
    (h : Cut access conformity (page :: rest)) :
    ∃ id more, firstID (page :: rest) = some id ∧ idsOf (page :: rest).flatten = id :: more := by
  cases page with
  | nil => exact absurd rfl (h.nonempty _ (by simp))
  | cons object objects =>
    exact ⟨object.id, idsOf (objects ++ rest.flatten), rfl, by simp [idsOf]⟩

/-- Decoding the pages of a cut one after the other. -/
theorem strictDeviceIDPages_cut (request : DeviceIDRequest) (conformity : DeviceIDConformity)
    (cut : List (List DeviceIDObject)) (pages : List DeviceIDSegment)
    (haccess : request.access ≠ deviceIDIndividual) (hne : cut ≠ [])
    (hcut : Cut request.access conformity cut)
    (h : strictDeviceIDPages request (encodeCut request.access conformity cut) = .ok pages) :
    AcceptedPages request pages ∧ objectsOf pages = cut.flatten ∧
      (∀ page ∈ pages, page.conformity = conformity) ∧ Streamable request conformity ∧
      (∀ id ∈ idsOf cut.flatten, Allows request conformity id) ∧
      (walkIDs request.extended false request.objectID request.wrapped
        (idsOf cut.flatten)).isSome = true := by
  induction cut generalizing request pages with
  | nil => exact absurd rfl hne
  | cons objects rest ih =>
    have hobjects := hcut.nonempty objects (by simp)
    have hfits : (pageOf request conformity objects (firstID rest)).encode.length ≤
        maxPDUSize := hcut.fits _ List.mem_cons_self
    rcases strictDeviceIDPages_cons _ _ _ _ h with ⟨segment, hdecoded, hpages⟩
    rcases (decodeDeviceIDSegment_pageOf request conformity objects (firstID rest) hfits
      segment).mp hdecoded with ⟨rfl, hvalid⟩
    rcases (validateDeviceIDSegment_iff request conformity objects (firstID rest) haccess
      hobjects hfits).mp hvalid with ⟨hstream, _, hallowed, hwalk⟩
    -- The cursor of a page is the first id of the next, so the walks of the pages join.
    cases rest with
    | nil =>
      rcases hpages with ⟨_, rfl⟩ | ⟨habsurd, _⟩
      · simp only [firstID, List.head?_nil, Option.bind_none, Option.map_none,
          Option.toList_none, List.append_nil] at hallowed hwalk
        exact ⟨⟨⟨_, hdecoded⟩, rfl⟩, by simp [objectsOf], by simp, hstream,
          by simpa using hallowed, by simpa using hwalk⟩
      · exact absurd rfl habsurd
    | cons page more =>
      rcases hcut.tail.firstID with ⟨id, ids, hfirst, hids⟩
      rcases hpages with ⟨habsurd, _⟩ | ⟨_, next, later, hnext, hlater, rfl⟩
      · simp [encodeCut] at habsurd
      · rcases nextDeviceIDRequest_pageOf request conformity objects _ haccess hobjects hfits
          id hfirst hvalid with ⟨flag, hreached, hnext'⟩
        rw [hnext'] at hnext
        cases hnext
        rcases ih (request.continueAt id flag) later haccess (List.cons_ne_nil _ _) hcut.tail
          hlater with
          ⟨haccepted, hflat, hconformity, _, hallowed', hwalk'⟩
        have hall : idsOf (objects :: page :: more).flatten =
            idsOf objects ++ idsOf (page :: more).flatten := by simp [idsOf]
        refine ⟨⟨⟨_, hdecoded⟩, ?_⟩, ?_, ?_, hstream, ?_, ?_⟩
        · have hlong : later ≠ [] := by
            rintro rfl
            cases haccepted
          rw [if_neg hlong]
          exact ⟨by simp [hfirst], _, hnext', haccepted⟩
        · simp [objectsOf] at hflat ⊢
          exact hflat
        · simpa using hconformity
        · intro other hother
          rw [hall] at hother
          rcases List.mem_append.mp hother with hthis | hrest
          · exact hallowed other (List.mem_append_left _ hthis)
          · exact hallowed' other hrest
        · rw [hall, hids, walkIDs_cut _ _ _ _ _ _ (by simpa [idsOf] using hobjects), hreached]
          rw [hids] at hwalk'
          exact hwalk'

/-- The pages of a cut can be decoded if the walk goes through all its objects. -/
theorem strictDeviceIDPages_of_walk (request : DeviceIDRequest) (conformity : DeviceIDConformity)
    (cut : List (List DeviceIDObject)) (haccess : request.access ≠ deviceIDIndividual)
    (hcut : Cut request.access conformity cut) (hstream : Streamable request conformity)
    (hnodup : (idsOf cut.flatten).Nodup)
    (hallowed : ∀ id ∈ idsOf cut.flatten, Allows request conformity id)
    (hwalk : (walkIDs request.extended false request.objectID request.wrapped
      (idsOf cut.flatten)).isSome = true) :
    ∃ pages, strictDeviceIDPages request (encodeCut request.access conformity cut) =
      .ok pages := by
  induction cut generalizing request with
  | nil => exact ⟨[], rfl⟩
  | cons objects rest ih =>
    have hobjects := hcut.nonempty objects (by simp)
    have hfits : (pageOf request conformity objects (firstID rest)).encode.length ≤
        maxPDUSize := hcut.fits _ List.mem_cons_self
    have hall : idsOf (objects :: rest).flatten = idsOf objects ++ idsOf rest.flatten := by
      simp [idsOf]
    rw [hall] at hnodup hallowed hwalk
    have hpage := (validateDeviceIDSegment_iff request conformity objects (firstID rest) haccess
      hobjects hfits).mpr
    cases rest with
    | nil =>
      have hvalid := hpage ⟨hstream, fun _ => (List.nodup_append.mp hnodup).1,
        by simpa [firstID, idsOf] using hallowed, by simpa [firstID, idsOf] using hwalk⟩
      have hdecoded := (decodeDeviceIDSegment_pageOf request conformity objects _ hfits
        _).mpr ⟨rfl, hvalid⟩
      exact ⟨[pageOf request conformity objects (firstID [])], by
        rw [encodeCut_cons, strictDeviceIDPages, hdecoded]; rfl⟩
    | cons page more =>
      rcases hcut.tail.firstID with ⟨id, ids, hfirst, hids⟩
      rw [hids, walkIDs_cut _ _ _ _ _ _ (by simpa [idsOf] using hobjects)] at hwalk
      have hvalid := hpage ⟨hstream, fun _ => (List.nodup_append.mp hnodup).1,
        fun other hother => hallowed other (by rw [hids]; simp_all; tauto), by
          rw [hfirst]
          exact Option.isSome_of_isSome_bind hwalk⟩
      rcases nextDeviceIDRequest_pageOf request conformity objects _ haccess hobjects hfits
        id hfirst hvalid with ⟨flag, hreached, hnext⟩
      -- The next request: an extended one is always valid, a standard one since the cursor grew.
      have hvalid' : validateDeviceIDRequest (request.continueAt id flag) = .ok () := by
        by_cases hextended : request.extended = true
        · exact validateDeviceIDRequest_extended _ (hstream.extended hextended).1 hextended
            (by simp)
        · have hstandard : request.extended = false := by simpa using hextended
          have hflag : flag = request.wrapped := by
            rw [hstandard] at hreached
            exact walkIDs_standard_flag _ _ _ _ _ hreached
          have hgrows := standard_cursor_grows _ hstandard haccess hvalid (by simp [hfirst])
          rw [hfirst] at hgrows
          rw [hflag]
          exact validateDeviceIDRequest_continuation request id hstream.valid hstandard
            haccess hgrows
      rw [hreached, Option.bind_some] at hwalk
      rcases ih (request.continueAt id flag) haccess hcut.tail
        ⟨hvalid', hstream.extended, hstream.conformity⟩
        (List.nodup_append.mp hnodup).2.1
        (fun other hother => hallowed other (List.mem_append_right _ hother))
        (hids ▸ hwalk) with ⟨later, hlater⟩
      have hdecoded := (decodeDeviceIDSegment_pageOf request conformity objects _ hfits
        _).mpr ⟨rfl, hvalid⟩
      refine ⟨pageOf request conformity objects (firstID (page :: more)) :: later, ?_⟩
      rw [encodeCut_cons, strictDeviceIDPages, hdecoded]
      simp only [hnext]
      rw [if_neg (by simp [encodeCut]), hlater]

theorem aggregateDeviceIDStream_access (request : DeviceIDRequest) (pages : List DeviceIDSegment)
    (limits : DeviceIDLimits) (extended : Bool) (result : DeviceIDResult)
    (h : aggregateDeviceIDStream request pages limits extended = .ok result) :
    request.access ≠ deviceIDIndividual := by
  intro hindividual
  unfold aggregateDeviceIDStream at h
  split at h
  next => cases h
  next =>
    rw [hindividual] at h
    cases extended <;> simp [deviceIDIndividual, deviceIDExtended] at h

/-- Accepted pages with the same objects aggregate to the same result. -/
theorem aggregateDeviceIDStream_accepted (request : DeviceIDRequest)
    (conformity : DeviceIDConformity) (limits : DeviceIDLimits) (extended : Bool)
    (pages others : List DeviceIDSegment) (result : DeviceIDResult)
    (hpages : AcceptedPages request pages) (hothers : AcceptedPages request others)
    (hone : ∀ page ∈ pages, page.conformity = conformity)
    (htwo : ∀ page ∈ others, page.conformity = conformity)
    (hsame : objectsOf pages = objectsOf others)
    (hcount : (others.length : Int) ≤ limits.maxSegments)
    (h : aggregateDeviceIDStream request pages limits extended = .ok result) :
    aggregateDeviceIDStream request others limits extended =
      .ok { result with segments := others } := by
  have hne : others ≠ [] := by
    rintro rfl
    cases hothers
  unfold aggregateDeviceIDStream at h ⊢
  rw [aggregateDeviceIDSegments_accepted _ _ _ _ conformity _ _ hpages hone (by simp), hsame] at h
  rw [aggregateDeviceIDSegments_accepted _ _ _ _ conformity _ _ hothers htwo (by simp)]
  split at h
  next => cases h
  next =>
    simp only [ite_error_eq_ok] at h ⊢
    refine ⟨h.1, by simp [hne, hcount], ?_⟩
    cases haggregate : aggregateDeviceIDObjects limits extended {} (objectsOf others) with
    | error err =>
      rw [haggregate] at h
      cases h.2.2
    | ok aggregate =>
      simp only [haggregate, Except.map, ite_error_eq_ok] at h ⊢
      refine ⟨h.2.2.1, ?_⟩
      cases h.2.2.2
      rfl

/-- Reading a stream: each response is decoded for its request, and the pages are
    aggregated. What comes out of it are the objects and the conformity. -/
def traverseDeviceID (request : DeviceIDRequest) (limits : DeviceIDLimits) (extended : Bool)
    (pdus : List (List UInt8)) : Option (List DeviceIDObject × DeviceIDConformity) :=
  match strictDeviceIDPages request pdus with
  | .error _ => none
  | .ok pages =>
    match aggregateDeviceIDStream request pages limits extended with
    | .error _ => none
    | .ok result => some (result.objects, result.conformity)

/-- A stream that is read with one cut is read with every other. -/
theorem traverseDeviceID_cut (request : DeviceIDRequest) (conformity : DeviceIDConformity)
    (limits : DeviceIDLimits) (extended : Bool) (first second : List (List DeviceIDObject))
    (hfirst : Cut request.access conformity first)
    (hsecond : Cut request.access conformity second) (hsame : first.flatten = second.flatten)
    (hcount : (second.length : Int) ≤ limits.maxSegments)
    (outcome : List DeviceIDObject × DeviceIDConformity)
    (h : traverseDeviceID request limits extended
      (encodeCut request.access conformity first) = some outcome) :
    traverseDeviceID request limits extended
      (encodeCut request.access conformity second) = some outcome := by
  unfold traverseDeviceID at h ⊢
  split at h
  next => cases h
  next pages hpages =>
    split at h
    next => cases h
    next result hresult =>
      cases h
      have haccess := aggregateDeviceIDStream_access _ _ _ _ _ hresult
      have hsome : first ≠ [] := by
        rintro rfl
        cases hpages
        exact (aggregateDeviceIDStream_ok _ _ _ _ _ hresult).2.1 rfl
      rcases strictDeviceIDPages_cut request conformity first pages haccess hsome hfirst hpages with
        ⟨haccepted, hobjects, hconformity, hstream, hallowed, hwalk⟩
      have hnodup := (aggregateDeviceIDStream_sound _ _ _ _ _ hresult).1
      -- What the first cut says of the stream is about its objects, so it holds for the second.
      rw [hsame] at hobjects hallowed hwalk
      rcases strictDeviceIDPages_of_walk request conformity second haccess hsecond hstream
        (by rw [← hobjects, ← hnodup.objects]; exact hnodup.distinct) hallowed hwalk with
        ⟨others, hothers⟩
      have hsome' : second ≠ [] := by
        rintro rfl
        rcases List.exists_mem_of_ne_nil first hsome with ⟨objects, hmem⟩
        exact hfirst.nonempty objects hmem (List.flatten_eq_nil_iff.mp hsame objects hmem)
      rcases strictDeviceIDPages_cut request conformity second others haccess hsome' hsecond
        hothers with ⟨haccepted', hobjects', hconformity', _⟩
      have hlength := strictDeviceIDPages_length _ _ _ hothers
      rw [hothers]
      simp only
      rw [aggregateDeviceIDStream_accepted request conformity limits extended pages others result
        haccepted haccepted' hconformity hconformity' (hobjects.trans hobjects'.symm)
        (by rw [hlength, encodeCut_length]; exact hcount) hresult]

/-- It does not matter how a device cuts its objects into pages. -/
theorem paging_irrelevant (request : DeviceIDRequest) (conformity : DeviceIDConformity)
    (limits : DeviceIDLimits) (extended : Bool) (first second : List (List DeviceIDObject))
    (hfirst : Cut request.access conformity first)
    (hsecond : Cut request.access conformity second) (hsame : first.flatten = second.flatten)
    (hcounts : (first.length : Int) ≤ limits.maxSegments ∧
      (second.length : Int) ≤ limits.maxSegments) :
    traverseDeviceID request limits extended (encodeCut request.access conformity first) =
      traverseDeviceID request limits extended (encodeCut request.access conformity second) := by
  refine Option.ext fun outcome => ⟨fun h => ?_, fun h => ?_⟩
  · exact traverseDeviceID_cut _ _ _ _ _ _ hfirst hsecond hsame hcounts.2 outcome h
  · exact traverseDeviceID_cut _ _ _ _ _ _ hsecond hfirst hsame.symm hcounts.1 outcome h

/-- Three objects on one page or on two. -/
theorem paging_irrelevant_basic :
    traverseDeviceID { access := deviceIDBasic } defaultDeviceIDLimits false
        (encodeCut deviceIDBasic 0x01 [[⟨0, [0x41]⟩, ⟨1, [0x42]⟩, ⟨2, [0x43]⟩]]) =
      traverseDeviceID { access := deviceIDBasic } defaultDeviceIDLimits false
        (encodeCut deviceIDBasic 0x01 [[⟨0, [0x41]⟩], [⟨1, [0x42]⟩, ⟨2, [0x43]⟩]]) ∧
    traverseDeviceID { access := deviceIDBasic } defaultDeviceIDLimits false
        (encodeCut deviceIDBasic 0x01 [[⟨0, [0x41]⟩, ⟨1, [0x42]⟩, ⟨2, [0x43]⟩]]) =
      some ([⟨0, [0x41]⟩, ⟨1, [0x42]⟩, ⟨2, [0x43]⟩], 0x01) :=
  ⟨paging_irrelevant { access := deviceIDBasic } 0x01 defaultDeviceIDLimits false _ _
    ⟨by decide, by decide⟩ ⟨by decide, by decide⟩ rfl (by decide), by decide +kernel⟩

end HelianthusModbus
