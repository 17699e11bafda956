import HelianthusModbus.Theory.DeviceIdGrammar
import Mathlib.Algebra.Ring.Int.Defs

/-!
# Walking Through Object Ids

The progress of a stream is checked in two places: within a page, from the cursor the page
was asked for, and from object to object over all pages. `walkIDs` is the one check behind
both. It goes from a cursor through some ids and carries the wrap flag, so walking through
one list of ids and then through another is walking through both.

## Main definitions

* `stepID`, `walkIDs`: One step, and the walk.

## Theorems

* `walkIDs_append`, `walkIDs_cut`: A walk through two lists of ids.
* `aggregateDeviceIDSegments_accepted`: Accepted pages aggregate as their objects do.
-/

namespace HelianthusModbus

/-- The ids of some objects. -/
def idsOf (objects : List DeviceIDObject) : List UInt8 := objects.map DeviceIDObject.id

/-- The bytes of the values of some objects. -/
def valueBytesOf (objects : List DeviceIDObject) : Int :=
  (objects.map fun object => (object.value.length : Int)).sum

/-- Pages that strict decoding accepts one after the other: each for its request, each next
    request from the page before, and only the last page without a continuation. -/
def AcceptedPages (request : DeviceIDRequest) : List DeviceIDSegment → Prop
  | [] => False
  | page :: rest =>
    (∃ pdu, decodeDeviceIDSegment request pdu = .ok page) ∧
      if rest = [] then page.moreFollows = false
      else page.moreFollows = true ∧
        ∃ next, nextDeviceIDRequest page = .ok next ∧ AcceptedPages next rest

/-- All objects of some pages. -/
def objectsOf (pages : List DeviceIDSegment) : List DeviceIDObject :=
  pages.flatMap DeviceIDSegment.objects

/-- A step from a cursor to an id, and the wrap flag after it. -/
def stepID (extended : Bool) (cursor : UInt8) (wrapped : Bool) (id : UInt8) : Option Bool :=
  if extended then advanceExtendedDeviceIDObject cursor id wrapped
  else if cursor < id then some wrapped else none

/-- Walking from a cursor through some ids. The first id may be the cursor itself. -/
def walkIDs (extended : Bool) :
    (entered : Bool) → (cursor : UInt8) → (wrapped : Bool) → List UInt8 → Option (UInt8 × Bool)
  | _, cursor, wrapped, [] => some (cursor, wrapped)
  | entered, cursor, wrapped, id :: rest =>
    if entered = false ∧ id = cursor then walkIDs extended true cursor wrapped rest
    else (stepID extended cursor wrapped id).bind fun flag => walkIDs extended true id flag rest

theorem walkIDs_append (extended entered : Bool) (cursor : UInt8) (wrapped : Bool)
    (first second : List UInt8) :
    walkIDs extended entered cursor wrapped (first ++ second) =
      (walkIDs extended entered cursor wrapped first).bind fun reached =>
        walkIDs extended (entered || !first.isEmpty) reached.1 reached.2 second := by
  induction first generalizing entered cursor wrapped with
  | nil => simp [walkIDs]
  | cons id rest ih =>
    simp only [List.cons_append, walkIDs, ih]
    split_ifs
    · simp
    · cases stepID extended cursor wrapped id <;> simp

/-- Walking through a page, on to the cursor of the next page, and from there through that
    page, is walking through the ids of both. -/
theorem walkIDs_cut (extended : Bool) (cursor : UInt8) (wrapped : Bool) (first : List UInt8)
    (id : UInt8) (rest : List UInt8) (hne : first ≠ []) :
    walkIDs extended false cursor wrapped (first ++ id :: rest) =
      (walkIDs extended false cursor wrapped (first ++ [id])).bind fun reached =>
        walkIDs extended false id reached.2 (id :: rest) := by
  have hfirst : first.isEmpty = false := by simpa using hne
  simp only [walkIDs_append _ _ _ _ first, hfirst, walkIDs]
  cases walkIDs extended false cursor wrapped first with
  | none => rfl
  | some reached =>
    simp only [Option.bind_some, Bool.not_false, Bool.or_true]
    cases stepID extended reached.1 reached.2 id <;> simp

theorem walkIDs_concat (extended : Bool) (cursor : UInt8) (wrapped : Bool) (first : List UInt8)
    (id : UInt8) (reached : UInt8 × Bool) (hne : first ≠ [])
    (h : walkIDs extended false cursor wrapped (first ++ [id]) = some reached) :
    reached.1 = id ∧ ∃ before, walkIDs extended false cursor wrapped first = some before ∧
      stepID extended before.1 before.2 id = some reached.2 := by
  have hfirst : first.isEmpty = false := by simpa using hne
  simp only [walkIDs_append, hfirst, walkIDs] at h
  cases hbefore : walkIDs extended false cursor wrapped first with
  | none => simp [hbefore] at h
  | some before =>
    cases hstep : stepID extended before.1 before.2 id with
    | none => simp [hbefore, hstep] at h
    | some flag =>
      simp only [hbefore, hstep, Option.bind_some, Bool.not_false, Bool.or_true,
        Bool.true_eq_false, false_and, if_false, Option.some.injEq] at h
      cases h
      exact ⟨rfl, before, rfl, hstep⟩

theorem encode_room {object : DeviceIDObject} {rest : List DeviceIDObject} {encodedSize : Nat}
    (h : encodedSize + ((object :: rest).flatMap DeviceIDObject.encode).length ≤ maxPDUSize)
    (hheader : 7 ≤ encodedSize) :
    object.value.length ≤ maxDeviceIDObjectValueBytes ∧
      encodedSize + (2 + object.value.length) ≤ maxPDUSize ∧
      encodedSize + (2 + object.value.length) +
        (rest.flatMap DeviceIDObject.encode).length ≤ maxPDUSize := by
  simp only [List.flatMap_cons, List.length_append, DeviceIDObject.encode_length, maxPDUSize] at h
  simp only [maxDeviceIDObjectValueBytes, maxPDUSize]
  omega

/-- The objects of an extended page that fit make progress if no id repeats and the walk
    goes through. -/
theorem extendedObjectsProgress_iff (previous : UInt8) (haveObject : Bool) (encodedSize : Nat)
    (seen : List UInt8) (wrapped : Bool) (objects : List DeviceIDObject)
    (reached : UInt8 × Bool) (hheader : 7 ≤ encodedSize)
    (hroom : encodedSize + (objects.flatMap DeviceIDObject.encode).length ≤ maxPDUSize) :
    extendedObjectsProgress previous haveObject encodedSize seen wrapped objects =
        .ok reached ↔
      ((idsOf objects).Nodup ∧ ∀ id ∈ idsOf objects, id ∉ seen) ∧
        walkIDs true haveObject previous wrapped (idsOf objects) = some reached := by
  induction objects generalizing previous haveObject encodedSize seen wrapped with
  | nil => simp [extendedObjectsProgress, walkIDs, idsOf]
  | cons object rest ih =>
    rcases encode_room hroom hheader with ⟨hvalue, hsize, hleft⟩
    have hrest := fun previous wrapped =>
      ih previous true _ (object.id :: seen) wrapped (by omega) hleft
    -- no id of the rest may be one seen before, or the one of this object
    have hfresh : (idsOf rest).Nodup ∧ (∀ id ∈ idsOf rest, id ∉ object.id :: seen) ↔
        (object.id ∉ idsOf rest ∧ (idsOf rest).Nodup) ∧ ∀ id ∈ idsOf rest, id ∉ seen := by
      constructor
      · rintro ⟨hnodup, hnew⟩
        exact ⟨⟨fun hmem => hnew _ hmem (by simp), hnodup⟩, fun id hid hseen =>
          hnew id hid (List.mem_cons_of_mem _ hseen)⟩
      · rintro ⟨⟨hnot, hnodup⟩, hnew⟩
        refine ⟨hnodup, fun id hid hmem => ?_⟩
        rcases List.mem_cons.mp hmem with rfl | hseen
        · exact hnot hid
        · exact hnew id hid hseen
    simp only [extendedObjectsProgress, if_neg (Nat.not_lt.mpr hvalue),
      if_neg (Nat.not_lt.mpr hsize)]
    simp only [idsOf, List.map_cons, List.nodup_cons, List.forall_mem_cons, walkIDs, stepID,
      if_true] at hrest hfresh ⊢
    by_cases hseen : object.id ∈ seen
    · simp [hseen]
    · rw [if_neg hseen]
      by_cases hcursor : haveObject = false ∧ object.id = previous
      · rw [if_pos hcursor, if_pos hcursor, hrest, hfresh]
        simp [hseen]
      · rw [if_neg hcursor, if_neg hcursor]
        cases hadvance : advanceExtendedDeviceIDObject previous object.id wrapped with
        | none => simp
        | some flag =>
          simp only [hrest, hfresh, Option.bind_some]
          simp [hseen]

theorem extendedObjectsProgress_walk (previous : UInt8) (wrapped : Bool)
    (objects : List DeviceIDObject) (reached : UInt8 × Bool)
    (h : extendedObjectsProgress previous false 7 [] wrapped objects = .ok reached) :
    walkIDs true false previous wrapped (idsOf objects) = some reached :=
  ((extendedObjectsProgress_iff previous false 7 [] wrapped objects reached (Nat.le_refl 7)
    (extendedObjectsProgress_size _ _ _ 7 _ _ _ _ (by decide) h).2).mp h).2

/-- An extended walk: if the flag stays, it does not end below the cursor. -/
theorem walkIDs_extended (entered : Bool) (cursor last : UInt8) (wrapped after : Bool)
    (ids : List UInt8) (h : walkIDs true entered cursor wrapped ids = some (last, after)) :
    (after = wrapped ∧ cursor ≤ last) ∨ (wrapped = false ∧ after = true) := by
  induction ids generalizing entered cursor wrapped with
  | nil =>
    cases h
    exact .inl ⟨rfl, UInt8.le_refl _⟩
  | cons id rest ih =>
    simp only [walkIDs, stepID, if_true] at h
    split_ifs at h
    · exact ih _ _ _ h
    · rcases Option.bind_eq_some_iff.mp h with ⟨flag, hadvance, hrest⟩
      have hlater := ih _ _ _ hrest
      rcases advanceExtendedDeviceIDObject_ok _ _ _ _ hadvance with ⟨rfl, hless⟩ | ⟨hdown, rfl, _⟩
      · exact hlater.imp_left fun hkept => ⟨hkept.1, UInt8.le_of_lt
          (UInt8.lt_of_lt_of_le hless hkept.2)⟩
      · exact .inr ⟨hdown, hlater.elim And.left And.right⟩

/-- An extended page with a continuation: the next cursor grows, or the flag goes up. -/
theorem validateExtendedDeviceIDProgress_ok (segment : DeviceIDSegment) (wrapped after : Bool)
    (h : validateExtendedDeviceIDProgress segment wrapped = .ok after)
    (hmore : segment.moreFollows = true) :
    (after = wrapped ∧ segment.request.objectID < segment.nextObjectID) ∨
      (wrapped = false ∧ after = true) := by
  rcases validateExtendedDeviceIDProgress_split segment wrapped after h with
    ⟨last, middle, hobjects, hadvance⟩
  have hpage := walkIDs_extended _ _ _ _ _ _ (extendedObjectsProgress_walk _ _ _ _ hobjects)
  rcases advanceExtendedDeviceIDObject_ok _ _ _ _ (hadvance hmore) with
    ⟨rfl, hforward⟩ | ⟨hbefore, hnow, _⟩
  · exact hpage.imp_left fun hkept => ⟨hkept.1, UInt8.lt_of_le_of_lt hkept.2 hforward⟩
  · exact .inr ⟨hpage.elim (fun hkept => hkept.1 ▸ hbefore) And.left, hnow⟩

theorem aggregateDeviceIDObjects_append (limits : DeviceIDLimits) (extended : Bool)
    (aggregate : DeviceIDAggregate) (first second : List DeviceIDObject) :
    aggregateDeviceIDObjects limits extended aggregate (first ++ second) =
      (aggregateDeviceIDObjects limits extended aggregate first).bind fun middle =>
        aggregateDeviceIDObjects limits extended middle second := by
  induction first generalizing aggregate with
  | nil => rfl
  | cons object rest ih =>
    simp only [List.cons_append, aggregateDeviceIDObjects, ih]
    split_ifs <;> rfl

/-- Pages that answer their requests and agree on the conformity aggregate as their objects
    do, wherever they were cut. -/
theorem aggregateDeviceIDSegments_accepted (limits : DeviceIDLimits) (extended : Bool)
    (request : DeviceIDRequest) (known : Option DeviceIDConformity)
    (conformity : DeviceIDConformity) (aggregate : DeviceIDAggregate)
    (pages : List DeviceIDSegment) (haccepted : AcceptedPages request pages)
    (hconformity : ∀ page ∈ pages, page.conformity = conformity)
    (hknown : ∀ first ∈ known, first = conformity) :
    aggregateDeviceIDSegments limits extended request known aggregate pages =
      (aggregateDeviceIDObjects limits extended aggregate (objectsOf pages)).map
        (·, conformity) := by
  induction pages generalizing request known aggregate with
  | nil => cases haccepted
  | cons page rest ih =>
    rcases haccepted with ⟨⟨pdu, hdecoded⟩, hrest⟩
    rcases decodeDeviceIDSegment_ok _ _ _ hdecoded with ⟨_, _, _, hbytes⟩
    rw [List.forall_mem_cons] at hconformity
    have hagrees : known.any (fun first => page.conformity ≠ first) = false := by
      cases known with
      | none => rfl
      | some first => simp [hconformity.1, hknown first rfl]
    have hfixed : known.getD page.conformity = conformity := by
      cases known with
      | none => exact hconformity.1
      | some first => exact hknown first rfl
    have hobjects : objectsOf (page :: rest) = page.objects ++ objectsOf rest := rfl
    rw [aggregateDeviceIDSegments, if_neg (not_not.mpr hbytes.asked), hbytes.checked, hobjects,
      aggregateDeviceIDObjects_append]
    simp only [hagrees, Bool.false_eq_true, if_false, hfixed]
    cases aggregateDeviceIDObjects limits extended aggregate page.objects with
    | error err => rfl
    | ok middle =>
      by_cases hlast : rest = []
      · rw [if_pos hlast] at hrest
        subst hlast
        simp [hrest, objectsOf, aggregateDeviceIDObjects, Except.bind, Except.map]
      · rw [if_neg hlast] at hrest
        rcases hrest with ⟨hmore, next, hnext, haccepted⟩
        simp only [hmore, hlast, hnext, if_true, if_false, Except.bind]
        exact ih next (some conformity) middle haccepted hconformity.2 (by simp)

end HelianthusModbus
