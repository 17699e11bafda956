import HelianthusModbus.Core.OwnerCalls

/-!
# Steps of a Connection Owner

What a call can do to an owner, said once. A call either changes nothing, or it enters a
request, rewrites one in place, takes one out, buries some, or drops all of them.
`OwnerStep` lists these with the call, the reply and the owner that is left, and
`TCPConnectionOwner.apply_step` shows that there is nothing else. What an owner keeps is
then shown by cases of this relation, and no proof looks at the calls again.

An owner files its requests under their own identifiers. Then a request that a
reservation names is the one its identifier leads to, and failing every other request
leaves the table empty. The relation does not ask for this, since the counters of an
owner do not depend on it.

## Main definitions

* `OwnerStep`: What a call does.

## Theorems

* `TCPConnectionOwner.correlate_cases`: The three ways a frame is handled.
* `TCPConnectionOwner.remaining_empty`: Failing the siblings of a request and removing it
  empties the table.
* `TCPConnectionOwner.apply_step`: Every call does one of these things.
-/

namespace HelianthusModbus

open TCPConnectionOwner (Reserve)

namespace TCPConnectionOwner

/-- Every request is filed under its own identifier. -/
def Filed (owner : TCPConnectionOwner) : Prop :=
  ∀ t request, owner.inFlight.lookup t = some request → request.transactionID = t

/-- A reservation names a live request in the given state. -/
structure Holds (owner : TCPConnectionOwner) (reservation : TCPReservation)
    (state : RequestState) (request : OwnedRequest) : Prop where
  lookup : owner.inFlight.lookup reservation.transactionID = some request
  id : request.physicalRequestID = reservation.physicalRequestID
  state : request.state = state

/-- There is room for one more tombstone. -/
def HasRoom (owner : TCPConnectionOwner) : Prop :=
  (owner.tombstones.entries.length : Int) < owner.limits.maxTombstones

/-- A request becomes a tombstone. -/
def bury (owner : TCPConnectionOwner) (request : OwnedRequest) : TCPConnectionOwner :=
  { owner with
    tombstones := owner.tombstones.insert request.transactionID request
    inFlight := owner.inFlight.erase request.transactionID }

/-- Requests become tombstones one after the other. If `filed` holds, each is still in
    flight when its turn comes. -/
inductive Buries (filed : Prop) :
    TCPConnectionOwner → List OwnedRequest → TCPConnectionOwner → Prop where
  | nil (owner) : Buries filed owner [] owner
  | cons (owner request rest after) :
      (filed → owner.inFlight.lookup request.transactionID = some request) → owner.HasRoom →
        Buries filed (owner.bury request) rest after → Buries filed owner (request :: rest) after

/-- What is left in flight once a request is given up with its socket. -/
def remaining (owner : TCPConnectionOwner) (t : UInt16) : Table UInt16 OwnedRequest :=
  (owner.failAllExcept t).2.inFlight.erase t

/-- A request the owner keeps only as a tombstone. -/
def Buried (owner : TCPConnectionOwner) (request : OwnedRequest) : Prop :=
  (∃ t, owner.tombstones.lookup t = some request) ∨ owner.closingTombstone = some request

/-- The physical request a frame would answer from the in-flight table. -/
def activeFor (owner : TCPConnectionOwner) (generation : Nat) (adu : TCPADU) : Option Nat :=
  if generation ≠ owner.generation ∨ owner.nextWireResponseID = 0 ∨ owner.closed then none
  else
    match owner.inFlight.lookup adu.transactionID with
    | none => none
    | some request =>
      if request.state = .reserved ∨ candidateMatches request adu = false then none
      else some request.physicalRequestID

end TCPConnectionOwner

/-- The reply to a call that is refused and leaves the owner as it is. -/
def OwnerCall.refusal (err : ProtocolError) : OwnerCall → Option OwnerReply
  | .reserve .. => some (.reserved (.error err))
  | .cancelBeforeWrite _ | .replaceReservedRead .. | .markWriteInvoked _ =>
    some (.plain (some err))
  | .recordTransmit .. | .abandonAfterWrite .. => some (.transition {} (some err))
  | .abandonExpired _ => some (.expired [] {} (some err))
  | .bindTransport _ => some (.generation (.error err))
  | .loseTransport _ => some (.transition {} none)
  | .correlate .. | .close | .retire | .reconnect _ => none

/-- A call that gives up a request while it is being written. -/
inductive OwnerCall.GivesUp (reservation : TCPReservation) : OwnerCall → Prop where
  | transmit (result : TransmitResult) (deadline : Duration) : result ≠ .complete →
      result ≠ .provableZero → GivesUp reservation (.recordTransmit reservation result deadline)
  | abandon (reason : AbandonReason) : GivesUp reservation (.abandonAfterWrite reservation reason)

/-- A response that is bound to a request and takes the next response id. -/
structure WireResponse.Answers (response : WireResponse) (owner : TCPConnectionOwner)
    (request : OwnedRequest) : Prop where
  next : owner.nextWireResponseID ≠ 0
  id : response.wireResponseID = owner.nextWireResponseID
  bound : response.outcome ≠ .droppedUncorrelated
  physicalRequestID : response.physicalRequestID = request.physicalRequestID

open TCPConnectionOwner (Buries)

/-- What a call does: its reply and the owner that is left. -/
inductive OwnerStep (owner : TCPConnectionOwner) :
    OwnerCall → OwnerReply → TCPConnectionOwner → Prop where
  | refused (call reply err) :
      call.refusal err = some reply → OwnerStep owner call reply owner
  | kept (allocated) :
      OwnerStep owner (.reconnect allocated) (.generation (.ok owner.generation)) owner
  | exhausted (unitID request deadlineOffset err next) :
      OwnerStep owner (.reserve unitID request deadlineOffset) (.reserved (.error err))
        { owner with nextTransactionID := next, closed := true }
  | reserved (unitID request deadlineOffset t next) :
      owner.nextPhysicalRequestID ≠ 0 →
      owner.inFlight.lookup t = none → owner.tombstones.lookup t = none →
      ((owner.inFlight.entries.length + owner.earlyCompletions.entries.length : Nat) : Int) <
        owner.limits.maxInFlight →
      OwnerStep owner (.reserve unitID request deadlineOffset)
        (.reserved (.ok (owner.reservationOf (request.owned t owner.nextPhysicalRequestID
          owner.generation unitID deadlineOffset))))
        { owner with
          nextTransactionID := next
          nextPhysicalRequestID := nextUint64 owner.nextPhysicalRequestID
          inFlight := owner.inFlight.insert t (request.owned t owner.nextPhysicalRequestID
            owner.generation unitID deadlineOffset) }
  | cancelled (reservation request next) :
      owner.Holds reservation .reserved request →
      OwnerStep owner (.cancelBeforeWrite reservation) (.plain none)
        { owner.removeInFlight request.transactionID with nextTransactionID := next }
  | replaced (reservation read request) :
      owner.Holds reservation .reserved request → request.kind = .read →
      request.read.function = read.function →
      OwnerStep owner (.replaceReservedRead reservation read) (.plain none)
        (owner.updateInFlight { request with read := read })
  | marked (reservation request) :
      owner.Holds reservation .reserved request →
      OwnerStep owner (.markWriteInvoked reservation) (.plain none)
        (owner.updateInFlight { request with state := .writeInvoked })
  | mismatched (reservation result deadline err) :
      OwnerStep owner (.recordTransmit reservation result deadline)
        (.transition { closeConnection := true } (some err)) { owner with closed := true }
  | claimed (reservation deadline) :
      OwnerStep owner (.recordTransmit reservation .complete deadline) (.transition {} none)
        { owner with
          earlyCompletions := owner.earlyCompletions.erase reservation.physicalRequestID }
  | unsent (reservation deadline request next) :
      owner.Holds reservation .writeInvoked request →
      OwnerStep owner (.recordTransmit reservation .provableZero deadline) (.transition {} none)
        { owner.removeInFlight request.transactionID with nextTransactionID := next }
  | sent (reservation deadline offset request) :
      owner.Holds reservation .writeInvoked request →
      OwnerStep owner (.recordTransmit reservation .complete deadline) (.transition {} none)
        (owner.updateInFlight { request with state := .waiting, deadlineOffset := offset })
  | lost (call reservation request) :
      call.GivesUp reservation → owner.Holds reservation .writeInvoked request → owner.HasRoom →
      OwnerStep owner call
        (.transition
          { closeConnection := true, failed := (owner.failAllExcept request.transactionID).1 } none)
        { owner with
          tombstones := owner.tombstones.insert request.transactionID request
          inFlight := owner.remaining request.transactionID, closed := true }
  | lostLast (call reservation request) :
      call.GivesUp reservation → owner.Holds reservation .writeInvoked request →
      OwnerStep owner call
        (.transition
          { closeConnection := true, failed := (owner.failAllExcept request.transactionID).1 } none)
        { owner with
          closingTombstone := some request
          inFlight := owner.remaining request.transactionID, closed := true }
  | abandoned (reservation reason request) :
      owner.Holds reservation .waiting request → owner.HasRoom →
      OwnerStep owner (.abandonAfterWrite reservation reason) (.transition {} none)
        (owner.bury request)
  | overflowed (reservation reason request err) :
      owner.Holds reservation .waiting request →
      OwnerStep owner (.abandonAfterWrite reservation reason)
        (.transition { closeConnection := true } (some err))
        { owner with
          closingTombstone := some request
          inFlight := owner.remaining request.transactionID, closed := true
          pendingFailures := owner.pendingFailures ++
            (owner.failAllExcept request.transactionID).1 }
  | expired (nowOffset after) :
      Buries owner.Filed owner (owner.expiredCandidates nowOffset) after →
      OwnerStep owner (.abandonExpired nowOffset)
        (.expired ((owner.expiredCandidates nowOffset).map owner.reservationOf) {} none) after
  | overExpired (nowOffset taken rest request middle failed err) :
      owner.expiredCandidates nowOffset = taken ++ request :: rest →
      Buries owner.Filed owner taken middle →
      (owner.Filed → middle.inFlight.lookup request.transactionID = some request) →
      ¬middle.HasRoom → failed = (middle.removeInFlight request.transactionID).failAll.1 →
      OwnerStep owner (.abandonExpired nowOffset)
        (.expired ((taken ++ [request]).map owner.reservationOf)
          { closeConnection := true, failed := failed } (some err))
        { middle with
          closingTombstone := some request, inFlight := ∅, closed := true
          pendingFailures := middle.pendingFailures ++ failed }
  | answered (generation adu request response errs) :
      owner.inFlight.lookup adu.transactionID = some request → response.Answers owner request →
      OwnerStep owner (.correlate generation adu) (.response response errs)
        { owner.removeInFlight request.transactionID with
          nextWireResponseID := nextUint64 owner.nextWireResponseID }
  | overtook (generation adu request response errs) :
      owner.inFlight.lookup adu.transactionID = some request → response.Answers owner request →
      request.state = .writeInvoked →
      OwnerStep owner (.correlate generation adu) (.response response errs)
        { owner.removeInFlight request.transactionID with
          nextWireResponseID := nextUint64 owner.nextWireResponseID
          earlyCompletions := owner.earlyCompletions.insert request.physicalRequestID
            request.transactionID }
  | late (generation adu tombstone response errs) :
      owner.Buried tombstone → response.Answers owner tombstone →
      OwnerStep owner (.correlate generation adu) (.response response errs)
        { owner with nextWireResponseID := nextUint64 owner.nextWireResponseID }
  | diagnosed (generation adu response errs closed) :
      (owner.closed = true → closed = true) → owner.nextDiagnosticFrameID ≠ 0 →
      response.wireResponseID = 0 → response.outcome = .droppedUncorrelated →
      response.owner.isSome = true → response.diagnosticFrameID = owner.nextDiagnosticFrameID →
      OwnerStep owner (.correlate generation adu) (.response response errs)
        { owner with
          closed := closed, nextDiagnosticFrameID := nextUint64 owner.nextDiagnosticFrameID }
  | undiagnosed (generation adu errs) : errs ≠ [] →
      OwnerStep owner (.correlate generation adu)
        (.response { outcome := .droppedUncorrelated } errs) { owner with closed := true }
  | bound (transport) :
      OwnerStep owner (.bindTransport transport) (.generation (.ok owner.generation))
        { owner with boundTransport := some transport }
  | dropped (transport) :
      OwnerStep owner (.loseTransport transport)
        (.transition { closeConnection := true, failed := owner.failAll.1 } none)
        { owner.forgetSocket with
          inFlight := ∅, boundTransport := none, closed := true
          retired := owner.retired || owner.pooled }
  | ended (call retired pooled) : call = .close ∨ call = .retire →
      OwnerStep owner call .done
        { owner.forgetSocket with
          inFlight := ∅, boundTransport := none, closed := true, retired := retired
          pooled := pooled
          pendingFailures := owner.pendingFailures ++ owner.failAll.1 }
  | renewed (allocated) : owner.closed = true → owner.retired = false →
      owner.boundTransport = none → allocated.getD (nextUint64 owner.generation) ≠ 0 →
      OwnerStep owner (.reconnect allocated)
        (.generation (.ok (allocated.getD (nextUint64 owner.generation))))
        { owner.forgetSocket with
          inFlight := ∅, generation := allocated.getD (nextUint64 owner.generation)
          closed := false, nextTransactionID := 0 }

namespace TCPConnectionOwner

variable (owner : TCPConnectionOwner)

theorem newDiagnosticFrame_deliverable (generation : Nat) (adu : TCPADU) :
    (owner.newDiagnosticFrame generation adu).1.deliverable = false := by
  unfold newDiagnosticFrame
  split_ifs <;> rfl

/-- A late answer is bound to its tombstone, is not deliverable and changes only
    the response counter. -/
theorem correlateAbandoned_spec (tombstone : OwnedRequest) (adu : TCPADU)
    (hnext : owner.nextWireResponseID ≠ 0) :
    (owner.correlateAbandoned tombstone adu).1.deliverable = false ∧
      (owner.correlateAbandoned tombstone adu).1.Answers owner tombstone ∧
      (owner.correlateAbandoned tombstone adu).2.2 =
        { owner with nextWireResponseID := nextUint64 owner.nextWireResponseID } := by
  unfold correlateAbandoned newWireResponse
  split
  · exact ⟨rfl, ⟨hnext, rfl, nofun, rfl⟩, rfl⟩
  · split <;> exact ⟨rfl, ⟨hnext, rfl, nofun, rfl⟩, rfl⟩

/-- An answer from the in-flight table is bound to its request and takes it out.
    It is deliverable only when the frame decodes. -/
theorem correlateActive_spec (request : OwnedRequest) (adu : TCPADU)
    (hnext : owner.nextWireResponseID ≠ 0) :
    (owner.correlateActive request adu).1.Answers owner request ∧
      (owner.correlateActive request adu).2.2 =
        { owner.removeInFlight request.transactionID with
          nextWireResponseID := nextUint64 owner.nextWireResponseID } ∧
      ((owner.correlateActive request adu).1.deliverable = true →
        ∃ decoded, validateOwnedResponse request adu.pdu = .ok decoded) := by
  unfold correlateActive newWireResponse
  split
  · next decoded hdecoded =>
    exact ⟨⟨hnext, rfl, nofun, rfl⟩, rfl, fun _ => ⟨decoded, hdecoded⟩⟩
  · refine ⟨⟨hnext, rfl, ?_, rfl⟩, rfl, fun hd => by cases hd⟩
    dsimp only
    split <;> nofun

/-- A request that a late answer is bound to is buried. -/
theorem abandonedFor_buried (t : UInt16) (tombstone : OwnedRequest)
    (h : owner.abandonedFor t = some tombstone) : owner.Buried tombstone := by
  unfold abandonedFor at h
  cases hlookup : owner.tombstones.lookup t with
  | some found =>
    simp only [hlookup, Option.some.injEq] at h
    exact Or.inl ⟨t, by rw [hlookup, h]⟩
  | none =>
    simp only [hlookup, Option.filter_eq_some_iff] at h
    exact Or.inr h.1

theorem correlate_cases (generation : Nat) (adu : TCPADU) :
    (∃ request, owner.inFlight.lookup adu.transactionID = some request ∧
        owner.closed = false ∧ generation = owner.generation ∧ owner.nextWireResponseID ≠ 0 ∧
        request.state ≠ .reserved ∧ candidateMatches request adu = true ∧
        owner.activeFor generation adu = some request.physicalRequestID ∧
        owner.correlate generation adu =
          ((owner.correlateActive request adu).1, (owner.correlateActive request adu).2.1,
            (owner.correlateActive request adu).2.2.noteEarlyCompletion request)) ∨
      (∃ tombstone, owner.Buried tombstone ∧ owner.nextWireResponseID ≠ 0 ∧
        owner.activeFor generation adu = none ∧
        owner.correlate generation adu = owner.correlateAbandoned tombstone adu) ∨
      (owner.activeFor generation adu = none ∧
        ∃ frame errs, (frame = owner ∨ frame = { owner with closed := true }) ∧
          owner.correlate generation adu = ((frame.newDiagnosticFrame generation adu).1,
            (frame.newDiagnosticFrame generation adu).2.1 ++ errs,
            (frame.newDiagnosticFrame generation adu).2.2)) := by
  by_cases hgeneration : generation ≠ owner.generation
  · refine Or.inr (Or.inr
      ⟨by rw [activeFor, if_pos (Or.inl hgeneration)], owner, [], Or.inl rfl, ?_⟩)
    rw [correlate, if_pos hgeneration, List.append_nil]
  by_cases hexhausted : owner.nextWireResponseID = 0
  · rw [correlate, if_neg hgeneration, if_pos hexhausted]
    exact Or.inr (Or.inr ⟨by rw [activeFor, if_pos (Or.inr (Or.inl hexhausted))],
      { owner with closed := true }, _, Or.inr rfl, rfl⟩)
  rw [correlate, if_neg hgeneration, if_neg hexhausted]
  -- A closed owner answers nothing from its table, so the lookup is skipped.
  cases hactive : (if owner.closed then none else owner.inFlight.lookup adu.transactionID) with
  | some request =>
    split_ifs at hactive with hopen
    have hfor : owner.activeFor generation adu =
        if request.state = .reserved ∨ candidateMatches request adu = false then none
        else some request.physicalRequestID := by
      simp [activeFor, hgeneration, hexhausted, hopen, hactive]
    by_cases hcandidate : request.state = .reserved ∨ candidateMatches request adu = false
    · refine Or.inr (Or.inr ⟨hfor.trans (if_pos hcandidate), owner, [], Or.inl rfl, ?_⟩)
      simp only [if_pos hcandidate, List.append_nil]
    · refine Or.inl ⟨request, hactive, Bool.not_eq_true _ ▸ hopen, not_not.mp hgeneration,
        hexhausted, fun hs => hcandidate (Or.inl hs), ?_, hfor.trans (if_neg hcandidate), ?_⟩
      · exact Bool.not_eq_false _ ▸ fun hs => hcandidate (Or.inr hs)
      · simp only [if_neg hcandidate]
  | none =>
    have hnothing : owner.activeFor generation adu = none := by
      unfold activeFor
      split_ifs with hguard
      · rfl
      · push Not at hguard
        rw [if_neg hguard.2.2] at hactive
        rw [hactive]
    cases hburied : owner.abandonedFor adu.transactionID with
    | none => exact Or.inr (Or.inr ⟨hnothing, owner, [], Or.inl rfl, by rw [List.append_nil]⟩)
    | some tombstone =>
      simp only
      split_ifs
      · exact Or.inr (Or.inl ⟨tombstone, owner.abandonedFor_buried _ _ hburied, hexhausted,
          hnothing, rfl⟩)
      · exact Or.inr (Or.inr ⟨hnothing, owner, [], Or.inl rfl, by rw [List.append_nil]⟩)

theorem Holds.of_requestFor {reservation : TCPReservation} {state : RequestState}
    {request : OwnedRequest} (h : owner.requestFor reservation state = .ok request) :
    owner.Holds reservation state request := by
  rcases (owner.requestFor_ok reservation state request).mp h with ⟨_, _, hlook, hid, hstate⟩
  exact ⟨hlook, hid, hstate⟩

theorem rewindAllocator_eq (t : UInt16) :
    ∃ next, owner.rewindAllocator t = { owner with nextTransactionID := next } := by
  unfold rewindAllocator
  split
  · exact ⟨t, rfl⟩
  · exact ⟨owner.nextTransactionID, rfl⟩

variable {owner}

theorem reserve_step (unitID : UInt8) (request : Reserve) (deadlineOffset : Duration) :
    OwnerStep owner (.reserve unitID request deadlineOffset)
      (.reserved (owner.reserve unitID request deadlineOffset).1)
      (owner.reserve unitID request deadlineOffset).2 := by
  rcases owner.reserve_cases unitID request deadlineOffset with
    ⟨err, hr⟩ | ⟨err, next, hr⟩ | ⟨t, next, _, hnext, hlive, htombstone, hroom, hr⟩
  · rw [hr]
    exact .refused _ _ err rfl
  · rw [hr]
    exact .exhausted _ _ _ err next
  · rw [hr]
    exact .reserved _ _ _ t next hnext hlive htombstone hroom

theorem replaceReservedRead_step (reservation : TCPReservation) (read : ReadRegistersRequest) :
    OwnerStep owner (.replaceReservedRead reservation read)
      (.plain (owner.replaceReservedRead reservation read).1)
      (owner.replaceReservedRead reservation read).2 := by
  unfold replaceReservedRead
  split
  · exact .refused _ _ _ rfl
  split
  · exact .refused _ _ _ rfl
  next request hrequest =>
  split
  · exact .refused _ _ _ rfl
  · next hkind =>
    push Not at hkind
    exact .replaced _ _ request (.of_requestFor owner hrequest) hkind.1 hkind.2

theorem addTombstone_bury (request : OwnedRequest) (h : owner.HasRoom) :
    (owner.addTombstone request).2.removeInFlight request.transactionID = owner.bury request := by
  unfold HasRoom at h
  unfold addTombstone
  rw [if_pos h]
  rfl

/-- A request that is given up while it is being written costs the socket. -/
theorem loseAfterWrite_step {call : OwnerCall} {reservation : TCPReservation}
    {request : OwnedRequest} (hcall : call.GivesUp reservation)
    (h : owner.Holds reservation .writeInvoked request) :
    OwnerStep owner call (.transition (owner.loseAfterWrite request).1 none)
      (owner.loseAfterWrite request).2 := by
  unfold loseAfterWrite addTombstone
  by_cases hroom : (owner.tombstones.entries.length : Int) < owner.limits.maxTombstones
  · rw [if_pos hroom]
    exact .lost call reservation request hcall h hroom
  · rw [if_neg hroom]
    exact .lostLast call reservation request hcall h

theorem recordTransmitUntil_step (reservation : TCPReservation) (result : TransmitResult)
    (deadline : Duration) :
    OwnerStep owner (.recordTransmit reservation result deadline)
      (.transition (owner.recordTransmitUntil reservation result deadline).1
        (owner.recordTransmitUntil reservation result deadline).2.1)
      (owner.recordTransmitUntil reservation result deadline).2.2 := by
  unfold recordTransmitUntil
  split
  · split
    · exact .mismatched _ _ _ _
    · next hmatch =>
      push Not at hmatch
      rw [hmatch.2.2.2]
      exact .claimed _ _
  split
  · exact .refused _ _ _ rfl
  next request hrequest =>
  have hholds := Holds.of_requestFor owner hrequest
  cases result with
  | provableZero =>
    rcases (owner.removeInFlight request.transactionID).rewindAllocator_eq
      request.transactionID with ⟨next, hnext⟩
    dsimp only
    rw [hnext]
    exact .unsent _ _ request next hholds
  | complete => exact .sent _ _ _ request hholds
  | _ => exact loseAfterWrite_step (.transmit _ _ nofun nofun) hholds

theorem abandonAfterWrite_step (reservation : TCPReservation) (reason : AbandonReason) :
    OwnerStep owner (.abandonAfterWrite reservation reason)
      (.transition (owner.abandonAfterWrite reservation reason).1
        (owner.abandonAfterWrite reservation reason).2.1)
      (owner.abandonAfterWrite reservation reason).2.2 := by
  unfold abandonAfterWrite
  split
  · next request hrequest =>
    have hholds := Holds.of_requestFor owner hrequest
    split
    · exact .overflowed _ _ request _ hholds
    · next hfull =>
      have hroom : owner.HasRoom := Int.not_le.mp hfull
      rw [addTombstone_bury request hroom]
      exact .abandoned _ _ request hholds hroom
  · split
    · exact .refused _ _ _ rfl
    · next request hrequest =>
      exact loseAfterWrite_step (.abandon reason) (.of_requestFor owner hrequest)

/-- The expiry loop: it buries every candidate, or it stops at the first for which there is
    no tombstone. -/
theorem abandonCandidates_buries (filed : Prop) (candidates : List OwnedRequest)
    (owner : TCPConnectionOwner)
    (hlive : filed → ∀ request ∈ candidates,
      owner.inFlight.lookup request.transactionID = some request)
    (hnodup : filed → (candidates.map OwnedRequest.transactionID).Nodup) :
    (∃ after, Buries filed owner candidates after ∧ abandonCandidates candidates owner =
        (candidates.map owner.reservationOf, {}, none, after)) ∨
      ∃ taken request rest middle failed err, candidates = taken ++ request :: rest ∧
        Buries filed owner taken middle ∧
        (filed → middle.inFlight.lookup request.transactionID = some request) ∧
        ¬middle.HasRoom ∧ failed = (middle.removeInFlight request.transactionID).failAll.1 ∧
        abandonCandidates candidates owner = ((taken ++ [request]).map owner.reservationOf,
          { closeConnection := true, failed := failed }, some err,
          { middle with
            closingTombstone := some request, inFlight := ∅, closed := true
            pendingFailures := middle.pendingFailures ++ failed }) := by
  induction candidates generalizing owner with
  | nil => exact Or.inl ⟨owner, .nil owner, rfl⟩
  | cons request rest ih =>
    have hrequest := fun hfiled => hlive hfiled request List.mem_cons_self
    unfold abandonCandidates
    by_cases hfull : (owner.tombstones.entries.length : Int) ≥ owner.limits.maxTombstones
    · rw [if_pos hfull]
      exact Or.inr ⟨[], request, rest, owner, _, _, rfl, .nil owner, hrequest,
        Int.not_lt.mpr hfull, rfl, rfl⟩
    · have hroom : owner.HasRoom := Int.not_le.mp hfull
      -- The candidates have distinct identifiers, so each is still in flight when its turn comes.
      have hrest : filed → ∀ other ∈ rest,
          (owner.bury request).inFlight.lookup other.transactionID = some other := by
        intro hfiled other hother
        have hne : other.transactionID ≠ request.transactionID := fun hsame =>
          (List.nodup_cons.mp (hnodup hfiled)).1 (hsame ▸ List.mem_map_of_mem hother)
        show AList.lookup _ (AList.erase _ _) = _
        rw [Table.lookup_erase_ite, if_neg hne]
        exact hlive hfiled other (List.mem_cons_of_mem _ hother)
      rw [if_neg hfull, addTombstone_bury request hroom]
      rcases ih (owner.bury request) hrest
        (fun hfiled => (List.nodup_cons.mp (hnodup hfiled)).2) with
        ⟨after, hafter, heq⟩ | ⟨taken, last, rest', middle, failed, err, hsplit, htaken, hlast,
          hlastRoom, hfailed, heq⟩
      · rw [heq]
        exact Or.inl ⟨after, .cons owner request rest after hrequest hroom hafter, rfl⟩
      · rw [heq, hsplit]
        exact Or.inr ⟨request :: taken, last, rest', middle, failed, err, rfl,
          .cons owner request taken middle hrequest hroom htaken, hlast, hlastRoom, hfailed, rfl⟩

theorem Filed.lookup (h : owner.Filed) {t : UInt16} {request : OwnedRequest}
    (ht : owner.inFlight.lookup t = some request) :
    owner.inFlight.lookup request.transactionID = some request := by
  rw [h t request ht]
  exact ht

theorem abandonExpired_step (nowOffset : Duration) :
    OwnerStep owner (.abandonExpired nowOffset)
      (.expired (owner.abandonExpired nowOffset).1 (owner.abandonExpired nowOffset).2.1
        (owner.abandonExpired nowOffset).2.2.1)
      (owner.abandonExpired nowOffset).2.2.2 := by
  unfold abandonExpired
  split
  · exact .refused _ _ _ rfl
  have hlive : owner.Filed → ∀ request ∈ owner.expiredCandidates nowOffset,
      owner.inFlight.lookup request.transactionID = some request := by
    intro hfiled request hrequest
    rcases owner.mem_expiredCandidates nowOffset request hrequest with ⟨t, ht⟩
    exact hfiled.lookup ht
  rcases abandonCandidates_buries owner.Filed _ owner hlive
    (owner.expiredCandidates_nodup nowOffset) with
    ⟨after, hafter, heq⟩ | ⟨taken, request, rest, middle, failed, err, hsplit, htaken, hlook, hroom,
      hfailed, heq⟩
  · rw [heq]
    exact .expired nowOffset after hafter
  · rw [heq]
    exact .overExpired nowOffset taken rest request middle failed err hsplit htaken hlook hroom
      hfailed

theorem newDiagnosticFrame_step (generation : Nat) (adu : TCPADU) (errs : List ProtocolError)
    (frame : TCPConnectionOwner) (hframe : frame = owner ∨ frame = { owner with closed := true }) :
    OwnerStep owner (.correlate generation adu)
      (.response (frame.newDiagnosticFrame generation adu).1
        ((frame.newDiagnosticFrame generation adu).2.1 ++ errs))
      (frame.newDiagnosticFrame generation adu).2.2 := by
  unfold newDiagnosticFrame
  rcases hframe with rfl | rfl
  · split
    · exact .undiagnosed _ _ _ (List.cons_ne_nil _ _)
    · next hnext => exact .diagnosed _ _ _ _ _ (fun hc => hc) hnext rfl rfl rfl rfl
  · split
    · exact .undiagnosed _ _ _ (List.cons_ne_nil _ _)
    · next hnext => exact .diagnosed _ _ _ _ true (fun _ => rfl) hnext rfl rfl rfl rfl

theorem correlate_step (generation : Nat) (adu : TCPADU) :
    OwnerStep owner (.correlate generation adu)
      (.response (owner.correlate generation adu).1 (owner.correlate generation adu).2.1)
      (owner.correlate generation adu).2.2 := by
  rcases owner.correlate_cases generation adu with
    ⟨request, hlook, _, _, hnext, _, _, _, hcorrelate⟩ |
      ⟨tombstone, hburied, hnext, _, hcorrelate⟩ | ⟨_, frame, errs, hframe, hcorrelate⟩
  · rcases owner.correlateActive_spec request adu hnext with ⟨hanswers, hstate, _⟩
    rw [hcorrelate, hstate]
    unfold noteEarlyCompletion
    split
    · next hinvoked => exact .overtook _ _ request _ _ hlook hanswers hinvoked
    · exact .answered _ _ request _ _ hlook hanswers
  · rcases owner.correlateAbandoned_spec tombstone adu hnext with ⟨_, hanswers, hstate⟩
    rw [hcorrelate, hstate]
    exact .late _ _ tombstone _ _ hburied hanswers
  · rw [hcorrelate]
    exact newDiagnosticFrame_step generation adu errs frame hframe

theorem reconnect_step (allocated : Option Nat) :
    OwnerStep owner (.reconnect allocated) (.generation (.ok (owner.reconnect allocated).1))
      (owner.reconnect allocated).2 := by
  unfold reconnect
  split
  · exact .kept allocated
  next hready =>
  simp only [not_or, Bool.not_eq_false, Bool.not_eq_true, Option.isSome_eq_false_iff,
    Option.isNone_iff_eq_none] at hready
  dsimp only
  split
  · exact .kept allocated
  · next hnext => exact .renewed allocated hready.1 hready.2.1 hready.2.2 hnext

theorem apply_step (owner : TCPConnectionOwner) (call : OwnerCall) :
    OwnerStep owner call (owner.apply call).1 (owner.apply call).2 := by
  cases call with
  | reserve unitID request deadlineOffset => exact reserve_step unitID request deadlineOffset
  | cancelBeforeWrite reservation =>
    simp only [apply, cancelBeforeWrite]
    split
    · exact .refused _ _ _ rfl
    · next request hrequest =>
      rcases (owner.removeInFlight request.transactionID).rewindAllocator_eq
        request.transactionID with ⟨next, hnext⟩
      rw [hnext]
      exact .cancelled _ request next (.of_requestFor owner hrequest)
  | replaceReservedRead reservation read => exact replaceReservedRead_step reservation read
  | markWriteInvoked reservation =>
    simp only [apply, markWriteInvoked]
    split
    · exact .refused _ _ _ rfl
    · next request hrequest => exact .marked _ request (.of_requestFor owner hrequest)
  | recordTransmit reservation result deadline =>
    exact recordTransmitUntil_step reservation result deadline
  | abandonAfterWrite reservation reason => exact abandonAfterWrite_step reservation reason
  | abandonExpired nowOffset => exact abandonExpired_step nowOffset
  | correlate generation adu => exact correlate_step generation adu
  | bindTransport transport =>
    simp only [apply, bindTransport]
    split
    · exact .refused _ _ _ rfl
    · exact .bound transport
  | loseTransport transport =>
    simp only [apply, loseTransport]
    split
    · exact .refused _ _ invalidOwner rfl
    · exact .dropped transport
  | close => exact .ended _ _ _ (Or.inl rfl)
  | retire => exact .ended _ _ _ (Or.inr rfl)
  | reconnect allocated => exact reconnect_step allocated

theorem remaining_empty (h : owner.Filed) (t : UInt16) : owner.remaining t = ∅ := by
  refine Table.eq_empty_of_lookup _ (fun k request hleft => ?_)
  rcases Table.lookup_erase_some hleft with ⟨hother, hkept⟩
  unfold failAllExcept at hkept
  dsimp only at hkept
  rw [Table.lookup_eraseAll] at hkept
  split at hkept
  · cases hkept
  next hnot =>
  have hkey := h k request hkept
  refine hnot (List.mem_map.mpr ⟨request, List.mem_filter.mpr ⟨?_, ?_⟩, hkey⟩)
  · refine (List.perm_insertionSort _ _).mem_iff.mpr (List.mem_map.mpr ⟨⟨k, request⟩, ?_, rfl⟩)
    exact (Table.mem_entries_iff _ _ _).mpr hkept
  · rw [hkey]
    exact decide_eq_true hother

theorem remaining_within (t : UInt16) : (owner.remaining t).Within owner.inFlight :=
  (Table.Within.erase _ _).trans fun t' request ht => owner.failAllExcept_lookup t t' request ht

theorem Buries.frame {filed : Prop} {taken : List OwnedRequest} {after : TCPConnectionOwner}
    (h : Buries filed owner taken after) :
    ∃ tombstones inFlight, inFlight.Within owner.inFlight ∧
      after = { owner with tombstones := tombstones, inFlight := inFlight } := by
  induction h with
  | nil owner => exact ⟨_, _, .refl _, rfl⟩
  | cons owner request rest after _ _ _ ih =>
    rcases ih with ⟨tombstones, inFlight, hwithin, rfl⟩
    exact ⟨tombstones, inFlight, hwithin.trans (.erase _ _), rfl⟩

end TCPConnectionOwner

end HelianthusModbus
