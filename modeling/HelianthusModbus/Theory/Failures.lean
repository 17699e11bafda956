import HelianthusModbus.Theory.Correlation

/-!
# Failure Reports

When a socket generation ends, the requests still in flight are lost with it, and their
callers have to be told. The owner has two ways to do so: the transition it returns, and
the list of pending failures that a later drain takes over.

`Reporting` runs an owner beside two lists that do not look at how it reports. One
collects what was reported through either way. The other collects what was lost: the
requests that are in the table before a call and not after it, except those the call is
about. Conservation says that the first list, with what is still pending, is a
permutation of the second.

Two steps break it. An expiry that runs out of tombstones reports the siblings both ways.
And `Reconnect` empties the table without a report, which matters where an earlier step
closed the owner and left requests in it. `Settles` excludes exactly these.

## Main definitions

* `Settles`: A call that neither overflows the tombstones with siblings in flight nor
  starts a generation over requests of the last one.

## Theorems

* `Tracks.effect`: Every call has such an effect.
* `Reporting.run_balanced`: What was lost was reported once, in every run.
* `lost_reservations_reported_once`: The same from a new owner.
* `lost_reservations_misreported`: The two steps that break it.
-/

namespace HelianthusModbus

/-- The calls on an owner, and taking over its pending failures. -/
inductive ReportingCall where
  | call (call : OwnerCall)
  | drainFailedReservations
  deriving DecidableEq, Repr

/-- The requests a call is about. It ends them by itself, not because the generation
    ends. -/
def OwnerCall.own : OwnerCall → OwnerReply → List Nat
  | .cancelBeforeWrite reservation, _ => [reservation.physicalRequestID]
  | .recordTransmit reservation _ _, _ => [reservation.physicalRequestID]
  | .abandonAfterWrite reservation _, _ => [reservation.physicalRequestID]
  | .abandonExpired _, .expired reservations _ _ =>
    reservations.map TCPReservation.physicalRequestID
  | .correlate _ _, .response response _ => [response.physicalRequestID]
  | _, _ => []

/-- `FailedReservations` of the transition a call returns, if it returns one. -/
def OwnerReply.failed : OwnerReply → List TCPReservation
  | .transition result _ => result.failed
  | .expired _ result _ => result.failed
  | _ => []

namespace TCPConnectionOwner

/-- The requests in flight. -/
def live (owner : TCPConnectionOwner) : List OwnedRequest := owner.inFlight.entries.map fun e => e.2

/-- Their physical ids. -/
def liveIDs (owner : TCPConnectionOwner) : List Nat :=
  owner.live.map OwnedRequest.physicalRequestID

/-- The reservations that a call takes out of the table although it is not about them. -/
def lostIn (before after : TCPConnectionOwner) (own : List Nat) : List TCPReservation :=
  (before.live.filter fun request =>
    request.physicalRequestID ∉ own ∧ request.physicalRequestID ∉ after.liveIDs).map
    before.reservationOf

/-- How many waiting requests are due. -/
def dueCount (owner : TCPConnectionOwner) (nowOffset : Duration) : Nat :=
  owner.live.countP fun request => request.state = .waiting ∧ 0 < request.deadlineOffset ∧
    request.deadlineOffset ≤ nowOffset

/-- How many more tombstones the owner may keep. -/
def freeTombstones (owner : TCPConnectionOwner) : Nat :=
  (owner.limits.maxTombstones - owner.tombstones.entries.length).toNat

end TCPConnectionOwner

/-- An expiry has a tombstone for every request that is due, or takes every request in
    flight before it needs one too many. A reconnect that starts a generation finds no
    request in flight. -/
def Settles (owner : TCPConnectionOwner) : ReportingCall → Prop
  | .call (.abandonExpired nowOffset) =>
    owner.dueCount nowOffset ≤ owner.freeTombstones ∨
      owner.live.length ≤ owner.freeTombstones + 1
  | .call (.reconnect allocated) =>
    owner.closed = true → owner.retired = false → owner.boundTransport = none →
      allocated.getD (nextUint64 owner.generation) ≠ 0 → owner.live = []
  | _ => True

instance (owner : TCPConnectionOwner) (call : ReportingCall) : Decidable (Settles owner call) :=
  match call with
  | .call (.abandonExpired _) => inferInstanceAs (Decidable (_ ∨ _))
  | .call (.reconnect _) => inferInstanceAs (Decidable (_ → _ → _ → _ → _))
  | .call (.reserve _ _ _) | .call (.cancelBeforeWrite _) | .call (.replaceReservedRead _ _)
  | .call (.markWriteInvoked _) | .call (.recordTransmit _ _ _) | .call (.abandonAfterWrite _ _)
  | .call (.correlate _ _) | .call (.bindTransport _) | .call (.loseTransport _) | .call .close
  | .call .retire | .drainFailedReservations => isTrue trivial

/-- An owner beside what it reported and what it lost. -/
structure Reporting where
  owner : TCPConnectionOwner
  reported : List TCPReservation := []
  lost : List TCPReservation := []

namespace Reporting

def step (reporting : Reporting) : ReportingCall → Reporting
  | .drainFailedReservations =>
    let drained := reporting.owner.drainFailedReservations
    { reporting with owner := drained.2, reported := reporting.reported ++ drained.1 }
  | .call call =>
    let result := reporting.owner.apply call
    { owner := result.2
      reported := reporting.reported ++ result.1.failed
      lost := reporting.lost ++ reporting.owner.lostIn result.2 (call.own result.1) }

def run (reporting : Reporting) (calls : List ReportingCall) : Reporting :=
  calls.foldl step reporting

/-- Every call of a run settles, in the state it is made in. -/
def AllSettle : Reporting → List ReportingCall → Prop
  | _, [] => True
  | reporting, call :: rest => Settles reporting.owner call ∧ AllSettle (reporting.step call) rest

instance decidableAllSettle (reporting : Reporting) (calls : List ReportingCall) :
    Decidable (reporting.AllSettle calls) :=
  match calls with
  | [] => isTrue trivial
  | call :: rest =>
    have := decidableAllSettle (reporting.step call) rest
    inferInstanceAs (Decidable (Settles reporting.owner call ∧ _))

end Reporting

open TCPConnectionOwner

/-- What a call does to the ids in flight and to the reports: no id comes in but a fresh
    one, and what is lost is reported or pending. -/
structure Effect (before after : TCPConnectionOwner) (own : List Nat)
    (failed : List TCPReservation) : Prop where
  ids : ∀ p ∈ after.liveIDs, p ∈ before.liveIDs ∨
    (before.nextPhysicalRequestID ≠ 0 ∧ p = before.nextPhysicalRequestID)
  next : after.nextPhysicalRequestID = before.nextPhysicalRequestID ∨
    (before.nextPhysicalRequestID ≠ 0 ∧
      after.nextPhysicalRequestID = nextUint64 before.nextPhysicalRequestID)
  balance : (failed ++ after.pendingFailures).Perm
    (before.pendingFailures ++ before.lostIn after own)

theorem mem_live (owner : TCPConnectionOwner) (request : OwnedRequest) :
    request ∈ owner.live ↔ ∃ t, owner.inFlight.lookup t = some request := by
  unfold live
  rw [List.mem_map]
  constructor
  · rintro ⟨e, he, rfl⟩
    exact ⟨e.1, (Table.mem_entries_iff _ _ _).mp he⟩
  · rintro ⟨t, ht⟩
    exact ⟨⟨t, request⟩, (Table.mem_entries_iff _ _ _).mpr ht, rfl⟩

theorem mem_liveIDs (owner : TCPConnectionOwner) (p : Nat) :
    p ∈ owner.liveIDs ↔
      ∃ t request, owner.inFlight.lookup t = some request ∧ request.physicalRequestID = p := by
  unfold liveIDs
  rw [List.mem_map]
  constructor
  · rintro ⟨request, hrequest, hp⟩
    obtain ⟨t, ht⟩ := (mem_live owner request).mp hrequest
    exact ⟨t, request, ht, hp⟩
  · rintro ⟨t, request, ht, hp⟩
    exact ⟨request, (mem_live owner request).mpr ⟨t, ht⟩, hp⟩

namespace Effect

variable {before after : TCPConnectionOwner} {own : List Nat}

/-- Nothing is lost if every request in flight stays or is one the call is about. -/
theorem lostIn_eq_nil (hkept : ∀ p ∈ before.liveIDs, p ∈ own ∨ p ∈ after.liveIDs) :
    before.lostIn after own = [] := by
  unfold lostIn
  rw [List.map_eq_nil_iff, List.filter_eq_nil_iff]
  intro request hrequest
  rw [decide_eq_true_iff]
  rintro ⟨hown, hgone⟩
  exact (hkept _ (List.mem_map_of_mem hrequest)).elim hown hgone

end Effect

/-- A step that loses nothing and adds no request. -/
structure Quiet (before after : TCPConnectionOwner) (own : List Nat) : Prop where
  ids : ∀ p ∈ after.liveIDs, p ∈ before.liveIDs
  next : after.nextPhysicalRequestID = before.nextPhysicalRequestID
  pending : after.pendingFailures = before.pendingFailures
  kept : ∀ p ∈ before.liveIDs, p ∈ own ∨ p ∈ after.liveIDs

namespace Quiet

variable {before after : TCPConnectionOwner} {own : List Nat}

theorem effect (h : Quiet before after own) : Effect before after own [] := by
  refine ⟨fun p hp => Or.inl (h.ids p hp), Or.inl h.next, ?_⟩
  rw [Effect.lostIn_eq_nil h.kept, h.pending, List.append_nil, List.nil_append]

theorem trans {middle : TCPConnectionOwner} {own' : List Nat} (h : Quiet before middle own)
    (h' : Quiet middle after own') : Quiet before after (own ++ own') where
  ids p hp := h.ids p (h'.ids p hp)
  next := h'.next.trans h.next
  pending := h'.pending.trans h.pending
  kept p hp := by
    rcases h.kept p hp with hown | hmiddle
    · exact Or.inl (List.mem_append_left _ hown)
    · exact (h'.kept p hmiddle).imp_left (List.mem_append_right _)

theorem same (htable : after.inFlight = before.inFlight)
    (hnext : after.nextPhysicalRequestID = before.nextPhysicalRequestID)
    (hpending : after.pendingFailures = before.pendingFailures) : Quiet before after own := by
  have hids : after.liveIDs = before.liveIDs := by
    unfold liveIDs live
    rw [htable]
  exact ⟨fun p hp => hids ▸ hp, hnext, hpending, fun p hp => Or.inr (hids ▸ hp)⟩

/-- A request the step is about leaves the table. -/
theorem removed {request : OwnedRequest} {t : UInt16}
    (hrequest : before.inFlight.lookup t = some request)
    (hown : request.physicalRequestID ∈ own)
    (htable : after.inFlight = before.inFlight.erase t)
    (hnext : after.nextPhysicalRequestID = before.nextPhysicalRequestID)
    (hpending : after.pendingFailures = before.pendingFailures) : Quiet before after own := by
  refine ⟨fun p hp => ?_, hnext, hpending, fun p hp => ?_⟩
  · obtain ⟨t', other, hother, hp⟩ := (mem_liveIDs after p).mp hp
    rw [htable] at hother
    exact (mem_liveIDs before p).mpr ⟨t', other, (Table.lookup_erase_some hother).2, hp⟩
  · obtain ⟨t', other, hother, hp⟩ := (mem_liveIDs before p).mp hp
    by_cases hsame : t' = t
    · rw [hsame, hrequest] at hother
      cases hother
      exact Or.inl (hp ▸ hown)
    · refine Or.inr ((mem_liveIDs after p).mpr ⟨t', other, ?_, hp⟩)
      rw [htable, Table.lookup_erase_ite, if_neg hsame]
      exact hother

/-- A request changes in place and keeps its identifiers. -/
theorem updated {request request' : OwnedRequest} {t : UInt16}
    (hrequest : before.inFlight.lookup t = some request)
    (hkey : request'.transactionID = t)
    (hid : request'.physicalRequestID = request.physicalRequestID) :
    Quiet before (before.updateInFlight request') own := by
  subst hkey
  refine ⟨fun p hp => ?_, rfl, rfl, fun p hp => Or.inr ?_⟩
  · obtain ⟨t, other, hother, hnamed⟩ := (mem_liveIDs _ p).mp hp
    rcases Table.lookup_insert_some hother with ⟨_, rfl⟩ | ⟨_, hold⟩
    · exact (mem_liveIDs before p).mpr ⟨_, request, hrequest, hid ▸ hnamed⟩
    · exact (mem_liveIDs before p).mpr ⟨t, other, hold, hnamed⟩
  · obtain ⟨t, other, hother, hp⟩ := (mem_liveIDs before p).mp hp
    by_cases hsame : t = request'.transactionID
    · rw [hsame, hrequest] at hother
      cases hother
      refine (mem_liveIDs _ p).mpr ⟨t, request', ?_, hid.trans hp⟩
      unfold updateInFlight
      rw [Table.lookup_insert_ite, if_pos hsame]
    · refine (mem_liveIDs _ p).mpr ⟨t, other, ?_, hp⟩
      unfold updateInFlight
      rw [Table.lookup_insert_ite, if_neg hsame]
      exact hother

end Quiet

namespace Effect

variable {before after : TCPConnectionOwner} {own : List Nat}

/-- The table is emptied and everything in it, except what the call is about, is
    reported one way. -/
theorem emptied {failed : List TCPReservation} (htable : after.inFlight = ∅)
    (hnext : after.nextPhysicalRequestID = before.nextPhysicalRequestID)
    (hreported : (failed ++ after.pendingFailures).Perm (before.pendingFailures ++
      (before.live.filter fun request => request.physicalRequestID ∉ own).map
        before.reservationOf)) :
    Effect before after own failed := by
  have hids : after.liveIDs = [] := by
    unfold liveIDs live
    rw [htable]
    rfl
  refine ⟨fun p hp => ?_, Or.inl hnext, ?_⟩
  · rw [hids] at hp
    cases hp
  · unfold lostIn
    rw [hids]
    simpa only [List.not_mem_nil, not_false_eq_true, and_true] using hreported

end Effect

section Reports

variable {owner : TCPConnectionOwner} {ledger : Ledger}

theorem sortedInFlight_perm (owner : TCPConnectionOwner) :
    owner.sortedInFlight.Perm owner.live := List.perm_insertionSort _ _

/-- The siblings of a request, told apart by their physical ids. -/
theorem failAllExcept_perm (h : Tracks owner ledger) {t : UInt16} {request : OwnedRequest}
    (hrequest : owner.inFlight.lookup t = some request) :
    (owner.failAllExcept t).1.Perm ((owner.live.filter fun other =>
      other.physicalRequestID ∉ [request.physicalRequestID]).map owner.reservationOf) := by
  unfold failAllExcept
  dsimp only
  refine List.Perm.map _ ?_
  refine ((sortedInFlight_perm owner).filter _).trans (List.Perm.of_eq (List.filter_congr ?_))
  intro other hother
  obtain ⟨t', ht'⟩ := (mem_live owner other).mp hother
  rw [decide_eq_decide, List.mem_singleton, h.filed t' other ht']
  refine not_congr ⟨?_, fun hid => h.unique t' other t request ht' hrequest hid⟩
  rintro rfl
  rw [ht'] at hrequest
  cases hrequest
  rfl

theorem failAll_perm (owner : TCPConnectionOwner) :
    owner.failAll.1.Perm ((owner.live.filter fun other =>
      other.physicalRequestID ∉ ([] : List Nat)).map owner.reservationOf) := by
  have hall : (owner.live.filter fun other =>
      decide (other.physicalRequestID ∉ ([] : List Nat))) = owner.live :=
    List.filter_eq_self.mpr (fun _ _ => decide_eq_true List.not_mem_nil)
  rw [hall]
  exact (sortedInFlight_perm owner).map _

/-- A request is entered under a free identifier. -/
theorem Effect.entered {before after : TCPConnectionOwner} {t : UInt16} {request : OwnedRequest}
    (hfree : before.inFlight.lookup t = none)
    (htable : after.inFlight = before.inFlight.insert t request)
    (hne : before.nextPhysicalRequestID ≠ 0)
    (hid : request.physicalRequestID = before.nextPhysicalRequestID)
    (hnext : after.nextPhysicalRequestID = nextUint64 before.nextPhysicalRequestID)
    (hpending : after.pendingFailures = before.pendingFailures) : Effect before after [] [] := by
  refine ⟨fun p hp => ?_, Or.inr ⟨hne, hnext⟩, ?_⟩
  · obtain ⟨t', other, hother, hp⟩ := (mem_liveIDs _ p).mp hp
    rw [htable] at hother
    rcases Table.lookup_insert_some hother with ⟨_, rfl⟩ | ⟨_, hold⟩
    · exact Or.inr ⟨hne, hp.symm.trans hid⟩
    · exact Or.inl ((mem_liveIDs before p).mpr ⟨t', other, hold, hp⟩)
  · rw [Effect.lostIn_eq_nil, hpending, List.append_nil, List.nil_append]
    intro p hp
    obtain ⟨t', other, hother, hp⟩ := (mem_liveIDs before p).mp hp
    refine Or.inr ((mem_liveIDs _ p).mpr ⟨t', other, ?_, hp⟩)
    -- The identifier is free, so nothing is overwritten.
    rw [htable, Table.lookup_insert_ite, if_neg]
    · exact hother
    · rintro rfl
      rw [hfree] at hother
      cases hother

theorem dueCount_eq (owner : TCPConnectionOwner) (nowOffset : Duration) :
    (owner.expiredCandidates nowOffset).length = owner.dueCount nowOffset := by
  unfold expiredCandidates dueCount live
  rw [List.length_insertionSort, List.countP_eq_length_filter]

theorem freeTombstones_bury (owner : TCPConnectionOwner) (request : OwnedRequest) :
    owner.freeTombstones ≤ (owner.bury request).freeTombstones + 1 := by
  have hlength : (owner.tombstones.insert request.transactionID request).entries.length ≤
      owner.tombstones.entries.length + 1 := by
    rw [AList.entries_insert, List.length_cons]
    have := (List.kerase_sublist request.transactionID owner.tombstones.entries).length_le
    omega
  unfold freeTombstones bury
  dsimp only
  omega

theorem live_length_erase (owner : TCPConnectionOwner) {t : UInt16} {request : OwnedRequest}
    (h : owner.inFlight.lookup t = some request) :
    (owner.inFlight.erase t).entries.length + 1 = owner.live.length := by
  have hmem : t ∈ owner.inFlight.keys := by
    rw [← AList.mem_keys, ← AList.lookup_isSome, h]
    rfl
  have hkeys : (owner.inFlight.erase t).keys.length = owner.inFlight.keys.length - 1 := by
    rw [AList.keys_erase, List.length_erase_of_mem hmem]
  have hpos := List.length_pos_of_mem hmem
  unfold live
  rw [List.length_map]
  unfold AList.keys List.keys at hkeys hpos
  rw [List.length_map] at hkeys hpos
  rw [List.length_map] at hkeys
  omega

theorem live_eq_of_length (owner : TCPConnectionOwner) {request other : OwnedRequest}
    (hlength : owner.live.length ≤ 1) (hrequest : request ∈ owner.live)
    (hother : other ∈ owner.live) : other = request := by
  obtain ⟨only, honly⟩ := List.length_eq_one_iff.mp
    (Nat.le_antisymm hlength (List.length_pos_of_mem hrequest))
  rw [honly, List.mem_singleton] at hrequest hother
  rw [hrequest, hother]

/-- Burying requests one after the other is about these requests only. -/
theorem TCPConnectionOwner.Buries.quiet {filed : Prop} (hfiled : filed)
    {owner after : TCPConnectionOwner} {taken : List OwnedRequest}
    (h : Buries filed owner taken after) :
    Quiet owner after
      ((taken.map owner.reservationOf).map TCPReservation.physicalRequestID) := by
  induction h with
  | nil owner => exact Quiet.same rfl rfl rfl
  | cons owner request rest after hlook _ _ ih =>
    have hstep : Quiet owner (owner.bury request) [request.physicalRequestID] :=
      Quiet.removed (hlook hfiled) (List.mem_singleton_self _) rfl rfl rfl
    exact hstep.trans ih

theorem TCPConnectionOwner.Buries.counts {filed : Prop} (hfiled : filed)
    {owner after : TCPConnectionOwner} {taken : List OwnedRequest}
    (h : Buries filed owner taken after) :
    owner.freeTombstones ≤ after.freeTombstones + taken.length ∧
      after.live.length + taken.length = owner.live.length := by
  induction h with
  | nil owner => exact ⟨Nat.le_refl _, rfl⟩
  | cons owner request rest after hlook _ _ ih =>
    have hfree := freeTombstones_bury owner request
    have hlength := live_length_erase owner (hlook hfiled)
    have hburied : (owner.bury request).live.length =
        (owner.inFlight.erase request.transactionID).entries.length := List.length_map _
    rw [List.length_cons]
    omega

/-- An expiry that runs out of tombstones and settles fails nobody. -/
theorem overExpired_quiet (h : owner.Filed) {nowOffset : Duration}
    {taken rest : List OwnedRequest} {request : OwnedRequest} {middle : TCPConnectionOwner}
    {failed : List TCPReservation}
    (hsplit : owner.expiredCandidates nowOffset = taken ++ request :: rest)
    (hburies : Buries owner.Filed owner taken middle)
    (hlook : middle.inFlight.lookup request.transactionID = some request)
    (hroom : ¬middle.HasRoom)
    (hfailed : failed = (middle.removeInFlight request.transactionID).failAll.1)
    (hsettles : Settles owner (.call (.abandonExpired nowOffset))) :
    failed = [] ∧ Quiet owner
      { middle with
        closingTombstone := some request, inFlight := ∅, closed := true
        pendingFailures := middle.pendingFailures ++ failed }
      (((taken ++ [request]).map owner.reservationOf).map TCPReservation.physicalRequestID) := by
  obtain ⟨hfree, hcount⟩ := hburies.counts h
  have hdue := dueCount_eq owner nowOffset
  rw [hsplit, List.length_append, List.length_cons] at hdue
  have hnone : middle.freeTombstones = 0 := by
    unfold TCPConnectionOwner.HasRoom at hroom
    unfold freeTombstones
    omega
  -- It stops at the last request in flight, so there is no sibling to fail.
  have hone : middle.live.length ≤ 1 := by
    unfold Settles at hsettles
    dsimp only at hsettles
    omega
  have hlength := live_length_erase middle hlook
  have hempty : middle.inFlight.erase request.transactionID = ∅ := by
    have hnil : (middle.inFlight.erase request.transactionID).entries = [] :=
      List.eq_nil_of_length_eq_zero (by omega)
    exact AList.ext (by rw [hnil]; rfl)
  have hnil : failed = [] := by
    rw [hfailed]
    unfold failAll sortedInFlight removeInFlight
    dsimp only
    rw [hempty]
    rfl
  refine ⟨hnil, ?_⟩
  rw [List.map_append, List.map_append, hnil, List.append_nil]
  refine (hburies.quiet h).trans ⟨fun p hp => ?_, rfl, rfl, fun p hp => Or.inl ?_⟩
  · cases hp
  · obtain ⟨other, hother, rfl⟩ := List.mem_map.mp hp
    rw [live_eq_of_length middle hone ((mem_live middle request).mpr ⟨_, hlook⟩) hother]
    exact List.mem_singleton_self _

theorem Tracks.effect (h : Tracks owner ledger) (call : OwnerCall)
    (hsettles : Settles owner (.call call)) :
    Effect owner (owner.apply call).2 (call.own (owner.apply call).1)
      (owner.apply call).1.failed := by
  have hstep := owner.apply_step call
  generalize (owner.apply call).1 = reply, (owner.apply call).2 = after at hstep ⊢
  cases hstep with
  | refused _ _ err hrefused =>
    have hnone : reply.failed = [] := by
      cases call <;> cases hrefused <;> rfl
    rw [hnone]
    exact Quiet.effect (Quiet.same rfl rfl rfl)
  | reserved unitID request deadlineOffset t next hnext hfree =>
    exact Effect.entered hfree rfl hnext rfl rfl rfl
  | cancelled reservation request next hholds | unsent reservation deadline request next hholds
  | abandoned reservation reason request hholds =>
  exact Quiet.effect (Quiet.removed (h.filed.lookup hholds.lookup)
    (by rw [hholds.id]; exact List.mem_singleton_self _) rfl rfl rfl)
  | replaced reservation read request hholds | marked reservation request hholds
  | sent reservation deadline offset request hholds =>
  exact Quiet.effect (Quiet.updated (h.filed.lookup hholds.lookup) rfl rfl)
  | lost _ reservation request hcall hholds | lostLast _ reservation request hcall hholds =>
    have hown : call.own (.transition
        { closeConnection := true, failed := (owner.failAllExcept request.transactionID).1 }
        none) = [request.physicalRequestID] := by
      rw [hholds.id]
      cases hcall <;> rfl
    rw [hown]
    have hperm := failAllExcept_perm h (h.filed.lookup hholds.lookup)
    exact Effect.emptied (remaining_empty h.filed _) rfl
      ((hperm.append_right _).trans List.perm_append_comm)
  | overflowed reservation reason request err hholds =>
    -- Without a tombstone the siblings become pending failures.
    refine Effect.emptied (remaining_empty h.filed _) rfl ?_
    rw [OwnerCall.own, ← hholds.id]
    exact (failAllExcept_perm h (h.filed.lookup hholds.lookup)).append_left _
  | expired nowOffset after hburies => exact (hburies.quiet h.filed).effect
  | overExpired nowOffset taken rest request middle failed err hsplit hburies hlook hroom hfailed =>
    obtain ⟨hnil, hquiet⟩ :=
      overExpired_quiet h.filed hsplit hburies (hlook h.filed) hroom hfailed hsettles
    rw [OwnerReply.failed, hnil] at *
    exact hquiet.effect
  | answered generation adu request response errs hlook hanswers
  | overtook generation adu request response errs hlook hanswers =>
  refine Quiet.effect (Quiet.removed (h.filed.lookup hlook) ?_ rfl rfl rfl)
  rw [OwnerCall.own, hanswers.physicalRequestID]
  exact List.mem_singleton_self _
  | dropped =>
    exact Effect.emptied rfl rfl (((failAll_perm owner).append_right _).trans
      List.perm_append_comm)
  | ended _ retired pooled hcall =>
    rcases hcall with rfl | rfl
    · exact Effect.emptied rfl rfl ((failAll_perm owner).append_left _)
    · exact Effect.emptied rfl rfl ((failAll_perm owner).append_left _)
  | renewed allocated hclosed hretired hbound hnext =>
    refine Effect.emptied rfl rfl ?_
    rw [hsettles hclosed hretired hbound hnext]
    exact List.Perm.of_eq (List.append_nil _).symm
  | _ => exact Quiet.effect (Quiet.same rfl rfl rfl)

end Reports

theorem liveIDs_nodup {owner : TCPConnectionOwner} {ledger : Ledger} (h : Tracks owner ledger) :
    owner.liveIDs.Nodup := by
  unfold liveIDs live
  rw [List.map_map]
  refine owner.inFlight.nodupKeys.nodup.map_on (fun e he e' he' hid => ?_)
  have hlook := (Table.mem_entries_iff _ _ _).mp he
  have hlook' := (Table.mem_entries_iff _ _ _).mp he'
  obtain ⟨t, request⟩ := e
  obtain ⟨t', request'⟩ := e'
  obtain rfl : t = t' := h.unique t request t' request' hlook hlook' hid
  rw [hlook] at hlook'
  cases hlook'
  rfl

theorem mem_lostIn {before after : TCPConnectionOwner} {own : List Nat}
    {reservation : TCPReservation} (h : reservation ∈ before.lostIn after own) :
    reservation.physicalRequestID ∈ before.liveIDs ∧
      reservation.physicalRequestID ∉ after.liveIDs := by
  unfold lostIn at h
  obtain ⟨request, hrequest, rfl⟩ := List.mem_map.mp h
  obtain ⟨hlive, hgone⟩ := List.mem_filter.mp hrequest
  exact ⟨List.mem_map_of_mem hlive, (of_decide_eq_true hgone).2⟩

theorem lostIn_nodup {before after : TCPConnectionOwner} {own : List Nat} {ledger : Ledger}
    (h : Tracks before ledger) :
    ((before.lostIn after own).map TCPReservation.physicalRequestID).Nodup := by
  unfold lostIn
  rw [List.map_map]
  exact (liveIDs_nodup h).sublist (List.filter_sublist.map OwnedRequest.physicalRequestID)

theorem liveIDs_issued {owner : TCPConnectionOwner} {ledger : Ledger} (h : Tracks owner ledger)
    {p : Nat} (hp : p ∈ owner.liveIDs) (hnext : owner.nextPhysicalRequestID ≠ 0) :
    p < owner.nextPhysicalRequestID := by
  obtain ⟨t, request, hlook, rfl⟩ := (mem_liveIDs owner p).mp hp
  obtain ⟨entry, hentry, -⟩ := (h.live t request hlook).known
  exact (h.issued _ entry hentry).2 hnext

namespace Reporting

/-- What was reported or is pending is what was lost, each once, and no id that was lost
    is in flight again. -/
structure Balanced (reporting : Reporting) : Prop where
  tracks : ∃ ledger, Tracks reporting.owner ledger
  balance : (reporting.reported ++ reporting.owner.pendingFailures).Perm reporting.lost
  nodup : (reporting.lost.map TCPReservation.physicalRequestID).Nodup
  gone : ∀ reservation ∈ reporting.lost,
    reservation.physicalRequestID ∉ reporting.owner.liveIDs
  issued : reporting.owner.nextPhysicalRequestID ≠ 0 → ∀ reservation ∈ reporting.lost,
    reservation.physicalRequestID < reporting.owner.nextPhysicalRequestID

theorem Balanced.drain {reporting : Reporting} (h : Balanced reporting) :
    Balanced (reporting.step .drainFailedReservations) := by
  obtain ⟨ledger, htracks⟩ := h.tracks
  refine ⟨⟨ledger, htracks.keep rfl rfl rfl id (fun _ hburied => hburied)⟩, ?_, h.nodup, h.gone,
    h.issued⟩
  have hbalance := h.balance
  rw [← List.append_nil (reporting.reported ++ reporting.owner.pendingFailures)] at hbalance
  exact hbalance

theorem Balanced.call {reporting : Reporting} (h : Balanced reporting) (call : OwnerCall)
    (hsettles : Settles reporting.owner (.call call)) :
    Balanced (reporting.step (.call call)) := by
  obtain ⟨ledger, htracks⟩ := h.tracks
  have heffect := htracks.effect call hsettles
  have hbound := htracks.bounded
  refine ⟨⟨_, htracks.step call⟩, ?_, ?_, ?_, ?_⟩
  · calc reporting.reported ++ (reporting.owner.apply call).1.failed ++
          (reporting.owner.apply call).2.pendingFailures
        = reporting.reported ++ ((reporting.owner.apply call).1.failed ++
          (reporting.owner.apply call).2.pendingFailures) := List.append_assoc _ _ _
      List.Perm _ (reporting.reported ++ (reporting.owner.pendingFailures ++
          reporting.owner.lostIn (reporting.owner.apply call).2
            (call.own (reporting.owner.apply call).1))) := heffect.balance.append_left _
      _ = reporting.reported ++ reporting.owner.pendingFailures ++ _ :=
          (List.append_assoc _ _ _).symm
      List.Perm _ _ := h.balance.append_right _
  · show ((reporting.lost ++ _).map _).Nodup
    rw [List.map_append]
    refine h.nodup.append (lostIn_nodup htracks) (fun p hold hnew => ?_)
    obtain ⟨old, hmem, rfl⟩ := List.mem_map.mp hold
    obtain ⟨new, hlost, hsame⟩ := List.mem_map.mp hnew
    exact h.gone old hmem (hsame ▸ (mem_lostIn hlost).1)
  · intro reservation hmem hlive
    rcases List.mem_append.mp hmem with hold | hnew
    · -- An id that was lost before does not come back: fresh ids are larger.
      rcases heffect.ids _ hlive with hbefore | ⟨hnext, hfresh⟩
      · exact h.gone reservation hold hbefore
      · have := h.issued hnext reservation hold
        omega
    · exact (mem_lostIn hnew).2 hlive
  · intro hnext reservation hmem
    have hbefore : reporting.owner.nextPhysicalRequestID ≠ 0 ∧
        reporting.owner.nextPhysicalRequestID ≤
          (reporting.owner.apply call).2.nextPhysicalRequestID := by
      change (reporting.owner.apply call).2.nextPhysicalRequestID ≠ 0 at hnext
      rcases heffect.next with hsame | ⟨hold, hmore⟩
      · rw [hsame] at hnext ⊢
        exact ⟨hnext, Nat.le_refl _⟩
      · rw [hmore] at hnext ⊢
        unfold nextUint64 at hnext ⊢
        unfold maxUint64 at hbound
        exact ⟨hold, by omega⟩
    have hissued : reservation.physicalRequestID < reporting.owner.nextPhysicalRequestID := by
      rcases List.mem_append.mp hmem with hold | hnew
      · exact h.issued hbefore.1 reservation hold
      · exact liveIDs_issued htracks (mem_lostIn hnew).1 hbefore.1
    exact Nat.lt_of_lt_of_le hissued hbefore.2

theorem run_balanced (reporting : Reporting) (h : Balanced reporting)
    (calls : List ReportingCall) (hsettle : reporting.AllSettle calls) :
    Balanced (reporting.run calls) := by
  induction calls generalizing reporting with
  | nil => exact h
  | cons call rest ih =>
    refine ih (reporting.step call) ?_ hsettle.2
    cases call with
    | call call => exact h.call call hsettle.1
    | drainFailedReservations => exact h.drain

end Reporting

/-- In every run of a new owner whose calls all settle, what was reported in transitions
    and drains, with what is still pending, is exactly what was lost, and no request was
    lost twice. -/
theorem lost_reservations_reported_once (endpoint : String) (generation : Nat)
    (limits : ConnectionLimits) (owner : TCPConnectionOwner)
    (hnew : newTCPConnectionOwner endpoint generation limits = .ok owner) (connectionID : Nat)
    (pooled : Bool) (calls : List ReportingCall)
    (hsettle : Reporting.AllSettle
      { owner := { owner with connectionID := connectionID, pooled := pooled } } calls) :
    let reached := Reporting.run
      { owner := { owner with connectionID := connectionID, pooled := pooled } } calls
    (reached.reported ++ reached.owner.drainFailedReservations.1).Perm reached.lost ∧
      (reached.lost.map TCPReservation.physicalRequestID).Nodup := by
  have hpending : owner.pendingFailures = [] := by rw [newTCPConnectionOwner_eq hnew]
  have hstart := Traced.start_sound hnew connectionID pooled owner.boundTransport
  have hreached := Reporting.run_balanced
    { owner := { owner with connectionID := connectionID, pooled := pooled } }
    ⟨⟨_, hstart.tracks⟩, List.Perm.of_eq hpending, List.nodup_nil, nofun, fun _ => nofun⟩
    calls hsettle
  exact ⟨hreached.balance, hreached.nodup⟩

/-- An owner with three requests in flight at most and one tombstone. -/
def narrowOwner : TCPConnectionOwner where
  endpoint := "endpoint"
  connectionID := 7
  generation := 1
  limits := { maxInFlight := 3, maxTombstones := 1 }

/-- Reserving a read of one register. -/
def reserveRead : ReportingCall :=
  .call (.reserve 1
    (.read { function := 3, table := .holdingRegisters, offset := 0, quantity := 1 }) 0)

/-- The reservation of the request with a given transaction identifier. -/
def reserved (transactionID : UInt16) (physicalRequestID : Nat) : TCPReservation :=
  { owner := some 7, transactionID := transactionID, physicalRequestID := physicalRequestID,
    generation := 1 }

/-- Two requests are reserved, and the write of the first costs the socket. -/
def lossyWrite : List ReportingCall :=
  [reserveRead, reserveRead, .call (.markWriteInvoked (reserved 0 1)),
    .call (.recordTransmit (reserved 0 1) .partialWrite 0)]

theorem lost_reservations_reported_once_example :
    newTCPConnectionOwner "endpoint" 1 { maxInFlight := 3, maxTombstones := 1 } =
        .ok { narrowOwner with connectionID := 0 } ∧
      (Reporting.run { owner := narrowOwner } lossyWrite).lost = [reserved 1 2] ∧
      ((Reporting.run { owner := narrowOwner } lossyWrite).lost.map
        TCPReservation.physicalRequestID).Nodup :=
  ⟨rfl, by decide +kernel,
    (lost_reservations_reported_once "endpoint" 1 { maxInFlight := 3, maxTombstones := 1 } _ rfl
      7 false lossyWrite (by decide +kernel)).2⟩

/-- Two waiting requests expire with one tombstone for both, and a third one is in
    flight. -/
def expiryOverflow : List ReportingCall :=
  [reserveRead, reserveRead, reserveRead, .call (.markWriteInvoked (reserved 0 1)),
    .call (.recordTransmit (reserved 0 1) .complete 5), .call (.markWriteInvoked (reserved 1 2)),
    .call (.recordTransmit (reserved 1 2) .complete 5), .call (.abandonExpired 10)]

/-- A response overtakes a write that then fails, and the owner reconnects. -/
def reconnectOverLive : List ReportingCall :=
  [reserveRead, reserveRead, .call (.markWriteInvoked (reserved 0 1)),
    .call (.correlate 1 { transactionID := 0, unitID := 1, pdu := [3, 2, 0, 9] }),
    .call (.recordTransmit (reserved 0 1) .partialWrite 0), .call (.reconnect none)]

/-- The third request of the overflow is reported in the transition and again by the
    drain. The second request of the other run is dropped without a report. -/
theorem lost_reservations_misreported :
    newTCPConnectionOwner "endpoint" 1 { maxInFlight := 3, maxTombstones := 1 } =
        .ok { narrowOwner with connectionID := 0 } ∧
      ((Reporting.run { owner := narrowOwner } expiryOverflow).lost = [reserved 2 3] ∧
        (Reporting.run { owner := narrowOwner } expiryOverflow).reported ++
          (Reporting.run { owner := narrowOwner }
            expiryOverflow).owner.drainFailedReservations.1 = [reserved 2 3, reserved 2 3]) ∧
      (Reporting.run { owner := narrowOwner } reconnectOverLive).lost = [reserved 1 2] ∧
      (Reporting.run { owner := narrowOwner } reconnectOverLive).reported ++
        (Reporting.run { owner := narrowOwner }
          reconnectOverLive).owner.drainFailedReservations.1 = [] :=
  ⟨rfl, by decide +kernel⟩

end HelianthusModbus
