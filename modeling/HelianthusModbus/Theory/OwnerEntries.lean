import HelianthusModbus.Theory.Counters

/-!
# What Keeps a Live Request

The in-flight table of an owner changes under many calls, but what a request asks for
changes under two of them only. A reservation enters a new request under a new physical
id, and the replacement of a reserved read rewrites one. Every other call moves the
requests of the table through their states, or takes them out.

`Changes` says so for one call. `Keeps` is the case of all other calls, for an owner and its
successor. It composes, so a loop keeps what its body keeps.

## Main definitions

* `TCPConnectionOwner.Keeps`: No request is new and none asks for something else.
* `OwnerCall.keepsReads`: The calls that keep every request.

## Theorems

* `TCPConnectionOwner.apply_changes`: Every call does no more than that.
* `TCPConnectionOwner.apply_keeps`: The calls that keep every request do.
-/

namespace HelianthusModbus

/-- A request without the progress of its write. -/
def OwnedRequest.identity (request : OwnedRequest) : OwnedRequest :=
  { request with state := .reserved, deadlineOffset := 0 }

theorem OwnedRequest.identity_fields {request old : OwnedRequest}
    (h : request.identity = old.identity) :
    request.physicalRequestID = old.physicalRequestID ∧ request.kind = old.kind ∧
      request.read = old.read ∧ request.generation = old.generation := by
  simp only [OwnedRequest.identity, OwnedRequest.mk.injEq] at h
  exact ⟨h.2.1, h.2.2.2.2.1, h.2.2.2.2.2.2.1, h.2.2.1⟩

/-- Whether a call leaves alone what the requests of the table ask for. -/
def OwnerCall.keepsReads : OwnerCall → Bool
  | .reserve .. => false
  | .replaceReservedRead .. => false
  | _ => true

namespace TCPConnectionOwner

/-- Every request of the later table is in the earlier one, up to its progress. -/
structure Keeps (owner after : TCPConnectionOwner) : Prop where
  connectionID : after.connectionID = owner.connectionID
  next : after.nextPhysicalRequestID = owner.nextPhysicalRequestID
  entries : ∀ t request, after.inFlight.lookup t = some request →
    ∃ old, owner.inFlight.lookup t = some old ∧ request.identity = old.identity

namespace Keeps

variable {owner middle after : TCPConnectionOwner}

theorem of_within (hconnection : after.connectionID = owner.connectionID)
    (hnext : after.nextPhysicalRequestID = owner.nextPhysicalRequestID)
    (hwithin : after.inFlight.Within owner.inFlight) : owner.Keeps after where
  connectionID := hconnection
  next := hnext
  entries := fun t request ht => ⟨request, hwithin t request ht, rfl⟩

theorem refl (owner : TCPConnectionOwner) : owner.Keeps owner :=
  of_within rfl rfl (Table.Within.refl _)

theorem trans (h : owner.Keeps middle) (h' : middle.Keeps after) : owner.Keeps after where
  connectionID := h'.connectionID.trans h.connectionID
  next := h'.next.trans h.next
  entries := by
    intro t request ht
    rcases h'.entries t request ht with ⟨kept, hkept, heq⟩
    rcases h.entries t kept hkept with ⟨old, hold, heq'⟩
    exact ⟨old, hold, heq.trans heq'⟩

theorem update (request changed : OwnedRequest)
    (hlook : owner.inFlight.lookup changed.transactionID = some request)
    (hsame : changed.identity = request.identity) : owner.Keeps (owner.updateInFlight changed) where
  connectionID := rfl
  next := rfl
  entries := by
    intro t other ht
    simp only [updateInFlight, Table.lookup_insert_ite] at ht
    by_cases heq : t = changed.transactionID
    · simp only [heq, if_true, Option.some.injEq] at ht
      exact ⟨request, heq ▸ hlook, ht ▸ hsame⟩
    · simp only [heq, if_false] at ht
      exact ⟨other, ht, rfl⟩

end Keeps

variable {owner : TCPConnectionOwner}

/-- What a call can do to the requests of the table: they make progress, a replacement
    rewrites the read of the one it names, and a reservation enters one under the next
    physical id. -/
structure Changes (owner : TCPConnectionOwner) (call : OwnerCall) (after : TCPConnectionOwner) :
    Prop where
  connectionID : after.connectionID = owner.connectionID
  next : after.nextPhysicalRequestID = owner.nextPhysicalRequestID ∨
    (call.keepsReads = false ∧ owner.nextPhysicalRequestID ≠ 0 ∧
      after.nextPhysicalRequestID = nextUint64 owner.nextPhysicalRequestID)
  entries : ∀ t request, after.inFlight.lookup t = some request →
    (∃ old, owner.inFlight.lookup t = some old ∧ (request.identity = old.identity ∨
      ∃ reservation read, call = .replaceReservedRead reservation read ∧
        old.physicalRequestID = reservation.physicalRequestID ∧ old.kind = .read ∧
        request = { old with read := read })) ∨
    (call.keepsReads = false ∧ owner.nextPhysicalRequestID ≠ 0 ∧
      request.physicalRequestID = owner.nextPhysicalRequestID)

theorem Changes.of_keeps {call : OwnerCall} {after : TCPConnectionOwner}
    (h : owner.Keeps after) : owner.Changes call after where
  connectionID := h.connectionID
  next := Or.inl h.next
  entries := by
    intro t request ht
    rcases h.entries t request ht with ⟨old, hold, heq⟩
    exact Or.inl ⟨old, hold, Or.inl heq⟩

theorem apply_changes (hfiled : owner.Filed) (call : OwnerCall) :
    owner.Changes call (owner.apply call).2 := by
  have hstep := owner.apply_step call
  generalize (owner.apply call).1 = reply, (owner.apply call).2 = after at hstep ⊢
  cases hstep with
  | reserved unitID request deadlineOffset t next hnext =>
    refine ⟨rfl, Or.inr ⟨rfl, hnext, rfl⟩, fun t' found ht => ?_⟩
    rw [Table.lookup_insert_ite] at ht
    split_ifs at ht
    · cases ht
      exact Or.inr ⟨rfl, hnext, rfl⟩
    · exact Or.inl ⟨found, ht, Or.inl rfl⟩
  | replaced reservation read request hholds hkind =>
    refine ⟨rfl, Or.inl rfl, fun t found ht => Or.inl ?_⟩
    rw [updateInFlight, Table.lookup_insert_ite] at ht
    split_ifs at ht with heq
    · cases ht
      exact ⟨request, heq ▸ hfiled.lookup hholds.lookup,
        Or.inr ⟨reservation, read, rfl, hholds.id, hkind, rfl⟩⟩
    · exact ⟨found, ht, Or.inl rfl⟩
  | marked reservation request hholds | sent reservation deadline offset request hholds =>
    exact .of_keeps (.update request _ (hfiled.lookup hholds.lookup) rfl)
  | lost | lostLast | overflowed =>
    exact .of_keeps (.of_within rfl rfl (owner.remaining_within _))
  | cancelled | unsent | abandoned | answered | overtook =>
    exact .of_keeps (.of_within rfl rfl (Table.Within.erase _ _))
  | expired nowOffset after hburies =>
    rcases hburies.frame with ⟨_, _, hwithin, rfl⟩
    exact .of_keeps (.of_within rfl rfl hwithin)
  | overExpired nowOffset taken rest request middle failed err _ hburies =>
    rcases hburies.frame with ⟨_, _, _, rfl⟩
    exact .of_keeps (.of_within rfl rfl (Table.Within.empty _))
  | dropped | ended | renewed => exact .of_keeps (.of_within rfl rfl (Table.Within.empty _))
  | _ => exact .of_keeps (.of_within rfl rfl (Table.Within.refl _))

/-- Every call but a reservation and a replacement keeps what the requests ask for. -/
theorem apply_keeps (hfiled : owner.Filed) (call : OwnerCall) (hcall : call.keepsReads = true) :
    owner.Keeps (owner.apply call).2 := by
  have hchanges := apply_changes hfiled call
  refine ⟨hchanges.connectionID, ?_, fun t request ht => ?_⟩
  · rcases hchanges.next with hsame | ⟨hnot, _⟩
    · exact hsame
    · exact nomatch hcall.symm.trans hnot
  · rcases hchanges.entries t request ht with
      ⟨old, hold, heq | ⟨_, _, rfl, _⟩⟩ | ⟨hnot, _⟩
    · exact ⟨old, hold, heq⟩
    · cases hcall
    · exact nomatch hcall.symm.trans hnot

/-- An owner that some history of calls leads to. -/
def Tracked (owner : TCPConnectionOwner) : Prop := ∃ ledger, Tracks owner ledger

theorem Tracked.apply {owner : TCPConnectionOwner} (h : owner.Tracked) (call : OwnerCall) :
    (owner.apply call).2.Tracked := by
  rcases h with ⟨ledger, hledger⟩
  exact ⟨_, hledger.step call⟩

theorem Tracked.key {owner : TCPConnectionOwner} (h : owner.Tracked) : owner.Filed := by
  rcases h with ⟨ledger, hledger⟩
  exact hledger.filed

theorem Tracked.handedOut {owner : TCPConnectionOwner} (h : owner.Tracked) {p : Nat}
    (hissued : HandedOut p owner.nextPhysicalRequestID) (call : OwnerCall) :
    HandedOut p (owner.apply call).2.nextPhysicalRequestID := by
  rcases (apply_changes h.key call).next with hsame | ⟨_, hne, hnext⟩
  · rw [hsame]
    exact hissued
  · rcases h with ⟨ledger, hledger⟩
    rw [hnext]
    exact hissued.step hledger.bounded hne

theorem Tracked.unique {owner : TCPConnectionOwner} (h : owner.Tracked) {t t' : UInt16}
    {request request' : OwnedRequest} (ht : owner.inFlight.lookup t = some request)
    (ht' : owner.inFlight.lookup t' = some request')
    (hid : request.physicalRequestID = request'.physicalRequestID) : t = t' := by
  rcases h with ⟨ledger, hledger⟩
  exact hledger.unique t request t' request' ht ht' hid

end TCPConnectionOwner

end HelianthusModbus
