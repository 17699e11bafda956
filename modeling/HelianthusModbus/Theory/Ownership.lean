import HelianthusModbus.Theory.Correlation
import Mathlib.Logic.Relation

/-!
# Exclusive Transaction Identifiers

Who holds a transaction identifier. A live request or a tombstone does, never both, and
nobody is given an identifier that either of them holds.

Three tables exchange entries: a response moves a request that is still being written to
the early completions, and giving a request up moves it to the tombstones. `Ownership` is
the part of an owner these exchanges concern, and `Ownership.Move` lists the exchanges
there are. Every operation is a sequence of moves, so the invariant is shown once for
each kind of move and not for each operation. Only the expiry of several requests takes
more than one.

The search for a free identifier starts anywhere and goes once around. It reaches an
identifier after as many attempts as the identifier is ahead of the cursor, so neither
where the cursor stands nor how it got there matters.

## Main definitions

* `Ownership`: The tables of an owner that hold identifiers, with their limits.
* `Ownership.Move`: How one entry moves.
* `Ownership.Exclusive`: The invariant.

## Theorems

* `Ownership.Exclusive.move`: Every move keeps the invariant.
* `TCPConnectionOwner.operate_moves`: Every operation is a sequence of moves.
* `TCPConnectionOwner.allocateTransactionID_complete`: The search misses nothing.
* `transaction_ids_exclusive`: The invariant and the search, over every run.
-/

namespace HelianthusModbus

/-- The part of an owner that holds transaction identifiers. -/
structure Ownership where
  generation : Nat
  limits : ConnectionLimits
  inFlight : Table UInt16 OwnedRequest
  tombstones : Table UInt16 OwnedRequest
  earlyCompletions : Table Nat UInt16

def TCPConnectionOwner.ownership (owner : TCPConnectionOwner) : Ownership where
  generation := owner.generation
  limits := owner.limits
  inFlight := owner.inFlight
  tombstones := owner.tombstones
  earlyCompletions := owner.earlyCompletions

namespace Ownership

/-- The slots that count against the in-flight limit. -/
def pending (tables : Ownership) : Nat :=
  tables.inFlight.entries.length + tables.earlyCompletions.entries.length

/-- How the tables change. -/
inductive Move (tables : Ownership) : Ownership → Prop where
  | reserve (request) :
      tables.inFlight.lookup request.transactionID = none →
        tables.tombstones.lookup request.transactionID = none →
        (tables.pending : Int) < tables.limits.maxInFlight →
        request.generation = tables.generation →
        Move tables { tables with
          inFlight := tables.inFlight.insert request.transactionID request }
  | rewrite (request changed) :
      tables.inFlight.lookup request.transactionID = some request →
        changed.transactionID = request.transactionID →
        changed.generation = request.generation →
        Move tables { tables with
          inFlight := tables.inFlight.insert changed.transactionID changed }
  | release (inFlight : Table UInt16 OwnedRequest) (earlyCompletions : Table Nat UInt16) :
      inFlight.Within tables.inFlight → earlyCompletions.Within tables.earlyCompletions →
        Move tables { tables with inFlight := inFlight, earlyCompletions := earlyCompletions }
  | bury (request) (inFlight : Table UInt16 OwnedRequest) :
      tables.inFlight.lookup request.transactionID = some request →
        inFlight.Within tables.inFlight → inFlight.lookup request.transactionID = none →
        (tables.tombstones.entries.length : Int) < tables.limits.maxTombstones →
        Move tables { tables with
          inFlight := inFlight
          tombstones := tables.tombstones.insert request.transactionID request }
  | answer (request) :
      tables.inFlight.lookup request.transactionID = some request →
        Move tables { tables with
          inFlight := tables.inFlight.erase request.transactionID
          earlyCompletions := tables.earlyCompletions.insert request.physicalRequestID
            request.transactionID }
  | forget (generation) :
      Move tables { tables with
        generation := generation, inFlight := ∅, tombstones := ∅, earlyCompletions := ∅ }

/-- A sequence of moves. -/
def Moves : Ownership → Ownership → Prop := Relation.ReflTransGen Move

/-- Every record is filed under its own identifier in the current generation, no
    identifier is held twice, and the limits hold. -/
structure Exclusive (tables : Ownership) : Prop where
  live : ∀ t request, tables.inFlight.lookup t = some request →
    request.transactionID = t ∧ request.generation = tables.generation
  buried : ∀ t request, tables.tombstones.lookup t = some request →
    request.transactionID = t ∧ request.generation = tables.generation
  disjoint : ∀ t, tables.inFlight.lookup t = none ∨ tables.tombstones.lookup t = none
  pending_le : (tables.pending : Int) ≤ tables.limits.maxInFlight
  tombstones_le : (tables.tombstones.entries.length : Int) ≤ tables.limits.maxTombstones

namespace Exclusive

variable {tables after : Ownership}

theorem release (h : tables.Exclusive) (inFlight : Table UInt16 OwnedRequest)
    (earlyCompletions : Table Nat UInt16) (hlive : inFlight.Within tables.inFlight)
    (hearly : earlyCompletions.Within tables.earlyCompletions) :
    Exclusive { tables with inFlight := inFlight, earlyCompletions := earlyCompletions } := by
  refine ⟨fun t request ht => h.live t request (hlive t request ht), h.buried, fun t => ?_, ?_,
    h.tombstones_le⟩
  · exact (h.disjoint t).imp_left hlive.lookup_none
  · have hpending := h.pending_le
    have hfewer := hlive.length_le
    have hfewerEarly := hearly.length_le
    unfold pending at hpending ⊢
    dsimp only
    omega

/-- Writing a live request under its own identifier, which no tombstone holds. -/
theorem write (h : tables.Exclusive) (request : OwnedRequest)
    (hfree : tables.tombstones.lookup request.transactionID = none)
    (hgeneration : request.generation = tables.generation)
    (hroom : ((tables.inFlight.erase request.transactionID).entries.length + 1 +
      tables.earlyCompletions.entries.length : Int) ≤ tables.limits.maxInFlight) :
    Exclusive { tables with
      inFlight := tables.inFlight.insert request.transactionID request } := by
  refine ⟨fun t live ht => ?_, h.buried, fun t => ?_, ?_, h.tombstones_le⟩
  · rw [Table.lookup_insert_ite] at ht
    split at ht
    · next heq =>
      cases ht
      exact ⟨heq.symm, hgeneration⟩
    · exact h.live t live ht
  · rw [Table.lookup_insert_ite]
    by_cases heq : t = request.transactionID
    · right
      rw [heq]
      exact hfree
    · rw [if_neg heq]
      exact h.disjoint t
  · unfold pending
    dsimp only
    rw [Table.length_insert]
    omega

/-- A request that leaves the live table for the tombstones. -/
theorem bury (h : tables.Exclusive) (request : OwnedRequest)
    (inFlight : Table UInt16 OwnedRequest)
    (hlook : tables.inFlight.lookup request.transactionID = some request)
    (hlive : inFlight.Within tables.inFlight)
    (hgone : inFlight.lookup request.transactionID = none)
    (hroom : (tables.tombstones.entries.length : Int) < tables.limits.maxTombstones) :
    Exclusive { tables with
      inFlight := inFlight
      tombstones := tables.tombstones.insert request.transactionID request } := by
  have hreleased := h.release inFlight tables.earlyCompletions hlive (Table.Within.refl _)
  refine ⟨hreleased.live, fun t tombstone ht => ?_, fun t => ?_, hreleased.pending_le, ?_⟩
  · rw [Table.lookup_insert_ite] at ht
    split at ht
    · next heq =>
      cases ht
      exact ⟨heq.symm, (h.live _ request hlook).2⟩
    · exact h.buried t tombstone ht
  · rw [Table.lookup_insert_ite]
    by_cases heq : t = request.transactionID
    · left
      rw [heq]
      exact hgone
    · rw [if_neg heq]
      exact hreleased.disjoint t
  · -- The table grows by one at most.
    have hfewer := (Table.Within.erase tables.tombstones request.transactionID).length_le
    dsimp only
    rw [Table.length_insert]
    omega

/-- A request that leaves the live table for the early completions. -/
theorem answer (h : tables.Exclusive) (request : OwnedRequest)
    (hlook : tables.inFlight.lookup request.transactionID = some request) :
    Exclusive { tables with
      inFlight := tables.inFlight.erase request.transactionID
      earlyCompletions := tables.earlyCompletions.insert request.physicalRequestID
        request.transactionID } := by
  have hreleased := h.release (tables.inFlight.erase request.transactionID)
    tables.earlyCompletions (Table.Within.erase _ _) (Table.Within.refl _)
  refine ⟨hreleased.live, h.buried, hreleased.disjoint, ?_, h.tombstones_le⟩
  have hpending := h.pending_le
  have hleft := Table.length_erase tables.inFlight request.transactionID
  have hearly := (Table.Within.erase tables.earlyCompletions request.physicalRequestID).length_le
  rw [hlook, Option.isSome_some, if_pos rfl] at hleft
  unfold pending at hpending ⊢
  dsimp only
  rw [Table.length_insert]
  omega

theorem move (h : tables.Exclusive) (hmove : Move tables after) : after.Exclusive := by
  cases hmove with
  | reserve request hlive htombstone hroom hgeneration =>
    refine h.write request htombstone hgeneration ?_
    have hfewer := (Table.Within.erase tables.inFlight request.transactionID).length_le
    unfold pending at hroom
    omega
  | rewrite request changed hlook htransaction hgeneration =>
    refine h.write changed ?_ ?_ ?_
    · rw [htransaction]
      rcases h.disjoint request.transactionID with hnone | hnone
      · rw [hlook] at hnone
        cases hnone
      · exact hnone
    · rw [hgeneration]
      exact (h.live _ request hlook).2
    · -- The request it replaces had a slot.
      have hleft := Table.length_erase tables.inFlight request.transactionID
      have hpending := h.pending_le
      rw [hlook, Option.isSome_some, if_pos rfl] at hleft
      rw [htransaction]
      unfold pending at hpending
      omega
  | release inFlight earlyCompletions hlive hearly =>
    exact h.release inFlight earlyCompletions hlive hearly
  | bury request inFlight hlook hlive hgone hroom =>
    exact h.bury request inFlight hlook hlive hgone hroom
  | answer request hlook => exact h.answer request hlook
  | forget generation =>
    have hpending := h.pending_le
    have htombstones := h.tombstones_le
    refine ⟨?_, ?_, fun t => Or.inl (AList.lookup_empty t), ?_, ?_⟩
    · intro t request ht
      cases (AList.lookup_empty t).symm.trans ht
    · intro t request ht
      cases (AList.lookup_empty t).symm.trans ht
    · show ((0 : Nat) : Int) ≤ tables.limits.maxInFlight
      omega
    · show ((0 : Nat) : Int) ≤ tables.limits.maxTombstones
      omega

theorem moves (h : tables.Exclusive) (hmoves : Moves tables after) : after.Exclusive := by
  induction hmoves with
  | refl => exact h
  | tail _ hmove ih => exact ih.move hmove

end Exclusive

end Ownership

namespace TCPConnectionOwner

open Ownership

variable {owner : TCPConnectionOwner}

/-- Requests that expire one after the other are buried one after the other. -/
theorem Buries.moves {filed : Prop} (hfiled : filed) {taken : List OwnedRequest}
    {after : TCPConnectionOwner} (h : Buries filed owner taken after) :
    Moves owner.ownership after.ownership := by
  induction h with
  | nil owner => exact .refl
  | cons owner request rest after hlook hroom _ ih =>
    have hburied : Move owner.ownership (owner.bury request).ownership :=
      .bury request _ (hlook hfiled) (.erase _ _) (AList.lookup_erase _ _) hroom
    exact .head hburied ih

theorem apply_moves (h : owner.ownership.Exclusive) (call : OwnerCall) :
    Moves owner.ownership (owner.apply call).2.ownership := by
  have hfiled : owner.Filed := fun t request ht => (h.live t request ht).1
  have hstep := owner.apply_step call
  generalize (owner.apply call).1 = reply, (owner.apply call).2 = after at hstep ⊢
  cases hstep with
  | reserved unitID request deadlineOffset t next _ hlive htombstone hroom =>
    exact .single (.reserve (request.owned t owner.nextPhysicalRequestID owner.generation unitID
      deadlineOffset) hlive htombstone hroom rfl)
  | replaced reservation read request hholds | marked reservation request hholds
  | sent reservation deadline offset request hholds =>
  exact .single (.rewrite request _ (hfiled.lookup hholds.lookup) rfl rfl)
  | cancelled | unsent | answered => exact .single (.release _ _ (.erase _ _) (.refl _))
  | claimed => exact .single (.release _ _ (.refl _) (.erase _ _))
  | lost _ reservation request _ hholds hroom =>
    exact .single (.bury request _ (hfiled.lookup hholds.lookup) (owner.remaining_within _)
      (AList.lookup_erase _ _) hroom)
  | lostLast | overflowed =>
    exact .single (.release _ _ (owner.remaining_within _) (.refl _))
  | abandoned reservation reason request hholds hroom =>
    exact .single (.bury request _ (hfiled.lookup hholds.lookup) (.erase _ _)
      (AList.lookup_erase _ _) hroom)
  | expired nowOffset after hburies => exact hburies.moves hfiled
  | overExpired nowOffset taken rest request middle failed err _ hburies =>
    exact (hburies.moves hfiled).tail (.release _ _ (.empty _) (.refl _))
  | overtook generation adu request response errs hlook =>
    exact .single (.answer request (hfiled.lookup hlook))
  | dropped | ended | renewed => exact .single (.forget _)
  | _ => exact .refl

theorem operate_moves (h : owner.ownership.Exclusive) (operation : OwnerOperation) :
    Moves owner.ownership (owner.operate operation).ownership := by
  cases operation with
  | call call => exact apply_moves h call
  | drainFailedReservations | takePoolSlot => exact .refl

theorem operateAll_exclusive (operations : List OwnerOperation) (owner : TCPConnectionOwner)
    (h : owner.ownership.Exclusive) : (owner.operateAll operations).ownership.Exclusive := by
  induction operations generalizing owner with
  | nil => exact h
  | cons operation rest ih => exact ih _ (h.moves (operate_moves h operation))

theorem ahead_succ (candidate t : UInt16) (h : candidate ≠ t) :
    (t - (candidate + 1)).toNat + 1 = (t - candidate).toNat := by
  have hne : candidate.toNat ≠ t.toNat := fun heq => h (UInt16.toNat_inj.mp heq)
  have hcandidate := candidate.toNat_lt
  have ht := t.toNat_lt
  simp only [UInt16.toNat_sub, UInt16.toNat_add, UInt16.reduceToNat]
  omega

/-- A free identifier is not passed over, if the search gets that far. -/
theorem allocateTransactionID_finds (owner : TCPConnectionOwner) (t : UInt16)
    (hlive : owner.inFlight.lookup t = none) (htombstone : owner.tombstones.lookup t = none)
    (attempts : Nat) (candidate : UInt16) (hahead : (t - candidate).toNat < attempts) :
    ∃ found next, owner.allocateTransactionID attempts candidate = (some found, next) := by
  induction attempts generalizing candidate with
  | zero => exact absurd hahead (Nat.not_lt_zero _)
  | succ attempts ih =>
    unfold allocateTransactionID
    split
    · next hheld =>
      have hne : candidate ≠ t := by
        rintro rfl
        rw [hlive, htombstone] at hheld
        simp at hheld
      have hcloser := ahead_succ candidate t hne
      exact ih _ (by omega)
    · exact ⟨_, _, rfl⟩

/-- Once around, the search finds a free identifier if there is one. -/
theorem allocateTransactionID_complete (owner : TCPConnectionOwner) (t candidate : UInt16)
    (hlive : owner.inFlight.lookup t = none) (htombstone : owner.tombstones.lookup t = none) :
    ∃ found next, owner.allocateTransactionID 65536 candidate = (some found, next) ∧
      owner.inFlight.lookup found = none ∧ owner.tombstones.lookup found = none := by
  rcases owner.allocateTransactionID_finds t hlive htombstone 65536 candidate
    (t - candidate).toNat_lt with ⟨found, next, hfound⟩
  exact ⟨found, next, hfound, owner.allocateTransactionID_free _ _ _ _ hfound⟩

end TCPConnectionOwner

/-- After any operations on a new owner with any accepted limits, identifiers are held
    exclusively and within the limits. A reservation that is then granted gets an
    identifier that neither table holds, and the search for one finds one if there is
    any. -/
theorem transaction_ids_exclusive (endpoint : String) (generation : Nat)
    (limits : ConnectionLimits) (owner : TCPConnectionOwner)
    (hnew : newTCPConnectionOwner endpoint generation limits = .ok owner) (connectionID : Nat)
    (pooled : Bool) (operations : List OwnerOperation) :
    let reached := TCPConnectionOwner.operateAll
      { owner with connectionID := connectionID, pooled := pooled } operations
    reached.ownership.Exclusive ∧
      (∀ unitID request deadlineOffset reservation,
        (reached.reserve unitID request deadlineOffset).1 = .ok reservation →
          reached.inFlight.lookup reservation.transactionID = none ∧
            reached.tombstones.lookup reservation.transactionID = none) ∧
      (∀ free, reached.inFlight.lookup free = none → reached.tombstones.lookup free = none →
        ∃ found next,
          reached.allocateTransactionID 65536 reached.nextTransactionID = (some found, next) ∧
            reached.inFlight.lookup found = none ∧ reached.tombstones.lookup found = none) := by
  intro reached
  refine ⟨TCPConnectionOwner.operateAll_exclusive operations _ ?_, ?_, ?_⟩
  · unfold newTCPConnectionOwner at hnew
    split at hnew
    · cases hnew
    · next haccepted =>
      cases hnew
      push Not at haccepted
      refine ⟨?_, ?_, fun t => Or.inl (AList.lookup_empty t), ?_, ?_⟩
      · intro t request ht
        cases (AList.lookup_empty t).symm.trans ht
      · intro t request ht
        cases (AList.lookup_empty t).symm.trans ht
      · exact Int.le_of_lt haccepted.2.2.1
      · exact Int.le_of_lt haccepted.2.2.2.2.1
  · intro unitID request deadlineOffset reservation hreserved
    rcases reached.reserve_cases unitID request deadlineOffset with
      ⟨err, hr⟩ | ⟨err, next, hr⟩ | ⟨t, next, _, _, hlive, htombstone, _, hr⟩
    · rw [hr] at hreserved
      cases hreserved
    · rw [hr] at hreserved
      cases hreserved
    · rw [hr] at hreserved
      cases hreserved
      exact ⟨hlive, htombstone⟩
  · intro free hlive htombstone
    exact reached.allocateTransactionID_complete free _ hlive htombstone

/-- A read of one register that was written and whose response did not come in time. -/
def expiredRead : List OwnerOperation :=
  [.call (.reserve 1
      (.read { function := 3, table := .holdingRegisters, offset := 0, quantity := 1 }) 0),
    .call (.markWriteInvoked { owner := some 7, physicalRequestID := 1, generation := 1 }),
    .call (.recordTransmit { owner := some 7, physicalRequestID := 1, generation := 1 }
      .complete 5),
    .call (.abandonExpired 5)]

/-- Its identifier is held by a tombstone. -/
theorem transaction_ids_exclusive_expired :
    ∃ owner, newTCPConnectionOwner "endpoint" 1 { maxInFlight := 1, maxTombstones := 1 } =
        .ok owner ∧
      (TCPConnectionOwner.operateAll { owner with connectionID := 7, pooled := true }
        expiredRead).ownership.Exclusive ∧
      ((TCPConnectionOwner.operateAll { owner with connectionID := 7, pooled := true }
        expiredRead).tombstones.lookup 0).isSome :=
  ⟨{ endpoint := "endpoint", generation := 1,
     limits := { maxInFlight := 1, maxTombstones := 1 } }, rfl,
    (transaction_ids_exclusive "endpoint" 1 { maxInFlight := 1, maxTombstones := 1 } _ rfl 7 true
      expiredRead).1, by decide +kernel⟩

end HelianthusModbus
