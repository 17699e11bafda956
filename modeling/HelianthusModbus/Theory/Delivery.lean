import HelianthusModbus.Theory.Groups
import HelianthusModbus.Theory.OwnerEntries

/-!
# Coalesced Delivery Equals Direct Reads

A coalesced group asks for one range of registers on behalf of several logical reads.
Every cancellation before the write shrinks that range and moves the slices of the reads
that stay, and the owner's reservation is rewritten along with it. Whatever the history,
the response gives each read that is still attached the words that a read of its own
range would have given it.

An `Exchange` is a group together with the owner its reservation lives in. The owner is
shared: between two steps of the group it may serve any other call, except that nobody
else replaces the read of the group's reservation, which in the source only the
cancellation does. The bytes of the request are encoded in the critical section that
begins the write, so what is sent is recorded there.

The argument has two halves. `CoalescedRead.Sound` already places every active slice in
the physical request. `Exchange.Sound` adds that the owner's live request, as long as it
is live, asks for exactly the physical request of the group, so the answer to it passes
the identity check of the group.

## Main definitions

* `Exchange`, `ExchangeStep`, `Exchange.step`, `Exchange.run`: A group and its owner.
* `Delivered`: One view for each attached dependent, with the words of its own range.
* `Exchange.Sound`: What every state of an exchange satisfies.

## Theorems

* `Exchange.Sound.step`, `Exchange.Sound.run`: Every step keeps it.
* `coalesced_delivery`: Delivery equals direct reads, over every history.
-/

namespace HelianthusModbus

open TCPConnectionOwner (ReservationWireIdentity)

/-- A coalesced group, the owner of its reservation, and what its write put on the
    wire. -/
structure Exchange where
  owner : TCPConnectionOwner
  group : CoalescedRead
  sent : Option ReservationWireIdentity := none

/-- What happens to a group and its owner. The transport and the scheduler may refuse a
    write, and `refused` is their answer. -/
inductive ExchangeStep where
  | bind (reservation : TCPReservation)
  | cancel (logicalViewID : Nat)
  | write (transport generation : Nat) (refused : Option ProtocolError)
  | other (call : OwnerCall)
  deriving DecidableEq, Repr

namespace Exchange

/-- Whether a call replaces the read of the group's own reservation. -/
def replacesOwn (exchange : Exchange) : OwnerCall → Bool
  | .replaceReservedRead reservation _ =>
    reservation.physicalRequestID = exchange.group.physicalRequestID
  | _ => false

/-- The section of `writeCoalescedUntil` under the group's lock: the request is encoded,
    the group begins its write and the owner marks the reservation. -/
def write (exchange : Exchange) (transport generation : Nat) (refused : Option ProtocolError) :
    Exchange :=
  match exchange.group.reservationForTransport transport generation with
  | .error _ => exchange
  | .ok reservation =>
    match exchange.owner.encodeReservation reservation with
    | .error _ => exchange
    | .ok (_, identity) =>
      match (exchange.group.checkBeginWrite transport generation).or refused with
      | some _ => exchange
      | none =>
        match exchange.owner.markWriteInvoked exchange.group.reservation with
        | (some _, _) => exchange
        | (none, owner) =>
          { owner := owner, group := exchange.group.beginWrite transport
            sent := some identity }

def step (exchange : Exchange) : ExchangeStep → Exchange
  | .bind reservation =>
    { exchange with
      group := (exchange.group.bindReservation reservation exchange.owner).2 }
  | .cancel logicalViewID =>
    let cancelled := exchange.group.cancelLocked logicalViewID exchange.owner
    { exchange with group := cancelled.2.1, owner := cancelled.2.2 }
  | .write transport generation refused => exchange.write transport generation refused
  | .other call =>
    if exchange.replacesOwn call then exchange
    else { exchange with owner := (exchange.owner.apply call).2 }

def run (exchange : Exchange) (steps : List ExchangeStep) : Exchange :=
  steps.foldl step exchange

end Exchange

/-- What a bank of registers answers to a read of a range. -/
def directRead (bank : Nat → Nat) (offset quantity : Nat) : List Nat :=
  (List.range quantity).map fun i => bank (offset + i)

/-- The views of a group: one for each attached dependent and none for a cancelled one,
    each with the words of the range its own intent asked for. -/
structure Delivered (intents : List ReadIntent) (group : CoalescedRead) (bank : Nat → Nat)
    (views : List LogicalReadView) : Prop where
  dependents : (group.dependents.map fun dependent => dependent.slice.logicalViewID) =
    intents.map fun intent => intent.spec.logicalViewID
  settled : ∀ dependent ∈ group.dependents,
    dependent.state = .attached ∨ dependent.state = .cancelled
  views_eq : (views.map fun view => view.logicalViewID) =
    (group.dependents.filter fun dependent => dependent.state = .attached).map fun dependent =>
      dependent.slice.logicalViewID
  once : (views.map fun view => view.logicalViewID).Nodup
  words : ∀ view ∈ views, ∃ intent ∈ intents,
    intent.spec.logicalViewID = view.logicalViewID ∧
      view.words = directRead bank intent.spec.request.offset intent.spec.request.quantity

/-- A slice of the answer to a read is the answer to the read of that slice. -/
theorem directRead_slice (bank : Nat → Nat) (offset quantity slice count : Nat)
    (h : slice + count ≤ quantity) :
    ((directRead bank offset quantity).drop slice).take count =
      directRead bank (offset + slice) count := by
  refine List.ext_getElem ?_ ?_
  · simp only [directRead, List.length_take, List.length_drop, List.length_map,
      List.length_range]
    omega
  · intro i _ _
    simp only [directRead, List.getElem_take, List.getElem_drop, List.getElem_map,
      List.getElem_range, Nat.add_assoc]

namespace CoalescedRead

variable {group : CoalescedRead}

/-- What the dependents of a group ask for, whatever became of them. -/
def ranges (group : CoalescedRead) : List (Nat × Nat × Nat) :=
  group.dependents.map fun dependent =>
    (dependent.slice.logicalViewID, dependent.slice.logicalOffset, dependent.slice.logicalWords)

theorem Sound.without_ranges (h : group.Sound) (view : Nat)
    (replacement : Option ReadRegistersRequest) :
    (group.without view replacement).ranges = group.ranges := by
  have hmarked : (group.without view none).ranges = group.ranges := by
    show List.map _ (markCancelled view group.dependents) = _
    rw [markCancelled_eq_map view group.dependents h.views_nodup, List.map_map]
    refine List.map_congr_left (fun dependent _ => ?_)
    rw [Function.comp_apply]
    split <;> rfl
  cases replacement with
  | none => exact hmarked
  | some physical =>
    refine Eq.trans ?_ hmarked
    show List.map _ (List.map _ _) = _
    rw [List.map_map]
    refine List.map_congr_left (fun dependent _ => ?_)
    rw [Function.comp_apply]
    split <;> rfl

/-- The fields that tie a group to its reservation. -/
structure SameBinding (group after : CoalescedRead) : Prop where
  physicalRequestID : after.physicalRequestID = group.physicalRequestID
  generation : after.generation = group.generation
  owner : after.owner = group.owner
  reservation : after.reservation = group.reservation

theorem SameBinding.refl (group : CoalescedRead) : group.SameBinding group :=
  ⟨rfl, rfl, rfl, rfl⟩

theorem without_binding (view : Nat) (replacement : Option ReadRegistersRequest) :
    group.SameBinding (group.without view replacement) := by
  cases replacement with
  | none => exact ⟨rfl, rfl, rfl, rfl⟩
  | some physical => exact ⟨rfl, rfl, rfl, rfl⟩

theorem without_writeBegun (view : Nat) (replacement : Option ReadRegistersRequest) :
    (group.without view replacement).writeBegun = group.writeBegun := by
  cases replacement <;> rfl

theorem open_of_without (view : Nat) (replacement : Option ReadRegistersRequest)
    (h : (group.without view replacement).completed = false) : group.completed = false :=
  (Bool.or_eq_false_iff.mp h).1

end CoalescedRead

namespace TCPConnectionOwner

/-- Any number of calls that keep what the live requests ask for. -/
def Served : TCPConnectionOwner → TCPConnectionOwner → Prop :=
  Relation.ReflTransGen fun owner after =>
    ∃ call : OwnerCall, call.keepsReads = true ∧ after = (owner.apply call).2

theorem Served.call (owner : TCPConnectionOwner) (call : OwnerCall)
    (hcall : call.keepsReads = true) : owner.Served (owner.apply call).2 :=
  .single ⟨call, hcall, rfl⟩

/-- What calls of other requests leave of an owner. -/
theorem Served.keeps {owner after : TCPConnectionOwner} (hserved : owner.Served after)
    (h : owner.Tracked) : after.Tracked ∧ owner.Keeps after := by
  induction hserved with
  | refl => exact ⟨h, .refl owner⟩
  | tail _ hcall ih =>
    rcases hcall with ⟨call, hkeeps, rfl⟩
    exact ⟨ih.1.apply call, ih.2.trans (apply_keeps ih.1.key call hkeeps)⟩

end TCPConnectionOwner

namespace CoalescedRead

variable {group : CoalescedRead}

theorem releaseReservation_served (wasAttached : Bool) (activeAfter : Nat)
    (owner : TCPConnectionOwner) :
    owner.Served (group.releaseReservation wasAttached activeAfter owner).2.2 := by
  unfold releaseReservation
  dsimp only
  have hreleased : owner.Served
      (if group.writeBegun = false ∧ activeAfter = 0 ∧ group.owner.isSome then
        owner.cancelBeforeWrite group.reservation else (none, owner)).2 := by
    split
    · exact .call owner (.cancelBeforeWrite group.reservation) rfl
    · exact .refl
  split
  · split
    · exact hreleased.trans (TCPConnectionOwner.Served.call _
        (.abandonAfterWrite group.reservation .cancellation) rfl)
    · exact hreleased
  · exact hreleased

/-- The three ways a cancellation ends. -/
theorem cancelLocked_cases (group : CoalescedRead) (view : Nat) (owner : TCPConnectionOwner) :
    (owner.Served (group.cancelLocked view owner).2.2 ∧
      ((group.cancelLocked view owner).2.1 = group ∨
        (group.cancelLocked view owner).2.1 = group.without view none)) ∨
      (group.writeBegun = false ∧ ∃ replacement,
        (group.cancelLocked view owner).2.1 = group.without view (some replacement) ∧
        ((group.owner = none ∧ (group.cancelLocked view owner).2.2 = owner) ∨
          owner.replaceReservedRead group.reservation replacement =
            (none, (group.cancelLocked view owner).2.2))) := by
  -- It is refused; it marks the dependent, and at most the reservation is given up; or the group
  -- and the reservation move to a smaller request.
  unfold cancelLocked
  split
  · exact Or.inl ⟨.refl, Or.inl rfl⟩
  split
  · exact Or.inl ⟨.refl, Or.inl rfl⟩
  next dependent _ =>
  split
  · exact Or.inl ⟨.refl, Or.inl rfl⟩
  dsimp only
  split
  · next hshrink =>
    split
    · exact Or.inl ⟨.refl, Or.inl rfl⟩
    next replacement _ =>
    by_cases howner : group.owner.isSome = true
    · simp only [howner, if_true]
      rcases hreplaced : owner.replaceReservedRead group.reservation replacement with
        ⟨_ | err, after⟩
      · exact Or.inr ⟨hshrink.1, replacement, rfl, Or.inr hreplaced⟩
      · -- A refused replacement leaves the owner as it was.
        have hsame : after = owner := by
          unfold TCPConnectionOwner.replaceReservedRead at hreplaced
          split at hreplaced
          · cases hreplaced
            rfl
          · split at hreplaced
            · cases hreplaced
              rfl
            · split at hreplaced
              · cases hreplaced
                rfl
              · cases hreplaced
        rw [hsame]
        exact Or.inl ⟨.refl, Or.inl rfl⟩
    · rw [Bool.not_eq_true] at howner
      simp only [howner, Bool.false_eq_true, if_false]
      rw [Option.isSome_eq_false_iff, Option.isNone_iff_eq_none] at howner
      exact Or.inr ⟨hshrink.1, replacement, rfl, Or.inl ⟨howner, trivial⟩⟩
  · split
    · exact Or.inl ⟨group.releaseReservation_served _ _ owner, Or.inl rfl⟩
    · exact Or.inl ⟨group.releaseReservation_served _ _ owner, Or.inr rfl⟩

end CoalescedRead

namespace Exchange

/-- The live request of the group's reservation, as long as there is one, is the group's
    physical request. -/
structure Bound (owner : TCPConnectionOwner) (group : CoalescedRead) : Prop where
  owner_eq : group.owner = some owner.connectionID
  asks : ∀ t request, owner.inFlight.lookup t = some request →
    request.physicalRequestID = group.physicalRequestID →
    request.kind = .read ∧ request.read = group.physical ∧
      request.generation = group.generation

/-- What every state of an exchange satisfies. A group without a reservation has the
    physical request id zero, and a completed group is bound to nothing any more. -/
structure Sound (intents : List ReadIntent) (exchange : Exchange) : Prop where
  group : exchange.group.Sound
  ranges : exchange.group.ranges = intents.map fun intent =>
    (intent.spec.logicalViewID, intent.spec.request.offset, intent.spec.request.quantity)
  tracked : exchange.owner.Tracked
  named : exchange.group.reservation.physicalRequestID = exchange.group.physicalRequestID
  issued : exchange.group.physicalRequestID ≠ 0 →
    HandedOut exchange.group.physicalRequestID exchange.owner.nextPhysicalRequestID
  bound : exchange.group.completed = false → exchange.group.physicalRequestID ≠ 0 →
    Bound exchange.owner exchange.group
  written : exchange.group.writeBegun = true → exchange.group.physicalRequestID ≠ 0
  sent : exchange.group.completed = false → exchange.group.writeBegun = true →
    ∃ identity, exchange.sent = some identity ∧
      identity.offset = exchange.group.physical.offset ∧
      identity.quantity = exchange.group.physical.quantity

theorem Bound.keeps {owner after : TCPConnectionOwner} {group group' : CoalescedRead}
    (h : Bound owner group) (hkeeps : owner.Keeps after) (hsame : group.SameBinding group')
    (hphysical : group'.physical = group.physical) : Bound after group' where
  owner_eq := by rw [hsame.owner, h.owner_eq, hkeeps.connectionID]
  asks := by
    intro t request ht hid
    rcases hkeeps.entries t request ht with ⟨old, hold, hidentity⟩
    rw [hsame.physicalRequestID] at hid
    rcases OwnedRequest.identity_fields hidentity with ⟨hsameID, hkind, hread, hgeneration⟩
    rw [hkind, hread, hgeneration, hphysical, hsame.generation]
    exact h.asks t old hold (hsameID.symm.trans hid)

/-- Replacing the read of the group's own reservation moves it along with the group. -/
theorem Bound.replace {owner after : TCPConnectionOwner} {group group' : CoalescedRead}
    (h : Bound owner group) (htracked : owner.Tracked) (hsame : group.SameBinding group')
    (hnamed : group.reservation.physicalRequestID = group.physicalRequestID)
    (hreplaced : owner.replaceReservedRead group.reservation group'.physical = (none, after)) :
    Bound after group' := by
  have hstep := owner.apply_step (.replaceReservedRead group.reservation group'.physical)
  simp only [TCPConnectionOwner.apply, hreplaced] at hstep
  cases hstep with
  | refused _ _ err hrefused => cases hrefused
  | replaced _ _ owned hholds hkind _ =>
    have hid := hholds.id.trans hnamed
    have howned := h.asks _ owned hholds.lookup hid
    refine ⟨by rw [hsame.owner]; exact h.owner_eq, fun t request ht hrequest => ?_⟩
    rw [TCPConnectionOwner.updateInFlight, Table.lookup_insert_ite,
      htracked.key _ owned hholds.lookup] at ht
    rw [hsame.physicalRequestID] at hrequest
    rw [hsame.generation]
    split_ifs at ht with heq
    · cases ht
      exact ⟨hkind, rfl, howned.2.2⟩
    · exact absurd (htracked.unique ht hholds.lookup (hrequest.trans hid.symm)) heq

/-- Binding a reservation: the request it names is the group's. -/
theorem Bound.bind {owner : TCPConnectionOwner} (group : CoalescedRead)
    (htracked : owner.Tracked) (reservation : TCPReservation)
    (hmatches : owner.matchesReadReservation reservation group.endpoint group.intentGeneration
      group.unitID group.physical = true) :
    HandedOut reservation.physicalRequestID owner.nextPhysicalRequestID ∧
      Bound owner { group with
        physicalRequestID := reservation.physicalRequestID
        generation := reservation.generation
        owner := reservation.owner
        reservation := reservation } := by
  unfold TCPConnectionOwner.matchesReadReservation at hmatches
  split at hmatches
  · cases hmatches
  next owned howned =>
  rw [decide_eq_true_eq] at hmatches
  rcases (owner.requestFor_ok reservation _ owned).mp howned with
    ⟨howner, hgeneration, hlook, howned', _⟩
  refine ⟨?_, howner, fun t request ht hrequest => ?_⟩
  · rcases htracked with ⟨ledger, hledger⟩
    rcases (hledger.live _ owned hlook).known with ⟨entry, hentry, _⟩
    rw [howned'] at hentry
    exact hledger.issued _ entry hentry
  · have heq := htracked.unique ht hlook (hrequest.trans howned'.symm)
    rw [heq, hlook, Option.some.injEq] at ht
    rw [← ht]
    refine ⟨hmatches.2.2.2.1, hmatches.2.2.2.2, ?_⟩
    rcases htracked with ⟨ledger, hledger⟩
    exact (hledger.live _ owned hlook).generation.trans hgeneration.symm

variable {intents : List ReadIntent} {exchange : Exchange}

section Steps

variable (h : Sound intents exchange)
include h

theorem Sound.bind (reservation : TCPReservation) :
    Sound intents (exchange.step (.bind reservation)) := by
  show Sound intents { exchange with
    group := (exchange.group.bindReservation reservation exchange.owner).2 }
  unfold CoalescedRead.bindReservation
  split
  · exact h
  next hfree =>
  split
  · exact h
  next hidentity =>
  push Not at hfree hidentity
  have hmatches := Bool.eq_true_of_not_eq_false hidentity.2
  rcases Bound.bind exchange.group h.tracked reservation hmatches with
    ⟨hissued, hbound⟩
  have hunwritten : exchange.group.writeBegun = false := Bool.eq_false_iff.mpr hfree.2.1
  exact
    { group := h.group.relabel
      ranges := h.ranges
      tracked := h.tracked
      named := rfl
      issued := fun _ => hissued
      bound := fun _ _ => hbound
      written := fun _ => hfree.2.2.2.2.1
      sent := fun _ hbegun => (nomatch hunwritten.symm.trans hbegun) }

section Following

variable (owner : TCPConnectionOwner) {group : CoalescedRead} (hgroup : group.Sound)
  (hranges : group.ranges = exchange.group.ranges) (hsame : exchange.group.SameBinding group)
  (hopen : group.completed = false → exchange.group.completed = false)
  (hbegun : group.writeBegun = exchange.group.writeBegun)
include hgroup hranges hsame hopen hbegun

/-- A group that keeps its binding, beside an owner that still serves it. -/
theorem Sound.follow
    (hphysical : exchange.group.writeBegun = true → group.physical = exchange.group.physical)
    (htracked : owner.Tracked) (hissued : exchange.group.physicalRequestID ≠ 0 →
      HandedOut exchange.group.physicalRequestID owner.nextPhysicalRequestID)
    (hbound : exchange.group.completed = false → exchange.group.physicalRequestID ≠ 0 →
      Bound owner group) :
    Sound intents { exchange with owner := owner, group := group } where
  group := hgroup
  ranges := hranges.trans h.ranges
  tracked := htracked
  named := by rw [hsame.reservation, hsame.physicalRequestID]; exact h.named
  issued := by rw [hsame.physicalRequestID]; exact hissued
  bound := by
    rw [hsame.physicalRequestID]
    exact fun hstill => hbound (hopen hstill)
  written := by rw [hsame.physicalRequestID, hbegun]; exact h.written
  sent := by
    rw [hbegun]
    intro hstill hwritten
    rw [hphysical hwritten]
    exact h.sent (hopen hstill) hwritten

/-- Calls that keep every request, beside the same group or one with the same request. -/
theorem Sound.serve (hphysical : group.physical = exchange.group.physical)
    (hserved : exchange.owner.Served owner) :
    Sound intents { exchange with owner := owner, group := group } := by
  rcases hserved.keeps h.tracked with ⟨htracked, hkeeps⟩
  refine h.follow _ hgroup hranges hsame hopen hbegun (fun _ => hphysical) htracked ?_
    (fun hstill hid => (h.bound hstill hid).keeps hkeeps hsame hphysical)
  rw [hkeeps.next]
  exact h.issued

end Following

theorem Sound.cancel (view : Nat) : Sound intents (exchange.step (.cancel view)) := by
  have hgroup := (h.group.cancelLocked view exchange.owner).sound
  show Sound intents { exchange with
    owner := (exchange.group.cancelLocked view exchange.owner).2.2
    group := (exchange.group.cancelLocked view exchange.owner).2.1 }
  rcases exchange.group.cancelLocked_cases view exchange.owner with
    ⟨hserved, hsame | hmarked⟩ | ⟨hunwritten, replacement, hshrunk, hreplaced⟩
  · rw [hsame]
    exact h.serve _ h.group rfl (.refl _) id rfl rfl hserved
  · rw [hmarked] at hgroup ⊢
    exact h.serve _ hgroup (h.group.without_ranges view none)
      (exchange.group.without_binding view none) (exchange.group.open_of_without view none)
      (exchange.group.without_writeBegun view none) rfl hserved
  · have hbinding := exchange.group.without_binding view (some replacement)
    rw [hshrunk] at hgroup ⊢
    have hfollow := fun owner => h.follow owner hgroup
      (h.group.without_ranges view (some replacement)) hbinding
      (exchange.group.open_of_without view (some replacement))
      (exchange.group.without_writeBegun view (some replacement))
      (fun hbegun => (nomatch hunwritten.symm.trans hbegun))
    rcases hreplaced with ⟨hnone, hsame⟩ | hreplaced
    · -- Without a reservation there is nothing to rewrite, and no binding either.
      rw [hsame]
      refine hfollow _ h.tracked h.issued fun hopen hid => ?_
      rw [(h.bound hopen hid).owner_eq] at hnone
      cases hnone
    · have htracked := h.tracked.apply (.replaceReservedRead exchange.group.reservation replacement)
      simp only [TCPConnectionOwner.apply, hreplaced] at htracked
      refine hfollow _ htracked (fun hid => ?_) fun hopen hid =>
        (h.bound hopen hid).replace h.tracked hbinding h.named hreplaced
      have hissued := h.tracked.handedOut (h.issued hid)
        (.replaceReservedRead exchange.group.reservation replacement)
      simpa only [TCPConnectionOwner.apply, hreplaced] using hissued

/-- The write begins: what is encoded is the group's own request. -/
theorem Sound.write (transport generation : Nat) (refused : Option ProtocolError) :
    Sound intents (exchange.write transport generation refused) := by
  unfold Exchange.write
  split
  · exact h
  next reservation hreservation =>
  split
  · exact h
  next adu identity hencode =>
  split
  · exact h
  split
  · exact h
  next owner hinvoked =>
  -- What the checks say about the group and its reservation.
  unfold CoalescedRead.reservationForTransport at hreservation
  split at hreservation
  · cases hreservation
  next hfree =>
  push Not at hfree
  split at hreservation
  · cases hreservation
  cases hreservation
  have hunwritten : exchange.group.writeBegun = false := Bool.eq_false_iff.mpr hfree.1
  have hopen : exchange.group.completed = false := Bool.eq_false_iff.mpr hfree.2.1
  have hbound := h.bound hopen hfree.2.2.1
  have hserved : exchange.owner.Served owner := by
    have hcall := TCPConnectionOwner.Served.call exchange.owner
      (.markWriteInvoked exchange.group.reservation) rfl
    simp only [TCPConnectionOwner.apply, hinvoked] at hcall
    exact hcall
  rcases hserved.keeps h.tracked with ⟨htracked, hkeeps⟩
  exact
    { group := (h.group.beginWrite hopen hunwritten transport).sound
      ranges := by
        rw [← h.ranges]
        show List.map _ (List.map _ _) = List.map _ _
        rw [List.map_map]
        refine List.map_congr_left (fun dependent _ => ?_)
        rw [Function.comp_apply]
        split <;> rfl
      tracked := htracked
      named := h.named
      issued := by rw [hkeeps.next]; exact h.issued
      bound := fun _ _ => hbound.keeps hkeeps ⟨rfl, rfl, rfl, rfl⟩ rfl
      written := fun _ => hfree.2.2.1
      sent := by
        intro _ _
        unfold TCPConnectionOwner.encodeReservation at hencode
        split at hencode
        · cases hencode
        next request hrequest =>
        rcases (TCPConnectionOwner.requestFor_ok _ _ _ _).mp hrequest with ⟨_, _, hlook, hid, _⟩
        rcases hbound.asks _ request hlook (hid.trans h.named) with ⟨hkind, hread, _⟩
        dsimp only at hencode
        split at hencode
        · cases hencode
        cases hencode
        refine ⟨_, rfl, ?_⟩
        simp only [TCPConnectionOwner.wireIdentityFor, hkind, hread]
        exact ⟨rfl, rfl⟩ }

/-- A call for another request: a new reservation has an id of its own, and a replaced read
    is not the group's. -/
theorem Sound.other (call : OwnerCall) : Sound intents (exchange.step (.other call)) := by
  show Sound intents (if exchange.replacesOwn call then exchange
    else { exchange with owner := (exchange.owner.apply call).2 })
  split
  · exact h
  next hforeign =>
  have hchanges := TCPConnectionOwner.apply_changes h.tracked.key call
  refine h.follow _ h.group rfl (.refl _) id rfl (fun _ => rfl) (h.tracked.apply call)
    (fun hid => h.tracked.handedOut (h.issued hid) call) fun hopen hid => ?_
  have hbound := h.bound hopen hid
  refine ⟨by rw [hchanges.connectionID]; exact hbound.owner_eq, fun t found ht hfound => ?_⟩
  rcases hchanges.entries t found ht with
    ⟨old, hold, hidentity | ⟨reservation, _, rfl, hnamed, _, rfl⟩⟩ | ⟨_, hne, hfresh⟩
  · rcases OwnedRequest.identity_fields hidentity with ⟨hsameID, hkind, hread, hgeneration⟩
    rw [hkind, hread, hgeneration]
    exact hbound.asks t old hold (hsameID.symm.trans hfound)
  · refine absurd ?_ hforeign
    simp only [replacesOwn, decide_eq_true_eq]
    exact hnamed.symm.trans hfound
  · exact absurd (hfound.symm.trans hfresh) ((h.issued hid).ne hne)

theorem Sound.step (step : ExchangeStep) : Sound intents (exchange.step step) := by
  cases step with
  | bind reservation => exact h.bind reservation
  | cancel view => exact h.cancel view
  | write transport generation refused => exact h.write transport generation refused
  | other call => exact h.other call

theorem Sound.run (steps : List ExchangeStep) : Sound intents (exchange.run steps) := by
  induction steps generalizing exchange with
  | nil => exact h
  | cons step rest ih => exact ih (h.step step)

end Steps

end Exchange

theorem coalesceReads_fresh (intents : List ReadIntent) (maxDependents : Int)
    (group : CoalescedRead) (h : coalesceReads intents maxDependents = .ok group) :
    (group.ranges = intents.map fun intent =>
      (intent.spec.logicalViewID, intent.spec.request.offset, intent.spec.request.quantity)) ∧
      group.physicalRequestID = 0 ∧ group.reservation = {} := by
  rcases (coalesceReads_iff _ _ _).mp h with ⟨_, first, _, physical, _, rfl⟩
  refine ⟨?_, rfl, rfl⟩
  simp only [CoalescedRead.ranges, ReadIntentSpec.groupOf, List.map_map]
  rfl

theorem Exchange.start_sound (intents : List ReadIntent) (maxDependents : Int)
    (group : CoalescedRead) (hgroup : coalesceReads intents maxDependents = .ok group)
    (owner : TCPConnectionOwner) (htracked : owner.Tracked) :
    Sound intents { owner := owner, group := group } := by
  rcases coalesceReads_sound intents maxDependents group hgroup with ⟨hsound, _, _, _, hunwritten⟩
  rcases coalesceReads_fresh intents maxDependents group hgroup with ⟨hranges, hid, hreservation⟩
  exact
    { group := hsound
      ranges := hranges
      tracked := htracked
      named := by rw [hid, hreservation]
      issued := fun hne => absurd hid hne
      bound := fun _ hne => absurd hid hne
      written := fun hbegun => (nomatch hunwritten.symm.trans hbegun)
      sent := fun _ hbegun => (nomatch hunwritten.symm.trans hbegun) }

/-- A deliverable response answers a live request with what the frame decodes to. -/
theorem TCPConnectionOwner.correlate_answer (owner : TCPConnectionOwner) (received : Nat)
    (adu : TCPADU) (h : (owner.correlate received adu).1.deliverable = true) :
    ∃ request decoded, owner.inFlight.lookup adu.transactionID = some request ∧
      owner.nextWireResponseID ≠ 0 ∧ validateOwnedResponse request adu.pdu = .ok decoded ∧
      (owner.correlate received adu).1 =
        { owner := some owner.connectionID, outcome := .successfulData, deliverable := true,
          wireResponseID := owner.nextWireResponseID,
          physicalRequestID := request.physicalRequestID,
          provenance := owner.wireProvenance request adu, words := decoded.words,
          deviceIDSegment := decoded.segment, deviceIDPage := decoded.page, bytes := adu.raw } := by
  rcases owner.correlate_cases received adu with
    ⟨request, hlookup, _, _, hid, _, _, _, hcorrelate⟩ | ⟨tombstone, _, hid, _, hcorrelate⟩ |
      ⟨_, frame, _, _, hcorrelate⟩
  · rw [hcorrelate] at h ⊢
    rcases (owner.correlateActive_spec request adu hid).2.2 h with ⟨decoded, hdecoded⟩
    refine ⟨request, decoded, hlookup, hid, hdecoded, ?_⟩
    unfold correlateActive
    rw [hdecoded]
    rfl
  · rw [hcorrelate, (owner.correlateAbandoned_spec tombstone adu hid).1] at h
    cases h
  · rw [hcorrelate, frame.newDiagnosticFrame_deliverable received adu] at h
    cases h

/-- A response to a register read carries as many words as it says it asked for. -/
theorem TCPConnectionOwner.correlate_words (owner : TCPConnectionOwner) (received : Nat)
    (adu : TCPADU) (h : (owner.correlate received adu).1.deliverable = true)
    (htable : (owner.correlate received adu).1.provenance.table ≠ .unset) :
    (owner.correlate received adu).1.words.length =
      (owner.correlate received adu).1.provenance.quantity := by
  rcases owner.correlate_answer received adu h with ⟨request, decoded, _, _, hdecoded, hresponse⟩
  rw [hresponse] at htable ⊢
  unfold validateOwnedResponse at hdecoded
  cases hkind : request.kind with
  | deviceID =>
    simp only [wireProvenance, hkind, ne_eq, not_true_eq_false] at htable
  | read =>
    simp only [hkind] at hdecoded
    split at hdecoded
    · cases hdecoded
    · next response hread =>
      cases hdecoded
      simp only [wireProvenance, hkind]
      exact (decodeReadRegistersResponse_ok request.read adu.pdu response hread).2

namespace Exchange

variable {intents : List ReadIntent} {exchange : Exchange}

/-- The answer to the live request of a group passes the identity check. -/
theorem Sound.replayMatches (h : Sound intents exchange)
    (hopen : exchange.group.completed = false) (hbegun : exchange.group.writeBegun = true)
    (received : Nat) (adu : TCPADU)
    (hdeliverable : (exchange.owner.correlate received adu).1.deliverable = true)
    (hid : (exchange.owner.correlate received adu).1.physicalRequestID =
      exchange.group.physicalRequestID) :
    exchange.group.replayMatches (exchange.owner.correlate received adu).1 = true := by
  rcases exchange.owner.correlate_answer received adu hdeliverable with
    ⟨request, decoded, hlook, hwire, _, hresponse⟩
  have hbound := h.bound hopen (h.written hbegun)
  rw [hresponse] at hid ⊢
  have hrequest : request.physicalRequestID = exchange.group.physicalRequestID := hid
  have hnumbered : (exchange.owner.nextWireResponseID != 0) = true := bne_iff_ne.mpr hwire
  rcases hbound.asks _ request hlook hrequest with ⟨hkind, hread, hgeneration⟩
  have hfunction : request.function = exchange.group.physical.function := by
    rcases h.tracked with ⟨ledger, hledger⟩
    have hagrees := (hledger.live _ request hlook).function
    simp only [OwnedRequest.FunctionAgrees, hkind] at hagrees
    rw [← hagrees, hread]
  simp [CoalescedRead.replayMatches, TCPConnectionOwner.wireProvenance, hopen, hbegun, hkind,
    hread, hgeneration, hfunction, hbound.owner_eq, hrequest, hnumbered]

/-- What a group hands out when the answer carries the words of a bank. -/
theorem Sound.delivered (h : Sound intents exchange) (hopen : exchange.group.completed = false)
    (hbegun : exchange.group.writeBegun = true) (bank : Nat → Nat) (response : WireResponse)
    (hwords : response.words = directRead bank exchange.group.physical.offset
      exchange.group.physical.quantity) :
    Delivered intents exchange.group bank
      ((exchange.group.dependents.filter fun dependent => dependent.state.active).map
        fun dependent => exchange.group.viewOf response dependent.slice) := by
  have hactive : ∀ dependent ∈ exchange.group.dependents,
      dependent.state.active = decide (dependent.state = .attached) := by
    intro dependent hmem
    have hiff := h.group.active_iff hopen dependent hmem
    rw [hbegun, if_pos rfl] at hiff
    exact Bool.eq_iff_iff.mpr (hiff.trans decide_eq_true_iff.symm)
  have hids : (exchange.group.dependents.map fun dependent => dependent.slice.logicalViewID) =
      intents.map fun intent => intent.spec.logicalViewID := by
    have hfirst := congrArg (List.map Prod.fst) h.ranges
    unfold CoalescedRead.ranges at hfirst
    rw [List.map_map, List.map_map] at hfirst
    exact hfirst
  have hviews : ((exchange.group.dependents.filter fun dependent => dependent.state.active).map
      fun dependent => exchange.group.viewOf response dependent.slice).map
        (fun view => view.logicalViewID) =
      (exchange.group.dependents.filter fun dependent => dependent.state.active).map
        fun dependent => dependent.slice.logicalViewID := by
    rw [List.map_map]
    rfl
  constructor
  case dependents => exact hids
  case settled =>
    intro dependent hmem
    rcases h.group.states hopen dependent hmem with hstate | hstate
    · exact Or.inr hstate
    · rw [hbegun, if_pos rfl] at hstate
      exact Or.inl hstate
  case views_eq =>
    rw [hviews, List.filter_congr hactive]
  case once =>
    rw [hviews]
    exact h.group.views_nodup.sublist (List.filter_sublist.map _)
  case words =>
    intro view hview
    rcases List.mem_map.mp hview with ⟨dependent, hkept, rfl⟩
    rcases List.mem_filter.mp hkept with ⟨hmem, hstill⟩
    -- The slice is placed where the dependent's own range lies in the physical one.
    have hplaced := h.group.placed dependent hmem hstill
    have hrange : (dependent.slice.logicalViewID, dependent.slice.logicalOffset,
        dependent.slice.logicalWords) ∈ exchange.group.ranges :=
      List.mem_map_of_mem (f := fun dependent : CoalescedDependent =>
        (dependent.slice.logicalViewID, dependent.slice.logicalOffset,
          dependent.slice.logicalWords)) hmem
    rw [h.ranges] at hrange
    rcases List.mem_map.mp hrange with ⟨intent, hintent, heq⟩
    simp only [Prod.mk.injEq] at heq
    refine ⟨intent, hintent, heq.1, ?_⟩
    show (response.words.drop _).take _ = _
    rw [hwords, directRead_slice _ _ _ _ _ hplaced.inside, ← hplaced.offset_eq, hplaced.words_eq,
      heq.2.1, heq.2.2]

/-- A response from whatever owner that passes the identity check meets no later error. -/
theorem Sound.replay_ok (h : Sound intents exchange) (owner : TCPConnectionOwner)
    (received : Nat) (adu : TCPADU)
    (hmatch : exchange.group.replayMatches (owner.correlate received adu).1 = true) :
    (exchange.group.replayLocked (owner.correlate received adu).1).1 =
      .ok ((exchange.group.dependents.filter fun dependent => dependent.state.active).map
        fun dependent => exchange.group.viewOf (owner.correlate received adu).1
          dependent.slice) := by
  have hfields := hmatch
  simp only [CoalescedRead.replayMatches, Bool.and_eq_true, beq_iff_eq] at hfields
  have hdeliverable : (owner.correlate received adu).1.deliverable = true := by tauto
  have htable : (owner.correlate received adu).1.provenance.table =
      exchange.group.physical.table := by tauto
  have hquantity : (owner.correlate received adu).1.provenance.quantity =
      exchange.group.physical.quantity := by tauto
  refine h.group.replayLocked_views _ hmatch ?_
  rw [← hquantity]
  refine owner.correlate_words received adu hdeliverable ?_
  -- A physical request reads holding or input registers.
  have hvalid := ((validateReadRegistersRequest_ok _).mp h.group.valid).1
  rw [htable]
  intro hunset
  rw [hunset] at hvalid
  unfold tableOfFunction at hvalid
  split at hvalid
  · cases hvalid
  · split at hvalid
    · cases hvalid
    · cases hvalid

end Exchange

theorem newTCPConnectionOwner_tracked {endpoint : String} {generation : Nat}
    {limits : ConnectionLimits} {owner : TCPConnectionOwner}
    (h : newTCPConnectionOwner endpoint generation limits = .ok owner) (connectionID : Nat)
    (pooled : Bool) :
    TCPConnectionOwner.Tracked { owner with connectionID := connectionID, pooled := pooled } :=
  ⟨_, (Traced.start_sound h connectionID pooled owner.boundTransport).tracks⟩

/-- Coalesced delivery equals direct reads. Take any intents that coalesce, any bank of
    registers, and any history of the group and the owner it is bound to, with any
    cancellations before and after the write. When the write has begun and a dependent is
    left, an answer to the group's physical request that carries the words of the range
    that was sent is delivered, with one view for each attached dependent and none for a
    cancelled one, and each view holds the words of its own range. Whatever owner a
    response comes from, once it has passed the identity check no later error is left. -/
theorem coalesced_delivery (intents : List ReadIntent) (maxDependents : Int)
    (group : CoalescedRead) (hgroup : coalesceReads intents maxDependents = .ok group)
    (endpoint : String) (generation : Nat) (limits : ConnectionLimits)
    (owner : TCPConnectionOwner)
    (hnew : newTCPConnectionOwner endpoint generation limits = .ok owner) (connectionID : Nat)
    (pooled : Bool) (steps : List ExchangeStep) (bank : Nat → Nat) :
    let reached := Exchange.run
      { owner := { owner with connectionID := connectionID, pooled := pooled }, group := group }
      steps
    reached.group.writeBegun = true → reached.group.completed = false →
      (∃ sent, reached.sent = some sent ∧
        ∀ received adu,
          let response := (reached.owner.correlate received adu).1
          response.deliverable = true →
            response.physicalRequestID = reached.group.physicalRequestID →
            response.words = directRead bank sent.offset sent.quantity →
            ∃ views, (reached.group.replayLocked response).1 = .ok views ∧
              Delivered intents reached.group bank views) ∧
      ∀ other received adu,
        let response := (TCPConnectionOwner.correlate other received adu).1
        reached.group.replayMatches response = true →
          ∃ views, (reached.group.replayLocked response).1 = .ok views := by
  intro reached hbegun hopen
  have hreached : Exchange.Sound intents reached :=
    (Exchange.start_sound intents maxDependents group hgroup _
      (newTCPConnectionOwner_tracked hnew connectionID pooled)).run steps
  rcases hreached.sent hopen hbegun with ⟨sent, hsent, hoffset, hquantity⟩
  refine ⟨⟨sent, hsent, ?_⟩, ?_⟩
  · intro received adu response hdeliverable hid hwords
    rw [hoffset, hquantity] at hwords
    have hmatch := hreached.replayMatches hopen hbegun received adu hdeliverable hid
    exact ⟨_, hreached.replay_ok reached.owner received adu hmatch,
      hreached.delivered hopen hbegun bank response hwords⟩
  · intro other received adu response hmatch
    exact ⟨_, hreached.replay_ok other received adu hmatch⟩

def overlappingGroup : CoalescedRead where
  physical := { function := 3, table := .holdingRegisters, offset := 10, quantity := 6 }
  dependents := overlappingIntents.map (dependentOf 10)
  endpoint := "endpoint"
  transport := .tcp
  intentGeneration := 1
  unitID := 1
  authorizationScope := "scope"
  pollGeneration := 1
  deadlineIdentity := 1

def deliveryOwner : TCPConnectionOwner where
  endpoint := "endpoint"
  generation := 1
  limits := { maxInFlight := 2, maxTombstones := 2 }

/-- The first view is cancelled before the write, which moves the request to the five
    registers from eleven on, and the third one after it. -/
def shrinkingSteps : List ExchangeStep :=
  [.other (.reserve 1 (.read overlappingGroup.physical) 0),
    .bind { owner := some 7, physicalRequestID := 1, generation := 1 }, .cancel 1,
    .write 7 1 none, .cancel 3]

/-- The answer of a bank in which every register holds its own address. -/
def shrunkAnswer : TCPADU :=
  { transactionID := 0, unitID := 1, pdu := [3, 10, 0, 11, 0, 12, 0, 13, 0, 14, 0, 15] }

theorem coalesced_delivery_shrunk :
    let reached := Exchange.run
      { owner := { deliveryOwner with connectionID := 7, pooled := true }
        group := overlappingGroup } shrinkingSteps
    let response := (reached.owner.correlate 1 shrunkAnswer).1
    ∃ views, (reached.group.replayLocked response).1 = .ok views ∧
      Delivered overlappingIntents reached.group (fun address => address) views := by
  intro reached response
  have hreached := coalesced_delivery overlappingIntents 8 overlappingGroup (by decide +kernel)
    "endpoint" 1 { maxInFlight := 2, maxTombstones := 2 } deliveryOwner rfl 7 true shrinkingSteps
    (fun address => address) (by decide +kernel) (by decide +kernel)
  rcases hreached.1 with ⟨sent, hsent, hdelivered⟩
  have hrange : reached.sent.any (fun sent => sent.offset = 11 && sent.quantity = 5) = true := by
    decide +kernel
  rw [hsent, Option.any_some, Bool.and_eq_true, decide_eq_true_eq, decide_eq_true_eq] at hrange
  refine hdelivered 1 shrunkAnswer (by decide +kernel) (by decide +kernel) ?_
  rw [hrange.1, hrange.2]
  decide +kernel

end HelianthusModbus
