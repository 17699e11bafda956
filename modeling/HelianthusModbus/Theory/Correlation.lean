import HelianthusModbus.Theory.OwnerSteps

/-!
# Correlation Safety

A response may be handed to a waiter only if it answers a request that is still
waiting. The owner decides this from its in-flight table, its tombstones, its
early completions and its generation, and it does so in whatever order its
callers arrive.

The statement needs a view of the requests that does not come from those tables.
`Ledger` is that view. It records, for every physical request id ever issued,
what was reserved, whether its write was invoked and how it ended, and it is
computed from the calls and their replies alone: a reply that asks to close the
socket ends every request, a reply that names a request ends that one. Nothing
in it looks inside the owner.

`Tracks` ties the two together: every live request of an open owner has a ledger
entry that describes it and that has not ended. The tie is kept by each kind of step,
and `Traced.run_sound` carries it along a whole run. Correlation safety then reads off
the step in which the response is produced.

The tie is only claimed for an open owner. A socket that is being given up can
leave requests in the table with the owner closed, and a closed owner answers
nothing from it; the next generation starts with an empty table.

## Main definitions

* `Ledger`: What happened to each physical request, read off the replies.
* `Tracks`: The tie between an owner and its ledger.

## Theorems

* `Tracks.step`: Every call keeps the tie.
* `Traced.run_sound`: So does every run.
* `correlation_safety`: Correlation safety over every run.
-/

namespace HelianthusModbus

open TCPConnectionOwner (Reserve)

/-- How a physical request ended. -/
inductive RequestEnd where
  | cancelled
  | failed
  | abandoned
  | expired
  | answered
  deriving DecidableEq, Repr

/-- One issued physical request, as its caller knows it. -/
structure LedgerEntry where
  transactionID : UInt16
  generation : Nat
  unitID : UInt8
  function : FunctionCode
  invoked : Bool := false
  ended : Option RequestEnd := none
  deriving DecidableEq, Repr

/-- Everything that was ever reserved, by physical request id. -/
abbrev Ledger := Nat → Option LedgerEntry

namespace Ledger

/-- Ending one request. The first end is kept. -/
def finish (ledger : Ledger) (physicalRequestID : Nat) (reason : RequestEnd) : Ledger :=
  fun p => if p = physicalRequestID then
      (ledger p).map fun entry => { entry with ended := entry.ended.or (some reason) }
    else ledger p

/-- Ending every request a test selects. -/
def finishWhere (ledger : Ledger) (test : LedgerEntry → Bool) (reason : RequestEnd) : Ledger :=
  fun p => (ledger p).map fun entry =>
    if test entry then { entry with ended := entry.ended.or (some reason) } else entry

/-- A reply that asks to close the socket ends every request. -/
def closing (ledger : Ledger) (transition : OwnerTransition) : Ledger :=
  if transition.closeConnection then ledger.finishWhere (fun _ => true) .failed else ledger

def invoke (ledger : Ledger) (physicalRequestID : Nat) : Ledger :=
  fun p => if p = physicalRequestID then
      (ledger p).map fun entry => { entry with invoked := true }
    else ledger p

def issue (ledger : Ledger) (physicalRequestID : Nat) (entry : LedgerEntry) : Ledger :=
  fun p => if p = physicalRequestID then some entry else ledger p

/-- What a write result says about its own request. -/
def transmitted (ledger : Ledger) (physicalRequestID : Nat) : TransmitResult → Ledger
  | .complete => ledger
  | .provableZero => ledger.finish physicalRequestID .failed
  | .partialWrite | .indeterminate | .cancellationRace | .ambiguous =>
    ledger.finish physicalRequestID .abandoned

/-- One call and its reply, entered in the ledger. -/
def note (ledger : Ledger) : OwnerCall → OwnerReply → Ledger
  | .reserve unitID request _, .reserved (.ok reservation) =>
    ledger.issue reservation.physicalRequestID
      { transactionID := reservation.transactionID, generation := reservation.generation,
        unitID := unitID, function := request.function }
  | .cancelBeforeWrite reservation, .plain none =>
    ledger.finish reservation.physicalRequestID .cancelled
  | .markWriteInvoked reservation, .plain none => ledger.invoke reservation.physicalRequestID
  | .recordTransmit reservation result _, .transition transition err =>
    (if err = none then ledger.transmitted reservation.physicalRequestID result
      else ledger).closing transition
  | .abandonAfterWrite reservation _, .transition transition err =>
    (if err = none ∨ transition.closeConnection then
      ledger.finish reservation.physicalRequestID .abandoned else ledger).closing transition
  | .abandonExpired _, .expired reservations transition _ =>
    (reservations.foldl (fun ledger reservation =>
      ledger.finish reservation.physicalRequestID .expired) ledger).closing transition
  | .correlate _ _, .response response _ =>
    if response.wireResponseID ≠ 0 then ledger.finish response.physicalRequestID .answered
    else ledger
  | .loseTransport _, .transition transition _ => ledger.closing transition
  | .close, _ => ledger.finishWhere (fun _ => true) .failed
  | .retire, _ => ledger.finishWhere (fun _ => true) .failed
  | .reconnect _, .generation (.ok generation) =>
    ledger.finishWhere (fun entry => entry.generation ≠ generation) .failed
  | _, _ => ledger

end Ledger

/-- An owner beside the ledger of its calls and the ids it answered from the
    in-flight table, latest first. -/
structure Traced where
  owner : TCPConnectionOwner
  ledger : Ledger
  answered : List Nat

namespace Traced

def start (owner : TCPConnectionOwner) : Traced :=
  { owner := owner, ledger := fun _ => none, answered := [] }

def step (traced : Traced) (call : OwnerCall) : Traced :=
  let result := traced.owner.apply call
  { owner := result.2
    ledger := traced.ledger.note call result.1
    answered := match call with
      | .correlate generation adu =>
        (traced.owner.activeFor generation adu).toList ++ traced.answered
      | _ => traced.answered }

def run (traced : Traced) (calls : List OwnerCall) : Traced :=
  calls.foldl step traced

end Traced

/-- A ledger entry describes a live request: same identity, not ended, and
    invoked if the request has left the reserved state. -/
structure LedgerEntry.Describes (entry : LedgerEntry) (request : OwnedRequest) : Prop where
  transactionID : entry.transactionID = request.transactionID
  generation : entry.generation = request.generation
  unitID : entry.unitID = request.unitID
  function : entry.function = request.function
  invoked : request.state ≠ .reserved → entry.invoked = true
  open_ : entry.ended = none

/-- The function code of a table entry is the one its decoder checks. -/
def OwnedRequest.FunctionAgrees (request : OwnedRequest) : Prop :=
  match request.kind with
  | .read => request.read.function = request.function
  | .deviceID => request.function = functionEncapsulatedInterface

namespace Ledger

/-- The request was issued and has ended. -/
def Ended (ledger : Ledger) (p : Nat) : Prop :=
  ∃ entry, ledger p = some entry ∧ entry.ended ≠ none

/-- A later ledger of the same requests: none is forgotten, and an ended one stays
    ended. -/
structure Extends (ledger ledger' : Ledger) : Prop where
  isSome : ∀ p, (ledger' p).isSome = (ledger p).isSome
  ended : ∀ p, ledger.Ended p → ledger'.Ended p

namespace Extends

theorem refl (ledger : Ledger) : ledger.Extends ledger :=
  ⟨fun _ => rfl, fun _ h => h⟩

theorem trans {ledger ledger' ledger'' : Ledger} (h : ledger.Extends ledger')
    (h' : ledger'.Extends ledger'') : ledger.Extends ledger'' :=
  ⟨fun p => (h'.isSome p).trans (h.isSome p), fun p hp => h'.ended p (h.ended p hp)⟩

/-- A map over the entries that never clears an end is an extension. -/
theorem of_map (ledger : Ledger) (f : Nat → LedgerEntry → LedgerEntry)
    (hf : ∀ p entry, entry.ended ≠ none → (f p entry).ended ≠ none) :
    ledger.Extends (fun p => (ledger p).map (f p)) := by
  refine ⟨fun p => by rw [Option.isSome_map], fun p hp => ?_⟩
  rcases hp with ⟨entry, hentry, hended⟩
  exact ⟨f p entry, by simp [hentry], hf p entry hended⟩

end Extends

theorem or_some_ne_none (ended : Option RequestEnd) (reason : RequestEnd) :
    ended.or (some reason) ≠ none := by
  cases ended <;> simp

theorem finish_ne (ledger : Ledger) (p q : Nat) (reason : RequestEnd) (h : q ≠ p) :
    ledger.finish p reason q = ledger q := by
  rw [finish, if_neg h]

theorem finish_extends (ledger : Ledger) (p : Nat) (reason : RequestEnd) :
    ledger.Extends (ledger.finish p reason) := by
  refine ⟨fun q => ?_, fun q hq => ?_⟩
  · unfold finish
    split_ifs
    · rw [Option.isSome_map]
    · rfl
  · by_cases hcase : q = p
    · rcases hq with ⟨entry, hentry, _⟩
      refine ⟨{ entry with ended := entry.ended.or (some reason) }, ?_, or_some_ne_none _ _⟩
      rw [finish, if_pos hcase, hentry, Option.map_some]
    · rw [Ended, finish_ne ledger p q reason hcase]
      exact hq

theorem finish_ended (ledger : Ledger) (p : Nat) (reason : RequestEnd)
    (h : (ledger p).isSome) : (ledger.finish p reason).Ended p := by
  rcases Option.isSome_iff_exists.mp h with ⟨entry, hentry⟩
  refine ⟨{ entry with ended := entry.ended.or (some reason) }, ?_, or_some_ne_none _ _⟩
  rw [finish, if_pos rfl, hentry, Option.map_some]

theorem finish_of_ended (ledger : Ledger) (p q : Nat) (reason : RequestEnd)
    (h : ledger.Ended p) : ledger.finish p reason q = ledger q := by
  by_cases hcase : q = p
  · rcases h with ⟨entry, hentry, hended⟩
    rcases Option.ne_none_iff_exists'.mp hended with ⟨old, hold⟩
    rw [finish, if_pos hcase, hcase, hentry, Option.map_some, hold, Option.some_or, ← hold]
  · exact finish_ne ledger p q reason hcase

theorem finishWhere_extends (ledger : Ledger) (test : LedgerEntry → Bool)
    (reason : RequestEnd) : ledger.Extends (ledger.finishWhere test reason) := by
  refine Extends.of_map ledger _ (fun _ entry hended => ?_)
  split_ifs
  · exact or_some_ne_none _ _
  · exact hended

theorem closing_extends (ledger : Ledger) (transition : OwnerTransition) :
    ledger.Extends (ledger.closing transition) := by
  unfold closing
  split_ifs
  · exact finishWhere_extends ledger _ _
  · exact Extends.refl ledger

theorem finishAll_extends (reservations : List TCPReservation) (reason : RequestEnd)
    (ledger : Ledger) :
    ledger.Extends (reservations.foldl (fun ledger reservation =>
      ledger.finish reservation.physicalRequestID reason) ledger) := by
  induction reservations generalizing ledger with
  | nil => exact Extends.refl ledger
  | cons reservation rest ih =>
    rw [List.foldl_cons]
    exact (finish_extends ledger _ reason).trans (ih _)

theorem invoke_ne (ledger : Ledger) (p q : Nat) (h : q ≠ p) : ledger.invoke p q = ledger q := by
  rw [invoke, if_neg h]

theorem invoke_self (ledger : Ledger) (p : Nat) (entry : LedgerEntry) (h : ledger p = some entry) :
    ledger.invoke p p = some { entry with invoked := true } := by
  rw [invoke, if_pos rfl, h, Option.map_some]

end Ledger

/-- The tie of one live request to the owner and to its ledger entry. -/
structure Known (owner : TCPConnectionOwner) (ledger : Ledger) (t : UInt16)
    (request : OwnedRequest) : Prop where
  key : request.transactionID = t
  generation : request.generation = owner.generation
  function : request.FunctionAgrees
  known : ∃ entry, ledger request.physicalRequestID = some entry ∧
    (owner.closed = false → entry.Describes request)

/-- The tie between an owner and the ledger of its calls. -/
structure Tracks (owner : TCPConnectionOwner) (ledger : Ledger) : Prop where
  live : ∀ t request, owner.inFlight.lookup t = some request → Known owner ledger t request
  unique : ∀ t request t' request', owner.inFlight.lookup t = some request →
    owner.inFlight.lookup t' = some request' →
    request.physicalRequestID = request'.physicalRequestID → t = t'
  bounded : owner.nextPhysicalRequestID ≤ maxUint64
  issued : ∀ p entry, ledger p = some entry →
    p ≠ 0 ∧ (owner.nextPhysicalRequestID ≠ 0 → p < owner.nextPhysicalRequestID)
  buried : ∀ request, owner.Buried request → ledger.Ended request.physicalRequestID

namespace Tracks

variable {owner owner' : TCPConnectionOwner} {ledger ledger' : Ledger} (h : Tracks owner ledger)
include h

theorem filed : owner.Filed := fun t request ht => (h.live t request ht).key

theorem present {t : UInt16} {request : OwnedRequest}
    (ht : owner.inFlight.lookup t = some request) :
    (ledger request.physicalRequestID).isSome := by
  rcases (h.live t request ht).known with ⟨entry, hentry, _⟩
  rw [hentry]
  rfl

/-- A later ledger of the same requests has no other ids. -/
theorem issued_extends (hextends : ledger.Extends ledger') (p : Nat) (entry : LedgerEntry)
    (hp : ledger' p = some entry) :
    p ≠ 0 ∧ (owner.nextPhysicalRequestID ≠ 0 → p < owner.nextPhysicalRequestID) := by
  have hsome : (ledger p).isSome := by rw [← hextends.isSome p, hp]; rfl
  rcases Option.isSome_iff_exists.mp hsome with ⟨old, hold⟩
  exact h.issued p old hold

/-- Removing live requests keeps the tie, as long as the ledger entries of the
    requests that stay are untouched. -/
theorem shrink (hsub : owner'.inFlight.Within owner.inFlight)
    (hgeneration : owner'.generation = owner.generation)
    (hnext : owner'.nextPhysicalRequestID = owner.nextPhysicalRequestID)
    (hclosed : owner'.closed = false → owner.closed = false)
    (hburied : ∀ request, owner'.Buried request →
      owner.Buried request ∨ ledger'.Ended request.physicalRequestID)
    (hextends : ledger.Extends ledger')
    (hsame : owner'.closed = false → ∀ t request, owner'.inFlight.lookup t = some request →
      ledger' request.physicalRequestID = ledger request.physicalRequestID) :
    Tracks owner' ledger' := by
  refine ⟨fun t request ht => ?_, fun t request t' request' ht ht' =>
    h.unique t request t' request' (hsub t request ht) (hsub t' request' ht'),
    by rw [hnext]; exact h.bounded, by rw [hnext]; exact h.issued_extends hextends,
    fun request hrequest => ?_⟩
  · have hold := h.live t request (hsub t request ht)
    refine { hold with generation := hold.generation.trans hgeneration.symm, known := ?_ }
    rcases hold.known with ⟨entry, hentry, hdescribes⟩
    -- Closing the owner needs even less, for then only the presence of the entries matters.
    by_cases hopen : owner'.closed = false
    · refine ⟨entry, by rw [hsame hopen t request ht, hentry], fun _ => ?_⟩
      exact hdescribes (hclosed hopen)
    · have hsome : (ledger' request.physicalRequestID).isSome := by
        rw [hextends.isSome, hentry]; rfl
      rcases Option.isSome_iff_exists.mp hsome with ⟨entry', hentry'⟩
      exact ⟨entry', hentry', fun hc => absurd hc hopen⟩
  · rcases hburied request hrequest with hold | hnew
    · exact hextends.ended _ (h.buried request hold)
    · exact hnew

/-- A step that touches neither the tables, nor the generation, nor the id counter
    keeps the tie to an unchanged ledger. It may close the owner. -/
theorem keep (htable : owner'.inFlight = owner.inFlight)
    (hgeneration : owner'.generation = owner.generation)
    (hnext : owner'.nextPhysicalRequestID = owner.nextPhysicalRequestID)
    (hclosed : owner'.closed = false → owner.closed = false)
    (hburied : ∀ request, owner'.Buried request → owner.Buried request) : Tracks owner' ledger :=
  h.shrink (by rw [htable]; exact .refl _) hgeneration hnext hclosed
    (fun request hr => Or.inl (hburied request hr)) (Ledger.Extends.refl ledger)
    (fun _ _ _ _ => rfl)

/-- Closing the owner keeps the tie to any later ledger. -/
theorem shut (hsub : owner'.inFlight.Within owner.inFlight)
    (hgeneration : owner'.generation = owner.generation)
    (hnext : owner'.nextPhysicalRequestID = owner.nextPhysicalRequestID)
    (hclosed : owner'.closed = true)
    (hburied : ∀ request, owner'.Buried request →
      owner.Buried request ∨ ledger'.Ended request.physicalRequestID)
    (hextends : ledger.Extends ledger') : Tracks owner' ledger' :=
  h.shrink hsub hgeneration hnext (fun hc => by rw [hclosed] at hc; cases hc) hburied hextends
    (fun hc => by rw [hclosed] at hc; cases hc)

/-- Removing one live request and ending it in the ledger. -/
theorem remove {request : OwnedRequest} (reason : RequestEnd)
    (hrequest : owner.inFlight.lookup request.transactionID = some request)
    (htable : owner'.inFlight = owner.inFlight.erase request.transactionID)
    (hgeneration : owner'.generation = owner.generation)
    (hnext : owner'.nextPhysicalRequestID = owner.nextPhysicalRequestID)
    (hclosed : owner'.closed = owner.closed)
    (hburied : ∀ other, owner'.Buried other → owner.Buried other ∨ other = request) :
    Tracks owner' (ledger.finish request.physicalRequestID reason) := by
  have hsub : ∀ t other, owner'.inFlight.lookup t = some other →
      t ≠ request.transactionID ∧ owner.inFlight.lookup t = some other := by
    intro t other ht
    rw [htable, Table.lookup_erase_ite] at ht
    split_ifs at ht with hcase
    exact ⟨hcase, ht⟩
  refine h.shrink (fun t other ht => (hsub t other ht).2) hgeneration hnext
    (fun hc => by rw [← hclosed]; exact hc) (fun other hother => ?_)
    (ledger.finish_extends _ reason) ?_
  · rcases hburied other hother with hold | rfl
    · exact Or.inl hold
    · exact Or.inr (ledger.finish_ended _ reason (h.present hrequest))
  · -- Its siblings have other physical ids, so their entries are untouched.
    intro _ t other ht
    rcases hsub t other ht with ⟨hne, hold⟩
    refine ledger.finish_ne _ _ reason (fun hphysical => hne ?_)
    exact h.unique t other request.transactionID request hold hrequest hphysical

/-- Changing one live request in place, with its identity kept and its ledger
    entry changed along with it. -/
theorem update (request : OwnedRequest) {request' : OwnedRequest}
    (hrequest : owner.inFlight.lookup request.transactionID = some request)
    (hkey : request'.transactionID = request.transactionID)
    (hphysical : request'.physicalRequestID = request.physicalRequestID)
    (hgeneration : request'.generation = request.generation)
    (hfunction : request'.FunctionAgrees)
    (hothers : ∀ p, p ≠ request.physicalRequestID → ledger' p = ledger p)
    (hentry : ∀ entry, ledger request.physicalRequestID = some entry →
      ∃ entry', ledger' request.physicalRequestID = some entry' ∧ entry'.ended = entry.ended ∧
        (entry.Describes request → entry'.Describes request')) :
    Tracks (owner.updateInFlight request') ledger' := by
  have hlookup : ∀ t other, (owner.updateInFlight request').inFlight.lookup t = some other →
      (t = request.transactionID ∧ other = request') ∨
        (t ≠ request.transactionID ∧ owner.inFlight.lookup t = some other) := by
    intro t other ht
    rw [← hkey]
    exact Table.lookup_insert_some ht
  have hbefore : ∀ t other, (owner.updateInFlight request').inFlight.lookup t = some other →
      ∃ old, owner.inFlight.lookup t = some old ∧
        old.physicalRequestID = other.physicalRequestID := by
    intro t other ht
    rcases hlookup t other ht with ⟨rfl, rfl⟩ | ⟨_, hold⟩
    · exact ⟨request, hrequest, hphysical.symm⟩
    · exact ⟨other, hold, rfl⟩
  have hlive := h.live request.transactionID request hrequest
  rcases hlive.known with ⟨entry, hknown, hdescribes⟩
  rcases hentry entry hknown with ⟨entry', hknown', hended, hcarry⟩
  refine ⟨fun t other ht => ?_, fun t other t' other' ht ht' hsame => ?_, h.bounded,
    fun p e hp => ?_, fun other hother => ?_⟩
  · rcases hlookup t other ht with ⟨rfl, rfl⟩ | ⟨hne, hold⟩
    · refine ⟨hkey, hgeneration.trans hlive.generation, hfunction, ?_⟩
      rw [hphysical]
      exact ⟨entry', hknown', fun hopen => hcarry (hdescribes hopen)⟩
    · refine { h.live t other hold with known := ?_ }
      rw [hothers _ (fun hphys => hne (h.unique t other _ request hold hrequest hphys))]
      exact (h.live t other hold).known
  · rcases hbefore t other ht with ⟨old, hold, hphys⟩
    rcases hbefore t' other' ht' with ⟨old', hold', hphys'⟩
    exact h.unique t old t' old' hold hold' (by rw [hphys, hphys', hsame])
  · by_cases hcase : p = request.physicalRequestID
    · rw [hcase]
      exact h.issued _ entry hknown
    · rw [hothers p hcase] at hp
      exact h.issued p e hp
  · rcases h.buried other hother with ⟨e, he, hend⟩
    -- A buried request may share the physical id, and its entry has ended before and after.
    by_cases hcase : other.physicalRequestID = request.physicalRequestID
    · rw [hcase, hknown, Option.some.injEq] at he
      rw [Ledger.Ended, hcase]
      exact ⟨entry', hknown', by rw [hended, he]; exact hend⟩
    · rw [Ledger.Ended, hothers _ hcase]
      exact ⟨e, he, hend⟩

end Tracks

namespace TCPConnectionOwner

theorem buried_insert (owner : TCPConnectionOwner) {owner' : TCPConnectionOwner}
    (request other : OwnedRequest) (h : owner'.Buried other)
    (htombstones : owner'.tombstones = owner.tombstones.insert request.transactionID request)
    (hclosing : owner'.closingTombstone = owner.closingTombstone) :
    owner.Buried other ∨ other = request := by
  rcases h with ⟨t, ht⟩ | hlast
  · rw [htombstones] at ht
    rcases Table.lookup_insert_some ht with ⟨_, hnew⟩ | ⟨_, hold⟩
    · exact Or.inr hnew
    · exact Or.inl (Or.inl ⟨t, hold⟩)
  · exact Or.inl (Or.inr (by rw [← hclosing]; exact hlast))

theorem buried_closing (owner : TCPConnectionOwner) {owner' : TCPConnectionOwner}
    (request other : OwnedRequest) (h : owner'.Buried other)
    (htombstones : owner'.tombstones = owner.tombstones)
    (hclosing : owner'.closingTombstone = some request) :
    owner.Buried other ∨ other = request := by
  rcases h with ⟨t, ht⟩ | hlast
  · exact Or.inl (Or.inl ⟨t, by rw [← htombstones]; exact ht⟩)
  · rw [hclosing] at hlast
    exact Or.inr (Option.some.inj hlast).symm

end TCPConnectionOwner

namespace Tracks

variable {owner : TCPConnectionOwner} {ledger : Ledger}

/-- A fresh reservation enters the table and the ledger together. -/
theorem issue (h : Tracks owner ledger) (unitID : UInt8) (request : Reserve)
    (deadlineOffset : Duration) (t next : UInt16) (hnext : owner.nextPhysicalRequestID ≠ 0) :
    Tracks
      { owner with
        nextTransactionID := next
        nextPhysicalRequestID := nextUint64 owner.nextPhysicalRequestID
        inFlight := owner.inFlight.insert t (request.owned t owner.nextPhysicalRequestID
          owner.generation unitID deadlineOffset) }
      (ledger.issue owner.nextPhysicalRequestID
        { transactionID := t, generation := owner.generation, unitID := unitID,
          function := request.function }) := by
  -- The physical id has no ledger entry yet, so no live request shares it.
  have hfresh : ∀ p entry, ledger p = some entry → p ≠ owner.nextPhysicalRequestID := by
    intro p entry hp heq
    have := (h.issued p entry hp).2 hnext
    omega
  have hold : ∀ t live, owner.inFlight.lookup t = some live →
      live.physicalRequestID ≠ owner.nextPhysicalRequestID := by
    intro t live ht
    rcases (h.live t live ht).known with ⟨entry, hentry, _⟩
    exact hfresh _ entry hentry
  have hadvance : nextUint64 owner.nextPhysicalRequestID = 0 ∨
      nextUint64 owner.nextPhysicalRequestID = owner.nextPhysicalRequestID + 1 := by
    have := h.bounded
    unfold nextUint64 maxUint64 at *
    omega
  set owned := request.owned t owner.nextPhysicalRequestID owner.generation unitID deadlineOffset
    with howned
  have hphysical : owned.physicalRequestID = owner.nextPhysicalRequestID := rfl
  refine ⟨fun t' live ht => ?_, fun t₁ live₁ t₂ live₂ ht₁ ht₂ hsame => ?_, ?_,
    fun p entry hp => ?_, fun other hother => ?_⟩
  · rcases Table.lookup_insert_some ht with ⟨rfl, rfl⟩ | ⟨_, hlive⟩
    · refine ⟨rfl, rfl, by cases request <;> rfl, _, by rw [Ledger.issue, if_pos hphysical],
        fun _ => ?_⟩
      exact ⟨rfl, rfl, rfl, rfl, fun hs => absurd rfl hs, rfl⟩
    · refine { h.live t' live hlive with known := ?_ }
      rw [Ledger.issue, if_neg (hold t' live hlive)]
      exact (h.live t' live hlive).known
  · rcases Table.lookup_insert_some ht₁ with ⟨rfl, rfl⟩ | ⟨_, hlive₁⟩
    · rcases Table.lookup_insert_some ht₂ with ⟨rfl, rfl⟩ | ⟨_, hlive₂⟩
      · rfl
      · exact absurd (hsame.symm.trans hphysical) (hold t₂ live₂ hlive₂)
    · rcases Table.lookup_insert_some ht₂ with ⟨rfl, rfl⟩ | ⟨_, hlive₂⟩
      · exact absurd (hsame.trans hphysical) (hold t₁ live₁ hlive₁)
      · exact h.unique t₁ live₁ t₂ live₂ hlive₁ hlive₂ hsame
  · simp only [nextUint64, maxUint64]
    omega
  · simp only [Ledger.issue] at hp
    split_ifs at hp with hcase
    · refine ⟨by rw [hcase]; exact hnext, fun hne => ?_⟩
      simp only at hne ⊢
      rcases hadvance with hzero | hsucc <;> omega
    · rcases h.issued p entry hp with ⟨hpos, hlt⟩
      refine ⟨hpos, fun hne => ?_⟩
      have := hlt hnext
      simp only at hne ⊢
      rcases hadvance with hzero | hsucc <;> omega
  · rcases h.buried other hother with ⟨entry, hentry, hended⟩
    exact ⟨entry, by rw [Ledger.issue, if_neg (hfresh _ entry hentry), hentry], hended⟩

/-- With the table and the tombstones empty nothing is left to tie, in whatever
    generation the owner is. -/
theorem of_empty (htable : owner.inFlight = ∅) (htombstones : owner.tombstones = ∅)
    (hclosing : owner.closingTombstone = none) (hbounded : owner.nextPhysicalRequestID ≤ maxUint64)
    (hissued : ∀ p entry, ledger p = some entry →
      p ≠ 0 ∧ (owner.nextPhysicalRequestID ≠ 0 → p < owner.nextPhysicalRequestID)) :
    Tracks owner ledger := by
  have hnone : ∀ t request, owner.inFlight.lookup t ≠ some request := by
    intro t request ht
    rw [htable, AList.lookup_empty] at ht
    cases ht
  refine ⟨fun t r ht => absurd ht (hnone t r), fun t r _ _ ht => absurd ht (hnone t r),
    hbounded, hissued, ?_⟩
  rintro other (⟨t, ht⟩ | hlast)
  · rw [htombstones, AList.lookup_empty] at ht
    cases ht
  · rw [hclosing] at hlast
    cases hlast

theorem emptied (h : Tracks owner ledger) {owner' : TCPConnectionOwner} {ledger' : Ledger}
    (htable : owner'.inFlight = ∅) (htombstones : owner'.tombstones = ∅)
    (hclosing : owner'.closingTombstone = none)
    (hnext : owner'.nextPhysicalRequestID = owner.nextPhysicalRequestID)
    (hextends : ledger.Extends ledger') : Tracks owner' ledger' :=
  of_empty htable htombstones hclosing (by rw [hnext]; exact h.bounded)
    (by rw [hnext]; exact h.issued_extends hextends)

theorem bury (h : Tracks owner ledger) {request : OwnedRequest} (reason : RequestEnd)
    (hrequest : owner.inFlight.lookup request.transactionID = some request) :
    Tracks (owner.bury request) (ledger.finish request.physicalRequestID reason) :=
  h.remove reason hrequest rfl rfl rfl rfl
    (fun other hother => owner.buried_insert request other hother rfl rfl)

theorem buries {filed : Prop} (hfiled : filed) {taken : List OwnedRequest}
    {after : TCPConnectionOwner} (hburies : TCPConnectionOwner.Buries filed owner taken after)
    (h : Tracks owner ledger) :
    Tracks after ((taken.map owner.reservationOf).foldl (fun ledger reservation =>
      ledger.finish reservation.physicalRequestID .expired) ledger) := by
  induction hburies generalizing ledger with
  | nil owner => exact h
  | cons owner request rest after hlook _ _ ih => exact ih (h.bury .expired (hlook hfiled))

/-- A socket that is given up closes the owner, and the request it was given up for has
    ended. -/
theorem giveUp (h : Tracks owner ledger) {request : OwnedRequest} {after : TCPConnectionOwner}
    {ledger' : Ledger} (hpresent : (ledger request.physicalRequestID).isSome)
    (hwithin : after.inFlight.Within owner.inFlight)
    (hgeneration : after.generation = owner.generation)
    (hnext : after.nextPhysicalRequestID = owner.nextPhysicalRequestID)
    (hclosed : after.closed = true)
    (hburied : ∀ other, after.Buried other → owner.Buried other ∨ other = request)
    {reason : RequestEnd}
    (hextends : (ledger.finish request.physicalRequestID reason).Extends ledger') :
    Tracks after ledger' := by
  refine h.shut hwithin hgeneration hnext hclosed (fun other hother => ?_)
    ((ledger.finish_extends _ reason).trans hextends)
  rcases hburied other hother with hold | rfl
  · exact Or.inl hold
  · exact Or.inr (hextends.ended _ (ledger.finish_ended _ reason hpresent))

/-- A refused reconnect ends only requests of other generations, and none is live. -/
theorem kept (h : Tracks owner ledger) : Tracks owner
    (ledger.finishWhere (fun entry => entry.generation ≠ owner.generation) .failed) := by
  refine h.shrink (.refl _) rfl rfl id (fun _ hb => Or.inl hb)
    (ledger.finishWhere_extends _ _) (fun hopen t request ht => ?_)
  rcases (h.live t request ht).known with ⟨entry, hentry, hdescribes⟩
  have hgeneration : entry.generation = owner.generation := by
    rw [(hdescribes hopen).generation, (h.live t request ht).generation]
  rw [Ledger.finishWhere, hentry, Option.map_some, if_neg (by simp [hgeneration])]

end Tracks

theorem Ledger.note_refused (ledger : Ledger) (call : OwnerCall) (reply : OwnerReply)
    (err : ProtocolError) (h : call.refusal err = some reply) :
    ledger.note call reply = ledger := by
  cases call <;> simp only [OwnerCall.refusal, Option.some.injEq, reduceCtorEq] at h <;>
    subst h <;> simp [Ledger.note, Ledger.closing]

/-- A request that is given up has ended before the reply ends every request. -/
theorem Ledger.note_givesUp (ledger : Ledger) {call : OwnerCall} {reservation : TCPReservation}
    (h : call.GivesUp reservation) (transition : OwnerTransition) :
    ledger.note call (.transition transition none) =
      (ledger.finish reservation.physicalRequestID .abandoned).closing transition := by
  cases h with
  | transmit result deadline hcomplete hzero =>
    cases result with
    | complete => exact absurd rfl hcomplete
    | provableZero => exact absurd rfl hzero
    | _ => rfl
  | abandon reason => simp [Ledger.note]

namespace Tracks

variable {owner : TCPConnectionOwner} {ledger : Ledger}

theorem of_step (h : Tracks owner ledger) {call : OwnerCall} {reply : OwnerReply}
    {after : TCPConnectionOwner} (hstep : OwnerStep owner call reply after) :
    Tracks after (ledger.note call reply) := by
  cases hstep with
  | refused _ _ err hrefused =>
    rw [ledger.note_refused call reply err hrefused]
    exact h
  | kept allocated => exact h.kept
  | exhausted | undiagnosed => exact h.keep rfl rfl rfl (fun hc => by cases hc) (fun _ hb => hb)
  | reserved unitID request deadlineOffset t next hnext =>
    exact h.issue unitID request deadlineOffset t next hnext
  | cancelled reservation request next hholds =>
    simp only [Ledger.note, ← hholds.id]
    exact h.remove .cancelled (h.filed.lookup hholds.lookup) rfl rfl rfl rfl (fun _ hb => Or.inl hb)
  | replaced reservation read request hholds hkind hread =>
    have hfunction := (h.live _ request hholds.lookup).function
    simp only [OwnedRequest.FunctionAgrees, hkind] at hfunction
    refine h.update request (h.filed.lookup hholds.lookup) rfl rfl rfl ?_ (fun _ _ => rfl)
      (fun entry hentry => ⟨entry, hentry, rfl, ?_⟩)
    · simp only [OwnedRequest.FunctionAgrees, hkind]
      rw [← hread, hfunction]
    · exact fun hd => ⟨hd.transactionID, hd.generation, hd.unitID, hd.function, hd.invoked,
        hd.open_⟩
  | marked reservation request hholds =>
    simp only [Ledger.note, ← hholds.id]
    refine h.update request (h.filed.lookup hholds.lookup) rfl rfl rfl
      (h.live _ request hholds.lookup).function (fun p hp => ledger.invoke_ne _ p hp)
      (fun entry hentry => ⟨_, ledger.invoke_self _ entry hentry, rfl, ?_⟩)
    exact fun hd => ⟨hd.transactionID, hd.generation, hd.unitID, hd.function, fun _ => rfl,
      hd.open_⟩
  | mismatched =>
    exact h.shut (.refl _) rfl rfl rfl (fun _ hb => Or.inl hb)
      (Ledger.closing_extends _ _)
  | claimed => exact h.keep rfl rfl rfl (fun hc => hc) (fun _ hb => hb)
  | unsent reservation deadline request next hholds =>
    simp only [Ledger.note, if_true, Ledger.transmitted, Ledger.closing, Bool.false_eq_true,
      if_false, ← hholds.id]
    exact h.remove .failed (h.filed.lookup hholds.lookup) rfl rfl rfl rfl (fun _ hb => Or.inl hb)
  | sent reservation deadline offset request hholds =>
    refine h.update request (h.filed.lookup hholds.lookup) rfl rfl rfl
      (h.live _ request hholds.lookup).function (fun _ _ => rfl)
      (fun entry hentry => ⟨entry, hentry, rfl, fun hd => ?_⟩)
    exact ⟨hd.transactionID, hd.generation, hd.unitID, hd.function,
      fun _ => hd.invoked (by rw [hholds.state]; exact fun hc => by cases hc), hd.open_⟩
  | lost _ reservation request hcall hholds =>
    rw [ledger.note_givesUp hcall, ← hholds.id]
    exact h.giveUp (h.present hholds.lookup) (owner.remaining_within _) rfl rfl rfl
      (fun other hother => owner.buried_insert request other hother rfl rfl)
      (Ledger.closing_extends _ _)
  | lostLast _ reservation request hcall hholds =>
    rw [ledger.note_givesUp hcall, ← hholds.id]
    exact h.giveUp (h.present hholds.lookup) (owner.remaining_within _) rfl rfl rfl
      (fun other hother => owner.buried_closing request other hother rfl rfl)
      (Ledger.closing_extends _ _)
  | abandoned reservation reason request hholds =>
    simp only [Ledger.note, true_or, if_true, Ledger.closing, Bool.false_eq_true, if_false,
      ← hholds.id]
    exact h.bury .abandoned (h.filed.lookup hholds.lookup)
  | overflowed reservation reason request err hholds =>
    simp only [Ledger.note, or_true, if_true, ← hholds.id]
    exact h.giveUp (h.present hholds.lookup) (owner.remaining_within _) rfl rfl rfl
      (fun other hother => owner.buried_closing request other hother rfl rfl)
      (Ledger.closing_extends _ _)
  | expired nowOffset after hburies => exact h.buries h.filed hburies
  | overExpired nowOffset taken rest request middle failed err _ hburies hlook =>
    -- The requests before the last one are buried; the last one costs the socket.
    have hmiddle := h.buries h.filed hburies
    simp only [Ledger.note, List.map_append, List.foldl_append]
    exact hmiddle.giveUp (hmiddle.present (hlook h.filed)) (.empty _) rfl rfl rfl
      (fun other hother => middle.buried_closing request other hother rfl rfl)
      (Ledger.closing_extends _ _)
  | answered generation adu request response errs hlook hanswers
  | overtook generation adu request response errs hlook hanswers =>
    simp only [Ledger.note, hanswers.id, hanswers.physicalRequestID]
    rw [if_pos hanswers.next]
    exact h.remove .answered (h.filed.lookup hlook) rfl rfl rfl rfl
      (fun _ hb => Or.inl hb)
  | late generation adu tombstone response errs hburied hanswers =>
    simp only [Ledger.note, hanswers.id, hanswers.physicalRequestID]
    rw [if_pos hanswers.next]
    exact h.shrink (.refl _) rfl rfl id (fun _ hb => Or.inl hb)
      (ledger.finish_extends _ _)
      (fun _ _ _ _ => ledger.finish_of_ended _ _ _ (h.buried tombstone hburied))
  | diagnosed generation adu response errs closed hclosed _ hid =>
    simp only [Ledger.note, hid, ne_eq, not_true_eq_false, if_false]
    refine h.keep rfl rfl rfl (fun hopen => ?_) (fun _ hb => hb)
    cases hc : owner.closed with
    | false => rfl
    | true => rw [hclosed hc] at hopen; cases hopen
  | bound => exact h.keep rfl rfl rfl id (fun _ hb => hb)
  | dropped => exact h.emptied rfl rfl rfl rfl (Ledger.closing_extends _ _)
  | ended _ retired pooled hcall =>
    rcases hcall with rfl | rfl <;>
      exact h.emptied rfl rfl rfl rfl (ledger.finishWhere_extends _ _)
  | renewed => exact h.emptied rfl rfl rfl rfl (ledger.finishWhere_extends _ _)

theorem step (h : Tracks owner ledger) (call : OwnerCall) :
    Tracks (owner.apply call).2 (ledger.note call (owner.apply call).1) :=
  h.of_step (owner.apply_step call)

end Tracks

/-- A frame that decodes against a request starts with that request's function
    code: an exception reply carries another byte and never decodes. -/
theorem validateOwnedResponse_function (request : OwnedRequest) (pdu : List UInt8)
    (decoded : TCPConnectionOwner.DecodedOwnedResponse) (hagrees : request.FunctionAgrees)
    (h : TCPConnectionOwner.validateOwnedResponse request pdu = .ok decoded) :
    pdu.head? = some request.function := by
  unfold TCPConnectionOwner.validateOwnedResponse at h
  cases hkind : request.kind with
  | read =>
    simp only [OwnedRequest.FunctionAgrees, hkind] at hagrees
    simp only [hkind] at h
    cases hdecode : decodeReadRegistersResponse request.read pdu with
    | error err => simp only [hdecode, reduceCtorEq] at h
    | ok response =>
      rw [← hagrees]
      exact (decodeReadRegistersResponse_ok request.read pdu response hdecode).1
  | deviceID =>
    simp only [OwnedRequest.FunctionAgrees, hkind] at hagrees
    simp only [hkind] at h
    rw [hagrees]
    cases hdecoding : request.deviceIDDecoding with
    | tolerant =>
      simp only [hdecoding] at h
      refine decodeDeviceIDPage_function request.deviceID pdu ?_
      cases herr : (decodeDeviceIDPage request.deviceID pdu).2 with
      | none => rfl
      | some err =>
        have hpair : decodeDeviceIDPage request.deviceID pdu =
          ((decodeDeviceIDPage request.deviceID pdu).1, some err) := by rw [← herr]
        rw [hpair] at h
        cases h
    | strict =>
      simp only [hdecoding] at h
      cases hdecode : decodeDeviceIDSegment request.deviceID pdu with
      | error err => simp only [hdecode, reduceCtorEq] at h
      | ok segment => exact decodeDeviceIDSegment_function request.deviceID pdu segment hdecode

/-- What a deliverable response says about the request it is bound to, at the
    moment it is produced. -/
theorem correlate_deliverable (owner : TCPConnectionOwner) (ledger : Ledger)
    (h : Tracks owner ledger) (generation : Nat) (adu : TCPADU)
    (hdeliverable : (owner.correlate generation adu).1.deliverable = true) :
    ∃ entry, ledger (owner.correlate generation adu).1.physicalRequestID = some entry ∧
      entry.transactionID = adu.transactionID ∧ entry.unitID = adu.unitID ∧
      entry.generation = generation ∧ owner.generation = generation ∧ entry.invoked = true ∧
      adu.pdu.head? = some entry.function ∧ entry.ended = none := by
  rcases owner.correlate_cases generation adu with
    ⟨request, hlookup, hopen, hgeneration, hnext, hstate, hcandidate, _, hcorrelate⟩ |
      ⟨tombstone, _, hnext, _, hcorrelate⟩ | ⟨_, frame, _, _, hcorrelate⟩
  · rcases owner.correlateActive_spec request adu hnext with ⟨hanswers, _, hdecodes⟩
    rw [hcorrelate] at hdeliverable ⊢
    rcases hdecodes hdeliverable with ⟨decoded, hdecoded⟩
    have hlive := h.live _ request hlookup
    rcases hlive.known with ⟨entry, hentry, hdescribes⟩
    have hd := hdescribes hopen
    have hunit : adu.unitID = request.unitID := by
      simp only [TCPConnectionOwner.candidateMatches, Bool.and_eq_true, beq_iff_eq] at hcandidate
      exact hcandidate.1
    refine ⟨entry, by simp [hanswers.physicalRequestID, hentry], ?_, ?_, ?_, hgeneration.symm,
      hd.invoked hstate, ?_, hd.open_⟩
    · rw [hd.transactionID, hlive.key]
    · rw [hd.unitID, hunit]
    · rw [hd.generation, hlive.generation, hgeneration]
    · rw [hd.function]
      exact validateOwnedResponse_function request adu.pdu decoded hlive.function hdecoded
  · rw [hcorrelate, (owner.correlateAbandoned_spec tombstone adu hnext).1] at hdeliverable
    cases hdeliverable
  · rw [hcorrelate, frame.newDiagnosticFrame_deliverable generation adu] at hdeliverable
    cases hdeliverable

/-- An ended request stays ended, unless its id is issued anew. -/
theorem Ledger.note_ended (ledger : Ledger) (call : OwnerCall) (reply : OwnerReply) (p : Nat)
    (h : ledger.Ended p)
    (hfresh : ∀ reservation, reply = .reserved (.ok reservation) →
      reservation.physicalRequestID ≠ p) :
    (ledger.note call reply).Ended p := by
  unfold Ledger.note
  split
  · -- Only this call can take the id again.
    rename_i reservation
    rcases h with ⟨entry, hentry, hended⟩
    refine ⟨entry, ?_, hended⟩
    rw [Ledger.issue, if_neg (fun heq => hfresh reservation rfl heq.symm), hentry]
  · exact (ledger.finish_extends _ _).ended p h
  · rcases h with ⟨entry, hentry, hended⟩
    by_cases hcase : p = ‹TCPReservation›.physicalRequestID
    · exact ⟨{ entry with invoked := true },
        by rw [← hcase]; exact ledger.invoke_self p entry hentry, hended⟩
    · exact ⟨entry, by rw [ledger.invoke_ne _ p hcase, hentry], hended⟩
  · refine (Ledger.closing_extends _ _).ended p ?_
    split_ifs
    · unfold Ledger.transmitted
      split
      · exact h
      all_goals exact (ledger.finish_extends _ _).ended p h
    · exact h
  · refine (Ledger.closing_extends _ _).ended p ?_
    split_ifs
    · exact (ledger.finish_extends _ _).ended p h
    · exact h
  · exact (Ledger.closing_extends _ _).ended p ((Ledger.finishAll_extends _ _ ledger).ended p h)
  · split_ifs
    · exact (ledger.finish_extends _ _).ended p h
    · exact h
  · exact (Ledger.closing_extends _ _).ended p h
  · exact (ledger.finishWhere_extends _ _).ended p h
  · exact (ledger.finishWhere_extends _ _).ended p h
  · exact (ledger.finishWhere_extends _ _).ended p h
  · exact h

theorem newTCPConnectionOwner_eq {endpoint : String} {generation : Nat} {limits : ConnectionLimits}
    {owner : TCPConnectionOwner}
    (h : newTCPConnectionOwner endpoint generation limits = .ok owner) :
    owner = { endpoint := endpoint, generation := generation, limits := limits } := by
  unfold newTCPConnectionOwner at h
  split_ifs at h
  cases h
  rfl

namespace Traced

/-- What every state of a run satisfies: the tie, and that each id answered from
    the in-flight table was answered once and has ended. -/
structure Sound (traced : Traced) : Prop where
  tracks : Tracks traced.owner traced.ledger
  nodup : traced.answered.Nodup
  ended : ∀ p ∈ traced.answered, traced.ledger.Ended p

theorem start_sound {endpoint : String} {generation : Nat} {limits : ConnectionLimits}
    {owner : TCPConnectionOwner}
    (hnew : newTCPConnectionOwner endpoint generation limits = .ok owner) (connectionID : Nat)
    (pooled : Bool) (bound : Option Nat) :
    (start { owner with
      connectionID := connectionID, pooled := pooled, boundTransport := bound }).Sound := by
  cases newTCPConnectionOwner_eq hnew
  exact ⟨.of_empty rfl rfl rfl (show 1 ≤ maxUint64 by decide) (fun p entry hp => nomatch hp),
    List.nodup_nil, fun p hp => nomatch hp⟩

/-- An id issued by a call had not ended before it. -/
theorem fresh_of_reserved (traced : Traced) (h : traced.Sound) (call : OwnerCall)
    (reservation : TCPReservation) (p : Nat)
    (hreply : (traced.owner.apply call).1 = .reserved (.ok reservation))
    (hended : traced.ledger.Ended p) : reservation.physicalRequestID ≠ p := by
  have hstep := traced.owner.apply_step call
  rw [hreply] at hstep
  generalize (traced.owner.apply call).2 = after at hstep
  cases hstep with
  | refused _ _ err hrefused => cases call <;> cases hrefused
  | reserved unitID request deadlineOffset t next hnext =>
    rcases hended with ⟨entry, hentry, _⟩
    exact Nat.ne_of_gt ((h.tracks.issued p entry hentry).2 hnext)

theorem step_sound (traced : Traced) (h : traced.Sound) (call : OwnerCall) :
    (traced.step call).Sound := by
  have hpersists : ∀ p, traced.ledger.Ended p → (traced.step call).ledger.Ended p := fun p hp =>
    traced.ledger.note_ended call _ p hp
      (fun reservation hreply => traced.fresh_of_reserved h call reservation p hreply hp)
  refine ⟨h.tracks.step call, ?_, ?_⟩
  · cases call with
    | correlate generation adu =>
      simp only [step]
      rcases traced.owner.correlate_cases generation adu with
        ⟨request, hlookup, hopen, _, _, _, _, hactive, _⟩ | ⟨_, _, _, hactive, _⟩ | ⟨hactive, _⟩
      · -- The live request has not ended, so its id was not answered before.
        rw [hactive, Option.toList_some, List.singleton_append, List.nodup_cons]
        refine ⟨fun hmem => ?_, h.nodup⟩
        rcases h.ended _ hmem with ⟨entry, hentry, hended⟩
        rcases (h.tracks.live _ request hlookup).known with ⟨entry', hentry', hdescribes⟩
        rw [hentry, Option.some.injEq] at hentry'
        exact hended (by rw [hentry']; exact (hdescribes hopen).open_)
      · rw [hactive]
        exact h.nodup
      · rw [hactive]
        exact h.nodup
    | _ => exact h.nodup
  · intro p hp
    cases call with
    | correlate generation adu =>
      simp only [step, List.mem_append, Option.mem_toList] at hp
      rcases hp with hactive | hold
      · rcases traced.owner.correlate_cases generation adu with
          ⟨request, hlookup, _, _, hid, _, _, hactive', hcorrelate⟩ | ⟨_, _, _, hactive', _⟩ |
            ⟨hactive', _⟩
        · rw [hactive', Option.some.injEq] at hactive
          rcases traced.owner.correlateActive_spec request adu hid with ⟨hanswers, _, _⟩
          simp only [step, TCPConnectionOwner.apply, Ledger.note, hcorrelate,
            hanswers.physicalRequestID, hanswers.id, if_pos hid, ← hactive]
          exact Ledger.finish_ended _ _ _ (h.tracks.present hlookup)
        · rw [hactive'] at hactive
          cases hactive
        · rw [hactive'] at hactive
          cases hactive
      · exact hpersists p (h.ended p hold)
    | _ => exact hpersists p (h.ended p hp)

theorem run_sound (traced : Traced) (h : traced.Sound) (calls : List OwnerCall) :
    (traced.run calls).Sound := by
  induction calls generalizing traced with
  | nil => exact h
  | cons call rest ih => exact ih (traced.step call) (traced.step_sound h call)

end Traced

/-- Correlation safety of one socket owner. After any sequence of calls on a new
    owner, whatever frame arrives next: if its response is deliverable then the
    frame carries the transaction, unit and function of a request reserved in the
    generation passed in, which is the current one, whose write was invoked and
    which has not ended in any way. A response bound to a request that has ended,
    abandoned ones included, is not deliverable. And no physical request is
    answered twice from the in-flight table. -/
theorem correlation_safety (endpoint : String) (generation : Nat) (limits : ConnectionLimits)
    (owner : TCPConnectionOwner)
    (hnew : newTCPConnectionOwner endpoint generation limits = .ok owner) (connectionID : Nat)
    (pooled : Bool) (calls : List OwnerCall) :
    let reached :=
      (Traced.start { owner with connectionID := connectionID, pooled := pooled }).run calls
    (∀ received adu,
      let response := (reached.owner.correlate received adu).1
      (response.deliverable = true →
        ∃ entry, reached.ledger response.physicalRequestID = some entry ∧
          entry.transactionID = adu.transactionID ∧ entry.unitID = adu.unitID ∧
          entry.generation = received ∧ reached.owner.generation = received ∧
          entry.invoked = true ∧ adu.pdu.head? = some entry.function ∧ entry.ended = none) ∧
      (∀ entry, reached.ledger response.physicalRequestID = some entry → entry.ended ≠ none →
        response.deliverable = false)) ∧
    reached.answered.Nodup := by
  intro reached
  have hreached : reached.Sound :=
    Traced.run_sound _ (Traced.start_sound hnew connectionID pooled owner.boundTransport) calls
  refine ⟨fun received adu => ⟨fun hdeliverable => ?_, fun entry hentry hended => ?_⟩,
    hreached.nodup⟩
  · exact correlate_deliverable _ _ hreached.tracks received adu hdeliverable
  · by_contra hdeliverable
    rw [Bool.not_eq_false] at hdeliverable
    rcases correlate_deliverable _ _ hreached.tracks received adu hdeliverable with
      ⟨entry', hentry', _, _, _, _, _, _, hopen⟩
    rw [hentry, Option.some.injEq] at hentry'
    exact hended (by rw [hentry']; exact hopen)

/-- A read of one register that was reserved and written, with its answer still to
    come. -/
def correlationExample : List OwnerCall :=
  [.reserve 1 (.read { function := 3, table := .holdingRegisters, offset := 0, quantity := 1 }) 0,
    .markWriteInvoked { owner := some 7, physicalRequestID := 1, generation := 1 }]

theorem correlation_safety_example :
    ∃ owner, newTCPConnectionOwner "endpoint" 1 { maxInFlight := 2, maxTombstones := 2 } =
        .ok owner ∧
      ((Traced.start { owner with connectionID := 7, pooled := true }).run
        correlationExample).answered.Nodup ∧
      (((Traced.start { owner with connectionID := 7, pooled := true }).run
        correlationExample).owner.correlate 1
          { transactionID := 0, unitID := 1, pdu := [3, 2, 0, 9] }).1.deliverable = true :=
  ⟨{ endpoint := "endpoint", generation := 1,
     limits := { maxInFlight := 2, maxTombstones := 2 } }, rfl,
    (correlation_safety "endpoint" 1 { maxInFlight := 2, maxTombstones := 2 } _ rfl 7 true
      correlationExample).2, by decide⟩

end HelianthusModbus
