import HelianthusModbus.Theory.OwnerEntries

/-!
# The Progress of One Request

What an owner can do to one of its requests, named by its physical id, from the moment it
is reserved.

A live request moves from reserved to write-invoked only when its own reservation is
marked, and from write-invoked to waiting only when the result of its write is recorded.
Everything else leaves its state alone or takes it out of the table. A record of an early
completion appears only when a frame takes a write-invoked request out, and it outlives
neither a lost socket nor a reconnect. `Progress` says this for one request and one
operation on the owner that does not mark it.

Four stages of a request follow one another: reserved, invoked, settled, and gone. Each
is kept by all operations that do not mark the request, so the code that drives a request
through its write only has to be followed at the calls that move it on.

## Main definitions

* `TCPConnectionOwner.Progress`: What one operation does to a request it does not mark.
* `TCPReservation.Stage`, `TCPReservation.At`: The stages of a request.

## Theorems

* `TCPConnectionOwner.operate_progress`: Every operation makes progress in this sense.
* `TCPReservation.At.operate`, `TCPReservation.At.operate_last`: The stages are kept.
* `TCPReservation.At.cancelBeforeWrite`, `TCPReservation.At.markWriteInvoked`,
  `TCPReservation.At.recordTransmitUntil`: The calls that move a request on.
-/

namespace HelianthusModbus

/-- Whether an operation marks a physical request as written. -/
def OwnerOperation.marks (physicalRequestID : Nat) : OwnerOperation → Bool
  | .call (.markWriteInvoked reservation) => reservation.physicalRequestID = physicalRequestID
  | _ => false

def OwnerOperation.reserves : OwnerOperation → Bool
  | .call (.reserve ..) => true
  | _ => false

namespace TCPConnectionOwner

/-- A live request with a given physical id. -/
def Live (owner : TCPConnectionOwner) (physicalRequestID : Nat) (request : OwnedRequest) : Prop :=
  (∃ t, owner.inFlight.lookup t = some request) ∧ request.physicalRequestID = physicalRequestID

/-- What happens to a request that is not marked: it stays in its state or its write is
    recorded, an early completion is noted only when it leaves the table, and a closed
    owner opens again only without early completions. -/
structure Progress (physicalRequestID : Nat) (owner after : TCPConnectionOwner) : Prop where
  live : ∀ request, after.Live physicalRequestID request →
    ∃ old, owner.Live physicalRequestID old ∧ old.transactionID = request.transactionID ∧
      old.generation = request.generation ∧
      (request.state = old.state ∨ (old.state = .writeInvoked ∧ request.state = .waiting))
  early : after.earlyCompletions.lookup physicalRequestID ≠ none →
    owner.earlyCompletions.lookup physicalRequestID ≠ none ∨
      ((∃ old, owner.Live physicalRequestID old ∧ old.state = .writeInvoked) ∧
        ∀ request, ¬after.Live physicalRequestID request)
  closed : owner.closed = true →
    after.closed = true ∨ after.earlyCompletions.lookup physicalRequestID = none

namespace Progress

variable {p : Nat} {owner after : TCPConnectionOwner}

theorem of_within (hlive : after.inFlight.Within owner.inFlight)
    (hearly : after.earlyCompletions.Within owner.earlyCompletions)
    (hclosed : owner.closed = true → after.closed = true ∨ after.earlyCompletions = ∅) :
    Progress p owner after where
  live := by
    rintro request ⟨⟨t, ht⟩, hid⟩
    exact ⟨request, ⟨⟨t, hlive t request ht⟩, hid⟩, rfl, rfl, Or.inl rfl⟩
  early := by
    intro hsome
    refine Or.inl fun hnone => hsome ?_
    exact hearly.lookup_none hnone
  closed := by
    intro hc
    rcases hclosed hc with hc | hempty
    · exact Or.inl hc
    · rw [hempty]
      exact Or.inr (AList.lookup_empty _)

theorem none_live (h : Progress p owner after) (hnone : ∀ request, ¬owner.Live p request)
    (request : OwnedRequest) : ¬after.Live p request := by
  intro hlive
  rcases h.live request hlive with ⟨old, hold, _⟩
  exact hnone old hold

theorem update (request changed : OwnedRequest)
    (hlook : owner.inFlight.lookup changed.transactionID = some request)
    (hkey : request.transactionID = changed.transactionID)
    (hid : request.physicalRequestID = changed.physicalRequestID)
    (hgeneration : request.generation = changed.generation)
    (hstate : changed.physicalRequestID = p → changed.state = request.state ∨
      (request.state = .writeInvoked ∧ changed.state = .waiting)) :
    Progress p owner (owner.updateInFlight changed) where
  live := by
    rintro found ⟨⟨t, ht⟩, hfound⟩
    rcases Table.lookup_insert_some ht with ⟨_, rfl⟩ | ⟨_, hold⟩
    · exact ⟨request, ⟨⟨_, hlook⟩, hid.trans hfound⟩, hkey, hgeneration, hstate hfound⟩
    · exact ⟨found, ⟨⟨t, hold⟩, hfound⟩, rfl, rfl, Or.inl rfl⟩
  early := Or.inl
  closed := Or.inl

end Progress

variable {owner : TCPConnectionOwner} {p : Nat}

/-- A frame notes an early completion only for the request it takes out of the table, and
    that is the only one with its physical id. -/
theorem Progress.overtook (htracked : owner.Tracked) {t : UInt16} {request : OwnedRequest}
    {after : TCPConnectionOwner} (hlook : owner.inFlight.lookup t = some request)
    (hinvoked : request.state = .writeInvoked)
    (hlive : after.inFlight = owner.inFlight.erase request.transactionID)
    (hearly : after.earlyCompletions =
      owner.earlyCompletions.insert request.physicalRequestID request.transactionID)
    (hclosed : after.closed = owner.closed) : Progress p owner after where
  live := by
    rintro found ⟨⟨t', ht⟩, hfound⟩
    rw [hlive] at ht
    exact ⟨found, ⟨⟨t', Table.Within.erase _ _ t' found ht⟩, hfound⟩, rfl, rfl, Or.inl rfl⟩
  early := by
    intro hsome
    by_cases heq : p = request.physicalRequestID
    · refine Or.inr ⟨⟨request, ⟨⟨t, hlook⟩, heq.symm⟩, hinvoked⟩, ?_⟩
      rintro found ⟨⟨t', ht⟩, hfound⟩
      rw [hlive] at ht
      have hsame := htracked.unique (Table.Within.erase _ _ t' found ht) hlook (hfound.trans heq)
      rw [hsame, htracked.key _ _ hlook, AList.lookup_erase] at ht
      cases ht
    · rw [hearly, Table.lookup_insert_ite, if_neg heq] at hsome
      exact Or.inl hsome
  closed hc := Or.inl (hclosed.trans hc)

/-- Every operation that does not mark a request makes progress with it. -/
theorem operate_progress (htracked : owner.Tracked) (operation : OwnerOperation)
    (hissued : HandedOut p owner.nextPhysicalRequestID ∨ operation.reserves = false)
    (hmarks : operation.marks p = false) : Progress p owner (owner.operate operation) := by
  cases operation with
  | drainFailedReservations | takePoolSlot => exact .of_within (.refl _) (.refl _) Or.inl
  | call call =>
    show Progress p owner (owner.apply call).2
    have hstep := owner.apply_step call
    generalize (owner.apply call).1 = reply, (owner.apply call).2 = after at hstep ⊢
    cases hstep with
    | reserved unitID request deadlineOffset t next hnext =>
      refine ⟨?_, Or.inl, Or.inl⟩
      rintro found ⟨⟨t', ht⟩, hfound⟩
      -- The id of a new request was never handed out before.
      rcases Table.lookup_insert_some ht with ⟨_, rfl⟩ | ⟨_, hold⟩
      · rcases hissued with hissued | hreserves
        · exact absurd hfound.symm (hissued.ne hnext)
        · cases hreserves
      · exact ⟨found, ⟨⟨t', hold⟩, hfound⟩, rfl, rfl, Or.inl rfl⟩
    | replaced reservation read request hholds =>
      exact .update request _ (htracked.key.lookup hholds.lookup) rfl rfl rfl
        fun _ => Or.inl rfl
    | marked reservation request hholds =>
      refine .update request _ (htracked.key.lookup hholds.lookup) rfl rfl rfl fun hid => ?_
      simp only [OwnerOperation.marks, decide_eq_false_iff_not] at hmarks
      exact absurd (hholds.id.symm.trans hid) hmarks
    | sent reservation deadline offset request hholds =>
      exact .update request _ (htracked.key.lookup hholds.lookup) rfl rfl rfl
        fun _ => Or.inr ⟨hholds.state, rfl⟩
    | exhausted | mismatched | undiagnosed =>
      exact .of_within (.refl _) (.refl _) fun _ => Or.inl rfl
    | cancelled | unsent | abandoned | answered =>
      exact .of_within (.erase _ _) (.refl _) fun hc => Or.inl hc
    | claimed => exact .of_within (.refl _) (.erase _ _) fun hc => Or.inl hc
    | lost | lostLast | overflowed =>
      exact .of_within (owner.remaining_within _) (.refl _) fun _ => Or.inl rfl
    | expired nowOffset after hburies =>
      rcases hburies.frame with ⟨_, _, hwithin, rfl⟩
      exact .of_within hwithin (.refl _) fun hc => Or.inl hc
    | overExpired nowOffset taken rest request middle failed err _ hburies =>
      rcases hburies.frame with ⟨_, _, _, rfl⟩
      exact .of_within (.empty _) (.refl _) fun _ => Or.inl rfl
    | overtook generation adu request response errs hlook _ hinvoked =>
      exact .overtook htracked hlook hinvoked rfl rfl rfl
    | diagnosed generation adu response errs closed hclosed =>
      exact .of_within (.refl _) (.refl _) fun hc => Or.inl (hclosed hc)
    | dropped | ended | renewed => exact .of_within (.empty _) (.empty _) fun _ => Or.inr rfl
    | _ => exact .of_within (.refl _) (.refl _) fun hc => Or.inl hc

theorem operate_marked (operation : OwnerOperation) (hmarks : operation.marks p = true)
    (hnone : ∀ request, owner.Live p request → request.state ≠ .reserved) :
    owner.operate operation = owner := by
  unfold OwnerOperation.marks at hmarks
  split at hmarks
  · next reservation =>
    show (owner.markWriteInvoked reservation).2 = owner
    unfold markWriteInvoked
    split
    · rfl
    · next request hrequest =>
      rcases (owner.requestFor_ok _ _ _).mp hrequest with ⟨_, _, hlook, hid, hstate⟩
      rw [decide_eq_true_eq] at hmarks
      exact absurd hstate (hnone request ⟨⟨_, hlook⟩, hid.trans hmarks⟩)
  · cases hmarks

theorem operate_early (operation : OwnerOperation)
    (h : operation.marks p = true ∨ operation.reserves = true) :
    (owner.operate operation).earlyCompletions = owner.earlyCompletions := by
  cases operation with
  | drainFailedReservations | takePoolSlot => rfl
  | call call =>
    show (owner.apply call).2.earlyCompletions = _
    have hstep := owner.apply_step call
    generalize (owner.apply call).1 = reply, (owner.apply call).2 = after at hstep ⊢
    cases hstep with
    | refused | exhausted | reserved | marked => rfl
    | lost call reservation request hcall | lostLast call reservation request hcall =>
      cases hcall <;> simp [OwnerOperation.marks, OwnerOperation.reserves] at h
    | ended call retired pooled hcall =>
      rcases hcall with rfl | rfl <;> simp [OwnerOperation.marks, OwnerOperation.reserves] at h
    | _ => simp [OwnerOperation.marks, OwnerOperation.reserves] at h

theorem Tracked.operate (h : owner.Tracked) (operation : OwnerOperation) :
    (owner.operate operation).Tracked := by
  cases operation with
  | call call => exact h.apply call
  | drainFailedReservations | takePoolSlot =>
    rcases h with ⟨ledger, hledger⟩
    exact ⟨ledger, hledger.keep rfl rfl rfl id fun _ => id⟩

theorem Tracked.none_live (h : owner.Tracked) {after : TCPConnectionOwner} {t : UInt16}
    {request : OwnedRequest} (hlook : owner.inFlight.lookup t = some request)
    (hid : request.physicalRequestID = p)
    (hwithin : after.inFlight.Within owner.inFlight)
    (hgone : after.inFlight.lookup request.transactionID = none) (found : OwnedRequest) :
    ¬after.Live p found := by
  rintro ⟨⟨t', ht⟩, hfound⟩
  have hsame := h.unique (hwithin t' found ht) hlook (hfound.trans hid.symm)
  rw [hsame, ← h.key t request hlook, hgone] at ht
  cases ht

theorem Tracked.live_updated (h : owner.Tracked) {t : UInt16} {request changed : OwnedRequest}
    (hlook : owner.inFlight.lookup t = some request) (hid : request.physicalRequestID = p)
    (found : OwnedRequest) (hlive : (owner.updateInFlight changed).Live p found)
    (hkey : changed.transactionID = request.transactionID) : found = changed := by
  rcases hlive with ⟨⟨t', ht⟩, hfound⟩
  rcases Table.lookup_insert_some ht with ⟨_, hnew⟩ | ⟨hne, hold⟩
  · exact hnew
  · have hsame := h.unique hold hlook (hfound.trans hid.symm)
    exact absurd ((hsame.trans (h.key t request hlook).symm).trans hkey.symm) hne

theorem Tracked.live_handedOut (h : owner.Tracked) {request : OwnedRequest}
    (hlive : owner.Live p request) : HandedOut p owner.nextPhysicalRequestID := by
  rcases h with ⟨ledger, hledger⟩
  rcases hlive with ⟨⟨t, ht⟩, hid⟩
  rcases (hledger.live t request ht).known with ⟨entry, hentry, _⟩
  rw [← hid]
  exact hledger.issued _ entry hentry

/-- What an operation leaves of an owner: its connection, its past ids, and the identity of
    every request it does not enter itself. -/
theorem Tracked.operate_frame (h : owner.Tracked) (operation : OwnerOperation) :
    (owner.operate operation).connectionID = owner.connectionID ∧
      (∀ p, HandedOut p owner.nextPhysicalRequestID →
        HandedOut p (owner.operate operation).nextPhysicalRequestID) ∧
      ∀ t request, (owner.operate operation).inFlight.lookup t = some request →
        (∃ old, owner.inFlight.lookup t = some old ∧
          old.physicalRequestID = request.physicalRequestID ∧
          old.generation = request.generation) ∨
        (owner.nextPhysicalRequestID ≠ 0 ∧
          request.physicalRequestID = owner.nextPhysicalRequestID) := by
  cases operation with
  | drainFailedReservations | takePoolSlot =>
    exact ⟨rfl, fun _ => id, fun t request ht => Or.inl ⟨request, ht, rfl, rfl⟩⟩
  | call call =>
    have hchanges := apply_changes h.key call
    refine ⟨hchanges.connectionID, fun p hissued => h.handedOut hissued call,
      fun t request ht => ?_⟩
    rcases hchanges.entries t request ht with
      ⟨old, hold, hidentity | ⟨_, _, _, _, _, rfl⟩⟩ | ⟨_, hfresh⟩
    · have hfields := OwnedRequest.identity_fields hidentity
      exact Or.inl ⟨old, hold, hfields.1.symm, hfields.2.2.2.symm⟩
    · exact Or.inl ⟨old, hold, rfl, rfl⟩
    · exact Or.inr hfresh

/-- An owner of a run: a request that completed early is no longer live. -/
structure Orderly (owner : TCPConnectionOwner) : Prop where
  tracked : owner.Tracked
  early : ∀ p, owner.earlyCompletions.lookup p ≠ none →
    HandedOut p owner.nextPhysicalRequestID ∧ ∀ request, ¬owner.Live p request

theorem Orderly.start {endpoint : String} {generation : Nat} {limits : ConnectionLimits}
    (hnew : newTCPConnectionOwner endpoint generation limits = .ok owner)
    (connectionID : Nat) (pooled : Bool) (bound : Option Nat) :
    Orderly { owner with
      connectionID := connectionID, pooled := pooled, boundTransport := bound } := by
  refine ⟨⟨_, (Traced.start_sound hnew connectionID pooled bound).tracks⟩, ?_⟩
  rw [newTCPConnectionOwner_eq hnew]
  exact fun p hsome => absurd (AList.lookup_empty p) hsome

theorem Orderly.operate (h : owner.Orderly) (operation : OwnerOperation) :
    (owner.operate operation).Orderly where
  tracked := h.tracked.operate operation
  early := by
    intro p hsome
    by_cases hmarks : operation.marks p = true
    · rw [operate_early operation (Or.inl hmarks)] at hsome
      rcases h.early p hsome with ⟨hissued, hnone⟩
      rw [operate_marked operation hmarks fun request hlive => absurd hlive (hnone request)]
      exact ⟨hissued, hnone⟩
    · rw [Bool.not_eq_true] at hmarks
      by_cases hreserves : operation.reserves = true
      · rw [@operate_early owner p operation (Or.inr hreserves)] at hsome
        rcases h.early p hsome with ⟨hissued, hnone⟩
        exact ⟨(h.tracked.operate_frame operation).2.1 p hissued,
          (operate_progress h.tracked operation (Or.inl hissued) hmarks).none_live hnone⟩
      · rw [Bool.not_eq_true] at hreserves
        have hprogress := operate_progress h.tracked operation (Or.inr hreserves) hmarks
        rcases hprogress.early hsome with hearly | ⟨⟨old, hold, _⟩, hnone⟩
        · rcases h.early p hearly with ⟨hissued, hnone⟩
          exact ⟨(h.tracked.operate_frame operation).2.1 p hissued, hprogress.none_live hnone⟩
        · exact ⟨(h.tracked.operate_frame operation).2.1 p (h.tracked.live_handedOut hold), hnone⟩

/-- Any number of operations none of which marks a request. -/
def Unmarked : TCPConnectionOwner → TCPConnectionOwner → Prop :=
  Relation.ReflTransGen fun owner after =>
    ∃ operation : OwnerOperation, (∀ p, operation.marks p = false) ∧
      after = owner.operate operation

theorem Unmarked.operation (owner : TCPConnectionOwner) (operation : OwnerOperation)
    (hmarks : ∀ p, operation.marks p = false) : owner.Unmarked (owner.operate operation) :=
  .single ⟨operation, hmarks, rfl⟩

theorem Unmarked.call (owner : TCPConnectionOwner) (call : OwnerCall)
    (hmarks : ∀ p, (OwnerOperation.call call).marks p = false) :
    owner.Unmarked (owner.apply call).2 :=
  .operation owner (.call call) hmarks

end TCPConnectionOwner

namespace TCPReservation

/-- A reservation of an owner that names its request and no other one: its physical id is
    of the past, and what is live under this id has its transaction id. -/
structure IssuedBy (reservation : TCPReservation) (owner : TCPConnectionOwner) : Prop where
  tracked : owner.Tracked
  handedOut : HandedOut reservation.physicalRequestID owner.nextPhysicalRequestID
  own : reservation.owner = some owner.connectionID
  named : ∀ request, owner.Live reservation.physicalRequestID request →
    request.transactionID = reservation.transactionID ∧
      request.generation = reservation.generation

/-- How far a request has come. -/
inductive Stage where
  | reserved
  | invoked
  | settled
  | gone
  deriving DecidableEq, Repr

/-- A reservation is at a stage. A settled request may be waiting or gone, and an early
    completion of it is left over only in a closed owner. -/
def At (reservation : TCPReservation) (owner : TCPConnectionOwner) : Stage → Prop
  | .reserved =>
    (∀ request, owner.Live reservation.physicalRequestID request → request.state = .reserved) ∧
      owner.earlyCompletions.lookup reservation.physicalRequestID = none
  | .invoked =>
    (∀ request, owner.Live reservation.physicalRequestID request → request.state ≠ .reserved) ∧
      (owner.earlyCompletions.lookup reservation.physicalRequestID ≠ none →
        ∀ request, ¬owner.Live reservation.physicalRequestID request)
  | .settled =>
    (∀ request, owner.Live reservation.physicalRequestID request → request.state = .waiting) ∧
      (owner.earlyCompletions.lookup reservation.physicalRequestID = none ∨
        owner.closed = true)
  | .gone =>
    (∀ request, ¬owner.Live reservation.physicalRequestID request) ∧
      owner.earlyCompletions.lookup reservation.physicalRequestID = none

variable {reservation : TCPReservation} {owner after : TCPConnectionOwner}

/-- A request that is gone was neither answered early nor is it on its way. -/
theorem At.of_gone (h : reservation.At owner .gone) (stage : Stage) :
    reservation.At owner stage := by
  have hnone : ∀ (fact : OwnedRequest → Prop) (request : OwnedRequest),
      owner.Live reservation.physicalRequestID request → fact request :=
    fun _ request hlive => absurd hlive (h.1 request)
  cases stage with
  | reserved => exact ⟨hnone _, h.2⟩
  | invoked => exact ⟨hnone _, fun _ => h.1⟩
  | settled => exact ⟨hnone _, Or.inl h.2⟩
  | gone => exact h

theorem At.progress {stage : Stage} (h : reservation.At owner stage)
    (hprogress : TCPConnectionOwner.Progress reservation.physicalRequestID owner after) :
    reservation.At after stage := by
  -- Only an invoked request can move on, so each other stage refutes the move.
  cases stage with
  | reserved =>
    refine ⟨fun request hlive => ?_, ?_⟩
    · rcases hprogress.live request hlive with ⟨old, hold, _, _, hstate | ⟨hinvoked, _⟩⟩
      · exact hstate.trans (h.1 old hold)
      · cases (h.1 old hold).symm.trans hinvoked
    · by_contra hsome
      rcases hprogress.early hsome with hearly | ⟨⟨old, hold, hinvoked⟩, _⟩
      · exact hearly h.2
      · cases (h.1 old hold).symm.trans hinvoked
  | invoked =>
    refine ⟨fun request hlive => ?_, fun hsome => ?_⟩
    · rcases hprogress.live request hlive with ⟨old, hold, _, _, hstate | ⟨_, hwaiting⟩⟩
      · rw [hstate]
        exact h.1 old hold
      · rw [hwaiting]
        exact nofun
    · rcases hprogress.early hsome with hearly | ⟨_, hnone⟩
      · exact hprogress.none_live (h.2 hearly)
      · exact hnone
  | settled =>
    refine ⟨fun request hlive => ?_, ?_⟩
    · rcases hprogress.live request hlive with ⟨old, hold, _, _, hstate | ⟨_, hwaiting⟩⟩
      · exact hstate.trans (h.1 old hold)
      · exact hwaiting
    · rcases h.2 with hnone | hclosed
      · refine Or.inl (by_contra fun hsome => ?_)
        rcases hprogress.early hsome with hearly | ⟨⟨old, hold, hinvoked⟩, _⟩
        · exact hearly hnone
        · cases (h.1 old hold).symm.trans hinvoked
      · exact (hprogress.closed hclosed).symm
  | gone =>
    refine ⟨hprogress.none_live h.1, by_contra fun hsome => ?_⟩
    rcases hprogress.early hsome with hearly | ⟨⟨old, hold, _⟩, _⟩
    · exact hearly h.2
    · exact h.1 old hold

theorem IssuedBy.requestFor (h : reservation.IssuedBy owner) {request : OwnedRequest}
    (hlive : owner.Live reservation.physicalRequestID request) :
    owner.requestFor reservation request.state = .ok request := by
  rcases h.named request hlive with ⟨hname, hgeneration⟩
  rcases hlive with ⟨⟨t, ht⟩, hid⟩
  rcases h.tracked with ⟨ledger, hledger⟩
  refine (owner.requestFor_ok _ _ _).mpr ⟨h.own, ?_, ?_, hid, rfl⟩
  · rw [← hgeneration]
    exact (hledger.live t request ht).generation
  · rw [← hname, hledger.filed t request ht]
    exact ht

/-- A reserved request in the table: its reservation is issued, and nothing came of it yet. -/
theorem IssuedBy.of_reserved (howner : owner.Orderly) {request : OwnedRequest}
    (hrequest : owner.requestFor reservation .reserved = .ok request) :
    reservation.IssuedBy owner ∧ reservation.At owner .reserved := by
  rcases (owner.requestFor_ok _ _ _).mp hrequest with ⟨hown, hgeneration, hlook, hid, hstate⟩
  have hlive : owner.Live reservation.physicalRequestID request := ⟨⟨_, hlook⟩, hid⟩
  have honly : ∀ found, owner.Live reservation.physicalRequestID found → found = request := by
    rintro found ⟨⟨t, ht⟩, hfound⟩
    have hsame := howner.tracked.unique ht hlook (hfound.trans hid.symm)
    rw [hsame] at ht
    exact Option.some.inj (ht.symm.trans hlook)
  refine ⟨⟨howner.tracked, howner.tracked.live_handedOut hlive, hown, fun found hfound => ?_⟩,
    fun found hfound => ?_, ?_⟩
  · rw [honly found hfound, howner.tracked.key _ _ hlook]
    rcases howner.tracked with ⟨ledger, hledger⟩
    exact ⟨rfl, (hledger.live _ _ hlook).generation.trans hgeneration.symm⟩
  · rw [honly found hfound]
    exact hstate
  · by_contra hsome
    exact (howner.early _ hsome).2 request hlive

theorem IssuedBy.operate (h : reservation.IssuedBy owner) (operation : OwnerOperation) :
    reservation.IssuedBy (owner.operate operation) where
  tracked := h.tracked.operate operation
  handedOut := (h.tracked.operate_frame operation).2.1 _ h.handedOut
  own := by
    rw [(h.tracked.operate_frame operation).1]
    exact h.own
  named := by
    rintro request ⟨⟨t, ht⟩, hid⟩
    rcases (h.tracked.operate_frame operation).2.2 t request ht with
      ⟨old, hold, hsame, hgeneration⟩ | ⟨hne, hnew⟩
    · rw [(h.tracked.operate operation).key t request ht, ← h.tracked.key t old hold,
        ← hgeneration]
      exact h.named old ⟨⟨t, hold⟩, hsame.trans hid⟩
    · exact absurd (hid.symm.trans hnew) (h.handedOut.ne hne)

theorem At.operate {stage : Stage} (h : reservation.At owner stage)
    (hissued : reservation.IssuedBy owner) (operation : OwnerOperation)
    (hmarks : operation.marks reservation.physicalRequestID = false) :
    reservation.At (owner.operate operation) stage :=
  h.progress (TCPConnectionOwner.operate_progress hissued.tracked operation
    (Or.inl hissued.handedOut) hmarks)

theorem At.unmarked {stage : Stage} (h : reservation.At owner stage)
    (hissued : reservation.IssuedBy owner) (hafter : owner.Unmarked after) :
    reservation.IssuedBy after ∧ reservation.At after stage := by
  induction hafter with
  | refl => exact ⟨hissued, h⟩
  | tail _ hstep ih =>
    rcases hstep with ⟨operation, hmarks, rfl⟩
    exact ⟨ih.1.operate operation, ih.2.operate ih.1 operation (hmarks _)⟩

/-- Nothing moves a request out of its last stages. -/
theorem At.operate_last {stage : Stage} (h : reservation.At owner stage)
    (hlast : stage = .settled ∨ stage = .gone) (hissued : reservation.IssuedBy owner)
    (operation : OwnerOperation) : reservation.At (owner.operate operation) stage := by
  by_cases hmarks : operation.marks reservation.physicalRequestID = true
  · rw [TCPConnectionOwner.operate_marked operation hmarks]
    · exact h
    · intro request hlive
      rcases hlast with rfl | rfl
      · rw [h.1 request hlive]
        exact nofun
      · exact absurd hlive (h.1 request)
  · rw [Bool.not_eq_true] at hmarks
    exact h.operate hissued operation hmarks

theorem At.released (htracked : owner.Tracked) {t : UInt16} {request : OwnedRequest}
    (hlook : owner.inFlight.lookup t = some request)
    (hid : request.physicalRequestID = reservation.physicalRequestID)
    (hearly : owner.earlyCompletions.lookup reservation.physicalRequestID = none) :
    reservation.At ((owner.removeInFlight request.transactionID).rewindAllocator
      request.transactionID) .gone := by
  rcases (owner.removeInFlight request.transactionID).rewindAllocator_eq request.transactionID with
    ⟨next, hnext⟩
  rw [hnext]
  exact ⟨htracked.none_live hlook hid (.erase _ _) (AList.lookup_erase _ _), hearly⟩

/-- Nothing is left of a reserved request that its reservation does not find. -/
theorem At.of_refused (h : reservation.At owner .reserved) (hissued : reservation.IssuedBy owner)
    {err : ProtocolError} (herr : owner.requestFor reservation .reserved = .error err) :
    reservation.At owner .gone := by
  refine ⟨fun request hlive => ?_, h.2⟩
  have hfound := hissued.requestFor hlive
  rw [h.1 request hlive, herr] at hfound
  cases hfound

/-- Giving a reserved request back leaves nothing of it, and it only fails where nothing is
    left already. -/
theorem At.cancelBeforeWrite (h : reservation.At owner .reserved)
    (hissued : reservation.IssuedBy owner) :
    reservation.At (owner.cancelBeforeWrite reservation).2 .gone := by
  unfold TCPConnectionOwner.cancelBeforeWrite
  split
  · next err herr => exact h.of_refused hissued herr
  · next request hrequest =>
    rcases (owner.requestFor_ok _ _ _).mp hrequest with ⟨_, _, hlook, hid, _⟩
    exact At.released hissued.tracked hlook hid h.2

theorem markWriteInvoked_refused (h : (owner.markWriteInvoked reservation).1 ≠ none) :
    (owner.markWriteInvoked reservation).2 = owner := by
  unfold TCPConnectionOwner.markWriteInvoked at h ⊢
  split at h
  · rfl
  · exact absurd rfl h

/-- A mark that succeeds moves the request on, and one that fails changes nothing. -/
theorem At.markWriteInvoked (h : reservation.At owner .reserved)
    (hissued : reservation.IssuedBy owner) :
    reservation.At (owner.markWriteInvoked reservation).2
      (if (owner.markWriteInvoked reservation).1 = none then .invoked else .reserved) := by
  unfold TCPConnectionOwner.markWriteInvoked
  split
  · exact h
  · next request hrequest =>
    rcases (owner.requestFor_ok _ _ _).mp hrequest with ⟨_, _, hlook, hid, _⟩
    refine ⟨fun found hlive => ?_, fun hsome => absurd h.2 hsome⟩
    rw [hissued.tracked.live_updated hlook hid found hlive rfl]
    exact nofun

/-- Recording the result of a write settles it. -/
theorem At.recordTransmitUntil (h : reservation.At owner .invoked)
    (hissued : reservation.IssuedBy owner) (result : TransmitResult) (deadline : Duration) :
    reservation.At (owner.recordTransmitUntil reservation result deadline).2.2 .settled := by
  unfold TCPConnectionOwner.recordTransmitUntil
  -- A response may have overtaken the end of the write, and then only its note is left.
  split
  · next t hearly =>
    have hnone := h.2 (by rw [hearly]; exact nofun)
    have hwaiting : ∀ request, owner.Live reservation.physicalRequestID request →
        request.state = .waiting := fun request hlive => absurd hlive (hnone request)
    split
    · exact ⟨hwaiting, Or.inr rfl⟩
    · exact ⟨hwaiting, Or.inl (AList.lookup_erase _ _)⟩
  · next hearly =>
    split
    · next err herr =>
      refine ⟨fun request hlive => ?_, Or.inl hearly⟩
      have hfound := hissued.requestFor hlive
      have hreserved := h.1 request hlive
      cases hstate : request.state with
      | reserved => exact absurd hstate hreserved
      | writeInvoked =>
        rw [hstate, herr] at hfound
        cases hfound
      | waiting => rfl
    · next request hrequest =>
      rcases (owner.requestFor_ok _ _ _).mp hrequest with ⟨_, _, hlook, hid, hinvoked⟩
      have hlost : reservation.At (owner.loseAfterWrite request).2 .settled := by
        unfold TCPConnectionOwner.loseAfterWrite TCPConnectionOwner.addTombstone
        have hnone := fun after hafter => @TCPConnectionOwner.Tracked.none_live owner _
          hissued.tracked after _ request hlook hid hafter
        split_ifs
        · refine ⟨fun found hlive => absurd hlive ?_, Or.inr rfl⟩
          exact hnone _ (owner.remaining_within _) (AList.lookup_erase _ _) found
        · refine ⟨fun found hlive => absurd hlive ?_, Or.inr rfl⟩
          exact hnone _ (owner.remaining_within _) (AList.lookup_erase _ _) found
      cases result with
      | provableZero =>
        exact (At.released hissued.tracked hlook hid hearly).of_gone .settled
      | complete =>
        refine ⟨fun found hlive => ?_, Or.inl hearly⟩
        rw [hissued.tracked.live_updated hlook hid found hlive rfl]
      | partialWrite | indeterminate | cancellationRace | ambiguous => exact hlost

end TCPReservation

end HelianthusModbus
