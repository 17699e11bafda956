import HelianthusModbus.Theory.Delivery

/-!
# Cancelling Before the Write

Cancelling a read before the write is the same as never having asked for it.

A cancellation takes the union of what the others still ask for, moves their slices into it
and has the owner rewrite the reserved read. `CoalescedRead.Remains` says that a group is,
apart from the reads that were cancelled, the group of the reads that are left. One
cancellation drops one read from that list, and nothing else before the write changes it, so
it does not matter in which order the reads went.

## Main definitions

* `CoalescedRead.Remains`: The group of the reads that are left.
* `Exchange.Reserved`: The reservation of the group, if it has one, is not written yet.

## Theorems

* `cancelled_never_asked`: What is left after any cancellations is what coalescing the other
  reads gives.
-/

namespace HelianthusModbus

/-- The view a step cancels. -/
def ExchangeStep.cancels? : ExchangeStep → Option Nat
  | .cancel view => some view
  | _ => none

/-- The group has no reservation, or one whose request is still reserved. -/
def Exchange.Reserved (exchange : Exchange) : Prop :=
  exchange.group.owner = none ∨
    ∃ owned, exchange.owner.requestFor exchange.group.reservation .reserved = .ok owned

/-- A group before its write, as far as its open dependents go the group of some reads. -/
structure CoalescedRead.Remains (base : ReadIntentSpec) (survivors : List ReadIntent)
    (group : CoalescedRead) : Prop where
  live : group.completed = false
  unwritten : group.writeBegun = false
  reads : Coalescible base survivors group.physical
  dependents : (group.dependents.filter fun dependent => dependent.state.active) =
    survivors.map (dependentOf group.physical.offset)

theorem Exchange.Sound.asks {intents : List ReadIntent} {exchange : Exchange}
    (h : Exchange.Sound intents exchange) (hopen : exchange.group.completed = false)
    {owned : OwnedRequest}
    (howned : exchange.owner.requestFor exchange.group.reservation .reserved = .ok owned) :
    owned.kind = .read ∧ owned.read = exchange.group.physical := by
  rcases (exchange.owner.requestFor_ok _ _ owned).mp howned with ⟨_, _, hlook, hid, _⟩
  rw [h.named] at hid
  rcases h.tracked with ⟨ledger, hledger⟩
  rcases (hledger.live _ owned hlook).known with ⟨entry, hentry, _⟩
  have hissued := hledger.issued _ entry hentry
  rw [hid] at hissued
  rcases (h.bound hopen hissued.1).asks _ owned hlook hid with ⟨hkind, hread, _⟩
  exact ⟨hkind, hread⟩

/-- A reserved read is replaced by another of the same function, and stays reserved. -/
theorem TCPConnectionOwner.replaceReservedRead_ok {owner : TCPConnectionOwner}
    (hkey : ∀ t request, owner.inFlight.lookup t = some request → request.transactionID = t)
    {reservation : TCPReservation} {owned : OwnedRequest} {request : ReadRegistersRequest}
    (howned : owner.requestFor reservation .reserved = .ok owned) (hkind : owned.kind = .read)
    (hfunction : owned.read.function = request.function)
    (hvalid : validateReadRegistersRequest request = .ok ()) :
    ∃ after, owner.replaceReservedRead reservation request = (none, after) ∧
      after.requestFor reservation .reserved = .ok { owned with read := request } := by
  rcases (owner.requestFor_ok reservation _ owned).mp howned with
    ⟨howner, hgeneration, hlook, hid, hstate⟩
  refine ⟨owner.updateInFlight { owned with read := request }, ?_, ?_⟩
  · unfold replaceReservedRead
    simp [hvalid, howned, hkind, hfunction]
  · refine (requestFor_ok _ _ _ _).mpr ⟨howner, hgeneration, ?_, hid, hstate⟩
    rw [← hkey _ owned hlook]
    exact AList.lookup_insert _

namespace CoalescedRead.Remains

variable {base : ReadIntentSpec} {survivors : List ReadIntent} {group : CoalescedRead}

theorem others (h : Remains base survivors group) (view : Nat) :
    group.others view = (survivors.filter fun intent => intent.spec.logicalViewID != view).map
      (dependentOf group.physical.offset) := by
  have hfilter := congrArg (List.filter fun dependent => dependent.slice.logicalViewID != view)
    h.dependents
  rw [List.filter_filter, List.filter_map] at hfilter
  rw [CoalescedRead.others, List.filter_congr fun _ _ => Bool.and_comm _ _]
  exact hfilter

theorem find (h : Remains base survivors group) (hsound : group.Sound) {view : Nat}
    (hview : view ∈ survivors.map fun intent => intent.spec.logicalViewID) :
    ∃ dependent, (group.dependents.find? fun dependent =>
      dependent.slice.logicalViewID = view) = some dependent ∧
        dependent.state.active = true := by
  rcases List.mem_map.mp hview with ⟨intent, hintent, rfl⟩
  have hmem : dependentOf group.physical.offset intent ∈
      group.dependents.filter fun dependent => dependent.state.active :=
    h.dependents ▸ List.mem_map_of_mem hintent
  rcases List.mem_filter.mp hmem with ⟨hmem, hactive⟩
  cases hfind : group.dependents.find? fun dependent =>
      dependent.slice.logicalViewID = intent.spec.logicalViewID with
  | none => exact absurd (decide_eq_true rfl) (List.find?_eq_none.mp hfind _ hmem)
  | some dependent =>
    have hsame := List.inj_on_of_nodup_map hsound.views_nodup
      (List.mem_of_find?_eq_some hfind) hmem (of_decide_eq_true (List.find?_some hfind :))
    exact ⟨dependent, rfl, hsame ▸ hactive⟩

/-- Moving the group to the union of what the others ask for. -/
theorem without (h : Remains base survivors group) (hsound : group.Sound) {view : Nat}
    {physical : ReadRegistersRequest}
    (hreads : Coalescible base
      (survivors.filter fun intent => intent.spec.logicalViewID != view) physical) :
    Remains base (survivors.filter fun intent => intent.spec.logicalViewID != view)
      (group.without view (some physical)) := by
  have hmarked := (hsound.filter_markCancelled view).trans (h.others view)
  have hsome : 0 < ((markCancelled view group.dependents).filter fun dependent =>
      dependent.state.active).length := by
    rw [hmarked, List.length_map]
    exact List.length_pos_iff.mpr fun hnone => absurd hreads.spans.lowest (by simp [hnone])
  refine ⟨?_, h.unwritten, hreads, ?_⟩
  · show (group.completed || List.countP _ _ == 0) = false
    rw [h.live, Bool.false_or, beq_eq_false_iff_ne, List.countP_eq_length_filter]
    exact hsome.ne'
  · show ((markCancelled view group.dependents).map _).filter _ = _
    rw [List.filter_map, List.filter_congr fun dependent _ => ?same, hmarked, List.map_map]
    case same =>
      rw [Function.comp_apply]
      split <;> rfl
    rfl

/-- A cancellation before the write succeeds as long as another read is left. -/
theorem cancel {intents : List ReadIntent} {exchange : Exchange}
    (h : Remains base survivors exchange.group) (hsound : Exchange.Sound intents exchange)
    (hreserved : exchange.Reserved) {view : Nat}
    (hview : view ∈ survivors.map fun intent => intent.spec.logicalViewID)
    (hothers : (survivors.filter fun intent => intent.spec.logicalViewID != view) ≠ []) :
    (exchange.group.cancelLocked view exchange.owner).1.err = none ∧
      Remains base (survivors.filter fun intent => intent.spec.logicalViewID != view)
        (exchange.step (.cancel view)).group ∧ (exchange.step (.cancel view)).Reserved := by
  rcases h.find hsound.group hview with ⟨dependent, hfind, hactive⟩
  rcases h.reads.part (List.filter_sublist.subset) hothers
    (h.reads.views.sublist (List.filter_sublist.map _)) with ⟨physical, hreads⟩
  have hphysical : exchange.group.physicalWithoutLogical view = .ok physical := by
    refine (hsound.group.physicalWithoutLogical_iff view physical).mpr
      ⟨?_, hreads.function.trans h.reads.function.symm, hreads.valid⟩
    rw [h.others view, List.map_map]
    exact hreads.spans
  -- The cancelled dependent is not the last active one, so the group goes on.
  have hmore : exchange.group.activeDependentCount - 1 > 0 := by
    have hcount := countP_markCancelled view exchange.group.dependents dependent hfind hactive
    rw [List.countP_eq_length_filter, hsound.group.filter_markCancelled, h.others view,
      List.length_map] at hcount
    have hleft := List.length_pos_iff.mpr hothers
    unfold activeDependentCount
    omega
  have hrest := h.without hsound.group hreads
  unfold Exchange.step cancelLocked Exchange.Reserved
  simp only [h.live, Bool.false_eq_true, if_false, hfind, hactive, h.unwritten, hmore, and_self,
    if_true, hphysical]
  -- A group that no owner holds is only narrowed; otherwise its owner replaces the read.
  by_cases hnone : exchange.group.owner = none
  · simp only [hnone, Option.isSome_none, Bool.false_eq_true, if_false]
    exact ⟨rfl, hrest, Or.inl hnone⟩
  · rcases hreserved with hfree | ⟨owned, howned⟩
    · exact absurd hfree hnone
    rcases hsound.asks h.live howned with ⟨hkind, hread⟩
    rcases TCPConnectionOwner.replaceReservedRead_ok hsound.tracked.key howned hkind
      (hread ▸ h.reads.function.trans hreads.function.symm) hreads.valid with ⟨after, hok, hafter⟩
    simp only [Option.isSome_iff_ne_none.mpr hnone, if_true, hok]
    exact ⟨rfl, hrest, Or.inr ⟨_, hafter⟩⟩

theorem bind (h : Remains base survivors group) (reservation : TCPReservation)
    (owner : TCPConnectionOwner) :
    Remains base survivors (group.bindReservation reservation owner).2 := by
  unfold bindReservation
  split
  · exact h
  split
  · exact h
  · exact ⟨h.live, h.unwritten, h.reads, h.dependents⟩

end CoalescedRead.Remains

open CoalescedRead (Remains)

/-- What holds whenever a run cancels a view, said of the steps before. -/
def AtCancels (steps : List ExchangeStep) (P : List ExchangeStep → Nat → Prop) : Prop :=
  ∀ done view rest, steps = done ++ .cancel view :: rest → P done view

theorem atCancels_cons {step : ExchangeStep} {rest : List ExchangeStep}
    {P : List ExchangeStep → Nat → Prop} :
    AtCancels (step :: rest) P ↔ (∀ view, step = .cancel view → P [] view) ∧
      AtCancels rest fun done => P (step :: done) := by
  refine ⟨fun h => ⟨?_, ?_⟩, ?_⟩
  · rintro view rfl
    exact h [] view rest rfl
  · rintro done view tail rfl
    exact h (step :: done) view tail rfl
  · rintro ⟨hfirst, hrest⟩ done view tail heq
    cases done with
    | nil => exact hfirst view (List.cons.inj heq).1
    | cons first done =>
      rcases List.cons.inj heq with ⟨rfl, htail⟩
      exact hrest done view tail htail

/-- The cancellations of a run without a write succeed one after another. -/
theorem Exchange.Sound.remains {intents : List ReadIntent} {base : ReadIntentSpec}
    (steps : List ExchangeStep) {survivors : List ReadIntent} {exchange : Exchange}
    (h : Exchange.Sound intents exchange) (hremains : Remains base survivors exchange.group)
    (hunwritten : ∀ transport generation refused, .write transport generation refused ∉ steps)
    (honce : (steps.filterMap ExchangeStep.cancels?).Nodup)
    (hknown : ∀ view ∈ steps.filterMap ExchangeStep.cancels?,
      view ∈ survivors.map fun intent => intent.spec.logicalViewID)
    (hproper : ∃ intent ∈ survivors,
      intent.spec.logicalViewID ∉ steps.filterMap ExchangeStep.cancels?)
    (hreserved : AtCancels steps fun done _ => (exchange.run done).Reserved) :
    AtCancels steps (fun done view =>
      ((exchange.run done).group.cancelLocked view (exchange.run done).owner).1.err = none ∧
        (exchange.run (done ++ [.cancel view])).Reserved) ∧
      Remains base (survivors.filter fun intent =>
        intent.spec.logicalViewID ∉ steps.filterMap ExchangeStep.cancels?)
        (exchange.run steps).group := by
  -- By induction on the steps: a cancellation takes its read out of those that remain, and the
  -- other steps leave them alone.
  induction steps generalizing survivors exchange with
  | nil =>
    exact ⟨fun done view rest heq => absurd heq (by simp), by simpa [Exchange.run] using hremains⟩
  | cons step rest ih =>
    rw [atCancels_cons] at hreserved ⊢
    have hlater := fun transport generation refused hmem =>
      hunwritten transport generation refused (List.mem_cons_of_mem step hmem)
    cases step with
    | write transport generation refused =>
      exact absurd List.mem_cons_self (hunwritten transport generation refused)
    | bind reservation =>
      rcases ih (h.step _) (hremains.bind reservation exchange.owner) hlater honce hknown
        hproper hreserved.2 with ⟨hall, hend⟩
      exact ⟨⟨nofun, hall⟩, hend⟩
    | other call =>
      have hsame : (exchange.step (.other call)).group = exchange.group := by
        simp only [Exchange.step]
        split <;> rfl
      rcases ih (h.step _) (hsame ▸ hremains) hlater honce hknown hproper hreserved.2 with
        ⟨hall, hend⟩
      exact ⟨⟨nofun, hall⟩, hend⟩
    | cancel view =>
      have hviews : (ExchangeStep.cancel view :: rest).filterMap ExchangeStep.cancels? =
          view :: rest.filterMap ExchangeStep.cancels? := rfl
      rw [hviews] at honce hknown hproper ⊢
      rw [List.nodup_cons] at honce
      rcases hproper with ⟨intent, hintent, hleft⟩
      rw [List.mem_cons, not_or] at hleft
      have hleft' : intent ∈ survivors.filter fun intent =>
          intent.spec.logicalViewID != view :=
        List.mem_filter.mpr ⟨hintent, bne_iff_ne.mpr hleft.1⟩
      rcases hremains.cancel h (hreserved.1 view rfl) (hknown view List.mem_cons_self)
        (List.ne_nil_of_mem hleft') with ⟨herr, hnext, hstill⟩
      -- A view that is cancelled later is another one, so its read is still there.
      have hothers : ∀ other ∈ rest.filterMap ExchangeStep.cancels?, other ∈
          (survivors.filter fun intent => intent.spec.logicalViewID != view).map
            fun intent => intent.spec.logicalViewID := by
        intro other hother
        rcases List.mem_map.mp (hknown other (List.mem_cons_of_mem _ hother)) with
          ⟨one, hone, rfl⟩
        refine List.mem_map_of_mem (List.mem_filter.mpr ⟨hone, bne_iff_ne.mpr ?_⟩)
        rintro rfl
        exact honce.1 hother
      rcases ih (h.step _) hnext hlater honce.2 hothers ⟨intent, hleft', hleft.2⟩
        hreserved.2 with ⟨hall, hend⟩
      refine ⟨⟨?_, hall⟩, ?_⟩
      · rintro _ ⟨⟩
        exact ⟨herr, hstill⟩
      · rw [List.filter_filter] at hend
        rw [List.filter_congr fun one _ => Bool.eq_iff_iff.mpr ?_]
        · exact hend
        · simp [not_or, and_comm]

/-- Cancelling before the write is the same as never having asked. Take any intents that
    coalesce and any history of the group and its owner without a write that cancels some
    views, but not all, each one while the group has no reservation or one that is still
    reserved. Every cancellation succeeds and leaves the reservation reserved, and in the end
    the physical request, the slices of the others and the reserved read are those of a group
    of the other intents alone, whatever the order. -/
theorem cancelled_never_asked (intents : List ReadIntent) (maxDependents : Int)
    (group : CoalescedRead) (hgroup : coalesceReads intents maxDependents = .ok group)
    (endpoint : String) (generation : Nat) (limits : ConnectionLimits)
    (owner : TCPConnectionOwner)
    (hnew : newTCPConnectionOwner endpoint generation limits = .ok owner) (connectionID : Nat)
    (pooled : Bool) (steps : List ExchangeStep)
    (hunwritten : ∀ transport generation refused, .write transport generation refused ∉ steps)
    (honce : (steps.filterMap ExchangeStep.cancels?).Nodup)
    (hknown : ∀ view ∈ steps.filterMap ExchangeStep.cancels?,
      view ∈ intents.map fun intent => intent.spec.logicalViewID)
    (hproper : ∃ intent ∈ intents,
      intent.spec.logicalViewID ∉ steps.filterMap ExchangeStep.cancels?) :
    let start : Exchange :=
      { owner := { owner with connectionID := connectionID, pooled := pooled }, group := group }
    let reached := start.run steps
    AtCancels steps (fun done _ => (start.run done).Reserved) →
      AtCancels steps (fun done view =>
        ((start.run done).group.cancelLocked view (start.run done).owner).1.err = none ∧
          (start.run (done ++ [.cancel view])).Reserved) ∧
      ∃ fresh, coalesceReads (intents.filter fun intent =>
          intent.spec.logicalViewID ∉ steps.filterMap ExchangeStep.cancels?) maxDependents =
            .ok fresh ∧
        reached.group.physical = fresh.physical ∧
        (reached.group.dependents.filter fun dependent => dependent.state.active) =
          fresh.dependents ∧
        ∀ owned, reached.owner.requestFor reached.group.reservation .reserved = .ok owned →
          owned.kind = .read ∧ owned.read = fresh.physical := by
  intro start reached hreserved
  rcases (coalesceReads_iff _ _ _).mp hgroup with ⟨hwithin, first, _, physical, hreads, rfl⟩
  have hsound : Exchange.Sound intents start :=
    Exchange.start_sound intents maxDependents _ hgroup _
      (newTCPConnectionOwner_tracked hnew connectionID pooled)
  have hstart : Remains first.spec intents start.group := by
    refine ⟨rfl, rfl, hreads, List.filter_eq_self.mpr fun dependent hmem => ?_⟩
    rcases List.mem_map.mp hmem with ⟨intent, _, rfl⟩
    rfl
  rcases hsound.remains steps hstart hunwritten honce hknown hproper hreserved with
    ⟨hall, hremains⟩
  refine ⟨hall, _, hremains.reads.coalesceReads ⟨hwithin.1, hwithin.2.1, ?_⟩, rfl,
    hremains.dependents, fun owned howned => (hsound.run steps).asks hremains.live howned⟩
  have hlength := List.length_filter_le (fun intent =>
    decide (intent.spec.logicalViewID ∉ steps.filterMap ExchangeStep.cancels?)) intents
  have hmax := hwithin.2.2
  omega

/-- Two views are cancelled after the group was bound. -/
def reservedCancels : List ExchangeStep := shrinkingSteps.take 3 ++ [.cancel 3]

theorem cancelled_never_asked_reserved :
    ∃ fresh, coalesceReads (overlappingIntents.filter fun intent =>
        intent.spec.logicalViewID ∉ reservedCancels.filterMap ExchangeStep.cancels?) 8 =
          .ok fresh ∧
      (Exchange.run { owner := { deliveryOwner with connectionID := 7, pooled := true }
                      group := overlappingGroup } reservedCancels).group.physical =
        fresh.physical := by
  have hcancelled := cancelled_never_asked overlappingIntents 8 overlappingGroup
    (by decide +kernel) "endpoint" 1 { maxInFlight := 2, maxTombstones := 2 } deliveryOwner rfl 7
    true reservedCancels (by simp [reservedCancels, shrinkingSteps]) (by decide) (by decide)
    (by decide)
  refine (hcancelled ?_).2.imp fun fresh hfresh => ⟨hfresh.1, hfresh.2.1⟩
  simp only [reservedCancels, shrinkingSteps, List.take, List.cons_append, List.nil_append,
    atCancels_cons]
  refine ⟨nofun, nofun, fun _ _ => Or.inr ⟨_, rfl⟩, fun _ _ => Or.inr ⟨_, rfl⟩, ?_⟩
  exact fun done _ _ heq => absurd heq (by simp)

end HelianthusModbus
