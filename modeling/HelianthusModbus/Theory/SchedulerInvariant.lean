import HelianthusModbus.Theory.Accounting
import HelianthusModbus.Theory.ServiceOrder

/-!
# The Scheduler's Invariant

`Exact` joins what the previous modules say about a scheduler: the accounts agree,
the order lists name the active keys, the limits hold, and no active key is empty.
Every operation of the scheduler preserves it, and none of them ends in one of its
accounting failures.

An operation works on one key in three phases. It opens the key if it is not
active, changes the state of the key together with the entries, and closes the key
again if nothing is left under it. Between the phases the key may be empty, so the
invariant carries the name of a key that is excused. `Exact.openKey`,
`Exact.write` and `Exact.releaseIfEmpty` are the three phases, and each operation
is proved by naming its second one.

## Main definitions

* `EndpointScheduler.Live`: No active key is empty, up to one.
* `EndpointScheduler.Exact`: The invariant.

## Theorems

* `EndpointScheduler.Exact.enqueueLocked`, `Exact.scheduleCoalescedLocked`,
  `Exact.releaseCoalescedDependents`, `Exact.expireLocked`, `Exact.cancelQueued`,
  `Exact.retry`, `Exact.complete`, `Exact.finishCoalesced`: Every operation keeps it,
  reports no accounting failure, and only takes members out of the rings.
-/

namespace HelianthusModbus

namespace EndpointScheduler

/-- Nothing is left under a key. -/
def IsEmpty (state : AdmissionState) : Prop :=
  state.queue = [] ∧ state.inFlight = 0 ∧ state.dependents = 0

/-- Every active key, with the possible exception of one, holds something. -/
def Live (loose : Option AdmissionKey) (scheduler : EndpointScheduler) : Prop :=
  ∀ key state, scheduler.keys.lookup key = some state → loose ≠ some key → ¬ IsEmpty state

/-- Everything the scheduler keeps agrees and stays within its limits. -/
structure Exact (active : AdmissionKey → Nat) (loose : Option AdmissionKey)
    (scheduler : EndpointScheduler) : Prop where
  accepted : scheduler.limits.Accepted
  accounts : Accounts active scheduler.books
  orders : Orders scheduler
  live : Live loose scheduler
  capacity : WithinCapacity scheduler

variable {active : AdmissionKey → Nat} {scheduler : EndpointScheduler}

/-- A key may take more slots: the check granted them, or the key is active and there are
    none to take. -/
def MayTake (scheduler : EndpointScheduler) (key : AdmissionKey) (count : Int) : Prop :=
  Granted scheduler key count ∨ count = 0 ∧ (scheduler.keys.lookup key).isSome = true

namespace MayTake

variable {key : AdmissionKey} {count : Int} (h : MayTake scheduler key count)
include h

theorem room : (scheduler.keys.lookup key).isSome = true ∨
    scheduler.activeKeys < scheduler.limits.maxActiveAdmissionKeys := by
  rcases h with hgranted | ⟨_, hactive⟩
  · exact hgranted.room
  · exact Or.inl hactive

theorem perKey (capacity : WithinCapacity scheduler) :
    (scheduler.stateOf key).occupied + count ≤ scheduler.limits.maxQueuedPerKey := by
  rcases h with hgranted | ⟨rfl, _⟩
  · exact hgranted.perKey
  · rw [Int.add_zero]
    exact capacity.per_key key

theorem scope (capacity : WithinCapacity scheduler) :
    scheduler.scopeOccupied key.authorizationScope + count ≤
      scheduler.limits.maxQueuedPerAuthorizationScope := by
  rcases h with hgranted | ⟨rfl, _⟩
  · exact hgranted.scope
  · rw [Int.add_zero]
    exact capacity.scope_le key.authorizationScope

theorem shared (accepted : scheduler.limits.Accepted) (capacity : WithinCapacity scheduler)
    (state : AdmissionState)
    (hoccupied : state.occupied ≤ (scheduler.stateOf key).occupied + count) :
    scheduler.sharedByOthers key + excess scheduler.limits.protectedSlotsPerKey state +
      scheduler.limits.maxActiveAdmissionKeys * scheduler.limits.protectedSlotsPerKey ≤
        scheduler.limits.totalQueued := by
  have hshared := capacity.shared_le
  have hsplit := scheduler.sharedOccupied_split key accepted.slots_pos
  unfold excess at hsplit ⊢
  -- Below its protected slots a key takes nothing of the shared part; above them the reservation
  -- of the check is exactly the new use of it.
  rcases h with hgranted | ⟨rfl, _⟩
  · have hreserve := hgranted.reserve
    rw [promised, Int.sub_mul, Int.one_mul] at hreserve
    omega
  · omega

end MayTake

theorem sum_setKey (scheduler after : EndpointScheduler) (key : AdmissionKey)
    (state : AdmissionState) (hkeys : after.keys = scheduler.keys.insert key state)
    (f : AdmissionKey → AdmissionState → Int) (hf : f key {} = 0) :
    Table.sum f after.keys =
      Table.sum f scheduler.keys - f key (scheduler.stateOf key) + f key state := by
  have hsum := Table.sum_insert f scheduler.keys key state
  rw [scheduler.elim_lookup key (f key) hf] at hsum
  rw [hkeys]
  omega

/-- The bounds after a key was written that takes no more slots than it may. -/
theorem WithinCapacity.setKey (h : WithinCapacity scheduler)
    (accepted : scheduler.limits.Accepted) (after : EndpointScheduler) {key : AdmissionKey}
    {count : Int} (hslots : MayTake scheduler key count) (state : AdmissionState)
    (hkeys : after.keys = scheduler.keys.insert key state)
    (hlimits : after.limits = scheduler.limits)
    (hnonneg : 0 ≤ state.queued ∧ 0 ≤ state.dependents)
    (hoccupied : state.occupied ≤ (scheduler.stateOf key).occupied + count)
    (hdependents : state.dependents ≤ scheduler.limits.maxCoalescedDependentsPerKey)
    (hinFlight : after.inFlight ≤ scheduler.limits.maxInFlightRequests) :
    WithinCapacity after := by
  -- The first four bounds are about each key on its own.
  have hstates (p : AdmissionState → Prop) (hold : ∀ key', p (scheduler.stateOf key'))
      (hnew : p state) (key' : AdmissionKey) : p (after.stateOf key') := by
    have heq : after.stateOf = (scheduler.setKey key state).stateOf := by
      unfold stateOf
      rw [hkeys]
      rfl
    rw [heq, stateOf_setKey_eq]
    exact (Function.forall_update_iff scheduler.stateOf (fun _ => p)).mpr
      ⟨hnew, fun key' _ => hold key'⟩ key'
  constructor
  case queued_nonneg => exact hstates (0 ≤ ·.queued) h.queued_nonneg hnonneg.1
  case dependents_nonneg => exact hstates (0 ≤ ·.dependents) h.dependents_nonneg hnonneg.2
  case per_key =>
    rw [hlimits]
    exact hstates (·.occupied ≤ _) h.per_key (hoccupied.trans (hslots.perKey h))
  case dependents_le =>
    rw [hlimits]
    exact hstates (·.dependents ≤ _) h.dependents_le hdependents
  case keys_le =>
    have hcount := Table.sum_insert (fun _ _ => (1 : Int)) scheduler.keys key state
    rw [Table.sum_const, Table.sum_const] at hcount
    simp only [nsmul_eq_mul, mul_one] at hcount
    have hkeysLe := h.keys_le
    have hroom := hslots.room
    unfold activeKeys at hkeysLe hroom ⊢
    rw [hkeys, hlimits]
    cases hlook : scheduler.keys.lookup key with
    | none =>
      rw [hlook, Option.elim_none] at hcount
      have hless := hroom.resolve_left (by rw [hlook]; nofun)
      omega
    | some old =>
      rw [hlook, Option.elim_some] at hcount
      omega
  case scope_le =>
    intro scope
    have hsum := sum_setKey scheduler after key state hkeys (fun key state =>
      if key.authorizationScope = scope then state.occupied else 0)
      (by split <;> rfl)
    have hold := h.scope_le scope
    have hscope := hslots.scope h
    unfold scopeOccupied at hold hscope ⊢
    rw [hsum, hlimits]
    by_cases hsame : key.authorizationScope = scope
    · rw [hsame] at hscope
      rw [if_pos hsame, if_pos hsame]
      omega
    · rw [if_neg hsame, if_neg hsame]
      omega
  case shared_le =>
    have hsum := sum_setKey scheduler after key state hkeys
      (fun _ state => excess scheduler.limits.protectedSlotsPerKey state)
      (excess_empty _ accepted.slots_pos)
    have hsplit := scheduler.sharedOccupied_split key accepted.slots_pos
    have hshared := hslots.shared accepted h state hoccupied
    unfold sharedOccupied at hsplit ⊢
    rw [hlimits, hsum]
    omega
  case inFlight_le => rw [hlimits]; exact hinFlight

/-- The bounds do not depend on which keys are active but empty, as long as there
    are not too many. -/
theorem WithinCapacity.of_sums (h : WithinCapacity scheduler)
    (accepted : scheduler.limits.Accepted) (after : EndpointScheduler)
    (hlimits : after.limits = scheduler.limits) (hbooks : after.books = scheduler.books)
    (hsum : ∀ f : AdmissionKey → AdmissionState → Int, (∀ key, f key {} = 0) →
      Table.sum f after.keys = Table.sum f scheduler.keys)
    (hkeys : after.activeKeys ≤ scheduler.limits.maxActiveAdmissionKeys) :
    WithinCapacity after := by
  have hstates : after.stateOf = scheduler.stateOf := congrArg Books.states hbooks
  have hinFlight : after.inFlight = scheduler.inFlight := congrArg Books.inFlight hbooks
  constructor
  case queued_nonneg => rw [hstates]; exact h.queued_nonneg
  case dependents_nonneg => rw [hstates]; exact h.dependents_nonneg
  case per_key => rw [hstates, hlimits]; exact h.per_key
  case dependents_le => rw [hstates, hlimits]; exact h.dependents_le
  case keys_le => rw [hlimits]; exact hkeys
  case scope_le =>
    intro scope
    rw [hlimits]
    refine (hsum _ (fun key => ?_)).trans_le (h.scope_le scope)
    split <;> rfl
  case shared_le =>
    have hold := h.shared_le
    have hnew := hsum (fun _ state => excess scheduler.limits.protectedSlotsPerKey state)
      (fun _ => excess_empty _ accepted.slots_pos)
    unfold sharedOccupied at hold ⊢
    rw [hlimits, hnew]
    exact hold
  case inFlight_le => rw [hinFlight, hlimits]; exact h.inFlight_le

section Opening

variable (scheduler : EndpointScheduler) (key : AdmissionKey)

theorem forgetOrder_eq :
    (scheduler.forgetOrder key).keys = scheduler.keys ∧
      (scheduler.forgetOrder key).books = scheduler.books := by
  unfold forgetOrder
  dsimp only
  split
  · exact ⟨rfl, rfl⟩
  · split
    · exact ⟨rfl, rfl⟩
    · split <;> exact ⟨rfl, rfl⟩

theorem openKey_fst : (scheduler.openKey key).1 = scheduler.stateOf key := by
  unfold openKey stateOf
  cases scheduler.keys.lookup key with
  | none => rfl
  | some state => rfl

theorem openKey_limits : (scheduler.openKey key).2.limits = scheduler.limits := by
  unfold openKey
  cases scheduler.keys.lookup key with
  | none => rfl
  | some state => rfl

theorem openKey_active : ((scheduler.openKey key).2.keys.lookup key).isSome := by
  unfold openKey
  cases hlook : scheduler.keys.lookup key with
  | none =>
    have hopened : AList.lookup key (scheduler.keys.insert key {}) = some {} :=
      (Table.lookup_insert_ite scheduler.keys key key {}).trans (if_pos rfl)
    exact Option.isSome_iff_exists.mpr ⟨_, hopened⟩
  | some state =>
    dsimp only
    rw [hlook, Option.isSome_some]

theorem openKey_of_active (hactive : (scheduler.keys.lookup key).isSome) :
    (scheduler.openKey key).2 = scheduler := by
  unfold openKey
  cases hlook : scheduler.keys.lookup key with
  | none => rw [hlook] at hactive; cases hactive
  | some state => rfl

/-- Opening a key does not show in the key table once the key is written. -/
theorem openKey_insert (state : AdmissionState) :
    (scheduler.openKey key).2.keys.insert key state = scheduler.keys.insert key state := by
  unfold openKey
  cases scheduler.keys.lookup key with
  | none => exact AList.insert_insert _
  | some old => rfl

end Opening

theorem Live.excuse (h : Live none scheduler) (key : AdmissionKey) : Live (some key) scheduler :=
  fun key' state hstate _ => h key' state hstate nofun

/-- One scheduler differs from another in the state of one key, the entries, the
    groups and the counters, but in nothing that serves the order. -/
def Rewritten (scheduler : EndpointScheduler) (key : AdmissionKey) (state : AdmissionState)
    (after : EndpointScheduler) : Prop :=
  ∃ entries coalesced inFlight nextSequence, after =
    { scheduler.setKey key state with
      entries := entries, coalesced := coalesced
      inFlight := inFlight, nextSequence := nextSequence }

theorem lookup_of_ne (scheduler : EndpointScheduler) (key : AdmissionKey)
    (hne : scheduler.stateOf key ≠ {}) :
    scheduler.keys.lookup key = some (scheduler.stateOf key) := by
  unfold stateOf at hne ⊢
  cases hlook : scheduler.keys.lookup key with
  | none => rw [hlook] at hne; exact absurd rfl hne
  | some state => rfl

theorem lookup_of_queued (scheduler : EndpointScheduler) (key : AdmissionKey)
    (entry : ScheduledEntry) (hmem : entry ∈ (scheduler.stateOf key).queue) :
    scheduler.keys.lookup key = some (scheduler.stateOf key) := by
  refine scheduler.lookup_of_ne key fun hempty => ?_
  rw [hempty] at hmem
  cases hmem

theorem lookup_of_inFlight (scheduler : EndpointScheduler) (key : AdmissionKey)
    (hpos : 0 < (scheduler.stateOf key).inFlight) :
    scheduler.keys.lookup key = some (scheduler.stateOf key) := by
  refine scheduler.lookup_of_ne key fun hempty => ?_
  rw [hempty] at hpos
  exact Int.lt_irrefl 0 hpos

/-- The state of a key with an entry at the end of its queue. -/
def enlisted (state : AdmissionState) (entry : ScheduledEntry) : AdmissionState :=
  { state with queue := state.queue ++ [entry], queued := state.queued + entry.admissionWeight }

/-- The state of a key with an entry out of its queue. -/
def struck (state : AdmissionState) (entry : ScheduledEntry) : AdmissionState :=
  { state with queue := state.queue.erase entry, queued := state.queued - entry.admissionWeight }

/-- The scheduler with an in-flight slot of a key given back. -/
def released (scheduler : EndpointScheduler) (key : AdmissionKey) : EndpointScheduler :=
  { scheduler.setKey key
      { scheduler.stateOf key with inFlight := (scheduler.stateOf key).inFlight - 1 } with
    inFlight := scheduler.inFlight - 1 }

section Rewriting

variable {key : AdmissionKey} {state : AdmissionState} {after : EndpointScheduler}
  (h : Rewritten scheduler key state after)
include h

theorem Rewritten.opened (hactive : (scheduler.keys.lookup key).isSome) :
    Rewritten (scheduler.openKey key).2 key state after := by
  rw [scheduler.openKey_of_active _ hactive]
  exact h

/-- Rewriting an active key leaves the rings alone. -/
theorem Rewritten.shrinks (horders : Orders scheduler)
    (hactive : (scheduler.keys.lookup key).isSome) : Shrinks scheduler after := by
  obtain ⟨_, _, _, _, rfl⟩ := h
  have hset := horders.setKey key state hactive
  exact hset.trans (hset.orders.same (fun _ => rfl) rfl rfl rfl rfl rfl)

omit h in
/-- Rewriting a key twice is rewriting it once. -/
theorem Rewritten.again {key : AdmissionKey} {state state' : AdmissionState}
    {middle after : EndpointScheduler} (h : Rewritten scheduler key state middle)
    (h' : Rewritten middle key state' after) : Rewritten scheduler key state' after := by
  obtain ⟨_, _, _, _, rfl⟩ := h
  obtain ⟨entries, coalesced, inFlight, nextSequence, rfl⟩ := h'
  refine ⟨entries, coalesced, inFlight, nextSequence, ?_⟩
  simp [EndpointScheduler.setKey]

theorem Rewritten.stateOf_eq : after.stateOf key = state := by
  obtain ⟨_, _, _, _, rfl⟩ := h
  exact scheduler.stateOf_setKey_same key state

end Rewriting

namespace Exact

theorem excuse (h : Exact active none scheduler) (key : AdmissionKey) :
    Exact active (some key) scheduler :=
  { h with live := h.live.excuse key }

section Phases

variable (key : AdmissionKey) (h : Exact active (some key) scheduler)
include h

/-- The first phase: the key is active, and the books have not changed. -/
theorem openKey (hroom : (scheduler.keys.lookup key).isSome = true ∨
      scheduler.activeKeys < scheduler.limits.maxActiveAdmissionKeys) :
    Exact active (some key) (scheduler.openKey key).2 ∧
      (scheduler.openKey key).2.books = scheduler.books := by
  unfold EndpointScheduler.openKey
  -- Only a key that was not active is written, and it is written empty.
  cases hlook : scheduler.keys.lookup key with
  | some state => exact ⟨h, rfl⟩
  | none =>
    dsimp only
    have hempty := scheduler.stateOf_none key hlook
    have hstates : ((scheduler.setKey key {}).rememberOrder key).stateOf =
        scheduler.stateOf := by
      refine (scheduler.stateOf_setKey_eq key {}).trans ?_
      rw [← hempty, Function.update_eq_self]
    have hbooks : ((scheduler.setKey key {}).rememberOrder key).books = scheduler.books := by
      unfold books
      rw [hstates]
      rfl
    refine ⟨⟨h.accepted, ?_, (h.orders.opened key {} hlook).2, ?_, ?_⟩, hbooks⟩
    · rw [hbooks]
      exact h.accounts
    · intro key' state hstate hloose
      have hne : key' ≠ key := fun heq => hloose (by rw [heq])
      refine h.live key' state ?_ hloose
      rw [← hstate]
      exact ((Table.lookup_insert_ite scheduler.keys key key' {}).trans (if_neg hne)).symm
    · refine h.capacity.of_sums h.accepted _ rfl hbooks (fun f hf => ?_) ?_
      · -- An empty key adds nothing to any sum over the keys.
        have := sum_setKey scheduler ((scheduler.setKey key {}).rememberOrder key) key {} rfl
          f (hf key)
        rw [hempty, hf key] at this
        omega
      · have hinsert := Table.sum_insert (fun _ _ => (1 : Int)) scheduler.keys key {}
        rw [Table.sum_const, Table.sum_const, hlook, Option.elim_none] at hinsert
        simp only [nsmul_eq_mul, mul_one, Int.add_zero] at hinsert
        have hless := hroom.resolve_left (by rw [hlook]; nofun)
        have hcount : ((scheduler.setKey key {}).rememberOrder key).activeKeys =
            scheduler.activeKeys + 1 := hinsert
        omega

/-- Taking an empty key out of the key table, whatever happens to the orders. -/
theorem close (hactive : (scheduler.keys.lookup key).isSome) (hempty : scheduler.stateOf key = {})
    (after : EndpointScheduler) (hbooks : after.books = scheduler.books)
    (hkeys : after.keys = scheduler.keys.erase key) (hshrinks : Shrinks scheduler after) :
    Exact active none after ∧ after.books = scheduler.books ∧ Shrinks scheduler after := by
  refine ⟨⟨by rw [hshrinks.limits]; exact h.accepted, by rw [hbooks]; exact h.accounts,
    hshrinks.orders, ?_, ?_⟩, hbooks, hshrinks⟩
  · intro key' state hstate _
    rw [hkeys, Table.lookup_erase_ite] at hstate
    split at hstate
    · cases hstate
    · next hne => exact h.live key' state hstate (fun heq => hne (Option.some.inj heq).symm)
  · refine h.capacity.of_sums h.accepted after hshrinks.limits hbooks (fun f hf => ?_) ?_
    · have herase := Table.sum_erase f scheduler.keys key
      rw [scheduler.elim_lookup key (f key) (hf key), hempty, hf key, Int.add_zero] at herase
      rw [hkeys, herase]
    · have hsplit := scheduler.activeKeys_split key
      have hold := h.capacity.keys_le
      rw [if_pos hactive] at hsplit
      rw [activeKeys, hkeys]
      omega

/-- The last phase: the key is closed if nothing is left under it. -/
theorem releaseIfEmpty :
    Exact active none (scheduler.releaseIfEmpty key) ∧
      (scheduler.releaseIfEmpty key).books = scheduler.books ∧
      Shrinks scheduler (scheduler.releaseIfEmpty key) := by
  unfold EndpointScheduler.releaseIfEmpty
  cases hlook : scheduler.keys.lookup key with
  | none =>
    -- A key that is not active needs no excuse.
    refine ⟨{ h with live := ?_ }, rfl, h.orders.refl⟩
    intro key' state hstate _
    refine h.live key' state hstate ?_
    intro heq
    rw [← Option.some.inj heq, hlook] at hstate
    cases hstate
  | some state =>
    dsimp only
    split
    · next hempty =>
      have hstate := scheduler.stateOf_some key state hlook
      have hzero : state = {} := by
        -- The queued count of an empty queue is zero.
        have hqueued := h.accounts.queued_eq key
        have hview : scheduler.books.states key = state := hstate
        rw [hview, hempty.1] at hqueued
        obtain ⟨queue, queued, inFlight, dependents⟩ := state
        obtain ⟨rfl, rfl, rfl⟩ := hempty
        simp only [List.map_nil, List.sum_nil] at hqueued
        rw [hqueued]
      have hstates : ({ scheduler with keys := scheduler.keys.erase key } :
          EndpointScheduler).stateOf = scheduler.stateOf := by
        funext key'
        unfold stateOf
        rw [Table.lookup_erase_ite]
        by_cases hkey : key' = key
        · rw [if_pos hkey, hkey, hlook, Option.getD_none, Option.getD_some, hzero]
        · rw [if_neg hkey]
      have hactive : (scheduler.keys.lookup key).isSome := by rw [hlook, Option.isSome_some]
      refine h.close key hactive (hstate.trans hzero) _ ?_ ?_ (h.orders.closed hactive)
      · rw [(forgetOrder_eq _ key).2]
        unfold books
        rw [hstates]
      · exact (forgetOrder_eq _ key).1
    · next hnonempty =>
      refine ⟨{ h with live := ?_ }, rfl, h.orders.refl⟩
      intro key' state' hstate _
      by_cases hkey : key' = key
      · rw [hkey, hlook] at hstate
        cases hstate
        exact hnonempty
      · exact h.live key' state' hstate (fun heq => hkey (Option.some.inj heq).symm)

/-- The second phase: a key is written together with the entries, the groups and the
    in-flight count, and takes no more than the slots it may take. -/
theorem write (count : Int) (hslots : MayTake scheduler key count) (state : AdmissionState)
    (after : EndpointScheduler) (active' : AdmissionKey → Nat)
    (hafter : Rewritten (scheduler.openKey key).2 key state after)
    (haccounts : Accounts active' after.books)
    (hoccupied : state.occupied ≤ (scheduler.stateOf key).occupied + count)
    (hdependents : state.dependents ≤ scheduler.limits.maxCoalescedDependentsPerKey)
    (hinFlight : after.inFlight ≤ scheduler.limits.maxInFlightRequests) :
    Exact active' (some key) after ∧ Shrinks (scheduler.openKey key).2 after := by
  have hopened := h.openKey key hslots.room
  have hshrinks := hafter.shrinks hopened.1.orders (scheduler.openKey_active key)
  have hnonneg := haccounts.nonneg key
  rw [show after.books.states key = after.stateOf key from rfl, hafter.stateOf_eq] at hnonneg
  have hkeys := scheduler.openKey_insert key state
  have hlimits := scheduler.openKey_limits key
  obtain ⟨entries, coalesced, inFlight, nextSequence, rfl⟩ := hafter
  -- The key that is written is the one that is excused.
  refine ⟨⟨hopened.1.accepted, haccounts, hshrinks.orders, ?_, ?_⟩, hshrinks⟩
  · intro key' state' hstate hloose
    have hne : key' ≠ key := fun heq => hloose (by rw [heq])
    refine hopened.1.live key' state' ?_ hloose
    rw [← hstate]
    exact ((Table.lookup_insert_ite _ key key' state).trans (if_neg hne)).symm
  · exact h.capacity.setKey h.accepted _ hslots state hkeys hlimits hnonneg hoccupied hdependents
      hinFlight

theorem shrunk (hactive : (scheduler.keys.lookup key).isSome) (state : AdmissionState)
    (after : EndpointScheduler) (active' : AdmissionKey → Nat)
    (hafter : Rewritten scheduler key state after) (haccounts : Accounts active' after.books)
    (hoccupied : state.occupied ≤ (scheduler.stateOf key).occupied)
    (hdependents : state.dependents ≤ (scheduler.stateOf key).dependents)
    (hinFlight : after.inFlight ≤ scheduler.limits.maxInFlightRequests) :
    Exact active' (some key) after ∧ Shrinks scheduler after :=
  ⟨(h.write key 0 (Or.inr ⟨rfl, hactive⟩) state after active' (hafter.opened hactive) haccounts
    (by omega) (hdependents.trans (h.capacity.dependents_le key)) hinFlight).1,
    hafter.shrinks h.orders hactive⟩

/-- A key that holds something needs no excuse. -/
theorem settle (hholds : ¬ IsEmpty (scheduler.stateOf key)) : Exact active none scheduler := by
  refine { h with live := ?_ }
  intro key' state hstate _
  by_cases hkey : key' = key
  · rw [hkey] at hstate
    rw [scheduler.stateOf_some key state hstate] at hholds
    exact hholds
  · exact h.live key' state hstate (fun heq => hkey (Option.some.inj heq).symm)

end Phases

end Exact

theorem Rewritten.books_eq {before : EndpointScheduler} {key : AdmissionKey}
    {state : AdmissionState} {after : EndpointScheduler} (h : Rewritten before key state after) :
    after.books =
      { states := Function.update before.stateOf key state, entries := after.entries
        groups := fun group => after.coalesced.lookup group, inFlight := after.inFlight } := by
  obtain ⟨entries, coalesced, inFlight, nextSequence, rfl⟩ := h
  unfold books
  rw [← stateOf_setKey_eq]
  rfl

theorem lookup_link (coalesced : Table Nat Nat) (entry : ScheduledEntry) :
    (fun group => AList.lookup group (match entry.coalesced with
      | none => coalesced
      | some group => coalesced.insert group entry.request.requestID)) =
      link (fun group => coalesced.lookup group) entry := by
  unfold link
  cases entry.coalesced with
  | none => rfl
  | some group =>
    funext group'
    dsimp only
    rw [Table.lookup_insert_ite, Function.update_apply]

theorem lookup_unlink (coalesced : Table Nat Nat) (entry : ScheduledEntry) :
    (fun group => AList.lookup group (match entry.coalesced with
      | none => coalesced
      | some group => coalesced.erase group)) =
      unlink (fun group => coalesced.lookup group) entry := by
  unfold unlink
  cases entry.coalesced with
  | none => rfl
  | some group =>
    funext group'
    dsimp only
    rw [Table.lookup_erase_ite, Function.update_apply]

namespace Exact

/-- An entry placed at the end of its queue, either with a slot the check granted or
    without weight under an active key. -/
theorem placed (entry : ScheduledEntry) (h : Exact active (some entry.request.key) scheduler)
    (hfresh : scheduler.entries.lookup entry.request.requestID = none)
    (hqueued : entry.state = .queued)
    (hweight : entry.admissionWeight = if entry.coalesced.isSome then 0 else 1)
    (hgroup : ∀ g, entry.coalesced = some g → scheduler.coalesced.lookup g = none)
    (hslots : MayTake scheduler entry.request.key entry.admissionWeight)
    (after : EndpointScheduler)
    (hafter : Rewritten (scheduler.openKey entry.request.key).2 entry.request.key
      (enlisted (scheduler.stateOf entry.request.key) entry) after)
    (hentries : after.entries = scheduler.entries.insert entry.request.requestID entry)
    (hgroups : (fun g => after.coalesced.lookup g) =
      link (fun g => scheduler.coalesced.lookup g) entry)
    (hinFlight : after.inFlight = scheduler.inFlight) :
    Exact active none after ∧ after.books = scheduler.books.place entry ∧
      Shrinks (scheduler.openKey entry.request.key).2 after := by
  have hopened : (scheduler.openKey entry.request.key).2.stateOf = scheduler.stateOf :=
    congrArg Books.states (h.openKey entry.request.key hslots.room).2
  have hbooks : after.books = scheduler.books.place entry := by
    rw [hafter.books_eq, hopened, hentries, hgroups, hinFlight]
    rfl
  have haccounts := h.accounts.place entry hfresh hqueued hweight hgroup
  rw [← hbooks] at haccounts
  have hexact := h.write _ _ hslots _ after active hafter haccounts
    (by unfold AdmissionState.occupied enlisted; dsimp only; omega)
    (h.capacity.dependents_le _) (hinFlight.trans_le h.capacity.inFlight_le)
  -- The queue of the key is not empty now.
  refine ⟨hexact.1.settle _ ?_, hbooks, hexact.2⟩
  rw [hafter.stateOf_eq]
  exact fun hempty => List.append_ne_nil_of_right_ne_nil _ (List.cons_ne_nil _ _) hempty.1

/-- Slots that a key may take do not overflow its count. -/
theorem add_some {loose : Option AdmissionKey} (h : Exact active loose scheduler)
    {key : AdmissionKey} {count : Int} (hslots : MayTake scheduler key count)
    (hcount : 0 ≤ count) :
    checkedAdmissionAdd (scheduler.stateOf key).queued count =
      some ((scheduler.stateOf key).queued + count) := by
  have hnonneg := h.accounts.nonneg key
  have hdependents : 0 ≤ (scheduler.stateOf key).dependents := hnonneg.2
  have hmachine := scheduler.limits.machine.1
  have hperKeyLe := h.accepted.perKey_le_total
  have hfits := hslots.perKey h.capacity
  refine checkedAdmissionAdd_some _ _ hnonneg.1 hcount ?_
  unfold AdmissionState.occupied at hfits
  omega

section Operations

variable (h : Exact active none scheduler)
include h

/-- Queueing an entry: it is refused and nothing changes, or it is placed at the
    end of its queue. -/
theorem enqueueLocked (request : ScheduledRequest) (group : Option Nat) (weight : Int)
    (hweight : weight = if group.isSome then 0 else 1)
    (hgroup : ∀ g, group = some g → scheduler.coalesced.lookup g = none)
    (hactive : group.isSome → (scheduler.keys.lookup request.key).isSome) :
    Exact active none (scheduler.enqueueLocked request group weight).2 ∧
      ((∃ err, (scheduler.enqueueLocked request group weight).1 = some err ∧
          err ≠ admissionAccounting ∧
          (scheduler.enqueueLocked request group weight).2 = scheduler) ∨
        ((scheduler.enqueueLocked request group weight).1 = none ∧
          scheduler.entries.lookup request.requestID = none ∧
          Shrinks (scheduler.openKey request.key).2
            (scheduler.enqueueLocked request group weight).2 ∧
          ∃ entry : ScheduledEntry, entry.request = request ∧ entry.state = .queued ∧
            entry.coalesced = group ∧
            (scheduler.enqueueLocked request group weight).2.books =
              scheduler.books.place entry)) := by
  unfold EndpointScheduler.enqueueLocked
  by_cases hknown : (scheduler.entries.lookup request.requestID).isSome
  · rw [if_pos hknown]
    exact ⟨h, Or.inl ⟨_, rfl, by decide, rfl⟩⟩
  rw [if_neg hknown]
  have hfresh : scheduler.entries.lookup request.requestID = none := by
    rwa [Option.not_isSome_iff_eq_none] at hknown
  dsimp only
  split
  · next err hrefused =>
    refine ⟨h, Or.inl ⟨err, rfl, ?_, rfl⟩⟩
    intro heq
    split at hrefused
    · rw [heq] at hrefused
      exact checkAdmissionCount_ne_accounting h.accepted h.capacity request.key _ rfl weight
        hrefused
    · cases hrefused
  · next hgranted =>
    have hloose := h.excuse request.key
    have hslots : MayTake scheduler request.key weight := by
      -- An entry with weight was checked, one without belongs to a group that was counted.
      split at hgranted
      · exact Or.inl (checkAdmissionCount_granted h.accepted h.capacity _ _ rfl _ hgranted)
      · cases group with
        | none => simp only [Option.isSome_none, Bool.false_eq_true, if_false] at hweight; omega
        | some g => exact Or.inr ⟨hweight, hactive rfl⟩
    have hadd := h.add_some hslots (by rw [hweight]; split <;> omega)
    rw [← scheduler.openKey_fst] at hadd
    rw [hadd, scheduler.openKey_fst]
    dsimp only
    -- Only the fields of the entry matter from here on.
    generalize hentry : ({
      request := request, sequence := nextUint64 (scheduler.openKey request.key).2.nextSequence,
      state := .queued, admissionWeight := weight, coalesced := group } : ScheduledEntry) = entry
    have hrequest : entry.request = request := by rw [← hentry]
    have hplaced : entry.admissionWeight = weight := by rw [← hentry]
    have hcoalesced : entry.coalesced = group := by rw [← hentry]
    have hqueued : entry.state = .queued := by rw [← hentry]
    subst hrequest hplaced hcoalesced
    have hopened := (hloose.openKey entry.request.key hslots.room).2
    have hgroups : (fun g => (scheduler.openKey entry.request.key).2.coalesced.lookup g) =
        fun g => scheduler.coalesced.lookup g := congrArg Books.groups hopened
    refine And.imp_right (And.rec fun hbooks hshrinks =>
      Or.inr ⟨rfl, hfresh, hshrinks, entry, rfl, hqueued, rfl, hbooks⟩) ?_
    exact hloose.placed entry hfresh hqueued hweight hgroup hslots _ ⟨_, _, _, _, rfl⟩
      (congrArg (AList.insert entry.request.requestID entry ·) (congrArg Books.entries hopened))
      ((lookup_link _ entry).trans (congrArg (link · entry) hgroups))
      (congrArg Books.inFlight hopened)

omit h in
/-- Without weight, a new id is only refused by the accounting. -/
theorem enqueueLocked_weightless (scheduler : EndpointScheduler) (request : ScheduledRequest)
    (group : Option Nat) (hfresh : scheduler.entries.lookup request.requestID = none) :
    (scheduler.enqueueLocked request group 0).1 = none ∨
      (scheduler.enqueueLocked request group 0).1 = some admissionAccounting := by
  unfold EndpointScheduler.enqueueLocked
  rw [hfresh, if_neg (by nofun)]
  dsimp only
  rw [if_neg (by omega)]
  dsimp only
  cases checkedAdmissionAdd (scheduler.openKey request.key).1.queued 0 with
  | none => exact Or.inr rfl
  | some queued => exact Or.inl rfl

/-- The dependents of a new group are counted before it is queued. -/
theorem admitted (key : AdmissionKey) (count : Nat) (hgrant : Granted scheduler key count)
    (hdependents : (scheduler.stateOf key).dependents + count ≤
      scheduler.limits.maxCoalescedDependentsPerKey) (after : EndpointScheduler)
    (hafter : after = (scheduler.openKey key).2.setKey key
      { scheduler.stateOf key with
        dependents := (scheduler.stateOf key).dependents + count }) :
    Exact (Function.update active key (active key + count)) none after ∧
      after.books = scheduler.books.setDependents key ((active key + count : Nat) : Int) ∧
      Shrinks (scheduler.openKey key).2 after := by
  have hopened := ((h.excuse key).openKey key hgrant.room).2
  have hcount : (scheduler.stateOf key).dependents = active key := h.accounts.dependents_eq key
  have hnew : (scheduler.stateOf key).dependents + count = ((active key + count : Nat) : Int) := by
    rw [hcount, Nat.cast_add]
  have hrewritten : Rewritten (scheduler.openKey key).2 key _ after := ⟨_, _, _, _, hafter⟩
  have hbooks : after.books =
      scheduler.books.setDependents key ((active key + count : Nat) : Int) := by
    rw [hrewritten.books_eq, hafter, ← hnew]
    exact congrArg₂ (fun states rest => Books.mk states (Books.entries rest) rest.groups
      rest.inFlight) (congrArg (Function.update · key _) (congrArg Books.states hopened)) hopened
  have haccounts := h.accounts.setDependents key (active key + count)
  rw [← hbooks] at haccounts
  have hinFlight : after.inFlight = scheduler.inFlight := congrArg Books.inFlight hbooks
  have hexact := (h.excuse key).write key count (Or.inl hgrant) _ _ _ hrewritten haccounts
    (by unfold AdmissionState.occupied; dsimp only; omega) hdependents
    (hinFlight.trans_le h.capacity.inFlight_le)
  -- A group has at least one dependent, so its key is not empty.
  refine ⟨hexact.1.settle key ?_, hbooks, hexact.2⟩
  rw [hrewritten.stateOf_eq]
  intro hempty
  have hpos := hgrant.count_pos
  have hzero : (scheduler.stateOf key).dependents + count = 0 := hempty.2.2
  omega

/-- Scheduling a group: it is refused and the books do not change, or its dependents
    are counted and it is queued. -/
theorem scheduleCoalescedLocked (request : ScheduledRequest) (count group : Nat)
    (hgroup : scheduler.coalesced.lookup group = none) :
    (∃ err, (scheduler.scheduleCoalescedLocked request count group).1 = some err ∧
        err ≠ admissionAccounting ∧
        Exact active none (scheduler.scheduleCoalescedLocked request count group).2 ∧
        (scheduler.scheduleCoalescedLocked request count group).2.books = scheduler.books ∧
        (Shrinks scheduler (scheduler.scheduleCoalescedLocked request count group).2 ∨
          Shrinks (scheduler.openKey request.key).2
            (scheduler.scheduleCoalescedLocked request count group).2)) ∨
      ((scheduler.scheduleCoalescedLocked request count group).1 = none ∧
        Shrinks (scheduler.openKey request.key).2
          (scheduler.scheduleCoalescedLocked request count group).2 ∧
        Exact (Function.update active request.key (active request.key + count)) none
          (scheduler.scheduleCoalescedLocked request count group).2 ∧
        scheduler.entries.lookup request.requestID = none ∧
        ∃ entry : ScheduledEntry, entry.request = request ∧ entry.state = .queued ∧
          entry.coalesced = some group ∧
          (scheduler.scheduleCoalescedLocked request count group).2.books =
            (scheduler.books.setDependents request.key
              ((active request.key + count : Nat) : Int)).place entry) := by
  unfold EndpointScheduler.scheduleCoalescedLocked
  by_cases hknown : (scheduler.entries.lookup request.requestID).isSome
  · rw [if_pos hknown]
    exact Or.inl ⟨_, rfl, by decide, h, rfl, Or.inl h.orders.refl⟩
  rw [if_neg hknown]
  have hfresh : scheduler.entries.lookup request.requestID = none := by
    rwa [Option.not_isSome_iff_eq_none] at hknown
  dsimp only
  split
  · next err hrefused =>
    refine Or.inl ⟨err, rfl, ?_, h, rfl, Or.inl h.orders.refl⟩
    intro heq
    rw [heq] at hrefused
    exact checkAdmissionCount_ne_accounting h.accepted h.capacity request.key _ rfl count hrefused
  · next hcheck =>
    have hgrant := checkAdmissionCount_granted h.accepted h.capacity request.key _ rfl count hcheck
    have hnonneg := h.capacity.dependents_nonneg request.key
    have hdependentsLe := h.capacity.dependents_le request.key
    have hmachine := scheduler.limits.machine.1
    have hdependentsTotal := h.accepted.dependents_le_total
    rw [scheduler.openKey_fst, checkedAdmissionRemaining_some _ _ hnonneg hdependentsLe]
    dsimp only
    by_cases hmany : (count : Int) > scheduler.limits.maxCoalescedDependentsPerKey -
        (scheduler.stateOf request.key).dependents
    · -- Too many dependents: the key just opened is closed again.
      rw [if_pos hmany]
      have hopened := (h.excuse request.key).openKey request.key hgrant.room
      have hclosed := hopened.1.releaseIfEmpty request.key
      exact Or.inl ⟨_, rfl, by decide, hclosed.1, hclosed.2.1.trans hopened.2,
        Or.inr hclosed.2.2⟩
    · rw [if_neg hmany, checkedAdmissionAdd_some _ _ hnonneg (by omega) (by omega)]
      dsimp only
      generalize hcounted : (scheduler.openKey request.key).2.setKey request.key
        { scheduler.stateOf request.key with
          dependents := (scheduler.stateOf request.key).dependents + count } = counted
      have hadmitted := h.admitted request.key count hgrant (by omega) counted hcounted.symm
      have hentries : counted.entries = scheduler.entries := congrArg Books.entries hadmitted.2.1
      have hgroups : ∀ g, counted.coalesced.lookup g = scheduler.coalesced.lookup g :=
        congrFun (congrArg Books.groups hadmitted.2.1)
      have hactive : (counted.keys.lookup request.key).isSome := by
        rw [← hcounted, EndpointScheduler.setKey, Table.lookup_insert_ite, if_pos rfl]
        rfl
      have hqueued := hadmitted.1.enqueueLocked request (some group) 0 rfl
        (fun g hg => by cases hg; rw [hgroups]; exact hgroup) (fun _ => hactive)
      have hweightless := enqueueLocked_weightless _ request (some group)
        ((congrArg (AList.lookup request.requestID) hentries).trans hfresh)
      rcases hqueued with ⟨hexact, ⟨err, herr, hne, _⟩ | ⟨hnone, _, hshrinks, entry, hrequest,
        hstate, hcoalesced, hbooks⟩⟩
      · -- Queueing does not fail: the id is new and the accounting is exact.
        rcases hweightless with hnone | haccounting
        · rw [hnone] at herr
          cases herr
        · rw [haccounting] at herr
          exact absurd (Option.some.inj herr).symm hne
      · -- The key is open by now, so queueing the group opens nothing.
        rw [openKey_of_active _ _ hactive] at hshrinks
        rw [hnone]
        exact Or.inr ⟨rfl, hadmitted.2.2.trans hshrinks, hexact, hfresh, entry, hrequest, hstate,
          hcoalesced, hbooks.trans (congrArg (Books.place · entry) hadmitted.2.1)⟩

omit h in
theorem dropped (entry : ScheduledEntry) (h : Exact active (some entry.request.key) scheduler)
    (hmem : entry ∈ (scheduler.stateOf entry.request.key).queue) (after : EndpointScheduler)
    (hafter : after = (scheduler.setKey entry.request.key
      (struck (scheduler.stateOf entry.request.key) entry)).forgetEntryLocked entry) :
    Exact active (some entry.request.key) after ∧
      after.books = scheduler.books.removeQueued entry ∧ Shrinks scheduler after := by
  have hlook := scheduler.lookup_of_queued _ entry hmem
  have hactive : (scheduler.keys.lookup entry.request.key).isSome := by rw [hlook]; rfl
  have hweight := h.accounts.weight_le _ entry hmem
  have hrewritten : Rewritten scheduler entry.request.key
      (struck (scheduler.stateOf entry.request.key) entry) after := ⟨_, _, _, _, hafter⟩
  have hbooks : after.books = scheduler.books.removeQueued entry := by
    rw [hrewritten.books_eq, hafter]
    exact congrArg (fun groups => Books.mk _ _ groups _)
      (lookup_unlink scheduler.coalesced entry)
  have haccounts := h.accounts.removeQueued entry hmem
  rw [← hbooks] at haccounts
  refine (h.shrunk _ hactive _ after active hrewritten haccounts ?_ (Int.le_refl _) ?_).imp_right
    fun hshrinks => ⟨hbooks, hshrinks⟩
  · unfold AdmissionState.occupied struck
    dsimp only
    omega
  · rw [hafter]
    exact h.capacity.inFlight_le

/-- The in-flight slot of an entry in flight can always be given back. -/
theorem releaseInFlightLocked_eq (id : Nat) (entry : ScheduledEntry)
    (hentry : scheduler.entries.lookup id = some entry) (hstate : entry.state = .inFlight) :
    scheduler.releaseInFlightLocked entry.request.key =
      some (scheduler.released entry.request.key) := by
  have hpos := h.accounts.inFlight_pos id entry hentry hstate
  have hkey : 0 < (scheduler.stateOf entry.request.key).inFlight := hpos.1
  have htotal : 0 < scheduler.inFlight := hpos.2
  unfold EndpointScheduler.releaseInFlightLocked
  rw [scheduler.lookup_of_inFlight _ hkey]
  dsimp only
  rw [checkedAdmissionRemaining_some _ 1 (by omega) (by omega),
    checkedAdmissionRemaining_some _ 1 (by omega) (by omega)]
  rfl

omit h in
/-- A queued entry can always be taken out of its queue. -/
theorem dropQueued_eq {loose : Option AdmissionKey} (h : Exact active loose scheduler)
    (entry : ScheduledEntry)
    (hmem : entry ∈ (scheduler.stateOf entry.request.key).queue) :
    scheduler.dropQueued entry (scheduler.stateOf entry.request.key) =
      some (scheduler.setKey entry.request.key
        (struck (scheduler.stateOf entry.request.key) entry)) := by
  have hweight := h.accounts.weight_le _ entry hmem
  unfold EndpointScheduler.dropQueued
  rw [checkedAdmissionRemaining_some (scheduler.stateOf entry.request.key).queued _ hweight.1
    hweight.2, Option.map_some]
  rfl

theorem removeQueued (entry : ScheduledEntry)
    (hmem : entry ∈ (scheduler.stateOf entry.request.key).queue) (after : EndpointScheduler)
    (hafter : after = (scheduler.setKey entry.request.key
      (struck (scheduler.stateOf entry.request.key) entry)).removeEntry entry) :
    Exact active none after ∧ Shrinks scheduler after ∧
      after.books = scheduler.books.removeQueued entry := by
  have hdropped := (h.excuse entry.request.key).dropped entry hmem _ rfl
  have hclosed := hdropped.1.releaseIfEmpty
  rw [hafter]
  exact ⟨hclosed.1, hdropped.2.2.trans hclosed.2.2, hclosed.2.1.trans hdropped.2.1⟩

theorem removeInFlight (id : Nat) (entry : ScheduledEntry)
    (hentry : scheduler.entries.lookup id = some entry) (hstate : entry.state = .inFlight)
    (after : EndpointScheduler)
    (hafter : after = (scheduler.released entry.request.key).removeEntry entry) :
    Exact active none after ∧ Shrinks scheduler after ∧
      after.books = scheduler.books.removeInFlight entry := by
  have hpos := h.accounts.inFlight_pos id entry hentry hstate
  have hlook := scheduler.lookup_of_inFlight _ hpos.1
  have hrewritten : Rewritten scheduler entry.request.key _
      ((scheduler.released entry.request.key).forgetEntryLocked entry) := ⟨_, _, _, _, rfl⟩
  have hbooks : ((scheduler.released entry.request.key).forgetEntryLocked entry).books =
      scheduler.books.removeInFlight entry := by
    rw [hrewritten.books_eq]
    exact congrArg (fun groups => Books.mk _ _ groups _)
      (lookup_unlink scheduler.coalesced entry)
  have haccounts := h.accounts.removeInFlight id entry hentry hstate
  rw [← hbooks] at haccounts
  have hinFlight := h.capacity.inFlight_le
  have hlanded := (h.excuse _).shrunk _ (by rw [hlook]; rfl) _ _ active hrewritten haccounts
    (Int.le_refl _) (Int.le_refl _) (by show scheduler.inFlight - 1 ≤ _; omega)
  have hclosed := hlanded.1.releaseIfEmpty
  rw [hafter]
  exact ⟨hclosed.1, hlanded.2.trans hclosed.2.2, hclosed.2.1.trans hbooks⟩

/-- Completing a request: it is refused and nothing changes, or an entry in flight
    goes. -/
theorem complete (id : Nat) :
    Exact active none (scheduler.complete id).2 ∧ Shrinks scheduler (scheduler.complete id).2 ∧
      ((∃ err, (scheduler.complete id).1 = some err ∧ err ≠ admissionAccounting ∧
          (scheduler.complete id).2 = scheduler) ∨
        ((scheduler.complete id).1 = none ∧
          ∃ entry, scheduler.entries.lookup id = some entry ∧ entry.state = .inFlight ∧
            (scheduler.complete id).2.books = scheduler.books.removeInFlight entry)) := by
  unfold EndpointScheduler.complete
  cases hentry : scheduler.entries.lookup id with
  | none => exact ⟨h, h.orders.refl, Or.inl ⟨_, rfl, by decide, rfl⟩⟩
  | some entry =>
    dsimp only
    by_cases hstate : entry.state = .inFlight
    · rw [if_neg (not_not_intro hstate)]
      have hremoved := h.removeInFlight id entry hentry hstate _ rfl
      rw [h.releaseInFlightLocked_eq id entry hentry hstate]
      exact ⟨hremoved.1, hremoved.2.1, Or.inr ⟨rfl, entry, rfl, hstate, hremoved.2.2⟩⟩
    · rw [if_pos hstate]
      exact ⟨h, h.orders.refl, Or.inl ⟨_, rfl, by decide, rfl⟩⟩

/-- Cancelling a queued request: it is not queued and nothing changes, or it leaves
    its queue. -/
theorem cancelQueued (id : Nat) :
    Exact active none (scheduler.cancelQueued id).2 ∧
      Shrinks scheduler (scheduler.cancelQueued id).2 ∧
      (((scheduler.cancelQueued id).1 = .notQueued ∧ (scheduler.cancelQueued id).2 = scheduler ∧
          ∀ entry, scheduler.entries.lookup id = some entry → entry.state ≠ .queued) ∨
        ∃ entry, (scheduler.cancelQueued id).1 = .cancelled entry.coalesced ∧
          scheduler.entries.lookup id = some entry ∧ entry.state = .queued ∧
          (scheduler.cancelQueued id).2.books = scheduler.books.removeQueued entry) := by
  unfold EndpointScheduler.cancelQueued
  cases hentry : scheduler.entries.lookup id with
  | none => exact ⟨h, h.orders.refl, Or.inl ⟨rfl, rfl, by nofun⟩⟩
  | some entry =>
    dsimp only
    by_cases hstate : entry.state = .queued
    · have hmem : entry ∈ (scheduler.stateOf entry.request.key).queue :=
        h.accounts.queued_mem id entry hentry hstate
      have hremoved := h.removeQueued entry hmem _ rfl
      rw [if_neg (not_not_intro hstate), scheduler.lookup_of_queued _ entry hmem]
      dsimp only
      rw [if_neg (not_not_intro hmem), h.dropQueued_eq entry hmem]
      exact ⟨hremoved.1, hremoved.2.1, Or.inr ⟨entry, rfl, rfl, hstate, hremoved.2.2⟩⟩
    · rw [if_pos hstate]
      refine ⟨h, h.orders.refl, Or.inl ⟨rfl, rfl, ?_⟩⟩
      intro entry' hsome
      cases hsome
      exact hstate

/-- Finishing a group never fails. -/
theorem finishCoalesced (group : Nat) :
    Exact active none (scheduler.finishCoalesced group).2 ∧
      Shrinks scheduler (scheduler.finishCoalesced group).2 ∧
      (scheduler.finishCoalesced group).1 = none ∧
      ((scheduler.coalesced.lookup group = none ∧
          (scheduler.finishCoalesced group).2 = scheduler) ∨
        ∃ id entry, scheduler.coalesced.lookup group = some id ∧
          scheduler.entries.lookup id = some entry ∧ entry.coalesced = some group ∧
          (scheduler.finishCoalesced group).2.books =
            match entry.state with
            | .queued => scheduler.books.removeQueued entry
            | .inFlight => scheduler.books.removeInFlight entry) := by
  unfold EndpointScheduler.finishCoalesced
  -- The group may have lost its entry already, to an expiry or a completion.
  cases hlink : scheduler.coalesced.lookup group with
  | none => exact ⟨h, h.orders.refl, rfl, Or.inl ⟨rfl, rfl⟩⟩
  | some id =>
    rcases (h.accounts.linked group id).mp hlink with ⟨entry, hentry, hgroup⟩
    have hlook : scheduler.entries.lookup id = some entry := hentry
    dsimp only
    rw [hlook]
    dsimp only
    cases hstate : entry.state with
    | queued =>
      have hmem : entry ∈ (scheduler.stateOf entry.request.key).queue :=
        h.accounts.queued_mem id entry hentry hstate
      have hremoved := h.removeQueued entry hmem _ rfl
      dsimp only
      rw [scheduler.lookup_of_queued _ entry hmem]
      dsimp only
      rw [if_neg (not_not_intro hmem), h.dropQueued_eq entry hmem]
      refine ⟨hremoved.1, hremoved.2.1, rfl, Or.inr ⟨id, entry, rfl, hlook, hgroup, ?_⟩⟩
      rw [hstate]
      exact hremoved.2.2
    | inFlight =>
      have hremoved := h.removeInFlight id entry hentry hstate _ rfl
      dsimp only
      rw [h.releaseInFlightLocked_eq id entry hentry hstate]
      refine ⟨hremoved.1, hremoved.2.1, rfl, Or.inr ⟨id, entry, rfl, hlook, hgroup, ?_⟩⟩
      rw [hstate]
      exact hremoved.2.2

/-- Dependents that reached a terminal state give back their slots. -/
theorem releaseCoalescedDependents (key : AdmissionKey) (count : Nat)
    (hcount : count ≤ active key) :
    Exact (Function.update active key (active key - count)) none
        (scheduler.releaseCoalescedDependents key count) ∧
      Shrinks scheduler (scheduler.releaseCoalescedDependents key count) ∧
      (scheduler.releaseCoalescedDependents key count).books =
        scheduler.books.setDependents key ((active key - count : Nat) : Int) := by
  have hdependents : (scheduler.stateOf key).dependents = active key :=
    h.accounts.dependents_eq key
  by_cases hzero : count = 0
  · -- Nothing to release: the source returns at once.
    subst hzero
    have hsame : scheduler.releaseCoalescedDependents key ((0 : Nat) : Int) = scheduler := by
      unfold EndpointScheduler.releaseCoalescedDependents
      split
      · rfl
      · exact if_pos (Or.inl (by omega))
    have hstate : { scheduler.books.states key with dependents := ((active key : Nat) : Int) } =
        scheduler.books.states key := by
      rw [← hdependents]
      rfl
    rw [hsame, Nat.sub_zero, Function.update_eq_self]
    refine ⟨h, h.orders.refl, ?_⟩
    unfold Books.setDependents Books.setState
    rw [hstate, Function.update_eq_self]
  · have hlook : scheduler.keys.lookup key = some (scheduler.stateOf key) := by
      refine scheduler.lookup_of_ne key fun hempty => ?_
      rw [hempty] at hdependents
      have hnone : (0 : Int) = active key := hdependents
      omega
    have hnew : (scheduler.stateOf key).dependents - (count : Int) =
        ((active key - count : Nat) : Int) := by omega
    unfold EndpointScheduler.releaseCoalescedDependents
    rw [hlook]
    dsimp only
    rw [if_neg (by omega), checkedAdmissionRemaining_some _ _ (by omega) (by omega), hnew]
    dsimp only
    generalize hcounted : scheduler.setKey key
      { scheduler.stateOf key with dependents := ((active key - count : Nat) : Int) } = counted
    have hrewritten : Rewritten scheduler key _ counted := ⟨_, _, _, _, hcounted.symm⟩
    have hbooks : counted.books =
        scheduler.books.setDependents key ((active key - count : Nat) : Int) := by
      rw [hrewritten.books_eq, ← hcounted]
      rfl
    have haccounts := h.accounts.setDependents key (active key - count)
    rw [← hbooks] at haccounts
    have hshrunk := (h.excuse key).shrunk key (by rw [hlook]; rfl) _ _ _ hrewritten haccounts
      (by unfold AdmissionState.occupied; dsimp only; omega) (by dsimp only; omega)
      (by rw [← hcounted]; exact h.capacity.inFlight_le)
    have hclosed := hshrunk.1.releaseIfEmpty
    exact ⟨hclosed.1, hshrunk.2.trans hclosed.2.2, hclosed.2.1.trans hbooks⟩

end Operations

section Requeue

variable (h : Exact active none scheduler) {id : Nat} {entry : ScheduledEntry}
  (requeued : ScheduledEntry)
  (hentry : scheduler.entries.lookup id = some entry) (hrequest : requeued.request = entry.request)
  (hcoalesced : requeued.coalesced = entry.coalesced) {after : EndpointScheduler}
  (hafter : Rewritten scheduler entry.request.key
    { enlisted (scheduler.stateOf entry.request.key) requeued with
      inFlight := (scheduler.stateOf entry.request.key).inFlight - 1 } after)
  (hentries : after.entries = scheduler.entries.insert id requeued)
  (hgroups : after.coalesced = scheduler.coalesced)
  (hinFlight : after.inFlight = scheduler.inFlight - 1)
include h hentry hrequest hcoalesced hafter hentries hgroups hinFlight

/-- Putting an entry in flight back in its queue is taking it out and placing it anew. -/
theorem requeue_books :
    after.books = (scheduler.books.removeInFlight entry).place requeued := by
  have hid : entry.request.requestID = id := h.accounts.entry_id id entry hentry
  -- The group table ends as it was.
  have hunlinked : link (unlink scheduler.books.groups entry) requeued =
      scheduler.books.groups := by
    unfold link unlink
    rw [hcoalesced]
    cases hgroup : entry.coalesced with
    | none => rfl
    | some group =>
      have hlink : scheduler.books.groups group = some entry.request.requestID :=
        (h.accounts.linked group _).mpr ⟨entry, by rw [hid]; exact hentry, hgroup⟩
      dsimp only
      rw [Function.update_idem, hrequest, ← hlink, Function.update_eq_self]
  have hinsert : scheduler.entries.insert id requeued =
      (scheduler.entries.erase id).insert id requeued := by
    refine AList.ext ?_
    simp only [AList.entries_insert, AList.erase]
    rw [List.kerase_of_notMem_keys (a := id) (l := List.kerase id scheduler.entries.entries)]
    exact List.notMem_keys_kerase id scheduler.entries.nodupKeys
  rw [hafter.books_eq, hentries, hgroups, hinFlight, hinsert]
  unfold Books.place Books.removeInFlight Books.setState
  dsimp only
  rw [hunlinked, hrequest, Function.update_self, Function.update_idem, hid]
  rfl

theorem requeue (hstate : entry.state = .inFlight) (hqueued : requeued.state = .queued)
    (hweight : requeued.admissionWeight = entry.admissionWeight)
    (hslots : MayTake scheduler entry.request.key requeued.admissionWeight) :
    Exact active none after ∧ Shrinks scheduler after ∧
      after.books = (scheduler.books.removeInFlight entry).place requeued := by
  have hpos := h.accounts.inFlight_pos id entry hentry hstate
  have hactive : (scheduler.keys.lookup entry.request.key).isSome := by
    rw [scheduler.lookup_of_inFlight _ hpos.1]
    rfl
  have hbooks := h.requeue_books requeued hentry hrequest hcoalesced hafter hentries hgroups
    hinFlight
  have hfresh : (scheduler.books.removeInFlight entry).entries.lookup
      requeued.request.requestID = none := by
    rw [hrequest]
    exact (Table.lookup_erase_ite _ _ _).trans (if_pos rfl)
  have haccounts : Accounts active after.books := by
    rw [hbooks]
    refine (h.accounts.removeInFlight id entry hentry hstate).place requeued hfresh hqueued ?_ ?_
    · rw [hweight, hcoalesced]
      exact h.accounts.weight id entry hentry
    · intro group hgroup
      rw [hcoalesced] at hgroup
      exact (unlink_apply _ _ _).trans (if_pos hgroup)
  have hexact := (h.excuse _).write _ _ hslots _ after active (hafter.opened hactive) haccounts
    (by unfold AdmissionState.occupied enlisted; dsimp only; omega) (h.capacity.dependents_le _)
    (by have := h.capacity.inFlight_le; omega)
  refine ⟨hexact.1.settle _ ?_, hafter.shrinks h.orders hactive, hbooks⟩
  rw [hafter.stateOf_eq]
  exact fun hempty => List.append_ne_nil_of_right_ne_nil _ (List.cons_ne_nil _ _) hempty.1

end Requeue

/-- What a retry answers: it is refused and nothing changes; or the entry may not
    re-enter and goes; or it is back in its queue. -/
def RetryAnswer (scheduler : EndpointScheduler) (id : Nat)
    (answer : Option ProtocolError × Option Nat × EndpointScheduler) : Prop :=
  (answer.1.isSome ∧ answer.2.1 = none ∧ answer.2.2 = scheduler) ∨
    ∃ entry, scheduler.entries.lookup id = some entry ∧ entry.state = .inFlight ∧
      ((answer.1.isSome ∧ answer.2.1 = entry.coalesced ∧
          answer.2.2.books = scheduler.books.removeInFlight entry) ∨
        (answer.1 = none ∧ answer.2.1 = none ∧
          ∃ requeued : ScheduledEntry, requeued.request = entry.request ∧
            requeued.state = .queued ∧ requeued.coalesced = entry.coalesced ∧
            answer.2.2.books = (scheduler.books.removeInFlight entry).place requeued))

/-- The entry that a retry puts back. -/
def retried (scheduler : EndpointScheduler) (entry : ScheduledEntry) : ScheduledEntry :=
  { entry with
    retries := entry.retries + 1, sequence := nextUint64 scheduler.nextSequence
    state := .queued }

theorem retry (h : Exact active none scheduler) (id : Nat) :
    Exact active none (scheduler.retry id).2.2 ∧ Shrinks scheduler (scheduler.retry id).2.2 ∧
      (scheduler.retry id).1 ≠ some admissionAccounting ∧
      RetryAnswer scheduler id (scheduler.retry id) := by
  have hrefusal : some (protocolError .invalidRequest 0 0 "request_state" (-1)) ≠
      some admissionAccounting := by decide
  unfold EndpointScheduler.retry
  cases hentry : scheduler.entries.lookup id with
  | none => exact ⟨h, h.orders.refl, hrefusal, Or.inl ⟨rfl, rfl, rfl⟩⟩
  | some entry =>
    dsimp only
    by_cases hstate : entry.state = .inFlight
    · rw [if_neg (not_not_intro hstate)]
      have hpos := h.accounts.inFlight_pos id entry hentry hstate
      have hlook := scheduler.lookup_of_inFlight _ hpos.1
      have hreleased := h.releaseInFlightLocked_eq id entry hentry hstate
      have hweight := h.accounts.weight id entry hentry
      split
      · next hnone => rw [hreleased] at hnone; cases hnone
      · next released err hsome hrefused =>
        have hremoved := h.removeInFlight id entry hentry hstate (released.removeEntry entry)
          (by rw [Option.some.inj (hsome.symm.trans hreleased)])
        refine ⟨hremoved.1, hremoved.2.1, ?_,
          Or.inr ⟨entry, hentry, hstate, Or.inl ⟨rfl, rfl, hremoved.2.2⟩⟩⟩
        intro haccounting
        rw [Option.some.inj haccounting] at hrefused
        -- The two refusals are the retry limit and the admission check.
        split at hrefused
        · exact absurd hrefused (by decide)
        split at hrefused
        · exact checkAdmissionCount_ne_accounting h.accepted h.capacity _ true
            (by rw [hlook]; rfl) _ hrefused
        · cases hrefused
      · next released hsome hrefused =>
        rw [hreleased] at hsome
        cases hsome
        -- A retry is checked like an admission, unless the dependents hold the slots.
        have hslots : MayTake scheduler entry.request.key entry.admissionWeight := by
          split at hrefused
          · cases hrefused
          split at hrefused
          · exact Or.inl (checkAdmissionCount_granted h.accepted h.capacity _ true
              (by rw [hlook]; rfl) _ hrefused)
          · refine Or.inr ⟨?_, by rw [hlook]; rfl⟩
            split at hweight <;> omega
        have hkey : AList.lookup entry.request.key (scheduler.keys.insert entry.request.key
            { scheduler.stateOf entry.request.key with
              inFlight := (scheduler.stateOf entry.request.key).inFlight - 1 }) = some _ :=
          (Table.lookup_insert_ite _ _ _ _).trans (if_pos rfl)
        split
        · next hnone => exact absurd (hkey.symm.trans hnone) (by nofun)
        next state hsome =>
        have hstateEq := Option.some.inj (hkey.symm.trans hsome)
        subst hstateEq
        have hadd := h.add_some hslots (by rw [hweight]; split <;> omega)
        dsimp only
        rw [hadd]
        -- The key is written twice; only the second state remains.
        refine And.imp_right (And.imp_right fun hbooks => ⟨nofun, Or.inr ⟨entry, hentry, hstate,
          Or.inr ⟨rfl, rfl, retried scheduler entry, rfl, rfl, rfl, hbooks⟩⟩⟩) ?_
        exact h.requeue (retried scheduler entry) hentry rfl rfl
          (Rewritten.again ⟨_, _, _, _, rfl⟩ ⟨_, _, _, _, rfl⟩) rfl rfl rfl hstate rfl rfl hslots
    · rw [if_pos hstate]
      exact ⟨h, h.orders.refl, hrefusal, Or.inl ⟨rfl, rfl, rfl⟩⟩

end Exact

/-- Queued entries whose deadline has passed leave one after the other. The list
    names their groups. -/
inductive Expires (now : Int) : Books → List Nat → Books → Prop where
  | none (books : Books) : Expires now books [] books
  | more (books : Books) (entry : ScheduledEntry) (groups : List Nat) (after : Books)
      (hmem : entry ∈ (books.states entry.request.key).queue)
      (hlate : entry.request.deadlineOffset ≤ now)
      (hrest : Expires now (books.removeQueued entry) groups after) :
      Expires now books (entry.coalesced.toList ++ groups) after

theorem Expires.trans {now : Int} {first middle last : Books} {groups groups' : List Nat}
    (h : Expires now first groups middle) (h' : Expires now middle groups' last) :
    Expires now first (groups ++ groups') last := by
  induction h with
  | none books => exact h'
  | more books entry groups after hmem hlate hrest ih =>
    rw [List.append_assoc]
    exact Expires.more books entry _ last hmem hlate (ih h')

/-- The scheduler as it would be if the expiry of a key stopped here: the entries
    kept so far and those not looked at yet are its queue. -/
def ExpirePass.pending (pass : ExpirePass) (key : AdmissionKey) (state : AdmissionState)
    (rest : List ScheduledEntry) : EndpointScheduler :=
  pass.scheduler.setKey key { state with queue := pass.kept ++ rest, queued := pass.queued }

theorem ExpirePass.pending_nil (pass : ExpirePass) (key : AdmissionKey) (state : AdmissionState) :
    pass.pending key state [] =
      pass.scheduler.setKey key { state with queue := pass.kept, queued := pass.queued } := by
  unfold ExpirePass.pending
  rw [List.append_nil]

namespace Exact

theorem expireEntry (now : Int) (pass : ExpirePass) (key : AdmissionKey)
    (state : AdmissionState) (entry : ScheduledEntry) (rest : List ScheduledEntry)
    (h : Exact active (some key) (pass.pending key state (entry :: rest))) :
    Exact active (some key) ((expireEntry now pass entry).pending key state rest) ∧
      Shrinks (pass.pending key state (entry :: rest))
        ((EndpointScheduler.expireEntry now pass entry).pending key state rest) ∧
      (EndpointScheduler.expireEntry now pass entry).accountingOK = pass.accountingOK ∧
      ∃ groups, (EndpointScheduler.expireEntry now pass entry).expired = pass.expired ++ groups ∧
        Expires now (pass.pending key state (entry :: rest)).books groups
          ((EndpointScheduler.expireEntry now pass entry).pending key state rest).books := by
  have hview : (pass.pending key state (entry :: rest)).stateOf key =
      { state with queue := pass.kept ++ entry :: rest, queued := pass.queued } :=
    stateOf_setKey_same _ _ _
  have hmem : entry ∈ ((pass.pending key state (entry :: rest)).stateOf key).queue := by
    rw [hview]
    exact List.mem_append_right _ List.mem_cons_self
  unfold EndpointScheduler.expireEntry
  by_cases hlate : entry.request.deadlineOffset ≤ now
  · rw [if_pos hlate]
    have hkey : entry.request.key = key := (h.accounts.queue_entry key entry hmem).2.1
    subst hkey
    have hweight := h.accounts.weight_le _ entry hmem
    have hqueued : ((pass.pending entry.request.key state (entry :: rest)).books.states
        entry.request.key).queued = pass.queued :=
      congrArg AdmissionState.queued hview
    rw [hqueued] at hweight
    rw [checkedAdmissionRemaining_some _ _ hweight.1 hweight.2]
    dsimp only
    -- Erasing the entry leaves what was kept and what comes after it.
    have herase : (pass.kept ++ entry :: rest).erase entry = pass.kept ++ rest := by
      have hnodup := h.accounts.queue_nodup entry.request.key
      have hqueue : ((pass.pending entry.request.key state (entry :: rest)).books.states
          entry.request.key).queue = pass.kept ++ entry :: rest :=
        congrArg AdmissionState.queue hview
      rw [hqueue] at hnodup
      have hnot : entry ∉ pass.kept := fun hin =>
        (List.nodup_append.mp hnodup).2.2 entry hin entry List.mem_cons_self rfl
      rw [List.erase_append_right _ hnot, List.erase_cons_head]
    have hdropped := h.dropped entry hmem
      (ExpirePass.pending
        { pass with
          queued := pass.queued - entry.admissionWeight
          scheduler := pass.scheduler.forgetEntryLocked entry
          expired := pass.expired ++ entry.coalesced.toList } entry.request.key state rest)
      (by
        rw [hview, struck, herase]
        simp [ExpirePass.pending, EndpointScheduler.setKey, forgetEntryLocked])
    refine ⟨hdropped.1, hdropped.2.2, rfl, entry.coalesced.toList, rfl, ?_⟩
    have hstep := Expires.more (pass.pending entry.request.key state (entry :: rest)).books entry
      [] _ hmem hlate (Expires.none _)
    rw [List.append_nil] at hstep
    rw [hdropped.2.1]
    exact hstep
  · -- A kept entry only moves from one part of the pending queue to the other.
    rw [if_neg hlate]
    have hsame : ExpirePass.pending { pass with kept := pass.kept ++ [entry] } key state rest =
        pass.pending key state (entry :: rest) := by
      unfold ExpirePass.pending
      rw [List.append_assoc, List.singleton_append]
    rw [hsame]
    exact ⟨h, h.orders.refl, rfl, [], (List.append_nil _).symm, Expires.none _⟩

theorem expireEntries (now : Int) (key : AdmissionKey) (state : AdmissionState)
    (rest : List ScheduledEntry) (pass : ExpirePass)
    (h : Exact active (some key) (pass.pending key state rest)) :
    Exact active (some key) ((rest.foldl (EndpointScheduler.expireEntry now) pass).pending key
        state []) ∧
      Shrinks (pass.pending key state rest)
        ((rest.foldl (EndpointScheduler.expireEntry now) pass).pending key state []) ∧
      (rest.foldl (EndpointScheduler.expireEntry now) pass).accountingOK = pass.accountingOK ∧
      ∃ groups, (rest.foldl (EndpointScheduler.expireEntry now) pass).expired =
          pass.expired ++ groups ∧
        Expires now (pass.pending key state rest).books groups
          ((rest.foldl (EndpointScheduler.expireEntry now) pass).pending key state []).books := by
  -- The pending scheduler carries the invariant through the loop.
  induction rest generalizing pass with
  | nil => exact ⟨h, h.orders.refl, rfl, [], (List.append_nil _).symm, Expires.none _⟩
  | cons entry rest ih =>
    obtain ⟨hexact, hshrinks, hok, groups, hgroups, hexpires⟩ :=
      h.expireEntry now pass key state entry rest
    obtain ⟨hexact', hshrinks', hok', groups', hgroups', hexpires'⟩ := ih _ hexact
    rw [List.foldl_cons]
    refine ⟨hexact', hshrinks.trans hshrinks', hok'.trans hok, groups ++ groups', ?_,
      hexpires.trans hexpires'⟩
    rw [hgroups', hgroups, List.append_assoc]

theorem expireKey (h : Exact active none scheduler) (now : Int) (key : AdmissionKey) :
    Exact active none (scheduler.expireKey now key).1 ∧
      Shrinks scheduler (scheduler.expireKey now key).1 ∧
      (scheduler.expireKey now key).2.2 = true ∧
      Expires now scheduler.books (scheduler.expireKey now key).2.1
        (scheduler.expireKey now key).1.books := by
  unfold EndpointScheduler.expireKey
  cases hlook : scheduler.keys.lookup key with
  | none => exact ⟨h, h.orders.refl, rfl, Expires.none _⟩
  | some state =>
    dsimp only
    -- Before the loop the pending scheduler is the scheduler itself.
    have hstart : (ExpirePass.pending { scheduler := scheduler, queued := state.queued } key
        state state.queue).books = scheduler.books := by
      have hstates : (scheduler.setKey key state).stateOf = scheduler.stateOf := by
        rw [stateOf_setKey_eq, ← scheduler.stateOf_some key state hlook,
          Function.update_eq_self]
      exact congrArg (fun states => { scheduler.books with states := states }) hstates
    have hactive : (scheduler.keys.lookup key).isSome := by rw [hlook]; rfl
    have hstate := scheduler.stateOf_some key state hlook
    have hbegin := (h.excuse key).shrunk key hactive state
      (ExpirePass.pending { scheduler := scheduler, queued := state.queued } key state state.queue)
      active ⟨_, _, _, _, rfl⟩ (by rw [hstart]; exact h.accounts) (by rw [hstate])
      (by rw [hstate]) h.capacity.inFlight_le
    obtain ⟨hexact, hshrinks, hok, groups, hgroups, hexpires⟩ :=
      expireEntries now key state state.queue _ hbegin.1
    rw [hstart] at hexpires
    rw [ExpirePass.pending_nil] at hexact hshrinks hexpires
    have hclosed := hexact.releaseIfEmpty
    refine ⟨hclosed.1, hbegin.2.trans (hshrinks.trans hclosed.2.2), hok, ?_⟩
    rw [hclosed.2.1, hgroups]
    exact hexpires

theorem expireLocked (now : Int) (keys : List AdmissionKey) (scheduler : EndpointScheduler)
    (h : Exact active none scheduler) :
    Exact active none (expireLocked now keys scheduler).1 ∧
      Shrinks scheduler (EndpointScheduler.expireLocked now keys scheduler).1 ∧
      (EndpointScheduler.expireLocked now keys scheduler).2.2 = true ∧
      Expires now scheduler.books (EndpointScheduler.expireLocked now keys scheduler).2.1
        (EndpointScheduler.expireLocked now keys scheduler).1.books := by
  induction keys generalizing scheduler with
  | nil => exact ⟨h, h.orders.refl, rfl, Expires.none _⟩
  | cons key rest ih =>
    obtain ⟨hexact, hshrinks, hok, hexpires⟩ := h.expireKey now key
    obtain ⟨hexact', hshrinks', hok', hexpires'⟩ := ih _ hexact
    refine ⟨hexact', hshrinks.trans hshrinks', ?_, hexpires.trans hexpires'⟩
    rw [EndpointScheduler.expireLocked, hok, hok']
    rfl

theorem taken (h : Exact active none scheduler) (entry : ScheduledEntry)
    (hmem : entry ∈ (scheduler.stateOf entry.request.key).queue)
    (hroom : scheduler.inFlight < scheduler.limits.maxInFlightRequests)
    (after : EndpointScheduler)
    (hafter : Rewritten scheduler entry.request.key
      { struck (scheduler.stateOf entry.request.key) entry with
        inFlight := (scheduler.stateOf entry.request.key).inFlight + 1 } after)
    (hentries : after.entries = scheduler.entries.insert entry.request.requestID
      { entry with state := .inFlight })
    (hgroups : after.coalesced = scheduler.coalesced)
    (hinFlight : after.inFlight = scheduler.inFlight + 1) :
    Exact active none after ∧ after.books = scheduler.books.take entry := by
  have hactive : (scheduler.keys.lookup entry.request.key).isSome := by
    rw [scheduler.lookup_of_queued _ entry hmem]
    rfl
  have hweight := h.accounts.weight_le _ entry hmem
  have hcounts := h.accounts.inFlight_le entry.request.key
  have hbooks : after.books = scheduler.books.take entry := by
    rw [hafter.books_eq, hentries, hgroups, hinFlight]
    rfl
  have haccounts := h.accounts.take entry hmem
  rw [← hbooks] at haccounts
  have hexact := (h.excuse _).shrunk _ hactive _ after active hafter haccounts
    (by unfold AdmissionState.occupied struck; dsimp only; omega) (Int.le_refl _) (by omega)
  -- The entry is counted in flight now.
  refine ⟨hexact.1.settle _ ?_, hbooks⟩
  rw [hafter.stateOf_eq]
  intro hempty
  have hzero : (scheduler.stateOf entry.request.key).inFlight + 1 = 0 := hempty.2.1
  have hnonneg : 0 ≤ (scheduler.stateOf entry.request.key).inFlight := hcounts.1
  omega

/-- The head of a key's queue can be put in flight while the in-flight limit is not
    reached. -/
theorem takeHead (h : Exact active none scheduler) (key : AdmissionKey)
    (hqueued : scheduler.keyHasQueued key = true)
    (hroom : scheduler.inFlight < scheduler.limits.maxInFlightRequests) :
    Exact active none (scheduler.takeHead key).2 ∧
      ∃ entry rest, (scheduler.takeHead key).1 = .ok entry.request ∧ entry.request.key = key ∧
        (scheduler.stateOf key).queue = entry :: rest ∧
        (scheduler.takeHead key).2.books = scheduler.books.take entry ∧
        Shrinks scheduler (scheduler.takeHead key).2 ∧
        (scheduler.takeHead key).2.scopeRing = scheduler.scopeRing ∧
        (scheduler.takeHead key).2.unitRing = scheduler.unitRing := by
  unfold keyHasQueued at hqueued
  unfold EndpointScheduler.takeHead
  cases hlook : scheduler.keys.lookup key with
  | none => rw [hlook] at hqueued; cases hqueued
  | some state =>
    rw [hlook] at hqueued
    have hstate := scheduler.stateOf_some key state hlook
    dsimp only
    cases hqueue : state.queue with
    | nil => simp only [hqueue, ne_eq, not_true_eq_false, decide_false] at hqueued; cases hqueued
    | cons entry rest =>
      have hmem : entry ∈ (scheduler.stateOf key).queue := by
        rw [hstate, hqueue]
        exact List.mem_cons_self
      have hkey : entry.request.key = key := (h.accounts.queue_entry key entry hmem).2.1
      have hweight := h.accounts.weight_le key entry hmem
      have hcounts := h.accounts.inFlight_le key
      have hmachine := scheduler.limits.machine.2
      have hview : scheduler.books.states key = state := hstate
      have htotal : scheduler.books.inFlight = scheduler.inFlight := rfl
      rw [hview] at hweight hcounts
      rw [htotal] at hcounts
      subst hkey
      dsimp only
      -- None of the three counter checks can fail.
      rw [checkedAdmissionRemaining_some _ _ hweight.1 hweight.2,
        checkedAdmissionAdd_some state.inFlight 1 hcounts.1 (by omega) (by omega),
        checkedAdmissionAdd_some scheduler.inFlight 1 (by omega) (by omega) (by omega)]
      dsimp only
      rw [if_neg (by omega)]
      have hrest : rest = (scheduler.stateOf entry.request.key).queue.erase entry := by
        rw [hstate, hqueue, List.erase_cons_head]
      have hactive : (scheduler.keys.lookup entry.request.key).isSome := by rw [hlook]; rfl
      rw [← hstate]
      refine And.imp_right (fun hbooks => ⟨entry, rest, rfl, rfl, hstate.symm ▸ hqueue, hbooks,
        Rewritten.shrinks ⟨_, _, _, _, rfl⟩ h.orders hactive, rfl, rfl⟩) ?_
      rw [hrest]
      exact h.taken entry hmem hroom _ ⟨_, _, _, _, rfl⟩ rfl rfl rfl

theorem turned (h : Exact active none scheduler) (after : EndpointScheduler)
    (hafter : ∃ scope units, after =
      { scheduler with scopeCursor := scope, unitCursor := units })
    (horders : Orders after) : Exact active none after ∧ after.books = scheduler.books := by
  obtain ⟨scope, units, rfl⟩ := hafter
  refine ⟨⟨h.accepted, h.accounts, horders, h.live, ?_⟩, rfl⟩
  exact h.capacity.of_sums h.accepted _ rfl rfl (fun _ _ => rfl) h.capacity.keys_le

end Exact

end EndpointScheduler

end HelianthusModbus
