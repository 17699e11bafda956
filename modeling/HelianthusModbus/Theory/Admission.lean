import HelianthusModbus.Core.Scheduler
import Mathlib.Algebra.Order.Ring.Int

/-!
# Admission Capacity

What the admission check decides, once its counters are exact.

The check reads the occupancy of every active key through checked additions, any
of which could refuse. `WithinCapacity` is the state of the key table in which
none does: every counter is a natural number and every bound of the limits holds.
Under it the whole check is the plain chain of comparisons of
`checkAdmissionCount_eq`, without an accounting failure.

The bound that protects other keys is kept in a form that does not mention which
keys are active. A key that uses more than its protected slots takes the excess
from a shared part of the queue; the protected slots of all admissible keys and
the shared excess together never exceed the whole queue.

## Main definitions

* `SchedulerLimits.Accepted`: What the limits check establishes.
* `EndpointScheduler.sharedOccupied`: The slots used beyond the protected ones.
* `EndpointScheduler.WithinCapacity`: Every bound of the limits holds.

## Theorems

* `validateSchedulerLimits_accepted`: Accepted limits satisfy all comparisons.
* `EndpointScheduler.totalOccupied_le`: The queue is never over-full.
* `EndpointScheduler.checkAdmissionCount_eq`: The check as a chain of comparisons.
-/

namespace HelianthusModbus

/-- What `validateSchedulerLimits` establishes. -/
structure SchedulerLimits.Accepted (limits : SchedulerLimits) : Prop where
  keys_pos : 0 < limits.maxActiveAdmissionKeys
  slots_pos : 0 < limits.protectedSlotsPerKey
  burst_pos : 0 < limits.sharedBurstSlots
  retries_pos : 0 < limits.maxRetryAttempts
  inFlight_pos : 0 < limits.maxInFlightRequests
  required_le : limits.maxActiveAdmissionKeys * limits.protectedSlotsPerKey +
    limits.sharedBurstSlots ≤ limits.totalQueued
  slots_le_perKey : limits.protectedSlotsPerKey ≤ limits.maxQueuedPerKey
  perKey_le_total : limits.maxQueuedPerKey ≤ limits.totalQueued
  protected_le_scope : limits.maxActiveAdmissionKeys * limits.protectedSlotsPerKey ≤
    limits.maxQueuedPerAuthorizationScope
  scope_le_total : limits.maxQueuedPerAuthorizationScope ≤ limits.totalQueued
  slots_le_dependents : limits.protectedSlotsPerKey ≤ limits.maxCoalescedDependentsPerKey
  dependents_le : limits.maxCoalescedDependentsPerKey ≤ maxCoalescedDependents
  dependents_le_total : limits.maxCoalescedDependentsPerKey ≤ limits.totalQueued

theorem validateSchedulerLimits_accepted (limits : SchedulerLimits)
    (h : validateSchedulerLimits limits = none) : limits.Accepted := by
  unfold validateSchedulerLimits at h
  -- Each of the four guards has to fail for the answer to be `none`.
  by_cases hpos : limits.maxActiveAdmissionKeys ≤ 0 ∨ limits.protectedSlotsPerKey ≤ 0 ∨
      limits.sharedBurstSlots ≤ 0 ∨ limits.totalQueued ≤ 0 ∨ limits.maxQueuedPerKey ≤ 0 ∨
      limits.maxQueuedPerAuthorizationScope ≤ 0 ∨ limits.maxCoalescedDependentsPerKey ≤ 0 ∨
      limits.maxRetryAttempts ≤ 0 ∨ limits.maxInFlightRequests ≤ 0
  · rw [if_pos hpos] at h
    exact absurd h (Option.some_ne_none _)
  rw [if_neg hpos] at h
  by_cases hproduct : limits.maxActiveAdmissionKeys > maxInt / limits.protectedSlotsPerKey
  · rw [if_pos hproduct] at h
    exact absurd h (Option.some_ne_none _)
  rw [if_neg hproduct] at h
  dsimp only at h
  split at h
  · exact absurd h (Option.some_ne_none _)
  split at h
  · exact absurd h (Option.some_ne_none _)
  next _ hbounds =>
  push Not at hpos hbounds
  exact ⟨by omega, by omega, by omega, by omega, by omega, by omega, by omega, by omega,
    by omega, by omega, by omega, by omega, by omega⟩

theorem checkedAdmissionAdd_some (first second : Int) (hf : 0 ≤ first) (hs : 0 ≤ second)
    (hsum : first + second ≤ maxInt) :
    checkedAdmissionAdd first second = some (first + second) := by
  unfold checkedAdmissionAdd
  rw [if_neg (by omega)]

theorem checkedAdmissionRemaining_some (limit used : Int) (hu : 0 ≤ used) (hle : used ≤ limit) :
    checkedAdmissionRemaining limit used = some (limit - used) := by
  unfold checkedAdmissionRemaining
  rw [if_neg (by omega)]

/-- The slots a key holds: its queue and the active dependents of its groups. -/
def AdmissionState.occupied (state : AdmissionState) : Int := state.queued + state.dependents

namespace EndpointScheduler

/-- The state of a key, empty for a key that is not active. -/
def stateOf (scheduler : EndpointScheduler) (key : AdmissionKey) : AdmissionState :=
  (scheduler.keys.lookup key).getD {}

theorem stateOf_some (scheduler : EndpointScheduler) (key : AdmissionKey)
    (state : AdmissionState) (h : scheduler.keys.lookup key = some state) :
    scheduler.stateOf key = state := by
  rw [stateOf, h, Option.getD_some]

theorem stateOf_none (scheduler : EndpointScheduler) (key : AdmissionKey)
    (h : scheduler.keys.lookup key = none) : scheduler.stateOf key = {} := by
  rw [stateOf, h, Option.getD_none]

/-- The slots a key uses beyond its protected ones. -/
def excess (slots : Int) (state : AdmissionState) : Int := max (state.occupied - slots) 0

/-- The protected slots that a key does not use. -/
def deficit (slots : Int) (state : AdmissionState) : Int := max (slots - state.occupied) 0

def totalOccupied (scheduler : EndpointScheduler) : Int :=
  Table.sum (fun _ state => state.occupied) scheduler.keys

def scopeOccupied (scheduler : EndpointScheduler) (scope : String) : Int :=
  Table.sum (fun key state => if key.authorizationScope = scope then state.occupied else 0)
    scheduler.keys

/-- The shared slots in use. -/
def sharedOccupied (scheduler : EndpointScheduler) : Int :=
  Table.sum (fun _ state => excess scheduler.limits.protectedSlotsPerKey state) scheduler.keys

/-- The shared slots in use by the other keys. -/
def sharedByOthers (scheduler : EndpointScheduler) (key : AdmissionKey) : Int :=
  Table.sum (fun _ state => excess scheduler.limits.protectedSlotsPerKey state)
    (scheduler.keys.erase key)

/-- The slots promised to all keys, with one key's own promise replaced by what it holds. -/
def promised (scheduler : EndpointScheduler) (key : AdmissionKey) : Int :=
  scheduler.sharedByOthers key + (scheduler.limits.maxActiveAdmissionKeys - 1) *
    scheduler.limits.protectedSlotsPerKey + (scheduler.stateOf key).occupied

/-- The number of active keys. -/
def activeKeys (scheduler : EndpointScheduler) : Int := scheduler.keys.entries.length

/-- Every bound of the limits holds of the key table. -/
structure WithinCapacity (scheduler : EndpointScheduler) : Prop where
  queued_nonneg : ∀ key, 0 ≤ (scheduler.stateOf key).queued
  dependents_nonneg : ∀ key, 0 ≤ (scheduler.stateOf key).dependents
  per_key : ∀ key, (scheduler.stateOf key).occupied ≤ scheduler.limits.maxQueuedPerKey
  dependents_le : ∀ key,
    (scheduler.stateOf key).dependents ≤ scheduler.limits.maxCoalescedDependentsPerKey
  keys_le : scheduler.activeKeys ≤ scheduler.limits.maxActiveAdmissionKeys
  scope_le : ∀ scope,
    scheduler.scopeOccupied scope ≤ scheduler.limits.maxQueuedPerAuthorizationScope
  shared_le : scheduler.sharedOccupied + scheduler.limits.maxActiveAdmissionKeys *
    scheduler.limits.protectedSlotsPerKey ≤ scheduler.limits.totalQueued
  inFlight_le : scheduler.inFlight ≤ scheduler.limits.maxInFlightRequests

theorem lookup_of_mem (scheduler : EndpointScheduler)
    (e : (_ : AdmissionKey) × AdmissionState) (he : e ∈ scheduler.keys.entries) :
    scheduler.stateOf e.1 = e.2 :=
  scheduler.stateOf_some e.1 e.2 ((Table.mem_entries_iff scheduler.keys e.1 e.2).mp he)

/-- One key's contribution to a sum that an empty key does not contribute to. -/
theorem elim_lookup (scheduler : EndpointScheduler) (key : AdmissionKey)
    (f : AdmissionState → Int) (hf : f {} = 0) :
    (scheduler.keys.lookup key).elim 0 f = f (scheduler.stateOf key) := by
  rw [stateOf]
  cases scheduler.keys.lookup key with
  | none => rw [Option.elim_none, Option.getD_none, hf]
  | some state => rw [Option.elim_some, Option.getD_some]

theorem excess_empty (slots : Int) (h : 0 < slots) : excess slots {} = 0 := by
  have hzero : AdmissionState.occupied {} = 0 := rfl
  rw [excess, hzero]
  exact max_eq_right (by omega)

theorem sharedOccupied_split (scheduler : EndpointScheduler) (key : AdmissionKey)
    (hslots : 0 < scheduler.limits.protectedSlotsPerKey) :
    scheduler.sharedOccupied = scheduler.sharedByOthers key +
      excess scheduler.limits.protectedSlotsPerKey (scheduler.stateOf key) := by
  have hsplit := Table.sum_erase
    (fun _ state => excess scheduler.limits.protectedSlotsPerKey state) scheduler.keys key
  rw [scheduler.elim_lookup key _ (excess_empty _ hslots)] at hsplit
  exact hsplit.symm

theorem totalOccupied_split (scheduler : EndpointScheduler) (key : AdmissionKey) :
    scheduler.totalOccupied = Table.sum (fun _ state => state.occupied)
      (scheduler.keys.erase key) + (scheduler.stateOf key).occupied := by
  have hsplit := Table.sum_erase (fun _ state => AdmissionState.occupied state)
    scheduler.keys key
  rw [scheduler.elim_lookup key AdmissionState.occupied rfl] at hsplit
  exact hsplit.symm

theorem activeKeys_split (scheduler : EndpointScheduler) (key : AdmissionKey) :
    scheduler.activeKeys = ((scheduler.keys.erase key).entries.length : Int) +
      (if (scheduler.keys.lookup key).isSome then 1 else 0) := by
  have hsplit := Table.sum_erase (fun _ _ => (1 : Int)) scheduler.keys key
  rw [Table.sum_const, Table.sum_const] at hsplit
  simp only [nsmul_eq_mul, mul_one] at hsplit
  rw [activeKeys, ← hsplit]
  cases scheduler.keys.lookup key with
  | none => rfl
  | some state => rfl

/-- What the keys of a table hold and what they may still claim: together their
    protected slots and the shared slots in use. -/
theorem sum_occupied_add_deficit (slots : Int) (m : Table AdmissionKey AdmissionState) :
    Table.sum (fun _ state => state.occupied) m +
        Table.sum (fun _ => deficit slots) m =
      m.entries.length * slots + Table.sum (fun _ state => excess slots state) m := by
  rw [← Table.sum_add, ← nsmul_eq_mul, ← Table.sum_const slots m, ← Table.sum_add]
  refine Table.sum_congr _ _ m (fun e _ => ?_)
  unfold excess deficit
  omega

theorem deficits_nonneg (slots : Int) (m : Table AdmissionKey AdmissionState) :
    0 ≤ Table.sum (fun _ => deficit slots) m :=
  Table.sum_nonneg _ _ (fun _ _ => le_max_right _ _)

namespace WithinCapacity

variable {scheduler : EndpointScheduler}

theorem occupied_nonneg (h : scheduler.WithinCapacity) (key : AdmissionKey) :
    0 ≤ (scheduler.stateOf key).occupied := by
  have hq := h.queued_nonneg key
  have hd := h.dependents_nonneg key
  unfold AdmissionState.occupied
  omega

/-- The slots of the other keys, from above: each holds at most its protected
    slots and what it takes of the shared ones. -/
theorem others_occupied_le (scheduler : EndpointScheduler) (key : AdmissionKey) :
    Table.sum (fun _ state => state.occupied) (scheduler.keys.erase key) ≤
      (scheduler.keys.erase key).entries.length * scheduler.limits.protectedSlotsPerKey +
        scheduler.sharedByOthers key := by
  have heq := sum_occupied_add_deficit scheduler.limits.protectedSlotsPerKey
    (scheduler.keys.erase key)
  have hdeficit := deficits_nonneg scheduler.limits.protectedSlotsPerKey (scheduler.keys.erase key)
  unfold sharedByOthers
  omega

end WithinCapacity

/-- The counters of an entry list are natural numbers. -/
def Counted (entries : List ((_ : AdmissionKey) × AdmissionState)) : Prop :=
  ∀ e ∈ entries, 0 ≤ e.2.queued ∧ 0 ≤ e.2.dependents

theorem WithinCapacity.counted {scheduler : EndpointScheduler} (h : scheduler.WithinCapacity) :
    Counted scheduler.keys.entries := by
  intro e he
  rw [← scheduler.lookup_of_mem e he]
  exact ⟨h.queued_nonneg e.1, h.dependents_nonneg e.1⟩

theorem Counted.tail {e : (_ : AdmissionKey) × AdmissionState}
    {rest : List ((_ : AdmissionKey) × AdmissionState)} (h : Counted (e :: rest)) :
    Counted rest := fun e' he' => h e' (List.mem_cons_of_mem e he')

theorem Counted.occupied_nonneg {entries : List ((_ : AdmissionKey) × AdmissionState)}
    (h : Counted entries) (e : (_ : AdmissionKey) × AdmissionState) (he : e ∈ entries) :
    0 ≤ e.2.occupied := by
  have hcounts := h e he
  unfold AdmissionState.occupied
  omega

/-- The first loop of the admission check is a pair of plain sums, as long as the
    totals fit. -/
theorem sumOccupied_some (scope : String)
    (entries : List ((_ : AdmissionKey) × AdmissionState)) (total scopeQueued : Int)
    (hcounted : Counted entries) (hscope : 0 ≤ scopeQueued) (hle : scopeQueued ≤ total)
    (hfits : total + (entries.map fun e => e.2.occupied).sum ≤ maxInt) :
    sumOccupied scope entries total scopeQueued =
      some (total + (entries.map fun e => e.2.occupied).sum,
        scopeQueued + (entries.map fun e =>
          if e.1.authorizationScope = scope then e.2.occupied else 0).sum) := by
  induction entries generalizing total scopeQueued with
  | nil => simp [sumOccupied]
  | cons e rest ih =>
    obtain ⟨key, state⟩ := e
    have hstate := hcounted ⟨key, state⟩ List.mem_cons_self
    have hnonneg : 0 ≤ state.occupied := hcounted.occupied_nonneg _ List.mem_cons_self
    have hrest : 0 ≤ (rest.map fun e => e.2.occupied).sum := by
      refine List.sum_nonneg (fun x hx => ?_)
      rcases List.mem_map.mp hx with ⟨e', he', rfl⟩
      exact hcounted.tail.occupied_nonneg e' he'
    simp only [List.map_cons, List.sum_cons] at hfits ⊢
    -- The three checked additions of one turn all succeed.
    have hocc : checkedAdmissionAdd state.queued state.dependents = some state.occupied :=
      checkedAdmissionAdd_some _ _ hstate.1 hstate.2
        (show state.occupied ≤ maxInt by omega)
    have htotal := checkedAdmissionAdd_some total state.occupied (by omega) hnonneg (by omega)
    -- The scope's part is bounded by the whole, so one bound is enough.
    have hpart := checkedAdmissionAdd_some scopeQueued state.occupied hscope hnonneg
      (by omega)
    by_cases hsame : key.authorizationScope = scope
    · have hnext := ih (total + state.occupied) (scopeQueued + state.occupied) hcounted.tail
        (by omega) (by omega) (by omega)
      simp only [sumOccupied, hocc, htotal, hpart, if_pos hsame, Option.bind_eq_bind,
        Option.bind_some, hnext, Int.add_assoc]
    · have hnext := ih (total + state.occupied) scopeQueued hcounted.tail hscope (by omega)
        (by omega)
      simp only [sumOccupied, hocc, htotal, if_neg hsame, Option.bind_eq_bind,
        Option.bind_some, hnext, Int.add_assoc, Int.zero_add]

/-- The second loop is a plain sum of the deficits of the other keys. -/
theorem sumReserved_some (key : AdmissionKey) (slots : Int)
    (entries : List ((_ : AdmissionKey) × AdmissionState)) (reserved : Int)
    (hcounted : Counted entries) (hfit : ∀ e ∈ entries, e.2.occupied ≤ maxInt)
    (hreserved : 0 ≤ reserved)
    (hfits : reserved +
      (entries.map fun e => if e.1 = key then 0 else deficit slots e.2).sum ≤ maxInt) :
    sumReserved key slots entries reserved = some (reserved +
      (entries.map fun e => if e.1 = key then 0 else deficit slots e.2).sum) := by
  induction entries generalizing reserved with
  | nil => simp [sumReserved]
  | cons e rest ih =>
    obtain ⟨activeKey, state⟩ := e
    have hstate := hcounted ⟨activeKey, state⟩ List.mem_cons_self
    have hocc := hfit ⟨activeKey, state⟩ List.mem_cons_self
    have hrestfit : ∀ e ∈ rest, e.2.occupied ≤ maxInt :=
      fun e' he' => hfit e' (List.mem_cons_of_mem _ he')
    have hrest : 0 ≤ (rest.map fun e => if e.1 = key then 0 else deficit slots e.2).sum := by
      refine List.sum_nonneg (fun x hx => ?_)
      rcases List.mem_map.mp hx with ⟨e', _, rfl⟩
      split
      · exact Int.le_refl 0
      · exact le_max_right _ _
    simp only [List.map_cons, List.sum_cons] at hfits ⊢
    by_cases hsame : activeKey = key
    · rw [if_pos hsame] at hfits ⊢
      rw [sumReserved, if_pos hsame, ih reserved hcounted.tail hrestfit hreserved (by omega)]
      rw [Int.zero_add]
    · rw [if_neg hsame] at hfits ⊢
      have hadd : checkedAdmissionAdd state.queued state.dependents = some state.occupied :=
        checkedAdmissionAdd_some _ _ hstate.1 hstate.2 hocc
      rw [sumReserved, if_neg hsame, hadd]
      simp only [Option.bind_eq_bind, Option.bind_some]
      -- A key that has its protected slots adds nothing to the reserve.
      by_cases hless : state.occupied < slots
      · have hmax : deficit slots state = slots - state.occupied := max_eq_left (by omega)
        rw [hmax] at hfits ⊢
        rw [if_pos hless, checkedAdmissionAdd_some reserved (slots - state.occupied) hreserved
          (by omega) (by omega), Option.bind_some,
          ih _ hcounted.tail hrestfit (by omega) (by omega), Int.add_assoc]
      · have hmax : deficit slots state = 0 := max_eq_right (by omega)
        rw [hmax] at hfits ⊢
        rw [if_neg hless, ih _ hcounted.tail hrestfit hreserved (by omega), Int.zero_add]

/-- The occupied slots and the reservation of the other keys, as one expression. -/
theorem total_add_reserved (scheduler : EndpointScheduler) (key : AdmissionKey) (active : Bool)
    (hactive : active = (scheduler.keys.lookup key).isSome) :
    scheduler.totalOccupied +
        ((scheduler.limits.maxActiveAdmissionKeys -
            (scheduler.activeKeys + if active then 0 else 1)) *
          scheduler.limits.protectedSlotsPerKey +
        Table.sum (fun _ => deficit scheduler.limits.protectedSlotsPerKey)
          (scheduler.keys.erase key)) = scheduler.promised key := by
  have htotal := scheduler.totalOccupied_split key
  have hcount := scheduler.activeKeys_split key
  have hdeficit := sum_occupied_add_deficit scheduler.limits.protectedSlotsPerKey
    (scheduler.keys.erase key)
  have hothers : scheduler.activeKeys + (if active then 0 else 1) =
      ((scheduler.keys.erase key).entries.length : Int) + 1 := by
    rw [hcount, hactive]
    cases (scheduler.keys.lookup key).isSome with
    | false => rfl
    | true => rfl
  unfold promised sharedByOthers
  -- The number of active keys cancels.
  rw [hothers, htotal]
  rw [Int.sub_mul, Int.sub_mul, Int.add_mul, Int.one_mul]
  omega

section Check

variable {scheduler : EndpointScheduler} (accepted : scheduler.limits.Accepted)
  (capacity : scheduler.WithinCapacity) (key : AdmissionKey)

include accepted capacity

theorem promised_le : scheduler.promised key ≤ scheduler.limits.totalQueued := by
  have hsplit := scheduler.sharedOccupied_split key accepted.slots_pos
  have hshared := capacity.shared_le
  have hexcess : (scheduler.stateOf key).occupied - scheduler.limits.protectedSlotsPerKey ≤
      excess scheduler.limits.protectedSlotsPerKey (scheduler.stateOf key) := le_max_left _ _
  rw [promised, Int.sub_mul, Int.one_mul]
  omega

theorem totalOccupied_le : scheduler.totalOccupied ≤ scheduler.limits.totalQueued := by
  have hdeficit := sum_occupied_add_deficit scheduler.limits.protectedSlotsPerKey
    scheduler.keys
  have hnonneg := deficits_nonneg scheduler.limits.protectedSlotsPerKey scheduler.keys
  have hkeys : scheduler.activeKeys * scheduler.limits.protectedSlotsPerKey ≤
      scheduler.limits.maxActiveAdmissionKeys * scheduler.limits.protectedSlotsPerKey :=
    Int.mul_le_mul_of_nonneg_right capacity.keys_le (Int.le_of_lt accepted.slots_pos)
  have hshared := capacity.shared_le
  unfold totalOccupied
  unfold sharedOccupied at hshared
  unfold activeKeys at hkeys
  omega

/-- The last part of the check, without its accounting branches. -/
theorem checkProtected_eq (active : Bool)
    (hactive : active = (scheduler.keys.lookup key).isSome) (count : Int)
    (hroom : scheduler.activeKeys + (if active then 0 else 1) ≤
      scheduler.limits.maxActiveAdmissionKeys) :
    scheduler.checkProtected key active count scheduler.totalOccupied =
      if scheduler.promised key + count > scheduler.limits.totalQueued then
        some (schedulerAdmissionError "protected_capacity")
      else none := by
  have hpromised := promised_le accepted capacity key
  have hreserved := scheduler.total_add_reserved key active hactive
  have hmachine := scheduler.limits.machine.1
  have htotal : 0 ≤ scheduler.totalOccupied :=
    Table.sum_nonneg _ _ capacity.counted.occupied_nonneg
  have hslots : 0 ≤ (scheduler.limits.maxActiveAdmissionKeys -
      (scheduler.activeKeys + if active then 0 else 1)) *
        scheduler.limits.protectedSlotsPerKey :=
    Int.mul_nonneg (by omega) (Int.le_of_lt accepted.slots_pos)
  have hdeficit := deficits_nonneg scheduler.limits.protectedSlotsPerKey (scheduler.keys.erase key)
  -- The loop's sum leaves out the key itself, so it runs over the other keys.
  have hexcept : (scheduler.keys.entries.map fun e => if e.1 = key then 0 else
      deficit scheduler.limits.protectedSlotsPerKey e.2).sum = _ :=
    Table.sum_except (fun _ => deficit scheduler.limits.protectedSlotsPerKey) scheduler.keys key
  have hfit : ∀ e ∈ scheduler.keys.entries, e.2.occupied ≤ maxInt := by
    intro e he
    rw [← scheduler.lookup_of_mem e he]
    have hkey := capacity.per_key e.1
    have := accepted.perKey_le_total
    omega
  have hsum := sumReserved_some key scheduler.limits.protectedSlotsPerKey
    scheduler.keys.entries _ capacity.counted hfit hslots (by rw [hexcept]; omega)
  rw [hexcept] at hsum
  unfold activeKeys at hsum hreserved hslots hroom
  unfold checkProtected
  dsimp only
  rw [if_neg (by omega), hsum]
  dsimp only
  rw [checkedAdmissionRemaining_some _ _ (by omega) (by omega)]
  dsimp only
  rw [checkedAdmissionRemaining_some _ _ htotal (by omega)]
  dsimp only
  by_cases hcount : scheduler.promised key + count > scheduler.limits.totalQueued
  · rw [if_pos hcount, if_pos (by omega)]
  · rw [if_neg hcount, if_neg (by omega)]

theorem checkAdmissionCount_eq (active : Bool)
    (hactive : active = (scheduler.keys.lookup key).isSome) (count : Int) :
    scheduler.checkAdmissionCount key active count =
      if count ≤ 0 then some (schedulerAdmissionError "queued_capacity")
      else if active = false ∧
          scheduler.activeKeys ≥ scheduler.limits.maxActiveAdmissionKeys then
        some (schedulerAdmissionError "active_admission_keys")
      else if (scheduler.stateOf key).occupied + count > scheduler.limits.maxQueuedPerKey then
        some (schedulerAdmissionError "queued_per_key")
      else if scheduler.totalOccupied + count > scheduler.limits.totalQueued ∨
          scheduler.scopeOccupied key.authorizationScope + count >
            scheduler.limits.maxQueuedPerAuthorizationScope then
        some (schedulerAdmissionError "queued_capacity")
      else if scheduler.promised key + count > scheduler.limits.totalQueued then
        some (schedulerAdmissionError "protected_capacity")
      else none := by
  have hmachine := scheduler.limits.machine.1
  have hperKey := capacity.per_key key
  have hnonneg := capacity.occupied_nonneg key
  have htotal := totalOccupied_le accepted capacity
  have hperKeyLe := accepted.perKey_le_total
  have hscope := capacity.scope_le key.authorizationScope
  have hkey : scheduler.keyOccupied key = some (scheduler.stateOf key).occupied := by
    have hqueued := capacity.queued_nonneg key
    have hdependents := capacity.dependents_nonneg key
    unfold keyOccupied
    cases hlook : scheduler.keys.lookup key with
    | none => rw [scheduler.stateOf_none key hlook]; rfl
    | some state =>
      rw [scheduler.stateOf_some key state hlook] at hqueued hdependents hperKey ⊢
      exact checkedAdmissionAdd_some _ _ hqueued hdependents
        (show state.occupied ≤ maxInt by omega)
  have hsums : sumOccupied key.authorizationScope scheduler.keys.entries 0 0 =
      some (scheduler.totalOccupied, scheduler.scopeOccupied key.authorizationScope) := by
    have hloop := sumOccupied_some key.authorizationScope scheduler.keys.entries 0 0
      capacity.counted (Int.le_refl 0) (Int.le_refl 0)
      (show 0 + scheduler.totalOccupied ≤ maxInt by omega)
    rw [hloop, Int.zero_add, Int.zero_add]
    rfl
  have hscopeNonneg : 0 ≤ scheduler.scopeOccupied key.authorizationScope := by
    refine Table.sum_nonneg _ _ (fun e he => ?_)
    split
    · exact capacity.counted.occupied_nonneg e he
    · exact Int.le_refl 0
  have htotalNonneg : 0 ≤ scheduler.totalOccupied :=
    Table.sum_nonneg _ _ capacity.counted.occupied_nonneg
  unfold checkAdmissionCount
  dsimp only
  by_cases hpos : count ≤ 0
  · rw [if_pos hpos, if_pos hpos]
  rw [if_neg hpos, if_neg hpos]
  by_cases hfull : active = false ∧
      scheduler.activeKeys ≥ scheduler.limits.maxActiveAdmissionKeys
  · rw [if_pos hfull]
    exact if_pos hfull
  rw [if_neg hfull]
  refine (if_neg hfull).trans ?_
  rw [hkey]
  dsimp only
  rw [checkedAdmissionRemaining_some _ _ hnonneg hperKey]
  dsimp only
  by_cases hover : (scheduler.stateOf key).occupied + count > scheduler.limits.maxQueuedPerKey
  · rw [if_pos hover, if_pos (by omega)]
  rw [if_neg hover, if_neg (by omega), hsums]
  dsimp only
  rw [checkedAdmissionRemaining_some _ _ htotalNonneg htotal,
    checkedAdmissionRemaining_some _ _ hscopeNonneg hscope]
  dsimp only
  by_cases hqueue : scheduler.totalOccupied + count > scheduler.limits.totalQueued ∨
      scheduler.scopeOccupied key.authorizationScope + count >
        scheduler.limits.maxQueuedPerAuthorizationScope
  · rw [if_pos hqueue, if_pos (by omega)]
  rw [if_neg hqueue, if_neg (by omega)]
  -- A new key was only let through while a position was free.
  have hroom : scheduler.activeKeys + (if active then 0 else 1) ≤
      scheduler.limits.maxActiveAdmissionKeys := by
    cases active with
    | true =>
      have := capacity.keys_le
      simp only [if_true]
      omega
    | false =>
      simp only [true_and] at hfull
      simp only [Bool.false_eq_true, if_false]
      omega
  exact checkProtected_eq accepted capacity key active hactive count hroom

/-- What a granted admission says. -/
structure Granted (scheduler : EndpointScheduler) (key : AdmissionKey) (count : Int) : Prop where
  count_pos : 0 < count
  room : (scheduler.keys.lookup key).isSome = true ∨
    scheduler.activeKeys < scheduler.limits.maxActiveAdmissionKeys
  perKey : (scheduler.stateOf key).occupied + count ≤ scheduler.limits.maxQueuedPerKey
  scope : scheduler.scopeOccupied key.authorizationScope + count ≤
    scheduler.limits.maxQueuedPerAuthorizationScope
  reserve : scheduler.promised key + count ≤ scheduler.limits.totalQueued

theorem checkAdmissionCount_granted (active : Bool)
    (hactive : active = (scheduler.keys.lookup key).isSome) (count : Int)
    (h : scheduler.checkAdmissionCount key active count = none) :
    Granted scheduler key count := by
  rw [checkAdmissionCount_eq accepted capacity key active hactive count] at h
  split at h
  · cases h
  split at h
  · cases h
  next hroom =>
  split at h
  · cases h
  split at h
  · cases h
  split at h
  · cases h
  refine ⟨by omega, ?_, by omega, by omega, by omega⟩
  cases hlook : (scheduler.keys.lookup key).isSome with
  | true => exact Or.inl rfl
  | false =>
    rw [hactive, hlook] at hroom
    simp only [true_and] at hroom
    exact Or.inr (by omega)

/-- The check never fails in its own accounting. -/
theorem checkAdmissionCount_ne_accounting (active : Bool)
    (hactive : active = (scheduler.keys.lookup key).isSome) (count : Int) :
    scheduler.checkAdmissionCount key active count ≠ some admissionAccounting := by
  rw [checkAdmissionCount_eq accepted capacity key active hactive count]
  split
  · decide
  split
  · decide
  split
  · decide
  split
  · decide
  · split
    · decide
    · nofun

/-- Below its protected slots, a key is refused one more request only by the limit of
    its scope: the reserve of the queue as a whole is always there. -/
theorem checkAdmissionCount_reserve
    (hroom : (scheduler.keys.lookup key).isSome = true ∨
      scheduler.activeKeys < scheduler.limits.maxActiveAdmissionKeys)
    (hreserve : (scheduler.stateOf key).occupied < scheduler.limits.protectedSlotsPerKey) :
    scheduler.checkAdmissionCount key (scheduler.keys.lookup key).isSome 1 = none ↔
      scheduler.scopeOccupied key.authorizationScope <
        scheduler.limits.maxQueuedPerAuthorizationScope := by
  have hperKey := accepted.slots_le_perKey
  have hshared := capacity.shared_le
  have hsplit := scheduler.sharedOccupied_split key accepted.slots_pos
  have hexcess : 0 ≤ excess scheduler.limits.protectedSlotsPerKey (scheduler.stateOf key) :=
    le_max_right _ _
  have hkeep : scheduler.promised key + 1 ≤ scheduler.limits.totalQueued := by
    rw [promised, Int.sub_mul, Int.one_mul]
    omega
  -- The other keys number at most one less than the limit, so what they hold fits too.
  have htotal : scheduler.totalOccupied + 1 ≤ scheduler.limits.totalQueued := by
    have hothers := WithinCapacity.others_occupied_le scheduler key
    have hkeys := scheduler.activeKeys_split key
    have hlimit := capacity.keys_le
    have hfew : ((scheduler.keys.erase key).entries.length : Int) ≤
        scheduler.limits.maxActiveAdmissionKeys - 1 := by
      rcases hroom with hactive | hbelow
      · rw [if_pos hactive] at hkeys
        omega
      · split at hkeys <;> omega
    have hslots := Int.mul_le_mul_of_nonneg_right hfew (Int.le_of_lt accepted.slots_pos)
    rw [scheduler.totalOccupied_split key]
    unfold promised at hkeep
    omega
  rw [checkAdmissionCount_eq accepted capacity key _ rfl 1, if_neg (by omega), if_neg ?_,
    if_neg (by omega)]
  · by_cases hscope : scheduler.scopeOccupied key.authorizationScope <
        scheduler.limits.maxQueuedPerAuthorizationScope
    · rw [if_neg (by omega), if_neg (by omega)]
      exact ⟨fun _ => hscope, fun _ => rfl⟩
    · rw [if_pos (Or.inr (by omega))]
      exact ⟨nofun, fun h => absurd h hscope⟩
  · rintro ⟨hinactive, hfull⟩
    rcases hroom with hactive | hbelow
    · rw [hactive] at hinactive
      cases hinactive
    · omega

end Check

end EndpointScheduler

end HelianthusModbus
