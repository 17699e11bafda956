import HelianthusModbus.Theory.Fairness

/-!
# The Reserved Capacity

Every reachable scheduler keeps, for each admissible key, its protected slots.

`WithinCapacity` splits the occupancy of a key at the protected level and bounds the
sum of what lies above. Here the bound is put back together: a key counts with the
larger of its occupancy and its protected slots, and a key that is not active yet
counts with its protected slots alone.

The bound speaks of the limits the scheduler was created with. No operation writes
them, whichever of the three things it does to the rings.

## Main definitions

* `EndpointScheduler.KeepsReserve`: All bounds, for given limits.

## Theorems

* `reserved_capacity_kept`: Every reachable scheduler keeps the reserve.
-/

namespace HelianthusModbus

namespace EndpointScheduler

/-- The slots of the active keys, each counted with at least its protected ones. -/
def reservedOccupied (slots : Int) (scheduler : EndpointScheduler) : Int :=
  Table.sum (fun _ state => max state.occupied slots) scheduler.keys

/-- The bounds of the limits. The first is the reserve: what the active keys hold or
    may still claim, with what the other admissible keys may claim, fits the queue. -/
structure KeepsReserve (limits : SchedulerLimits) (scheduler : EndpointScheduler) : Prop where
  reserve : scheduler.reservedOccupied limits.protectedSlotsPerKey +
    limits.protectedSlotsPerKey * (limits.maxActiveAdmissionKeys - scheduler.activeKeys) ≤
      limits.totalQueued
  per_key : ∀ key, (scheduler.stateOf key).occupied ≤ limits.maxQueuedPerKey
  per_scope : ∀ scope, scheduler.scopeOccupied scope ≤ limits.maxQueuedPerAuthorizationScope
  dependents : ∀ key, (scheduler.stateOf key).dependents ≤ limits.maxCoalescedDependentsPerKey
  keys : scheduler.activeKeys ≤ limits.maxActiveAdmissionKeys
  inFlight : scheduler.inFlight ≤ limits.maxInFlightRequests

/-- A key counted with at least its protected slots is counted with these and with
    what it takes from the shared ones. -/
theorem reservedOccupied_eq (slots : Int) (scheduler : EndpointScheduler) :
    scheduler.reservedOccupied slots =
      Table.sum (fun _ state => excess slots state) scheduler.keys +
        slots * scheduler.activeKeys := by
  have hconst : Table.sum (fun _ _ => slots) scheduler.keys = slots * scheduler.activeKeys := by
    rw [Table.sum_const]
    exact Int.mul_comm _ _
  rw [← hconst, ← Table.sum_add]
  refine Table.sum_congr _ _ _ fun e _ => ?_
  unfold excess
  omega

theorem WithinCapacity.keepsReserve {scheduler : EndpointScheduler}
    (h : scheduler.WithinCapacity) : KeepsReserve scheduler.limits scheduler := by
  refine ⟨?_, h.per_key, h.scope_le, h.dependents_le, h.keys_le, h.inFlight_le⟩
  have hshared := h.shared_le
  rw [reservedOccupied_eq, Int.mul_sub, Int.mul_comm _ scheduler.limits.maxActiveAdmissionKeys]
  unfold sharedOccupied at hshared
  omega

end EndpointScheduler

namespace SchedulerSystem

open EndpointScheduler

/-- No call writes the limits, whatever it does to the rings. -/
theorem RingStep.limits {system : SchedulerSystem} {call : SchedulerCall}
    (h : RingStep system call) :
    (system.step call).2.scheduler.limits = system.scheduler.limits := by
  cases h with
  | shrinks _ hafter => exact hafter.limits
  | opens key _ hafter => rw [hafter.limits, openKey_limits]
  | serves _ _ _ _ _ _ _ _ hexpired _ hserved hafter =>
    rw [hafter.limits, hserved.limits, hexpired.limits]

theorem Agrees.run_limits {system : SchedulerSystem} (h : Agrees system)
    (calls : List SchedulerCall) :
    (system.run calls).2.scheduler.limits = system.scheduler.limits := by
  induction calls generalizing system with
  | nil => rfl
  | cons call rest ih =>
    show ((system.step call).2.run rest).2.scheduler.limits = _
    rw [ih (h.step call).1, (h.step_rings call).limits]

end SchedulerSystem

open SchedulerSystem EndpointScheduler

/-- Whatever is called on a new scheduler, all bounds of its limits hold afterwards,
    the reserve of every admissible key included. -/
theorem reserved_capacity_kept (limits : SchedulerLimits) (scheduler : EndpointScheduler)
    (hnew : newEndpointScheduler limits = .ok scheduler) (calls : List SchedulerCall) :
    KeepsReserve limits (run { scheduler := scheduler } calls).2.scheduler := by
  have hcreated : scheduler.limits = limits := by
    unfold newEndpointScheduler at hnew
    split at hnew
    · cases hnew
    · cases hnew
      rfl
  have hinitial := Agrees.initial limits scheduler hnew
  have hexact := (hinitial.run calls).1.exact
  have hlimits := hinitial.run_limits calls
  rw [← hcreated, ← hlimits]
  exact hexact.capacity.keepsReserve

/-- A key over its protected slot and one that is not active fill the queue of three. -/
theorem reserved_capacity_kept_narrow :
    newEndpointScheduler narrowLimits = .ok { limits := narrowLimits } ∧
      KeepsReserve narrowLimits (narrowSystem.run [.enqueue ⟨1, ⟨"scope", 1⟩, 10⟩,
        .enqueue ⟨2, ⟨"scope", 1⟩, 10⟩]).2.scheduler :=
  ⟨rfl, reserved_capacity_kept narrowLimits { limits := narrowLimits } rfl _⟩

end HelianthusModbus
