import HelianthusModbus.Core.SchedulerSystem
import HelianthusModbus.Theory.Groups
import HelianthusModbus.Theory.ServiceRings

/-!
# Whole Scheduler Runs

What holds of the scheduler and its groups after any sequence of calls.

`Theory.SchedulerInvariant` shows that the scheduler keeps its counters exact as long
as it is told how many dependents are active, and `Theory.Groups` that every group
reports how many it ended. Here the two meet: the number of active dependents of a
key becomes the sum over the groups, and a group transition changes the sum and the
counter together. A scheduler operation that drops entries fails their groups, and
each of these failures is again a group transition.

## Main definitions

* `SchedulerSystem.AccountingExact`: The same, read off the tables.

## Theorems

* `SchedulerSystem.Agrees.step`, `SchedulerSystem.Agrees.run`: Every call keeps the
  agreement and reports no accounting failure.
* `scheduler_accounting_exact`: The accounting of every run is exact.
* `dependents_end_once`: Every dependent of a scheduled group ends once.
* `enqueue_within_reserve_iff`: When an enqueue within the protected slots succeeds.
-/

namespace HelianthusModbus

namespace EndpointScheduler

variable {active : AdmissionKey → Nat} {scheduler : EndpointScheduler}

theorem Exact.initial (limits : SchedulerLimits) (scheduler : EndpointScheduler)
    (h : newEndpointScheduler limits = .ok scheduler) : Exact (fun _ => 0) none scheduler := by
  unfold newEndpointScheduler at h
  split at h
  · cases h
  next hlimits =>
  cases h
  have haccepted := validateSchedulerLimits_accepted limits hlimits
  have hkeys := haccepted.keys_pos
  have hslots := haccepted.slots_pos
  have hreserve := Int.mul_pos hkeys hslots
  refine ⟨haccepted, ?_, ?_, nofun, ?_⟩
  · refine ⟨nofun, nofun, fun _ => List.nodup_nil, nofun, nofun, ?_, fun _ => rfl,
      fun _ => rfl, rfl, fun _ => rfl⟩
    intro group id
    refine ⟨nofun, ?_⟩
    rintro ⟨_, hentry, _⟩
    cases hentry
  · exact ⟨List.nodup_nil, fun _ => List.nodup_nil, fun _ => ⟨nofun, nofun⟩,
      fun _ => ⟨nofun, fun h => absurd rfl h⟩, nofun, Or.inr ⟨rfl, rfl⟩, nofun⟩
  · have hrequired := haccepted.required_le
    have hburst := haccepted.burst_pos
    have hperKey := haccepted.slots_le_perKey
    have hscope := haccepted.protected_le_scope
    have hdependents := haccepted.slots_le_dependents
    have hinFlight := haccepted.inFlight_pos
    constructor
    case queued_nonneg => exact fun _ => Int.le_refl 0
    case dependents_nonneg => exact fun _ => Int.le_refl 0
    case per_key => exact fun _ => show (0 : Int) ≤ limits.maxQueuedPerKey by omega
    case dependents_le =>
      exact fun _ => show (0 : Int) ≤ limits.maxCoalescedDependentsPerKey by omega
    case keys_le => exact show (0 : Int) ≤ limits.maxActiveAdmissionKeys by omega
    case scope_le =>
      exact fun _ => show (0 : Int) ≤ limits.maxQueuedPerAuthorizationScope by omega
    case shared_le =>
      exact show (0 : Int) + limits.maxActiveAdmissionKeys * limits.protectedSlotsPerKey ≤
        limits.totalQueued by omega
    case inFlight_le => exact show (0 : Int) ≤ limits.maxInFlightRequests by omega

/-- The groups that have an entry afterwards had one before. -/
def Narrows (before after : Books) : Prop :=
  ∀ group, after.groups group ≠ none → before.groups group ≠ none

theorem unlink_narrows (groups : Nat → Option Nat) (entry : ScheduledEntry) (group : Nat)
    (h : unlink groups entry group ≠ none) : groups group ≠ none := by
  rw [unlink_apply] at h
  split at h
  · exact absurd rfl h
  · exact h

theorem link_narrows (groups : Nat → Option Nat) (entry : ScheduledEntry) (group : Nat)
    (h : link groups entry group ≠ none) : groups group ≠ none ∨ entry.coalesced = some group := by
  rw [link_apply] at h
  split at h
  · next hown => exact Or.inr hown
  · exact Or.inl h

theorem Expires.narrows {now : Int} {before after : Books} {groups : List Nat}
    (h : Expires now before groups after) : Narrows before after := by
  induction h with
  | none books => exact fun _ hgroup => hgroup
  | more books entry groups after _ _ _ ih =>
    exact fun group hgroup => unlink_narrows _ entry group (ih group hgroup)

/-- Everything stays exact, and no group gains an entry. -/
structure Keeps (active : AdmissionKey → Nat) (scheduler after : EndpointScheduler) : Prop where
  exact : Exact active none after
  narrows : Narrows scheduler.books after.books

namespace Exact

variable (h : Exact active none scheduler)
include h

theorem keeps_refl : Keeps active scheduler scheduler :=
  ⟨h, fun _ hgroup => hgroup⟩

theorem enqueue_keeps (request : ScheduledRequest) :
    Keeps active scheduler (scheduler.enqueue request).2 ∧
      (scheduler.enqueue request).1 ≠ some admissionAccounting := by
  unfold EndpointScheduler.enqueue
  split
  · exact ⟨h.keeps_refl, show some (protocolError .invalidRequest 0 0 "scheduled_request" (-1)) ≠
      some admissionAccounting by decide⟩
  obtain ⟨hexact, hanswer⟩ := h.enqueueLocked request none 1 rfl nofun nofun
  rcases hanswer with ⟨err, herr, hne, hsame⟩ | ⟨hnone, _, _, entry, _, _, hgroup, hbooks⟩
  · rw [herr, hsame]
    exact ⟨h.keeps_refl, fun heq => hne (Option.some.inj heq)⟩
  · rw [hnone]
    refine ⟨⟨hexact, ?_⟩, nofun⟩
    rw [hbooks]
    intro group hlinked
    rcases link_narrows _ entry group hlinked with hold | hown
    · exact hold
    · rw [hgroup] at hown
      cases hown

theorem complete_keeps (id : Nat) :
    Keeps active scheduler (scheduler.complete id).2 ∧
      (scheduler.complete id).1 ≠ some admissionAccounting := by
  obtain ⟨hexact, _, hanswer⟩ := h.complete id
  rcases hanswer with ⟨err, herr, hne, hsame⟩ | ⟨hnone, entry, _, _, hbooks⟩
  · rw [herr, hsame]
    exact ⟨h.keeps_refl, fun heq => hne (Option.some.inj heq)⟩
  · rw [hnone]
    exact ⟨⟨hexact, hbooks ▸ unlink_narrows _ entry⟩, nofun⟩

theorem cancelQueued_keeps (id : Nat) :
    Keeps active scheduler (scheduler.cancelQueued id).2 ∧
      (scheduler.cancelQueued id).1 ≠ .accounting := by
  obtain ⟨hexact, _, hanswer⟩ := h.cancelQueued id
  rcases hanswer with ⟨hnot, hsame, _⟩ | ⟨entry, hcancelled, _, _, hbooks⟩
  · rw [hnot, hsame]
    exact ⟨h.keeps_refl, nofun⟩
  · rw [hcancelled]
    exact ⟨⟨hexact, hbooks ▸ unlink_narrows _ entry⟩, nofun⟩

theorem finishCoalesced_keeps (group : Nat) :
    Keeps active scheduler (scheduler.finishCoalesced group).2 ∧
      (scheduler.finishCoalesced group).1 = none := by
  obtain ⟨hexact, _, hnone, hanswer⟩ := h.finishCoalesced group
  rcases hanswer with ⟨_, hsame⟩ | ⟨id, entry, _, _, _, hbooks⟩
  · rw [hnone, hsame]
    exact ⟨h.keeps_refl, rfl⟩
  · refine ⟨⟨hexact, ?_⟩, hnone⟩
    rw [hbooks]
    cases entry.state <;> exact unlink_narrows _ entry

theorem retry_keeps (id : Nat) :
    Keeps active scheduler (scheduler.retry id).2.2 ∧
      (scheduler.retry id).1 ≠ some admissionAccounting := by
  obtain ⟨hexact, _, herr, hanswer⟩ := h.retry id
  refine ⟨⟨hexact, ?_⟩, herr⟩
  rcases hanswer with ⟨_, _, hsame⟩ | ⟨entry, hentry, _, hdone⟩
  · rw [hsame]
    exact fun _ hgroup => hgroup
  · rcases hdone with ⟨_, _, hbooks⟩ | ⟨_, _, requeued, _, _, hgroup, hbooks⟩
    · exact hbooks ▸ unlink_narrows _ entry
    · rw [hbooks]
      intro group hlinked
      rcases link_narrows _ requeued group hlinked with hold | hown
      · exact unlink_narrows _ entry group hold
      · -- The requeued entry has the group it had in flight.
        have hlink := (h.accounts.linked group id).mpr ⟨entry, hentry, hgroup ▸ hown⟩
        rw [hlink]
        nofun

theorem dispatch_keeps (now : Int) :
    Keeps active scheduler (scheduler.dispatch now).2.2 ∧
      (scheduler.dispatch now).1 ≠ .error .accounting := by
  unfold EndpointScheduler.dispatch
  obtain ⟨hexact, middle, _, _, hexpires, hanswer⟩ := h.dispatchIn _ now
  rcases hanswer with ⟨stop, hstop, hne, hsame⟩ | ⟨entry, _, hok, _, hbooks, _⟩
  · refine ⟨⟨hexact, hsame ▸ hexpires.narrows⟩, ?_⟩
    rw [hstop]
    exact fun heq => hne (Except.error.inj heq)
  · refine ⟨⟨hexact, ?_⟩, by rw [hok]; nofun⟩
    rw [hbooks]
    exact hexpires.narrows

end Exact

end EndpointScheduler

/-- The group a call is on, for the calls on one group. -/
def SchedulerCall.group? : SchedulerCall → Option Nat
  | .setOperationDeadline group _ | .bindReservation group _ _ | .beginWrite group _ _ _ _
  | .finishWriteFailure group | .cancel group _ _ | .replaySuccessfulResponse group _
  | .fail group _ | .failTransport group _ => some group
  | _ => none

namespace SchedulerSystem

open EndpointScheduler

/-- What a group contributes to the active dependents of a key. -/
def contribution (key : AdmissionKey) (_ : Nat) (group : CoalescedRead) : Nat :=
  if group.scheduled = true ∧ group.admissionKey = key then group.activeDependentCount else 0

/-- The active dependents of the groups scheduled under a key. -/
def activeUnder (system : SchedulerSystem) (key : AdmissionKey) : Nat :=
  system.groups.sum (contribution key)

/-- The scheduler is exact for the groups of the system. -/
structure Agrees (system : SchedulerSystem) : Prop where
  exact : Exact system.activeUnder none system.scheduler
  sound : ∀ id group, system.groups.lookup id = some group → group.Sound
  known : ∀ id, system.scheduler.coalesced.lookup id ≠ none → (system.groups.lookup id).isSome
  fresh : ∀ id, system.nextGroup ≤ id → system.groups.lookup id = none

theorem Agrees.scheduler {system : SchedulerSystem} (h : Agrees system)
    (after : EndpointScheduler) (hkeeps : Keeps system.activeUnder system.scheduler after) :
    Agrees { system with scheduler := after } :=
  ⟨hkeeps.exact, h.sound, fun id hid => h.known id (hkeeps.narrows id hid), h.fresh⟩

/-- A group that ends some dependents lowers the sum of its key by as many. -/
theorem activeUnder_insert (system : SchedulerSystem) (id count : Nat)
    (group after : CoalescedRead) (hgroup : system.groups.lookup id = some group)
    (hreleased : group.Released count after) (key : AdmissionKey) :
    activeUnder { system with groups := system.groups.insert id after } key +
        (if group.scheduled = true ∧ group.admissionKey = key then count else 0) =
      system.activeUnder key := by
  have hsum := Table.sum_insert (contribution key) system.groups id after
  rw [hgroup, Option.elim_some] at hsum
  have hcount := hreleased.count_eq
  have hnew : contribution key id after = if group.scheduled = true ∧ group.admissionKey = key
      then after.activeDependentCount else 0 := by
    rw [contribution, hreleased.key_eq, hreleased.scheduled_eq]
  rw [hnew, contribution] at hsum
  show Table.sum _ (system.groups.insert id after) + _ = Table.sum _ system.groups
  by_cases hkey : group.scheduled = true ∧ group.admissionKey = key
  · rw [if_pos hkey] at hsum ⊢
    rw [if_pos hkey] at hsum
    omega
  · rw [if_neg hkey] at hsum ⊢
    rw [if_neg hkey] at hsum
    omega

section Agreement

variable {system : SchedulerSystem} (h : Agrees system)
include h

/-- Storing a group that ended some dependents and telling the scheduler. -/
theorem Agrees.release (id count : Nat) (group after : CoalescedRead)
    (hgroup : system.groups.lookup id = some group) (hreleased : group.Released count after) :
    Agrees { system with
        scheduler := system.scheduler.releaseDependentCount after count
        groups := system.groups.insert id after } ∧
      Shrinks system.scheduler (system.scheduler.releaseDependentCount after count) := by
  have hactive := activeUnder_insert system id count group after hgroup hreleased
  have hkeeps : Keeps
        (activeUnder { system with groups := system.groups.insert id after }) system.scheduler
        (system.scheduler.releaseDependentCount after count) ∧
      Shrinks system.scheduler (system.scheduler.releaseDependentCount after count) := by
    unfold EndpointScheduler.releaseDependentCount
    rw [hreleased.scheduled_eq, hreleased.key_eq]
    -- The scheduler is told only of a scheduled group that ended some dependents.
    by_cases hcase : group.scheduled = true ∧ count > 0
    · rw [if_pos hcase]
      have hown := hactive group.admissionKey
      rw [if_pos ⟨hcase.1, rfl⟩] at hown
      obtain ⟨hexact, hshrinks, hbooks⟩ :=
        h.exact.releaseCoalescedDependents group.admissionKey count (by omega)
      have hupdate : Function.update system.activeUnder group.admissionKey
          (system.activeUnder group.admissionKey - count) =
          activeUnder { system with groups := system.groups.insert id after } := by
        funext key
        have hkey := hactive key
        rw [Function.update_apply]
        by_cases heq : key = group.admissionKey
        · rw [if_pos heq, heq]
          omega
        · rw [if_neg (fun hsame => heq hsame.2.symm)] at hkey
          rw [if_neg heq]
          omega
      rw [hupdate] at hexact
      refine ⟨⟨hexact, ?_⟩, hshrinks⟩
      rw [hbooks]
      exact fun _ hgroup => hgroup
    · rw [if_neg hcase]
      have hsame : activeUnder { system with groups := system.groups.insert id after } =
          system.activeUnder := by
        funext key
        have hkey := hactive key
        split at hkey
        · next hscheduled =>
          have hzero : ¬ count > 0 := fun hpos => hcase ⟨hscheduled.1, hpos⟩
          omega
        · exact hkey
      rw [hsame]
      exact ⟨h.exact.keeps_refl, h.exact.orders.refl⟩
  refine ⟨⟨hkeeps.1.exact, ?_, ?_, ?_⟩, hkeeps.2⟩
  · intro other stored hother
    change (system.groups.insert id after).lookup other = some stored at hother
    rcases Table.lookup_insert_some hother with ⟨_, rfl⟩ | ⟨_, hold⟩
    · exact hreleased.sound
    · exact h.sound other stored hold
  · intro other hother
    show ((system.groups.insert id after).lookup other).isSome
    rw [Table.lookup_insert_ite]
    split
    · rfl
    · exact h.known other (hkeeps.1.narrows other hother)
  · intro other hother
    show (system.groups.insert id after).lookup other = none
    have hfresh := h.fresh other hother
    rw [Table.lookup_insert_ite]
    split
    · next heq => rw [heq, hgroup] at hfresh; cases hfresh
    · exact hfresh

theorem Agrees.settle (id count : Nat) (completed : Bool) (group after : CoalescedRead)
    (hgroup : system.groups.lookup id = some group) (hreleased : group.Released count after) :
    Agrees (system.settle id count completed after).2 ∧
      Shrinks system.scheduler (system.settle id count completed after).2.scheduler ∧
      (system.settle id count completed after).1 = [] := by
  obtain ⟨hstored, hshrinks⟩ := h.release id count group after hgroup hreleased
  unfold SchedulerSystem.settle
  cases completed with
  | false => exact ⟨hstored, hshrinks, rfl⟩
  | true =>
    unfold EndpointScheduler.finishScheduling
    dsimp only
    rw [if_pos rfl]
    split
    · have hfinished := hstored.exact.finishCoalesced_keeps id
      refine ⟨hstored.scheduler _ hfinished.1,
        hshrinks.trans (hstored.exact.finishCoalesced id).2.1, ?_⟩
      rw [hfinished.2]
      rfl
    · exact ⟨hstored, hshrinks, rfl⟩

/-- Every scheduled group is still there, moved on, and gave back the dependents it ended. -/
def Progresses (system : SchedulerSystem) (result : SchedulerReply × SchedulerSystem) : Prop :=
  ∀ id group, system.groups.lookup id = some group → group.scheduled = true →
    ∃ later, result.2.groups.lookup id = some later ∧
      group.Released (result.1.released id) later

theorem Agrees.untouched {result : SchedulerReply × SchedulerSystem}
    (hgroups : result.2.groups = system.groups) (hreleased : result.1.released = fun _ => 0) :
    Progresses system result := by
  intro id group hgroup _
  rw [hgroups, hreleased]
  exact ⟨group, hgroup, .refl (h.sound id group hgroup)⟩

/-- What a call on one group leaves: the scheduler agrees and was not in error, its rings only
    lost members, and the groups progress. -/
structure Settles (system : SchedulerSystem) (result : SchedulerReply × SchedulerSystem) :
    Prop where
  agrees : Agrees result.2
  shrinks : Shrinks system.scheduler result.2.scheduler
  dispatched : result.1.dispatched = none
  scheduling : result.1.scheduling = []
  accounting : result.1.accounting = false
  progresses : Progresses system result

theorem Agrees.refused (err : Option ProtocolError) : Settles system ({ err := err }, system) :=
  ⟨h, h.exact.orders.refl, rfl, rfl, rfl, h.untouched rfl rfl⟩

/-- One group is stored after it ended some dependents, and the reply says how many. -/
theorem Agrees.stored {id count : Nat} {group later : CoalescedRead}
    {result : SchedulerReply × SchedulerSystem}
    (hgroup : system.groups.lookup id = some group) (hreleased : group.Released count later)
    (hgroups : result.2.groups = system.groups.insert id later)
    (hreply : ∀ other, result.1.released other =
      if other = id ∧ later.scheduled = true then count else 0) : Progresses system result := by
  intro other stored hstored hscheduled
  rw [hgroups, hreply]
  by_cases hown : other = id
  · subst hown
    cases hgroup.symm.trans hstored
    rw [Table.lookup_insert_ite, if_pos rfl,
      if_pos ⟨rfl, hreleased.scheduled_eq.trans hscheduled⟩]
    exact ⟨later, rfl, hreleased⟩
  · rw [Table.lookup_insert_ite, if_neg hown, if_neg (fun hsame => hown hsame.1)]
    exact ⟨stored, hstored, .refl (h.sound other stored hstored)⟩

/-- A group transition that reports how many dependents it ended. -/
theorem Agrees.conclude (id : Nat) (change : CoalescedRead →
      Except ProtocolError (List LogicalReadView) × Nat × Bool × CoalescedRead)
    (hchange : ∀ group : CoalescedRead, group.Sound →
      group.Released (change group).2.1 (change group).2.2.2) :
    Settles system (system.conclude id change) := by
  unfold SchedulerSystem.conclude
  cases hgroup : system.groups.lookup id with
  | none => exact h.refused none
  | some group =>
    have hreleased := hchange group (h.sound id group hgroup)
    have hsettled := h.settle id (change group).2.1 (change group).2.2.1 group
      (change group).2.2.2 hgroup hreleased
    dsimp only
    split
    · exact ⟨hsettled.1, hsettled.2.1, rfl, hsettled.2.2, rfl,
        h.stored hgroup hreleased rfl fun _ => rfl⟩
    · exact ⟨hsettled.1, hsettled.2.1, rfl, hsettled.2.2, rfl,
        h.stored hgroup hreleased rfl fun _ => rfl⟩

theorem Agrees.failTransport (id : Nat) (owner : TCPConnectionOwner) :
    Settles system (system.failTransport id owner) :=
  h.conclude id _ (fun _ hsound => hsound.failTransportLocked owner)

omit h in
theorem Progresses.trans {system : SchedulerSystem}
    {first second : SchedulerReply × SchedulerSystem}
    (h : Progresses system first) (hnext : Progresses first.2 second) {id : Nat}
    {group : CoalescedRead} (hgroup : system.groups.lookup id = some group)
    (hscheduled : group.scheduled = true) : ∃ later, second.2.groups.lookup id = some later ∧
      group.Released (first.1.released id + second.1.released id) later := by
  obtain ⟨middle, hmiddle, hreleased⟩ := h id group hgroup hscheduled
  obtain ⟨later, hlater, hmore⟩ :=
    hnext id middle hmiddle (hreleased.scheduled_eq.trans hscheduled)
  exact ⟨later, hlater, hreleased.trans hmore⟩

omit h in
theorem Agrees.failGroups (owners : Nat → TCPConnectionOwner) (ids : List Nat)
    (system : SchedulerSystem) (h : Agrees system) :
    Settles system (failGroups owners ids system) := by
  induction ids generalizing system with
  | nil => exact h.refused none
  | cons id rest ih =>
    have hfailed := h.failTransport id (owners id)
    have hmore := ih _ hfailed.agrees
    refine ⟨hmore.agrees, hfailed.shrinks.trans hmore.shrinks, rfl, ?_, rfl, ?_⟩
    · show (system.failTransport id (owners id)).1.scheduling ++ _ = []
      rw [hfailed.scheduling, hmore.scheduling]
      rfl
    · exact fun _ _ => hfailed.progresses.trans hmore.progresses

/-- Storing a group that ended no dependent does not concern the scheduler. -/
theorem Agrees.kept {id : Nat} {group later : CoalescedRead}
    (hgroup : system.groups.lookup id = some group) (hreleased : group.Released 0 later)
    (err : Option ProtocolError) :
    Settles system ({ err := err }, { system with groups := system.groups.insert id later }) := by
  have hstored := h.release id 0 group later hgroup hreleased
  rw [EndpointScheduler.releaseDependentCount, if_neg (fun hpos => absurd hpos.2
    (Nat.lt_irrefl 0))] at hstored
  exact ⟨hstored.1, hstored.2, rfl, rfl, rfl,
    h.stored hgroup hreleased rfl fun _ => (ite_self 0).symm⟩

/-- A group transition that ends no dependent and stays inside the group. -/
theorem Agrees.update (id : Nat) (change : CoalescedRead → Option ProtocolError × CoalescedRead)
    (hchange : ∀ group : CoalescedRead, group.Sound → group.Released 0 (change group).2) :
    Settles system (system.update id change) := by
  unfold SchedulerSystem.update
  cases hgroup : system.groups.lookup id with
  | none => exact h.refused none
  | some group => exact h.kept hgroup (hchange group (h.sound id group hgroup)) _

theorem Agrees.beginWrite (id transport generation : Nat) (registered : Option ProtocolError)
    (owner : TCPConnectionOwner) :
    Settles system (system.beginWrite id transport generation registered owner) := by
  unfold SchedulerSystem.beginWrite
  cases hgroup : system.groups.lookup id with
  | none => exact h.refused none
  | some group =>
    dsimp only
    split
    · next err _ => exact h.refused (some err)
    next hnone =>
    rw [Option.or_eq_none_iff, Option.or_eq_none_iff, Option.or_eq_none_iff] at hnone
    have hchecked := hnone.1.1.1
    unfold CoalescedRead.checkBeginWrite at hchecked
    split at hchecked
    · cases hchecked
    next hopen =>
    push Not at hopen
    exact h.kept hgroup ((h.sound id group hgroup).beginWrite
      (Bool.eq_false_iff.mpr hopen.2.1) (Bool.eq_false_iff.mpr hopen.1) transport) none

theorem Agrees.added (group : CoalescedRead) (key : AdmissionKey) (entry : ScheduledEntry)
    (after : EndpointScheduler) (hsound : group.Sound)
    (hexact : Exact (Function.update system.activeUnder key
      (system.activeUnder key + group.activeDependentCount)) none after)
    (hentry : entry.coalesced = some system.nextGroup)
    (hgroups : after.books.groups = link system.scheduler.books.groups entry) :
    Agrees { scheduler := after
             groups := system.groups.insert system.nextGroup
               { group with scheduled := true, admissionKey := key }
             nextGroup := system.nextGroup + 1 } := by
  have hfresh := h.fresh system.nextGroup (Nat.le_refl _)
  constructor
  case exact =>
    convert hexact using 1
    funext other
    have hsum := Table.sum_insert (contribution other) system.groups system.nextGroup
      { group with scheduled := true, admissionKey := key }
    rw [hfresh, Option.elim_none, Nat.add_zero] at hsum
    show Table.sum _ (AList.insert _ _ _) = _
    rw [hsum, Function.update_apply, contribution]
    -- The new group counts for its own key and for no other.
    by_cases hkey : other = key
    · rw [if_pos ⟨rfl, hkey.symm⟩, if_pos hkey, hkey]
      rfl
    · rw [if_neg (fun hsame => hkey hsame.2.symm), if_neg hkey]
      rfl
  case sound =>
    intro id stored hstored
    rcases Table.lookup_insert_some hstored with ⟨_, rfl⟩ | ⟨_, hold⟩
    · exact hsound.relabel
    · exact h.sound id stored hold
  case known =>
    intro id hid
    rw [Table.lookup_insert_ite]
    split
    · rfl
    next hne =>
    change after.books.groups id ≠ none at hid
    rw [hgroups] at hid
    rcases link_narrows _ entry id hid with hold | hown
    · exact h.known id hold
    · rw [hentry] at hown
      exact absurd (Option.some.inj hown).symm hne
  case fresh =>
    intro id hid
    change system.nextGroup + 1 ≤ id at hid
    rw [Table.lookup_insert_ite, if_neg (by omega)]
    exact h.fresh id (by omega)

theorem Agrees.unknown : system.scheduler.coalesced.lookup system.nextGroup = none := by
  by_contra hknown
  have hsome := h.known _ hknown
  rw [h.fresh _ (Nat.le_refl _)] at hsome
  cases hsome

/-- No part of a reply is a failed counter check. -/
def SilentReply (reply : SchedulerReply) : Prop :=
  admissionAccounting ∉ reply.scheduling ∧ reply.accounting = false

theorem Agrees.scheduleCoalesced (request : ScheduledRequest) (intents : List ReadIntent) :
    Agrees (system.scheduleCoalesced request intents).2 ∧
      SilentReply (system.scheduleCoalesced request intents).1 ∧
      Progresses system (system.scheduleCoalesced request intents) := by
  unfold SchedulerSystem.scheduleCoalesced
  split
  · exact ⟨h, ⟨List.not_mem_nil, rfl⟩, h.untouched rfl rfl⟩
  split
  · exact ⟨h, ⟨List.not_mem_nil, rfl⟩, h.untouched rfl rfl⟩
  next group hgroup =>
  obtain ⟨hsound, hcount, _, _, _⟩ := coalesceReads_sound intents _ group hgroup
  rcases h.exact.scheduleCoalescedLocked request intents.length system.nextGroup h.unknown with
    ⟨err, herr, hne, hexact, hbooks, _⟩ |
      ⟨hnone, _, hexact, _, entry, _, _, hentry, hbooks⟩
  · dsimp only
    rw [herr]
    exact ⟨h.scheduler _ ⟨hexact, by rw [hbooks]; exact fun _ hlinked => hlinked⟩,
      ⟨fun hmem => hne (List.mem_singleton.mp hmem).symm, rfl⟩, h.untouched rfl rfl⟩
  · dsimp only
    rw [hnone]
    refine ⟨h.added group request.key entry _ hsound (by rw [hcount]; exact hexact) hentry
      (congrArg Books.groups hbooks), ⟨List.not_mem_nil, rfl⟩, fun id stored hstored _ => ?_⟩
    -- The new group has a number of its own, so the others stay as they are.
    have hother : id ≠ system.nextGroup := by
      rintro rfl
      exact nomatch (h.fresh _ (Nat.le_refl _)).symm.trans hstored
    exact ⟨stored, (Table.lookup_insert_ite _ _ _ _).trans ((if_neg hother).trans hstored),
      .refl (h.sound id stored hstored)⟩

omit h in
theorem silent_of_ne (err : Option ProtocolError) (h : err ≠ some admissionAccounting) :
    admissionAccounting ∉ err.toList := by
  intro hmem
  exact h (Option.mem_toList.mp hmem)

theorem Agrees.step_group (call : SchedulerCall) (id : Nat) (hcall : call.group? = some id) :
    Settles system (system.step call) := by
  cases call with
  | setOperationDeadline group deadline =>
    cases hcall
    exact h.update id _ (fun _ hsound => hsound.setOperationDeadline deadline)
  | bindReservation group reservation owner =>
    cases hcall
    exact h.update id _ (fun _ hsound => hsound.bindReservation reservation owner)
  | beginWrite group transport generation registered owner =>
    cases hcall
    exact h.beginWrite id transport generation registered owner
  | finishWriteFailure group =>
    cases hcall
    refine h.conclude id _ (fun group hsound => ?_)
    by_cases hguard : group.writeBegun = false ∨ group.completed = true
    · rw [if_pos hguard]
      exact CoalescedRead.Released.refl hsound
    · rw [if_neg hguard]
      push Not at hguard
      exact hsound.finishWriteFailureLocked (Bool.not_eq_false _ |>.mp hguard.1)
  | cancel group logicalViewID owner =>
    cases hcall
    exact h.conclude id _ (fun _ hsound => hsound.cancelLocked logicalViewID owner)
  | replaySuccessfulResponse group response =>
    cases hcall
    exact h.conclude id _ (fun _ hsound => hsound.replayLocked response)
  | fail group response =>
    cases hcall
    exact h.conclude id _ (fun _ hsound => hsound.failLocked response)
  | failTransport group owner =>
    cases hcall
    exact h.failTransport id owner
  | enqueue | scheduleCoalesced | dispatch | cancelQueued | retry | complete
  | finishCoalesced => cases hcall

omit h in
theorem Settles.silent {result : SchedulerReply × SchedulerSystem} (h : Settles system result) :
    SilentReply result.1 :=
  ⟨by rw [h.scheduling]; exact List.not_mem_nil, h.accounting⟩

theorem Agrees.step (call : SchedulerCall) :
    Agrees (system.step call).2 ∧ SilentReply (system.step call).1 ∧
      Progresses system (system.step call) := by
  cases hcall : call.group? with
  | some id =>
    have hsettles := h.step_group call id hcall
    exact ⟨hsettles.agrees, hsettles.silent, hsettles.progresses⟩
  | none =>
  cases call with
  | enqueue request =>
    have hqueued := h.exact.enqueue_keeps request
    exact ⟨h.scheduler _ hqueued.1, ⟨silent_of_ne _ hqueued.2, rfl⟩, h.untouched rfl rfl⟩
  | scheduleCoalesced request intents => exact h.scheduleCoalesced request intents
  | dispatch nowOffset owners =>
    have hdispatched := h.exact.dispatch_keeps nowOffset
    have hfailed := (h.scheduler _ hdispatched.1).failGroups owners
      (system.scheduler.dispatch nowOffset).2.1
    unfold SchedulerSystem.step
    dsimp only
    -- A dispatch that serves nothing returns an error, which is not one of the accounting.
    split
    · exact ⟨hfailed.agrees, hfailed.silent, hfailed.progresses⟩
    · next stop hstop =>
      refine ⟨hfailed.agrees, ⟨hfailed.silent.1, decide_eq_false ?_⟩, hfailed.progresses⟩
      rintro rfl
      exact hdispatched.2 hstop
  | cancelQueued requestID owners =>
    have hcancelled := h.exact.cancelQueued_keeps requestID
    unfold SchedulerSystem.step
    dsimp only
    split
    · next group hgroup =>
      have hfailed := (h.scheduler _ hcancelled.1).failGroups owners group.toList
      exact ⟨hfailed.agrees, hfailed.silent, hfailed.progresses⟩
    · exact ⟨h.scheduler _ hcancelled.1, ⟨List.not_mem_nil, decide_eq_false hcancelled.2⟩,
        h.untouched rfl rfl⟩
  | retry requestID owners =>
    have hretried := h.exact.retry_keeps requestID
    have hfailed := (h.scheduler _ hretried.1).failGroups owners
      (system.scheduler.retry requestID).2.1.toList
    refine ⟨hfailed.agrees, ⟨?_, hfailed.accounting⟩, hfailed.progresses⟩
    show admissionAccounting ∉ _ ++ _
    rw [hfailed.scheduling, List.append_nil]
    exact silent_of_ne _ hretried.2
  | complete requestID =>
    have hcompleted := h.exact.complete_keeps requestID
    exact ⟨h.scheduler _ hcompleted.1, ⟨silent_of_ne _ hcompleted.2, rfl⟩, h.untouched rfl rfl⟩
  | finishCoalesced group =>
    have hfinished := h.exact.finishCoalesced_keeps group
    exact ⟨h.scheduler _ hfinished.1, ⟨silent_of_ne _ (by rw [hfinished.2]; nofun), rfl⟩,
      h.untouched rfl rfl⟩
  | setOperationDeadline | bindReservation | beginWrite | finishWriteFailure | cancel
  | replaySuccessfulResponse | fail | failTransport => cases hcall

theorem Agrees.run (calls : List SchedulerCall) :
    Agrees (system.run calls).2 ∧ ∀ reply ∈ (system.run calls).1, SilentReply reply := by
  induction calls generalizing system with
  | nil => exact ⟨h, nofun⟩
  | cons call rest ih =>
    obtain ⟨hstep, hreply, _⟩ := h.step call
    obtain ⟨hrest, hreplies⟩ := ih hstep
    refine ⟨hrest, ?_⟩
    intro reply hmem
    rcases List.mem_cons.mp hmem with rfl | hmem
    · exact hreply
    · exact hreplies reply hmem

/-- How many dependents of a group a run gave back. -/
def releasedIn (replies : List SchedulerReply) (id : Nat) : Nat :=
  (replies.map fun reply => reply.released id).sum

/-- A whole run, by induction on the calls: the group is still there, its dependents moved on,
    and what it gave back is what ended. -/
theorem Agrees.run_progresses {id : Nat} {group : CoalescedRead}
    (hgroup : system.groups.lookup id = some group) (hscheduled : group.scheduled = true)
    (calls : List SchedulerCall) :
    ∃ later, (system.run calls).2.groups.lookup id = some later ∧
      group.Released (releasedIn (system.run calls).1 id) later := by
  induction calls generalizing system group with
  | nil => exact ⟨group, hgroup, .refl (h.sound id group hgroup)⟩
  | cons call rest ih =>
    obtain ⟨hstep, _, hprogresses⟩ := h.step call
    obtain ⟨middle, hmiddle, hreleased⟩ := hprogresses id group hgroup hscheduled
    obtain ⟨later, hlater, hmore⟩ :=
      ih hstep hmiddle (hreleased.scheduled_eq.trans hscheduled)
    exact ⟨later, hlater, hreleased.trans hmore⟩

/-- A group that was just scheduled is under the key of its request, and every dependent is
    queued. -/
theorem Agrees.scheduled {request : ScheduledRequest} {intents : List ReadIntent}
    {group : CoalescedRead}
    (hgroup : (system.step (.scheduleCoalesced request intents)).2.groups.lookup
      system.nextGroup = some group) :
    group.scheduled = true ∧ group.admissionKey = request.key ∧
      ∀ dependent ∈ group.dependents, dependent.state = .queued := by
  have hfresh := h.fresh system.nextGroup (Nat.le_refl _)
  simp only [SchedulerSystem.step, SchedulerSystem.scheduleCoalesced] at hgroup
  split at hgroup
  · cases hfresh.symm.trans hgroup
  split at hgroup
  · cases hfresh.symm.trans hgroup
  next admitted hadmitted =>
  split at hgroup
  · cases hfresh.symm.trans hgroup
  rw [Table.lookup_insert_ite, if_pos rfl] at hgroup
  cases hgroup
  refine ⟨rfl, rfl, fun dependent hdependent => ?_⟩
  rcases (coalesceReads_iff _ _ _).mp hadmitted with ⟨_, first, _, physical, _, rfl⟩
  rcases List.mem_map.mp hdependent with ⟨intent, _, rfl⟩
  rfl

/-- The accounting of a system, read off its tables. -/
structure AccountingExact (system : SchedulerSystem) : Prop where
  queued : ∀ key state, system.scheduler.keys.lookup key = some state →
    state.queued = (state.queue.map ScheduledEntry.admissionWeight).sum
  in_flight : ∀ key state, system.scheduler.keys.lookup key = some state →
    state.inFlight = (Table.count (inFlightUnder key) system.scheduler.entries : Nat)
  in_flight_total :
    system.scheduler.inFlight = (Table.count isInFlight system.scheduler.entries : Nat)
  dependents : ∀ key state, system.scheduler.keys.lookup key = some state →
    state.dependents = (system.activeUnder key : Nat)
  queue_once : ∀ key state, system.scheduler.keys.lookup key = some state → state.queue.Nodup
  queue_iff : ∀ key state, system.scheduler.keys.lookup key = some state → ∀ entry,
    entry ∈ state.queue ↔
      system.scheduler.entries.lookup entry.request.requestID = some entry ∧
        entry.request.key = key ∧ entry.state = .queued
  entry_key : ∀ id entry, system.scheduler.entries.lookup id = some entry →
    entry.request.requestID = id ∧ (system.scheduler.keys.lookup entry.request.key).isSome
  key_iff : ∀ key, (system.scheduler.keys.lookup key).isSome ↔
    (∃ id entry, system.scheduler.entries.lookup id = some entry ∧ entry.request.key = key ∧
        entry.state = .queued) ∨
      (∃ id entry, system.scheduler.entries.lookup id = some entry ∧ entry.request.key = key ∧
        entry.state = .inFlight) ∨
      0 < system.activeUnder key
  orders : Orders system.scheduler

theorem Agrees.key_of_entry (id : Nat) (entry : ScheduledEntry)
    (hentry : system.scheduler.entries.lookup id = some entry) :
    (system.scheduler.keys.lookup entry.request.key).isSome := by
  cases hstate : entry.state with
  | queued =>
    have hmem := h.exact.accounts.queued_mem id entry hentry hstate
    rw [system.scheduler.lookup_of_queued _ entry hmem]
    rfl
  | inFlight =>
    have hpos := h.exact.accounts.inFlight_pos id entry hentry hstate
    rw [system.scheduler.lookup_of_inFlight _ hpos.1]
    rfl

/-- A key is active exactly while it holds an entry or a dependent. -/
theorem Agrees.key_iff (key : AdmissionKey) :
    (system.scheduler.keys.lookup key).isSome ↔
      (∃ id entry, system.scheduler.entries.lookup id = some entry ∧
          entry.request.key = key ∧ entry.state = .queued) ∨
        (∃ id entry, system.scheduler.entries.lookup id = some entry ∧
          entry.request.key = key ∧ entry.state = .inFlight) ∨
        0 < system.activeUnder key := by
  have haccounts := h.exact.accounts
  constructor
  · intro hactive
    obtain ⟨state, hlook⟩ := Option.isSome_iff_exists.mp hactive
    have hstate := system.scheduler.stateOf_some key state hlook
    have hheld := h.exact.live key state hlook nofun
    -- A key that holds nothing is dropped, so one of its three counters is not zero.
    by_cases hqueue : state.queue = []
    · right
      by_cases hcount : state.inFlight = 0
      · right
        have hdependents := haccounts.dependents_eq key
        rw [show system.scheduler.books.states key = state from hstate] at hdependents
        have hne : state.dependents ≠ 0 := fun hzero => hheld ⟨hqueue, hcount, hzero⟩
        omega
      · left
        have hinFlight := haccounts.inFlight_eq key
        rw [show system.scheduler.books.states key = state from hstate] at hinFlight
        obtain ⟨id, entry, hentry, hunder⟩ :=
          (Table.sum_pos_iff _ system.scheduler.entries).mp
            (show 0 < Table.count (inFlightUnder key) system.scheduler.entries by
              change state.inFlight =
                (Table.count (inFlightUnder key) system.scheduler.entries : Nat) at hinFlight
              omega)
        split at hunder
        · next hmatch =>
          have hboth := of_decide_eq_true hmatch
          exact ⟨id, entry, hentry, hboth.2, hboth.1⟩
        · exact absurd hunder (Nat.lt_irrefl 0)
    · left
      obtain ⟨entry, rest, hcons⟩ := List.exists_cons_of_ne_nil hqueue
      have hmem : entry ∈ (system.scheduler.books.states key).queue := by
        rw [show system.scheduler.books.states key = state from hstate, hcons]
        exact List.mem_cons_self
      obtain ⟨hentry, hkey, hqueued⟩ := haccounts.queue_entry key entry hmem
      exact ⟨_, entry, hentry, hkey, hqueued⟩
  · rintro (⟨id, entry, hentry, rfl, _⟩ | ⟨id, entry, hentry, rfl, _⟩ | hpos)
    · exact h.key_of_entry id entry hentry
    · exact h.key_of_entry id entry hentry
    · have hdependents : (system.scheduler.stateOf key).dependents = system.activeUnder key :=
        haccounts.dependents_eq key
      by_contra hnone
      rw [Option.not_isSome_iff_eq_none] at hnone
      rw [system.scheduler.stateOf_none key hnone] at hdependents
      change (0 : Int) = _ at hdependents
      omega

theorem Agrees.accountingExact : AccountingExact system := by
  have haccounts := h.exact.accounts
  have hstates : ∀ key state, system.scheduler.keys.lookup key = some state →
      system.scheduler.books.states key = state :=
    fun key state hlook => system.scheduler.stateOf_some key state hlook
  constructor
  case queued => exact fun key state hlook => hstates key state hlook ▸ haccounts.queued_eq key
  case in_flight =>
    exact fun key state hlook => hstates key state hlook ▸ haccounts.inFlight_eq key
  case in_flight_total => exact haccounts.inFlight_total
  case dependents =>
    exact fun key state hlook => hstates key state hlook ▸ haccounts.dependents_eq key
  case queue_once =>
    exact fun key state hlook => hstates key state hlook ▸ haccounts.queue_nodup key
  case queue_iff =>
    intro key state hlook entry
    have hstate := hstates key state hlook
    constructor
    · exact fun hmem => haccounts.queue_entry key entry (hstate.symm ▸ hmem)
    · rintro ⟨hentry, rfl, hqueued⟩
      exact hstate ▸ haccounts.queued_mem _ entry hentry hqueued
  case entry_key =>
    exact fun id entry hentry => ⟨haccounts.entry_id id entry hentry,
      h.key_of_entry id entry hentry⟩
  case key_iff => exact h.key_iff
  case orders => exact h.exact.orders

/-- Nothing is queued or in flight, and every dependent has ended. -/
def Drained (system : SchedulerSystem) : Prop :=
  (∀ id, system.scheduler.entries.lookup id = none) ∧
    ∀ id group, system.groups.lookup id = some group → group.activeDependentCount = 0

/-- A drained scheduler is a new one, but for the sequence it has counted. -/
theorem Agrees.drained (hdrained : Drained system) :
    system.scheduler = { limits := system.scheduler.limits
                         nextSequence := system.scheduler.nextSequence } := by
  obtain ⟨hentries, hgroups⟩ := hdrained
  have horders := h.exact.orders
  have hactive : ∀ key, system.activeUnder key = 0 := by
    intro key
    by_contra hpos
    obtain ⟨id, group, hgroup, hcount⟩ :=
      (Table.sum_pos_iff (contribution key) system.groups).mp (Nat.pos_of_ne_zero hpos)
    unfold contribution at hcount
    rw [hgroups id group hgroup] at hcount
    split at hcount <;> exact Nat.lt_irrefl 0 hcount
  have hnoEntries : system.scheduler.entries = ∅ :=
    Table.eq_empty_of_lookup _ fun id entry hentry => nomatch (hentries id).symm.trans hentry
  -- Without entries and dependents no key is active, and without keys no scope is listed.
  have hnoKeys : system.scheduler.keys = ∅ := by
    refine Table.eq_empty_of_lookup _ fun key state hstate => ?_
    rcases (h.key_iff key).mp (Option.isSome_of_eq_some hstate) with
      ⟨id, entry, hentry, _⟩ | ⟨id, entry, hentry, _⟩ | hpos
    · exact nomatch (hentries id).symm.trans hentry
    · exact nomatch (hentries id).symm.trans hentry
    · rw [hactive key] at hpos
      exact Nat.lt_irrefl 0 hpos
  have hunits : ∀ scope, system.scheduler.unitsOf scope = [] := by
    intro scope
    refine List.eq_nil_iff_forall_not_mem.mpr (fun unit hunit => ?_)
    have hlisted := (horders.listed ⟨scope, unit⟩).mpr hunit
    rw [hnoKeys] at hlisted
    cases hlisted
  have hnoUnits : system.scheduler.unitOrder = ∅ := by
    refine Table.eq_empty_of_lookup _ fun scope units hlook => ?_
    have hempty := hunits scope
    rw [EndpointScheduler.unitsOf, hlook, Option.getD_some] at hempty
    exact horders.units_nonempty scope (hempty ▸ hlook)
  have hnoCursors : system.scheduler.unitCursor = ∅ := by
    refine Table.eq_empty_of_lookup _ fun scope cursor hlook => ?_
    have hrange := horders.unit_cursor scope cursor hlook
    rw [hunits scope] at hrange
    exact Nat.not_lt_zero _ hrange
  have hscopes : system.scheduler.scopeOrder = [] := by
    refine List.eq_nil_iff_forall_not_mem.mpr (fun scope hscope => ?_)
    exact (horders.scope_listed scope).mp hscope (hunits scope)
  have hscopeCursor : system.scheduler.scopeCursor = 0 := by
    have hrange := horders.scope_cursor
    rw [hscopes] at hrange
    rcases hrange with hlt | ⟨_, hzero⟩
    · exact absurd hlt (Nat.not_lt_zero _)
    · exact hzero
  have hnoGroups : system.scheduler.coalesced = ∅ := by
    refine Table.eq_empty_of_lookup _ fun group id hlook => ?_
    obtain ⟨entry, hentry, _⟩ := (h.exact.accounts.linked group id).mp hlook
    exact nomatch (hentries id).symm.trans hentry
  have hinFlight : system.scheduler.inFlight = 0 := by
    have htotal := h.exact.accounts.inFlight_total
    rw [show system.scheduler.books.entries = ∅ from hnoEntries] at htotal
    exact htotal
  clear hentries horders hunits
  generalize system.scheduler = scheduler at *
  cases scheduler
  subst hnoEntries hnoKeys hnoUnits hnoCursors hnoGroups hscopes hscopeCursor hinFlight
  rfl

end Agreement

theorem Agrees.initial (limits : SchedulerLimits) (scheduler : EndpointScheduler)
    (h : newEndpointScheduler limits = .ok scheduler) : Agrees { scheduler := scheduler } := by
  refine ⟨Exact.initial limits scheduler h, ?_, ?_, fun _ _ => rfl⟩
  · intro id group hgroup
    cases (show (none : Option CoalescedRead) = some group from hgroup)
  unfold newEndpointScheduler at h
  split at h
  · cases h
  · cases h
    exact fun _ hne => absurd rfl hne

end SchedulerSystem

open SchedulerSystem EndpointScheduler

/-- The accounting of every run from a new scheduler is exact, no counter check ever
    fails, and a drained scheduler is empty. -/
theorem scheduler_accounting_exact (limits : SchedulerLimits) (scheduler : EndpointScheduler)
    (hnew : newEndpointScheduler limits = .ok scheduler) (calls : List SchedulerCall) :
    AccountingExact (run { scheduler := scheduler } calls).2 ∧
      (∀ reply ∈ (run { scheduler := scheduler } calls).1, SilentReply reply) ∧
      (Drained (run { scheduler := scheduler } calls).2 →
        (run { scheduler := scheduler } calls).2.scheduler =
          { limits := (run { scheduler := scheduler } calls).2.scheduler.limits
            nextSequence := (run { scheduler := scheduler } calls).2.scheduler.nextSequence }) := by
  obtain ⟨hagrees, hsilent⟩ := (Agrees.initial limits scheduler hnew).run calls
  exact ⟨hagrees.accountingExact, hsilent, hagrees.drained⟩

/-- Two keys with one protected slot each and one shared slot. The scope limit is the
    least one the check accepts. -/
def narrowLimits : SchedulerLimits where
  maxActiveAdmissionKeys := 2
  protectedSlotsPerKey := 1
  sharedBurstSlots := 1
  totalQueued := 3
  maxQueuedPerKey := 2
  maxQueuedPerAuthorizationScope := 2
  maxCoalescedDependentsPerKey := 2
  maxRetryAttempts := 1
  maxInFlightRequests := 1

/-- The system of a scheduler with these limits. -/
def narrowSystem : SchedulerSystem := { scheduler := { limits := narrowLimits } }

/-- An owner that has reserved the request of two of the overlapping reads. -/
def sharedOwner : TCPConnectionOwner :=
  (TCPConnectionOwner.reserve
    { endpoint := "endpoint", connectionID := 7, generation := 1, limits := ⟨1, 1⟩ } 1
    (.read { function := 3, table := .holdingRegisters, offset := 10, quantity := 6 }) 0).2

def sharedReservation : TCPReservation :=
  { owner := some 7, physicalRequestID := 1, generation := 1 }

/-- The answer of a bank in which every register holds its own address. -/
def sharedAnswer : WireResponse :=
  ((sharedOwner.markWriteInvoked sharedReservation).2.correlate 1
    { transactionID := 0, unitID := 1
      pdu := [3, 12, 0, 10, 0, 11, 0, 12, 0, 13, 0, 14, 0, 15] }).1

/-- Two reads that share a request, which is dispatched and written while another scope queues
    one. The first read is cancelled after the write. -/
def sharedCalls : List SchedulerCall :=
  [.dispatch 0 fun _ => sharedOwner, .enqueue ⟨2, ⟨"other", 1⟩, 10⟩,
    .bindReservation 0 sharedReservation sharedOwner, .beginWrite 0 7 1 none sharedOwner,
    .cancel 0 1 sharedOwner]

/-- One request is in flight with one of its two dependents left, another one is queued. -/
theorem scheduler_accounting_exact_example :
    let reached := (narrowSystem.run (.scheduleCoalesced ⟨1, ⟨"scope", 1⟩, 10⟩
      (overlappingIntents.take 2) :: sharedCalls)).2
    newEndpointScheduler narrowLimits = .ok { limits := narrowLimits } ∧
      reached.scheduler.inFlight = 1 ∧
      (reached.scheduler.stateOf ⟨"scope", 1⟩).dependents = 1 ∧
      (reached.scheduler.stateOf ⟨"other", 1⟩).queued = 1 ∧ AccountingExact reached :=
  ⟨rfl, by decide +kernel, by decide +kernel, by decide +kernel,
    (scheduler_accounting_exact narrowLimits { limits := narrowLimits } rfl _).1⟩

/-- Every dependent of a scheduled group ends once. Whatever is called on the scheduler and its
    groups, the dependents only move forward, the group is completed when none is active any
    more, nothing moves after that, and the group gave back exactly those that ended, so that
    the counter of its key has those of all groups that did not. -/
theorem dependents_end_once (limits : SchedulerLimits) (scheduler : EndpointScheduler)
    (hnew : newEndpointScheduler limits = .ok scheduler) (before : List SchedulerCall)
    (request : ScheduledRequest) (intents : List ReadIntent) (system : SchedulerSystem)
    (hsystem : system = (run { scheduler := scheduler } before).2) (group : CoalescedRead)
    (hgroup : (system.step (.scheduleCoalesced request intents)).2.groups.lookup
      system.nextGroup = some group) (calls more : List SchedulerCall) :
    let admitted := (system.step (.scheduleCoalesced request intents)).2
    let reached := (admitted.run calls).2
    (∀ dependent ∈ group.dependents, dependent.state = .queued) ∧
      ∃ later latest, reached.groups.lookup system.nextGroup = some later ∧
        (reached.run more).2.groups.lookup system.nextGroup = some latest ∧
        List.Forall₂ CoalescedDependent.Moves group.dependents later.dependents ∧
        List.Forall₂ CoalescedDependent.Moves later.dependents latest.dependents ∧
        (later.completed = true ↔
          ∀ dependent ∈ later.dependents, dependent.state.active = false) ∧
        (later.completed = true → latest.dependents = later.dependents) ∧
        releasedIn (admitted.run calls).1 system.nextGroup = later.endedDependentCount ∧
        later.scheduled = true ∧ later.admissionKey = request.key ∧
        (reached.scheduler.stateOf request.key).dependents = reached.activeUnder request.key := by
  subst hsystem
  intro admitted reached
  have hagrees := ((Agrees.initial limits scheduler hnew).run before).1
  have hadmitted : Agrees admitted := (hagrees.step _).1
  have hreached : Agrees reached := (hadmitted.run calls).1
  rcases hagrees.scheduled hgroup with ⟨hscheduled, hkey, hqueued⟩
  rcases hadmitted.run_progresses hgroup hscheduled calls with ⟨later, hlater, hreleased⟩
  rcases hreached.run_progresses hlater (hreleased.scheduled_eq.trans hscheduled) more with
    ⟨latest, hlatest, hnext⟩
  have hnone : group.endedDependentCount = 0 :=
    List.countP_eq_zero.mpr fun dependent hmem => by rw [hqueued dependent hmem]; nofun
  refine ⟨hqueued, later, latest, hlater, hlatest, hreleased.moves, hnext.moves,
    hreleased.sound.completed_iff,
    fun hdone => hnext.dependents_eq (hreleased.sound.completed_iff.mp hdone), ?_,
    hreleased.scheduled_eq.trans hscheduled, hreleased.key_eq.trans hkey,
    hreached.exact.accounts.dependents_eq request.key⟩
  rw [hreleased.ended_eq, hnone, Nat.zero_add]

/-- One read was cancelled after the write, and the answer delivers the other. -/
theorem dependents_end_once_two :
    let admitted := (narrowSystem.step (.scheduleCoalesced ⟨1, ⟨"scope", 1⟩, 10⟩
      (overlappingIntents.take 2))).2
    let calls := sharedCalls ++ [.replaySuccessfulResponse 0 sharedAnswer]
    ∃ later, (admitted.run calls).2.groups.lookup narrowSystem.nextGroup = some later ∧
      later.completed = true ∧
      later.dependents.map CoalescedDependent.state = [.cancelled, .delivered] ∧
      releasedIn (admitted.run calls).1 narrowSystem.nextGroup = later.endedDependentCount ∧
      later.endedDependentCount = 2 := by
  have hgroup : ((narrowSystem.step (.scheduleCoalesced ⟨1, ⟨"scope", 1⟩, 10⟩
      (overlappingIntents.take 2))).2.groups.lookup narrowSystem.nextGroup).isSome := by
    decide +kernel
  have hstates : (((narrowSystem.step (.scheduleCoalesced ⟨1, ⟨"scope", 1⟩, 10⟩
      (overlappingIntents.take 2))).2.run (sharedCalls ++
        [.replaySuccessfulResponse 0 sharedAnswer])).2.groups.lookup narrowSystem.nextGroup).map
      (fun later => (later.completed, later.dependents.map CoalescedDependent.state,
        later.endedDependentCount)) = some (true, [.cancelled, .delivered], 2) := by
    decide +kernel
  obtain ⟨group, hgroup⟩ := Option.isSome_iff_exists.mp hgroup
  rcases dependents_end_once narrowLimits { limits := narrowLimits } rfl [] _ _ narrowSystem rfl
    group hgroup (sharedCalls ++ [.replaySuccessfulResponse 0 sharedAnswer]) [] with
    ⟨_, later, _, hlater, _, _, _, _, _, hreturned, _⟩
  rw [hlater] at hstates
  simp only [Option.map_some, Option.some.injEq, Prod.mk.injEq] at hstates
  exact ⟨later, hlater, hstates.1, hstates.2.1, hreturned, hstates.2.2⟩

/-- When an enqueue below the protected slots of its key succeeds, in every reachable
    state: exactly when its authorization scope has room. -/
theorem enqueue_within_reserve_iff (limits : SchedulerLimits) (scheduler : EndpointScheduler)
    (hnew : newEndpointScheduler limits = .ok scheduler) (calls : List SchedulerCall)
    (request : ScheduledRequest) (reached : EndpointScheduler)
    (hreached : reached = (run { scheduler := scheduler } calls).2.scheduler)
    (hvalid : validScheduledRequest request = true)
    (hfresh : reached.entries.lookup request.requestID = none)
    (hroom : (reached.keys.lookup request.key).isSome = true ∨
      reached.activeKeys < reached.limits.maxActiveAdmissionKeys)
    (hreserve : (reached.stateOf request.key).occupied < reached.limits.protectedSlotsPerKey) :
    (reached.enqueue request).1 = none ↔
      reached.scopeOccupied request.key.authorizationScope <
        reached.limits.maxQueuedPerAuthorizationScope := by
  subst hreached
  have hexact := ((Agrees.initial limits scheduler hnew).run calls).1.exact
  rw [← checkAdmissionCount_reserve hexact.accepted hexact.capacity request.key hroom hreserve]
  obtain ⟨_, hanswer⟩ := hexact.enqueueLocked request none 1 rfl nofun nofun
  unfold EndpointScheduler.enqueue
  rw [if_neg (by rw [hvalid]; nofun)]
  -- The admission check is the only thing that can refuse it.
  constructor
  · intro hnone
    unfold EndpointScheduler.enqueueLocked at hnone
    rw [hfresh] at hnone
    dsimp only [Option.isSome_none] at hnone
    rw [if_neg nofun, if_pos Int.one_pos] at hnone
    split at hnone
    · cases hnone
    · assumption
  · intro hgranted
    rcases hanswer with ⟨err, herr, hne, _⟩ | ⟨hnone, _⟩
    · unfold EndpointScheduler.enqueueLocked at herr
      rw [hfresh] at herr
      dsimp only [Option.isSome_none] at herr
      rw [if_neg nofun, if_pos Int.one_pos, hgranted] at herr
      dsimp only at herr
      split at herr
      · exact absurd (Option.some.inj herr).symm hne
      · cases herr
    · exact hnone

/-- Another unit of the same scope still has its slot after one request of the first. -/
theorem enqueue_within_reserve_example :
    ((narrowSystem.run [.enqueue ⟨1, ⟨"scope", 1⟩, 10⟩]).2.scheduler.enqueue
      ⟨2, ⟨"scope", 2⟩, 10⟩).1 = none :=
  (enqueue_within_reserve_iff narrowLimits { limits := narrowLimits } rfl
    [.enqueue ⟨1, ⟨"scope", 1⟩, 10⟩] ⟨2, ⟨"scope", 2⟩, 10⟩ _ rfl (by decide +kernel)
    (by decide +kernel) (Or.inr (by decide +kernel)) (by decide +kernel)).mpr
    (by decide +kernel)

/-- One unit fills the scope with its protected and the shared slot. The other unit is
    then refused, though its key may still become active and holds nothing. -/
theorem enqueue_within_reserve_refused :
    let reached := (narrowSystem.run [.enqueue ⟨1, ⟨"scope", 1⟩, 10⟩,
      .enqueue ⟨2, ⟨"scope", 1⟩, 10⟩]).2.scheduler
    let request : ScheduledRequest := ⟨3, ⟨"scope", 2⟩, 10⟩
    newEndpointScheduler narrowLimits = .ok { limits := narrowLimits } ∧
      validScheduledRequest request = true ∧
      reached.entries.lookup request.requestID = none ∧
      reached.activeKeys < reached.limits.maxActiveAdmissionKeys ∧
      (reached.stateOf request.key).occupied < reached.limits.protectedSlotsPerKey ∧
      (reached.enqueue request).1 = some (schedulerAdmissionError "queued_capacity") :=
  ⟨rfl, by decide +kernel, by decide +kernel, by decide +kernel, by decide +kernel,
    by decide +kernel⟩

end HelianthusModbus
