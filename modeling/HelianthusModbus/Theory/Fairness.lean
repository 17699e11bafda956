import HelianthusModbus.Theory.SchedulerRun

/-!
# Fairness of the Service Order

Between two turns of one scope every other scope that has work has its turn, and the
same holds for the units of a scope. Both are rounds over a list with a cursor, so the
argument is given once, for a `Round`.

After the turn of a member it comes last, and every other member leads it. Each call
keeps that order as long as the leading member has work: it stays in the list, serving
anybody else leaves it in front, and a member that is closed only leaves. What can break
it is the member that had its turn. If its last key is closed and then opened again, it
goes to the end of the list, and there it stands before the members the cursor has
passed. `Round.Returns` is the condition that a member comes back behind the one that
waits.

## Main definitions

* `Round`, `scopeRound`, `unitRound`: A list of the scheduler with its cursor.
* `Round.Returns`: Where a member that comes back is put.
* `SchedulerSystem.Throughout`, `SchedulerSystem.Sometime`: Properties of a run.

## Theorems

* `SchedulerSystem.Agrees.step_rings`: What a call does to the rings.
* `Round.Lawful.fair`: Between two turns of a member every waiting one has its turn.
* `round_robin_fair`: The same for scopes and for units.
* `round_robin_overtaken`: A member that comes back can overtake a waiting one.
-/

namespace HelianthusModbus

open EndpointScheduler

/-- One of the rounds of a scheduler: the member a key belongs to, the list of the
    members and the cursor into it. -/
structure Round (α : Type) where
  member : AdmissionKey → Option α
  order : EndpointScheduler → List α
  cursor : EndpointScheduler → Nat

/-- The round of the scopes. -/
def scopeRound : Round String where
  member key := some key.authorizationScope
  order scheduler := scheduler.scopeOrder
  cursor scheduler := scheduler.scopeCursor

/-- The round of the units of a scope. -/
def unitRound (scope : String) : Round UInt8 where
  member key := if key.authorizationScope = scope then some key.unitID else none
  order scheduler := scheduler.unitsOf scope
  cursor scheduler := scheduler.unitCursorOf scope

namespace SchedulerCall

/-- The call does not expire a queued entry. -/
def Spares : SchedulerCall → ScheduledEntry → Prop
  | .dispatch nowOffset _, entry => nowOffset < entry.request.deadlineOffset
  | _, _ => True

instance (call : SchedulerCall) (entry : ScheduledEntry) : Decidable (call.Spares entry) :=
  match call with
  | .dispatch nowOffset _ => inferInstanceAs (Decidable (nowOffset < entry.request.deadlineOffset))
  | .enqueue _ | .scheduleCoalesced _ _ | .cancelQueued _ _ | .retry _ _ | .complete _
  | .finishCoalesced _ | .setOperationDeadline _ _ | .bindReservation _ _ _
  | .beginWrite _ _ _ _ _ | .finishWriteFailure _ | .cancel _ _ _
  | .replaySuccessfulResponse _ _ | .fail _ _ | .failTransport _ _ => isTrue trivial

end SchedulerCall

namespace Round

variable {α : Type} (round : Round α)

/-- The members from the cursor on. -/
def ring (scheduler : EndpointScheduler) : List α :=
  (round.order scheduler).rotate (round.cursor scheduler)

/-- A member has queued work when the call is made, and the call does not expire it. -/
def Waits (b : α) (system : SchedulerSystem) (call : SchedulerCall) : Prop :=
  ∃ active ∈ system.scheduler.keys.entries, round.member active.1 = some b ∧
    ∃ entry ∈ active.2.queue, call.Spares entry

/-- The call dispatches a request of a member. -/
def Served (b : α) (system : SchedulerSystem) (call : SchedulerCall) : Prop :=
  ((system.step call).1.dispatched.bind fun request => round.member request.key) = some b

/-- If the call puts the member `a` into the list, then `b` stands in the part of the list
    that the cursor has not passed. -/
def Returns (a b : α) (system : SchedulerSystem) (call : SchedulerCall) : Prop :=
  a ∉ round.order system.scheduler → a ∈ round.order (system.step call).2.scheduler →
    b ∈ (round.order system.scheduler).drop (round.cursor system.scheduler)

instance [DecidableEq α] (b : α) (system : SchedulerSystem) (call : SchedulerCall) :
    Decidable (round.Waits b system call) :=
  inferInstanceAs (Decidable (∃ active ∈ system.scheduler.keys.entries, _ ∧ _))

instance [DecidableEq α] (b : α) (system : SchedulerSystem) (call : SchedulerCall) :
    Decidable (round.Served b system call) := inferInstanceAs (Decidable (_ = _))

instance [DecidableEq α] (a b : α) (system : SchedulerSystem) (call : SchedulerCall) :
    Decidable (round.Returns a b system call) := inferInstanceAs (Decidable (_ → _ → _))

end Round

namespace SchedulerSystem

/-- Every call of a run has a property, in the state it is made in. -/
def Throughout (P : SchedulerSystem → SchedulerCall → Prop) :
    SchedulerSystem → List SchedulerCall → Prop
  | _, [] => True
  | system, call :: rest => P system call ∧ Throughout P (system.step call).2 rest

/-- Some call of a run has a property, in the state it is made in. -/
def Sometime (P : SchedulerSystem → SchedulerCall → Prop) :
    SchedulerSystem → List SchedulerCall → Prop
  | _, [] => False
  | system, call :: rest => P system call ∨ Sometime P (system.step call).2 rest

instance decidableThroughout (P : SchedulerSystem → SchedulerCall → Prop)
    [∀ system call, Decidable (P system call)] (system : SchedulerSystem)
    (calls : List SchedulerCall) : Decidable (Throughout P system calls) :=
  match calls with
  | [] => isTrue trivial
  | call :: rest =>
    have := decidableThroughout P (system.step call).2 rest
    inferInstanceAs (Decidable (P system call ∧ _))

instance decidableSometime (P : SchedulerSystem → SchedulerCall → Prop)
    [∀ system call, Decidable (P system call)] (system : SchedulerSystem)
    (calls : List SchedulerCall) : Decidable (Sometime P system calls) :=
  match calls with
  | [] => isFalse id
  | call :: rest =>
    have := decidableSometime P (system.step call).2 rest
    inferInstanceAs (Decidable (P system call ∨ _))

theorem run_append (system : SchedulerSystem) (first second : List SchedulerCall) :
    (system.run (first ++ second)).2 = ((system.run first).2.run second).2 := by
  induction first generalizing system with
  | nil => rfl
  | cons call rest ih => exact ih (system.step call).2

/-- A call changes the rings in one of three ways. -/
inductive RingStep (system : SchedulerSystem) (call : SchedulerCall) : Prop where
  | shrinks (hreply : (system.step call).1.dispatched = none)
      (hafter : Shrinks system.scheduler (system.step call).2.scheduler)
  | opens (key) (hreply : (system.step call).1.dispatched = none)
      (hafter : Shrinks (system.scheduler.openKey key).2 (system.step call).2.scheduler)
  | serves (nowOffset) (owners : Nat → TCPConnectionOwner) (groups middle served request)
      (hcall : call = .dispatch nowOffset owners)
      (hreply : (system.step call).1.dispatched = some request)
      (hexpired : Shrinks system.scheduler middle)
      (hexpires : Expires nowOffset system.scheduler.books groups middle.books)
      (hserved : Serves middle served request.key)
      (hafter : Shrinks served (system.step call).2.scheduler)

theorem Agrees.step_rings {system : SchedulerSystem} (h : Agrees system) (call : SchedulerCall) :
    RingStep system call := by
  cases hgroup : call.group? with
  | some id =>
    have hsettles := h.step_group call id hgroup
    exact .shrinks hsettles.dispatched hsettles.shrinks
  | none =>
  have horders := h.exact.orders
  cases call with
  | enqueue request =>
    -- A refused enqueue leaves the rings alone, an admitted one opens its key first.
    have hrings : Shrinks system.scheduler (system.scheduler.enqueue request).2 ∨
        Shrinks (system.scheduler.openKey request.key).2
          (system.scheduler.enqueue request).2 := by
      unfold enqueue
      split
      · exact Or.inl horders.refl
      rcases (h.exact.enqueueLocked request none 1 rfl nofun nofun).2 with
        ⟨_, _, _, hsame⟩ | ⟨_, _, hshrinks, _⟩
      · rw [hsame]
        exact Or.inl horders.refl
      · exact Or.inr hshrinks
    rcases hrings with hshrinks | hopens
    · exact .shrinks rfl hshrinks
    · exact .opens request.key rfl hopens
  | scheduleCoalesced request intents =>
    have hrings : (system.scheduleCoalesced request intents).1.dispatched = none ∧
        (Shrinks system.scheduler (system.scheduleCoalesced request intents).2.scheduler ∨
          Shrinks (system.scheduler.openKey request.key).2
            (system.scheduleCoalesced request intents).2.scheduler) := by
      have hlocked : Shrinks system.scheduler (system.scheduler.scheduleCoalescedLocked request
            intents.length system.nextGroup).2 ∨
          Shrinks (system.scheduler.openKey request.key).2
            (system.scheduler.scheduleCoalescedLocked request intents.length
              system.nextGroup).2 := by
        rcases h.exact.scheduleCoalescedLocked request intents.length system.nextGroup h.unknown
          with ⟨_, _, _, _, _, hrings⟩ | ⟨_, hshrinks, _⟩
        · exact hrings
        · exact Or.inr hshrinks
      unfold SchedulerSystem.scheduleCoalesced
      split
      · exact ⟨rfl, Or.inl horders.refl⟩
      split
      · exact ⟨rfl, Or.inl horders.refl⟩
      dsimp only
      split
      · exact ⟨rfl, hlocked⟩
      · exact ⟨rfl, hlocked⟩
    rcases hrings.2 with hshrinks | hopens
    · exact .shrinks hrings.1 hshrinks
    · exact .opens request.key hrings.1 hopens
  | dispatch nowOffset owners =>
    have hfailed := (h.scheduler _ (h.exact.dispatch_keeps nowOffset).1).failGroups owners
      (system.scheduler.dispatch nowOffset).2.1
    obtain ⟨_, middle, _, hmiddle, hexpires, hanswer⟩ := h.exact.dispatchIn _ nowOffset
    -- The expiry drops keys before the answer, and the failed groups drop keys after it.
    rcases hanswer with ⟨stop, hstop, _, hsame⟩ | ⟨entry, _, hrequest, _, _, hserves⟩
    · change (system.scheduler.dispatch nowOffset).1 = .error stop at hstop
      refine .shrinks (by simp only [SchedulerSystem.step, hstop, hfailed.dispatched])
        (hmiddle.trans ?_)
      rw [← hsame]
      simp only [SchedulerSystem.step, hstop]
      exact hfailed.shrinks
    · change (system.scheduler.dispatch nowOffset).1 = .ok entry.request at hrequest
      refine .serves nowOffset owners _ middle _ entry.request rfl
        (by simp only [SchedulerSystem.step, hrequest]) hmiddle hexpires hserves ?_
      simp only [SchedulerSystem.step, hrequest]
      exact hfailed.shrinks
  | cancelQueued requestID owners =>
    have hcancel := (h.exact.cancelQueued requestID).2.1
    have hkeeps := h.scheduler _ (h.exact.cancelQueued_keeps requestID).1
    cases hanswer : (system.scheduler.cancelQueued requestID).1 with
    | cancelled group =>
      have hfailed := hkeeps.failGroups owners group.toList
      refine .shrinks (by simp only [SchedulerSystem.step, hanswer, hfailed.dispatched])
        (hcancel.trans ?_)
      simp only [SchedulerSystem.step, hanswer]
      exact hfailed.shrinks
    | notQueued | accounting =>
      refine .shrinks (by simp only [SchedulerSystem.step, hanswer]) ?_
      simp only [SchedulerSystem.step, hanswer]
      exact hcancel
  | retry requestID owners =>
    have hfailed := (h.scheduler _ (h.exact.retry_keeps requestID).1).failGroups owners
      (system.scheduler.retry requestID).2.1.toList
    exact .shrinks hfailed.dispatched ((h.exact.retry requestID).2.1.trans hfailed.shrinks)
  | complete requestID => exact .shrinks rfl (h.exact.complete requestID).2.1
  | finishCoalesced group => exact .shrinks rfl (h.exact.finishCoalesced group).2.1
  | setOperationDeadline | bindReservation | beginWrite | finishWriteFailure | cancel
  | replaySuccessfulResponse | fail | failTransport => cases hgroup

end SchedulerSystem

/-- The list and the cursor of a round belong to the scheduler: closing keys, opening a
    key and serving one do to its ring what they do to the rings of the scheduler. -/
structure Round.Lawful {α : Type} (round : Round α) : Prop where
  listed : ∀ scheduler, Orders scheduler → ∀ key b, (scheduler.keys.lookup key).isSome →
    round.member key = some b → b ∈ round.order scheduler
  shrinks : ∀ before after, Orders before → Shrinks before after →
    ∀ b a, Leads (round.ring before) b a → b ∈ round.order after → Leads (round.ring after) b a
  sub : ∀ before after, Shrinks before after → ∀ b ∈ round.order after, b ∈ round.order before
  opens : ∀ scheduler, Orders scheduler → ∀ key b a, Leads (round.ring scheduler) b a →
    (round.member key = some a → a ∉ round.order scheduler →
      b ∈ (round.order scheduler).drop (round.cursor scheduler)) →
    Leads (round.ring (scheduler.openKey key).2) b a
  serves : ∀ middle after key, Orders middle → Serves middle after key →
    ∀ b a key', a ≠ b → round.member key' = some b → middle.keyHasQueued key' = true →
    Leads (round.ring middle) b a → round.member key ≠ some a ∧
      (round.member key ≠ some b → Leads (round.ring after) b a)
  served : ∀ middle after key, Serves middle after key → ∀ a, round.member key = some a →
    ∀ b ∈ round.order after, b ≠ a → Leads (round.ring after) b a

/-- The member that is found is not one that another leads, if that one has work; and it
    leaves the order of the others. -/
theorem leads_turn {α : Type} (p : α → Bool) (passed rest : List α) (x b a : α)
    (hpassed : ∀ y ∈ passed, p y = false) (hx : p x = true) (hb : p b = true) (hne : a ≠ b)
    (hleads : Leads (passed ++ x :: rest) b a) :
    x ≠ a ∧ (x ≠ b → Leads (rest ++ passed ++ [x]) b a) := by
  refine ⟨?_, fun hother => leads_served p passed rest x b a hpassed hb hother hleads⟩
  rintro rfl
  refine not_found_of_leads p b x _ hleads hb hne ?_
  rw [List.find?_append, List.find?_eq_none.mpr (fun y hy => by rw [hpassed y hy]; nofun),
    Option.none_or, List.find?_cons_of_pos hx]

theorem active_of_keyHasQueued (scheduler : EndpointScheduler) (key : AdmissionKey)
    (hqueued : scheduler.keyHasQueued key = true) : (scheduler.keys.lookup key).isSome := by
  unfold keyHasQueued at hqueued
  split at hqueued
  · cases hqueued
  · next hlook => rw [hlook]; rfl

theorem scopeHasQueued_of_key {scheduler : EndpointScheduler} (h : Orders scheduler)
    (key : AdmissionKey) (hqueued : scheduler.keyHasQueued key = true) :
    scheduler.scopeHasQueued key.authorizationScope = true := by
  have hactive := active_of_keyHasQueued scheduler key hqueued
  unfold scopeHasQueued
  exact List.any_eq_true.mpr ⟨key.unitID, (h.listed key).mp hactive, hqueued⟩

theorem keyHasQueued_of_mem (scheduler : EndpointScheduler) (key : AdmissionKey)
    (entry : ScheduledEntry) (hmem : entry ∈ (scheduler.stateOf key).queue) :
    scheduler.keyHasQueued key = true := by
  unfold keyHasQueued
  rw [scheduler.lookup_of_queued key entry hmem]
  exact decide_eq_true (List.ne_nil_of_mem hmem)

theorem scopeRound_lawful : scopeRound.Lawful where
  listed scheduler h key b hactive hmember := by
    cases hmember
    exact (h.scope_listed _).mpr (List.ne_nil_of_mem ((h.listed key).mp hactive))
  shrinks before after hbefore h b a hleads hin := hleads.sublist h.scopeRing
    (List.nodup_rotate.mpr hbefore.scopes_nodup) ((mem_scopeRing after b).mpr hin)
  sub before after h b hin := h.scopeOrder.subset hin
  opens scheduler h key b a hleads hplace :=
    openKey_scopes h key b a hleads (fun heq => hplace (congrArg some heq))
  serves middle after key h hserves b a key' hne hmember hqueued hleads := by
    cases hmember
    obtain ⟨passed, rest, hring, hpassed, hafter⟩ := hserves.scopes
    have hleads' : Leads middle.scopeRing key'.authorizationScope a := hleads
    rw [hring] at hleads'
    have hturn := leads_turn middle.scopeHasQueued passed rest _ _ a hpassed
      (scopeHasQueued_of_key h key hserves.queued) (scopeHasQueued_of_key h key' hqueued) hne
      hleads'
    refine ⟨fun heq => hturn.1 (Option.some.inj heq), fun hother => ?_⟩
    show Leads after.scopeRing _ a
    rw [hafter]
    exact hturn.2 (fun heq => hother (congrArg some heq))
  served middle after key hserves a hmember b hin hne := by
    cases hmember
    obtain ⟨passed, rest, -, -, hafter⟩ := hserves.scopes
    have hnodup : after.scopeRing.Nodup := List.nodup_rotate.mpr hserves.orders.scopes_nodup
    have hmem : b ∈ after.scopeRing := (mem_scopeRing after b).mpr hin
    show Leads after.scopeRing b _
    rw [hafter] at hnodup hmem ⊢
    refine leads_of_served passed rest _ b hnodup ((List.mem_append.mp hmem).resolve_right ?_)
    exact fun hlast => hne (List.mem_singleton.mp hlast)

theorem unitRound_member (scope : String) (key : AdmissionKey) (unit : UInt8) :
    (unitRound scope).member key = some unit ↔
      key = { authorizationScope := scope, unitID := unit } := by
  unfold unitRound
  dsimp only
  constructor
  · intro hmember
    split at hmember
    · next hscope =>
      exact Orders.key_eq _ key hscope (Option.some.inj hmember)
    · cases hmember
  · rintro rfl
    exact if_pos rfl

theorem unitRound_lawful (scope : String) : (unitRound scope).Lawful where
  listed scheduler h key b hactive hmember := by
    rw [unitRound_member] at hmember
    subst hmember
    exact (h.listed _).mp hactive
  shrinks before after hbefore h b a hleads hin := hleads.sublist (h.unitRing scope)
    (List.nodup_rotate.mpr (hbefore.units_nodup scope)) ((mem_unitRing after scope b).mpr hin)
  sub before after h b hin := (h.unitsOf scope).subset hin
  opens scheduler h key b a hleads hplace :=
    openKey_units h key scope b a hleads
      (fun heq => hplace ((unitRound_member scope key a).mpr heq))
  serves middle after key h hserves b a key' hne hmember hqueued hleads := by
    simp only [ne_eq, unitRound_member] at hmember ⊢
    subst hmember
    -- Serving another scope does not turn the ring of this one.
    by_cases hscope : key.authorizationScope = scope
    · subst hscope
      obtain ⟨passed, rest, hring, hpassed, hafter⟩ := hserves.units
      have hleads' : Leads (middle.unitRing key.authorizationScope) b a := hleads
      rw [hring] at hleads'
      have hturn := leads_turn (fun unit => middle.keyHasQueued
        { authorizationScope := key.authorizationScope, unitID := unit }) passed rest _ b a
        hpassed hserves.queued hqueued hne hleads'
      refine ⟨fun heq => hturn.1 (by rw [heq]), fun hother => ?_⟩
      show Leads (after.unitRing _) b a
      rw [hafter]
      exact hturn.2 (fun heq => hother (Orders.key_eq _ key rfl heq))
    · refine ⟨fun heq => hscope (by rw [heq]), fun _ => ?_⟩
      show Leads (after.unitRing scope) b a
      rw [hserves.others scope (fun heq => hscope heq.symm)]
      exact hleads
  served middle after key hserves a hmember b hin hne := by
    rw [unitRound_member] at hmember
    subst hmember
    obtain ⟨passed, rest, -, -, hafter⟩ := hserves.units
    have hnodup : (after.unitRing scope).Nodup :=
      List.nodup_rotate.mpr (hserves.orders.units_nodup scope)
    have hmem : b ∈ after.unitRing scope := (mem_unitRing after scope b).mpr hin
    show Leads (after.unitRing scope) b a
    rw [hafter] at hnodup hmem ⊢
    refine leads_of_served passed rest _ b hnodup ((List.mem_append.mp hmem).resolve_right ?_)
    exact fun hlast => hne (List.mem_singleton.mp hlast)

namespace Round

open SchedulerSystem

variable {α : Type} {round : Round α}

/-- The work of a member that waits, and its place in a queue. -/
theorem Waits.queued {system : SchedulerSystem} {b : α} {call : SchedulerCall}
    (hwaits : round.Waits b system call) :
    ∃ key entry, round.member key = some b ∧ call.Spares entry ∧
      entry ∈ (system.scheduler.stateOf key).queue := by
  obtain ⟨active, hactive, hmember, entry, hentry, hspares⟩ := hwaits
  refine ⟨active.1, entry, hmember, hspares, ?_⟩
  rw [lookup_of_mem system.scheduler active hactive]
  exact hentry

theorem Waits.listed (hround : round.Lawful) {system : SchedulerSystem} (h : Agrees system)
    {b : α} {call : SchedulerCall} (hwaits : round.Waits b system call) :
    b ∈ round.order system.scheduler := by
  obtain ⟨key, entry, hmember, -, hentry⟩ := hwaits.queued
  refine hround.listed _ h.exact.orders key b ?_ hmember
  exact active_of_keyHasQueued _ key (keyHasQueued_of_mem _ key entry hentry)

/-- Work that is waiting is still queued once a dispatch has expired what is late. -/
theorem Waits.keyHasQueued {system : SchedulerSystem} {b : α} {nowOffset : Int}
    {owners : Nat → TCPConnectionOwner} {groups : List Nat} {middle : EndpointScheduler}
    (hexpires : Expires nowOffset system.scheduler.books groups middle.books)
    (hwaits : round.Waits b system (.dispatch nowOffset owners)) :
    ∃ key, round.member key = some b ∧ middle.keyHasQueued key = true := by
  obtain ⟨key, entry, hmember, hspares, hentry⟩ := hwaits.queued
  exact ⟨key, hmember,
    keyHasQueued_of_mem middle key entry (hexpires.queued key entry hentry hspares)⟩

/-- A call keeps the order of a pair whose first member waits and is not served. It does
    not serve the second one. -/
theorem Lawful.step_leads (hround : round.Lawful) {system : SchedulerSystem}
    (h : Agrees system) (call : SchedulerCall) (b a : α) (hne : a ≠ b)
    (hleads : Leads (round.ring system.scheduler) b a) (hwaits : round.Waits b system call) :
    ¬ round.Served a system call ∧
      (round.Returns a b system call → ¬ round.Served b system call →
        b ∈ round.order (system.step call).2.scheduler →
        Leads (round.ring (system.step call).2.scheduler) b a) := by
  unfold Served
  cases h.step_rings call with
  | shrinks hreply hafter =>
    rw [hreply]
    exact ⟨nofun, fun _ _ hin => hround.shrinks _ _ h.exact.orders hafter b a hleads hin⟩
  | opens key hreply hafter =>
    rw [hreply]
    refine ⟨nofun, fun hreturns _ hin => ?_⟩
    by_cases hback : a ∈ round.order (system.step call).2.scheduler
    · exact hround.shrinks _ _ (orders_openKey h.exact.orders key) hafter b a
        (hround.opens _ h.exact.orders key b a hleads fun _ hout => hreturns hout hback) hin
    · -- The admission was refused after all, and its key is closed again.
      exact leads_of_absent (List.mem_rotate.mpr hin) fun hmem => hback (List.mem_rotate.mp hmem)
  | serves nowOffset owners groups middle served request hcall hreply hexpired hexpires hserved
      hafter =>
    subst hcall
    rw [hreply]
    obtain ⟨key, hmember, hqueued⟩ := hwaits.keyHasQueued hexpires
    have hactive := active_of_keyHasQueued middle key hqueued
    have hmiddle := hround.shrinks _ _ h.exact.orders hexpired b a hleads
      (hround.listed _ hexpired.orders key b hactive hmember)
    obtain ⟨hnot, hkeeps⟩ := hround.serves middle served request.key hexpired.orders hserved
      b a key hne hmember hqueued hmiddle
    exact ⟨hnot, fun _ hother hin =>
      hround.shrinks _ _ hserved.orders hafter b a (hkeeps hother) hin⟩

/-- After the turn of a member every other one in the list leads it. -/
theorem Lawful.leads_after (hround : round.Lawful) {system : SchedulerSystem}
    (h : Agrees system) (call : SchedulerCall) (b a : α) (hne : b ≠ a)
    (hserved : round.Served a system call)
    (hin : b ∈ round.order (system.step call).2.scheduler) :
    Leads (round.ring (system.step call).2.scheduler) b a := by
  unfold Served at hserved
  cases h.step_rings call with
  | shrinks hreply hafter | opens key hreply hafter => rw [hreply] at hserved; cases hserved
  | serves nowOffset owners groups middle served request hcall hreply hexpired hexpires hturn
      hafter =>
    rw [hreply] at hserved
    have hlisted : b ∈ round.order served := hround.sub _ _ hafter b hin
    exact hround.shrinks _ _ hturn.orders hafter b a
      (hround.served middle served request.key hturn a hserved b hlisted hne) hin

/-- As long as a member waits in front of another and is not served, the other is not
    served either. -/
theorem Lawful.not_served (hround : round.Lawful) (b a : α) (hne : a ≠ b)
    (calls : List SchedulerCall) (last : SchedulerCall) (system : SchedulerSystem)
    (h : Agrees system) (hleads : Leads (round.ring system.scheduler) b a)
    (hwaits : Throughout (round.Waits b) system (calls ++ [last]))
    (hreturns : Throughout (round.Returns a b) system calls)
    (hpassed : ¬ Sometime (round.Served b) system calls) :
    ¬ round.Served a (system.run calls).2 last := by
  -- By induction on the calls, with the order of the two as the invariant.
  induction calls generalizing system with
  | nil => exact (hround.step_leads h last b a hne hleads hwaits.1).1
  | cons call rest ih =>
    obtain ⟨hwait, hwaits⟩ := hwaits
    have hpassed := not_or.mp hpassed
    have hstep := (h.step call).1
    refine ih _ hstep ?_ hwaits hreturns.2 hpassed.2
    refine (hround.step_leads h call b a hne hleads hwait).2 hreturns.1 hpassed.1 ?_
    cases rest with
    | nil | cons next rest => exact hwaits.1.listed hround hstep

theorem Lawful.fair (hround : round.Lawful) (b a : α) (hne : b ≠ a) (system : SchedulerSystem)
    (h : Agrees system) (first last : SchedulerCall) (calls : List SchedulerCall)
    (hfirst : round.Served a system first)
    (hlast : round.Served a ((system.step first).2.run calls).2 last)
    (hwaits : Throughout (round.Waits b) (system.step first).2 (calls ++ [last]))
    (hreturns : Throughout (round.Returns a b) (system.step first).2 calls) :
    Sometime (round.Served b) (system.step first).2 calls := by
  by_contra hpassed
  have hstep := (h.step first).1
  have hlisted : b ∈ round.order (system.step first).2.scheduler := by
    cases calls with
    | nil | cons next rest => exact hwaits.1.listed hround hstep
  exact hround.not_served b a hne.symm calls last _ hstep
    (hround.leads_after h first b a hne hfirst hlisted) hwaits hreturns hpassed hlast

end Round

open SchedulerSystem

/-- Round robin in every run from a new scheduler. Between two dispatches of one scope
    every other scope with work is dispatched, and between two dispatches of one unit
    every other unit of its scope, provided the one that is dispatched twice never comes
    back into its round in front of the one that waits. -/
theorem round_robin_fair (limits : SchedulerLimits) (scheduler : EndpointScheduler)
    (hnew : newEndpointScheduler limits = .ok scheduler)
    (before calls : List SchedulerCall) (first last : SchedulerCall) :
    (∀ a b : String, b ≠ a →
      scopeRound.Served a (run { scheduler := scheduler } before).2 first →
      scopeRound.Served a (run { scheduler := scheduler } (before ++ first :: calls)).2 last →
      Throughout (scopeRound.Waits b) (run { scheduler := scheduler } (before ++ [first])).2
        (calls ++ [last]) →
      Throughout (scopeRound.Returns a b) (run { scheduler := scheduler } (before ++ [first])).2
        calls →
      Sometime (scopeRound.Served b) (run { scheduler := scheduler } (before ++ [first])).2
        calls) ∧
    (∀ (scope : String) (a b : UInt8), b ≠ a →
      (unitRound scope).Served a (run { scheduler := scheduler } before).2 first →
      (unitRound scope).Served a (run { scheduler := scheduler } (before ++ first :: calls)).2
        last →
      Throughout ((unitRound scope).Waits b)
        (run { scheduler := scheduler } (before ++ [first])).2 (calls ++ [last]) →
      Throughout ((unitRound scope).Returns a b)
        (run { scheduler := scheduler } (before ++ [first])).2 calls →
      Sometime ((unitRound scope).Served b)
        (run { scheduler := scheduler } (before ++ [first])).2 calls) := by
  have hagrees := ((Agrees.initial limits scheduler hnew).run before).1
  simp only [run_append]
  refine ⟨fun a b hne hfirst hlast hwaits hreturns => ?_,
    fun scope a b hne hfirst hlast hwaits hreturns => ?_⟩
  · exact scopeRound_lawful.fair b a hne _ hagrees first last calls hfirst hlast hwaits hreturns
  · exact (unitRound_lawful scope).fair b a hne _ hagrees first last calls hfirst hlast hwaits
      hreturns

/-- Three keys with one protected slot each and two shared slots. -/
def ringLimits : SchedulerLimits where
  maxActiveAdmissionKeys := 3
  protectedSlotsPerKey := 1
  sharedBurstSlots := 2
  totalQueued := 5
  maxQueuedPerKey := 2
  maxQueuedPerAuthorizationScope := 4
  maxCoalescedDependentsPerKey := 2
  maxRetryAttempts := 1
  maxInFlightRequests := 4

/-- The system of a scheduler with these limits. -/
def ringSystem : SchedulerSystem := { scheduler := { limits := ringLimits } }

/-- A dispatch at time zero. No group is involved. -/
def dispatchNow : SchedulerCall :=
  .dispatch 0 fun _ => { endpoint := "", generation := 1, limits := ⟨1, 1⟩ }

/-- Queueing a request that is due at time ten. -/
def enqueueDue (id : Nat) (scope : String) (unit : UInt8) : SchedulerCall :=
  .enqueue ⟨id, ⟨scope, unit⟩, 10⟩

/-- Two requests of each of two scopes. -/
def twoScopes : List SchedulerCall :=
  [enqueueDue 1 "first" 1, enqueueDue 2 "first" 1, enqueueDue 3 "second" 1,
    enqueueDue 4 "second" 1]

/-- Two requests of each of two units. -/
def twoUnits : List SchedulerCall :=
  [enqueueDue 1 "first" 1, enqueueDue 2 "first" 1, enqueueDue 3 "first" 2,
    enqueueDue 4 "first" 2]

/-- Two scopes, or two units, take turns. -/
theorem round_robin_fair_example :
    newEndpointScheduler ringLimits = .ok { limits := ringLimits } ∧
      Sometime (scopeRound.Served "second") (ringSystem.run (twoScopes ++ [dispatchNow])).2
        [dispatchNow] ∧
      Sometime ((unitRound "first").Served 2) (ringSystem.run (twoUnits ++ [dispatchNow])).2
        [dispatchNow] :=
  ⟨rfl,
    (round_robin_fair ringLimits { limits := ringLimits } rfl twoScopes [dispatchNow] dispatchNow
      dispatchNow).1 "first" "second" (by decide) (by decide +kernel) (by decide +kernel)
      (by decide +kernel) (by decide +kernel),
    (round_robin_fair ringLimits { limits := ringLimits } rfl twoUnits [dispatchNow] dispatchNow
      dispatchNow).2 "first" 1 2 (by decide) (by decide +kernel) (by decide +kernel)
      (by decide +kernel) (by decide +kernel)⟩

/-- Two requests of a scope and one each of two others, and the first has its turn. -/
def threeScopes : List SchedulerCall :=
  [enqueueDue 1 "waiting" 1, enqueueDue 2 "waiting" 1, enqueueDue 3 "back" 1,
    enqueueDue 4 "other" 1, dispatchNow]

/-- Two requests of a unit and one each of two others, and the first has its turn. -/
def threeUnits : List SchedulerCall :=
  [enqueueDue 1 "scope" 1, enqueueDue 2 "scope" 1, enqueueDue 3 "scope" 2,
    enqueueDue 4 "scope" 3, dispatchNow]

/-- The request that was served last completes, and another one of its scope and unit
    comes. -/
def comesBack (scope : String) (unit : UInt8) : List SchedulerCall :=
  [.complete 3, enqueueDue 5 scope unit, dispatchNow]

/-- The scope `waiting` has one request left after its turn. The scope `back` has its
    turn, becomes empty, is removed and added again, and has its next turn while
    `waiting` has had none. The same happens with three units of one scope. -/
theorem round_robin_overtaken :
    newEndpointScheduler ringLimits = .ok { limits := ringLimits } ∧
      (scopeRound.Served "back" (ringSystem.run threeScopes).2 dispatchNow ∧
        scopeRound.Served "back"
          (ringSystem.run (threeScopes ++ dispatchNow :: comesBack "back" 1)).2 dispatchNow ∧
        Throughout (scopeRound.Waits "waiting") (ringSystem.run (threeScopes ++ [dispatchNow])).2
          (comesBack "back" 1 ++ [dispatchNow]) ∧
        ¬ Sometime (scopeRound.Served "waiting")
          (ringSystem.run (threeScopes ++ [dispatchNow])).2 (comesBack "back" 1)) ∧
      (unitRound "scope").Served 2 (ringSystem.run threeUnits).2 dispatchNow ∧
      (unitRound "scope").Served 2
        (ringSystem.run (threeUnits ++ dispatchNow :: comesBack "scope" 2)).2 dispatchNow ∧
      Throughout ((unitRound "scope").Waits 1) (ringSystem.run (threeUnits ++ [dispatchNow])).2
        (comesBack "scope" 2 ++ [dispatchNow]) ∧
      ¬ Sometime ((unitRound "scope").Served 1)
        (ringSystem.run (threeUnits ++ [dispatchNow])).2 (comesBack "scope" 2) :=
  ⟨rfl, by decide +kernel⟩

end HelianthusModbus
