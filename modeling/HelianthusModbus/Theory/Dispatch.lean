import HelianthusModbus.Theory.Fairness

/-!
# What a Dispatch Serves

The expiry before a dispatch visits the keys in any order. What it leaves does not show that:
of every queue the entries whose deadline is ahead, in their order. The dispatch takes the
first of one of these lists, unless all are empty or the in-flight limit is reached.

## Main definitions

* `EndpointScheduler.ahead`: The queued entries of a key that are not late.

## Theorems

* `dispatch_serves_oldest`: The answer of a dispatch and the queues after it.
-/

namespace HelianthusModbus

/-- The deadline of an entry is ahead. -/
def ScheduledEntry.isAhead (now : Int) (entry : ScheduledEntry) : Bool :=
  now < entry.request.deadlineOffset

namespace EndpointScheduler

/-- The queued entries of a key whose deadline is ahead, oldest first. -/
def ahead (scheduler : EndpointScheduler) (now : Int) (key : AdmissionKey) :
    List ScheduledEntry :=
  (scheduler.stateOf key).queue.filter (ScheduledEntry.isAhead now)

theorem Expires.queue_filter {now : Int} {before after : Books} {groups : List Nat}
    (h : Expires now before groups after) (key : AdmissionKey) :
    (after.states key).queue ⊆ (before.states key).queue ∧
      (after.states key).queue.filter (ScheduledEntry.isAhead now) =
        (before.states key).queue.filter (ScheduledEntry.isAhead now) := by
  induction h with
  | none books => exact ⟨List.Subset.refl _, rfl⟩
  | more books late groups after _ hlate _ ih =>
    by_cases hkey : key = late.request.key
    · have hstate : ((books.removeQueued late).states key).queue =
          (books.states key).queue.erase late := by
        show (Function.update books.states late.request.key _ key).queue = _
        rw [hkey, Function.update_self]
      rw [hstate] at ih
      refine ⟨fun _ hmem => List.mem_of_mem_erase (ih.1 hmem), ih.2.trans ?_⟩
      rw [← List.erase_filter, List.erase_of_not_mem (by simp [ScheduledEntry.isAhead, hlate])]
    · have hstate : (books.removeQueued late).states key = books.states key :=
        Function.update_of_ne hkey _ _
      rwa [hstate] at ih

/-- Where no counter check fails, the expiry of a key leaves no late entry. -/
theorem expireKey_ahead (scheduler : EndpointScheduler) (now : Int) (key : AdmissionKey)
    (hok : (scheduler.expireKey now key).2.2 = true) :
    ∀ entry ∈ ((scheduler.expireKey now key).1.stateOf key).queue, entry.isAhead now := by
  unfold expireKey at hok ⊢
  cases hlook : scheduler.keys.lookup key with
  | none => simp [stateOf, hlook]
  | some state =>
    simp only [hlook] at hok ⊢
    -- the turns of the loop keep only what is ahead, as long as no check fails
    have hkept := List.foldlRecOn
      (motive := fun pass => pass.accountingOK = true → ∀ entry ∈ pass.kept, entry.isAhead now)
      (b := { scheduler := scheduler, queued := state.queued }) state.queue (expireEntry now)
      (by simp) (by
        intro pass h entry _
        unfold expireEntry
        split
        · split
          · simp
          · exact h
        · next hahead =>
          intro hpass other hother
          rcases List.mem_append.mp hother with hold | hnew
          · exact h hpass other hold
          · rw [List.mem_singleton.mp hnew]
            exact decide_eq_true (Int.not_le.mp hahead))
    intro entry hmem
    refine hkept hok entry ?_
    unfold releaseIfEmpty setKey at hmem
    rw [AList.lookup_insert] at hmem
    dsimp only at hmem
    split at hmem
    · simp [stateOf, (forgetOrder_eq _ key).1] at hmem
    · simpa [stateOf] using hmem

namespace Exact

/-- The expiry leaves of each queue what is ahead, in whatever order it visits the keys. -/
theorem expireLocked_queue {active : AdmissionKey → Nat} {scheduler : EndpointScheduler}
    (h : Exact active none scheduler) {order : List AdmissionKey}
    (horder : order.Perm scheduler.keys.keys) (now : Int) (key : AdmissionKey) :
    ((EndpointScheduler.expireLocked now order scheduler).1.stateOf key).queue =
      scheduler.ahead now key := by
  -- Once its turn has come a key has no late entry, and the later turns add nothing.
  have hahead (keys : List AdmissionKey) (hkey : key ∈ keys) : ∀ scheduler,
      Exact active none scheduler → ∀ entry ∈
        ((EndpointScheduler.expireLocked now keys scheduler).1.stateOf key).queue,
        entry.isAhead now := by
    induction keys with
    | nil => exact nomatch hkey
    | cons first rest ih =>
      intro scheduler h entry hmem
      have hfirst := h.expireKey now first
      rcases List.mem_cons.mp hkey with rfl | hrest
      · exact expireKey_ahead scheduler now key hfirst.2.2.1 entry
          (((expireLocked now rest _ hfirst.1).2.2.2.queue_filter key).1 hmem)
      · exact ih hrest _ hfirst.1 entry hmem
  have hfilter := (expireLocked now order scheduler h).2.2.2.queue_filter key
  refine (List.filter_eq_self.mpr fun entry hmem => ?_).symm.trans hfilter.2
  have hactive := scheduler.lookup_of_queued key entry (hfilter.1 hmem)
  have hvisited : key ∈ order := horder.mem_iff.mpr (AList.lookup_isSome.mp (by rw [hactive]; rfl))
  exact hahead order hvisited scheduler h entry hmem

end Exact

/-- While some key has work, some scope has its turn. -/
theorem nextScope_isSome {scheduler : EndpointScheduler} (h : Orders scheduler)
    (key : AdmissionKey) (hqueued : scheduler.keyHasQueued key = true) :
    scheduler.nextScope.isSome := by
  have hlisted := (h.listed key).mp (active_of_keyHasQueued scheduler key hqueued)
  have hscope := (h.scope_listed _).mpr (List.ne_nil_of_mem hlisted)
  unfold nextScope
  dsimp only
  split
  · next hnone =>
    rw [← List.mem_rotate (n := scheduler.scopeCursor), ← probeOrder_map _ _ ""] at hscope
    obtain ⟨index, hindex, hat⟩ := List.mem_map.mp hscope
    exact absurd (hat ▸ scopeHasQueued_of_key h key hqueued)
      (List.find?_eq_none.mp hnone index hindex)
  · rfl

end EndpointScheduler

open EndpointScheduler

/-- In every state a run can reach: a dispatch returns the oldest request of its key whose
    deadline is ahead, and nothing only if no queue has one or the in-flight limit is
    reached. Of all queues it takes that request and the late ones, and keeps the order. The
    order in which the expiry visits the keys does not matter. -/
theorem dispatch_serves_oldest (limits : SchedulerLimits) (scheduler : EndpointScheduler)
    (hnew : newEndpointScheduler limits = .ok scheduler) (calls : List SchedulerCall)
    (reached : EndpointScheduler)
    (hreached : reached = (SchedulerSystem.run { scheduler := scheduler } calls).2.scheduler)
    (order : List AdmissionKey) (horder : order.Perm reached.keys.keys) (now : Int) :
    match reached.dispatchIn order now with
    | (.ok request, _, after) =>
      ∃ entry rest, entry.request = request ∧ reached.ahead now request.key = entry :: rest ∧
        ∀ key, (after.stateOf key).queue =
          if key = request.key then rest else reached.ahead now key
    | (.error _, _, after) =>
      (after.limits.maxInFlightRequests ≤ after.inFlight ∨ ∀ key, reached.ahead now key = []) ∧
        ∀ key, (after.stateOf key).queue = reached.ahead now key := by
  have h : Exact _ none reached :=
    hreached ▸ ((SchedulerSystem.Agrees.initial limits scheduler hnew).run calls).1.exact
  have hcounted : (reached.dispatchIn order now).1 ≠ .error .accounting := by
    rcases (h.dispatchIn order now).2 with ⟨_, _, _, _, ⟨stop, hstop, hne, _⟩ | ⟨_, _, hok, _⟩⟩
    · exact fun heq => hne (Except.error.inj (hstop.symm.trans heq))
    · exact fun heq => nomatch hok.symm.trans heq
  have hqueue := h.expireLocked_queue horder now
  have hexact := (Exact.expireLocked now order reached h).1
  revert hcounted
  unfold EndpointScheduler.dispatchIn
  generalize EndpointScheduler.expireLocked now order reached = expiry at hqueue hexact
  dsimp only
  split
  · exact fun hcounted => absurd rfl hcounted
  split
  · next hfull => exact fun _ => ⟨Or.inl hfull, hqueue⟩
  split
  · next hnone =>
    refine fun _ => ⟨Or.inr fun key => ?_, hqueue⟩
    by_contra hsome
    obtain ⟨entry, hmem⟩ := List.exists_mem_of_ne_nil _ hsome
    have hscope := nextScope_isSome hexact.orders key
      (keyHasQueued_of_mem _ key entry (hqueue key ▸ hmem))
    simp [hnone] at hscope
  next scope moved hscope =>
  obtain ⟨_, _, _, _, hhas, _⟩ := nextScope_ring _ moved scope hscope
  obtain ⟨cursor, rfl⟩ := nextScope_eq _ moved scope hscope
  split
  · next hnone =>
    have hunit := nextUnit_isSome { expiry.1 with scopeCursor := cursor } scope hhas
    simp [hnone] at hunit
  next key turned hunit =>
  -- both turns only move cursors, so the queue of the key is that after the expiry
  obtain ⟨hqueued, cursors, rfl⟩ := nextUnit_hasQueued _ turned scope key hunit
  unfold takeHead
  dsimp only
  split
  · next hnone => simp [keyHasQueued, hnone] at hqueued
  next state hstate =>
  have hview := expiry.1.stateOf_some key state hstate
  split
  · next hnone => simp [keyHasQueued, hstate, hnone] at hqueued
  next entry rest hcons =>
  split
  · split
    · exact fun hcounted => absurd rfl hcounted
    · intro _
      have hkey : entry.request.key = key :=
        (hexact.accounts.queue_entry key entry (by simp [books, hview, hcons])).2.1
      subst hkey
      refine ⟨entry, rest, rfl, ?_, fun other => ?_⟩
      · rw [← hqueue, hview, hcons]
      · refine (congrArg AdmissionState.queue (stateOf_setKey expiry.1 _ other _)).trans ?_
        split
        · rfl
        · exact hqueue other
  · exact fun hcounted => absurd rfl hcounted

/-- Two requests of one key and one of another. -/
def threeQueued : List SchedulerCall :=
  [.enqueue ⟨1, ⟨"scope", 1⟩, 10⟩, .enqueue ⟨2, ⟨"scope", 1⟩, 30⟩, .enqueue ⟨3, ⟨"other", 1⟩, 10⟩]

/-- The first one of each key is late when the remaining one is dispatched, and the expiry
    visits the keys in another order than the table has them. -/
theorem dispatch_serves_oldest_late :
    let reached := (narrowSystem.run threeQueued).2.scheduler
    reached.keys.keys = [⟨"other", 1⟩, ⟨"scope", 1⟩] ∧
      ∃ entry rest, entry.request = ⟨2, ⟨"scope", 1⟩, 30⟩ ∧
        reached.ahead 20 ⟨"scope", 1⟩ = entry :: rest := by
  refine ⟨by decide +kernel, ?_⟩
  have hserved := dispatch_serves_oldest narrowLimits { limits := narrowLimits } rfl threeQueued
    (narrowSystem.run threeQueued).2.scheduler rfl [⟨"scope", 1⟩, ⟨"other", 1⟩]
    (by decide +kernel) 20
  have hanswer : ((narrowSystem.run threeQueued).2.scheduler.dispatchIn
      [⟨"scope", 1⟩, ⟨"other", 1⟩] 20).1 = .ok ⟨2, ⟨"scope", 1⟩, 30⟩ := by decide +kernel
  generalize (narrowSystem.run threeQueued).2.scheduler.dispatchIn _ 20 = answer at *
  obtain ⟨_, _, _⟩ := answer
  cases hanswer
  obtain ⟨entry, rest, hrequest, hahead, -⟩ := hserved
  exact ⟨entry, rest, hrequest, hahead⟩

end HelianthusModbus
