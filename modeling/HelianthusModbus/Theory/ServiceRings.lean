import HelianthusModbus.Theory.SchedulerInvariant

/-!
# Rings of the Service Order

The scopes of a scheduler form a ring with a cursor, and so do the units of each scope.
A dispatch serves the first scope from its cursor on that has queued work, and then the
first such unit of it.

Every operation does one of three things to these rings. Most only lose members, which
`Theory.SchedulerInvariant` says of each of them. An admission may open a key, whose
scope and unit go to the end of their lists: the end of the list is in the middle of the
round unless the cursor stands at the beginning. A dispatch serves.

## Main definitions

* `EndpointScheduler.Serves`: The rings before and after a turn.

## Theorems

* `EndpointScheduler.openKey_scopes`, `EndpointScheduler.openKey_units`: Opening a key.
* `EndpointScheduler.Exact.dispatchIn`: What a dispatch does.
-/

namespace HelianthusModbus

namespace EndpointScheduler

section Opening

variable {scheduler : EndpointScheduler} (h : Orders scheduler) (key : AdmissionKey)
include h

theorem orders_openKey : Orders (scheduler.openKey key).2 := by
  unfold openKey
  split
  · exact h
  · next hnew => exact (h.opened key _ hnew).2

/-- Opening a key puts a new scope behind the last of the list. -/
theorem openKey_scopes (b a : String) (hleads : Leads scheduler.scopeRing b a)
    (hplace : key.authorizationScope = a → a ∉ scheduler.scopeOrder →
      b ∈ scheduler.scopeOrder.drop scheduler.scopeCursor) :
    Leads (scheduler.openKey key).2.scopeRing b a := by
  unfold openKey
  split
  · exact hleads
  unfold scopeRing rememberOrder
  dsimp only
  show Leads (List.rotate (if key.authorizationScope ∈ scheduler.scopeOrder then
    scheduler.scopeOrder else scheduler.scopeOrder ++ [key.authorizationScope]) _) b a
  split
  · exact hleads
  next hnew =>
  have hb : b ∈ scheduler.scopeOrder := (mem_scopeRing scheduler b).mp hleads.mem
  have hcursor := h.scopeCursor_lt (List.ne_nil_of_mem hb)
  unfold scopeRing at hleads
  rw [List.rotate_eq_drop_append_take (by omega)] at hleads
  show Leads ((scheduler.scopeOrder ++ [key.authorizationScope]).rotate
    scheduler.scopeCursor) b a
  rw [rotate_append_singleton _ _ _ (by omega)]
  refine leads_inserted _ _ b a _ (fun heq => hnew (heq ▸ hb)) (fun heq => ?_) hleads
  exact hplace heq (heq ▸ hnew)

/-- Opening a key puts its unit behind the last of its scope. -/
theorem openKey_units (scope : String) (b a : UInt8)
    (hleads : Leads (scheduler.unitRing scope) b a)
    (hplace : key = { authorizationScope := scope, unitID := a } →
      a ∉ scheduler.unitsOf scope →
      b ∈ (scheduler.unitsOf scope).drop (scheduler.unitCursorOf scope)) :
    Leads ((scheduler.openKey key).2.unitRing scope) b a := by
  unfold openKey
  split
  · exact hleads
  next hclosed =>
  have hnew : key.unitID ∉ scheduler.unitsOf key.authorizationScope := by
    intro hin
    have hactive := (h.listed key).mpr hin
    rw [hclosed] at hactive
    cases hactive
  unfold unitRing
  rw [(h.opened key {} hclosed).1.unitsOf, Option.getD_some]
  show Leads (List.rotate _ (scheduler.unitCursorOf scope)) b a
  by_cases hscope : scope = key.authorizationScope
  · subst hscope
    rw [if_pos rfl]
    have hb : b ∈ scheduler.unitsOf key.authorizationScope :=
      (mem_unitRing scheduler _ b).mp hleads.mem
    have hcursor := h.unitCursorOf_lt _ (List.ne_nil_of_mem hb)
    unfold unitRing at hleads
    rw [List.rotate_eq_drop_append_take (by omega)] at hleads
    rw [rotate_append_singleton _ _ _ (by omega)]
    refine leads_inserted _ _ b a _ (fun heq => hnew (heq ▸ hb)) (fun heq => ?_) hleads
    exact hplace (by rw [← heq]) (heq ▸ hnew)
  · rw [if_neg hscope]
    exact hleads

end Opening

section Serving

/-- A dispatch of a request of `key`: its scope is the first of the round that has work,
    and so is its unit in the round of the scope. Both then come last. -/
structure Serves (middle after : EndpointScheduler) (key : AdmissionKey) : Prop where
  orders : Orders after
  limits : after.limits = middle.limits
  queued : middle.keyHasQueued key = true
  scopes : ∃ passed rest, middle.scopeRing = passed ++ key.authorizationScope :: rest ∧
    (∀ scope ∈ passed, middle.scopeHasQueued scope = false) ∧
    after.scopeRing = rest ++ passed ++ [key.authorizationScope]
  units : ∃ passed rest,
    middle.unitRing key.authorizationScope = passed ++ key.unitID :: rest ∧
    (∀ unit ∈ passed, middle.keyHasQueued
      { authorizationScope := key.authorizationScope, unitID := unit } = false) ∧
    after.unitRing key.authorizationScope = rest ++ passed ++ [key.unitID]
  others : ∀ scope, scope ≠ key.authorizationScope →
    after.unitRing scope = middle.unitRing scope

theorem nextScope_ring (scheduler moved : EndpointScheduler) (scope : String)
    (hnext : scheduler.nextScope = some (scope, moved)) :
    ∃ passed rest, scheduler.scopeRing = passed ++ scope :: rest ∧
      (∀ y ∈ passed, scheduler.scopeHasQueued y = false) ∧
      scheduler.scopeHasQueued scope = true ∧
      moved.scopeRing = rest ++ passed ++ [scope] := by
  unfold nextScope at hnext
  dsimp only at hnext
  split at hnext
  · cases hnext
  · next index hfind =>
    cases hnext
    exact found_rotate scheduler.scopeHasQueued scheduler.scopeOrder _ index "" hfind

theorem nextUnit_ring (scheduler turned : EndpointScheduler) (scope : String)
    (key : AdmissionKey) (hnext : scheduler.nextUnit scope = some (key, turned)) :
    key.authorizationScope = scope ∧
    (∃ passed rest, scheduler.unitRing scope = passed ++ key.unitID :: rest ∧
      (∀ y ∈ passed, scheduler.keyHasQueued
        { authorizationScope := scope, unitID := y } = false) ∧
      turned.unitRing scope = rest ++ passed ++ [key.unitID]) ∧
    ∀ scope', scope' ≠ scope → turned.unitRing scope' = scheduler.unitRing scope' := by
  unfold nextUnit at hnext
  dsimp only at hnext
  split at hnext
  · cases hnext
  next index hfind =>
  cases hnext
  refine ⟨rfl, ?_, ?_⟩
  · obtain ⟨passed, rest, hring, hpassed, -, hafter⟩ := found_rotate
      (fun unit => scheduler.keyHasQueued { authorizationScope := scope, unitID := unit })
      (scheduler.unitsOf scope) _ index 0 hfind
    refine ⟨passed, rest, hring, hpassed, ?_⟩
    unfold unitRing unitCursorOf
    dsimp only
    rw [Table.lookup_insert_ite, if_pos rfl]
    exact hafter
  · intro scope' hother
    unfold unitRing unitCursorOf
    dsimp only
    rw [Table.lookup_insert_ite, if_neg hother]
    rfl

theorem nextUnit_isSome (scheduler : EndpointScheduler) (scope : String)
    (h : scheduler.scopeHasQueued scope = true) : (scheduler.nextUnit scope).isSome := by
  unfold scopeHasQueued at h
  obtain ⟨unit, hunit, hqueued⟩ := List.any_eq_true.mp h
  unfold nextUnit
  dsimp only
  split
  · next hnone =>
    -- The probes read every unit of the scope.
    rw [← List.mem_rotate (n := (scheduler.unitCursor.lookup scope).getD 0),
      ← probeOrder_map _ _ 0] at hunit
    obtain ⟨index, hindex, rfl⟩ := List.mem_map.mp hunit
    exact absurd hqueued (List.find?_eq_none.mp hnone index hindex)
  · rfl

/-- A queued entry whose deadline is ahead survives the expiry. -/
theorem Expires.queued {now : Int} {before after : Books} {groups : List Nat}
    (h : Expires now before groups after) (key : AdmissionKey) (entry : ScheduledEntry)
    (hmem : entry ∈ (before.states key).queue) (hahead : now < entry.request.deadlineOffset) :
    entry ∈ (after.states key).queue := by
  induction h with
  | none books => exact hmem
  | more books late groups after _ hlate _ ih =>
    refine ih ?_
    have hne : entry ≠ late := by
      rintro rfl
      omega
    show entry ∈ (Function.update books.states late.request.key _ key).queue
    by_cases hkey : key = late.request.key
    · subst hkey
      rw [Function.update_self]
      exact (List.mem_erase_of_ne hne).mpr hmem
    · rw [Function.update_of_ne hkey]
      exact hmem

/-- Dispatching: expired entries leave, and then the next scope and the next unit in turn
    are served from the head of its queue, or nothing more happens. -/
theorem Exact.dispatchIn {active : AdmissionKey → Nat} {scheduler : EndpointScheduler}
    (h : Exact active none scheduler) (order : List AdmissionKey) (now : Int) :
    Exact active none (scheduler.dispatchIn order now).2.2 ∧
      ∃ middle, Exact active none middle ∧ Shrinks scheduler middle ∧
        Expires now scheduler.books (scheduler.dispatchIn order now).2.1 middle.books ∧
        ((∃ stop, (scheduler.dispatchIn order now).1 = .error stop ∧ stop ≠ .accounting ∧
            (scheduler.dispatchIn order now).2.2 = middle) ∨
          ∃ entry rest, (scheduler.dispatchIn order now).1 = .ok entry.request ∧
            (middle.stateOf entry.request.key).queue = entry :: rest ∧
            (scheduler.dispatchIn order now).2.2.books = middle.books.take entry ∧
            Serves middle (scheduler.dispatchIn order now).2.2 entry.request.key) := by
  obtain ⟨hexact, hshrinks, hok, hexpires⟩ := expireLocked now order scheduler h
  unfold EndpointScheduler.dispatchIn
  dsimp only
  rw [if_neg (by rw [hok]; nofun)]
  generalize hmiddle : (EndpointScheduler.expireLocked now order scheduler).1 = middle
    at hexact hshrinks hexpires ⊢
  split
  · exact ⟨hexact, middle, hexact, hshrinks, hexpires, Or.inl ⟨_, rfl, nofun, rfl⟩⟩
  next hroom =>
  split
  · exact ⟨hexact, middle, hexact, hshrinks, hexpires, Or.inl ⟨_, rfl, nofun, rfl⟩⟩
  next scope moved hscope =>
  -- Both turns only move cursors.
  obtain ⟨cursor, hmoved⟩ := nextScope_eq _ moved scope hscope
  have hscoped := hexact.turned moved ⟨cursor, _, hmoved⟩
    (hexact.orders.nextScope scope moved hscope)
  obtain ⟨passed, rest, hring, hpassed, hhas, hafter⟩ := nextScope_ring _ moved scope hscope
  split
  · -- A scope in turn has a unit with work.
    next hnone =>
    have hsome : (moved.nextUnit scope).isSome := nextUnit_isSome moved scope (by
      rw [hmoved]
      exact hhas)
    rw [hnone] at hsome
    cases hsome
  next key turned hunit =>
  obtain ⟨hqueued, cursors, hturned⟩ := nextUnit_hasQueued _ turned scope key hunit
  obtain ⟨rfl, hunits, hothers⟩ := nextUnit_ring _ turned scope key hunit
  have hturn := hscoped.1.turned turned ⟨_, cursors, hturned⟩
    (hscoped.1.orders.nextUnit _ key turned hunit)
  obtain ⟨hdone, entry, others, hanswer, rfl, hqueue, hbooks, htaken, hscopeRing, hunitRing⟩ :=
    hturn.1.takeHead key (by rw [hturned]; exact hqueued) (by
      rw [hturned, hmoved]
      dsimp only
      omega)
  have hbefore := hturn.2.trans hscoped.2
  have hsame : moved.unitRing = middle.unitRing := by rw [hmoved]; rfl
  have hpasses : moved.keyHasQueued = middle.keyHasQueued := by rw [hmoved]; rfl
  have hlimits : turned.limits = middle.limits := by rw [hturned, hmoved]
  rw [hsame, hpasses] at hunits
  refine ⟨hdone, middle, hexact, hshrinks, hexpires, Or.inr ⟨entry, others, hanswer, ?_, ?_,
    htaken.orders, htaken.limits.trans hlimits, hpasses ▸ hqueued,
    ⟨passed, rest, hring, hpassed, ?_⟩, ?_, fun scope' hother => ?_⟩⟩
  · rw [← hqueue]
    exact congrArg (fun books => (Books.states books entry.request.key).queue) hbefore.symm
  · rw [← hbefore]
    exact hbooks
  · rw [hscopeRing, ← hafter, hturned]
    rfl
  · rw [hunitRing]
    exact hunits
  · rw [hunitRing, hothers scope' hother, hsame]

end Serving

end EndpointScheduler

end HelianthusModbus
