import HelianthusModbus.Core.Scheduler
import HelianthusModbus.Lib.Ring

/-!
# Service Order

The scheduler serves scopes round robin, and within a scope its units round robin.
Both rounds run over lists that are extended when a key becomes active and shrunk
when it becomes empty, with a cursor into each that has to survive both.

`Orders` says that the lists name exactly the active keys, each once, and that
every cursor points into its list. It only depends on which keys are active. What
an operation does to the state of a key does not touch it, and opening and closing
a key are the two steps that have to be shown to keep it.

Read from its cursor on, a list is a ring. Most operations only take members out of the
rings, when keys become empty and are closed, and `Shrinks` says that they leave the
rest in order.

## Main definitions

* `EndpointScheduler.Orders`: The order lists agree with the active keys.
* `EndpointScheduler.scopeRing`, `EndpointScheduler.unitRing`: The rings.

## Theorems

* `rotate_cursorAfterRemoval`: Removing a member takes it out of the round.
* `EndpointScheduler.Orders.closed`: Closing a key only loses members.
* `EndpointScheduler.Orders.nextScope`, `Orders.nextUnit`: So does taking turns.
-/

namespace HelianthusModbus

/-- A cursor points into a list, or stands at zero because the list is empty. -/
def CursorIn (cursor length : Nat) : Prop := cursor < length ∨ (length = 0 ∧ cursor = 0)

/-- A cursor stays in range when an element is removed. -/
theorem cursorAfterRemoval_cursorIn (cursor removed length : Nat) :
    CursorIn (cursorAfterRemoval cursor removed length) (length - 1) := by
  unfold cursorAfterRemoval CursorIn
  by_cases hlength : length ≤ 1
  · rw [if_pos hlength]
    omega
  · rw [if_neg hlength]
    dsimp only
    split <;> split <;> omega

theorem mem_probeOrder (cursor length index : Nat) (h : index ∈ probeOrder cursor length) :
    index < length := by
  unfold probeOrder at h
  rcases List.mem_map.mp h with ⟨checked, hchecked, rfl⟩
  have hpos : checked < length := List.mem_range.mp hchecked
  exact Nat.mod_lt _ (by omega)

section Cursors

variable {α : Type}

/-- The probes of a cursor read the rotation. -/
theorem probeOrder_map (l : List α) (cursor : Nat) (d : α) :
    (probeOrder cursor l.length).map (fun index => l.getD index d) = l.rotate cursor := by
  refine List.ext_getElem ?_ (fun k hk hk' => ?_)
  · simp [probeOrder]
  · have hlength : k < l.length := by rwa [List.length_rotate] at hk'
    have hpos : (cursor + k) % l.length < l.length := Nat.mod_lt _ (by omega)
    simp only [probeOrder, List.map_map, List.getElem_map, List.getElem_range,
      Function.comp_apply, List.getElem_rotate]
    rw [List.getD_eq_getElem?_getD, List.getElem?_eq_getElem hpos, Option.getD_some]
    simp only [Nat.add_comm]

/-- What a probe finds is the first of the rotation that passes, and the cursor then
    stands behind it. -/
theorem found_rotate (p : α → Bool) (l : List α) (cursor index : Nat) (d : α)
    (hfind : (probeOrder cursor l.length).find? (fun index => p (l.getD index d)) =
      some index) :
    ∃ passed rest, l.rotate cursor = passed ++ l.getD index d :: rest ∧
      (∀ y ∈ passed, p y = false) ∧ p (l.getD index d) = true ∧
      l.rotate ((index + 1) % l.length) = rest ++ passed ++ [l.getD index d] := by
  obtain ⟨hp, before, after, hsplit, hbefore⟩ := List.find?_eq_some_iff_append.mp hfind
  have hmap := probeOrder_map l cursor d
  rw [hsplit, List.map_append, List.map_cons] at hmap
  refine ⟨before.map fun index => l.getD index d, after.map fun index => l.getD index d,
    hmap.symm, ?_, hp, ?_⟩
  · intro y hy
    obtain ⟨i, hi, rfl⟩ := List.mem_map.mp hy
    simpa only [Bool.not_eq_eq_eq_not, Bool.not_true] using hbefore i hi
  · -- The probe at place `before.length` is the index that was found.
    have hindex : index = (cursor + before.length) % l.length := by
      have hlength : before.length < (probeOrder cursor l.length).length := by
        rw [hsplit, List.length_append, List.length_cons]
        omega
      have hget : (probeOrder cursor l.length)[before.length] = index := by
        simp [hsplit, List.getElem_append_right (Nat.le_refl _)]
      rw [← hget]
      simp [probeOrder]
    have hturn := rotate_after l _ _ _ cursor hmap.symm
    rw [List.length_map] at hturn
    rw [← hturn, List.rotate_mod]
    have hmod : l.rotate (index + 1) = l.rotate (cursor + before.length + 1) := by
      rw [← List.rotate_rotate, ← List.rotate_rotate l (cursor + before.length), hindex,
        List.rotate_mod]
    rw [hmod, Nat.add_assoc]

theorem rotate_append_singleton (l : List α) (cursor : Nat) (z : α) (hcursor : cursor ≤ l.length) :
    (l ++ [z]).rotate cursor = l.drop cursor ++ z :: l.take cursor := by
  rw [List.rotate_eq_drop_append_take (by rw [List.length_append]; omega),
    List.drop_append_of_le_length hcursor, List.take_append_of_le_length hcursor,
    List.append_assoc, List.singleton_append]

/-- A cursor before the end of the shorter list stays where it is, if the removed member
    stands at it or behind it. -/
theorem cursorAfterRemoval_before (cursor removed length : Nat) (hplace : cursor ≤ removed)
    (hend : cursor < length - 1) : cursorAfterRemoval cursor removed length = cursor := by
  unfold cursorAfterRemoval
  dsimp only
  split_ifs <;> omega

/-- A cursor at the end goes back to the beginning. -/
theorem cursorAfterRemoval_end (cursor removed length : Nat) (hplace : cursor ≤ removed)
    (hend : length - 1 ≤ cursor) : cursorAfterRemoval cursor removed length = 0 := by
  unfold cursorAfterRemoval
  dsimp only
  split_ifs <;> omega

/-- A cursor behind the removed member moves with its own. -/
theorem cursorAfterRemoval_behind (cursor removed length : Nat) (hplace : removed < cursor)
    (hcursor : cursor < length) : cursorAfterRemoval cursor removed length = cursor - 1 := by
  unfold cursorAfterRemoval
  dsimp only
  split_ifs <;> omega

theorem rotate_cursorAfterRemoval [DecidableEq α] (l : List α) (cursor : Nat) (y : α)
    (hy : y ∈ l) (hnodup : l.Nodup) (hcursor : cursor < l.length) :
    (l.erase y).rotate (cursorAfterRemoval cursor (l.idxOf y) l.length) =
      (l.rotate cursor).erase y := by
  obtain ⟨u, v, rfl⟩ := List.append_of_mem hy
  have hu : y ∉ u := fun hin =>
    (List.nodup_append.mp hnodup).2.2 y hin y List.mem_cons_self rfl
  have hv : y ∉ v := (List.nodup_cons.mp (List.nodup_append.mp hnodup).2.1).1
  have hidx : (u ++ y :: v).idxOf y = u.length := by
    rw [List.idxOf_append_of_notMem hu, List.idxOf_cons_self, Nat.add_zero]
  have herase : (u ++ y :: v).erase y = u ++ v := by
    rw [List.erase_append_right _ hu, List.erase_cons_head]
  rw [hidx, herase, List.rotate_eq_drop_append_take (Nat.le_of_lt hcursor)]
  simp only [List.length_append, List.length_cons] at hcursor ⊢
  by_cases hplace : cursor ≤ u.length
  · -- The cursor stands at the removed member or before it.
    have hdrop : y ∉ u.drop cursor := fun hin => hu (List.mem_of_mem_drop hin)
    rw [List.drop_append_of_le_length hplace, List.take_append_of_le_length hplace,
      List.append_assoc, List.erase_append_right _ hdrop, List.cons_append,
      List.erase_cons_head]
    by_cases hend : cursor < u.length + v.length
    · rw [cursorAfterRemoval_before _ _ _ hplace (by omega),
        List.rotate_eq_drop_append_take (by rw [List.length_append]; omega),
        List.drop_append_of_le_length hplace, List.take_append_of_le_length hplace,
        List.append_assoc]
    · have hvnil : v = [] := List.eq_nil_of_length_eq_zero (by omega)
      have hat : cursor = u.length := by omega
      rw [cursorAfterRemoval_end _ _ _ hplace (by omega), hat, hvnil, List.drop_length,
        List.take_length, List.append_nil, List.rotate_zero]
      rfl
  · -- The cursor stands behind the removed member.
    obtain ⟨k, hk⟩ : ∃ k, cursor = u.length + (k + 1) := ⟨cursor - u.length - 1, by omega⟩
    have hdrop : y ∉ v.drop k := fun hin => hv (List.mem_of_mem_drop hin)
    rw [cursorAfterRemoval_behind _ _ _ (by omega) (by omega), hk, List.drop_length_add_append,
      List.take_length_add_append, List.drop_succ_cons, List.take_succ_cons,
      List.erase_append_right _ hdrop, List.erase_append_right _ hu, List.erase_cons_head,
      List.rotate_eq_drop_append_take (by rw [List.length_append]; omega)]
    have hless : u.length + (k + 1) - 1 = u.length + k := by omega
    rw [hless, List.drop_length_add_append, List.take_length_add_append]

end Cursors

namespace EndpointScheduler

/-- The order lists name every active key once, and the cursors are in range. -/
structure Orders (scheduler : EndpointScheduler) : Prop where
  scopes_nodup : scheduler.scopeOrder.Nodup
  units_nodup : ∀ scope, (scheduler.unitsOf scope).Nodup
  listed : ∀ key, (scheduler.keys.lookup key).isSome ↔
    key.unitID ∈ scheduler.unitsOf key.authorizationScope
  scope_listed : ∀ scope, scope ∈ scheduler.scopeOrder ↔ scheduler.unitsOf scope ≠ []
  units_nonempty : ∀ scope, scheduler.unitOrder.lookup scope ≠ some []
  scope_cursor : CursorIn scheduler.scopeCursor scheduler.scopeOrder.length
  unit_cursor : ∀ scope cursor, scheduler.unitCursor.lookup scope = some cursor →
    cursor < (scheduler.unitsOf scope).length

namespace Orders

variable {scheduler : EndpointScheduler}

/-- The order only depends on the lists, the cursors and which keys are active. -/
theorem congr (h : Orders scheduler) (other : EndpointScheduler)
    (hkeys : ∀ key, (other.keys.lookup key).isSome = (scheduler.keys.lookup key).isSome)
    (hscopes : other.scopeOrder = scheduler.scopeOrder)
    (hunits : other.unitOrder = scheduler.unitOrder)
    (hscope : other.scopeCursor = scheduler.scopeCursor)
    (hunit : other.unitCursor = scheduler.unitCursor) : Orders other := by
  have hunitsOf : other.unitsOf = scheduler.unitsOf := by
    funext scope
    unfold unitsOf
    rw [hunits]
  constructor
  case scopes_nodup => rw [hscopes]; exact h.scopes_nodup
  case units_nodup => rw [hunitsOf]; exact h.units_nodup
  case listed =>
    intro key
    rw [hkeys, hunitsOf]
    exact h.listed key
  case scope_listed => rw [hscopes, hunitsOf]; exact h.scope_listed
  case units_nonempty => rw [hunits]; exact h.units_nonempty
  case scope_cursor => rw [hscopes, hscope]; exact h.scope_cursor
  case unit_cursor => rw [hunit, hunitsOf]; exact h.unit_cursor

theorem key_eq (key key' : AdmissionKey)
    (hscope : key'.authorizationScope = key.authorizationScope)
    (hunit : key'.unitID = key.unitID) : key' = key := by
  obtain ⟨scope, unit⟩ := key
  obtain ⟨scope', unit'⟩ := key'
  simp only at hscope hunit
  rw [hscope, hunit]

end Orders

/-- The scopes from the cursor on. -/
def scopeRing (scheduler : EndpointScheduler) : List String :=
  scheduler.scopeOrder.rotate scheduler.scopeCursor

/-- The cursor among the units of a scope. -/
def unitCursorOf (scheduler : EndpointScheduler) (scope : String) : Nat :=
  (scheduler.unitCursor.lookup scope).getD 0

/-- The units of a scope from the cursor on. -/
def unitRing (scheduler : EndpointScheduler) (scope : String) : List UInt8 :=
  (scheduler.unitsOf scope).rotate (scheduler.unitCursorOf scope)

theorem mem_scopeRing (scheduler : EndpointScheduler) (scope : String) :
    scope ∈ scheduler.scopeRing ↔ scope ∈ scheduler.scopeOrder := List.mem_rotate

theorem mem_unitRing (scheduler : EndpointScheduler) (scope : String) (unit : UInt8) :
    unit ∈ scheduler.unitRing scope ↔ unit ∈ scheduler.unitsOf scope := List.mem_rotate

theorem Orders.unitCursorOf_lt {scheduler : EndpointScheduler} (h : Orders scheduler)
    (scope : String) (hunits : scheduler.unitsOf scope ≠ []) :
    scheduler.unitCursorOf scope < (scheduler.unitsOf scope).length := by
  unfold unitCursorOf
  cases hcursor : scheduler.unitCursor.lookup scope with
  | none => exact List.length_pos_of_ne_nil hunits
  | some cursor => exact h.unit_cursor scope cursor hcursor

theorem Orders.scopeCursor_lt {scheduler : EndpointScheduler} (h : Orders scheduler)
    (hscopes : scheduler.scopeOrder ≠ []) :
    scheduler.scopeCursor < scheduler.scopeOrder.length := by
  have hpos := List.length_pos_of_ne_nil hscopes
  have hcursor := h.scope_cursor
  unfold CursorIn at hcursor
  omega

/-- The members of the rings after a step are some of those before it, in the same order. -/
structure Shrinks (before after : EndpointScheduler) : Prop where
  orders : Orders after
  limits : after.limits = before.limits
  scopeOrder : after.scopeOrder.Sublist before.scopeOrder
  scopeRing : after.scopeRing.Sublist before.scopeRing
  unitsOf : ∀ scope, (after.unitsOf scope).Sublist (before.unitsOf scope)
  unitRing : ∀ scope, (after.unitRing scope).Sublist (before.unitRing scope)

theorem Shrinks.trans {first second third : EndpointScheduler} (h : Shrinks first second)
    (h' : Shrinks second third) : Shrinks first third where
  orders := h'.orders
  limits := h'.limits.trans h.limits
  scopeOrder := h'.scopeOrder.trans h.scopeOrder
  scopeRing := h'.scopeRing.trans h.scopeRing
  unitsOf scope := (h'.unitsOf scope).trans (h.unitsOf scope)
  unitRing scope := (h'.unitRing scope).trans (h.unitRing scope)

/-- Only the units of one scope change, and with them the active keys of the scope. -/
structure Rescoped (before after : EndpointScheduler) (scope : String)
    (listed : Option (List UInt8)) (cursor : Option Nat) : Prop where
  table : ∀ scope', after.unitOrder.lookup scope' =
    if scope' = scope then listed else before.unitOrder.lookup scope'
  cursors : ∀ scope', after.unitCursor.lookup scope' =
    if scope' = scope then cursor else before.unitCursor.lookup scope'
  keys : ∀ key, (after.keys.lookup key).isSome ↔
    if key.authorizationScope = scope then key.unitID ∈ listed.getD []
    else (before.keys.lookup key).isSome

namespace Rescoped

variable {before after : EndpointScheduler} {scope : String} {listed : Option (List UInt8)}
  {cursor : Option Nat} (h : Rescoped before after scope listed cursor)
include h

theorem unitsOf (scope' : String) :
    after.unitsOf scope' = if scope' = scope then listed.getD [] else before.unitsOf scope' := by
  unfold EndpointScheduler.unitsOf
  rw [h.table]
  split <;> rfl

variable (horders : Orders before) (hnodup : (listed.getD []).Nodup) (hlisted : listed ≠ some [])
  (hcursor : ∀ index, cursor = some index → index < (listed.getD []).length)
  (hscopes : after.scopeOrder.Nodup)
  (hmem : ∀ scope', scope' ∈ after.scopeOrder ↔
    if scope' = scope then listed.getD [] ≠ [] else scope' ∈ before.scopeOrder)
  (hin : CursorIn after.scopeCursor after.scopeOrder.length)
include horders hnodup hlisted hcursor hscopes hmem hin

theorem orders : Orders after := by
  -- Each field is what is given about the scope, and elsewhere what it was.
  constructor
  case scopes_nodup => exact hscopes
  case units_nodup =>
    intro scope'
    rw [h.unitsOf]
    split
    · exact hnodup
    · exact horders.units_nodup scope'
  case listed =>
    intro key
    rw [h.unitsOf, h.keys]
    split
    · exact Iff.rfl
    · exact horders.listed key
  case scope_listed =>
    intro scope'
    rw [h.unitsOf, hmem]
    split
    · exact Iff.rfl
    · exact horders.scope_listed scope'
  case units_nonempty =>
    intro scope'
    rw [h.table]
    split
    · exact hlisted
    · exact horders.units_nonempty scope'
  case scope_cursor => exact hin
  case unit_cursor =>
    intro scope' index hindex
    rw [h.cursors] at hindex
    rw [h.unitsOf]
    split at hindex
    · next hsame =>
      rw [if_pos hsame]
      exact hcursor index hindex
    · next hother =>
      rw [if_neg hother]
      exact horders.unit_cursor scope' index hindex

theorem shrinks (hlimits : after.limits = before.limits)
    (horder : after.scopeOrder.Sublist before.scopeOrder)
    (hring : after.scopeRing.Sublist before.scopeRing)
    (hunits : (listed.getD []).Sublist (before.unitsOf scope))
    (hunitRing : ((listed.getD []).rotate (cursor.getD 0)).Sublist (before.unitRing scope)) :
    Shrinks before after := by
  refine ⟨h.orders horders hnodup hlisted hcursor hscopes hmem hin, hlimits, horder, hring,
    fun scope' => ?_, fun scope' => ?_⟩
  · rw [h.unitsOf]
    split
    · next hsame => rw [hsame]; exact hunits
    · exact List.Sublist.refl _
  · unfold unitRing unitCursorOf
    rw [h.unitsOf, h.cursors]
    split
    · next hsame => rw [hsame]; exact hunitRing
    · exact List.Sublist.refl _

end Rescoped

/-- Opening a key keeps the order: it goes to the end of its scope, and a new scope
    to the end of the scopes. -/
theorem Orders.opened {scheduler : EndpointScheduler} (h : Orders scheduler) (key : AdmissionKey)
    (state : AdmissionState) (hnew : scheduler.keys.lookup key = none) :
    Rescoped scheduler ((scheduler.setKey key state).rememberOrder key) key.authorizationScope
        (some (scheduler.unitsOf key.authorizationScope ++ [key.unitID]))
        (scheduler.unitCursor.lookup key.authorizationScope) ∧
      Orders ((scheduler.setKey key state).rememberOrder key) := by
  have hunit : key.unitID ∉ scheduler.unitsOf key.authorizationScope := by
    intro hin
    have hsome := (h.listed key).mpr hin
    rw [hnew] at hsome
    cases hsome
  have hnonempty : scheduler.unitsOf key.authorizationScope ++ [key.unitID] ≠ [] :=
    List.append_ne_nil_of_right_ne_nil _ (List.cons_ne_nil _ _)
  have hscopeOrder : ((scheduler.setKey key state).rememberOrder key).scopeOrder =
      if key.authorizationScope ∈ scheduler.scopeOrder then scheduler.scopeOrder
      else scheduler.scopeOrder ++ [key.authorizationScope] := rfl
  have hrescoped : Rescoped scheduler ((scheduler.setKey key state).rememberOrder key)
      key.authorizationScope (some (scheduler.unitsOf key.authorizationScope ++ [key.unitID]))
      (scheduler.unitCursor.lookup key.authorizationScope) := by
    refine ⟨fun scope => ?_, fun scope => ?_, fun key' => ?_⟩
    · rw [← Table.lookup_insert_ite]
      exact congrArg _ (if_neg hunit)
    · split
      · next hsame => rw [hsame]; rfl
      · rfl
    · have hactive : ((scheduler.setKey key state).rememberOrder key).keys.lookup key' =
          if key' = key then some state else scheduler.keys.lookup key' :=
        Table.lookup_insert_ite scheduler.keys key key' state
      rw [hactive]
      by_cases hkey : key' = key
      · subst hkey
        rw [if_pos rfl, if_pos rfl]
        exact iff_of_true rfl (List.mem_append_right _ (List.mem_singleton_self _))
      · rw [if_neg hkey]
        split
        · next hscope =>
          rw [h.listed key', hscope, Option.getD_some, List.mem_append, List.mem_singleton]
          refine ⟨Or.inl, fun hin => hin.resolve_right ?_⟩
          exact fun hsame => hkey (key_eq key key' hscope hsame)
        · exact Iff.rfl
  refine ⟨hrescoped, hrescoped.orders h ?_ ?_ (fun index hindex => ?_) ?_ (fun scope => ?_) ?_⟩
  · exact (h.units_nodup _).append (List.nodup_singleton _) (List.disjoint_singleton.mpr hunit)
  · exact fun hnil => hnonempty (Option.some.inj hnil)
  · have hold := h.unit_cursor _ index hindex
    rw [Option.getD_some, List.length_append]
    omega
  · rw [hscopeOrder]
    split
    · exact h.scopes_nodup
    · next hnot =>
      exact h.scopes_nodup.append (List.nodup_singleton _) (List.disjoint_singleton.mpr hnot)
  · -- A scope is listed from now on if it was before or is that of the key.
    rw [hscopeOrder]
    by_cases hscope : scope = key.authorizationScope
    · rw [if_pos hscope, hscope]
      refine iff_of_true ?_ hnonempty
      split
      · assumption
      · exact List.mem_append_right _ (List.mem_singleton_self _)
    · rw [if_neg hscope]
      split
      · exact Iff.rfl
      · rw [List.mem_append, List.mem_singleton]
        exact ⟨fun hin => hin.resolve_right hscope, Or.inl⟩
  · rw [hscopeOrder]
    have hcursor := h.scope_cursor
    have hkeep : ((scheduler.setKey key state).rememberOrder key).scopeCursor =
        scheduler.scopeCursor := rfl
    unfold CursorIn at hcursor ⊢
    split
    · exact hcursor
    · rw [List.length_append, List.length_singleton]
      omega

namespace Orders

variable {scheduler : EndpointScheduler} (h : Orders scheduler)
include h

/-- A step that leaves the lists, the cursors and the set of active keys alone. -/
theorem same {after : EndpointScheduler}
    (hkeys : ∀ key, (after.keys.lookup key).isSome = (scheduler.keys.lookup key).isSome)
    (hlimits : after.limits = scheduler.limits)
    (hscopes : after.scopeOrder = scheduler.scopeOrder)
    (hunits : after.unitOrder = scheduler.unitOrder)
    (hscope : after.scopeCursor = scheduler.scopeCursor)
    (hunit : after.unitCursor = scheduler.unitCursor) : Shrinks scheduler after := by
  refine ⟨h.congr after hkeys hscopes hunits hscope hunit, hlimits, ?_, ?_, ?_, ?_⟩
  all_goals
    simp [scopeRing, unitRing, EndpointScheduler.unitsOf, unitCursorOf, hscopes, hunits, hscope,
      hunit]

theorem refl : Shrinks scheduler scheduler := h.same (fun _ => rfl) rfl rfl rfl rfl rfl

theorem setKey (key : AdmissionKey) (state : AdmissionState)
    (hactive : (scheduler.keys.lookup key).isSome) :
    Shrinks scheduler (scheduler.setKey key state) := by
  refine h.same (fun key' => ?_) rfl rfl rfl rfl rfl
  unfold EndpointScheduler.setKey
  rw [Table.lookup_insert_ite]
  by_cases hkey : key' = key
  · rw [if_pos hkey, hkey, hactive, Option.isSome_some]
  · rw [if_neg hkey]

/-- Within its own scope a key is closed exactly when its unit is erased. -/
theorem listed_erase (key key' : AdmissionKey) :
    (AList.lookup key' (scheduler.keys.erase key)).isSome ↔
      if key'.authorizationScope = key.authorizationScope then
        key'.unitID ∈ (scheduler.unitsOf key.authorizationScope).erase key.unitID
      else (scheduler.keys.lookup key').isSome := by
  rw [Table.lookup_erase_ite]
  by_cases hkey : key' = key
  · rw [if_pos hkey, hkey, if_pos rfl, (h.units_nodup _).mem_erase_iff]
    exact iff_of_false (by nofun) (fun hboth => hboth.1 rfl)
  · rw [if_neg hkey]
    split
    · next hscope =>
      rw [(h.units_nodup _).mem_erase_iff, h.listed key', hscope]
      exact ⟨fun hin => ⟨fun hsame => hkey (key_eq key key' hscope hsame), hin⟩, And.right⟩
    · exact Iff.rfl

section Closing

variable {key : AdmissionKey} (hactive : (scheduler.keys.lookup key).isSome)
include hactive

/-- Closing a key whose scope has other units. -/
theorem closed_unit
    (hremaining : (scheduler.unitsOf key.authorizationScope).erase key.unitID ≠ []) :
    Shrinks scheduler { scheduler with
      keys := scheduler.keys.erase key
      unitOrder := scheduler.unitOrder.insert key.authorizationScope
        ((scheduler.unitsOf key.authorizationScope).erase key.unitID)
      unitCursor := scheduler.unitCursor.insert key.authorizationScope
        (cursorAfterRemoval (scheduler.unitCursorOf key.authorizationScope)
          ((scheduler.unitsOf key.authorizationScope).idxOf key.unitID)
          (scheduler.unitsOf key.authorizationScope).length) } := by
  have hunit := (h.listed key).mp hactive
  have hlength := List.length_erase_of_mem hunit
  have hin := cursorAfterRemoval_cursorIn (scheduler.unitCursorOf key.authorizationScope)
    ((scheduler.unitsOf key.authorizationScope).idxOf key.unitID)
    (scheduler.unitsOf key.authorizationScope).length
  refine Rescoped.shrinks ⟨fun _ => Table.lookup_insert_ite _ _ _ _,
    fun _ => Table.lookup_insert_ite _ _ _ _, h.listed_erase key⟩ h ((h.units_nodup _).erase _)
    (fun hnil => hremaining (Option.some.inj hnil)) (fun index hindex => ?_) h.scopes_nodup
    (fun scope => ?_) h.scope_cursor rfl (List.Sublist.refl _) (List.Sublist.refl _)
    List.erase_sublist ?_
  · have hpos := List.length_pos_of_ne_nil hremaining
    rw [Option.getD_some, hlength]
    rw [hlength] at hpos
    rw [Option.some.inj hindex] at hin
    unfold CursorIn at hin
    omega
  · split
    · next hsame =>
      rw [hsame, h.scope_listed]
      exact iff_of_true (List.ne_nil_of_mem hunit) hremaining
    · exact Iff.rfl
  · rw [Option.getD_some, Option.getD_some, rotate_cursorAfterRemoval _ _ _ hunit
      (h.units_nodup _) (h.unitCursorOf_lt _ (List.ne_nil_of_mem hunit))]
    exact List.erase_sublist

/-- Closing the last key of a scope. -/
theorem closed_scope
    (hremaining : (scheduler.unitsOf key.authorizationScope).erase key.unitID = []) :
    Shrinks scheduler { scheduler with
      keys := scheduler.keys.erase key
      scopeOrder := scheduler.scopeOrder.erase key.authorizationScope
      scopeCursor := cursorAfterRemoval scheduler.scopeCursor
        (scheduler.scopeOrder.idxOf key.authorizationScope) scheduler.scopeOrder.length
      unitOrder := scheduler.unitOrder.erase key.authorizationScope
      unitCursor := scheduler.unitCursor.erase key.authorizationScope } := by
  have hlisted : key.authorizationScope ∈ scheduler.scopeOrder :=
    (h.scope_listed _).mpr (List.ne_nil_of_mem ((h.listed key).mp hactive))
  have hkeys := h.listed_erase key
  rw [hremaining] at hkeys
  refine Rescoped.shrinks ⟨fun _ => Table.lookup_erase_ite _ _ _,
    fun _ => Table.lookup_erase_ite _ _ _, hkeys⟩ h List.nodup_nil nofun nofun
    (h.scopes_nodup.erase _) (fun scope => ?_) ?_ rfl List.erase_sublist ?_ (List.nil_sublist _) ?_
  · rw [h.scopes_nodup.mem_erase_iff]
    split
    · next hsame => exact iff_of_false (fun hboth => hboth.1 hsame) (fun hne => hne rfl)
    · next hother => exact ⟨And.right, fun hin => ⟨hother, hin⟩⟩
  · rw [List.length_erase_of_mem hlisted]
    exact cursorAfterRemoval_cursorIn _ _ _
  · unfold scopeRing
    rw [rotate_cursorAfterRemoval _ _ _ hlisted h.scopes_nodup
      (h.scopeCursor_lt (List.ne_nil_of_mem hlisted))]
    exact List.erase_sublist
  · rw [Option.getD_none, List.rotate_nil]
    exact List.nil_sublist _

theorem closed :
    Shrinks scheduler ({ scheduler with keys := scheduler.keys.erase key }.forgetOrder key) := by
  have hunit := (h.listed key).mp hactive
  have hscope : key.authorizationScope ∈ scheduler.scopeOrder :=
    (h.scope_listed _).mpr (List.ne_nil_of_mem hunit)
  unfold forgetOrder
  dsimp only
  split
  · next hnot => exact absurd hunit hnot
  split
  · next hremaining => exact h.closed_unit hactive hremaining
  · next hremaining => exact h.closed_scope hactive (not_not.mp hremaining)

end Closing

theorem nextScope (scope : String) (after : EndpointScheduler)
    (hnext : scheduler.nextScope = some (scope, after)) : Orders after := by
  unfold EndpointScheduler.nextScope at hnext
  dsimp only at hnext
  split at hnext
  · cases hnext
  · next index hfind =>
    cases hnext
    have hindex := mem_probeOrder _ _ index (List.mem_of_find?_eq_some hfind)
    exact { h with scope_cursor := Or.inl (Nat.mod_lt _ (by omega)) }

theorem nextUnit (scope : String) (key : AdmissionKey)
    (after : EndpointScheduler) (hnext : scheduler.nextUnit scope = some (key, after)) :
    Orders after := by
  unfold EndpointScheduler.nextUnit at hnext
  dsimp only at hnext
  split at hnext
  · cases hnext
  · next index hfind =>
    cases hnext
    have hindex := mem_probeOrder _ _ index (List.mem_of_find?_eq_some hfind)
    refine { h with unit_cursor := ?_ }
    intro scope' cursor hcursor
    dsimp only at hcursor
    rw [Table.lookup_insert_ite] at hcursor
    split at hcursor
    · next hscope =>
      rw [← Option.some.inj hcursor, hscope]
      exact Nat.mod_lt _ (by omega)
    · exact h.unit_cursor scope' cursor hcursor

end Orders

theorem nextScope_eq (scheduler after : EndpointScheduler) (scope : String)
    (hnext : scheduler.nextScope = some (scope, after)) :
    ∃ cursor, after = { scheduler with scopeCursor := cursor } := by
  unfold nextScope at hnext
  dsimp only at hnext
  split at hnext
  · cases hnext
  · cases hnext
    exact ⟨_, rfl⟩

/-- The key whose turn it is has a queue, and the turn only moves a cursor. -/
theorem nextUnit_hasQueued (scheduler after : EndpointScheduler) (scope : String)
    (key : AdmissionKey) (hnext : scheduler.nextUnit scope = some (key, after)) :
    scheduler.keyHasQueued key = true ∧
      ∃ cursors, after = { scheduler with unitCursor := cursors } := by
  unfold nextUnit at hnext
  dsimp only at hnext
  split at hnext
  · cases hnext
  · next index hfind =>
    cases hnext
    have hqueued := List.find?_some hfind
    exact ⟨hqueued, _, rfl⟩

end EndpointScheduler

end HelianthusModbus
