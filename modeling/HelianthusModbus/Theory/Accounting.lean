import HelianthusModbus.Theory.Admission

/-!
# Scheduler Accounting

The scheduler keeps the same facts several times over: an entry stands in the
entry table and, while it is queued, in the queue of its key; every key counts
its queue, its in-flight entries and its dependents; a group is found through its
own table. This module says what it means for these to agree.

The agreement speaks of a key's state whether or not the key is active, an
inactive key having the empty state. `Books` is the view of a scheduler in which
that is all there is: opening and closing a key do not change it, and neither do
the order lists. An entry moves through the books in four ways. Each of them replaces
what stands under one id by something else or nothing, and `Accounts.swap` says once
why that keeps the accounts exact.

The dependents are the one counter whose meaning lies outside the scheduler. The
number a key should have is a parameter of `Accounts`, and the one move that
changes it says how.

## Main definitions

* `EndpointScheduler.Books`: The view of a scheduler that the accounts are about.
* `EndpointScheduler.Accounts`: The counters agree with the entries.
* `EndpointScheduler.Books.place`, `Books.removeQueued`, `Books.removeInFlight`,
  `Books.take`: The four ways an entry moves.

## Theorems

* `EndpointScheduler.Accounts.swap`: Replacing one entry keeps the accounts exact.
* `EndpointScheduler.Accounts.place`, `Accounts.removeQueued`,
  `Accounts.removeInFlight`, `Accounts.take`: Each move keeps the accounts exact.
* `EndpointScheduler.Accounts.weight_le`, `Accounts.inFlight_pos`: No counter is
  taken below zero.
-/

namespace HelianthusModbus

namespace EndpointScheduler

/-- What the accounts are kept in: the state of every key, active or not, the entry
    table, the entry of every group and the number of entries in flight. -/
structure Books where
  states : AdmissionKey → AdmissionState
  entries : Table Nat ScheduledEntry
  groups : Nat → Option Nat
  inFlight : Int

/-- The books of a scheduler. -/
def books (scheduler : EndpointScheduler) : Books where
  states := scheduler.stateOf
  entries := scheduler.entries
  groups := fun group => scheduler.coalesced.lookup group
  inFlight := scheduler.inFlight

/-- Whether an entry is in flight under a key. -/
def inFlightUnder (key : AdmissionKey) (_ : Nat) (entry : ScheduledEntry) : Bool :=
  entry.state = .inFlight ∧ entry.request.key = key

/-- Whether an entry is in flight at all. -/
def isInFlight (_ : Nat) (entry : ScheduledEntry) : Bool := entry.state = .inFlight

/-- The group table finds exactly the entries that have a group. -/
def Linked (entries : Table Nat ScheduledEntry) (groups : Nat → Option Nat) : Prop :=
  ∀ group id, groups group = some id ↔
    ∃ entry, entries.lookup id = some entry ∧ entry.coalesced = some group

/-- The counters of every key, the entry table, the queues and the group table
    agree, `active` being the number of active dependents of each key. -/
structure Accounts (active : AdmissionKey → Nat) (books : Books) : Prop where
  entry_id : ∀ id entry, books.entries.lookup id = some entry → entry.request.requestID = id
  queue_entry : ∀ key, ∀ entry ∈ (books.states key).queue,
    books.entries.lookup entry.request.requestID = some entry ∧
      entry.request.key = key ∧ entry.state = .queued
  queue_nodup : ∀ key, (books.states key).queue.Nodup
  queued_mem : ∀ id entry, books.entries.lookup id = some entry → entry.state = .queued →
    entry ∈ (books.states entry.request.key).queue
  weight : ∀ id entry, books.entries.lookup id = some entry →
    entry.admissionWeight = if entry.coalesced.isSome then 0 else 1
  linked : Linked books.entries books.groups
  queued_eq : ∀ key, (books.states key).queued =
    ((books.states key).queue.map ScheduledEntry.admissionWeight).sum
  inFlight_eq : ∀ key,
    (books.states key).inFlight = (Table.count (inFlightUnder key) books.entries : Nat)
  inFlight_total : books.inFlight = (Table.count isInFlight books.entries : Nat)
  dependents_eq : ∀ key, (books.states key).dependents = active key

theorem stateOf_setKey (scheduler : EndpointScheduler) (key key' : AdmissionKey)
    (state : AdmissionState) :
    (scheduler.setKey key state).stateOf key' =
      if key' = key then state else scheduler.stateOf key' := by
  unfold stateOf setKey
  dsimp only
  rw [Table.lookup_insert_ite]
  by_cases h : key' = key
  · rw [if_pos h, if_pos h, Option.getD_some]
  · rw [if_neg h, if_neg h]

@[simp] theorem stateOf_setKey_same (scheduler : EndpointScheduler) (key : AdmissionKey)
    (state : AdmissionState) : (scheduler.setKey key state).stateOf key = state := by
  rw [stateOf_setKey, if_pos rfl]

theorem stateOf_setKey_eq (scheduler : EndpointScheduler) (key : AdmissionKey)
    (state : AdmissionState) : (scheduler.setKey key state).stateOf =
      Function.update scheduler.stateOf key state := by
  funext key'
  rw [stateOf_setKey, Function.update_apply]

/-- The group table without an entry's group. -/
def unlink (groups : Nat → Option Nat) (entry : ScheduledEntry) : Nat → Option Nat :=
  match entry.coalesced with
  | none => groups
  | some group => Function.update groups group none

/-- The group table with an entry's group. -/
def link (groups : Nat → Option Nat) (entry : ScheduledEntry) : Nat → Option Nat :=
  match entry.coalesced with
  | none => groups
  | some group => Function.update groups group (some entry.request.requestID)

theorem unlink_apply (groups : Nat → Option Nat) (entry : ScheduledEntry) (group : Nat) :
    unlink groups entry group =
      if entry.coalesced = some group then none else groups group := by
  unfold unlink
  cases entry.coalesced with
  | none => rfl
  | some g => simp only [Function.update_apply, Option.some.injEq, eq_comm]

theorem link_apply (groups : Nat → Option Nat) (entry : ScheduledEntry) (group : Nat) :
    link groups entry group =
      if entry.coalesced = some group then some entry.request.requestID else groups group := by
  unfold link
  cases entry.coalesced with
  | none => rfl
  | some g => simp only [Function.update_apply, Option.some.injEq, eq_comm]

section Groups

variable {entries : Table Nat ScheduledEntry} {groups : Nat → Option Nat}
  (h : Linked entries groups)
include h

theorem Linked.forget (id : Nat) (entry : ScheduledEntry)
    (hentry : entries.lookup id = some entry) :
    Linked (entries.erase id) (unlink groups entry) := by
  intro group id'
  rw [unlink_apply, Table.lookup_erase_ite]
  by_cases hgroup : entry.coalesced = some group
  · -- The group was the entry's own, and no other entry has it.
    rw [if_pos hgroup]
    refine iff_of_false nofun ?_
    rintro ⟨entry', hsome, hcoalesced⟩
    split at hsome
    · cases hsome
    · next hid =>
      have hother := (h group id').mpr ⟨entry', hsome, hcoalesced⟩
      rw [(h group id).mpr ⟨entry, hentry, hgroup⟩] at hother
      exact hid (Option.some.inj hother).symm
  · rw [if_neg hgroup, h group id']
    by_cases hid : id' = id
    · subst hid
      simp [hentry, hgroup]
    · rw [if_neg hid]

theorem Linked.insert (entry : ScheduledEntry)
    (hfresh : entries.lookup entry.request.requestID = none)
    (hgroup : ∀ group, entry.coalesced = some group → groups group = none) :
    Linked (entries.insert entry.request.requestID entry) (link groups entry) := by
  intro group id'
  rw [link_apply, Table.lookup_insert_ite]
  by_cases hown : entry.coalesced = some group
  · rw [if_pos hown]
    by_cases hid : id' = entry.request.requestID
    · rw [if_pos hid, hid]
      exact iff_of_true rfl ⟨entry, rfl, hown⟩
    · rw [if_neg hid, ← h group id', hgroup group hown]
      exact iff_of_false (fun hsome => hid (Option.some.inj hsome).symm) nofun
  · rw [if_neg hown, h group id']
    by_cases hid : id' = entry.request.requestID
    · subst hid
      simp [hfresh, hown]
    · rw [if_neg hid]

theorem Linked.update (id : Nat) (entry entry' : ScheduledEntry)
    (hentry : entries.lookup id = some entry) (hgroup : entry'.coalesced = entry.coalesced) :
    Linked (entries.insert id entry') groups := by
  intro group id'
  rw [Table.lookup_insert_ite, h group id']
  by_cases hid : id' = id
  · subst hid
    rw [if_pos rfl, hentry]
    simp [hgroup]
  · rw [if_neg hid]

end Groups

namespace Books

/-- Writing the state of a key. -/
def setState (books : Books) (key : AdmissionKey) (state : AdmissionState) : Books :=
  { books with states := Function.update books.states key state }

/-- A new entry goes to the end of its key's queue. -/
def place (books : Books) (entry : ScheduledEntry) : Books :=
  let state := books.states entry.request.key
  { books.setState entry.request.key
      { state with
        queue := state.queue ++ [entry], queued := state.queued + entry.admissionWeight } with
    entries := books.entries.insert entry.request.requestID entry
    groups := link books.groups entry }

/-- A queued entry goes. -/
def removeQueued (books : Books) (entry : ScheduledEntry) : Books :=
  let state := books.states entry.request.key
  { books.setState entry.request.key
      { state with
        queue := state.queue.erase entry, queued := state.queued - entry.admissionWeight } with
    entries := books.entries.erase entry.request.requestID
    groups := unlink books.groups entry }

/-- An entry in flight goes. -/
def removeInFlight (books : Books) (entry : ScheduledEntry) : Books :=
  let state := books.states entry.request.key
  { books.setState entry.request.key { state with inFlight := state.inFlight - 1 } with
    entries := books.entries.erase entry.request.requestID
    groups := unlink books.groups entry
    inFlight := books.inFlight - 1 }

/-- A queued entry is put in flight. -/
def take (books : Books) (entry : ScheduledEntry) : Books :=
  let state := books.states entry.request.key
  { books.setState entry.request.key
      { state with
        queue := state.queue.erase entry, queued := state.queued - entry.admissionWeight
        inFlight := state.inFlight + 1 } with
    entries := books.entries.insert entry.request.requestID { entry with state := .inFlight }
    inFlight := books.inFlight + 1 }

/-- The dependents of a key change. -/
def setDependents (books : Books) (key : AdmissionKey) (dependents : Int) : Books :=
  books.setState key { books.states key with dependents := dependents }

end Books

section Replacing

/-- An entry that may be absent, as the part of a queue it is while it is queued. -/
def queuedOf (entry : Option ScheduledEntry) : List ScheduledEntry :=
  entry.toList.filter (·.state = .queued)

/-- What it counts in its key's queue. -/
def weightOf (entry : Option ScheduledEntry) : Int :=
  ((queuedOf entry).map ScheduledEntry.admissionWeight).sum

/-- What it counts among the entries in flight. -/
def flightOf (entry : Option ScheduledEntry) : Nat :=
  entry.elim 0 (fun entry => if entry.state = .inFlight then 1 else 0)

/-- The entry table with another entry, or none, under an id. -/
def replace (entries : Table Nat ScheduledEntry) (id : Nat) (entry : Option ScheduledEntry) :
    Table Nat ScheduledEntry :=
  entry.elim (entries.erase id) (entries.insert id)

theorem lookup_replace (entries : Table Nat ScheduledEntry) (id id' : Nat)
    (entry : Option ScheduledEntry) :
    (replace entries id entry).lookup id' = if id' = id then entry else entries.lookup id' := by
  cases entry with
  | none => exact Table.lookup_erase_ite entries id id'
  | some entry => exact Table.lookup_insert_ite entries id id' entry

theorem mem_queuedOf {entry : Option ScheduledEntry} {queued : ScheduledEntry} :
    queued ∈ queuedOf entry ↔ entry = some queued ∧ queued.state = .queued := by
  simp [queuedOf]

theorem nodup_queuedOf (entry : Option ScheduledEntry) : (queuedOf entry).Nodup := by
  refine List.Nodup.filter _ ?_
  cases entry with
  | none => exact List.nodup_nil
  | some entry => exact List.nodup_singleton entry

theorem flightUnder_eq (key key' : AdmissionKey) (id : Nat) (entry : Option ScheduledEntry)
    (hkey : ∀ e, entry = some e → e.request.key = key) :
    entry.elim 0 (fun entry => if inFlightUnder key' id entry then 1 else 0) =
      if key' = key then flightOf entry else 0 := by
  cases entry with
  | none => simp [flightOf]
  | some entry =>
    by_cases hsame : key' = key
    · simp [flightOf, inFlightUnder, hkey entry rfl, hsame]
    · simp [inFlightUnder, hkey entry rfl, hsame, Ne.symm hsame]

end Replacing

namespace Accounts

variable {active : AdmissionKey → Nat} {books : Books} (h : Accounts active books)
include h

/-- One entry replaces another of the same id and key, either of which may be absent: its
    key's queue and counters change by the difference. -/
theorem swap (id : Nat) (key : AdmissionKey) (old new : Option ScheduledEntry)
    (state : AdmissionState) (groups : Nat → Option Nat) (inFlight : Int)
    (hold : books.entries.lookup id = old)
    (holdKey : ∀ entry, old = some entry → entry.request.key = key)
    (hnew : ∀ entry, new = some entry → entry.request.requestID = id ∧
      entry.request.key = key ∧
      entry.admissionWeight = if entry.coalesced.isSome then 0 else 1)
    (hqueue : state.queue = (books.states key).queue.diff (queuedOf old) ++ queuedOf new)
    (hqueued : state.queued + weightOf old = (books.states key).queued + weightOf new)
    (hinFlight : state.inFlight + flightOf old = (books.states key).inFlight + flightOf new)
    (htotal : inFlight + flightOf old = books.inFlight + flightOf new)
    (hdependents : state.dependents = (books.states key).dependents)
    (hlinked : Linked (replace books.entries id new) groups) :
    Accounts active
      { states := Function.update books.states key state, entries := replace books.entries id new
        groups := groups, inFlight := inFlight } := by
  -- A queued entry with this id is the old one.
  have hsame : ∀ key', ∀ entry ∈ (books.states key').queue,
      (entry.request.requestID = id ↔ old = some entry) := by
    intro key' entry hentry
    rw [← hold]
    constructor
    · rintro rfl
      exact (h.queue_entry key' entry hentry).1
    · exact h.entry_id id entry
  have hleft : ∀ entry, entry ∈ (books.states key).queue.diff (queuedOf old) ↔
      entry ∈ (books.states key).queue ∧ entry.request.requestID ≠ id := by
    intro entry
    rw [(h.queue_nodup key).mem_sdiff_iff, mem_queuedOf]
    refine and_congr_right fun hentry => not_congr ?_
    rw [hsame key entry hentry]
    exact and_iff_left (h.queue_entry key entry hentry).2.2
  have hcount : ∀ p : Nat → ScheduledEntry → Bool,
      Table.count p (replace books.entries id new) +
          old.elim 0 (fun entry => if p id entry then 1 else 0) =
        Table.count p books.entries + new.elim 0 (fun entry => if p id entry then 1 else 0) := by
    intro p
    subst hold
    cases new with
    | none => exact Table.count_erase p books.entries id
    | some entry => exact Table.count_insert p books.entries id entry
  constructor
  case entry_id =>
    intro id' entry hentry
    rw [lookup_replace] at hentry
    split at hentry
    · next hid => rw [hid]; exact (hnew entry hentry).1
    · exact h.entry_id id' entry hentry
  case queue_entry =>
    intro key' entry hentry
    dsimp only at hentry ⊢
    rw [lookup_replace]
    by_cases hkey : key' = key
    · subst hkey
      rw [Function.update_self, hqueue, List.mem_append, hleft, mem_queuedOf] at hentry
      rcases hentry with ⟨hmem, hid⟩ | ⟨hsome, hstate⟩
      · rw [if_neg hid]
        exact h.queue_entry key' entry hmem
      · rw [if_pos (hnew entry hsome).1]
        exact ⟨hsome, (hnew entry hsome).2.1, hstate⟩
    · rw [Function.update_of_ne hkey] at hentry
      have hqueued := h.queue_entry key' entry hentry
      rw [if_neg ?_]
      · exact hqueued
      · intro hid
        exact hkey (hqueued.2.1.symm.trans
          (holdKey entry ((hsame key' entry hentry).mp hid)))
  case queue_nodup =>
    refine (Function.forall_update_iff books.states (fun _ state => state.queue.Nodup)).mpr
      ⟨?_, fun key _ => h.queue_nodup key⟩
    rw [hqueue]
    refine (h.queue_nodup key).diff.append (nodup_queuedOf new) ?_
    intro entry hentry hmem
    exact ((hleft entry).mp hentry).2 (hnew entry (mem_queuedOf.mp hmem).1).1
  case queued_mem =>
    intro id' entry hentry hstate
    rw [lookup_replace] at hentry
    dsimp only
    split at hentry
    · rw [(hnew entry hentry).2.1, Function.update_self, hqueue]
      exact List.mem_append_right _ (mem_queuedOf.mpr ⟨hentry, hstate⟩)
    · next hid =>
      have hmem := h.queued_mem id' entry hentry hstate
      by_cases hkey : entry.request.key = key
      · rw [hkey] at hmem ⊢
        rw [Function.update_self, hqueue]
        refine List.mem_append_left _ ((hleft entry).mpr ⟨hmem, ?_⟩)
        rw [h.entry_id id' entry hentry]
        exact hid
      · rw [Function.update_of_ne hkey]
        exact hmem
  case weight =>
    intro id' entry hentry
    rw [lookup_replace] at hentry
    split at hentry
    · exact (hnew entry hentry).2.2
    · exact h.weight id' entry hentry
  case linked => exact hlinked
  case queued_eq =>
    refine (Function.forall_update_iff books.states (fun _ state => state.queued =
      (state.queue.map ScheduledEntry.admissionWeight).sum)).mpr
      ⟨?_, fun key _ => h.queued_eq key⟩
    have hsub : queuedOf old ⊆ (books.states key).queue := by
      intro entry hentry
      have hsome := mem_queuedOf.mp hentry
      rw [← holdKey entry hsome.1]
      exact h.queued_mem id entry (hold.trans hsome.1) hsome.2
    have hperm := List.subperm_append_diff_self_of_count_le
      (List.subperm_ext_iff.mp (List.subperm_of_subset (nodup_queuedOf old) hsub))
    have hsum := (hperm.map ScheduledEntry.admissionWeight).sum_eq
    rw [List.map_append, List.sum_append, ← h.queued_eq key] at hsum
    rw [hqueue, List.map_append, List.sum_append]
    unfold weightOf at hqueued
    omega
  case inFlight_eq =>
    intro key'
    have hless := hcount (inFlightUnder key')
    have hbefore := h.inFlight_eq key'
    rw [flightUnder_eq key key' id old holdKey,
      flightUnder_eq key key' id new fun entry hentry => (hnew entry hentry).2.1] at hless
    dsimp only
    by_cases hkey : key' = key
    · subst hkey
      rw [Function.update_self]
      rw [if_pos rfl, if_pos rfl] at hless
      omega
    · rw [Function.update_of_ne hkey]
      rw [if_neg hkey, if_neg hkey] at hless
      omega
  case inFlight_total =>
    have hless := hcount isInFlight
    have hbefore := h.inFlight_total
    simp only [isInFlight, decide_eq_true_eq] at hless
    unfold flightOf at htotal
    dsimp only
    omega
  case dependents_eq =>
    refine (Function.forall_update_iff books.states (fun key state =>
      state.dependents = active key)).mpr ⟨?_, fun key _ => h.dependents_eq key⟩
    exact hdependents.trans (h.dependents_eq key)

theorem place (entry : ScheduledEntry)
    (hfresh : books.entries.lookup entry.request.requestID = none)
    (hqueued : entry.state = .queued)
    (hweight : entry.admissionWeight = if entry.coalesced.isSome then 0 else 1)
    (hgroup : ∀ group, entry.coalesced = some group → books.groups group = none) :
    Accounts active (books.place entry) := by
  refine h.swap entry.request.requestID entry.request.key none (some entry) _ _ _ hfresh nofun
    ?_ ?_ ?_ ?_ ?_ rfl (h.linked.insert entry hfresh hgroup)
  · rintro _ ⟨⟩
    exact ⟨rfl, rfl, hweight⟩
  all_goals simp [queuedOf, weightOf, flightOf, hqueued, Books.setState]

theorem removeQueued (entry : ScheduledEntry)
    (hmem : entry ∈ (books.states entry.request.key).queue) :
    Accounts active (books.removeQueued entry) := by
  have hentry := h.queue_entry _ entry hmem
  refine h.swap entry.request.requestID entry.request.key (some entry) none _ _ _ hentry.1 ?_
    nofun ?_ ?_ ?_ ?_ rfl (h.linked.forget _ entry hentry.1)
  · rintro _ ⟨⟩
    rfl
  all_goals simp [queuedOf, weightOf, flightOf, hentry.2.2, Books.setState]

theorem take (entry : ScheduledEntry) (hmem : entry ∈ (books.states entry.request.key).queue) :
    Accounts active (books.take entry) := by
  have hentry := h.queue_entry _ entry hmem
  refine h.swap entry.request.requestID entry.request.key (some entry)
    (some { entry with state := .inFlight }) _ _ _ hentry.1 ?_ ?_ ?_ ?_ ?_ ?_ rfl
    (h.linked.update _ entry _ hentry.1 rfl)
  · rintro _ ⟨⟩
    rfl
  · rintro _ ⟨⟩
    exact ⟨rfl, rfl, h.weight _ entry hentry.1⟩
  all_goals simp [queuedOf, weightOf, flightOf, hentry.2.2]

theorem removeInFlight (id : Nat) (entry : ScheduledEntry)
    (hentry : books.entries.lookup id = some entry) (hstate : entry.state = .inFlight) :
    Accounts active (books.removeInFlight entry) := by
  rw [← h.entry_id id entry hentry] at hentry
  refine h.swap entry.request.requestID entry.request.key (some entry) none _ _ _ hentry ?_
    nofun ?_ ?_ ?_ ?_ rfl (h.linked.forget _ entry hentry)
  · rintro _ ⟨⟩
    rfl
  all_goals simp [queuedOf, weightOf, flightOf, hstate]

theorem setDependents (key : AdmissionKey) (dependents : Nat) :
    Accounts (Function.update active key dependents) (books.setDependents key dependents) := by
  have hqueues : ∀ key', ((books.setDependents key dependents).states key').queue =
      (books.states key').queue :=
    (Function.forall_update_iff books.states (fun key state =>
      state.queue = (books.states key).queue)).mpr ⟨rfl, fun _ _ => rfl⟩
  constructor
  case entry_id => exact h.entry_id
  case queue_entry => exact fun key' => by rw [hqueues]; exact h.queue_entry key'
  case queue_nodup => exact fun key' => by rw [hqueues]; exact h.queue_nodup key'
  case queued_mem =>
    intro id entry hentry hstate
    rw [hqueues]
    exact h.queued_mem id entry hentry hstate
  case weight => exact h.weight
  case linked => exact h.linked
  case queued_eq =>
    exact (Function.forall_update_iff books.states (fun _ state => state.queued =
      (state.queue.map ScheduledEntry.admissionWeight).sum)).mpr
      ⟨h.queued_eq key, fun key _ => h.queued_eq key⟩
  case inFlight_eq =>
    exact (Function.forall_update_iff books.states (fun key state => state.inFlight =
      (Table.count (inFlightUnder key) books.entries : Nat))).mpr
      ⟨h.inFlight_eq key, fun key _ => h.inFlight_eq key⟩
  case inFlight_total => exact h.inFlight_total
  case dependents_eq =>
    refine (Function.forall_update_iff books.states (fun key' state =>
      state.dependents = Function.update active key dependents key')).mpr ⟨?_, ?_⟩
    · rw [Function.update_self]
    · intro key' hne
      rw [Function.update_of_ne hne]
      exact h.dependents_eq key'

/-- A queued entry's weight is part of its key's count. -/
theorem weight_le (key : AdmissionKey) (entry : ScheduledEntry)
    (hmem : entry ∈ (books.states key).queue) :
    0 ≤ entry.admissionWeight ∧ entry.admissionWeight ≤ (books.states key).queued := by
  have hweight : ∀ e ∈ (books.states key).queue, 0 ≤ e.admissionWeight := by
    intro e he
    rw [h.weight _ e (h.queue_entry key e he).1]
    split <;> omega
  refine ⟨hweight entry hmem, ?_⟩
  rw [h.queued_eq]
  refine List.single_le_sum ?_ _ (List.mem_map_of_mem hmem)
  intro x hx
  rcases List.mem_map.mp hx with ⟨e, he, rfl⟩
  exact hweight e he

/-- An entry in flight is counted under its key and in total. -/
theorem inFlight_pos (id : Nat) (entry : ScheduledEntry)
    (hentry : books.entries.lookup id = some entry) (hstate : entry.state = .inFlight) :
    0 < (books.states entry.request.key).inFlight ∧ 0 < books.inFlight := by
  have hkey : 0 < Table.count (inFlightUnder entry.request.key) books.entries :=
    (Table.sum_pos_iff _ _).mpr ⟨id, entry, hentry, by
      simp [inFlightUnder, hstate]⟩
  have htotal : 0 < Table.count isInFlight books.entries :=
    (Table.sum_pos_iff _ _).mpr ⟨id, entry, hentry, by
      simp [isInFlight, hstate]⟩
  rw [h.inFlight_eq, h.inFlight_total]
  omega

/-- A key's in-flight count is part of the total. -/
theorem inFlight_le (key : AdmissionKey) :
    0 ≤ (books.states key).inFlight ∧ (books.states key).inFlight ≤ books.inFlight := by
  rw [h.inFlight_eq, h.inFlight_total]
  have hle : Table.count (inFlightUnder key) books.entries ≤
      Table.count isInFlight books.entries := by
    refine Table.sum_le_sum _ _ _ (fun e _ => ?_)
    by_cases hin : inFlightUnder key e.1 e.2 = true
    · have hboth : isInFlight e.1 e.2 = true := by
        simp only [inFlightUnder, decide_eq_true_eq] at hin
        simp [isInFlight, hin.1]
      rw [if_pos hin, if_pos hboth]
    · rw [if_neg hin]
      exact Nat.zero_le _
  omega

theorem nonneg (key : AdmissionKey) :
    0 ≤ (books.states key).queued ∧ 0 ≤ (books.states key).dependents := by
  refine ⟨?_, by rw [h.dependents_eq]; omega⟩
  rw [h.queued_eq]
  refine List.sum_nonneg (fun x hx => ?_)
  rcases List.mem_map.mp hx with ⟨e, he, rfl⟩
  exact (h.weight_le key e he).1

end Accounts

end EndpointScheduler

end HelianthusModbus
