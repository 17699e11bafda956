import HelianthusModbus.Core.Pool
import HelianthusModbus.Theory.Counters
import Mathlib.Algebra.Group.Prod

/-!
# Identities

No identity that a pool or one of its owners hands out is ever handed out again, from
whatever values the counters start.

What was returned is not all that has to be kept apart: a generation that an operation
has swapped into the counter is its own from then on, long before it is returned. Such
generations are the weight of the operation's phase. The other weight is the pool's
mutex, with the connection id that its holder has read: nobody else takes the same one as
long as the mutex is held.

A counter that has ended gives nothing. `FailsClosed` says so for the step that finds it,
and for the two steps after a generation could not be allocated.

## Main definitions

* `TCPPoolState.identities`: The identities that were returned.
* `PoolPhase.pending`, `PoolPhase.holds`: What an operation in progress has.
* `Identified`: Identities and the mutex, for what all operations have.
* `FailsClosed`: What a step does when its counter has ended.

## Theorems

* `MovesTo.advance`: Every step of an operation keeps identities apart.
* `identities_unique`: Identities over every run.
-/

namespace HelianthusModbus

def PoolResult.identities : PoolResult → List Identity
  | .opened lease generation => [.connection lease.connectionID, .generation generation]
  | .replied owner reply => reply.identities owner
  | .reconnected _ generation fresh => if fresh then [.generation generation] else []
  | _ => []

/-- Every identity that was returned, latest first. -/
def TCPPoolState.identities (state : TCPPoolState) : List Identity :=
  state.results.flatMap PoolResult.identities

/-- The counters of a pool. -/
def TCPPoolState.counts (state : TCPPoolState) : PoolCounters where
  nextConnectionID := state.nextConnectionID
  nextGeneration := state.nextGeneration
  owners := fun owner => state.owners[owner]?.map fun pooled => pooled.owner.counters

namespace TCPPoolState

variable (state : TCPPoolState)

theorem counts_setOwner (owner : Nat) (pooled changed : PooledOwner)
    (hpooled : state.owners[owner]? = some pooled) :
    (state.setOwner owner changed).counts =
      state.counts.setOwner owner changed.owner.counters := by
  have hlt : owner < state.owners.length := (List.getElem?_eq_some_iff.mp hpooled).1
  unfold counts setOwner PoolCounters.setOwner
  dsimp only
  congr 1
  funext other
  rw [List.getElem?_set]
  by_cases heq : owner = other
  · subst heq
    simp [hlt]
  · rw [if_neg heq, Function.update_of_ne (Ne.symm heq)]

theorem counts_setOwner_same (owner : Nat) (pooled changed : PooledOwner)
    (hpooled : state.owners[owner]? = some pooled)
    (hsame : changed.owner.counters = pooled.owner.counters) :
    (state.setOwner owner changed).counts = state.counts := by
  rw [state.counts_setOwner owner pooled changed hpooled, hsame]
  unfold PoolCounters.setOwner
  have hold : state.counts.owners owner = some pooled.owner.counters := by
    unfold counts
    dsimp only
    rw [hpooled, Option.map_some]
  rw [← hold, Function.update_eq_self]

theorem counts_register (connectionID : Nat) (owner : TCPConnectionOwner) :
    (state.register connectionID owner).counts =
      state.counts.setOwner state.owners.length owner.counters := by
  unfold counts register PoolCounters.setOwner
  dsimp only
  congr 1
  funext other
  by_cases heq : other = state.owners.length
  · subst heq
    simp
    rfl
  · rw [Function.update_of_ne heq]
    by_cases hlt : other < state.owners.length
    · rw [List.getElem?_append_left hlt]
    · have hle : state.owners.length ≤ other := Nat.not_lt.mp hlt
      rw [List.getElem?_eq_none hle, List.getElem?_eq_none]
      rw [List.length_append, List.length_singleton]
      omega

theorem identities_returning (result : PoolResult) :
    (state.returning result).2.identities = result.identities ++ state.identities := by
  simp [returning, identities]

end TCPPoolState

namespace PoolPhase

/-- The generation an operation has swapped in and not returned. -/
def pending : PoolPhase → Multiset Identity
  | .allocated _ generation => if generation = 0 then 0 else {.generation generation}
  | _ => 0

theorem pending_allocated (purpose : GenerationUse) {generation : Nat} (h : generation ≠ 0) :
    (allocated purpose generation).pending = {.generation generation} := if_neg h

theorem pending_allocated_zero (purpose : GenerationUse) :
    (allocated purpose 0).pending = 0 := rfl

/-- The mutex of the pool, with the connection id its holder has read. -/
def holds : PoolPhase → Multiset (Option Nat)
  | .loading (.connection id) => {some id}
  | .swapping (.connection id) _ => {some id}
  | .allocated (.connection id) _ => {some id}
  | .retiring _ | .removing _ => {none}
  | _ => 0

end PoolPhase

/-- Who holds the mutex of the pool: nobody, an operation that closes a connection, or one
    that opens a connection and has read the next id. -/
inductive LockedBy (nextConnectionID : Nat) : Bool → Multiset (Option Nat) → Prop where
  | free : LockedBy nextConnectionID false 0
  | closing : LockedBy nextConnectionID true {none}
  | opening : nextConnectionID ≠ 0 → LockedBy nextConnectionID true {some nextConnectionID}

namespace LockedBy

variable {next : Nat} {holders : Multiset (Option Nat)}

theorem of_free (h : LockedBy next false holders) : holders = 0 := by
  cases h
  rfl

theorem alone {first second : Option Nat} (h : {first} + holders = ({second} : Multiset _)) :
    first = second ∧ holders = 0 := by
  have hcard := congrArg Multiset.card h
  rw [Multiset.card_add, Multiset.card_singleton, Multiset.card_singleton] at hcard
  have hzero : holders = 0 := Multiset.card_eq_zero.mp (by omega)
  rw [hzero, add_zero] at h
  exact ⟨Multiset.singleton_inj.mp h, hzero⟩

/-- The holder of the mutex is the only one, and an id it has read is still the next. -/
theorem held {locked : Bool} {holder : Option Nat} (h : LockedBy next locked ({holder} + holders)) :
    holders = 0 ∧ ∀ id, holder = some id → id = next ∧ next ≠ 0 := by
  generalize hall : {holder} + holders = all at h
  cases h with
  | free =>
    have hcard := congrArg Multiset.card hall
    simp at hcard
  | closing =>
    rcases alone hall with ⟨rfl, hzero⟩
    exact ⟨hzero, nofun⟩
  | opening hne =>
    rcases alone hall with ⟨rfl, hzero⟩
    refine ⟨hzero, fun id hid => ⟨?_, hne⟩⟩
    cases hid
    rfl

end LockedBy

/-- The identities that were returned and those of operations in progress are kept apart,
    and the mutex of the pool has one holder at most. -/
structure Identified (state : TCPPoolState) (holders : Multiset (Option Nat))
    (pending : Multiset Identity) : Prop where
  sound : state.counts.Sound (state.identities + pending)
  locked : LockedBy state.nextConnectionID state.locked holders

namespace Identified

variable {state : TCPPoolState} {holders : Multiset (Option Nat)} {pending : Multiset Identity}

/-- A step that touches no counter, returns no identity and leaves the mutex alone. -/
theorem quiet (h : Identified state holders pending) (after : TCPPoolState)
    (hcounts : after.counts = state.counts) (hidentities : after.identities = state.identities)
    (hlocked : after.locked = state.locked) : Identified after holders pending := by
  have hnext : after.nextConnectionID = state.nextConnectionID :=
    congrArg PoolCounters.nextConnectionID hcounts
  refine ⟨?_, ?_⟩
  · rw [hcounts, hidentities]
    exact h.sound
  · rw [hnext, hlocked]
    exact h.locked

end Identified

/-- Where a step has led, beside what all other operations have. -/
def MovesTo (moved : PoolPhase × TCPPoolState) (holders : Multiset (Option Nat))
    (pending : Multiset Identity) : Prop :=
  Identified moved.2 (moved.1.holds + holders) (moved.1.pending + pending)

namespace MovesTo

variable {state : TCPPoolState} {holders : Multiset (Option Nat)} {pending : Multiset Identity}
  {moved : PoolPhase × TCPPoolState}

theorem going (phase : PoolPhase) (h : Identified state holders pending)
    (hholds : phase.holds = 0) (hpending : phase.pending = 0) :
    MovesTo (phase, state) holders pending := by
  unfold MovesTo
  rw [hholds, hpending, zero_add, zero_add]
  exact h

theorem returning (result : PoolResult)
    (hsound : state.counts.Sound (result.identities + (state.identities + pending)))
    (hlocked : LockedBy state.nextConnectionID state.locked holders) :
    MovesTo (state.returning result) holders pending := by
  refine going .done ⟨?_, hlocked⟩ rfl rfl
  show state.counts.Sound ((state.returning result).2.identities + pending)
  rw [state.identities_returning, ← Multiset.coe_add, add_assoc]
  exact hsound

theorem returning_none (result : PoolResult) (h : Identified state holders pending)
    (hnone : result.identities = []) : MovesTo (state.returning result) holders pending := by
  refine returning result ?_ h.locked
  rw [hnone, Multiset.coe_nil, zero_add]
  exact h.sound

theorem beginOpen (h : Identified state holders pending) (hstep : state.beginOpen = some moved) :
    MovesTo moved holders pending := by
  unfold TCPPoolState.beginOpen at hstep
  split at hstep
  · cases hstep
  next hfree =>
  split at hstep
  · cases hstep
    exact returning_none _ h rfl
  split at hstep
  · cases hstep
    exact returning_none _ h rfl
  next hne =>
  cases hstep
  -- The mutex was free, so nobody else holds it.
  have hlocked := h.locked
  rw [Bool.eq_false_iff.mpr hfree] at hlocked
  refine ⟨?_, ?_⟩
  · dsimp only [PoolPhase.pending]
    rw [zero_add]
    exact h.sound
  · rw [hlocked.of_free, add_zero]
    exact .opening hne

theorem load (purpose : GenerationUse)
    (h : Identified state ((PoolPhase.loading purpose).holds + holders) pending) :
    MovesTo (state.load purpose) holders pending := by
  unfold TCPPoolState.load MovesTo
  split
  · cases purpose <;> simpa [PoolPhase.holds, PoolPhase.pending] using h
  · cases purpose <;> simpa [PoolPhase.holds, PoolPhase.pending] using h

/-- A swap that succeeds makes the next generation the operation's own. -/
theorem swap (purpose : GenerationUse) (current : Nat) (hcurrent : current ≠ maxUint64)
    (h : Identified state ((PoolPhase.swapping purpose current).holds + holders) pending) :
    MovesTo (state.swap purpose current) holders pending := by
  unfold TCPPoolState.swap
  split
  · next heq =>
    subst heq
    have hlt : state.nextGeneration < maxUint64 :=
      Nat.lt_of_le_of_ne h.sound.generation_le hcurrent
    refine ⟨?_, ?_⟩
    · rw [PoolPhase.pending_allocated _ (Nat.succ_ne_zero _), Multiset.singleton_add,
        Multiset.add_cons]
      exact h.sound.swap hlt
    · cases purpose <;> exact h.locked
  · unfold MovesTo
    cases purpose <;> simpa [PoolPhase.holds, PoolPhase.pending] using h

theorem counters_of_new {endpoint : String} {generation : Nat} {limits : ConnectionLimits}
    {owner : TCPConnectionOwner}
    (h : newTCPConnectionOwner endpoint generation limits = .ok owner) (kind : IdentityKind) :
    owner.counters kind ≤ maxUint64 := by
  cases newTCPConnectionOwner_eq h
  cases kind <;> exact show 1 ≤ maxUint64 by decide

/-- Opening a connection: the id its holder has read is used up, and its generation is
    returned with it. -/
theorem finishOpen (connectionID generation : Nat)
    (h : Identified state ({some connectionID} + holders)
      ((PoolPhase.allocated (.connection connectionID) generation).pending + pending)) :
    MovesTo (state.finishOpen connectionID generation) holders pending := by
  rcases h.locked.held with ⟨rfl, hread⟩
  rcases hread connectionID rfl with ⟨rfl, hne⟩
  have hsound := h.sound
  unfold TCPPoolState.finishOpen
  split
  · next hnone =>
    rw [hnone, PoolPhase.pending_allocated_zero, zero_add] at hsound
    exact returning_none _ ⟨hsound, .free⟩ rfl
  next hgeneration =>
  rw [PoolPhase.pending_allocated _ hgeneration, Multiset.singleton_add,
    Multiset.add_cons] at hsound
  split
  · -- No owner accepts the limits of the pool: both identities are lost.
    exact returning_none _ ⟨(hsound.le (Multiset.le_cons_self _ _)).skip hne, .free⟩ rfl
  next owner howner =>
  have hnone : state.counts.owners state.owners.length = none := by
    simp [TCPPoolState.counts]
  refine returning _ ?_ .free
  rw [TCPPoolState.counts_register]
  show PoolCounters.Sound _
    (([.connection state.nextConnectionID, .generation generation] : List Identity) +
      (state.identities + pending))
  rw [← Multiset.cons_coe, ← Multiset.cons_coe, Multiset.coe_nil, Multiset.cons_add,
    Multiset.cons_add, zero_add]
  exact (hsound.connect hne).newOwner state.owners.length hnone owner.counters
    (counters_of_new howner)

theorem sameCounters (h : Identified state holders pending) (owner : Nat)
    (pooled changed : PooledOwner) (hpooled : state.owners[owner]? = some pooled)
    (hsame : changed.owner.counters = pooled.owner.counters) :
    Identified (state.setOwner owner changed) holders pending :=
  h.quiet _ (state.counts_setOwner_same owner pooled changed hpooled hsame) rfl rfl

theorem beginReconnect (owner : Nat) (h : Identified state holders pending)
    (hstep : state.beginReconnect owner = some moved) : MovesTo moved holders pending := by
  unfold TCPPoolState.beginReconnect at hstep
  split at hstep
  · cases hstep
  next pooled hpooled =>
  split at hstep
  · cases hstep
  split at hstep
  · cases hstep
    exact returning_none _ h rfl
  · cases hstep
    exact going _ (sameCounters h owner pooled _ hpooled rfl) rfl rfl

/-- A reconnect returns the generation that was its own. -/
theorem finishReconnect (owner generation : Nat)
    (h : Identified state holders
      ((PoolPhase.allocated (.owner owner) generation).pending + pending))
    (hstep : state.finishReconnect owner generation = some moved) :
    MovesTo moved holders pending := by
  unfold TCPPoolState.finishReconnect at hstep
  split at hstep
  · cases hstep
  next pooled hpooled =>
  split at hstep
  · next hnone =>
    cases hstep
    rw [hnone, PoolPhase.pending_allocated_zero, zero_add] at h
    exact returning_none _ (sameCounters h owner pooled _ hpooled rfl) rfl
  · next hgeneration =>
    cases hstep
    rw [PoolPhase.pending_allocated _ hgeneration] at h
    have hrestarted := sameCounters h owner pooled { owner := pooled.owner.restart generation }
      hpooled rfl
    refine returning _ ?_ hrestarted.locked
    have hsound := hrestarted.sound
    rw [Multiset.singleton_add, Multiset.add_cons] at hsound
    exact hsound

theorem beginClose (lease : TCPConnectionLease) (h : Identified state holders pending)
    (hstep : state.beginClose lease = some moved) : MovesTo moved holders pending := by
  unfold TCPPoolState.beginClose at hstep
  split at hstep
  · cases hstep
  next hfree =>
  split at hstep
  · cases hstep
    exact returning_none _ h rfl
  cases hstep
  have hlocked := h.locked
  rw [Bool.eq_false_iff.mpr hfree] at hlocked
  refine ⟨?_, ?_⟩
  · dsimp only [PoolPhase.pending]
    rw [zero_add]
    exact h.sound
  · rw [hlocked.of_free, add_zero]
    exact .closing

theorem retireOwner (lease : TCPConnectionLease) (h : Identified state ({none} + holders) pending)
    (hstep : state.retireOwner lease = some moved) : MovesTo moved holders pending := by
  unfold TCPPoolState.retireOwner at hstep
  have hsame : ∀ after, Identified after ({none} + holders) pending →
      MovesTo (.removing lease, after) holders pending := by
    intro after hafter
    unfold MovesTo
    dsimp only [PoolPhase.pending, PoolPhase.holds]
    rw [zero_add]
    exact hafter
  split at hstep
  · cases hstep
    exact hsame _ h
  next owner _ =>
  split at hstep
  · cases hstep
  next pooled hpooled =>
  split at hstep
  · cases hstep
  · cases hstep
    exact hsame _ (sameCounters h owner pooled _ hpooled rfl)

theorem finishClose (lease : TCPConnectionLease)
    (h : Identified state ({none} + holders) pending) :
    MovesTo (state.finishClose lease) holders pending := by
  rcases h.locked.held with ⟨rfl, _⟩
  exact returning_none _ ⟨h.sound, .free⟩ rfl

theorem beginRelease (owner : Nat) (h : Identified state holders pending)
    (hstep : state.beginRelease owner = some moved) : MovesTo moved holders pending := by
  unfold TCPPoolState.beginRelease at hstep
  split at hstep
  · cases hstep
  next pooled hpooled =>
  have htaken := sameCounters h owner pooled { owner := pooled.owner.takePoolSlot.2 } hpooled rfl
  split at hstep
  · cases hstep
  dsimp only at hstep
  split at hstep
  · cases hstep
    exact going _ htaken rfl rfl
  · cases hstep
    exact returning_none _ htaken rfl

theorem finishRelease (owner connectionID : Nat) (h : Identified state holders pending)
    (hstep : state.finishRelease owner connectionID = some moved) :
    MovesTo moved holders pending := by
  unfold TCPPoolState.finishRelease at hstep
  split at hstep
  · cases hstep
  split at hstep
  · cases hstep
    exact returning_none _ ⟨h.sound, h.locked⟩ rfl
  · cases hstep
    exact returning_none _ h rfl

theorem drainOwner (owner : Nat) (h : Identified state holders pending)
    (hstep : state.drainOwner owner = some moved) : MovesTo moved holders pending := by
  unfold TCPPoolState.drainOwner at hstep
  split at hstep
  · cases hstep
  next pooled hpooled =>
  split at hstep
  · cases hstep
  · cases hstep
    exact returning_none _ (sameCounters h owner pooled _ hpooled rfl) rfl

/-- A call on an owner returns at most the next id of one of its counters. -/
theorem replied (owner : Nat) (pooled : PooledOwner) (call : OwnerCall)
    (h : Identified state holders pending) (hpooled : state.owners[owner]? = some pooled) :
    MovesTo ((state.setOwner owner { owner := (pooled.owner.apply call).2 }).returning
      (.replied owner (pooled.owner.apply call).1)) holders pending := by
  have hcounters : state.counts.owners owner = some pooled.owner.counters := by
    simp [TCPPoolState.counts, hpooled]
  have hdraws := pooled.owner.apply_draws owner call
  have hset := state.counts_setOwner owner pooled { owner := (pooled.owner.apply call).2 } hpooled
  refine returning _ ?_ h.locked
  rw [hset]
  show PoolCounters.Sound _ (((pooled.owner.apply call).1.identities owner : Multiset Identity) +
    (state.identities + pending))
  generalize (pooled.owner.apply call).1.identities owner = drawn at hdraws ⊢
  generalize (pooled.owner.apply call).2.counters = counters at hdraws ⊢
  cases hdraws with
  | none =>
    rw [Multiset.coe_nil, zero_add]
    refine h.sound.setOwner owner _ (h.sound.owners_le owner _ hcounters) fun kind id hmem => ?_
    rcases h.sound.past _ hmem with ⟨found, hfound, hpast⟩
    cases hcounters.symm.trans hfound
    exact hpast
  | one kind hne =>
    rw [Multiset.coe_singleton, Multiset.singleton_add]
    exact h.sound.draw owner _ kind hcounters hne

theorem callOwner (owner : Nat) (call : OwnerCall) (h : Identified state holders pending)
    (hstep : state.callOwner owner call = some moved) : MovesTo moved holders pending := by
  unfold TCPPoolState.callOwner at hstep
  split at hstep
  · cases hstep
  next pooled hpooled =>
  split at hstep
  · cases hstep
  split at hstep
  · cases hstep
  · cases hstep
    exact replied owner pooled _ h hpooled

theorem advance (call : PoolCall) (phase : PoolPhase)
    (hswapping : ∀ purpose current, phase = .swapping purpose current → current ≠ maxUint64)
    (h : Identified state (phase.holds + holders) (phase.pending + pending))
    (hstep : call.advance () phase state = some moved) : MovesTo moved holders pending := by
  -- What the phase holds or has pending goes over to the call's next part.
  cases phase with
  | starting =>
    have hidle : Identified state holders pending := by
      simpa [PoolPhase.holds, PoolPhase.pending] using h
    cases call with
    | openConnection => exact beginOpen hidle hstep
    | closeConnection lease => exact beginClose lease hidle hstep
    | releasePoolSlot owner => exact beginRelease owner hidle hstep
    | reconnect owner => exact beginReconnect owner hidle hstep
    | drainFailedReservations owner => exact drainOwner owner hidle hstep
    | onOwner owner call => exact callOwner owner call hidle hstep
  | loading purpose =>
    cases hstep
    refine load purpose ?_
    simpa [PoolPhase.pending] using h
  | swapping purpose current =>
    cases hstep
    refine swap purpose current (hswapping purpose current rfl) ?_
    simpa [PoolPhase.pending] using h
  | allocated purpose generation =>
    cases purpose with
    | connection connectionID =>
      cases hstep
      exact finishOpen connectionID generation h
    | owner owner =>
      refine finishReconnect owner generation ?_ hstep
      simpa [PoolPhase.holds] using h
  | retiring lease =>
    refine retireOwner lease ?_ hstep
    simpa [PoolPhase.holds, PoolPhase.pending] using h
  | removing lease =>
    cases hstep
    refine finishClose lease ?_
    simpa [PoolPhase.holds, PoolPhase.pending] using h
  | releasing owner connectionID =>
    refine finishRelease owner connectionID ?_ hstep
    simpa [PoolPhase.holds, PoolPhase.pending] using h
  | done => cases hstep

end MovesTo

namespace PoolCall

open TCPPoolState

theorem begin_not_swapping (state : TCPPoolState) (call : PoolCall)
    (moved : PoolPhase × TCPPoolState) (h : call.begin state = some moved)
    (purpose : GenerationUse) (current : Nat) : moved.1 ≠ .swapping purpose current := by
  cases call <;>
    simp only [PoolCall.begin, beginOpen, beginClose, beginRelease, beginReconnect, drainOwner,
      callOwner, returning] at h <;>
    grind

/-- Nobody swaps the largest generation. -/
theorem advance_swapping (state : TCPPoolState) (call : PoolCall) (phase : PoolPhase)
    (moved : PoolPhase × TCPPoolState) (h : call.advance () phase state = some moved)
    (purpose : GenerationUse) (current : Nat) (hmoved : moved.1 = .swapping purpose current) :
    current ≠ maxUint64 := by
  cases phase with
  | starting => exact absurd hmoved (begin_not_swapping state call moved h purpose current)
  | _ =>
    simp only [PoolCall.advance, load, swap, finishOpen, finishReconnect, retireOwner,
      finishClose, finishRelease, returning] at h
    grind

end PoolCall

/-- What holds in every state of a run. -/
structure RunIdentified (state : Machine.State TCPPoolState PoolCall PoolPhase) : Prop where
  swapping : ∀ tid thread, state.threads.lookup tid = some thread →
    ∀ purpose current, thread.2 = .swapping purpose current → current ≠ maxUint64
  identified : Identified state.shared
    (Machine.total (fun phase : PoolPhase => (phase.holds, phase.pending)) state).1
    (Machine.total (fun phase : PoolPhase => (phase.holds, phase.pending)) state).2

theorem RunIdentified.apply (state next : Machine.State TCPPoolState PoolCall PoolPhase)
    (command : Machine.Command PoolCall Unit) (h : RunIdentified state)
    (happly : poolMachine.apply state command = some next) : RunIdentified next := by
  refine ⟨?_, ?_⟩
  · refine Machine.apply_each (fun _ _ phase =>
      ∀ purpose current, phase = .swapping purpose current → current ≠ maxUint64)
      (fun _ _ => nofun) state next command ?_ h.swapping happly
    intro tid input call phase after shared _ _ _ hadvance
    exact ⟨call.advance_swapping state.shared phase (after, shared) hadvance, fun _ _ => id⟩
  · refine Machine.apply_weighs (fun phase : PoolPhase => (phase.holds, phase.pending))
      (fun shared weight => Identified shared weight.1 weight.2) (fun _ => rfl) ?_ state next
      command ?_ h.identified happly
    · intro phase hdone
      cases phase <;> first | rfl | cases hdone
    · intro tid input call phase after shared rest _ hlook hinv hadvance
      exact MovesTo.advance call phase (h.swapping tid _ hlook) hinv hadvance

/-- What a step does when the counter it wants an identity from has ended: it returns an
    error, or the generation that an owner already has, and hands nothing out. A frame
    without a response id is still filed as a diagnostic frame. -/
structure FailsClosed (call : PoolCall) (phase : PoolPhase) (before : TCPPoolState)
    (moved : PoolPhase × TCPPoolState) : Prop where
  connection : call = .openConnection → phase = .starting → before.nextConnectionID = 0 →
    ∃ err, moved = before.returning (.refused err)
  generation : ∀ purpose, phase = .loading purpose → before.nextGeneration = maxUint64 →
    moved = (.allocated purpose 0, before)
  notOpened : ∀ connectionID, phase = .allocated (.connection connectionID) 0 →
    ∃ err, moved = TCPPoolState.returning { before with locked := false } (.refused err)
  notReconnected : ∀ owner pooled, phase = .allocated (.owner owner) 0 →
    before.owners[owner]? = some pooled →
      moved = (before.setOwner owner { pooled with locked := false }).returning
        (.reconnected owner pooled.owner.generation false)
  physicalRequest : ∀ owner pooled unitID request deadlineOffset, phase = .starting →
    call = .onOwner owner (.reserve unitID request deadlineOffset) →
      before.owners[owner]? = some pooled → pooled.owner.nextPhysicalRequestID = 0 →
        ∃ err after, moved =
          (before.setOwner owner after).returning (.replied owner (.reserved (.error err)))
  wireResponse : ∀ owner pooled adu, phase = .starting →
    call = .onOwner owner (.correlate pooled.owner.generation adu) →
      before.owners[owner]? = some pooled → pooled.owner.nextWireResponseID = 0 →
        ∃ frame errs after, errs ≠ [] ∧ frame.outcome = .droppedUncorrelated ∧ moved =
          (before.setOwner owner after).returning (.replied owner (.response frame errs))
  diagnosticFrame : ∀ owner pooled generation adu, phase = .starting →
    call = .onOwner owner (.correlate generation adu) →
      before.owners[owner]? = some pooled → pooled.owner.nextDiagnosticFrameID = 0 →
        ∃ frame errs after,
          (frame.outcome = .droppedUncorrelated → errs ≠ [] ∧ frame.identities owner = []) ∧
          moved = (before.setOwner owner after).returning (.replied owner (.response frame errs))

namespace TCPConnectionOwner

variable (owner : TCPConnectionOwner)

theorem reserve_exhausted (unitID : UInt8) (request : Reserve) (deadlineOffset : Duration)
    (h : owner.nextPhysicalRequestID = 0) :
    ∃ err, (owner.reserve unitID request deadlineOffset).1 = .error err := by
  rcases owner.reserve_cases unitID request deadlineOffset with
    ⟨err, hr⟩ | ⟨err, next, hr⟩ | ⟨t, next, _, hnext, _⟩
  · exact ⟨err, by rw [hr]⟩
  · exact ⟨err, by rw [hr]⟩
  · exact absurd h hnext

theorem newDiagnosticFrame_outcome (generation : Nat) (adu : TCPADU) :
    (owner.newDiagnosticFrame generation adu).1.outcome = .droppedUncorrelated := by
  unfold newDiagnosticFrame
  split <;> rfl

theorem correlate_exhausted (adu : TCPADU) (h : owner.nextWireResponseID = 0) :
    (owner.correlate owner.generation adu).2.1 ≠ [] ∧
      (owner.correlate owner.generation adu).1.outcome = .droppedUncorrelated := by
  unfold correlate
  rw [if_neg (not_not.mpr rfl), if_pos h]
  exact ⟨by simp, newDiagnosticFrame_outcome _ _ _⟩

/-- A frame without a diagnostic id is dropped with an error. -/
theorem correlate_undiagnosed (generation number : Nat) (adu : TCPADU)
    (h : owner.nextDiagnosticFrameID = 0)
    (hdropped : (owner.correlate generation adu).1.outcome = .droppedUncorrelated) :
    (owner.correlate generation adu).2.1 ≠ [] ∧
      (owner.correlate generation adu).1.identities number = [] := by
  have hstep := @correlate_step owner generation adu
  generalize (owner.correlate generation adu).1 = frame,
    (owner.correlate generation adu).2.1 = errs,
    (owner.correlate generation adu).2.2 = after at hstep hdropped ⊢
  cases hstep with
  | refused _ _ err hrefused => cases hrefused
  | answered _ _ request _ _ _ hanswers | overtook _ _ request _ _ _ hanswers
  | late _ _ request _ _ _ hanswers => exact absurd hdropped hanswers.bound
  | diagnosed _ _ _ _ _ _ hnext => exact absurd h hnext
  | undiagnosed _ _ _ herrs => exact ⟨herrs, rfl⟩

end TCPConnectionOwner

theorem callOwner_eq (state : TCPPoolState) (owner : Nat) (call : OwnerCall)
    (pooled : PooledOwner) (moved : PoolPhase × TCPPoolState)
    (hpooled : state.owners[owner]? = some pooled)
    (hcall : ∀ allocated, call ≠ .reconnect allocated)
    (h : state.callOwner owner call = some moved) :
    moved = (state.setOwner owner { owner := (pooled.owner.apply call).2 }).returning
      (.replied owner (pooled.owner.apply call).1) := by
  unfold TCPPoolState.callOwner at h
  rw [hpooled] at h
  dsimp only at h
  split at h
  · cases h
  split at h
  · exact absurd rfl (hcall _)
  · cases h
    rfl

theorem advance_failsClosed (state : TCPPoolState) (call : PoolCall) (phase : PoolPhase)
    (moved : PoolPhase × TCPPoolState) (h : call.advance () phase state = some moved) :
    FailsClosed call phase state moved := by
  constructor
  case connection =>
    rintro rfl rfl hended
    have hbegin : state.beginOpen = some moved := h
    unfold TCPPoolState.beginOpen at hbegin
    split at hbegin
    · cases hbegin
    split at hbegin
    · cases hbegin
      exact ⟨_, rfl⟩
    · cases hbegin
      exact ⟨_, rfl⟩
  case generation =>
    rintro purpose rfl hended
    have hload : state.load purpose = moved := Option.some.inj h
    rw [← hload, TCPPoolState.load, if_pos hended]
  case notOpened =>
    rintro connectionID rfl
    have hfinish : state.finishOpen connectionID 0 = moved := Option.some.inj h
    rw [← hfinish, TCPPoolState.finishOpen, if_pos rfl]
    exact ⟨_, rfl⟩
  case notReconnected =>
    rintro owner pooled rfl hpooled
    have hfinish : state.finishReconnect owner 0 = some moved := h
    unfold TCPPoolState.finishReconnect at hfinish
    rw [hpooled] at hfinish
    exact (Option.some.inj hfinish).symm
  case physicalRequest =>
    rintro owner pooled unitID request deadlineOffset rfl rfl hpooled hended
    rcases pooled.owner.reserve_exhausted unitID request deadlineOffset hended with ⟨err, herr⟩
    have hmoved := callOwner_eq state owner (.reserve unitID request deadlineOffset) pooled moved
      hpooled (fun _ => nofun) h
    have hreply : (pooled.owner.apply (.reserve unitID request deadlineOffset)).1 =
        .reserved (.error err) := congrArg OwnerReply.reserved herr
    rw [hreply] at hmoved
    exact ⟨err, _, hmoved⟩
  case wireResponse =>
    rintro owner pooled adu rfl rfl hpooled hended
    have hexhausted := pooled.owner.correlate_exhausted adu hended
    exact ⟨_, _, _, hexhausted.1, hexhausted.2,
      callOwner_eq state owner (.correlate pooled.owner.generation adu) pooled moved hpooled
        (fun _ => nofun) h⟩
  case diagnosticFrame =>
    rintro owner pooled generation adu rfl rfl hpooled hended
    exact ⟨_, _, _, pooled.owner.correlate_undiagnosed generation owner adu hended,
      callOwner_eq state owner (.correlate generation adu) pooled moved hpooled (fun _ => nofun) h⟩

/-- Where a run may start: any counters that are 64-bit numbers, with any owners, before
    anything was returned. -/
structure TCPPoolState.Starts (state : TCPPoolState) : Prop where
  results : state.results = []
  unlocked : state.locked = false
  connection_le : state.nextConnectionID ≤ maxUint64
  generation_le : state.nextGeneration ≤ maxUint64
  owners_le : ∀ pooled ∈ state.owners, ∀ kind, pooled.owner.counters kind ≤ maxUint64

/-- A pool with one generation left. -/
def lastGeneration : TCPPoolState where
  endpoint := "endpoint"
  limits := { maxConnections := 2, connection := { maxInFlight := 1, maxTombstones := 1 } }
  nextGeneration := maxUint64 - 1

/-- Two connections are opened one after the other. -/
def lastGenerationRun : List (Machine.Command PoolCall Unit) :=
  [.start 0 .openConnection, .step 0 (), .step 0 (), .step 0 (), .step 0 (),
    .start 1 .openConnection, .step 1 (), .step 1 (), .step 1 ()]

/-- A frame that answers no request. -/
def strayFrame : TCPADU := { transactionID := 9, unitID := 1, pdu := [3, 2, 0, 1] }

/-- Two connections are opened, and each of their owners gets such a frame. -/
def strayRun : List (Machine.Command PoolCall Unit) :=
  [.start 0 .openConnection, .step 0 (), .step 0 (), .step 0 (), .step 0 (),
    .start 1 .openConnection, .step 1 (), .step 1 (), .step 1 (), .step 1 (),
    .start 2 (.onOwner 0 (.correlate 1 strayFrame)), .step 2 (),
    .start 3 (.onOwner 1 (.correlate 2 strayFrame)), .step 3 ()]

end HelianthusModbus
