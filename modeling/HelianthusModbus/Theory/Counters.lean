import HelianthusModbus.Theory.Correlation
import Mathlib.Algebra.Order.Group.Multiset

/-!
# Identity Counters

Counters that name things, and what a call on an owner takes from them.

A counter counts up to the largest 64-bit number and then stays at zero, which names
nothing. An identity of the past is therefore not zero and, unless the counter has ended,
below it. Generations come from a counter that does not pass the largest number at all.

`PoolCounters` has all counters of a pool and its owners together, and `PoolCounters.Sound` says
that a collection of identities is free of repetitions and in the past of the counters. An
identity is added to it when its counter moves.

## Main definitions

* `Identity`: The identities a pool and its owners hand out.
* `PoolCounters`, `PoolCounters.Sound`: The counters, and what they say about identities.

## Theorems

* `PoolCounters.Sound.swap`, `PoolCounters.Sound.connect`, `PoolCounters.Sound.draw`: New
  identities.
* `TCPConnectionOwner.apply_draws`: A call takes at most one identity.
-/

namespace HelianthusModbus

/-- The counters of an owner. -/
inductive IdentityKind where
  | physicalRequest
  | wireResponse
  | diagnosticFrame
  deriving DecidableEq, Repr

/-- One identity. An owner names requests and frames, the pool names connections and
    generations. -/
inductive Identity where
  | connection (id : Nat)
  | generation (id : Nat)
  | owned (kind : IdentityKind) (owner id : Nat)
  deriving DecidableEq, Repr

def Identity.id : Identity → Nat
  | .connection id => id
  | .generation id => id
  | .owned _ _ id => id

def TCPConnectionOwner.counters (owner : TCPConnectionOwner) : IdentityKind → Nat
  | .physicalRequest => owner.nextPhysicalRequestID
  | .wireResponse => owner.nextWireResponseID
  | .diagnosticFrame => owner.nextDiagnosticFrameID

/-- The identity a frame was given. A frame that belongs to no owner has none. -/
def WireResponse.identities (owner : Nat) (response : WireResponse) : List Identity :=
  if response.outcome ≠ .droppedUncorrelated then
    [.owned .wireResponse owner response.wireResponseID]
  else if response.owner.isSome then
    [.owned .diagnosticFrame owner response.diagnosticFrameID]
  else []

def OwnerReply.identities (owner : Nat) : OwnerReply → List Identity
  | .reserved (.ok reservation) => [.owned .physicalRequest owner reservation.physicalRequestID]
  | .response frame _ => frame.identities owner
  | _ => []

/-- An id that a counter has handed out. -/
def HandedOut (id next : Nat) : Prop := id ≠ 0 ∧ (next ≠ 0 → id < next)

theorem nextUint64_le (n : Nat) : nextUint64 n ≤ maxUint64 := by
  unfold nextUint64 maxUint64
  omega

theorem HandedOut.self (next : Nat) (hle : next ≤ maxUint64) (hne : next ≠ 0) :
    HandedOut next (nextUint64 next) := by
  unfold maxUint64 at hle
  refine ⟨hne, fun hnext => ?_⟩
  unfold nextUint64 at hnext ⊢
  omega

theorem HandedOut.step {id next : Nat} (h : HandedOut id next) (hle : next ≤ maxUint64)
    (hne : next ≠ 0) : HandedOut id (nextUint64 next) := by
  unfold maxUint64 at hle
  refine ⟨h.1, fun hnext => ?_⟩
  have hlt := h.2 hne
  unfold nextUint64 at hnext ⊢
  omega

theorem HandedOut.ne {id next : Nat} (h : HandedOut id next) (hne : next ≠ 0) : id ≠ next :=
  Nat.ne_of_lt (h.2 hne)

/-- All counters of a pool and of its owners. -/
structure PoolCounters where
  nextConnectionID : Nat
  nextGeneration : Nat
  owners : Nat → Option (IdentityKind → Nat)

/-- An identity that was handed out. -/
def Identity.HandedOut (counts : PoolCounters) : Identity → Prop
  | .connection id => HelianthusModbus.HandedOut id counts.nextConnectionID
  | .generation id => id ≠ 0 ∧ id ≤ counts.nextGeneration
  | .owned kind owner id =>
    ∃ counters ∈ counts.owners owner, HelianthusModbus.HandedOut id (counters kind)

namespace PoolCounters

/-- Writing the counters of one owner. -/
def setOwner (counts : PoolCounters) (owner : Nat) (counters : IdentityKind → Nat) : PoolCounters :=
  { counts with owners := Function.update counts.owners owner (some counters) }

theorem mem_setOwner (counts : PoolCounters) (owner : Nat) (counters : IdentityKind → Nat)
    (other : Nat) (found : IdentityKind → Nat) :
    found ∈ (counts.setOwner owner counters).owners other ↔
      (other = owner ∧ counters = found) ∨ (other ≠ owner ∧ found ∈ counts.owners other) := by
  unfold setOwner
  dsimp only
  by_cases heq : other = owner
  · subst heq
    simp
  · simp [heq]

/-- The identities are in the past of the counters and none is there twice. -/
structure Sound (counts : PoolCounters) (handed : Multiset Identity) : Prop where
  connection_le : counts.nextConnectionID ≤ maxUint64
  generation_le : counts.nextGeneration ≤ maxUint64
  owners_le : ∀ owner, ∀ counters ∈ counts.owners owner, ∀ kind, counters kind ≤ maxUint64
  past : ∀ identity ∈ handed, identity.HandedOut counts
  nodup : handed.Nodup

namespace Sound

variable {counts : PoolCounters} {handed : Multiset Identity} (h : counts.Sound handed)
include h

theorem le {fewer : Multiset Identity} (hle : fewer ≤ handed) : counts.Sound fewer :=
  { h with
    past := fun identity hmem => h.past identity (Multiset.mem_of_le hle hmem)
    nodup := Multiset.nodup_of_le hle h.nodup }

theorem issue (identity : Identity) (hpast : identity.HandedOut counts)
    (hfresh : identity ∉ handed) : counts.Sound (identity ::ₘ handed) := by
  refine { h with past := ?_, nodup := Multiset.nodup_cons.mpr ⟨hfresh, h.nodup⟩ }
  intro other hmem
  rcases Multiset.mem_cons.mp hmem with rfl | hold
  · exact hpast
  · exact h.past other hold

theorem swap (hlt : counts.nextGeneration < maxUint64) :
    Sound { counts with nextGeneration := counts.nextGeneration + 1 }
      (.generation (counts.nextGeneration + 1) ::ₘ handed) := by
  have hraised : Sound { counts with nextGeneration := counts.nextGeneration + 1 } handed := by
    refine { h with generation_le := hlt, past := fun old hmem => ?_ }
    have hold := h.past old hmem
    cases old with
    | generation id => exact ⟨hold.1, Nat.le_succ_of_le hold.2⟩
    | connection id | owned kind owner id => exact hold
  refine hraised.issue _ ⟨Nat.succ_ne_zero _, Nat.le_refl _⟩ fun hmem => ?_
  exact absurd (h.past _ hmem).2 (Nat.not_succ_le_self _)

/-- A connection id that nobody was given. -/
theorem skip (hne : counts.nextConnectionID ≠ 0) :
    Sound { counts with nextConnectionID := nextUint64 counts.nextConnectionID } handed := by
  refine { h with connection_le := nextUint64_le _, past := fun old hmem => ?_ }
  have hold := h.past old hmem
  cases old with
  | connection id => exact HelianthusModbus.HandedOut.step hold h.connection_le hne
  | generation id | owned kind owner id => exact hold

theorem connect (hne : counts.nextConnectionID ≠ 0) :
    Sound { counts with nextConnectionID := nextUint64 counts.nextConnectionID }
      (.connection counts.nextConnectionID ::ₘ handed) := by
  refine (h.skip hne).issue _ (HelianthusModbus.HandedOut.self _ h.connection_le hne) fun hmem => ?_
  exact HelianthusModbus.HandedOut.ne (h.past _ hmem) hne rfl

theorem setOwner (owner : Nat) (counters : IdentityKind → Nat)
    (hle : ∀ kind, counters kind ≤ maxUint64) (hpast : ∀ kind id, .owned kind owner id ∈ handed →
      HelianthusModbus.HandedOut id (counters kind)) :
    (counts.setOwner owner counters).Sound handed := by
  refine { h with owners_le := ?_, past := fun old hmem => ?_ }
  · intro other found hfound kind
    rcases (mem_setOwner counts owner counters other found).mp hfound with ⟨_, rfl⟩ | ⟨_, hold⟩
    · exact hle kind
    · exact h.owners_le other found hold kind
  · have hold := h.past old hmem
    cases old with
    | connection id | generation id => exact hold
    | owned kind other id =>
      by_cases heq : other = owner
      · subst heq
        exact ⟨counters, (mem_setOwner ..).mpr (Or.inl ⟨rfl, rfl⟩), hpast kind id hmem⟩
      · rcases hold with ⟨found, hfound, hfoundPast⟩
        exact ⟨found, (mem_setOwner ..).mpr (Or.inr ⟨heq, hfound⟩), hfoundPast⟩

/-- An owner that was not there before handed nothing out. -/
theorem newOwner (owner : Nat) (hnone : counts.owners owner = none)
    (counters : IdentityKind → Nat) (hle : ∀ kind, counters kind ≤ maxUint64) :
    (counts.setOwner owner counters).Sound handed := by
  refine h.setOwner owner counters hle fun kind id hmem => ?_
  rcases h.past _ hmem with ⟨found, hfound, _⟩
  rw [hnone] at hfound
  cases hfound

theorem draw (owner : Nat) (counters : IdentityKind → Nat) (kind : IdentityKind)
    (hcounters : counts.owners owner = some counters) (hne : counters kind ≠ 0) :
    (counts.setOwner owner (Function.update counters kind (nextUint64 (counters kind)))).Sound
      (.owned kind owner (counters kind) ::ₘ handed) := by
  have hle := h.owners_le owner counters hcounters
  have hbelow : ∀ kind' id, .owned kind' owner id ∈ handed →
      HelianthusModbus.HandedOut id (counters kind') := by
    intro kind' id hmem
    rcases h.past _ hmem with ⟨found, hfound, hpast⟩
    cases hcounters.symm.trans hfound
    exact hpast
  refine (h.setOwner owner _ (fun kind' => ?_) (fun kind' id hmem => ?_)).issue _
    ⟨_, (mem_setOwner ..).mpr (Or.inl ⟨rfl, rfl⟩), ?_⟩ fun hmem => ?_
  · by_cases hkind : kind' = kind
    · subst hkind
      rw [Function.update_self]
      exact nextUint64_le _
    · rw [Function.update_of_ne hkind]
      exact hle kind'
  · by_cases hkind : kind' = kind
    · subst hkind
      rw [Function.update_self]
      exact (hbelow kind' id hmem).step (hle kind') hne
    · rw [Function.update_of_ne hkind]
      exact hbelow kind' id hmem
  · rw [Function.update_self]
    exact HelianthusModbus.HandedOut.self _ (hle kind) hne
  · exact (hbelow kind _ hmem).ne hne rfl

end Sound

end PoolCounters

/-- What a call takes from the counters of an owner: nothing, or the next id of one. -/
inductive Draws (owner : Nat) (before : IdentityKind → Nat) :
    List Identity → (IdentityKind → Nat) → Prop where
  | none : Draws owner before [] before
  | one (kind : IdentityKind) : before kind ≠ 0 →
      Draws owner before [.owned kind owner (before kind)]
        (Function.update before kind (nextUint64 (before kind)))

namespace TCPConnectionOwner

variable (owner : TCPConnectionOwner) (number : Nat)

/-- A call that hands out the next id of one counter leaves the other two alone. -/
theorem draws_one (kind : IdentityKind) (after : TCPConnectionOwner)
    (hne : owner.counters kind ≠ 0)
    (hkind : after.counters kind = nextUint64 (owner.counters kind))
    (hothers : ∀ other, other ≠ kind → after.counters other = owner.counters other) :
    Draws number owner.counters [.owned kind number (owner.counters kind)] after.counters := by
  have hcounters : after.counters =
      Function.update owner.counters kind (nextUint64 (owner.counters kind)) := by
    funext other
    by_cases heq : other = kind
    · rw [heq, Function.update_self, hkind]
    · rw [Function.update_of_ne heq, hothers other heq]
  rw [hcounters]
  exact .one kind hne

/-- A frame that is bound to a request gets the next response id. -/
theorem answers_draws {response : WireResponse} {request : OwnedRequest}
    (h : response.Answers owner request) (after : TCPConnectionOwner)
    (hrequests : after.nextPhysicalRequestID = owner.nextPhysicalRequestID)
    (hresponses : after.nextWireResponseID = nextUint64 owner.nextWireResponseID)
    (hframes : after.nextDiagnosticFrameID = owner.nextDiagnosticFrameID) :
    Draws number owner.counters (response.identities number) after.counters := by
  rw [WireResponse.identities, if_pos h.bound, h.id]
  refine owner.draws_one number .wireResponse after h.next hresponses fun other hne => ?_
  cases other with
  | physicalRequest => exact hrequests
  | wireResponse => exact absurd rfl hne
  | diagnosticFrame => exact hframes

theorem apply_draws (call : OwnerCall) :
    Draws number owner.counters ((owner.apply call).1.identities number)
      (owner.apply call).2.counters := by
  have hstep := owner.apply_step call
  generalize (owner.apply call).1 = reply, (owner.apply call).2 = after at hstep ⊢
  cases hstep with
  | refused _ _ err hrefused =>
    have hnone : reply.identities number = [] := by
      cases call <;> cases hrefused <;> rfl
    rw [hnone]
    exact .none
  | reserved unitID request deadlineOffset t next hnext =>
    refine owner.draws_one number .physicalRequest _ hnext rfl fun other hne => ?_
    cases other with
    | physicalRequest => exact absurd rfl hne
    | wireResponse | diagnosticFrame => rfl
  | expired nowOffset after hburies
  | overExpired nowOffset taken rest request middle failed err _ hburies =>
    rcases hburies.frame with ⟨_, _, _, rfl⟩
    exact .none
  | answered generation adu request response errs _ hanswers
  | overtook generation adu request response errs _ hanswers
  | late generation adu tombstone response errs _ hanswers =>
  exact owner.answers_draws number hanswers _ rfl rfl rfl
  | diagnosed generation adu response errs closed _ hnext _ hdropped howned hid =>
    rw [OwnerReply.identities, WireResponse.identities, if_neg (not_not.mpr hdropped),
      if_pos howned, hid]
    refine owner.draws_one number .diagnosticFrame _ hnext rfl fun other hne => ?_
    cases other with
    | physicalRequest | wireResponse => rfl
    | diagnosticFrame => exact absurd rfl hne
  | _ => exact .none

end TCPConnectionOwner

end HelianthusModbus
