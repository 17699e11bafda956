import HelianthusModbus.Theory.Coalescing
import Mathlib.Data.List.Forall2

/-!
# Group Lifecycle

What every state of a coalesced group satisfies, and how many dependents each of
its transitions ends.

The scheduler counts the active dependents of a group and is told, transition by
transition, how many stopped being active. For that to stay exact the number
reported has to be the number that changed, in particular when a transition fails.
The one transition that could change dependents and then fail is the delivery of a
response, which walks the dependents one by one. It never does, because every
active slice lies inside the physical request and a response carries exactly the
words of that request. `Sound` keeps both facts, together with the phase of the
group: before the write an open dependent is queued, and afterwards it is attached.

## Main definitions

* `CoalescedRead.Sound`: What every group satisfies.
* `CoalescedRead.Released`: A transition ends a given number of dependents.
* `CoalescedRead.endedDependentCount`: How many have ended.

## Theorems

* `coalesceReads_sound`: A new group is sound and all its dependents are active.
* `CoalescedRead.Sound.cancelLocked`, `Sound.replayLocked`, `Sound.failLocked`,
  `Sound.failTransportLocked`, `Sound.finishWriteFailureLocked`: Every transition
  keeps a group sound and reports what it released.
-/

namespace HelianthusModbus

/-- What a transition may do to a dependent. One that has ended stays as it is, and one
    that is attached is not queued again. -/
structure CoalescedDependent.Moves (old new : CoalescedDependent) : Prop where
  view : new.slice.logicalViewID = old.slice.logicalViewID
  ended : old.state.active = false → new = old
  forward : new.state = .queued → old.state = .queued

namespace CoalescedDependent.Moves

theorem refl (dependent : CoalescedDependent) : dependent.Moves dependent :=
  ⟨rfl, fun _ => rfl, id⟩

theorem trans {first second third : CoalescedDependent} (h : first.Moves second)
    (hnext : second.Moves third) : first.Moves third where
  view := hnext.view.trans h.view
  ended := fun hended => by
    rw [hnext.ended (by rw [h.ended hended, hended]), h.ended hended]
  forward := fun hqueued => h.forward (hnext.forward hqueued)

theorem goes {dependent : CoalescedDependent} (state : DependentState)
    (hactive : dependent.state.active = true) (hstate : state ≠ .queued) :
    dependent.Moves { dependent with state := state } :=
  ⟨rfl, fun hended => (nomatch hended.symm.trans hactive), fun hqueued => absurd hqueued hstate⟩

theorem views {olds news : List CoalescedDependent} (h : List.Forall₂ Moves olds news) :
    (news.map fun dependent => dependent.slice.logicalViewID) =
      olds.map fun dependent => dependent.slice.logicalViewID := by
  induction h with
  | nil => rfl
  | cons hmove _ ih => rw [List.map_cons, List.map_cons, hmove.view, ih]

theorem all_trans {first second third : List CoalescedDependent}
    (h : List.Forall₂ Moves first second) (hnext : List.Forall₂ Moves second third) :
    List.Forall₂ Moves first third := by
  induction h generalizing third with
  | nil => exact hnext
  | cons hmove _ ih =>
    cases hnext with
    | cons hmove' hrest => exact .cons (hmove.trans hmove') (ih hrest)

theorem map {dependents : List CoalescedDependent}
    {change : CoalescedDependent → CoalescedDependent}
    (h : ∀ dependent ∈ dependents, dependent.Moves (change dependent)) :
    List.Forall₂ Moves dependents (dependents.map change) :=
  List.forall₂_map_right_iff.mpr (List.forall₂_same.mpr h)

end CoalescedDependent.Moves

namespace CoalescedRead

open CoalescedDependent (Moves)

/-- A dependent's slice is its part of the physical request. -/
structure Placed (physical : ReadRegistersRequest) (dependent : CoalescedDependent) : Prop where
  words_pos : 0 < dependent.slice.logicalWords
  words_eq : dependent.slice.sliceWordCount = dependent.slice.logicalWords
  offset_eq : dependent.slice.logicalOffset = physical.offset + dependent.slice.sliceOffset
  inside : dependent.slice.sliceOffset + dependent.slice.sliceWordCount ≤ physical.quantity

/-- What every group satisfies. -/
structure Sound (group : CoalescedRead) : Prop where
  views_nodup : (group.dependents.map fun dependent => dependent.slice.logicalViewID).Nodup
  valid : validateReadRegistersRequest group.physical = .ok ()
  placed : ∀ dependent ∈ group.dependents, dependent.state.active = true →
    Placed group.physical dependent
  live : group.completed = false → 0 < group.activeDependentCount
  done : group.completed = true → group.activeDependentCount = 0
  states : group.completed = false → ∀ dependent ∈ group.dependents,
    dependent.state = .cancelled ∨
      dependent.state = if group.writeBegun then .attached else .queued

/-- A transition that ends `count` dependents. -/
structure Released (group : CoalescedRead) (count : Nat) (after : CoalescedRead) : Prop where
  sound : after.Sound
  count_eq : after.activeDependentCount + count = group.activeDependentCount
  key_eq : after.admissionKey = group.admissionKey
  scheduled_eq : after.scheduled = group.scheduled
  moves : List.Forall₂ Moves group.dependents after.dependents

theorem Released.refl {group : CoalescedRead} (h : group.Sound) : group.Released 0 group :=
  ⟨h, rfl, rfl, rfl, List.forall₂_same.mpr fun dependent _ => .refl dependent⟩

theorem Released.trans {group middle after : CoalescedRead} {first second : Nat}
    (h : group.Released first middle) (hnext : middle.Released second after) :
    group.Released (first + second) after where
  sound := hnext.sound
  count_eq := by
    rw [← h.count_eq, ← hnext.count_eq]
    omega
  key_eq := hnext.key_eq.trans h.key_eq
  scheduled_eq := hnext.scheduled_eq.trans h.scheduled_eq
  moves := Moves.all_trans h.moves hnext.moves

theorem subUint16_of_le (a b : Nat) (hle : b ≤ a) (ha : a < 65536) : subUint16 a b = a - b := by
  unfold subUint16
  omega

/-- A slice counted from the start of a request that holds the range it is for. -/
theorem Placed.within {physical : ReadRegistersRequest} {dependent : CoalescedDependent}
    (hvalid : validateReadRegistersRequest physical = .ok ())
    (hpos : 0 < dependent.slice.logicalWords)
    (hwords : dependent.slice.sliceWordCount = dependent.slice.logicalWords)
    (hslice : dependent.slice.sliceOffset =
      subUint16 dependent.slice.logicalOffset physical.offset)
    (hlow : physical.offset ≤ dependent.range.1)
    (hhigh : dependent.range.2 ≤ physical.offset + physical.quantity) :
    Placed physical dependent := by
  have hsize := (validateReadRegistersRequest_ok _).mp hvalid
  simp only [CoalescedDependent.range] at hlow hhigh
  rw [subUint16_of_le _ _ hlow (by omega)] at hslice
  exact ⟨hpos, hwords, by omega, by omega⟩

theorem Placed.range {physical : ReadRegistersRequest} {dependent : CoalescedDependent}
    (h : Placed physical dependent) : physical.offset ≤ dependent.range.1 ∧
      dependent.range.1 < dependent.range.2 ∧
      dependent.range.2 ≤ physical.offset + physical.quantity := by
  rcases h with ⟨hpos, hwords, hoffset, hinside⟩
  simp only [CoalescedDependent.range]
  omega

end CoalescedRead

theorem coalesceReads_sound (intents : List ReadIntent) (maxDependents : Int)
    (group : CoalescedRead) (h : coalesceReads intents maxDependents = .ok group) :
    group.Sound ∧ group.activeDependentCount = intents.length ∧ 0 < intents.length ∧
      group.completed = false ∧ group.writeBegun = false := by
  rcases (coalesceReads_iff _ _ _).mp h with ⟨_, first, hfirst, physical, hreads, rfl⟩
  have hpos : 0 < intents.length := List.length_pos_of_mem (List.mem_of_mem_head? hfirst)
  have hcount : (first.spec.groupOf intents physical).activeDependentCount = intents.length := by
    simp only [CoalescedRead.activeDependentCount, ReadIntentSpec.groupOf, List.countP_map]
    exact List.countP_eq_length.mpr fun _ _ => rfl
  refine ⟨?_, hcount, hpos, rfl, rfl⟩
  constructor
  case views_nodup =>
    simp only [ReadIntentSpec.groupOf, List.map_map]
    exact hreads.views
  case valid => exact hreads.valid
  case placed =>
    intro dependent hdependent _
    rcases List.mem_map.mp hdependent with ⟨intent, hintent, rfl⟩
    have hrange := (validateReadRegistersRequest_ok _).mp
      (newReadIntent_ok (hreads.joins intent hintent).1).2
    rcases hreads.spans.within intent.range (List.mem_map_of_mem hintent) with ⟨hlow, hhigh⟩
    exact .within hreads.valid hrange.2.1 rfl rfl hlow hhigh
  case live =>
    rw [hcount]
    exact fun _ => hpos
  case done => intro h; cases h
  case states =>
    intro _ dependent hdependent
    rcases List.mem_map.mp hdependent with ⟨intent, _, rfl⟩
    exact Or.inr rfl

namespace CoalescedRead

variable {group : CoalescedRead}

open CoalescedDependent (Moves)

section Failing

variable (h : group.Sound)
include h

theorem Sound.relabel {deadline : Duration} {owner : Option Nat} {reservation : TCPReservation}
    {id generation : Nat} {scheduled : Bool} {key : AdmissionKey} :
    Sound { group with
      operationDeadline := deadline, owner := owner, reservation := reservation
      physicalRequestID := id, generation := generation, scheduled := scheduled
      admissionKey := key } :=
  ⟨h.views_nodup, h.valid, h.placed, h.live, h.done, h.states⟩

theorem Sound.setOperationDeadline (deadline : Duration) :
    group.Released 0 (group.setOperationDeadline deadline) := by
  unfold CoalescedRead.setOperationDeadline
  split
  · exact .refl h
  · exact ⟨h.relabel, rfl, rfl, rfl, (Released.refl h).moves⟩

theorem Sound.bindReservation (reservation : TCPReservation) (owner : TCPConnectionOwner) :
    group.Released 0 (group.bindReservation reservation owner).2 := by
  unfold CoalescedRead.bindReservation
  split
  · exact .refl h
  split
  · exact .refl h
  · exact ⟨h.relabel, rfl, rfl, rfl, (Released.refl h).moves⟩

/-- In an open group, the active dependents are those in the state of its phase. -/
theorem Sound.active_iff (hopen : group.completed = false) (dependent : CoalescedDependent)
    (hmem : dependent ∈ group.dependents) :
    dependent.state.active = true ↔
      dependent.state = if group.writeBegun then .attached else .queued := by
  rcases h.states hopen dependent hmem with hstate | hstate
  · rw [hstate]
    refine iff_of_false nofun ?_
    cases group.writeBegun with
    | true => nofun
    | false => nofun
  · refine iff_of_true ?_ hstate
    rw [hstate]
    cases group.writeBegun with
    | true => rfl
    | false => rfl

/-- Once the write has begun, the active dependents are the attached ones. -/
theorem Sound.active_eq_attached (hopen : group.completed = false)
    (hbegun : group.writeBegun = true) (dependent : CoalescedDependent)
    (hmem : dependent ∈ group.dependents) :
    decide (dependent.state = .attached) = dependent.state.active := by
  have hiff := h.active_iff hopen dependent hmem
  rw [hbegun, if_pos rfl] at hiff
  exact Bool.eq_iff_iff.mpr (decide_eq_true_iff.trans hiff.symm)

/-- A transition that ends every dependent completes the group. -/
theorem Sound.finish {change : CoalescedDependent → CoalescedDependent}
    (hmoves : ∀ dependent ∈ group.dependents, dependent.Moves (change dependent))
    (hended : ∀ dependent ∈ group.dependents, (change dependent).state.active = false) :
    group.Released group.activeDependentCount
      { group with dependents := group.dependents.map change, completed := true } := by
  have hnone : ∀ dependent ∈ group.dependents.map change, dependent.state.active = false :=
    List.forall_mem_map.mpr hended
  have hzero : (group.dependents.map change).countP (fun dependent => dependent.state.active) =
      0 := List.countP_eq_zero.mpr fun dependent hmem => by simp [hnone dependent hmem]
  refine ⟨?_, (congrArg (· + _) hzero).trans (Nat.zero_add _), rfl, rfl, Moves.map hmoves⟩
  constructor
  case views_nodup => exact (Moves.views (Moves.map hmoves)).symm ▸ h.views_nodup
  case valid => exact h.valid
  case placed =>
    exact fun dependent hmem hactive => (nomatch (hnone dependent hmem).symm.trans hactive)
  case live => nofun
  case done => exact fun _ => hzero
  case states => nofun

/-- Failing exactly the active dependents completes the group. -/
theorem Sound.failDependents (selected : DependentState → Bool)
    (hselected : ∀ dependent ∈ group.dependents,
      selected dependent.state = dependent.state.active) :
    group.Released (group.failDependents selected).1 (group.failDependents selected).2 := by
  have hcount : (group.failDependents selected).1 = group.activeDependentCount :=
    List.countP_congr (fun dependent hdependent => by rw [hselected dependent hdependent])
  rw [hcount]
  refine h.finish ?_ ?_
  · intro dependent hmem
    split
    · next hfail => exact .goes .failed ((hselected dependent hmem).symm.trans hfail) nofun
    · exact .refl dependent
  · intro dependent hmem
    split
    · rfl
    · next hfail => rw [← hselected dependent hmem, Bool.eq_false_iff.mpr hfail]

theorem Sound.finishWriteFailureLocked (hbegun : group.writeBegun = true) :
    group.Released group.finishWriteFailureLocked.1 group.finishWriteFailureLocked.2 := by
  unfold CoalescedRead.finishWriteFailureLocked
  by_cases hdone : group.completed = true
  · rw [if_pos hdone]
    exact Released.refl h
  · rw [if_neg hdone]
    exact h.failDependents _ (h.active_eq_attached (Bool.eq_false_iff.mpr hdone) hbegun)

theorem Sound.failLocked (response : WireResponse) :
    group.Released (group.failLocked response).2.1 (group.failLocked response).2.2 := by
  unfold CoalescedRead.failLocked
  split
  · exact Released.refl h
  next hguard =>
  push Not at hguard
  exact h.failDependents (fun state => state = .attached)
    (h.active_eq_attached (Bool.eq_false_iff.mpr hguard.1) (Bool.not_eq_false _ |>.mp hguard.2.1))

theorem Sound.failTransportLocked (owner : TCPConnectionOwner) :
    group.Released (group.failTransportLocked owner).2.1
      (group.failTransportLocked owner).2.2.1 := by
  unfold CoalescedRead.failTransportLocked
  by_cases hdone : group.completed = true
  · rw [if_pos hdone]
    exact Released.refl h
  · rw [if_neg hdone]
    exact h.failDependents _ (fun _ _ => rfl)

theorem Sound.beginWrite (hopen : group.completed = false) (hunwritten : group.writeBegun = false)
    (transport : Nat) : group.Released 0 (group.beginWrite transport) := by
  -- Attaching a queued dependent does not change whether it is active.
  have hkeep : ∀ dependent : CoalescedDependent,
      (if dependent.state = .queued then { dependent with state := .attached }
        else dependent : CoalescedDependent).state.active = dependent.state.active := by
    intro dependent
    split
    · next hqueued => rw [hqueued]; rfl
    · rfl
  have hcount : (group.beginWrite transport).activeDependentCount =
      group.activeDependentCount := by
    show List.countP _ (List.map _ _) = _
    rw [List.countP_map]
    exact List.countP_congr (fun dependent _ => by rw [Function.comp_apply, hkeep])
  have hmoves : List.Forall₂ Moves group.dependents (group.beginWrite transport).dependents := by
    refine Moves.map fun dependent _ => ?_
    split
    · next hqueued => exact .goes .attached (by rw [hqueued]; rfl) nofun
    · exact .refl dependent
  refine ⟨?_, hcount, rfl, rfl, hmoves⟩
  constructor
  case views_nodup => exact (Moves.views hmoves).symm ▸ h.views_nodup
  case valid => exact h.valid
  case placed =>
    intro dependent hdependent hactive
    rcases List.mem_map.mp hdependent with ⟨old, hold, rfl⟩
    rw [hkeep] at hactive
    have hplaced := h.placed old hold hactive
    split
    · exact ⟨hplaced.words_pos, hplaced.words_eq, hplaced.offset_eq, hplaced.inside⟩
    · exact hplaced
  case live => rw [hcount]; exact fun _ => h.live hopen
  case done => exact fun hdone => (nomatch hopen.symm.trans hdone)
  case states =>
    intro _ dependent hdependent
    rcases List.mem_map.mp hdependent with ⟨old, hold, rfl⟩
    rcases h.states hopen old hold with hstate | hstate
    · rw [if_neg (by rw [hstate]; nofun)]
      exact Or.inl hstate
    · rw [hunwritten, if_neg nofun] at hstate
      rw [if_pos hstate]
      exact Or.inr rfl

end Failing

/-- The delivery loop goes through when every dependent is cancelled or attached with
    a slice inside the response. It gives one view to each of the attached ones. -/
theorem deliver_ok (group : CoalescedRead) (response : WireResponse)
    (dependents : List CoalescedDependent)
    (h : ∀ dependent ∈ dependents, dependent.state = .cancelled ∨
      (dependent.state = .attached ∧
        dependent.slice.sliceOffset + dependent.slice.sliceWordCount ≤
          response.words.length)) :
    group.deliver response dependents =
      (.ok ((dependents.filter fun dependent => dependent.state.active).map fun dependent =>
          group.viewOf response dependent.slice),
        dependents.map fun dependent =>
          if dependent.state.active then { dependent with state := .delivered }
          else dependent) := by
  induction dependents with
  | nil => rfl
  | cons dependent rest ih =>
    have hrest := ih (fun other hother => h other (List.mem_cons_of_mem _ hother))
    rcases h dependent List.mem_cons_self with hstate | ⟨hstate, hinside⟩
    · simp [deliver, hstate, hrest, DependentState.active]
    · simp [deliver, hstate, hrest, DependentState.active, Nat.not_lt.mpr hinside, Except.map]

/-- Once the write has begun, every slice that is still wanted lies inside a response of
    the requested length, and all of them are delivered. -/
theorem Sound.deliver (h : group.Sound) (hopen : group.completed = false)
    (hbegun : group.writeBegun = true) (response : WireResponse)
    (hwords : response.words.length = group.physical.quantity) :
    group.deliver response group.dependents =
      (.ok ((group.dependents.filter fun dependent => dependent.state.active).map fun dependent =>
          group.viewOf response dependent.slice),
        group.dependents.map fun dependent =>
          if dependent.state.active then { dependent with state := .delivered }
          else dependent) := by
  refine group.deliver_ok response _ fun dependent hdependent => ?_
  rcases h.states hopen dependent hdependent with hstate | hstate
  · exact Or.inl hstate
  · rw [hbegun, if_pos rfl] at hstate
    rw [hwords]
    exact Or.inr ⟨hstate, (h.placed dependent hdependent (by rw [hstate]; rfl)).inside⟩

theorem replayMatches_open (response : WireResponse) (h : group.replayMatches response = true) :
    group.completed = false ∧ group.writeBegun = true := by
  simp only [replayMatches, Bool.and_eq_true, Bool.not_eq_true'] at h
  tauto

/-- A response that passes the identity checks with all the requested words reaches every
    dependent that is still wanted. -/
theorem Sound.replayLocked_views (h : group.Sound) (response : WireResponse)
    (hmatch : group.replayMatches response = true)
    (hwords : response.words.length = group.physical.quantity) :
    (group.replayLocked response).1 =
      .ok ((group.dependents.filter fun dependent => dependent.state.active).map fun dependent =>
        group.viewOf response dependent.slice) := by
  rcases replayMatches_open response hmatch with ⟨hopen, hbegun⟩
  unfold CoalescedRead.replayLocked
  rw [if_neg (by rw [hmatch]; nofun), if_neg (by simpa only [not_not] using hwords),
    h.deliver hopen hbegun response hwords]

/-- A response that passes the identity checks is delivered in full, and everything
    else leaves the group as it is. -/
theorem Sound.replayLocked (h : group.Sound) (response : WireResponse) :
    group.Released (group.replayLocked response).2.1 (group.replayLocked response).2.2 := by
  unfold CoalescedRead.replayLocked
  by_cases hmatch : group.replayMatches response = false
  · rw [if_pos hmatch]
    exact Released.refl h
  rw [if_neg hmatch]
  by_cases hwords : response.words.length ≠ group.physical.quantity
  · rw [if_pos hwords]
    exact Released.refl h
  rw [if_neg hwords]
  rw [Bool.not_eq_false] at hmatch
  rw [not_not] at hwords
  rcases replayMatches_open response hmatch with ⟨hopen, hbegun⟩
  rw [h.deliver hopen hbegun response hwords]
  dsimp only
  rw [List.length_map, ← List.countP_eq_length_filter]
  refine h.finish ?_ ?_
  · intro dependent _
    split
    · next hactive => exact .goes .delivered hactive nofun
    · exact .refl dependent
  · intro dependent _
    split
    · rfl
    · next hended => exact Bool.eq_false_iff.mpr hended

/-- The group after one dependent was cancelled, with a smaller request or the old one. -/
def without (group : CoalescedRead) (view : Nat) (replacement : Option ReadRegistersRequest) :
    CoalescedRead :=
  (group.cancelDependent view false replacement {} none).2

/-- Marking a dependent when the views are distinct. -/
theorem markCancelled_eq_map (view : Nat) (dependents : List CoalescedDependent)
    (hnodup : (dependents.map fun dependent => dependent.slice.logicalViewID).Nodup) :
    markCancelled view dependents = dependents.map fun dependent =>
      if dependent.slice.logicalViewID = view then { dependent with state := .cancelled }
      else dependent := by
  induction dependents with
  | nil => rfl
  | cons first rest ih =>
    rw [List.map_cons, List.nodup_cons] at hnodup
    unfold markCancelled
    rw [List.map_cons]
    by_cases hview : first.slice.logicalViewID = view
    · -- The view was the first one's, so no other dependent has it.
      have hrest : ∀ dependent ∈ rest, dependent.slice.logicalViewID ≠ view := by
        intro dependent hmem heq
        exact hnodup.1 (hview.trans heq.symm ▸ List.mem_map_of_mem hmem)
      rw [if_pos hview, if_pos hview]
      refine congrArg _ (List.map_id rest).symm |>.trans (congrArg _ ?_)
      exact List.map_congr_left fun dependent hmem => (if_neg (hrest dependent hmem)).symm
    · rw [if_neg hview, if_neg hview, ih hnodup.2]

theorem countP_markCancelled (view : Nat) (dependents : List CoalescedDependent)
    (dependent : CoalescedDependent)
    (hfind : (dependents.find? fun dependent =>
      dependent.slice.logicalViewID = view) = some dependent)
    (hactive : dependent.state.active = true) :
    (markCancelled view dependents).countP (fun dependent => dependent.state.active) + 1 =
      dependents.countP fun dependent => dependent.state.active := by
  induction dependents with
  | nil => cases hfind
  | cons first rest ih =>
    unfold markCancelled
    by_cases hview : first.slice.logicalViewID = view
    · rw [List.find?_cons_of_pos (by simpa only [decide_eq_true_eq] using hview)] at hfind
      cases hfind
      rw [if_pos hview, List.countP_cons_of_neg Bool.false_ne_true,
        List.countP_cons_of_pos
          (p := fun dependent : CoalescedDependent => dependent.state.active) hactive]
    · rw [List.find?_cons_of_neg (by simpa only [decide_eq_true_eq] using hview)] at hfind
      rw [if_neg hview, List.countP_cons, List.countP_cons, ← ih hfind]
      omega

theorem Sound.filter_markCancelled (h : group.Sound) (view : Nat) :
    ((markCancelled view group.dependents).filter fun dependent => dependent.state.active) =
      group.others view := by
  have hactive : ∀ dependent : CoalescedDependent,
      (if dependent.slice.logicalViewID = view then { dependent with state := .cancelled }
        else dependent : CoalescedDependent).state.active =
      (dependent.state.active && dependent.slice.logicalViewID != view) := by
    intro dependent
    by_cases hview : dependent.slice.logicalViewID = view <;> simp [hview, DependentState.active]
  rw [markCancelled_eq_map view group.dependents h.views_nodup, List.filter_map]
  simp only [Function.comp_def, hactive]
  refine (List.map_congr_left (g := id) fun dependent hmem => if_neg ?_).trans (List.map_id _)
  simp only [List.mem_filter, Bool.and_eq_true, bne_iff_ne] at hmem
  exact hmem.2.2

theorem Sound.mark (h : group.Sound) (hopen : group.completed = false) (view : Nat)
    (dependent : CoalescedDependent)
    (hfind : (group.dependents.find? fun dependent =>
      dependent.slice.logicalViewID = view) = some dependent)
    (hactive : dependent.state.active = true) : group.Released 1 (group.without view none) := by
  have hmap := markCancelled_eq_map view group.dependents h.views_nodup
  have hcount := countP_markCancelled view group.dependents dependent hfind hactive
  have hcompleted : (group.without view none).completed =
      ((markCancelled view group.dependents).countP
        (fun dependent => dependent.state.active) == 0) :=
    (congrArg (· || _) hopen).trans (Bool.false_or _)
  have hmoves : List.Forall₂ Moves group.dependents (markCancelled view group.dependents) := by
    rw [hmap]
    refine Moves.map fun other hother => ?_
    split
    · next hview =>
      -- No two dependents have one view, so this is the one that was found.
      have hsame := List.inj_on_of_nodup_map h.views_nodup hother (List.mem_of_find?_eq_some hfind)
        (hview.trans (by simpa [eq_comm] using List.find?_some hfind))
      exact .goes .cancelled (hsame ▸ hactive) nofun
    · exact .refl other
  refine ⟨?_, hcount, rfl, rfl, hmoves⟩
  constructor
  case views_nodup => exact (Moves.views hmoves).symm ▸ h.views_nodup
  case valid => exact h.valid
  case placed =>
    intro other hother hstill
    have hmem : other ∈ group.others view :=
      h.filter_markCancelled view ▸ List.mem_filter.mpr ⟨hother, hstill⟩
    exact h.placed other (List.mem_of_mem_filter hmem) hstill
  case live =>
    intro hstill
    rw [hcompleted, beq_eq_false_iff_ne] at hstill
    exact Nat.pos_of_ne_zero hstill
  case done =>
    intro hdone
    rw [hcompleted, beq_iff_eq] at hdone
    exact hdone
  case states =>
    intro _ other hother
    change other ∈ markCancelled view group.dependents at hother
    rw [hmap] at hother
    rcases List.mem_map.mp hother with ⟨old, hold, rfl⟩
    split
    · exact Or.inl rfl
    · exact h.states hopen old hold

/-- Moving to a request that holds what the active dependents ask for. -/
theorem Sound.applyPhysical (h : group.Sound) (physical : ReadRegistersRequest)
    (hvalid : validateReadRegistersRequest physical = .ok ())
    (hwithin : ∀ dependent ∈ group.dependents, dependent.state.active = true →
      physical.offset ≤ dependent.range.1 ∧
        dependent.range.2 ≤ physical.offset + physical.quantity) :
    group.Released 0 (group.applyPhysical physical) := by
  have hcount : (group.applyPhysical physical).activeDependentCount =
      group.activeDependentCount := by
    show List.countP _ (List.map _ _) = _
    rw [List.countP_map]
    refine List.countP_congr (fun other _ => ?_)
    rw [Function.comp_apply]
    split <;> rfl
  have hmoves : List.Forall₂ Moves group.dependents (group.applyPhysical physical).dependents := by
    refine Moves.map fun other _ => ?_
    split
    · next hactive => exact ⟨rfl, fun hended => (nomatch hended.symm.trans hactive), id⟩
    · exact .refl other
  refine ⟨?_, hcount, rfl, rfl, hmoves⟩
  constructor
  case views_nodup => exact (Moves.views hmoves).symm ▸ h.views_nodup
  case valid => exact hvalid
  case placed =>
    intro other hother hactive
    rcases List.mem_map.mp hother with ⟨old, hold, rfl⟩
    -- Only an active dependent gets a new place.
    by_cases hstill : old.state.active = true
    · rw [if_pos hstill]
      have hplaced := h.placed old hold hstill
      exact .within hvalid hplaced.words_pos hplaced.words_eq rfl (hwithin old hold hstill).1
        (hwithin old hold hstill).2
    · rw [if_neg hstill] at hactive
      exact absurd hactive hstill
  case live => rw [hcount]; exact h.live
  case done => rw [hcount]; exact h.done
  case states =>
    intro hopen other hother
    rcases List.mem_map.mp hother with ⟨old, hold, rfl⟩
    have hsame := h.states hopen old hold
    split <;> exact hsame

/-- The union of what the others ask for lies in the old request. -/
theorem Sound.others_within (h : group.Sound) {view low high : Nat}
    (hspans : Spans ((group.others view).map CoalescedDependent.range) low high) :
    group.physical.offset ≤ low ∧ low < high ∧
      high ≤ group.physical.offset + group.physical.quantity := by
  have hplaced : ∀ range ∈ (group.others view).map CoalescedDependent.range,
      group.physical.offset ≤ range.1 ∧ range.1 < range.2 ∧
        range.2 ≤ group.physical.offset + group.physical.quantity := by
    simp only [List.forall_mem_map, others, List.mem_filter, Bool.and_eq_true]
    exact fun dependent hmem => (h.placed dependent hmem.1 hmem.2.1).range
  rcases hspans.lowest with ⟨first, hfirst, rfl⟩
  rcases hspans.highest with ⟨last, hlast, rfl⟩
  have hlow := hplaced first hfirst
  have hhigh := hplaced last hlast
  have hleast := hspans.within last hlast
  omega

/-- The replacement of the physical request is the union of what the others ask for. -/
theorem Sound.physicalWithoutLogical_iff (h : group.Sound) (view : Nat)
    (physical : ReadRegistersRequest) :
    group.physicalWithoutLogical view = .ok physical ↔
      Spans ((group.others view).map CoalescedDependent.range) physical.offset
          (physical.offset + physical.quantity) ∧
        physical.function = group.physical.function ∧
        validateReadRegistersRequest physical = .ok () := by
  have hlimit : maxReadRegisters = 125 := rfl
  unfold CoalescedRead.physicalWithoutLogical
  constructor
  · intro hphysical
    split at hphysical
    · cases hphysical
    next low high hunion =>
    have hspans := (group.unionWithout_iff view low high).mp hunion
    have hold := (validateReadRegistersRequest_ok _).mp h.valid
    -- The union lies in the old request, so nothing wraps around.
    have hwithin := h.others_within hspans
    rw [if_neg (by omega), newReadRegistersRequest_ok, Nat.mod_eq_of_lt (by omega),
      Nat.mod_eq_of_lt (by omega)] at hphysical
    rcases hphysical with ⟨hfunction, hoffset, hquantity, hvalid⟩
    rw [hoffset, hquantity, Nat.add_sub_of_le (by omega)]
    exact ⟨hspans, hfunction, hvalid⟩
  · rintro ⟨hspans, hfunction, hvalid⟩
    have hsize := (validateReadRegistersRequest_ok _).mp hvalid
    rw [(group.unionWithout_iff view _ _).mpr hspans]
    dsimp only
    rw [if_neg (by omega), newReadRegistersRequest_ok, Nat.mod_eq_of_lt (by omega),
      Nat.mod_eq_of_lt (by omega)]
    exact ⟨hfunction, rfl, by omega, hvalid⟩

theorem Sound.shrink (h : group.Sound) (hopen : group.completed = false) (view : Nat)
    (dependent : CoalescedDependent)
    (hfind : (group.dependents.find? fun dependent =>
      dependent.slice.logicalViewID = view) = some dependent)
    (hactive : dependent.state.active = true) (physical : ReadRegistersRequest)
    (hphysical : group.physicalWithoutLogical view = .ok physical) :
    group.Released 1 (group.without view (some physical)) := by
  have hmarked := h.mark hopen view dependent hfind hactive
  rcases (h.physicalWithoutLogical_iff view physical).mp hphysical with ⟨hspans, _, hvalid⟩
  refine hmarked.trans (hmarked.sound.applyPhysical physical hvalid ?_)
  intro other hother hstill
  have hmem : other ∈ group.others view :=
    h.filter_markCancelled view ▸ List.mem_filter.mpr ⟨hother, hstill⟩
  exact hspans.within _ (List.mem_map_of_mem hmem)

/-- Cancelling a dependent: nothing changes, or one dependent ends. -/
theorem Sound.cancelLocked (h : group.Sound) (view : Nat) (owner : TCPConnectionOwner) :
    group.Released (group.cancelLocked view owner).1.released
      (group.cancelLocked view owner).2.1 := by
  unfold CoalescedRead.cancelLocked
  by_cases hdone : group.completed = true
  · rw [if_pos hdone]
    exact Released.refl h
  rw [if_neg hdone]
  have hopen : group.completed = false := Bool.eq_false_iff.mpr hdone
  split
  · exact Released.refl h
  next dependent hfind =>
  by_cases hactive : dependent.state.active = false
  · rw [if_pos hactive]
    exact Released.refl h
  rw [if_neg hactive]
  rw [Bool.not_eq_false] at hactive
  dsimp only
  split
  · split
    · exact Released.refl h
    next replacement hreplacement =>
    split
    · exact Released.refl h
    · exact h.shrink hopen view dependent hfind hactive replacement hreplacement
  · split
    · exact Released.refl h
    · exact h.mark hopen view dependent hfind hactive

/-- How many dependents were delivered, cancelled or failed. -/
def endedDependentCount (group : CoalescedRead) : Nat :=
  group.dependents.countP fun dependent => !dependent.state.active

/-- A transition that ends `count` dependents has as many more that ended. -/
theorem Released.ended_eq {after : CoalescedRead} {count : Nat} (h : group.Released count after) :
    after.endedDependentCount = group.endedDependentCount + count := by
  have hcount := h.count_eq
  have hlength := h.moves.length_eq
  rw [List.length_eq_countP_add_countP fun dependent => dependent.state.active,
    List.length_eq_countP_add_countP (l := after.dependents) fun dependent =>
      dependent.state.active] at hlength
  simp only [activeDependentCount, endedDependentCount] at *
  simp only [Bool.not_eq_true, Bool.decide_eq_false] at hlength
  omega

/-- A group without an active dependent has none left to move. -/
theorem Released.dependents_eq {after : CoalescedRead} {count : Nat}
    (h : group.Released count after)
    (hdone : ∀ dependent ∈ group.dependents, dependent.state.active = false) :
    after.dependents = group.dependents := by
  have hmoves := h.moves
  generalize after.dependents = moved at hmoves
  generalize group.dependents = dependents at hdone hmoves
  induction hmoves with
  | nil => rfl
  | cons hmove _ ih =>
    rw [hmove.ended (hdone _ List.mem_cons_self),
      ih fun dependent hmem => hdone dependent (List.mem_cons_of_mem _ hmem)]

theorem Sound.completed_iff (h : group.Sound) : group.completed = true ↔
    ∀ dependent ∈ group.dependents, dependent.state.active = false := by
  have hnone : group.activeDependentCount = 0 ↔
      ∀ dependent ∈ group.dependents, dependent.state.active = false := by
    simp [activeDependentCount]
  refine ⟨fun hdone => hnone.mp (h.done hdone), fun hended => ?_⟩
  by_contra hopen
  have hlive := h.live (Bool.not_eq_true _ |>.mp hopen)
  rw [hnone.mpr hended] at hlive
  exact absurd hlive (Nat.lt_irrefl 0)

end CoalescedRead

end HelianthusModbus
