import HelianthusModbus.Theory.RtuRequests

/-!
# Release from an RTU Quarantine

A quarantine seen on its own: an endpoint in quarantine stays in it, is released, or
leaves it because it failed or was closed. Which of the three an operation does depends on
a few numbers only, and `RTUQuarantine.advance` computes it from them.

Two quarantines can then be compared. One that had a byte more than the other has seen a
later clock, has a later idle deadline and has dropped at least as much, and this stays so
as long as both last. Whatever releases the one has then released the other before, or at
the same time.

## Main definitions

* `RTUFixtureEndpoint.ReleasesWithin`: The calls release the endpoint from its quarantine.

## Theorems

* `RTUFixtureEndpoint.step_quarantine`: The endpoint does what `advance` computes.
* `RTUQuarantine.Ahead.releases`: The quarantine that is behind is released first.
* `RTUFixtureEndpoint.quarantine_release_horizon`: A release comes after the horizon, after
  every byte and not earlier for a byte.
-/

namespace HelianthusModbus

/-- The numbers a quarantine depends on. -/
structure RTUQuarantine where
  interFrame : Duration
  latency : Duration
  quiescence : Duration
  idle : Duration
  clock : Option Duration
  saw : Bool
  frames : UInt64
  total : UInt64
  maxFrames : UInt64
  sequence : Nat

/-- What an operation does to a quarantine. -/
inductive RTUQuarantine.Outcome where
  | stay (quarantine : RTUQuarantine)
  | released
  | left

namespace RTUQuarantine

def Reads (quarantine : RTUQuarantine) (now : Duration) : Prop :=
  0 ≤ now ∧ ∀ last ∈ quarantine.clock, last ≤ now

/-- The clock is accepted and the quarantine has not lasted too long. -/
def Lasts (quarantine : RTUQuarantine) (now : Duration) : Prop :=
  quarantine.Reads now ∧ now ≤ quarantine.quiescence

instance (quarantine : RTUQuarantine) (now : Duration) : Decidable (quarantine.Lasts now) :=
  inferInstanceAs (Decidable ((0 ≤ now ∧ ∀ last ∈ quarantine.clock, last ≤ now) ∧ _))

def read (quarantine : RTUQuarantine) (now : Duration) : RTUQuarantine :=
  { quarantine with clock := some now }

/-- One more frame can be dropped without recovery being required. -/
def MayDrop (quarantine : RTUQuarantine) : Prop :=
  quarantine.total.toNat ≠ maxUint64 ∧ quarantine.frames.toNat ≠ maxUint64 ∧
    quarantine.frames < quarantine.maxFrames

instance (quarantine : RTUQuarantine) : Decidable quarantine.MayDrop :=
  inferInstanceAs (Decidable (_ ∧ _ ∧ _))

/-- One more frame is dropped. -/
def drop (quarantine : RTUQuarantine) : RTUQuarantine :=
  { quarantine with
    saw := false, frames := quarantine.frames + 1, total := quarantine.total + 1
    sequence := quarantine.sequence + 1 }

/-- Once its deadlines are over, the quarantine is released and does not end in recovery. -/
def Releasable (quarantine : RTUQuarantine) : Prop :=
  if quarantine.saw then quarantine.sequence + 2 ≤ maxUint64 ∧ quarantine.MayDrop
  else quarantine.sequence + 1 ≤ maxUint64

instance (quarantine : RTUQuarantine) : Decidable quarantine.Releasable :=
  inferInstanceAs (Decidable (if quarantine.saw = true then _ ∧ _ else _))

/-- What an operation does to a quarantine. -/
def advance (quarantine : RTUQuarantine) : RTUOperation → Outcome
  | .tick _ now => if quarantine.Lasts now then .stay (quarantine.read now) else .left
  | .feedByte _ now =>
    if quarantine.Lasts now then
      match checkedRTUOffsetAdd now quarantine.interFrame with
      | none => .left
      | some idle =>
        .stay { quarantine.read now with
                idle := if idle < quarantine.latency then quarantine.latency else idle
                saw := true }
    else .left
  | .endFrame _ _ now =>
    if quarantine.Lasts now then
      if quarantine.saw = false then .stay (quarantine.read now)
      else if quarantine.MayDrop ∧ quarantine.sequence + 1 ≤ maxUint64 then
        .stay (quarantine.read now).drop
      else .left
    else .left
  | .tryResynchronize now =>
    if quarantine.Lasts now then
      if now < quarantine.latency ∨ now < quarantine.idle then .stay (quarantine.read now)
      else if quarantine.Releasable then .released
      else .left
    else .left
  | .failQuiescence _ => .left
  | .close _ => .left
  | _ => .stay quarantine

/-- A call from inside a callback does nothing. -/
def call (quarantine : RTUQuarantine) (call : RTUCall) : Outcome :=
  if call.callback then .stay quarantine else quarantine.advance call.operation

/-- The calls release the quarantine. -/
def ReleasesWithin (quarantine : RTUQuarantine) : List RTUCall → Prop
  | [] => False
  | next :: rest =>
    match quarantine.call next with
    | .stay quarantine => quarantine.ReleasesWithin rest
    | .released => True
    | .left => False

/-- `later` is further than `earlier` in everything that delays a release. -/
structure Ahead (later earlier : RTUQuarantine) : Prop where
  interFrame : later.interFrame = earlier.interFrame
  latency : later.latency = earlier.latency
  quiescence : later.quiescence = earlier.quiescence
  maxFrames : later.maxFrames = earlier.maxFrames
  idle : earlier.idle ≤ later.idle
  clock : ∀ last ∈ earlier.clock, ∃ reading ∈ later.clock, last ≤ reading
  saw : earlier.saw = true → later.saw = true
  frames : earlier.frames ≤ later.frames
  total : earlier.total ≤ later.total
  sequence : earlier.sequence ≤ later.sequence

section Comparison

variable {later earlier : RTUQuarantine}

theorem Ahead.lasts (h : Ahead later earlier) {now : Duration} (hlasts : later.Lasts now) :
    earlier.Lasts now := by
  refine ⟨⟨hlasts.1.1, fun last hlast => ?_⟩, h.quiescence ▸ hlasts.2⟩
  rcases h.clock last hlast with ⟨reading, hreading, hle⟩
  exact Int.le_trans hle (hlasts.1.2 reading hreading)

theorem Ahead.mayDrop (h : Ahead later earlier) (hdrop : later.MayDrop) : earlier.MayDrop := by
  have hframes := UInt64.le_iff_toNat_le.mp h.frames
  have htotal := UInt64.le_iff_toNat_le.mp h.total
  have hmax := UInt64.lt_iff_toNat_lt.mp hdrop.2.2
  have hbound := later.total.toNat_lt
  have hbound' := later.frames.toNat_lt
  rw [h.maxFrames] at hmax
  refine ⟨?_, ?_, UInt64.lt_iff_toNat_lt.mpr (by omega)⟩
  · have hnot := hdrop.1
    unfold maxUint64 at *
    omega
  · have hnot := hdrop.2.1
    unfold maxUint64 at *
    omega

theorem Ahead.releasable (h : Ahead later earlier) (hreleasable : later.Releasable) :
    earlier.Releasable := by
  have hsequence := h.sequence
  unfold Releasable at *
  by_cases hsaw : earlier.saw = true
  · rw [if_pos (h.saw hsaw)] at hreleasable
    rw [if_pos hsaw]
    exact ⟨by omega, h.mayDrop hreleasable.2⟩
  · rw [if_neg hsaw]
    split at hreleasable <;> omega

theorem Ahead.read (h : Ahead later earlier) (now : Duration) :
    Ahead (later.read now) (earlier.read now) :=
  { h with clock := fun _ hlast => ⟨now, rfl, (Option.mem_some_iff.mp hlast).ge⟩ }

theorem Ahead.refl (quarantine : RTUQuarantine) : Ahead quarantine quarantine :=
  { interFrame := rfl, latency := rfl, quiescence := rfl, maxFrames := rfl
    idle := Int.le_refl _, clock := fun last hlast => ⟨last, hlast, Int.le_refl last⟩
    saw := id, frames := UInt64.le_refl _, total := UInt64.le_refl _, sequence := Nat.le_refl _ }

theorem toNat_add_one (count : UInt64) (h : count.toNat ≠ maxUint64) :
    (count + 1).toNat = count.toNat + 1 := by
  have hbound := count.toNat_lt
  unfold maxUint64 at h
  rw [UInt64.toNat_add, UInt64.toNat_one]
  omega

/-- Only `TryResynchronize` releases, and only when both deadlines are over. -/
theorem call_released (quarantine : RTUQuarantine) (next : RTUCall) :
    quarantine.call next = .released ↔ next.callback = false ∧
      ∃ now, next.operation = .tryResynchronize now ∧ quarantine.Lasts now ∧
        quarantine.latency ≤ now ∧ quarantine.idle ≤ now ∧ quarantine.Releasable := by
  unfold call
  by_cases hcallback : next.callback = true
  · simp [hcallback]
  · rw [if_neg hcallback]
    rw [Bool.not_eq_true] at hcallback
    constructor
    · intro hreleased
      cases hoperation : next.operation with
      | tryResynchronize now =>
        simp only [hoperation, advance] at hreleased
        split at hreleased
        · next hlasts =>
          split at hreleased
          · exact nomatch hreleased
          next hover =>
          rw [not_or, Int.not_lt, Int.not_lt] at hover
          split at hreleased
          · next hreleasable =>
            exact ⟨hcallback, now, rfl, hlasts, hover.1, hover.2, hreleasable⟩
          · exact nomatch hreleased
        · exact nomatch hreleased
      | _ =>
        simp only [hoperation, advance] at hreleased
        repeat' split at hreleased
        all_goals exact nomatch hreleased
    · rintro ⟨_, now, hoperation, hlasts, hlatency, hidle, hreleasable⟩
      have hover : ¬ (now < quarantine.latency ∨ now < quarantine.idle) := by
        rw [not_or, Int.not_lt, Int.not_lt]
        exact ⟨hlatency, hidle⟩
      simp only [hoperation, advance]
      rw [if_pos hlasts, if_neg hover, if_pos hreleasable]

theorem Ahead.released (h : Ahead later earlier) (next : RTUCall)
    (hlater : later.call next = .released) : earlier.call next = .released := by
  rw [call_released] at *
  rcases hlater with ⟨hcallback, now, hoperation, hlasts, hlatency, hidle, hreleasable⟩
  exact ⟨hcallback, now, hoperation, h.lasts hlasts, h.latency ▸ hlatency,
    Int.le_trans h.idle hidle, h.releasable hreleasable⟩

/-- Dropping a frame that the earlier quarantine does not have. -/
theorem Ahead.drop_later (h : Ahead later earlier) (hdrop : later.MayDrop)
    (hsaw : earlier.saw = false) : Ahead later.drop earlier := by
  have hframes := UInt64.le_iff_toNat_le.mp h.frames
  have htotal := UInt64.le_iff_toNat_le.mp h.total
  refine { h with saw := ?_, frames := ?_, total := ?_, sequence := Nat.le_succ_of_le h.sequence }
  · simp [hsaw]
  · rw [UInt64.le_iff_toNat_le, drop, toNat_add_one later.frames hdrop.2.1]
    omega
  · rw [UInt64.le_iff_toNat_le, drop, toNat_add_one later.total hdrop.1]
    omega

theorem Ahead.drop (h : Ahead later earlier) (hdrop : later.MayDrop) :
    Ahead later.drop earlier.drop := by
  have hframes := UInt64.le_iff_toNat_le.mp h.frames
  have htotal := UInt64.le_iff_toNat_le.mp h.total
  have hboth := h.mayDrop hdrop
  refine { h with saw := id, frames := ?_, total := ?_, sequence := Nat.succ_le_succ h.sequence }
  · rw [UInt64.le_iff_toNat_le, RTUQuarantine.drop, RTUQuarantine.drop,
      toNat_add_one later.frames hdrop.2.1, toNat_add_one earlier.frames hboth.2.1]
    omega
  · rw [UInt64.le_iff_toNat_le, RTUQuarantine.drop, RTUQuarantine.drop,
      toNat_add_one later.total hdrop.1, toNat_add_one earlier.total hboth.1]
    omega

/-- Where the later quarantine stays, the earlier one stays behind it or is released,
    unless the later one can never be released any more. -/
theorem Ahead.stay (h : Ahead later earlier) (next : RTUCall) (stayed : RTUQuarantine)
    (hlater : later.call next = .stay stayed) :
    earlier.call next = .released ∨ ¬ stayed.Releasable ∨
      ∃ behind, earlier.call next = .stay behind ∧ Ahead stayed behind := by
  unfold call at *
  split at hlater
  · next hcallback =>
    cases hlater
    exact Or.inr (Or.inr ⟨earlier, if_pos hcallback, h⟩)
  next hcallback =>
  rw [if_neg hcallback]
  -- Both read the same clock; only what the operation does with the reading differs.
  cases hoperation : next.operation with
  | tick cancelled now =>
    simp only [hoperation, advance] at hlater ⊢
    split at hlater
    · next hlasts =>
      cases hlater
      rw [if_pos (h.lasts hlasts)]
      exact Or.inr (Or.inr ⟨_, rfl, h.read now⟩)
    · exact nomatch hlater
  | feedByte value now =>
    simp only [hoperation, advance] at hlater ⊢
    split at hlater
    · next hlasts =>
      rw [if_pos (h.lasts hlasts), ← h.interFrame, ← h.latency]
      split at hlater
      · exact nomatch hlater
      · cases hlater
        exact Or.inr (Or.inr ⟨_, rfl,
          { h.read now with idle := Int.le_refl _, saw := fun _ => rfl }⟩)
    · exact nomatch hlater
  | endFrame expected cancelled now =>
    simp only [hoperation, advance] at hlater ⊢
    split at hlater
    · next hlasts =>
      rw [if_pos (h.lasts hlasts)]
      split at hlater
      · next hsaw =>
        have hsaw' : earlier.saw = false :=
          Bool.eq_false_iff.mpr fun htrue => by simp [h.saw htrue] at hsaw
        cases hlater
        rw [if_pos hsaw']
        exact Or.inr (Or.inr ⟨_, rfl, h.read now⟩)
      · split at hlater
        · next hdrop =>
          cases hlater
          have hroom : earlier.sequence + 1 ≤ maxUint64 :=
            Nat.le_trans (Nat.succ_le_succ h.sequence) hdrop.2
          -- A frame that the later one drops may be none for the earlier one, which saw no byte.
          by_cases hsaw : earlier.saw = false
          · rw [if_pos hsaw]
            exact Or.inr (Or.inr ⟨_, rfl, (h.read now).drop_later hdrop.1 hsaw⟩)
          · rw [if_neg hsaw, if_pos ⟨h.mayDrop hdrop.1, hroom⟩]
            exact Or.inr (Or.inr ⟨_, rfl, (h.read now).drop hdrop.1⟩)
        · exact nomatch hlater
    · exact nomatch hlater
  | tryResynchronize now =>
    simp only [hoperation, advance] at hlater ⊢
    split at hlater
    · next hlasts =>
      rw [if_pos (h.lasts hlasts)]
      split at hlater
      · cases hlater
        -- The later one waits. The earlier one may be through, if anything still releases it.
        split
        · exact Or.inr (Or.inr ⟨_, rfl, h.read now⟩)
        · split
          · exact Or.inl rfl
          · next hnever => exact Or.inr (Or.inl fun hlate => hnever (h.releasable hlate))
      · split at hlater <;> exact nomatch hlater
    · exact nomatch hlater
  | failQuiescence now | close now =>
    simp only [hoperation, advance] at hlater
    exact nomatch hlater
  | _ =>
    simp only [hoperation, advance] at hlater ⊢
    cases hlater
    exact Or.inr (Or.inr ⟨_, rfl, h⟩)

end Comparison

/-- The four ways in which a quarantine lasts. -/
inductive Lasting (quarantine : RTUQuarantine) (next : RTUCall) : RTUQuarantine → Prop
  | same : next.callback = true ∨ next.operation.fedAt = none →
      Lasting quarantine next quarantine
  | read (now : Duration) : quarantine.Lasts now → next.operation.fedAt = none →
      Lasting quarantine next (quarantine.read now)
  | fed (now idle : Duration) : next.callback = false → quarantine.Lasts now →
      next.operation.fedAt = some now → checkedRTUOffsetAdd now quarantine.interFrame = some idle →
      Lasting quarantine next { quarantine.read now with
        idle := if idle < quarantine.latency then quarantine.latency else idle, saw := true }
  | drop (now : Duration) : quarantine.Lasts now → next.operation.fedAt = none →
      quarantine.saw = true → quarantine.MayDrop →
      Lasting quarantine next (quarantine.read now).drop

theorem lasting_of_stay (quarantine stayed : RTUQuarantine) (next : RTUCall)
    (h : quarantine.call next = .stay stayed) : quarantine.Lasting next stayed := by
  unfold call at h
  split at h
  · next hcallback =>
    cases h
    exact .same (Or.inl hcallback)
  next hcallback =>
  rw [Bool.not_eq_true] at hcallback
  cases hoperation : next.operation with
  | tick cancelled now =>
    simp only [hoperation, advance] at h
    split at h <;> cases h
    exact .read now ‹_› (by rw [hoperation]; rfl)
  | feedByte value now =>
    simp only [hoperation, advance] at h
    split at h
    · split at h <;> cases h
      exact .fed now _ hcallback ‹_› (by rw [hoperation]; rfl) ‹_›
    · cases h
  | endFrame expected cancelled now =>
    simp only [hoperation, advance] at h
    split at h
    · split at h
      · cases h
        exact .read now ‹_› (by rw [hoperation]; rfl)
      next hsaw =>
      split at h <;> cases h
      next hdrop =>
        exact .drop now ‹_› (by rw [hoperation]; rfl) (Bool.not_eq_false _ ▸ hsaw) hdrop.1
    · cases h
  | tryResynchronize now =>
    simp only [hoperation, advance] at h
    split at h
    · split at h
      · cases h
        exact .read now ‹_› (by rw [hoperation]; rfl)
      · split at h <;> cases h
    · cases h
  | failQuiescence now | close now =>
    simp only [hoperation, advance] at h
    cases h
  -- Every other call leaves the quarantine as it is.
  | _ =>
    simp only [hoperation, advance] at h
    cases h
    exact .same (Or.inr (by rw [hoperation]; rfl))

/-- A quarantine that cannot be released stays so: no sequence number comes back and no
    dropped frame is forgotten. -/
theorem not_releasable_stay (quarantine stayed : RTUQuarantine)
    (h : ¬ quarantine.Releasable) (next : RTUCall) (hstay : quarantine.call next = .stay stayed) :
    ¬ stayed.Releasable := by
  cases lasting_of_stay quarantine stayed next hstay with
  | same _ => exact h
  | read now _ _ => exact h
  | fed now idle _ _ _ _ =>
    unfold Releasable at *
    simp only [read, if_true]
    split at h
    · exact h
    · omega
  | drop now _ _ hsaw hdrop =>
    unfold Releasable at *
    simp only [RTUQuarantine.drop, read, Bool.false_eq_true, if_false]
    rw [if_pos hsaw] at h
    have hroom : ¬ quarantine.sequence + 2 ≤ maxUint64 := fun hroom => h ⟨hroom, hdrop⟩
    omega

theorem not_releasesWithin (quarantine : RTUQuarantine) (h : ¬ quarantine.Releasable)
    (calls : List RTUCall) : ¬ quarantine.ReleasesWithin calls := by
  induction calls generalizing quarantine with
  | nil => exact id
  | cons next rest ih =>
    unfold ReleasesWithin
    split
    · next stayed hstay => exact ih stayed (not_releasable_stay quarantine stayed h next hstay)
    · next hreleased =>
      rw [call_released] at hreleased
      rcases hreleased with ⟨_, _, _, _, _, _, hreleasable⟩
      exact absurd hreleasable h
    · exact id

theorem Ahead.releases {later earlier : RTUQuarantine} (h : Ahead later earlier)
    (calls : List RTUCall) (hlater : later.ReleasesWithin calls) :
    earlier.ReleasesWithin calls := by
  induction calls generalizing later earlier with
  | nil => exact hlater
  | cons next rest ih =>
    unfold ReleasesWithin at hlater ⊢
    split at hlater
    · next stayed hstay =>
      rcases h.stay next stayed hstay with hreleased | hnever | ⟨behind, hbehind, hahead⟩
      · rw [hreleased]
        trivial
      · exact absurd hlater (not_releasesWithin stayed hnever rest)
      · rw [hbehind]
        exact ih hahead hlater
    · next hreleased =>
      rw [h.released next hreleased]
      trivial
    · exact hlater.elim

end RTUQuarantine

namespace RTUFixtureEndpoint

/-- The quarantine of an endpoint. -/
def quarantine (endpoint : RTUFixtureEndpoint) : RTUQuarantine :=
  { interFrame := endpoint.timing.interFrame
    latency := endpoint.latencyDeadline
    quiescence := endpoint.quiescenceDeadline
    idle := endpoint.idleDeadline
    clock := endpoint.timeline.clock
    saw := endpoint.quarantineSawBytes
    frames := endpoint.quarantineDiscarded
    total := endpoint.discardedFrames
    maxFrames := endpoint.maxDiscardedFrames
    sequence := endpoint.nextSequence }

/-- The endpoint did what the outcome says. -/
def Did (endpoint : RTUFixtureEndpoint) : RTUQuarantine.Outcome → Prop
  | .stay quarantine => endpoint.state = .quarantine ∧ endpoint.quarantine = quarantine
  | .released => endpoint.state = .idle
  | .left => endpoint.state ≠ .quarantine ∧ endpoint.state ≠ .idle

variable {endpoint : RTUFixtureEndpoint}

theorem reads_quarantine (now : Duration) :
    endpoint.quarantine.Reads now ↔ endpoint.Reads now := by
  unfold RTUQuarantine.Reads Reads
  by_cases hhave : endpoint.haveClock = true
  · simp [quarantine, timeline, hhave]
  · simp [quarantine, timeline, hhave]

theorem canEmitLocked_iff (count : Nat) (hfew : count ≤ 3) (hsome : 0 < count) :
    endpoint.canEmitLocked count = false ↔ ¬ endpoint.nextSequence + count ≤ maxUint64 := by
  rw [← Bool.not_eq_true, canEmitLocked_eq_true]
  unfold maxUint64
  omega

theorem eventsLocked_state (endpoint : RTUFixtureEndpoint) (calls : List RTUEventCall) :
    (endpoint.eventsLocked calls).2.state = endpoint.state ∨
      (endpoint.eventsLocked calls).2.state = .recoveryRequired := by
  induction calls generalizing endpoint with
  | nil => exact Or.inl rfl
  | cons call rest ih =>
    simp only [eventsLocked, eventLocked]
    split
    · exact Or.inr (or_self_iff.mp (ih _))
    · exact ih _

theorem did_left_events (h : endpoint.state = .recoveryRequired ∨ endpoint.state = .closed)
    (calls : List RTUEventCall) : (endpoint.eventsLocked calls).2.Did .left := by
  rcases eventsLocked_state endpoint calls with hstate | hstate
  · rcases h with h | h <;> simp [Did, hstate, h]
  · simp [Did, hstate]

/-- An operation that reads the clock and then sees whether the quarantine lasted too
    long. -/
theorem did_clock (now : Duration) (f : RTUFixtureEndpoint → RTUReply × RTUFixtureEndpoint)
    (outcome : RTUQuarantine.Outcome)
    (hover : ¬ now ≤ endpoint.quiescenceDeadline → (f (endpoint.readClock now)).2.Did .left)
    (hlasts : now ≤ endpoint.quiescenceDeadline → (f (endpoint.readClock now)).2.Did outcome) :
    (match endpoint.nowLocked now with
      | .error failed => (.fail .state, failed)
      | .ok endpoint => f endpoint : RTUReply × RTUFixtureEndpoint).2.Did
        (if endpoint.quarantine.Lasts now then outcome else .left) := by
  by_cases hreads : endpoint.Reads now
  · rw [nowLocked_of_reads _ _ hreads]
    by_cases hquiescence : now ≤ endpoint.quiescenceDeadline
    · rw [if_pos ⟨(reads_quarantine now).mpr hreads, hquiescence⟩]
      exact hlasts hquiescence
    · rw [if_neg fun hlast => hquiescence hlast.2]
      exact hover hquiescence
  · rw [nowLocked_of_not_reads _ _ hreads, if_neg fun hlast =>
      hreads ((reads_quarantine now).mp hlast.1)]
    simp [Did, regress, requireRecoveryLocked]

theorem quiescenceTimeout_did (sawBytes : Bool) :
    (endpoint.quiescenceTimeout sawBytes).2.Did .left := by
  unfold quiescenceTimeout
  split
  · simp [Did, requireRecoveryLocked]
  · exact did_left_events (Or.inl rfl) _

section Steps

variable (hstate : endpoint.state = .quarantine)
include hstate

theorem tick_did (cancelled : Bool) (now : Duration) :
    (endpoint.tick cancelled now).2.Did (endpoint.quarantine.advance (.tick cancelled now)) := by
  refine did_clock now _ _ (fun hover => ?_) (fun hlasts => ?_)
  · rw [if_pos (show (endpoint.readClock now).state = .quarantine from hstate),
      if_neg (show ¬ now ≤ (endpoint.readClock now).quiescenceDeadline from hover)]
    exact quiescenceTimeout_did _
  · rw [if_pos (show (endpoint.readClock now).state = .quarantine from hstate),
      if_pos (show now ≤ (endpoint.readClock now).quiescenceDeadline from hlasts)]
    exact ⟨hstate, rfl⟩

theorem feedByte_did (value : UInt8) (now : Duration) :
    (endpoint.feedByte value now).2.Did (endpoint.quarantine.advance (.feedByte value now)) := by
  refine did_clock now _ _ (fun hover => ?_) (fun hlasts => ?_)
  · rw [if_pos ⟨hstate, Int.not_le.mp hover⟩]
    exact quiescenceTimeout_did _
  · rw [if_neg fun hover => Int.not_le.mpr hover.2 hlasts]
    unfold feedByteLocked
    simp only [show (endpoint.readClock now).state = .quarantine from hstate]
    cases hidle : checkedRTUOffsetAdd now endpoint.timing.interFrame with
    | none =>
      simp only [show checkedRTUOffsetAdd now (endpoint.readClock now).timing.interFrame = none
        from hidle, show checkedRTUOffsetAdd now endpoint.quarantine.interFrame = none from hidle]
      simp [Did, requireRecoveryLocked]
    | some idle =>
      simp only [show checkedRTUOffsetAdd now (endpoint.readClock now).timing.interFrame =
        some idle from hidle, show checkedRTUOffsetAdd now endpoint.quarantine.interFrame =
        some idle from hidle]
      exact ⟨rfl, rfl⟩

theorem discardQuarantineFrameLocked_did (hsaw : endpoint.quarantineSawBytes = false) :
    endpoint.discardQuarantineFrameLocked.2.Did
      (if endpoint.quarantine.MayDrop ∧ endpoint.quarantine.sequence + 1 ≤ maxUint64 then
        .stay endpoint.quarantine.drop else .left) := by
  unfold discardQuarantineFrameLocked
  split
  · next hlast =>
    rw [if_neg fun hdrop => hlast.elim hdrop.1.1 hdrop.1.2.1]
    simp [Did, requireRecoveryLocked]
  next hlast =>
  rw [not_or] at hlast
  by_cases hmany : endpoint.quarantineDiscarded ≥ endpoint.maxDiscardedFrames
  · simp only [hmany, decide_true, if_true]
    rw [if_neg (c := _ ∧ _) fun hdrop => UInt64.not_le.mpr hdrop.1.2.2 hmany]
    split
    · simp [Did, requireRecoveryLocked]
    · exact did_left_events (Or.inl rfl) _
  · simp only [hmany, decide_false, Bool.false_eq_true, if_false]
    by_cases hroom : endpoint.nextSequence + 1 ≤ maxUint64
    · rw [if_neg fun hfull => (canEmitLocked_iff 1 (by decide) (by decide)).mp hfull hroom,
        if_pos ⟨⟨hlast.1, hlast.2, UInt64.not_le.mp hmany⟩, hroom⟩, eventsLocked_of_room]
      · refine ⟨hstate, ?_⟩
        simp [quarantine, RTUQuarantine.drop, hsaw, timeline]
      · exact hroom
    · rw [if_pos ((canEmitLocked_iff 1 (by decide) (by decide)).mpr hroom),
        if_neg fun hdrop => hroom hdrop.2]
      simp [Did, requireRecoveryLocked]

theorem endFrame_did (expected : RequestKind) (cancelled : Bool) (now : Duration) :
    (endpoint.endFrame expected cancelled now).2.Did
      (endpoint.quarantine.advance (.endFrame expected cancelled now)) := by
  refine did_clock now _ _ (fun hover => ?_) (fun hlasts => ?_)
  · rw [if_pos ⟨hstate, Int.not_le.mp hover⟩]
    exact quiescenceTimeout_did _
  · rw [if_neg fun hover => Int.not_le.mpr hover.2 hlasts]
    simp only [show (endpoint.readClock now).state = .quarantine from hstate]
    by_cases hsaw : endpoint.quarantineSawBytes = false
    · rw [if_pos (show (endpoint.readClock now).quarantineSawBytes = false from hsaw),
        if_pos (show endpoint.quarantine.saw = false from hsaw)]
      exact ⟨hstate, rfl⟩
    · rw [if_neg (show ¬ (endpoint.readClock now).quarantineSawBytes = false from hsaw),
        if_neg (show ¬ endpoint.quarantine.saw = false from hsaw)]
      exact discardQuarantineFrameLocked_did rfl rfl

omit hstate in
/-- With a number for its event, a release makes the endpoint idle. -/
theorem release_did (events : List RTUEvent) (hroom : endpoint.nextSequence + 1 ≤ maxUint64) :
    (endpoint.release events).2.Did .released := by
  unfold release
  rw [eventsLocked_of_room]
  · rfl
  · exact hroom

omit hstate in
theorem releaseQuarantine_did (endpoint : RTUFixtureEndpoint) :
    endpoint.releaseQuarantine.2.Did
      (if endpoint.quarantine.Releasable then .released else .left) := by
  unfold releaseQuarantine RTUQuarantine.Releasable
  -- After bytes a release counts one more discarded frame and needs two numbers, not one.
  by_cases hsaw : endpoint.quarantineSawBytes = true
  · simp only [if_pos hsaw, if_pos (show endpoint.quarantine.saw = true from hsaw)]
    by_cases hroom : endpoint.nextSequence + 2 ≤ maxUint64
    · rw [if_neg fun hfull => (canEmitLocked_iff 2 (by decide) (by decide)).mp hfull hroom]
      split
      · next hlast =>
        rw [if_neg fun hreleasable => hlast.elim hreleasable.2.1 hreleasable.2.2.1]
        exact did_left_events (Or.inl rfl) _
      next hlast =>
      rw [not_or] at hlast
      have hcount := RTUQuarantine.toNat_add_one endpoint.quarantineDiscarded hlast.2
      split
      · next hmany =>
        rw [eventsLocked_of_room _ _ (Nat.le_of_succ_le hroom), gt_iff_lt,
          UInt64.lt_iff_toNat_lt, hcount] at hmany
        rw [if_neg]
        · exact did_left_events (Or.inl rfl) _
        · intro hreleasable
          have hfew : endpoint.quarantineDiscarded.toNat <
              endpoint.maxDiscardedFrames.toNat := UInt64.lt_iff_toNat_lt.mp hreleasable.2.2.2
          omega
      · next hmany =>
        rw [eventsLocked_of_room _ _ (Nat.le_of_succ_le hroom), gt_iff_lt,
          UInt64.lt_iff_toNat_lt, hcount] at hmany
        have hfew : endpoint.quarantineDiscarded.toNat <
            endpoint.maxDiscardedFrames.toNat := by omega
        rw [if_pos ⟨hroom, hlast.1, hlast.2, UInt64.lt_iff_toNat_lt.mpr hfew⟩]
        refine release_did _ ?_
        rw [eventsLocked_of_room _ _ (Nat.le_of_succ_le hroom)]
        exact hroom
    · rw [if_pos ((canEmitLocked_iff 2 (by decide) (by decide)).mpr hroom),
        if_neg fun hreleasable => hroom hreleasable.1]
      simp [Did, requireRecoveryLocked]
  · simp only [if_neg hsaw, if_neg (show ¬ endpoint.quarantine.saw = true from hsaw)]
    by_cases hroom : endpoint.nextSequence + 1 ≤ maxUint64
    · rw [if_neg fun hfull => (canEmitLocked_iff 1 (by decide) (by decide)).mp hfull hroom,
        if_pos (show endpoint.quarantine.sequence + 1 ≤ maxUint64 from hroom)]
      exact release_did [] hroom
    · rw [if_pos ((canEmitLocked_iff 1 (by decide) (by decide)).mpr hroom),
        if_neg (show ¬ endpoint.quarantine.sequence + 1 ≤ maxUint64 from hroom)]
      simp [Did, requireRecoveryLocked]

theorem tryResynchronize_did (now : Duration) :
    (endpoint.tryResynchronize now).2.Did
      (endpoint.quarantine.advance (.tryResynchronize now)) := by
  refine did_clock now _ _ (fun hover => ?_) (fun hlasts => ?_)
  · simp only [show (endpoint.readClock now).state = .quarantine from hstate]
    have hlate : now > (endpoint.readClock now).quiescenceDeadline := Int.not_le.mp hover
    rw [if_pos hlate]
    split
    · simp [Did, requireRecoveryLocked]
    · exact did_left_events (Or.inl rfl) _
  · simp only [show (endpoint.readClock now).state = .quarantine from hstate]
    have hlate : ¬ now > (endpoint.readClock now).quiescenceDeadline := Int.not_lt.mpr hlasts
    rw [if_neg hlate]
    split
    · next hearly =>
      rw [if_pos (show now < endpoint.quarantine.latency ∨ now < endpoint.quarantine.idle
        from hearly)]
      exact ⟨hstate, rfl⟩
    · next hover =>
      rw [if_neg (show ¬ (now < endpoint.quarantine.latency ∨ now < endpoint.quarantine.idle)
        from hover)]
      exact (endpoint.readClock now).releaseQuarantine_did

theorem failQuiescence_did (now : Duration) : (endpoint.failQuiescence now).2.Did .left := by
  unfold failQuiescence
  rw [if_neg (not_not_intro hstate)]
  by_cases hreads : endpoint.Reads now
  · rw [nowLocked_of_reads _ _ hreads]
    dsimp only
    split
    · simp [Did, requireRecoveryLocked]
    · exact did_left_events (Or.inl rfl) _
  · rw [nowLocked_of_not_reads _ _ hreads]
    simp [Did, regress, requireRecoveryLocked]

theorem close_did (now : Duration) : (endpoint.close now).2.Did .left := by
  unfold close
  rw [if_neg (by simp [hstate])]
  by_cases hreads : endpoint.Reads now
  · rw [nowLocked_of_reads _ _ hreads]
    dsimp only
    split
    · simp [Did]
    · exact did_left_events (Or.inr rfl) _
  · rw [nowLocked_of_not_reads _ _ hreads]
    simp [Did]

theorem beginRequest_did (kind : RTUEventKind) (cancelled : Bool)
    (encoded : Except ProtocolError (List UInt8)) (planned : Option ProtocolError)
    (function : FunctionCode) (plan : RTUReadPlan) (deviceID : Option DeviceIDRequest)
    (now : Duration) :
    (endpoint.beginRequest kind cancelled encoded planned function plan deviceID now).2.Did
      (.stay endpoint.quarantine) := by
  unfold beginRequest
  split
  · exact ⟨hstate, rfl⟩
  split
  · exact ⟨hstate, rfl⟩
  split
  · exact ⟨hstate, rfl⟩
  · rw [if_pos (by simp [hstate])]
    exact ⟨hstate, rfl⟩

theorem step_quarantine (call : RTUCall) :
    (endpoint.step call).2.Did (endpoint.quarantine.call call) := by
  unfold step RTUQuarantine.call
  split
  · exact ⟨hstate, rfl⟩
  cases call.operation with
  | beginRead cancelled plan now | beginDeviceID cancelled plan now =>
    exact beginRequest_did hstate _ _ _ _ _ _ _ _
  | completeTransmit handle result cancelled now =>
    simp only [perform, completeTransmit, RTUQuarantine.advance]
    split
    · exact ⟨hstate, rfl⟩
    · rw [if_pos (by simp [hstate])]
      exact ⟨hstate, rfl⟩
  | tick cancelled now => exact tick_did hstate cancelled now
  | abandon handle reason now =>
    simp only [perform, abandon, RTUQuarantine.advance]
    split
    · exact ⟨hstate, rfl⟩
    · rw [if_pos (by simp [hstate])]
      exact ⟨hstate, rfl⟩
  | feedByte value now => exact feedByte_did hstate value now
  | endFrame expected cancelled now => exact endFrame_did hstate expected cancelled now
  | tryResynchronize now => exact tryResynchronize_did hstate now
  | failQuiescence now => exact failQuiescence_did hstate now
  | recover now =>
    simp only [perform, recover, RTUQuarantine.advance]
    rw [if_pos (by simp [hstate])]
    exact ⟨hstate, rfl⟩
  | close now => exact close_did hstate now

end Steps

/-- The calls release the endpoint from the quarantine it is in. -/
def ReleasesWithin (endpoint : RTUFixtureEndpoint) : List RTUCall → Prop
  | [] => False
  | call :: rest =>
    endpoint.state = .quarantine ∧
      ((endpoint.step call).2.state = .idle ∨ (endpoint.step call).2.ReleasesWithin rest)

instance decidableReleasesWithin : (endpoint : RTUFixtureEndpoint) → (calls : List RTUCall) →
    Decidable (endpoint.ReleasesWithin calls)
  | _, [] => .isFalse fun h => h
  | endpoint, call :: rest =>
    have := decidableReleasesWithin (endpoint.step call).2 rest
    inferInstanceAs (Decidable (endpoint.state = .quarantine ∧
      ((endpoint.step call).2.state = .idle ∨ (endpoint.step call).2.ReleasesWithin rest)))

/-- The endpoint is in quarantine before, between and after the calls. -/
def Quarantined (endpoint : RTUFixtureEndpoint) : List RTUCall → Prop
  | [] => endpoint.state = .quarantine
  | call :: rest => endpoint.state = .quarantine ∧ (endpoint.step call).2.Quarantined rest

theorem quarantined_state (calls : List RTUCall) (h : endpoint.Quarantined calls) :
    endpoint.state = .quarantine := by
  cases calls with
  | nil => exact h
  | cons call rest => exact h.1

theorem releasesWithin_state (calls : List RTUCall) (h : endpoint.ReleasesWithin calls) :
    endpoint.state = .quarantine := by
  cases calls with
  | nil => exact h.elim
  | cons call rest => exact h.1

theorem releasesWithin_iff (hstate : endpoint.state = .quarantine) (calls : List RTUCall) :
    endpoint.ReleasesWithin calls ↔ endpoint.quarantine.ReleasesWithin calls := by
  induction calls generalizing endpoint with
  | nil => exact Iff.rfl
  | cons call rest ih =>
    have hstep := step_quarantine hstate call
    simp only [ReleasesWithin, RTUQuarantine.ReleasesWithin, hstate, true_and]
    cases hcall : endpoint.quarantine.call call with
    | stay stayed =>
      rw [hcall] at hstep
      rw [ih hstep.1, hstep.1, hstep.2]
      simp
    | released =>
      rw [hcall] at hstep
      exact iff_of_true (Or.inl hstep) trivial
    | left =>
      rw [hcall] at hstep
      simp only [hstep.2, false_or, iff_false]
      exact fun hreleases => hstep.1 (releasesWithin_state rest hreleases)

variable {timing : RTUTiming}

theorem lasting_of_quarantined (hstate : endpoint.state = .quarantine) (call : RTUCall)
    (hafter : (endpoint.step call).2.state = .quarantine) :
    endpoint.quarantine.Lasting call (endpoint.step call).2.quarantine := by
  have hstep := step_quarantine hstate call
  cases hcall : endpoint.quarantine.call call with
  | stay stayed =>
    rw [hcall] at hstep
    rw [hstep.2]
    exact RTUQuarantine.lasting_of_stay _ _ call hcall
  | released =>
    rw [hcall] at hstep
    exact absurd (hafter.symm.trans hstep) (by decide)
  | left =>
    rw [hcall] at hstep
    exact absurd hafter hstep.1

/-- A patient byte moves the idle deadline to an interval after itself, which is not
    earlier than where it was. -/
theorem idle_le_of_fed (h : endpoint.Horizon timing) (hstate : endpoint.state = .quarantine)
    (now idle : Duration) (hreads : endpoint.Reads now)
    (hpatient : endpoint.latencyDeadline ≤ now)
    (hidle : checkedRTUOffsetAdd now endpoint.timing.interFrame = some idle) :
    endpoint.idleDeadline ≤ idle ∧ idle = now + timing.interFrame ∧
      ¬ idle < endpoint.latencyDeadline := by
  rw [checkedRTUOffsetAdd_eq_some] at hidle
  have hinterFrame : endpoint.timing.interFrame = timing.interFrame := h.ordered.interFrame
  have hsilent := h.ordered.silent
  rcases h.settled hstate with ⟨_, _, last, hlast, hbounded⟩
  have hclock : last ≤ now := ((reads_quarantine now).mpr hreads).2 last hlast
  change endpoint.idleDeadline ≤ endpoint.latencyDeadline + endpoint.timing.interFrame ∨
    endpoint.idleDeadline ≤ last + endpoint.timing.interFrame at hbounded
  unfold Duration at *
  omega

/-- While a quarantine lasts, its idle deadline does not go back, and a byte moves it to
    an interval after itself. -/
theorem idle_le_of_step (h : endpoint.Horizon timing) (call : RTUCall)
    (hpatient : endpoint.Patient call) (hstate : endpoint.state = .quarantine)
    (hafter : (endpoint.step call).2.state = .quarantine) :
    endpoint.idleDeadline ≤ (endpoint.step call).2.idleDeadline ∧
      (call.callback = false → ∀ fed ∈ call.operation.fedAt,
        fed + timing.interFrame ≤ (endpoint.step call).2.idleDeadline) := by
  have hlasting := lasting_of_quarantined hstate call hafter
  change _ ≤ (endpoint.step call).2.quarantine.idle ∧
    (_ → ∀ fed ∈ call.operation.fedAt, _ ≤ (endpoint.step call).2.quarantine.idle)
  generalize (endpoint.step call).2.quarantine = stayed at hlasting ⊢
  cases hlasting with
  | same hsame =>
    refine ⟨Int.le_refl _, fun hcallback fed hfed => ?_⟩
    rcases hsame with hcallback' | hnone
    · simp [hcallback] at hcallback'
    · simp [hnone] at hfed
  | read now _ hnone | drop now _ hnone _ _ =>
    exact ⟨Int.le_refl _, fun _ fed hfed => by simp [hnone] at hfed⟩
  | fed now idle hcallback hlasts hfed hidle =>
    have hreads := (reads_quarantine now).mp hlasts.1
    rcases idle_le_of_fed h hstate now idle hreads (hpatient hstate hcallback now hfed hreads)
      hidle with ⟨hle, heq, hlate⟩
    have hlate' : ¬ idle < endpoint.quarantine.latency := hlate
    rw [if_neg hlate']
    refine ⟨hle, fun _ fed hfed' => ?_⟩
    rw [hfed, Option.mem_some_iff] at hfed'
    rw [heq, hfed']

theorem idle_le_of_quarantined (hconsistent : endpoint.Consistent) (h : endpoint.Horizon timing)
    (calls : List RTUCall) (hpatient : endpoint.PatientRun calls)
    (hquarantined : endpoint.Quarantined calls) :
    endpoint.idleDeadline ≤ (endpoint.run calls).2.idleDeadline := by
  induction calls generalizing endpoint with
  | nil => exact Int.le_refl _
  | cons call rest ih =>
    have hafter := quarantined_state rest hquarantined.2
    exact Int.le_trans (idle_le_of_step h call hpatient.1 hquarantined.1 hafter).1
      (ih (step_follows hconsistent call).consistent (step_horizon hconsistent h call hpatient.1)
        hpatient.2 hquarantined.2)

/-- A patient byte leaves the quarantine ahead of where it was. -/
theorem ahead_of_fed (h : endpoint.Horizon timing) (call : RTUCall)
    (hpatient : endpoint.Patient call) (hstate : endpoint.state = .quarantine)
    (hfed : call.operation.fedAt.isSome = true)
    (hafter : (endpoint.step call).2.state = .quarantine) :
    RTUQuarantine.Ahead (endpoint.step call).2.quarantine endpoint.quarantine := by
  have hlasting := lasting_of_quarantined hstate call hafter
  have hidle : endpoint.quarantine.idle ≤ (endpoint.step call).2.quarantine.idle :=
    (idle_le_of_step h call hpatient hstate hafter).1
  generalize (endpoint.step call).2.quarantine = stayed at hlasting hidle ⊢
  cases hlasting with
  | same _ => exact .refl endpoint.quarantine
  | read now _ hnone | drop now _ hnone _ _ => simp [hnone] at hfed
  | fed now idle _ hlasts _ _ =>
    exact { RTUQuarantine.Ahead.refl endpoint.quarantine with
      idle := hidle, saw := fun _ => rfl
      clock := fun last hlast => ⟨now, rfl, hlasts.1.2 last hlast⟩ }

theorem idle_le_of_release (hstate : endpoint.state = .quarantine) (now : Duration)
    (call : RTUCall) (hcall : call.operation = .tryResynchronize now)
    (hafter : (endpoint.step call).2.state = .idle) : endpoint.idleDeadline ≤ now := by
  have hstep := step_quarantine hstate call
  cases hquarantine : endpoint.quarantine.call call with
  | stay stayed =>
    rw [hquarantine] at hstep
    exact absurd (hafter.symm.trans hstep.1) (by decide)
  | released =>
    rw [RTUQuarantine.call_released] at hquarantine
    rcases hquarantine with ⟨_, now', hoperation, _, _, hidle, _⟩
    rw [hcall] at hoperation
    cases hoperation
    exact hidle
  | left =>
    rw [hquarantine] at hstep
    exact absurd hafter hstep.2

/-- In a run that feeds no byte before the latency deadline of a quarantine, a release
    comes after the horizon and an inter-frame interval, and an interval after every byte
    that was fed in the quarantine. A byte never makes it come earlier. -/
theorem quarantine_release_horizon (id : Nat) (config : RTUFixtureEndpointConfig)
    (hnew : newRTUFixtureEndpoint id config = .ok endpoint) (calls : List RTUCall)
    (call : RTUCall) (hpatient : endpoint.PatientRun (calls ++ [call]))
    (hstate : (endpoint.run calls).2.state = .quarantine) :
    (∀ now, call.operation = .tryResynchronize now →
      ((endpoint.run calls).2.step call).2.state = .idle →
        (endpoint.run calls).2.quarantineAnchor + config.timing.maxResponseLatency +
            config.timing.interFrame ≤ now ∧
          ∀ before feed since, calls = before ++ feed :: since →
            (endpoint.run before).2.Quarantined (feed :: since) → feed.callback = false →
              ∀ fed ∈ feed.operation.fedAt, fed + config.timing.interFrame ≤ now) ∧
      (call.operation.fedAt.isSome = true → ∀ later,
        ((endpoint.run calls).2.step call).2.ReleasesWithin later →
          (endpoint.run calls).2.ReleasesWithin later) := by
  rw [patientRun_append] at hpatient
  rcases newRTUFixtureEndpoint_follows id config hnew with ⟨_, hconsistent, hhorizon⟩
  have hstart := (run_horizon hconsistent hhorizon calls hpatient.1).2
  refine ⟨fun now hcall hafter => ?_, fun hfed later hreleases => ?_⟩
  · have hidle := idle_le_of_release hstate now call hcall hafter
    constructor
    · calc (endpoint.run calls).2.quarantineAnchor + config.timing.maxResponseLatency +
          config.timing.interFrame
        _ = (endpoint.run calls).2.latencyDeadline + (endpoint.run calls).2.timing.interFrame := by
          rw [← hstart.ordered.interFrame, ← hstart.ordered.latency]
          exact congrArg (· + _) (hstart.settled hstate).latency.symm
        _ ≤ (endpoint.run calls).2.idleDeadline := (hstart.settled hstate).idle
        _ ≤ now := hidle
    · intro before feed since hcalls hquarantined hcallback fed hfed
      subst hcalls
      rw [patientRun_append] at hpatient
      rcases run_horizon hconsistent hhorizon before hpatient.1.1 with ⟨howned, hfeed⟩
      have hlasts := quarantined_state since hquarantined.2
      rw [run_append] at hidle
      calc fed + config.timing.interFrame
        _ ≤ ((endpoint.run before).2.step feed).2.idleDeadline :=
          (idle_le_of_step hfeed feed hpatient.1.2.1 hquarantined.1 hlasts).2 hcallback fed hfed
        _ ≤ (((endpoint.run before).2.step feed).2.run since).2.idleDeadline :=
          idle_le_of_quarantined (step_follows howned feed).consistent
            (step_horizon howned hfeed feed hpatient.1.2.1) since hpatient.1.2.2 hquarantined.2
        _ ≤ now := hidle
  · have hafter := releasesWithin_state later hreleases
    rw [releasesWithin_iff hafter] at hreleases
    rw [releasesWithin_iff hstate]
    exact (ahead_of_fed hstart call hpatient.2.1 hstate hfed hafter).releases later hreleases

/-- A read that is given up while it waits for its response. -/
def abandonedRead : List RTUCall :=
  [{ operation := .beginRead false fixturePlan 1000 },
   { operation := .completeTransmit { endpoint := some 0, requestID := 1, generation := 1 }
      .complete false 2000 },
   { operation := .tick true 2500 }]

/-- A byte in the quarantine after it. -/
def abandonedByte (now : Duration) : RTUCall := { operation := .feedByte 1 now }

theorem quarantine_release_horizon_fed :
    ∃ endpoint start, newRTUFixtureEndpoint 0 fixtureConfig = .ok endpoint ∧
      start = (endpoint.run (abandonedRead ++ [abandonedByte 10002001])).2 ∧
      start.state = .quarantine ∧
      (start.step { operation := .tryResynchronize 12007210 }).2.state = .idle ∧
      start.quarantineAnchor + fixtureTiming.maxResponseLatency + fixtureTiming.interFrame ≤
        12007210 := by
  refine ⟨_, _, rfl, rfl, by decide +kernel, by decide +kernel, ?_⟩
  exact ((quarantine_release_horizon 0 fixtureConfig rfl
    (abandonedRead ++ [abandonedByte 10002001]) { operation := .tryResynchronize 12007210 }
    (by decide +kernel) (by decide +kernel)).1 12007210 rfl (by decide +kernel)).1

/-- A byte right after the quarantine began takes the interval at its end away: the endpoint
    is released at its latency deadline, where it stays in quarantine without the byte. -/
theorem quarantine_byte_shortens :
    newRTUTiming fixtureFormat = .ok fixtureTiming ∧
    ∃ endpoint start, newRTUFixtureEndpoint 0 fixtureConfig = .ok endpoint ∧
      start = (endpoint.run abandonedRead).2 ∧ start.state = .quarantine ∧
      let fed := (start.step (abandonedByte 3000)).2
      let release : RTUCall := { operation := .tryResynchronize 10002000 }
      fed.state = .quarantine ∧ (fed.step release).2.state = .idle ∧
        10002000 < fed.quarantineAnchor + fixtureTiming.maxResponseLatency +
          fixtureTiming.interFrame ∧
        fed.ReleasesWithin [release] ∧ ¬ start.ReleasesWithin [release] :=
  ⟨by decide +kernel, _, _, rfl, rfl, by decide +kernel, by decide +kernel⟩

end RTUFixtureEndpoint

end HelianthusModbus
