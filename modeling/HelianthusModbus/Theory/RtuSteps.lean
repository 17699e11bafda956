import HelianthusModbus.Core.RtuReceive

/-!
# Clock Readings and Events of an RTU Endpoint

Two things happen in nearly every operation of the fixture endpoint: it reads the clock,
and it builds events. This module says once what each of them does.

A reading is accepted if it is neither negative nor before the last one; it then changes
the last reading and nothing else. Otherwise the endpoint needs recovery and has no
request any more, whatever state it was in. Events are numbered in the order in which
they are built. Every operation asks first whether there is room for all of them, so
running out of numbers in the middle never happens.

## Main definitions

* `RTUFixtureEndpoint.Reads`: The clock readings an endpoint accepts.
* `RTUFixtureEndpoint.readClock`, `RTUFixtureEndpoint.regress`: The two outcomes.
* `RTUFixtureEndpoint.numbered`: Events from a given sequence number on.

## Theorems

* `nowLocked_of_reads`, `nowLocked_of_not_reads`: What reading the clock does.
-/

namespace HelianthusModbus

namespace RTUFixtureEndpoint

/-- The readings that are neither negative nor before the last one. -/
def Reads (endpoint : RTUFixtureEndpoint) (now : Duration) : Prop :=
  0 ≤ now ∧ (endpoint.haveClock = true → endpoint.lastClock ≤ now)

instance (endpoint : RTUFixtureEndpoint) (now : Duration) : Decidable (endpoint.Reads now) :=
  inferInstanceAs (Decidable (_ ∧ _))

/-- The endpoint after an accepted reading. -/
def readClock (endpoint : RTUFixtureEndpoint) (now : Duration) : RTUFixtureEndpoint :=
  { endpoint with lastClock := now, haveClock := true }

/-- The endpoint after a reading that is not accepted. -/
def regress (endpoint : RTUFixtureEndpoint) : RTUFixtureEndpoint :=
  { endpoint.requireRecoveryLocked "clock_regression" with current := none, quarantined := none }

theorem nowLocked_of_reads (endpoint : RTUFixtureEndpoint) (now : Duration)
    (h : endpoint.Reads now) : endpoint.nowLocked now = .ok (endpoint.readClock now) := by
  unfold nowLocked readClock
  rw [if_neg]
  rintro (hneg | ⟨hhave, hback⟩)
  · exact absurd h.1 (Int.not_le.mpr hneg)
  · exact absurd (h.2 hhave) (Int.not_le.mpr hback)

theorem nowLocked_of_not_reads (endpoint : RTUFixtureEndpoint) (now : Duration)
    (h : ¬ endpoint.Reads now) : endpoint.nowLocked now = .error endpoint.regress := by
  unfold nowLocked regress
  rw [if_pos]
  by_contra hread
  rw [not_or] at hread
  exact h ⟨Int.not_lt.mp hread.1, fun hhave => Int.not_lt.mp fun hback => hread.2 ⟨hhave, hback⟩⟩

@[simp] theorem canEmitLocked_eq_true (endpoint : RTUFixtureEndpoint) (count : Nat) :
    endpoint.canEmitLocked count = true ↔
      0 < count ∧ endpoint.nextSequence ≤ maxUint64 - count := by
  simp only [canEmitLocked, decide_eq_true_eq, gt_iff_lt]

/-- Room for a few events means numbers for all of them. -/
theorem room_of_canEmitLocked (endpoint : RTUFixtureEndpoint) (count : Nat) (hfew : count ≤ 3)
    (h : ¬ endpoint.canEmitLocked count = false) : endpoint.nextSequence + count ≤ maxUint64 := by
  rw [Bool.not_eq_false, canEmitLocked_eq_true] at h
  unfold maxUint64 at *
  omega

/-- The events of `calls`, numbered from `sequence + 1` on. -/
def numbered (endpoint : RTUFixtureEndpoint) : Nat → List RTUEventCall → List RTUEvent
  | _, [] => []
  | sequence, call :: rest =>
    endpoint.eventAt (sequence + 1) call :: endpoint.numbered (sequence + 1) rest

/-- Where there is room for all events, each gets the next number and nothing else
    changes. -/
theorem eventsLocked_of_room (endpoint : RTUFixtureEndpoint) (calls : List RTUEventCall)
    (hroom : endpoint.nextSequence + calls.length ≤ maxUint64) :
    endpoint.eventsLocked calls =
      (endpoint.numbered endpoint.nextSequence calls,
        { endpoint with nextSequence := endpoint.nextSequence + calls.length }) := by
  suffices h : ∀ sequence, sequence + calls.length ≤ maxUint64 →
      { endpoint with nextSequence := sequence }.eventsLocked calls =
        (endpoint.numbered sequence calls,
          { endpoint with nextSequence := sequence + calls.length }) from h _ hroom
  clear hroom
  induction calls with
  | nil => exact fun sequence _ => rfl
  | cons call rest ih =>
    intro sequence hroom
    rw [List.length_cons] at hroom
    -- The number is not the last one, since the events after it have one too.
    have hlast : sequence ≠ maxUint64 := by omega
    have hmore := ih (sequence + 1) (by omega)
    simp only [eventsLocked, eventLocked, if_neg hlast]
    rw [hmore, List.length_cons, Nat.add_assoc, Nat.add_comm 1]
    rfl

/-- Preparing a quarantine only fails by dropping the request. -/
theorem prepareQuarantineLocked_error {endpoint : RTUFixtureEndpoint} (anchor : Duration)
    (failed : RTUFixtureEndpoint)
    (h : endpoint.prepareQuarantineLocked anchor = .error failed) :
    ∃ detail, failed = endpoint.dropCurrent detail := by
  unfold prepareQuarantineLocked at h
  dsimp only at h
  repeat' split at h
  all_goals first | (cases h; exact ⟨_, rfl⟩) | cases h

end RTUFixtureEndpoint

/-- A serial format, its timing, and a configuration and a read for the runs on fixed
    inputs. -/
def fixtureFormat : RTUTimingConfig :=
  { baud := 19200, dataBits := 8, parity := .even, stopBits := 1
    maxResponseLatency := 10000000, maxQuiescence := 100000000 }

def fixtureTiming : RTUTiming :=
  { baud := 19200, bitsPerCharacter := 11, characterTime := 572917, interCharacter := 859375
    interFrame := 2005209, readInterCharacter := 20000000, maxResponseLatency := 10000000
    maxQuiescence := 100000000 }

def fixtureConfig : RTUFixtureEndpointConfig :=
  { endpoint := "fixture", timing := fixtureTiming, clockContract := "clock-v1"
    fixtureOptIn := true, maxDiscardedFrames := 4 }

def fixturePlan : RTUReadPlan :=
  { unitID := 1, authorizationScope := "scope", pollGeneration := 1, deadlineIdentity := 1
    logicalViewID := 1, timeout := 50000000
    request := { function := 3, table := .holdingRegisters, offset := 0, quantity := 1 } }

end HelianthusModbus
