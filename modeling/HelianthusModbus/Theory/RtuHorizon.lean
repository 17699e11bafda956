import HelianthusModbus.Theory.RtuSteps

/-!
# The Horizon of an RTU Quarantine

A quarantine starts with the time by which a late response must have come, and an idle
deadline one inter-frame interval after it. This module says when both hold of an endpoint
and what keeps them; `Theory.RtuRequests` carries them along a run.

A byte that comes in quarantine moves the idle deadline to one interval after itself, but
the source only keeps it from falling below the latency deadline, not below the idle
deadline that was set at the start. A byte before the latency deadline therefore loses the
interval after it. `Patient` excludes such a byte; then the idle deadline is never before
the end of the horizon, and never later than one interval after the last thing that could
have moved it.

## Main definitions

* `RTUFixtureEndpoint.Timeline.Settled`: The deadlines of a quarantine cover its horizon.
* `RTUFixtureEndpoint.Horizon`: They do whenever there is a quarantine.

## Theorems

* `RTUFixtureEndpoint.Horizon.setQuarantineLocked`: Entering quarantine settles it.
* `RTUFixtureEndpoint.Horizon.observe`: A byte that is not too early keeps it.
-/

namespace HelianthusModbus

/-- The reading at which an operation feeds a byte. -/
def RTUOperation.fedAt : RTUOperation → Option Duration
  | .feedByte _ now => some now
  | _ => none

namespace RTUFixtureEndpoint

/-- The clock, the last byte, and the deadlines of a quarantine. -/
structure Timeline where
  maxResponseLatency : Duration
  interFrame : Duration
  clock : Option Duration
  observed : Option Duration
  anchor : Duration
  latency : Duration
  idle : Duration

def timeline (endpoint : RTUFixtureEndpoint) : Timeline :=
  { maxResponseLatency := endpoint.timing.maxResponseLatency
    interFrame := endpoint.timing.interFrame
    clock := if endpoint.haveClock then some endpoint.lastClock else none
    observed := if endpoint.haveObservedByte then some endpoint.lastObservedByte else none
    anchor := endpoint.quarantineAnchor
    latency := endpoint.latencyDeadline
    idle := endpoint.idleDeadline }

/-- The intervals are those of the timing, and the last byte came no later than the last
    clock reading. -/
structure Timeline.Ordered (timeline : Timeline) (timing : RTUTiming) : Prop where
  silent : 0 ≤ timing.interFrame
  latency : timeline.maxResponseLatency = timing.maxResponseLatency
  interFrame : timeline.interFrame = timing.interFrame
  observed : ∀ byte ∈ timeline.observed, ∃ now ∈ timeline.clock, byte ≤ now

/-- The idle deadline is not before the end of the horizon, and it is one interval after the
    latency deadline or not later than that after the last clock reading. -/
structure Timeline.Settled (timeline : Timeline) : Prop where
  latency : timeline.latency = timeline.anchor + timeline.maxResponseLatency
  idle : timeline.latency + timeline.interFrame ≤ timeline.idle
  bounded : ∃ now ∈ timeline.clock, timeline.idle ≤ timeline.latency + timeline.interFrame ∨
    timeline.idle ≤ now + timeline.interFrame

/-- An endpoint of this timing whose quarantine, if there is one, covers its horizon. -/
structure Horizon (endpoint : RTUFixtureEndpoint) (timing : RTUTiming) : Prop where
  ordered : endpoint.timeline.Ordered timing
  settled : endpoint.state = .quarantine → endpoint.timeline.Settled

/-- A byte that is fed in quarantine does not come before the latency deadline. -/
def Patient (endpoint : RTUFixtureEndpoint) (call : RTUCall) : Prop :=
  endpoint.state = .quarantine → call.callback = false →
    ∀ now ∈ call.operation.fedAt, endpoint.Reads now → endpoint.latencyDeadline ≤ now

instance (endpoint : RTUFixtureEndpoint) (call : RTUCall) : Decidable (endpoint.Patient call) :=
  inferInstanceAs (Decidable (_ → _ → ∀ now ∈ call.operation.fedAt,
    endpoint.Reads now → endpoint.latencyDeadline ≤ now))

/-- The same of a byte that may be fed. -/
def Awaits (endpoint : RTUFixtureEndpoint) (fed : Option Duration) : Prop :=
  endpoint.state = .quarantine → ∀ now ∈ fed, endpoint.Reads now → endpoint.latencyDeadline ≤ now

variable {endpoint after : RTUFixtureEndpoint} {timing : RTUTiming}

theorem Horizon.same (h : endpoint.Horizon timing) (hstate : after.state = endpoint.state)
    (htimeline : after.timeline = endpoint.timeline) : after.Horizon timing :=
  ⟨htimeline ▸ h.ordered, fun hquarantine => htimeline ▸ h.settled (hstate ▸ hquarantine)⟩

/-- Out of quarantine, with the last byte as it was or forgotten. -/
theorem Horizon.out (h : endpoint.Horizon timing) (hstate : after.state ≠ .quarantine)
    (htiming : after.timing = endpoint.timing)
    (hclock : after.timeline.clock = endpoint.timeline.clock)
    (hobserved : after.timeline.observed = endpoint.timeline.observed ∨
      after.timeline.observed = none) : after.Horizon timing := by
  rcases h.ordered with ⟨hsilent, hlatency, hinterFrame, hbyte⟩
  refine ⟨⟨hsilent, ?_, ?_, fun byte hlast => ?_⟩, fun hquarantine => absurd hquarantine hstate⟩
  · simpa only [timeline, htiming] using hlatency
  · simpa only [timeline, htiming] using hinterFrame
  · rcases hobserved with hobserved | hobserved
    · rw [hclock]
      exact hbyte byte (hobserved ▸ hlast)
    · rw [hobserved] at hlast
      exact nomatch hlast

theorem Horizon.readClock (h : endpoint.Horizon timing) (now : Duration)
    (hreads : endpoint.Reads now) : (endpoint.readClock now).Horizon timing := by
  have hafter : ∀ last ∈ endpoint.timeline.clock, last ≤ now := by
    intro last hlast
    have hclock : endpoint.haveClock = true ∧ endpoint.lastClock = last := by
      simpa [timeline] using hlast
    rw [← hclock.2]
    exact hreads.2 hclock.1
  refine ⟨⟨h.ordered.silent, h.ordered.latency, h.ordered.interFrame,
    fun byte hbyte => ⟨now, rfl, ?_⟩⟩, fun hstate => ?_⟩
  · rcases h.ordered.observed byte hbyte with ⟨last, hlast, hle⟩
    exact Int.le_trans hle (hafter last hlast)
  · rcases h.settled hstate with ⟨hlatency, hidle, last, hlast, hbounded⟩
    refine ⟨hlatency, hidle, now, rfl, hbounded.imp_right fun hle => ?_⟩
    exact Int.le_trans hle (Int.add_le_add_right (hafter last hlast) _)

/-- A byte is observed now. In quarantine it moves the idle deadline to an interval after
    itself. -/
theorem Horizon.observe (h : endpoint.Horizon timing) {now idle : Duration}
    (hclock : endpoint.timeline.clock = some now)
    (htimeline : after.timeline = { endpoint.timeline with observed := some now, idle := idle })
    (hidle : after.state = .quarantine → endpoint.state = .quarantine ∧
      endpoint.latencyDeadline + endpoint.timing.interFrame ≤ idle ∧
      idle ≤ now + endpoint.timing.interFrame) : after.Horizon timing := by
  refine ⟨?_, fun hstate => ?_⟩
  · rw [htimeline]
    refine ⟨h.ordered.silent, h.ordered.latency, h.ordered.interFrame, ?_⟩
    exact fun byte hbyte => ⟨now, hclock, (Option.mem_some_iff.mp hbyte).ge⟩
  · rcases hidle hstate with ⟨hbefore, hcovers, hbounded⟩
    rw [htimeline]
    exact ⟨(h.settled hbefore).latency, hcovers, now, hclock, Or.inr hbounded⟩

/-- The deadlines of a quarantine that could be prepared. -/
theorem prepareQuarantineLocked_ok (anchor : Duration) (deadlines : RTUQuarantineDeadlines)
    (h : endpoint.prepareQuarantineLocked anchor = .ok deadlines) :
    deadlines.latency = anchor + endpoint.timing.maxResponseLatency ∧
      deadlines.latency + endpoint.timing.interFrame ≤ deadlines.idle ∧
      (deadlines.idle ≤ deadlines.latency + endpoint.timing.interFrame ∨
        (endpoint.haveObservedByte = true ∧
          deadlines.idle ≤ endpoint.lastObservedByte + endpoint.timing.interFrame)) := by
  unfold prepareQuarantineLocked at h
  dsimp only at h
  split at h
  · exact nomatch h
  next latency hlatency =>
  rw [checkedRTUOffsetAdd_eq_some] at hlatency
  split at h
  · exact nomatch h
  split at h
  · exact nomatch h
  next idle hidle =>
  rw [checkedRTUOffsetAdd_eq_some] at hidle
  split at h
  · exact nomatch h
  split at h
  · next hobserved =>
    split at h
    · exact nomatch h
    next buffered hbuffered =>
    rw [checkedRTUOffsetAdd_eq_some] at hbuffered
    split at h
    · exact nomatch h
    cases h
    refine ⟨hlatency.2.2.2, ?_⟩
    dsimp only
    split
    · exact ⟨by grind, Or.inr ⟨hobserved, by grind⟩⟩
    · exact ⟨by grind, Or.inl (by grind)⟩
  · cases h
    exact ⟨hlatency.2.2.2, by grind, Or.inl (by grind)⟩

/-- Setting the prepared deadlines settles the quarantine. -/
theorem Horizon.setQuarantineLocked (h : endpoint.Horizon timing)
    (hclocked : endpoint.haveClock = true) (current : RTUOwnedRequest) (anchor : Duration)
    (prepared : RTUQuarantineDeadlines)
    (hprepared : endpoint.prepareQuarantineLocked anchor = .ok prepared) :
    (endpoint.setQuarantineLocked current anchor prepared).Horizon timing := by
  rcases prepareQuarantineLocked_ok anchor prepared hprepared with ⟨hlatency, hidle, hbounded⟩
  refine ⟨⟨h.ordered.silent, h.ordered.latency, h.ordered.interFrame, h.ordered.observed⟩,
    fun _ => ⟨hlatency, hidle, endpoint.lastClock, ?_, ?_⟩⟩
  · simp [timeline, RTUFixtureEndpoint.setQuarantineLocked, hclocked]
  · refine hbounded.imp_right fun ⟨hhave, hle⟩ => ?_
    rcases h.ordered.observed endpoint.lastObservedByte (by simp [timeline, hhave]) with
      ⟨last, hlast, hbyte⟩
    have hclock : endpoint.lastClock = last := by simpa [timeline, hclocked] using hlast
    rw [hclock]
    exact Int.le_trans hle (Int.add_le_add_right hbyte _)

/-- Every call of the run is patient. -/
def PatientRun (endpoint : RTUFixtureEndpoint) : List RTUCall → Prop
  | [] => True
  | call :: rest => endpoint.Patient call ∧ (endpoint.step call).2.PatientRun rest

instance decidablePatientRun : (endpoint : RTUFixtureEndpoint) → (calls : List RTUCall) →
    Decidable (endpoint.PatientRun calls)
  | _, [] => .isTrue trivial
  | endpoint, call :: rest =>
    have := decidablePatientRun (endpoint.step call).2 rest
    inferInstanceAs (Decidable (endpoint.Patient call ∧ (endpoint.step call).2.PatientRun rest))

theorem run_append (endpoint : RTUFixtureEndpoint) (before after : List RTUCall) :
    (endpoint.run (before ++ after)).2 = ((endpoint.run before).2.run after).2 := by
  induction before generalizing endpoint with
  | nil => rfl
  | cons call rest ih => exact ih _

theorem patientRun_append (endpoint : RTUFixtureEndpoint) (before after : List RTUCall) :
    endpoint.PatientRun (before ++ after) ↔
      endpoint.PatientRun before ∧ (endpoint.run before).2.PatientRun after := by
  induction before generalizing endpoint with
  | nil => simp [PatientRun, run]
  | cons call rest ih => simp only [List.cons_append, PatientRun, ih, run, and_assoc]

end RTUFixtureEndpoint

end HelianthusModbus
