import HelianthusModbus.Theory.RtuRequests

/-!
# How RTU Requests End

The guarantees a caller of the fixture endpoint has about its request. It is current
exactly while the endpoint writes it or waits for its response. It ends at most once, and
a result that is deliverable comes from a frame with the right checksum, unit and function
that arrived in time. If its bytes may have been sent and it gets no response, the line is
in quarantine before its waiter is told.

The first two and the last come from custody, which every call refines. Delivery is about
a single call: only the end of a frame in the response wait has a result.

## Main definitions

* `RTUFixtureEndpoint.Delivers`: What a deliverable result promises.

## Theorems

* `RTUFixtureEndpoint.endFrame_delivers`: A deliverable result keeps that promise.
* `RTUFixtureEndpoint.requests_resolve_once`: The guarantees along every run.
* `RTUFixtureEndpoint.fixture_events_without_gap`: Events have every number once, in order.
-/

namespace HelianthusModbus

namespace RTUFixtureEndpoint

variable {endpoint : RTUFixtureEndpoint}

theorem decodeFrame_ok (current : RTUOwnedRequest) (frame : List UInt8)
    (h : (decodeFrame current frame).err = none) :
    ValidRTUFrame current.plan.unitID current.function frame ∧
      (decodeFrame current frame).raw = frame := by
  revert h
  unfold decodeFrame RTUOwnedRequest.function
  cases current.deviceID with
  | some deviceID =>
    intro h
    dsimp only at h ⊢
    split at h
    · next segment hdecoded => exact decodeRTUDeviceIDResponseADU_ok _ _ _ segment hdecoded
    · exact nomatch h
  | none =>
    intro h
    dsimp only at h ⊢
    split at h
    · next response hdecoded => exact decodeRTUReadResponseADU_ok _ _ _ response hdecoded
    · exact nomatch h

/-- A result that belongs to the current request: it waits for its response, is in time
    and not cancelled, and the frame that was received is a valid one for it. -/
def Delivers (endpoint : RTUFixtureEndpoint) (cancelled : Bool) (now : Duration)
    (result : RTUReadResult) : Prop :=
  endpoint.state = .responseWait ∧ cancelled = false ∧
    ∃ current wire, endpoint.current = some current ∧ result.wire = some wire ∧
      current.handle.generation = endpoint.generation ∧ now < current.deadline ∧
      wire.physicalRequestID = current.handle.requestID ∧
      wire.provenance.transportGeneration = endpoint.generation ∧
      wire.bytes = endpoint.decoder.buffer ∧
      ValidRTUFrame current.plan.unitID current.function wire.bytes

theorem Delivers.of_empty (cancelled : Bool) (now : Duration) {result : RTUReadResult}
    (hempty : result.deliverable = false) (h : result.deliverable = true) :
    endpoint.Delivers cancelled now result :=
  absurd (hempty.symm.trans h) Bool.false_ne_true

/-- A frame for the current request, received in time, is deliverable only without an
    error. `reading` is the endpoint with the frame still in its decoder. -/
theorem receiveFrameLocked_delivers (reading : RTUFixtureEndpoint) (current : RTUOwnedRequest)
    (hstate : reading.state = .responseWait) (hheld : reading.current = some current)
    (howned : current.handle.generation = reading.generation)
    (hgeneration : endpoint.generation = reading.generation) (now : Duration)
    (hdeadline : now < current.deadline)
    (h : (endpoint.receiveFrameLocked current reading.decoder.buffer now).1.result.deliverable =
      true) :
    reading.Delivers false now
      (endpoint.receiveFrameLocked current reading.decoder.buffer now).1.result := by
  revert h
  unfold receiveFrameLocked
  dsimp only
  split
  · unfold receiveCorrelated
    split
    · exact Delivers.of_empty _ _ rfl
    split
    · exact Delivers.of_empty _ _ rfl
    split
    · exact Delivers.of_empty _ _ rfl
    intro h
    have hdecoded := decodeFrame_ok current reading.decoder.buffer
      (Option.isNone_iff_eq_none.mp h)
    refine ⟨hstate, rfl, current, _, hheld, rfl, howned, hdeadline, rfl, ?_, hdecoded.2, ?_⟩
    · rw [← hgeneration]
      cases current.deviceID <;> rfl
    · show ValidRTUFrame _ _ (decodeFrame current reading.decoder.buffer).raw
      rw [hdecoded.2]
      exact hdecoded.1
  · unfold receiveUncorrelated
    split <;> exact Delivers.of_empty _ _ rfl

theorem discardQuarantineFrameLocked_result :
    endpoint.discardQuarantineFrameLocked.1.result = {} := by
  unfold discardQuarantineFrameLocked
  dsimp only
  split
  · rfl
  · split_ifs <;> rfl

theorem discardExpired_result (current : RTUOwnedRequest) (cancelled : Bool) :
    (endpoint.discardExpired current cancelled).1.result = {} := by
  unfold discardExpired
  split
  · rfl
  · split <;> rfl

theorem decoder_endFrame (decoder : RTUFrameDecoder) (now : Duration) :
    (∃ err, (decoder.endFrame now).1 = ({}, some err)) ∨
      (decoder.endFrame now).1 = decodeRTUADU decoder.buffer := by
  unfold RTUFrameDecoder.endFrame
  split
  · exact Or.inl ⟨_, rfl⟩
  · exact Or.inr rfl

theorem endFrame_delivers (hconsistent : endpoint.Consistent) (expected : RequestKind)
    (cancelled : Bool) (now : Duration)
    (h : (endpoint.endFrame expected cancelled now).1.result.deliverable = true) :
    endpoint.Delivers cancelled now (endpoint.endFrame expected cancelled now).1.result := by
  revert h
  unfold endFrame
  by_cases hreads : endpoint.Reads now
  · rw [nowLocked_of_reads _ _ hreads]
    dsimp only
    split
    · unfold quiescenceTimeout
      split <;> exact Delivers.of_empty _ _ rfl
    split
    · split
      · exact Delivers.of_empty _ _ rfl
      · exact Delivers.of_empty _ _ (by rw [discardQuarantineFrameLocked_result])
    · next current hstate hheld =>
      split
      · exact Delivers.of_empty _ _ rfl
      -- A frame that came in time is what the decoder had collected.
      rcases decoder_endFrame endpoint.decoder now with ⟨err, hended⟩ | hended
      · simp only [readClock, hended]
        exact Delivers.of_empty _ _ rfl
      · split
        · exact Delivers.of_empty _ _ rfl
        split
        · exact Delivers.of_empty _ _ (by rw [discardExpired_result])
        next hlive =>
        rw [not_or, Bool.not_eq_true] at hlive
        have hraw : ((endpoint.readClock now).decoder.endFrame now).1.1.raw =
            endpoint.decoder.buffer := by
          show (endpoint.decoder.endFrame now).1.1.raw = _
          rw [hended, decodeRTUADU_raw]
        rw [hraw, hlive.1]
        refine receiveFrameLocked_delivers endpoint current hstate hheld
          (hconsistent.owned current hheld).1 ?_ now (Int.not_le.mp hlive.2)
        rfl
    · exact Delivers.of_empty _ _ rfl
  · rw [nowLocked_of_not_reads _ _ hreads]
    exact Delivers.of_empty _ _ rfl

/-- In every run from a new endpoint: a request is current exactly in the states `writing`
    and `responseWait`; each request has at most one event that ends it; a deliverable
    result keeps its promise; and unless the transport proved that nothing was sent, the
    quarantine of a request is announced before its waiter is resolved. -/
theorem requests_resolve_once (id : Nat) (config : RTUFixtureEndpointConfig)
    (endpoint : RTUFixtureEndpoint) (hnew : newRTUFixtureEndpoint id config = .ok endpoint)
    (calls : List RTUCall) :
    ((endpoint.run calls).2.current.isSome = true ↔
      (endpoint.run calls).2.state = .writing ∨ (endpoint.run calls).2.state = .responseWait) ∧
    (∀ generation requestID, ((endpoint.runEvents calls).filter fun event =>
      decide (event.stamp.Ends ∧ event.stamp.About generation requestID)).length ≤ 1) ∧
    (∀ before call after expected cancelled now, calls = before ++ call :: after →
      call.operation = .endFrame expected cancelled now →
        ((endpoint.run before).2.step call).1.result.deliverable = true →
          (endpoint.run before).2.Delivers cancelled now
            ((endpoint.run before).2.step call).1.result) ∧
    ∀ resolved ∈ endpoint.runEvents calls, resolved.kind = .waiterResolved →
      (∀ event ∈ endpoint.runEvents calls,
        event.stamp.About resolved.generation resolved.requestID → ¬ event.stamp.ProvesUnsent) →
      ∃ quarantine ∈ endpoint.runEvents calls, quarantine.kind = .quarantineTransition ∧
        quarantine.stamp.About resolved.generation resolved.requestID ∧
        quarantine.sequence < resolved.sequence := by
  rcases newRTUFixtureEndpoint_follows id config hnew with ⟨⟨hempty, _⟩, hconsistent, _⟩
  rcases run_follows hconsistent [] hempty calls with ⟨hsound, hafter⟩
  rw [List.nil_append] at hsound
  refine ⟨hafter.active, fun generation requestID => ?_, ?_, ?_⟩
  · have honce := hsound.ends_once generation requestID
    rwa [List.filter_map, List.length_map] at honce
  · intro before call after expected cancelled now _ hoperation hdeliverable
    have hbefore := (run_follows hconsistent [] hempty before).2
    revert hdeliverable
    unfold step
    split
    · exact Delivers.of_empty _ _ rfl
    · rw [hoperation]
      exact endFrame_delivers hbefore expected cancelled now
  · intro resolved hresolved hkind hsent
    rcases hsound.warned resolved.stamp (List.mem_map_of_mem hresolved) hkind with
      ⟨warning, hmem, habout, hearlier, hwhy⟩
    rcases List.mem_map.mp hmem with ⟨event, hevent, rfl⟩
    rcases hwhy with hquarantine | hunsent
    · exact ⟨event, hevent, hquarantine, habout, hearlier⟩
    · exact absurd hunsent (hsent event hevent habout)

/-- A read that is written, and a response to it that arrives byte by byte. -/
def answeredRead : List RTUCall :=
  [{ operation := .beginRead false fixturePlan 1000 },
   { operation := .completeTransmit { endpoint := some 0, requestID := 1, generation := 1 }
      .complete false 2000 },
   { operation := .feedByte 1 3000 }, { operation := .feedByte 3 4000 },
   { operation := .feedByte 2 5000 }, { operation := .feedByte 0 6000 },
   { operation := .feedByte 7 7000 }, { operation := .feedByte 0xf9 8000 },
   { operation := .feedByte 0x86 9000 }]

theorem requests_resolve_once_answered :
    ∃ endpoint ended, newRTUFixtureEndpoint 0 fixtureConfig = .ok endpoint ∧
      ended = ((endpoint.run answeredRead).2.step
        { operation := .endFrame .read false 3000000 }).1 ∧
      ended.result.deliverable = true ∧
      (endpoint.run answeredRead).2.Delivers false 3000000 ended.result := by
  refine ⟨_, _, rfl, rfl, by decide +kernel, ?_⟩
  exact (requests_resolve_once 0 fixtureConfig _ rfl
    (answeredRead ++ [{ operation := .endFrame .read false 3000000 }])).2.2.1
    answeredRead _ [] .read false 3000000 rfl rfl (by decide +kernel)

/-- In every run from a new endpoint that starts at any sequence number: an operation emits
    at most as many events as it has checked for, and none if there is no room for them; no
    event ever found the numbers used up; and the events have the numbers after the first
    one, one by one, up to the last one assigned. -/
theorem fixture_events_without_gap (id : Nat) (config : RTUFixtureEndpointConfig)
    (made : RTUFixtureEndpoint) (hnew : newRTUFixtureEndpoint id config = .ok made)
    (start : UInt64) (calls : List RTUCall) :
    let endpoint := { made with nextSequence := start.toNat }
    let reached := (endpoint.run calls).2
    (∀ call, (reached.step call).1.events.length ≤ reached.eventCapacity call.operation ∧
      (reached.canEmitLocked (reached.eventCapacity call.operation) = false →
        (reached.step call).1.events = [])) ∧
    reached.exhausted = 0 ∧
    (endpoint.runEvents calls).map RTUEvent.sequence =
      List.range' (start.toNat + 1) (endpoint.runEvents calls).length ∧
    reached.nextSequence = start.toNat + (endpoint.runEvents calls).length := by
  intro endpoint reached
  rcases newRTUFixtureEndpoint_follows id config hnew with ⟨⟨_, hnever⟩, hmade, _⟩
  have hconsistent : endpoint.Consistent := ⟨hmade.active, hmade.owned⟩
  rcases run_numbers hconsistent calls with ⟨hnumbered, hnext, hexhausted, hreached⟩
  refine ⟨fun call => ?_, hexhausted.trans hnever, ?_, hnext⟩
  · rcases (step_follows hreached call).room with hnone | ⟨hroom, hfew⟩
    · exact ⟨by rw [hnone]; exact Nat.zero_le _, fun _ => hnone⟩
    · exact ⟨hfew, fun hfull => absurd hfull hroom⟩
  · have hrange := hnumbered.range
    rwa [List.map_map, List.length_map] at hrange

/-- One number is left: the read takes it, and its write is not announced any more. -/
theorem fixture_events_without_gap_last :
    ∃ made, newRTUFixtureEndpoint 0 fixtureConfig = .ok made ∧
      (({ made with nextSequence := maxUint64 - 1 }.run answeredRead).1.map
        fun reply : RTUReply => reply.events.length) = [1, 0, 0, 0, 0, 0, 0, 0, 0] ∧
      ({ made with nextSequence := maxUint64 - 1 }.run answeredRead).2.exhausted = 0 := by
  refine ⟨_, rfl, by decide +kernel, ?_⟩
  exact (fixture_events_without_gap 0 fixtureConfig _ rfl 0xfffffffffffffffe answeredRead).2.1

end RTUFixtureEndpoint

end HelianthusModbus
