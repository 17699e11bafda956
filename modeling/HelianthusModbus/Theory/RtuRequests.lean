import HelianthusModbus.Theory.RtuCustody
import HelianthusModbus.Theory.RtuHorizon

/-!
# Requests of the RTU Fixture Endpoint

Every call of the fixture endpoint is a step of custody: what it emits and leaves behind
is one of the moves of `RTUCustody`. The theorems about whole runs then come from custody
alone, and a change of one operation touches one lemma here. The same walk over the
operations shows that each keeps the horizon of a quarantine, and emits no more events than
it has checked for.

## Main definitions

* `RTUFixtureEndpoint.Consistent`: A request is current in exactly two states, and it is
  one of the current generation.
* `RTUFixtureEndpoint.Follows`: A result is a move of custody and leaves a consistent
  endpoint with its horizon.

## Theorems

* `RTUFixtureEndpoint.step_follows`: Every call of a consistent endpoint is such a move.
* `RTUFixtureEndpoint.run_follows`: Custody is sound along every run.
* `RTUFixtureEndpoint.run_numbers`: Events are numbered one by one along every run.
* `RTUFixtureEndpoint.run_horizon`: A patient run from a new endpoint has the horizon
  throughout.
-/

namespace HelianthusModbus

namespace RTUEventCall

/-- The stamp of the event a call builds. -/
def stamp (call : RTUEventCall) (generation sequence : Nat) : RTUStamp :=
  { kind := call.kind, requestID := call.requestID, generation := generation
    sequence := sequence, result := call.result }

/-- The event concludes no request. -/
def Quiet (call : RTUEventCall) : Prop :=
  call.kind ≠ .waiterResolved ∧ (call.kind = .responseReceive → call.requestID = 0)

/-- The stamps of several calls, numbered from `sequence + 1` on. -/
def stamps (generation : Nat) : Nat → List RTUEventCall → List RTUStamp
  | _, [] => []
  | sequence, call :: rest =>
    call.stamp generation (sequence + 1) :: stamps generation (sequence + 1) rest

section Stamps

variable (generation sequence : Nat) (calls : List RTUEventCall)

theorem length_stamps : (stamps generation sequence calls).length = calls.length := by
  induction calls generalizing sequence with
  | nil => rfl
  | cons call rest ih => simp [stamps, ih]

theorem numbered_stamps : RTUStamp.Numbered sequence (stamps generation sequence calls) := by
  induction calls generalizing sequence with
  | nil => exact trivial
  | cons call rest ih => exact ⟨rfl, ih (sequence + 1)⟩

theorem mem_stamps (stamp : RTUStamp) (h : stamp ∈ stamps generation sequence calls) :
    ∃ call ∈ calls, ∃ number, stamp = call.stamp generation number := by
  induction calls generalizing sequence with
  | nil => exact nomatch h
  | cons call rest ih =>
    rcases List.mem_cons.mp h with rfl | hrest
    · exact ⟨call, List.mem_cons_self, _, rfl⟩
    · rcases ih _ hrest with ⟨later, hmem, hlater⟩
      exact ⟨later, List.mem_cons_of_mem _ hmem, hlater⟩

theorem exists_stamp (call : RTUEventCall) (h : call ∈ calls) :
    ∃ number, call.stamp generation number ∈
      stamps generation sequence calls := by
  induction calls generalizing sequence with
  | nil => exact nomatch h
  | cons first rest ih =>
    rcases List.mem_cons.mp h with rfl | hrest
    · exact ⟨_, List.mem_cons_self⟩
    · rcases ih (sequence + 1) hrest with ⟨number, hmem⟩
      exact ⟨number, List.mem_cons_of_mem _ hmem⟩

end Stamps

theorem stamps_append (generation sequence : Nat) (first second : List RTUEventCall) :
    stamps generation sequence (first ++ second) =
      stamps generation sequence first ++ stamps generation (sequence + first.length) second := by
  induction first generalizing sequence with
  | nil => rfl
  | cons call rest ih =>
    simp only [List.cons_append, stamps, ih, List.length_cons, Nat.add_assoc,
      Nat.add_comm 1]

theorem Quiet.stamp {call : RTUEventCall} (h : call.Quiet) (generation sequence : Nat) :
    ¬ (call.stamp generation sequence).Ends := by
  rintro (hresolved | ⟨hreceive, hbound⟩)
  · exact h.1 hresolved
  · exact hbound (h.2 hreceive)

/-- Calls that conclude a request by `last`, and say before it why, unless there is a
    response. -/
structure Conclude (requestID : Nat) (before : List RTUEventCall) (last : RTUEventCall)
    (after : List RTUEventCall) : Prop where
  quiet : ∀ call ∈ before ++ after, call.Quiet
  about : last.requestID = requestID
  ends : last.kind = .waiterResolved ∨ last.kind = .responseReceive
  warned : last.kind = .waiterResolved → ∃ call ∈ before, call.requestID = requestID ∧
    (call.kind = .quarantineTransition ∨
      (call.kind = .transmitResult ∧ call.result = some .provableZero))

end RTUEventCall

namespace RTUFixtureEndpoint

open RTUCustody

theorem stamp_eventAt (endpoint : RTUFixtureEndpoint) (sequence : Nat) (call : RTUEventCall) :
    (endpoint.eventAt sequence call).stamp = call.stamp endpoint.generation sequence := by
  unfold eventAt
  split
  · rfl
  · split <;> rfl

theorem stamps_numbered (endpoint : RTUFixtureEndpoint) (sequence : Nat)
    (calls : List RTUEventCall) :
    (endpoint.numbered sequence calls).map RTUEvent.stamp =
      RTUEventCall.stamps endpoint.generation sequence calls := by
  induction calls generalizing sequence with
  | nil => rfl
  | cons call rest ih =>
    simp [numbered, RTUEventCall.stamps, stamp_eventAt, ih]

/-- The custody an endpoint stands for. -/
def custody (endpoint : RTUFixtureEndpoint) : RTUCustody :=
  { generation := endpoint.generation, nextRequestID := endpoint.nextRequestID
    holder := endpoint.current.map fun current => current.handle.requestID
    sequence := endpoint.nextSequence, exhausted := endpoint.exhausted }

/-- A request is current in exactly two states, and it is one of the current
    generation. -/
structure Consistent (endpoint : RTUFixtureEndpoint) : Prop where
  active : endpoint.current.isSome = true ↔
    endpoint.state = .writing ∨ endpoint.state = .responseWait
  owned : ∀ current ∈ endpoint.current,
    current.handle.generation = endpoint.generation ∧ current.handle.requestID ≠ 0

theorem Consistent.of_none {endpoint : RTUFixtureEndpoint} (hcurrent : endpoint.current = none)
    (hwriting : endpoint.state ≠ .writing) (hwaiting : endpoint.state ≠ .responseWait) :
    endpoint.Consistent where
  active := by simp [hcurrent, hwriting, hwaiting]
  owned := by simp [hcurrent]

theorem Consistent.current_none {endpoint : RTUFixtureEndpoint} (h : endpoint.Consistent)
    (hwriting : endpoint.state ≠ .writing) (hwaiting : endpoint.state ≠ .responseWait) :
    endpoint.current = none := by
  by_contra hcurrent
  rcases h.active.mp (Option.isSome_iff_ne_none.mpr hcurrent) with hstate | hstate
  · exact hwriting hstate
  · exact hwaiting hstate

/-- A result that is a move of custody and leaves a consistent endpoint with its horizon.
    `fed` is the reading at which a byte is fed. If there are events, there was room for
    `count` of them, and they are not more. -/
structure Follows (endpoint : RTUFixtureEndpoint) (count : Nat) (fed : Option Duration)
    (result : RTUReply × RTUFixtureEndpoint) : Prop where
  move : Move endpoint.custody (result.1.events.map RTUEvent.stamp) result.2.custody
  consistent : result.2.Consistent
  horizon : ∀ timing, endpoint.Awaits fed → endpoint.Horizon timing → result.2.Horizon timing
  room : result.1.events = [] ∨
    ¬ endpoint.canEmitLocked count = false ∧ result.1.events.length ≤ count

variable {endpoint after : RTUFixtureEndpoint} {count : Nat} {fed : Option Duration}
  {reply : RTUReply}

/-- There is room for the events of `calls`, if there are any. -/
def Fits (endpoint : RTUFixtureEndpoint) (count : Nat) (calls : List RTUEventCall) : Prop :=
  calls = [] ∨ ¬ endpoint.canEmitLocked count = false ∧ calls.length ≤ count

theorem Fits.room {calls : List RTUEventCall} (h : endpoint.Fits count calls)
    {events : List RTUEvent} (hevents : (events.map RTUEvent.stamp).length = calls.length) :
    events = [] ∨ ¬ endpoint.canEmitLocked count = false ∧ events.length ≤ count := by
  rw [List.length_map] at hevents
  rw [hevents]
  exact h.imp_left fun hnone => List.eq_nil_of_length_eq_zero (by rw [hevents, hnone]; rfl)

theorem quiet_stamps (calls : List RTUEventCall) (hquiet : ∀ call ∈ calls, call.Quiet) :
    endpoint.custody.Quiet
      (RTUEventCall.stamps endpoint.generation endpoint.nextSequence calls) where
  numbered := RTUEventCall.numbered_stamps _ _ _
  generation := by
    intro stamp hstamp
    rcases RTUEventCall.mem_stamps _ _ _ _ hstamp with ⟨call, _, number, rfl⟩
    rfl
  silent := by
    intro stamp hstamp
    rcases RTUEventCall.mem_stamps _ _ _ _ hstamp with ⟨call, hmem, number, rfl⟩
    exact (hquiet call hmem).stamp _ _

/-- The horizon is kept, whatever byte is fed. -/
def Spares (endpoint after : RTUFixtureEndpoint) : Prop :=
  ∀ timing, endpoint.Horizon timing → after.Horizon timing

theorem Spares.same (hstate : after.state = endpoint.state)
    (htimeline : after.timeline = endpoint.timeline) : Spares endpoint after :=
  fun _ h => h.same hstate htimeline

theorem Spares.out (hstate : after.state ≠ .quarantine) (htiming : after.timing = endpoint.timing)
    (hclock : after.timeline.clock = endpoint.timeline.clock)
    (hobserved : after.timeline.observed = endpoint.timeline.observed ∨
      after.timeline.observed = none) : Spares endpoint after :=
  fun _ h => h.out hstate htiming hclock hobserved

section Emits

variable (calls : List RTUEventCall) (hfits : endpoint.Fits count calls)
  (hquiet : ∀ call ∈ calls, call.Quiet)
  (hevents : reply.events.map RTUEvent.stamp =
    RTUEventCall.stamps endpoint.generation endpoint.nextSequence calls)
include hfits hevents

theorem Follows.emits
    (hmove : Move endpoint.custody
      (RTUEventCall.stamps endpoint.generation endpoint.nextSequence calls) after.custody)
    (hconsistent : after.Consistent) (hspares : Spares endpoint after) :
    Follows endpoint count fed (reply, after) :=
  ⟨hevents ▸ hmove, hconsistent, fun timing _ => hspares timing,
    hfits.room (by rw [hevents, RTUEventCall.length_stamps])⟩

include hquiet

theorem Follows.keep
    (hafter : after.custody =
      { endpoint.custody with sequence := endpoint.nextSequence + calls.length })
    (hconsistent : after.Consistent) (hspares : Spares endpoint after) :
    Follows endpoint count fed (reply, after) := by
  refine .emits calls hfits hevents ?_ hconsistent hspares
  rw [hafter, ← RTUEventCall.length_stamps endpoint.generation endpoint.nextSequence]
  exact Move.keep _ (quiet_stamps calls hquiet)

theorem Follows.drop
    (hafter : after.custody =
      { endpoint.custody with
        holder := none, sequence := endpoint.nextSequence + calls.length })
    (hconsistent : after.Consistent) (hspares : Spares endpoint after) :
    Follows endpoint count fed (reply, after) := by
  refine .emits calls hfits hevents ?_ hconsistent hspares
  rw [hafter, ← RTUEventCall.length_stamps endpoint.generation endpoint.nextSequence]
  exact Move.drop _ (quiet_stamps calls hquiet)

theorem Follows.begin (hfree : endpoint.current = none)
    (hafter : after.custody =
      { endpoint.custody with
        holder := some endpoint.nextRequestID, nextRequestID := endpoint.nextRequestID + 1
        sequence := endpoint.nextSequence + calls.length })
    (hconsistent : after.Consistent) (hspares : Spares endpoint after) :
    Follows endpoint count fed (reply, after) := by
  refine .emits calls hfits hevents ?_ hconsistent hspares
  rw [hafter, ← RTUEventCall.length_stamps endpoint.generation endpoint.nextSequence]
  exact Move.begin _ (by simp [custody, hfree]) (quiet_stamps calls hquiet)

end Emits

theorem Follows.same (hevents : reply.events = []) (hafter : after.custody = endpoint.custody)
    (hconsistent : after.Consistent) (hspares : Spares endpoint after) :
    Follows endpoint count fed (reply, after) :=
  Follows.keep [] (Or.inl rfl) (fun _ h => nomatch h) (by rw [hevents]; rfl) hafter hconsistent
    hspares

theorem Follows.refused (h : endpoint.Consistent) (hevents : reply.events = []) :
    Follows endpoint count fed (reply, endpoint) :=
  Follows.same hevents rfl h fun _ hbefore => hbefore

/-- An operation that ends with recovery required and no request. -/
theorem Follows.failed (hevents : reply.events = []) (hcurrent : after.current = none)
    (hstate : after.state = .recoveryRequired ∨ after.state = .closed)
    (hcustody : { after.custody with holder := none } = { endpoint.custody with holder := none })
    (htimeline : after.timeline = endpoint.timeline) (htiming : after.timing = endpoint.timing) :
    Follows endpoint count fed (reply, after) := by
  have hout : after.state ≠ .quarantine ∧ after.state ≠ .writing ∧
      after.state ≠ .responseWait := by
    rcases hstate with hstate | hstate <;> simp [hstate]
  refine Follows.drop [] (Or.inl rfl) (fun _ h => nomatch h) (by rw [hevents]; rfl) ?_
    (.of_none hcurrent hout.2.1 hout.2.2) ?_
  · simp only [custody, hcurrent, Option.map_none] at hcustody ⊢
    exact hcustody
  · exact .out hout.1 htiming (by rw [htimeline]) (Or.inl (by rw [htimeline]))

/-- What is done to an endpoint before custody changes, such as an accepted clock reading,
    does not matter. -/
theorem Follows.of_custody {prepared : RTUFixtureEndpoint}
    {result : RTUReply × RTUFixtureEndpoint} (h : Follows prepared count none result)
    (hsame : prepared.custody = endpoint.custody) (hspares : Spares endpoint prepared) :
    Follows endpoint count fed result := by
  have hsequence : prepared.nextSequence = endpoint.nextSequence :=
    congrArg RTUCustody.sequence hsame
  refine ⟨hsame ▸ h.move, h.consistent, fun timing _ hhorizon =>
    h.horizon timing (fun _ _ hnone => nomatch hnone) (hspares timing hhorizon), ?_⟩
  have hroom := h.room
  rwa [canEmitLocked, hsequence] at hroom

theorem Follows.counted {checked : Nat} {result : RTUReply × RTUFixtureEndpoint}
    (h : Follows endpoint checked fed result) (hcount : count = checked) :
    Follows endpoint count fed result :=
  hcount ▸ h

theorem Consistent.readClock (h : endpoint.Consistent) (now : Duration) :
    (endpoint.readClock now).Consistent :=
  ⟨h.active, h.owned⟩

/-- An operation that reads the clock, by its two outcomes. -/
theorem Follows.clock (h : endpoint.Consistent) (now : Duration)
    (f : RTUFixtureEndpoint → RTUReply × RTUFixtureEndpoint)
    (hf : (endpoint.readClock now).Consistent → (endpoint.readClock now).Reads now →
      Follows (endpoint.readClock now) count fed (f (endpoint.readClock now))) :
    Follows endpoint count fed
      (match endpoint.nowLocked now with
      | .error failed => (.fail .state, failed)
      | .ok endpoint => f endpoint) := by
  by_cases hreads : endpoint.Reads now
  · rw [nowLocked_of_reads _ _ hreads]
    rcases hf (h.readClock now) ⟨hreads.1, fun _ => Int.le_refl now⟩ with
      ⟨hmove, hconsistent, hhorizon, hroom⟩
    refine ⟨hmove, hconsistent, fun timing hawaits hbefore => ?_, hroom⟩
    refine hhorizon timing (fun hstate later hlater hread => ?_) (hbefore.readClock now hreads)
    -- A reading after this one is accepted before it, too.
    exact hawaits hstate later hlater
      ⟨hread.1, fun hhave => Int.le_trans (hreads.2 hhave) (hread.2 rfl)⟩
  · rw [nowLocked_of_not_reads _ _ hreads]
    exact .failed rfl rfl (Or.inl rfl) rfl rfl rfl

/-- A step that concludes the request it holds. -/
theorem Follows.conclude (h : endpoint.Consistent) (current : RTUOwnedRequest)
    (hheld : endpoint.current = some current) (before : List RTUEventCall) (last : RTUEventCall)
    (later : List RTUEventCall) (hfits : endpoint.Fits count (before ++ last :: later))
    (hcalls : RTUEventCall.Conclude current.handle.requestID before last later)
    (hevents : reply.events.map RTUEvent.stamp =
      RTUEventCall.stamps endpoint.generation endpoint.nextSequence (before ++ last :: later))
    (hafter : after.custody =
      { endpoint.custody with
        holder := none
        sequence := endpoint.nextSequence + (before ++ last :: later).length })
    (hconsistent : after.Consistent) (hspares : Spares endpoint after) :
    Follows endpoint count fed (reply, after) := by
  refine .emits _ hfits hevents ?_ hconsistent hspares
  have hnumbered := RTUEventCall.numbered_stamps endpoint.generation endpoint.nextSequence
    (before ++ last :: later)
  rw [hafter, ← RTUEventCall.length_stamps endpoint.generation endpoint.nextSequence]
  rw [RTUEventCall.stamps_append] at hnumbered ⊢
  -- The stamps around the last one are those of the calls around it.
  have hmem : ∀ stamp ∈ RTUEventCall.stamps endpoint.generation endpoint.nextSequence before ++
      RTUEventCall.stamps endpoint.generation (endpoint.nextSequence + before.length + 1) later,
      ∃ call ∈ before ++ later, ∃ number, stamp = call.stamp endpoint.generation number := by
    intro stamp hstamp
    rcases List.mem_append.mp hstamp with hbefore | hlater
    · rcases RTUEventCall.mem_stamps _ _ _ _ hbefore with ⟨call, hcall, hstamp⟩
      exact ⟨call, List.mem_append_left _ hcall, hstamp⟩
    · rcases RTUEventCall.mem_stamps _ _ _ _ hlater with ⟨call, hcall, hstamp⟩
      exact ⟨call, List.mem_append_right _ hcall, hstamp⟩
  refine Move.conclude current.handle.requestID _ _ _ (by simp [custody, hheld]) ?_
  refine ⟨hnumbered, fun stamp hstamp => ?_, fun stamp hstamp => ?_, ⟨rfl, hcalls.about⟩, ?_, ?_⟩
  · rcases hmem stamp hstamp with ⟨call, _, number, rfl⟩
    rfl
  · rcases hmem stamp hstamp with ⟨call, hcall, number, rfl⟩
    exact (hcalls.quiet call hcall).stamp _ _
  · -- Request numbers are positive, so the answer is about a request.
    rcases hcalls.ends with hresolved | hreceived
    · exact Or.inl hresolved
    · refine Or.inr ⟨hreceived, ?_⟩
      show last.requestID ≠ 0
      rw [hcalls.about]
      exact (h.owned current hheld).2
  · intro hresolved
    rcases hcalls.warned hresolved with ⟨call, hcall, habout, hwhy⟩
    rcases RTUEventCall.exists_stamp endpoint.generation endpoint.nextSequence before call hcall
      with ⟨number, hstamp⟩
    exact ⟨_, hstamp, ⟨rfl, habout⟩, hwhy⟩

/-- How many events an operation checks for in the state it meets, before it emits any. -/
def eventCapacity (endpoint : RTUFixtureEndpoint) : RTUOperation → Nat
  | .beginRead .. | .beginDeviceID .. | .feedByte .. | .failQuiescence _ | .close _ => 1
  | .abandon .. => 2
  | .completeTransmit _ result cancelled now =>
    transmitEventCount result cancelled
      (endpoint.current.any fun current => decide (now ≥ current.deadline))
  | .tick _ _ =>
    if endpoint.state = .writing then 3 else if endpoint.state = .responseWait then 2 else 1
  | .endFrame _ cancelled now =>
    if endpoint.state = .quarantine then
      if now ≤ endpoint.quiescenceDeadline ∧
          endpoint.quarantineDiscarded ≥ endpoint.maxDiscardedFrames then 2 else 1
    else if cancelled = true ∨ endpoint.current.any (fun current => now ≥ current.deadline) then 3
    else 1
  | .tryResynchronize now =>
    if endpoint.state = .quarantine ∧ now ≤ endpoint.quiescenceDeadline ∧
        endpoint.quarantineSawBytes = true then 2 else 1
  | .recover _ => if endpoint.pendingRecovery = "" then 1 else 2

theorem beginRequest_follows (h : endpoint.Consistent) (kind : RTUEventKind) (cancelled : Bool)
    (encoded : Except ProtocolError (List UInt8)) (planned : Option ProtocolError)
    (function : FunctionCode) (plan : RTUReadPlan) (deviceID : Option DeviceIDRequest)
    (now : Duration) (hkind : kind = .beginRead ∨ kind = .beginDeviceID) :
    Follows endpoint 1 fed
      (endpoint.beginRequest kind cancelled encoded planned function plan deviceID now) := by
  unfold beginRequest
  split
  · exact .refused h rfl
  split
  · exact .refused h rfl
  split
  · exact .refused h rfl
  split
  · exact .refused h rfl
  next hidle =>
  rw [not_not] at hidle
  -- An idle endpoint holds no request, so the new one is the only one.
  have hfree : endpoint.current = none := h.current_none (by simp [hidle]) (by simp [hidle])
  split
  · exact .failed rfl hfree (Or.inl rfl) rfl rfl rfl
  next hroom =>
  simp only [not_or] at hroom
  refine Follows.clock h now _ fun hread _ => ?_
  split
  · exact .refused hread rfl
  have hcount := room_of_canEmitLocked _ 1 (by decide) hroom.2.2
  dsimp only
  rw [eventsLocked_of_room _ _ hcount]
  refine .begin [_] (Or.inr ⟨hroom.2.2, le_rfl⟩) ?_ (stamps_numbered _ _ _) hfree rfl ⟨by simp, ?_⟩
    (.out (by simp) rfl rfl (Or.inr rfl))
  · rcases hkind with rfl | rfl <;> simp [RTUEventCall.Quiet]
  · rintro current hcurrent
    cases hcurrent
    exact ⟨rfl, hroom.1⟩

theorem dropCurrent_follows (detail : String) (hevents : reply.events = []) :
    Follows endpoint count fed (reply, endpoint.dropCurrent detail) :=
  .failed hevents rfl (Or.inl rfl) rfl rfl rfl

section Quarantine

variable (h : endpoint.Consistent) (hclocked : endpoint.haveClock = true)
  (current : RTUOwnedRequest) (hheld : endpoint.current = some current)
  (before : List RTUEventCall) (last : RTUEventCall)
  (hcalls : RTUEventCall.Conclude current.handle.requestID before last []) (hfew : count ≤ 3)
  (hroom : ¬ endpoint.canEmitLocked count = false) (hcount : (before ++ [last]).length ≤ count)
include h hclocked hheld hcalls hfew hroom hcount

theorem enterQuarantine_follows (anchor : Duration) :
    Follows endpoint count fed (endpoint.enterQuarantine current anchor (before ++ [last])) := by
  unfold enterQuarantine
  split
  · next failed hfailed =>
    rcases prepareQuarantineLocked_error anchor failed hfailed with ⟨detail, rfl⟩
    exact dropCurrent_follows detail rfl
  next deadlines hdeadlines =>
  dsimp only
  rw [eventsLocked_of_room (endpoint.setQuarantineLocked current anchor _) _
    ((Nat.add_le_add_left hcount _).trans (room_of_canEmitLocked _ _ hfew hroom))]
  refine .conclude h current hheld before last [] (Or.inr ⟨hroom, hcount⟩) hcalls
    (stamps_numbered _ _ _) rfl ?_
    fun _ hbefore => (hbefore.setQuarantineLocked hclocked current anchor _ hdeadlines).same rfl rfl
  exact .of_none rfl (by simp [setQuarantineLocked]) (by simp [setQuarantineLocked])

theorem quarantineUnfinished_follows (now : Duration) :
    Follows endpoint count fed (endpoint.quarantineUnfinished current now (before ++ [last])) := by
  unfold quarantineUnfinished
  split
  · exact dropCurrent_follows _ rfl
  split
  · exact dropCurrent_follows _ rfl
  · exact enterQuarantine_follows h hclocked current hheld before last hcalls hfew hroom hcount _

end Quarantine

/-- The two events of an abandoned request conclude it. -/
theorem conclude_abandonCalls (current : RTUOwnedRequest) (first : List RTUEventCall)
    (hfirst : ∀ call ∈ first, call.Quiet) (detail : String) (later : List RTUEventCall)
    (hlater : ∀ call ∈ later, call.Quiet) :
    RTUEventCall.Conclude current.handle.requestID
      (first ++ [{ kind := .quarantineTransition, requestID := current.handle.requestID
                   unitID := current.plan.unitID, detail := detail }])
      { kind := .waiterResolved, requestID := current.handle.requestID
        unitID := current.plan.unitID, detail := detail } later where
  quiet := by
    intro call hcall
    rcases List.mem_append.mp hcall with hbefore | hafter
    · rcases List.mem_append.mp hbefore with hmem | hmem
      · exact hfirst call hmem
      · rw [List.mem_singleton.mp hmem]
        exact ⟨by simp, by simp⟩
    · exact hlater call hafter
  about := rfl
  ends := Or.inl rfl
  warned := fun _ => ⟨_, List.mem_append_right _ (List.mem_singleton.mpr rfl), rfl, Or.inl rfl⟩

theorem matchesLocked_some (handle : RTURequestHandle) (current : RTUOwnedRequest)
    (h : endpoint.matchesLocked handle = some current) :
    endpoint.current = some current ∧ handle.requestID = current.handle.requestID := by
  unfold matchesLocked at h
  split at h
  · exact nomatch h
  · next hcurrent =>
    split_ifs at h with hmatch
    cases h
    exact ⟨hcurrent, hmatch.2.2.1⟩

section Operations

variable (h : endpoint.Consistent)
include h

theorem completeTransmit_follows (handle : RTURequestHandle) (result : TransmitResult)
    (cancelled : Bool) (now : Duration) :
    Follows endpoint (endpoint.eventCapacity (.completeTransmit handle result cancelled now)) fed
      (endpoint.completeTransmit handle result cancelled now) := by
  unfold completeTransmit
  split
  · exact .refused h rfl
  next current hmatch =>
  rcases matchesLocked_some handle current hmatch with ⟨hheld, hid⟩
  simp only [eventCapacity, hid, hheld, Option.any_some]
  split
  · exact .refused h rfl
  refine Follows.clock h now _ fun hread _ => ?_
  -- A write that sent nothing ends the request, a complete one keeps it if it is in time, and any
  -- other ends it in quarantine.
  cases result with
  | provableZero =>
    simp only [transmitEventCount, if_true]
    split
    · exact dropCurrent_follows _ rfl
    next hroom =>
    rw [eventsLocked_of_room _ _ (room_of_canEmitLocked _ 2 (by decide) hroom)]
    refine .conclude hread current hheld [_] _ [] (Or.inr ⟨hroom, le_rfl⟩) ?_
      (stamps_numbered _ _ _) rfl (.of_none rfl (by simp) (by simp))
      (.out (by simp) rfl rfl (Or.inr rfl))
    exact ⟨by simp [RTUEventCall.Quiet], rfl, Or.inl rfl,
      fun _ => ⟨_, List.mem_singleton.mpr rfl, rfl, Or.inr ⟨rfl, rfl⟩⟩⟩
  | complete =>
    by_cases hlive : cancelled = false ∧ decide (now ≥ current.deadline) = false
    · simp only [transmitEventCount, reduceCtorEq, if_false, ne_eq, not_true_eq_false, hlive,
        Bool.false_eq_true, or_false, and_true, if_true]
      split
      · exact dropCurrent_follows _ rfl
      next hroom =>
      rw [eventsLocked_of_room _ _ (room_of_canEmitLocked _ 1 (by decide) hroom)]
      refine .keep [_] (Or.inr ⟨hroom, le_rfl⟩) (by simp [RTUEventCall.Quiet])
        (stamps_numbered _ _ _) ?_ ⟨by simp, ?_⟩ (.out (by simp) rfl rfl (Or.inl rfl))
      · simp [custody, readClock, hheld]
      · rintro completed hcompleted
        cases hcompleted
        exact hread.owned current hheld
    · have hended : cancelled = true ∨ decide (now ≥ current.deadline) = true := by
        rw [not_and_or, Bool.not_eq_false, Bool.not_eq_false] at hlive
        exact hlive
      simp only [transmitEventCount, reduceCtorEq, if_false, ne_eq, not_true_eq_false,
        false_or, hended, if_true, if_neg hlive]
      split
      · exact dropCurrent_follows _ rfl
      next hroom =>
      -- The completion time is stored before the quarantine, which holds no request.
      have hsent : Consistent { endpoint.readClock now with
          current := some { current with transmitCompletion := now } } := by
        refine ⟨by simpa [hheld, readClock] using hread.active, ?_⟩
        rintro completed hcompleted
        cases hcompleted
        exact hread.owned current hheld
      refine .of_custody (enterQuarantine_follows hsent rfl _ rfl [_, _] _
        (conclude_abandonCalls _ [_] (by simp [RTUEventCall.Quiet]) _ [] (by simp))
        (by decide) hroom le_rfl now) ?_ (.same rfl rfl)
      simp [custody, readClock, hheld]
  | _ =>
    simp only [transmitEventCount, reduceCtorEq, if_false, ne_eq, not_false_eq_true, true_or,
      if_true]
    split
    · exact dropCurrent_follows _ rfl
    next hroom =>
    exact quarantineUnfinished_follows hread rfl current hheld [_, _] _
      (conclude_abandonCalls current [_] (by simp [RTUEventCall.Quiet]) _ [] (by simp))
      (by decide) hroom le_rfl now

theorem quiescenceTimeout_follows (hstate : endpoint.state = .quarantine) (sawBytes : Bool) :
    Follows endpoint 1 fed (endpoint.quiescenceTimeout sawBytes) := by
  have hnone := h.current_none (by simp [hstate]) (by simp [hstate])
  unfold quiescenceTimeout
  split
  · exact .failed rfl hnone (Or.inl rfl) rfl rfl rfl
  next hroom =>
  dsimp only
  rw [eventsLocked_of_room _ _ (room_of_canEmitLocked _ 1 (by decide) hroom)]
  exact .keep [_] (Or.inr ⟨hroom, le_rfl⟩) (by simp [RTUEventCall.Quiet]) (stamps_numbered _ _ _)
    rfl (.of_none hnone (by simp) (by simp)) (.out (by simp) rfl rfl (Or.inl rfl))

theorem tick_follows (cancelled : Bool) (now : Duration) :
    Follows endpoint (endpoint.eventCapacity (.tick cancelled now)) fed
      (endpoint.tick cancelled now) := by
  refine Follows.clock h now _ fun hread _ => ?_
  split
  · next hstate =>
    split
    · exact .refused hread rfl
    · have hquarantine : endpoint.state = .quarantine := hstate
      exact (quiescenceTimeout_follows hread hstate _).counted
        (by simp [eventCapacity, hquarantine])
  split
  · exact .refused hread rfl
  next current hheld =>
  split
  · exact .refused hread rfl
  -- A request that is over while it is written has one event more, the result of its write.
  split
  · next hwriting =>
    split
    · exact dropCurrent_follows _ rfl
    next hroom =>
    exact (quarantineUnfinished_follows hread rfl current hheld [_, _] _
      (conclude_abandonCalls current [_] (by simp [RTUEventCall.Quiet]) _ [] (by simp))
      (by decide) hroom le_rfl now).counted (if_pos hwriting)
  · next hwaiting =>
    split
    · exact dropCurrent_follows _ rfl
    next hroom =>
    refine (enterQuarantine_follows hread rfl current hheld [_] _
      (conclude_abandonCalls current [] (by simp) _ [] (by simp))
      (by decide) hroom le_rfl _).counted ?_
    exact (if_neg fun hwriting => nomatch hwriting.symm.trans hwaiting).trans (if_pos hwaiting)
  · exact .refused hread rfl

theorem abandon_follows (handle : RTURequestHandle) (reason : AbandonReason) (now : Duration) :
    Follows endpoint 2 fed (endpoint.abandon handle reason now) := by
  unfold abandon
  split
  · exact .refused h rfl
  next current hmatch =>
  have hheld := (matchesLocked_some handle current hmatch).1
  split
  · exact .refused h rfl
  split
  · exact dropCurrent_follows _ rfl
  next hroom =>
  refine Follows.clock h now _ fun hread _ => ?_
  exact enterQuarantine_follows hread rfl current hheld [_] _
    (conclude_abandonCalls current [] (by simp) _ [] (by simp))
    (by decide) hroom le_rfl _

/-- A byte, right after the clock was read. -/
theorem feedByteLocked_follows (value : UInt8) (now : Duration)
    (hclock : endpoint.timeline.clock = some now) (hreads : endpoint.Reads now) :
    Follows endpoint 1 (some now) (endpoint.feedByteLocked value now) := by
  unfold feedByteLocked
  split
  · next hstate =>
    have hnone := h.current_none (by simp [hstate]) (by simp [hstate])
    dsimp only
    split
    · refine .drop [] (Or.inl rfl) (fun _ hcall => nomatch hcall) rfl ?_ (.of_none hnone ?_ ?_) ?_
      · simp [custody, requireRecoveryLocked, hnone]
      · simp [requireRecoveryLocked]
      · simp [requireRecoveryLocked]
      · exact fun _ hbefore => hbefore.observe hclock rfl fun hquarantine => nomatch hquarantine
    next idle hidle =>
    rw [checkedRTUOffsetAdd_eq_some] at hidle
    have hconsistent := Consistent.of_none hnone (by simp [hstate]) (by simp [hstate])
    -- In quarantine the byte moves the idle deadline and nothing else of the horizon.
    have hkept : Follows _ 1 none (({} : RTUReply), _) := .refused hconsistent rfl
    refine ⟨hkept.move, .of_none hnone (by simp [hstate]) (by simp [hstate]), ?_, Or.inl rfl⟩
    intro timing hawaits hbefore
    have hlatency := hawaits hstate now rfl hreads
    -- The byte is not before the latency deadline, so neither is the new deadline.
    have hinterFrame := hbefore.ordered.silent
    have hafter : ¬ idle < endpoint.latencyDeadline := by grind
    refine hbefore.observe hclock rfl fun _ => ⟨hstate, ?_⟩
    rw [if_neg hafter]
    grind
  · next hstate =>
    refine .same rfl rfl ⟨h.active, h.owned⟩ fun _ hbefore => ?_
    refine hbefore.observe hclock rfl fun hquarantine => ?_
    exact nomatch hstate.symm.trans hquarantine
  · next hstate =>
    have hnone := h.current_none (by simp [hstate]) (by simp [hstate])
    split
    · exact .failed rfl hnone (Or.inl rfl) rfl rfl rfl
    split
    · exact .failed rfl hnone (Or.inl rfl) rfl rfl rfl
    next hroom =>
    dsimp only
    rw [eventsLocked_of_room _ _ (room_of_canEmitLocked _ 1 (by decide) (not_or.mp hroom).2)]
    exact .keep [_] (Or.inr ⟨(not_or.mp hroom).2, le_rfl⟩) (by simp [RTUEventCall.Quiet])
      (stamps_numbered _ _ _) rfl (.of_none hnone (by simp [hstate]) (by simp [hstate]))
      (.same rfl rfl)
  · exact .refused h rfl

theorem feedByte_follows (value : UInt8) (now : Duration) :
    Follows endpoint 1 (some now) (endpoint.feedByte value now) := by
  refine Follows.clock h now _ fun hread hreads => ?_
  split
  · next hexpired => exact quiescenceTimeout_follows hread hexpired.1 _
  · exact feedByteLocked_follows hread value now rfl hreads

theorem discardQuarantineFrameLocked_follows (hstate : endpoint.state = .quarantine)
    (hcount : count = if endpoint.quarantineDiscarded ≥ endpoint.maxDiscardedFrames then 2 else 1) :
    Follows endpoint count fed endpoint.discardQuarantineFrameLocked := by
  have hnone := h.current_none (by simp [hstate]) (by simp [hstate])
  unfold discardQuarantineFrameLocked
  split
  · exact .failed rfl hnone (Or.inl rfl) rfl rfl rfl
  dsimp only
  -- The frame that is one too many takes two events.
  by_cases hmany : endpoint.quarantineDiscarded ≥ endpoint.maxDiscardedFrames
  · rw [if_pos hmany] at hcount
    simp only [hmany, decide_true, if_true, hcount]
    split
    · exact .failed rfl hnone (Or.inl rfl) rfl rfl rfl
    next hroom =>
    have hnumbers := room_of_canEmitLocked _ 2 (by decide) hroom
    rw [eventsLocked_of_room _ _ ((Nat.le_succ _).trans hnumbers), eventsLocked_of_room]
    · refine .keep [?first, ?second] (Or.inr ⟨hroom, le_rfl⟩) ?quiet ?events rfl
        (.of_none hnone (by simp) (by simp)) (.out (by simp) rfl rfl (Or.inl rfl))
      case events =>
        rw [List.map_append, stamps_numbered, stamps_numbered]
        rfl
      case quiet => simp [RTUEventCall.Quiet]
    · exact hnumbers
  · rw [if_neg hmany] at hcount
    simp only [hmany, decide_false, Bool.false_eq_true, if_false, hcount]
    split
    · exact .failed rfl hnone (Or.inl rfl) rfl rfl rfl
    next hroom =>
    rw [eventsLocked_of_room _ _ (room_of_canEmitLocked _ 1 (by decide) hroom)]
    exact .keep [_] (Or.inr ⟨hroom, le_rfl⟩) (by simp [RTUEventCall.Quiet])
      (stamps_numbered _ _ _) rfl (.of_none hnone (by simp [hstate]) (by simp [hstate]))
      (.same rfl rfl)

theorem receiveUncorrelated_follows (decoded : RTUDecodedFrame) (receivedUnitID : UInt8)
    (receivedFunction : FunctionCode) :
    Follows endpoint 1 fed
      (endpoint.receiveUncorrelated decoded receivedUnitID receivedFunction) := by
  unfold receiveUncorrelated
  split
  · exact dropCurrent_follows _ rfl
  next hroom =>
  simp only [not_or] at hroom
  dsimp only
  rw [eventsLocked_of_room _ _ (room_of_canEmitLocked _ 1 (by decide) hroom.2.2)]
  refine .keep [?first] (Or.inr ⟨hroom.2.2, le_rfl⟩) ?quiet ?events rfl
    ⟨h.active, h.owned⟩ (.same rfl rfl)
  case events =>
    rw [List.map_map]
    exact stamps_numbered _ _ _
  case quiet => simp [RTUEventCall.Quiet]

theorem receiveCorrelated_follows (current : RTUOwnedRequest)
    (hheld : endpoint.current = some current) (decoded : RTUDecodedFrame)
    (receivedFunction : FunctionCode) (now : Duration) :
    Follows endpoint 1 fed (endpoint.receiveCorrelated current decoded receivedFunction now) := by
  unfold receiveCorrelated
  split
  · exact dropCurrent_follows _ rfl
  split
  · exact dropCurrent_follows _ rfl
  next hroom =>
  split
  · exact dropCurrent_follows _ rfl
  dsimp only
  rw [eventsLocked_of_room _ _ (room_of_canEmitLocked _ 1 (by decide) hroom)]
  refine .conclude h current hheld [] ?last [] (Or.inr ⟨hroom, le_rfl⟩) ?concludes ?events
    rfl (.of_none rfl (by simp) (by simp)) (.out (by simp) rfl rfl (Or.inl rfl))
  case events =>
    rw [List.map_map]
    exact stamps_numbered _ _ _
  case concludes => exact ⟨by simp, rfl, Or.inr rfl, fun hresolved => nomatch hresolved⟩

theorem receiveFrameLocked_follows (current : RTUOwnedRequest)
    (hheld : endpoint.current = some current) (frame : List UInt8) (now : Duration) :
    Follows endpoint 1 fed (endpoint.receiveFrameLocked current frame now) := by
  unfold receiveFrameLocked
  dsimp only
  split
  · exact receiveCorrelated_follows h current hheld _ _ now
  · exact receiveUncorrelated_follows h _ _ _

omit h in
/-- Forgetting the last byte does not matter in quarantine either. -/
theorem Spares.forget (hstate : after.state = endpoint.state)
    (htimeline : after.timeline = { endpoint.timeline with observed := none }) :
    Spares endpoint after := by
  refine fun timing h => ⟨?_, fun hquarantine => ?_⟩
  · rw [htimeline]
    exact ⟨h.ordered.silent, h.ordered.latency, h.ordered.interFrame, fun _ hbyte => nomatch hbyte⟩
  · rcases h.settled (hstate ▸ hquarantine) with ⟨hlatency, hidle, hbounded⟩
    rw [htimeline]
    exact ⟨hlatency, hidle, hbounded⟩

theorem discardExpired_follows (hclocked : endpoint.haveClock = true) (current : RTUOwnedRequest)
    (hheld : endpoint.current = some current) (cancelled : Bool) :
    Follows endpoint 3 fed (endpoint.discardExpired current cancelled) := by
  unfold discardExpired
  split
  · exact .failed rfl rfl (Or.inl rfl) rfl rfl rfl
  next hroom =>
  split
  · next failed hfailed =>
    rcases prepareQuarantineLocked_error _ failed hfailed with ⟨detail, rfl⟩
    exact dropCurrent_follows detail rfl
  next deadlines hdeadlines =>
  dsimp only
  rw [eventsLocked_of_room _ _ (room_of_canEmitLocked _ 3 (by decide) (not_or.mp hroom).2)]
  refine .conclude h current hheld [_] _ [_] (Or.inr ⟨(not_or.mp hroom).2, le_rfl⟩) ?_
    (stamps_numbered _ _ _) rfl
    (.of_none rfl (by simp [setQuarantineLocked]) (by simp [setQuarantineLocked])) ?_
  · exact conclude_abandonCalls current [] (by simp) _ [_] (by simp [RTUEventCall.Quiet])
  · -- The frame was late, so the byte that ended it is forgotten.
    intro timing hbefore
    refine Spares.forget ?_ ?_ timing
      (hbefore.setQuarantineLocked hclocked current _ _ hdeadlines)
    all_goals rfl

theorem endFrame_follows (expected : RequestKind) (cancelled : Bool) (now : Duration) :
    Follows endpoint (endpoint.eventCapacity (.endFrame expected cancelled now)) fed
      (endpoint.endFrame expected cancelled now) := by
  refine Follows.clock h now _ fun hread _ => ?_
  split
  · next hexpired =>
    refine (quiescenceTimeout_follows hread hexpired.1 _).counted ?_
    exact (if_pos hexpired.1).trans (if_neg fun hearly => not_le.mpr hexpired.2 hearly.1)
  next hlasting =>
  split
  · next hstate =>
    split
    · exact .refused hread rfl
    have hearly : now ≤ endpoint.quiescenceDeadline :=
      not_lt.mp fun hlate => hlasting ⟨hstate, hlate⟩
    refine .of_custody (discardQuarantineFrameLocked_follows ⟨hread.active, hread.owned⟩ hstate
      ((if_pos hstate).trans ?_)) rfl (.forget rfl rfl)
    simp only [hearly, true_and]
    rfl
  · next current hstate hheld =>
    have hcount : endpoint.eventCapacity (.endFrame expected cancelled now) =
        if cancelled = true ∨ now ≥ current.deadline then 3 else 1 := by
      have hother : endpoint.state ≠ .quarantine := fun hquarantine =>
        nomatch hstate.symm.trans hquarantine
      rw [eventCapacity, if_neg hother, show endpoint.current = some current from hheld]
      simp
    split
    · exact .refused hread rfl
    -- The decoder is not part of custody.
    dsimp only
    split
    · exact .same rfl rfl ⟨hread.active, hread.owned⟩ (.same rfl rfl)
    rw [hcount]
    split
    · refine .of_custody (discardExpired_follows ⟨?_, ?_⟩ ?_ current ?_ _) rfl (.same rfl rfl)
      exacts [hread.active, hread.owned, rfl, hheld]
    · refine .of_custody (receiveFrameLocked_follows ⟨?_, ?_⟩ current ?_ _ _) rfl (.same rfl rfl)
      exacts [hread.active, hread.owned, hheld]
  · exact .refused hread rfl

omit h in
/-- A release after the events of `calls`. -/
theorem release_follows (discarded : RTUFixtureEndpoint) (calls : List RTUEventCall)
    (events : List RTUEvent) (hquiet : ∀ call ∈ calls, call.Quiet)
    (hevents : events.map RTUEvent.stamp =
      RTUEventCall.stamps endpoint.generation endpoint.nextSequence calls)
    (hcustody : discarded.custody =
      { endpoint.custody with sequence := endpoint.nextSequence + calls.length })
    (hnone : discarded.current = none) (hfew : count ≤ 3)
    (hroom : ¬ endpoint.canEmitLocked count = false) (hcount : calls.length < count)
    (htiming : discarded.timing = endpoint.timing)
    (hclock : discarded.timeline.clock = endpoint.timeline.clock) :
    Follows endpoint count fed (discarded.release events) := by
  have hsequence : discarded.nextSequence = endpoint.nextSequence + calls.length :=
    congrArg RTUCustody.sequence hcustody
  have hgeneration : discarded.generation = endpoint.generation :=
    congrArg RTUCustody.generation hcustody
  unfold release
  rw [eventsLocked_of_room]
  · refine .keep (calls ++ [?resynchronized]) (Or.inr ⟨hroom, ?few⟩) ?quiet ?events ?_
      (.of_none hnone (by simp) (by simp)) (.out (by simp) htiming hclock (Or.inr rfl))
    case events =>
      rw [List.map_append, hevents, stamps_numbered, RTUEventCall.stamps_append, ← hsequence,
        ← hgeneration]
    case quiet =>
      intro call hcall
      rcases List.mem_append.mp hcall with hmem | hmem
      · exact hquiet call hmem
      · rw [List.mem_singleton.mp hmem]
        exact ⟨by simp, by simp⟩
    case few =>
      rw [List.length_append]
      exact hcount
    · show { discarded.custody with sequence := discarded.nextSequence + 1 } = _
      rw [hcustody, hsequence, List.length_append]
      rfl
  · have hnumbers := room_of_canEmitLocked _ _ hfew hroom
    simp only [List.length_singleton]
    omega

theorem releaseQuarantine_follows (hstate : endpoint.state = .quarantine) :
    Follows endpoint (if endpoint.quarantineSawBytes then 2 else 1) fed
      endpoint.releaseQuarantine := by
  have hnone := h.current_none (by simp [hstate]) (by simp [hstate])
  unfold releaseQuarantine
  -- Bytes in quarantine were a frame, which is discarded before the release.
  by_cases hsaw : endpoint.quarantineSawBytes = true
  · simp only [hsaw, if_true]
    split
    · exact .failed rfl hnone (Or.inl rfl) rfl rfl rfl
    next hroom =>
    have hcount := room_of_canEmitLocked _ 2 (by decide) hroom
    have hfirst := (Nat.le_succ _).trans hcount
    split
    · rw [eventsLocked_of_room _ _ hfirst]
      exact .keep [_] (Or.inr ⟨hroom, by simp⟩) (by simp [RTUEventCall.Quiet])
        (stamps_numbered _ _ _) rfl (.of_none hnone (by simp) (by simp))
        (.out (by simp) rfl rfl (Or.inl rfl))
    rw [eventsLocked_of_room _ _ hfirst]
    split
    · rw [eventsLocked_of_room _ _ hcount]
      refine .keep [?first, ?second] (Or.inr ⟨hroom, le_rfl⟩) ?quiet ?events rfl
        (.of_none hnone (by simp) (by simp)) (.out (by simp) rfl rfl (Or.inl rfl))
      case events =>
        rw [List.map_append, stamps_numbered, stamps_numbered]
        rfl
      case quiet => simp [RTUEventCall.Quiet]
    · exact release_follows _ [_] _ (by simp [RTUEventCall.Quiet])
        (stamps_numbered _ _ _) rfl hnone (by decide) hroom (by simp) rfl rfl
  · simp only [hsaw, Bool.false_eq_true, if_false]
    split
    · exact .failed rfl hnone (Or.inl rfl) rfl rfl rfl
    next hroom =>
    exact release_follows endpoint [] [] (by simp) rfl rfl hnone (by decide) hroom (by simp) rfl rfl

omit h in
/-- Recovery is required by one event, from a state without a request. -/
theorem requireByEvent_follows (hnone : endpoint.current = none) (err : Option RTUError)
    (call : RTUEventCall) (hquiet : call.Quiet) (hroom : ¬ endpoint.canEmitLocked 1 = false) :
    Follows endpoint 1 fed
      ({ err := err
         events := ({ endpoint with state := .recoveryRequired }.eventsLocked [call]).1 },
        ({ endpoint with state := .recoveryRequired }.eventsLocked [call]).2) := by
  rw [eventsLocked_of_room _ _ (room_of_canEmitLocked _ 1 (by decide) hroom)]
  exact .keep [call] (Or.inr ⟨hroom, le_rfl⟩) (by simpa using hquiet) (stamps_numbered _ _ _) rfl
    (.of_none hnone (by simp) (by simp)) (.out (by simp) rfl rfl (Or.inl rfl))

theorem tryResynchronize_follows (now : Duration) :
    Follows endpoint (endpoint.eventCapacity (.tryResynchronize now)) fed
      (endpoint.tryResynchronize now) := by
  refine Follows.clock h now _ fun hread _ => ?_
  split
  · next hstate =>
    have hnone := hread.current_none (by simp [hstate]) (by simp [hstate])
    split
    · exact .refused hread rfl
    split
    · exact .failed rfl hnone (Or.inl rfl) rfl rfl rfl
    next hroom =>
    refine (release_follows _ [] [] (by simp) rfl rfl hnone (by decide) hroom (by simp) rfl
      rfl).counted (if_neg fun hquarantine => ?_)
    exact nomatch hstate.symm.trans hquarantine.1
  · next hstate =>
    have hnone := hread.current_none (by simp [hstate]) (by simp [hstate])
    split
    · next hlate =>
      split
      · exact .failed rfl hnone (Or.inl rfl) rfl rfl rfl
      next hroom =>
      refine (requireByEvent_follows hnone _ _ ?_ hroom).counted ?_
      · simp [RTUEventCall.Quiet]
      · exact if_neg fun hearly => not_le.mpr hlate hearly.2.1
    next hearly =>
    split
    · exact .refused hread rfl
    · refine (releaseQuarantine_follows hread hstate).counted ?_
      have hlasting : endpoint.state = .quarantine ∧ now ≤ endpoint.quiescenceDeadline :=
        ⟨hstate, not_lt.mp hearly⟩
      simp only [eventCapacity, hlasting, true_and]
      rfl
  · exact .refused hread rfl

theorem failQuiescence_follows (now : Duration) :
    Follows endpoint 1 fed (endpoint.failQuiescence now) := by
  unfold failQuiescence
  split
  · exact .refused h rfl
  next hstate =>
  rw [not_not] at hstate
  refine Follows.clock h now _ fun hread _ => ?_
  have hnone : (endpoint.readClock now).current = none :=
    h.current_none (by simp [hstate]) (by simp [hstate])
  split
  · exact .failed rfl hnone (Or.inl rfl) rfl rfl rfl
  next hroom =>
  refine requireByEvent_follows hnone _ _ ?_ hroom
  simp [RTUEventCall.Quiet]

omit h in
theorem Follows.recover (before last : List RTUEventCall)
    (hfits : endpoint.Fits count (before ++ last)) (hquiet : ∀ call ∈ before ++ last, call.Quiet)
    (hevents : reply.events.map RTUEvent.stamp =
      RTUEventCall.stamps endpoint.generation endpoint.nextSequence before ++
        RTUEventCall.stamps (endpoint.generation + 1) (endpoint.nextSequence + before.length) last)
    (hafter : after.custody =
      { endpoint.custody with
        generation := endpoint.generation + 1, nextRequestID := 1, holder := none
        sequence := endpoint.nextSequence + (before ++ last).length })
    (hconsistent : after.Consistent) (hspares : Spares endpoint after) :
    Follows endpoint count fed (reply, after) := by
  have hlength : (before ++ last).length =
      (RTUEventCall.stamps endpoint.generation endpoint.nextSequence before ++
        RTUEventCall.stamps (endpoint.generation + 1) (endpoint.nextSequence + before.length)
          last).length := by
    simp [RTUEventCall.length_stamps]
  refine ⟨?_, hconsistent, fun timing _ => hspares timing,
    hfits.room (by rw [hevents, ← hlength])⟩
  rw [hevents, hafter, hlength]
  refine Move.recover _ ?_ (fun stamp hstamp => ?_) (fun stamp hstamp => ?_)
  · rw [RTUStamp.numbered_append, RTUEventCall.length_stamps]
    exact ⟨RTUEventCall.numbered_stamps _ _ _, RTUEventCall.numbered_stamps _ _ _⟩
  · rcases List.mem_append.mp hstamp with hmem | hmem
    · rcases RTUEventCall.mem_stamps _ _ _ _ hmem with ⟨call, _, number, rfl⟩
      exact Nat.le_succ _
    · rcases RTUEventCall.mem_stamps _ _ _ _ hmem with ⟨call, _, number, rfl⟩
      exact Nat.le_refl _
  · rcases List.mem_append.mp hstamp with hmem | hmem
    · rcases RTUEventCall.mem_stamps _ _ _ _ hmem with ⟨call, hcall, number, rfl⟩
      exact (hquiet call (List.mem_append_left _ hcall)).stamp _ _
    · rcases RTUEventCall.mem_stamps _ _ _ _ hmem with ⟨call, hcall, number, rfl⟩
      exact (hquiet call (List.mem_append_right _ hcall)).stamp _ _

theorem recover_follows (now : Duration) :
    Follows endpoint (endpoint.eventCapacity (.recover now)) fed (endpoint.recover now) := by
  unfold recover
  split
  · exact .refused h rfl
  refine Follows.clock h now _ fun hread _ => ?_
  -- A recovery that was only pending is announced in the old generation first.
  by_cases hpending : (endpoint.readClock now).pendingRecovery = ""
  · rw [show endpoint.eventCapacity (.recover now) = 1 from if_pos hpending]
    simp only [hpending, if_true]
    split
    · exact .refused hread rfl
    next hroom =>
    rw [eventsLocked_of_room _ _ (room_of_canEmitLocked _ 1 (by decide) hroom)]
    exact .recover [] [_] (Or.inr ⟨hroom, le_rfl⟩) (by simp [RTUEventCall.Quiet])
      (stamps_numbered _ _ _) rfl (.of_none rfl (by simp) (by simp))
      (.out (by simp) rfl rfl (Or.inr rfl))
  · rw [show endpoint.eventCapacity (.recover now) = 2 from if_neg hpending]
    simp only [hpending, if_false]
    split
    · exact .refused hread rfl
    next hroom =>
    have hcount := room_of_canEmitLocked _ 2 (by decide) hroom
    rw [eventsLocked_of_room _ _ ((Nat.le_succ _).trans hcount)]
    rw [eventsLocked_of_room _ _ hcount]
    refine .recover [?pending] [?recovered] (Or.inr ⟨hroom, le_rfl⟩) ?quiet ?events rfl
      (.of_none rfl (by simp) (by simp)) (.out (by simp) rfl rfl (Or.inr rfl))
    case events => rw [List.map_append, stamps_numbered, stamps_numbered]
    case quiet => simp [RTUEventCall.Quiet]

theorem close_follows (now : Duration) : Follows endpoint 1 fed (endpoint.close now) := by
  unfold close
  split
  · exact .refused h rfl
  by_cases hreads : endpoint.Reads now
  · -- The reading comes first, and then custody is dropped.
    have hread : Spares endpoint (endpoint.readClock now) := fun _ h => h.readClock now hreads
    rw [nowLocked_of_reads _ _ hreads]
    refine @Follows.of_custody _ _ _ (endpoint.readClock now) _ ?_ rfl hread
    dsimp only
    split
    · exact .failed rfl rfl (Or.inr rfl) rfl rfl rfl
    next hroom =>
    rw [eventsLocked_of_room _ _ (room_of_canEmitLocked _ 1 (by decide) hroom)]
    exact .drop [_] (Or.inr ⟨hroom, le_rfl⟩) (by simp [RTUEventCall.Quiet])
      (stamps_numbered _ _ _) rfl (.of_none rfl (by simp) (by simp))
      (.out (by simp) rfl rfl (Or.inr rfl))
  · rw [nowLocked_of_not_reads _ _ hreads]
    exact .failed rfl rfl (Or.inr rfl) rfl rfl rfl

/-- Every call of a consistent endpoint is a move of its custody and, if a byte is not fed
    too early, keeps its horizon. -/
theorem step_follows (call : RTUCall) :
    Follows endpoint (endpoint.eventCapacity call.operation)
      (if call.callback then none else call.operation.fedAt)
      (endpoint.step call) := by
  unfold step
  -- A call out of an event callback is refused.
  split
  · exact .refused h rfl
  cases call.operation with
  | beginRead cancelled plan now => exact beginRequest_follows h _ _ _ _ _ _ _ _ (Or.inl rfl)
  | beginDeviceID cancelled plan now => exact beginRequest_follows h _ _ _ _ _ _ _ _ (Or.inr rfl)
  | completeTransmit handle result cancelled now =>
    exact completeTransmit_follows h handle result cancelled now
  | tick cancelled now => exact tick_follows h cancelled now
  | abandon handle reason now => exact abandon_follows h handle reason now
  | feedByte value now => exact feedByte_follows h value now
  | endFrame expected cancelled now => exact endFrame_follows h expected cancelled now
  | tryResynchronize now => exact tryResynchronize_follows h now
  | failQuiescence now => exact failQuiescence_follows h now
  | recover now => exact recover_follows h now
  | close now => exact close_follows h now

end Operations

/-- All events of a run, in the order in which they were dispatched. -/
def runEvents (endpoint : RTUFixtureEndpoint) (calls : List RTUCall) : List RTUEvent :=
  (endpoint.run calls).1.flatMap RTUReply.events

/-- Custody is sound along every run, and the endpoint stays consistent. -/
theorem run_follows (h : endpoint.Consistent) (history : List RTUStamp)
    (hsound : Sound history endpoint.custody) (calls : List RTUCall) :
    Sound (history ++ (endpoint.runEvents calls).map RTUEvent.stamp)
        (endpoint.run calls).2.custody ∧
      (endpoint.run calls).2.Consistent := by
  -- The history grows by the events of each call.
  induction calls generalizing endpoint history with
  | nil => simpa [runEvents, run] using ⟨hsound, h⟩
  | cons call rest ih =>
    have hfollows := step_follows h call
    have hrest := ih hfollows.consistent _ (hsound.move hfollows.move)
    simp only [runEvents, run, List.flatMap_cons, List.map_append] at hrest ⊢
    rwa [List.append_assoc] at hrest

/-- A run numbers its events one after the other, and has a number for each of them. -/
theorem run_numbers (h : endpoint.Consistent) (calls : List RTUCall) :
    RTUStamp.Numbered endpoint.nextSequence ((endpoint.runEvents calls).map RTUEvent.stamp) ∧
      (endpoint.run calls).2.nextSequence =
        endpoint.nextSequence + (endpoint.runEvents calls).length ∧
      (endpoint.run calls).2.exhausted = endpoint.exhausted ∧
      (endpoint.run calls).2.Consistent := by
  induction calls generalizing endpoint with
  | nil => exact ⟨trivial, rfl, rfl, h⟩
  | cons call rest ih =>
    have hfollows := step_follows h call
    rcases hfollows.move.numbers with ⟨hfirst, hsequence, hexhausted⟩
    rcases ih hfollows.consistent with ⟨hrest, hnext, hnever, hafter⟩
    simp only [custody, List.length_map] at hfirst hsequence hexhausted
    simp only [runEvents, run, List.flatMap_cons, List.map_append, List.length_append]
      at hrest hnext ⊢
    refine ⟨(RTUStamp.numbered_append _ _ _).mpr ⟨hfirst, ?_⟩, ?_, hnever.trans hexhausted, hafter⟩
    · rwa [List.length_map, ← hsequence]
    · rw [hnext, hsequence, Nat.add_assoc]

theorem step_horizon (h : endpoint.Consistent) {timing : RTUTiming}
    (hhorizon : endpoint.Horizon timing) (call : RTUCall) (hpatient : endpoint.Patient call) :
    (endpoint.step call).2.Horizon timing := by
  refine (step_follows h call).horizon timing (fun hstate now hnow hreads => ?_) hhorizon
  by_cases hcallback : call.callback = true
  · rw [if_pos hcallback] at hnow
    exact nomatch hnow
  · rw [if_neg hcallback] at hnow
    exact hpatient hstate (Bool.eq_false_iff.mpr hcallback) now hnow hreads

theorem run_horizon (h : endpoint.Consistent) {timing : RTUTiming}
    (hhorizon : endpoint.Horizon timing) (calls : List RTUCall)
    (hpatient : endpoint.PatientRun calls) :
    (endpoint.run calls).2.Consistent ∧ (endpoint.run calls).2.Horizon timing := by
  induction calls generalizing endpoint with
  | nil => exact ⟨h, hhorizon⟩
  | cons call rest ih =>
    exact ih (step_follows h call).consistent (step_horizon h hhorizon call hpatient.1)
      hpatient.2

/-- A new endpoint has no request, is not in quarantine, and its intervals are not
    negative. -/
theorem newRTUFixtureEndpoint_follows (id : Nat) (config : RTUFixtureEndpointConfig)
    (h : newRTUFixtureEndpoint id config = .ok endpoint) :
    (Sound [] endpoint.custody ∧ endpoint.exhausted = 0) ∧ endpoint.Consistent ∧
      endpoint.Horizon config.timing := by
  unfold newRTUFixtureEndpoint at h
  dsimp only at h
  split at h
  · exact nomatch h
  next minimum hminimum =>
  rw [checkedRTUOffsetAdd_eq_some] at hminimum
  split at h
  · exact nomatch h
  split at h
  · exact nomatch h
  cases h
  exact ⟨⟨Sound.empty 1 0, rfl⟩, .of_none rfl (by simp) (by simp),
    ⟨hminimum.2.1, rfl, rfl, fun byte hbyte => nomatch hbyte⟩, fun hstate => nomatch hstate⟩

end RTUFixtureEndpoint

end HelianthusModbus
