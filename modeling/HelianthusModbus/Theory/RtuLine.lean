import HelianthusModbus.Theory.RtuSteps

/-!
# Closing an RTU Endpoint

An endpoint claims its line when it is built and gives it back when it is closed, so
that a line has one owner at a time. This rests on a closed endpoint staying closed.

Most operations look at the state first and do nothing on a closed endpoint. Four of them
read the clock first, and a reading that is negative or goes back moves the endpoint to
`recoveryRequired` from any state. From there it can be recovered and used again, also
while another endpoint has the line. The condition of the main theorem excludes exactly
those readings on a closed endpoint.

## Main definitions

* `RTUFixtureEndpoint.Steady`: The call does not read a bad clock on a closed endpoint.
* `RTUFixtureLine.Steady`: So it is in every call of a run.
* `RTUFixtureLine.Owned`: Only the owner of the line is not closed.

## Theorems

* `RTUFixtureLine.closed_final`: Closing is final and the line has one owner.
* `RTUFixtureLine.closed_endpoint_reopens`: Without the condition both fail.
-/

namespace HelianthusModbus

/-- The reading of an operation that reads the clock before it looks at the state. -/
def RTUOperation.firstReading : RTUOperation → Option Duration
  | .tick _ now => some now
  | .feedByte _ now => some now
  | .endFrame _ _ now => some now
  | .tryResynchronize now => some now
  | _ => none

/-- An operation that starts a request. -/
def RTUOperation.begins : RTUOperation → Bool
  | .beginRead _ _ _ => true
  | .beginDeviceID _ _ _ => true
  | _ => false

namespace RTUFixtureEndpoint

/-- On a closed endpoint, an operation that reads the clock first reads an accepted
    value. -/
def Steady (endpoint : RTUFixtureEndpoint) (call : RTUCall) : Prop :=
  endpoint.state = .closed → call.callback = false →
    ∀ now ∈ call.operation.firstReading, endpoint.Reads now

instance (endpoint : RTUFixtureEndpoint) (call : RTUCall) : Decidable (endpoint.Steady call) :=
  inferInstanceAs (Decidable (_ → _ → ∀ now ∈ call.operation.firstReading, endpoint.Reads now))

section Closed

variable (endpoint : RTUFixtureEndpoint) (h : endpoint.state = .closed)
include h

theorem beginRequest_closed (kind : RTUEventKind) (cancelled : Bool)
    (encoded : Except ProtocolError (List UInt8)) (planned : Option ProtocolError)
    (function : FunctionCode) (plan : RTUReadPlan) (deviceID : Option DeviceIDRequest)
    (now : Duration) :
    (endpoint.beginRequest kind cancelled encoded planned function plan deviceID now).2 = endpoint ∧
      (endpoint.beginRequest kind cancelled encoded planned function plan deviceID now).1.err ≠
        none := by
  unfold beginRequest
  have hidle : endpoint.state ≠ .idle := by simp [h]
  split
  · exact ⟨rfl, by simp [RTUReply.fail]⟩
  · split
    · exact ⟨rfl, by simp [RTUReply.fail]⟩
    · split
      · exact ⟨rfl, by simp [RTUReply.fail]⟩
      · exact ⟨rfl, by simp [RTUReply.fail]⟩

/-- An operation that reads the clock first finds nothing to do on a closed endpoint. -/
theorem perform_closed_reading (operation : RTUOperation) (now : Duration)
    (hfirst : operation.firstReading = some now) (hreads : endpoint.Reads now) :
    (endpoint.perform operation).2 = endpoint.readClock now := by
  have hread := nowLocked_of_reads endpoint now hreads
  have hclosed : (endpoint.readClock now).state = .closed := h
  cases operation with
  | tick cancelled reading =>
    cases hfirst
    simp only [perform, tick, hread, hclosed, reduceCtorEq, if_false]
    split
    · rfl
    · split_ifs <;> rfl
  | feedByte value reading =>
    cases hfirst
    simp [perform, feedByte, hread, hclosed, feedByteLocked]
  | endFrame expected cancelled reading =>
    cases hfirst
    simp [perform, endFrame, hread, hclosed]
  | tryResynchronize reading =>
    cases hfirst
    simp [perform, tryResynchronize, hread, hclosed]
  | _ => exact nomatch hfirst

/-- Every other operation leaves a closed endpoint as it is. -/
theorem perform_closed_state (operation : RTUOperation) (hfirst : operation.firstReading = none) :
    (endpoint.perform operation).2 = endpoint := by
  cases operation with
  | beginRead cancelled plan now | beginDeviceID cancelled plan now =>
    exact (beginRequest_closed endpoint h ..).1
  | completeTransmit handle result cancelled now =>
    simp only [perform, completeTransmit, h]
    split <;> simp
  | abandon handle reason now =>
    simp only [perform, abandon, h]
    split <;> simp
  | failQuiescence now => simp [perform, failQuiescence, h]
  | recover now => simp [perform, recover, h]
  | close now => simp [perform, close, h]
  | _ => exact nomatch hfirst

theorem step_closed (call : RTUCall) (hsteady : endpoint.Steady call) :
    (endpoint.step call).2.state = .closed := by
  unfold step
  by_cases hcallback : call.callback = true
  · rw [if_pos hcallback]
    exact h
  · rw [if_neg hcallback]
    cases hfirst : call.operation.firstReading with
    | none => rw [perform_closed_state endpoint h _ hfirst, h]
    | some now =>
      have hreads := hsteady h (Bool.eq_false_iff.mpr hcallback) now hfirst
      rw [perform_closed_reading endpoint h _ now hfirst hreads]
      exact h

theorem step_begins_closed (call : RTUCall) (hbegins : call.operation.begins = true) :
    (endpoint.step call).1.err ≠ none := by
  unfold step
  split_ifs
  · simp [RTUReply.fail]
  · cases hoperation : call.operation with
    | beginRead cancelled plan now | beginDeviceID cancelled plan now =>
      exact (beginRequest_closed endpoint h ..).2
    | _ => exact nomatch hoperation ▸ hbegins

end Closed

/-- The line is only given back by an endpoint that is closed then. -/
theorem step_releases (endpoint : RTUFixtureEndpoint) (call : RTUCall)
    (h : endpoint.releases call = true) : (endpoint.step call).2.state = .closed := by
  unfold releases at h
  cases hoperation : call.operation with
  | close now =>
    rw [hoperation] at h
    have hopen := of_decide_eq_true h
    simp only [step, hopen.1, hoperation, perform, close, if_neg hopen.2, Bool.false_eq_true,
      if_false]
    by_cases hreads : endpoint.Reads now
    · rw [nowLocked_of_reads _ _ hreads]
      dsimp only
      split_ifs with hroom
      · rfl
      · rw [eventsLocked_of_room]
        exact room_of_canEmitLocked (endpoint.readClock now) 1 (by decide) hroom
    · rw [nowLocked_of_not_reads _ _ hreads]
  | _ => rw [hoperation] at h; exact nomatch h

end RTUFixtureEndpoint

namespace RTUFixtureLine

/-- The call is steady for the endpoint it reaches. -/
def SteadyCall (line : RTUFixtureLine) : RTULineCall → Prop
  | .newEndpoint _ => True
  | .call id call => ∀ endpoint ∈ line.endpoints[id]?, endpoint.Steady call

instance (line : RTUFixtureLine) : (call : RTULineCall) → Decidable (line.SteadyCall call)
  | .newEndpoint _ => .isTrue trivial
  | .call id call =>
    inferInstanceAs (Decidable (∀ endpoint ∈ line.endpoints[id]?, endpoint.Steady call))

/-- Every call of the run is steady. -/
def Steady (line : RTUFixtureLine) : List RTULineCall → Prop
  | [] => True
  | call :: rest => line.SteadyCall call ∧ (line.step call).2.Steady rest

instance decidableSteady : (line : RTUFixtureLine) → (calls : List RTULineCall) →
    Decidable (line.Steady calls)
  | _, [] => .isTrue trivial
  | line, call :: rest =>
    have := decidableSteady (line.step call).2 rest
    inferInstanceAs (Decidable (line.SteadyCall call ∧ (line.step call).2.Steady rest))

/-- Only the owner of the line is not closed. -/
def Owned (line : RTUFixtureLine) : Prop :=
  ∀ id endpoint, line.endpoints[id]? = some endpoint → endpoint.state ≠ .closed →
    line.owner = some id

theorem step_call (line : RTUFixtureLine) (id : Nat) (call : RTUCall)
    (endpoint : RTUFixtureEndpoint) (h : line.endpoints[id]? = some endpoint) :
    line.step (.call id call) =
      ((endpoint.step call).1,
        { line with
          owner := if endpoint.releases call = true ∧ line.owner = some id then none
            else line.owner
          endpoints := line.endpoints.set id (endpoint.step call).2 }) := by
  simp [step, h]

/-- A closed endpoint is still there and closed after a steady call of any endpoint. -/
theorem step_keeps_closed (line : RTUFixtureLine) (call : RTULineCall)
    (hsteady : line.SteadyCall call) (id : Nat) (endpoint : RTUFixtureEndpoint)
    (h : line.endpoints[id]? = some endpoint) (hclosed : endpoint.state = .closed) :
    ∃ after, (line.step call).2.endpoints[id]? = some after ∧ after.state = .closed := by
  cases call with
  | newEndpoint config =>
    -- A new endpoint is appended, and every other one keeps its number.
    refine ⟨endpoint, ?_, hclosed⟩
    simp only [step, newEndpoint]
    split
    · exact h
    · split_ifs
      · exact h
      · rw [List.getElem?_append_left (List.getElem?_eq_some_iff.mp h).1, h]
  | call target call =>
    by_cases htarget : target = id
    · subst htarget
      rw [step_call line target call endpoint h]
      have hlt := (List.getElem?_eq_some_iff.mp h).1
      refine ⟨(endpoint.step call).2, List.getElem?_set_self hlt, ?_⟩
      exact endpoint.step_closed hclosed call (hsteady endpoint h)
    · refine ⟨endpoint, ?_, hclosed⟩
      cases hother : line.endpoints[target]? with
      | none => simpa only [step, hother] using h
      | some other =>
        rw [step_call line target call other hother]
        rw [List.getElem?_set_ne htarget, h]

/-- A steady call keeps the line with its owner. -/
theorem step_owned (line : RTUFixtureLine) (howned : line.Owned) (call : RTULineCall)
    (hsteady : line.SteadyCall call) : (line.step call).2.Owned := by
  cases call with
  | newEndpoint config =>
    simp only [step, newEndpoint]
    split
    · exact howned
    · split_ifs with howner
      · exact howned
      · intro id endpoint hendpoint hopen
        by_cases hid : id < line.endpoints.length
        · -- An endpoint that is not closed would own the line, which has no owner.
          rw [List.getElem?_append_left hid] at hendpoint
          rw [howned id endpoint hendpoint hopen] at howner
          exact absurd rfl howner
        · have hlength := (List.getElem?_eq_some_iff.mp hendpoint).1
          rw [List.length_append, List.length_singleton] at hlength
          rw [show id = line.endpoints.length by omega]
  | call target call =>
    cases htarget : line.endpoints[target]? with
    | none => simpa only [step, htarget] using howned
    | some stepped =>
      rw [step_call line target call stepped htarget]
      intro id endpoint hendpoint hopen
      by_cases hid : target = id
      · subst hid
        have hlt := (List.getElem?_eq_some_iff.mp htarget).1
        rw [List.getElem?_set_self hlt, Option.some.injEq] at hendpoint
        subst hendpoint
        have hstepped : stepped.state ≠ .closed := fun hclosed =>
          hopen (stepped.step_closed hclosed call (hsteady stepped htarget))
        have hkept : ¬ stepped.releases call = true := fun hreleases =>
          hopen (stepped.step_releases call hreleases)
        simp only [hkept, Bool.false_eq_true, false_and, if_false]
        exact howned target stepped htarget hstepped
      · rw [List.getElem?_set_ne hid] at hendpoint
        have howner := howned id endpoint hendpoint hopen
        have hother : line.owner ≠ some target := by
          rw [howner]
          simpa using fun h => hid h.symm
        simp only [hother, and_false, if_false]
        exact howner

theorem run_append (line : RTUFixtureLine) (before after : List RTULineCall) :
    line.run (before ++ after) = (line.run before).run after :=
  List.foldl_append

theorem steady_append (line : RTUFixtureLine) (before after : List RTULineCall) :
    line.Steady (before ++ after) ↔ line.Steady before ∧ (line.run before).Steady after := by
  induction before generalizing line with
  | nil => simp [Steady, run]
  | cons call rest ih =>
    simp only [List.cons_append, Steady, ih, run, List.foldl_cons, and_assoc]

theorem run_owned (line : RTUFixtureLine) (howned : line.Owned) (calls : List RTULineCall)
    (hsteady : line.Steady calls) : (line.run calls).Owned := by
  induction calls generalizing line with
  | nil => exact howned
  | cons call rest ih =>
    exact ih _ (step_owned line howned call hsteady.1) hsteady.2

theorem run_keeps_closed (line : RTUFixtureLine) (calls : List RTULineCall)
    (hsteady : line.Steady calls) (id : Nat) (endpoint : RTUFixtureEndpoint)
    (h : line.endpoints[id]? = some endpoint) (hclosed : endpoint.state = .closed) :
    ∃ after, (line.run calls).endpoints[id]? = some after ∧ after.state = .closed := by
  induction calls generalizing line endpoint with
  | nil => exact ⟨endpoint, h, hclosed⟩
  | cons call rest ih =>
    rcases step_keeps_closed line call hsteady.1 id endpoint h hclosed with
      ⟨next, hnext, hstill⟩
    exact ih _ hsteady.2 next hnext hstill

/-- In a run in which no closed endpoint reads a bad clock, an endpoint that is closed at
    some point is closed at every later one, starts no request from there on, and at every
    point at most one endpoint of the line is not closed. -/
theorem closed_final (identity : String) (line : RTUFixtureLine)
    (hnew : newRTUFixtureLine identity = .ok line) (calls : List RTULineCall)
    (hsteady : line.Steady calls) (before after : List RTULineCall)
    (hcalls : calls = before ++ after) :
    (∀ id endpoint, (line.run before).endpoints[id]? = some endpoint →
      endpoint.state = .closed →
        (∃ later, (line.run calls).endpoints[id]? = some later ∧ later.state = .closed) ∧
        ∀ call : RTUCall, call.operation.begins = true →
          ((line.run before).step (.call id call)).1.err ≠ none) ∧
      ∀ (first second : Nat) (one other : RTUFixtureEndpoint),
        (line.run before).endpoints[first]? = some one →
        (line.run before).endpoints[second]? = some other → one.state ≠ .closed →
          other.state ≠ .closed → first = second := by
  subst hcalls
  rw [steady_append] at hsteady
  have hempty : line.Owned := by
    unfold newRTUFixtureLine at hnew
    split_ifs at hnew
    cases hnew
    intro id endpoint h
    exact nomatch h
  have howned := run_owned line hempty before hsteady.1
  refine ⟨fun id endpoint h hclosed => ⟨?_, fun call hbegins => ?_⟩, ?_⟩
  · rw [run_append]
    exact run_keeps_closed _ after hsteady.2 id endpoint h hclosed
  · rw [step_call _ id call endpoint h]
    exact endpoint.step_begins_closed hclosed call hbegins
  · intro first second one other hone hother hopen hopen'
    have howner := howned first one hone hopen
    rw [howned second other hother hopen', Option.some.injEq] at howner
    exact howner.symm

/-- An endpoint that is closed, and a second one that takes the line over. -/
def replaced : List RTULineCall :=
  [.newEndpoint fixtureConfig, .call 0 { operation := .close 5 }, .newEndpoint fixtureConfig]

/-- The closed endpoint reads the clock once more. -/
def replacedTick (now : Duration) : List RTULineCall :=
  replaced ++ [.call 0 { operation := .tick false now }]

theorem closed_final_replaced :
    ∃ line later : RTUFixtureLine, newRTUFixtureLine "line" = .ok line ∧
      line.Steady (replacedTick 9) ∧ later = line.run (replacedTick 9) ∧
      later.endpoints.map RTUFixtureEndpoint.state = [.closed, .idle] ∧
      ∀ (first second : Nat) (one other : RTUFixtureEndpoint),
        later.endpoints[first]? = some one → later.endpoints[second]? = some other →
          one.state ≠ .closed → other.state ≠ .closed → first = second := by
  have hsteady : RTUFixtureLine.Steady { identity := "line" } (replacedTick 9) := by
    decide +kernel
  refine ⟨{ identity := "line" }, _, rfl, hsteady, rfl, by decide +kernel, ?_⟩
  exact (closed_final "line" _ rfl _ hsteady (replacedTick 9) [] rfl).2

/-- A closed endpoint reads a clock value before the one it was closed at. It can then be
    recovered and starts a request, while the second endpoint has the line. -/
theorem closed_endpoint_reopens :
    newRTUTiming fixtureFormat = .ok fixtureTiming ∧
    ∃ line : RTUFixtureLine, newRTUFixtureLine "line" = .ok line ∧
      (line.run replaced).endpoints.map RTUFixtureEndpoint.state = [.closed, .idle] ∧
      (line.run (replacedTick 3)).endpoints.map RTUFixtureEndpoint.state =
        [.recoveryRequired, .idle] ∧
      let recovered := ((line.run (replacedTick 3)).step (.call 0 { operation := .recover 6 })).2
      let begun := recovered.step (.call 0 { operation := .beginRead false fixturePlan 7 })
      begun.1.err = none ∧
        begun.2.endpoints.map RTUFixtureEndpoint.state = [.writing, .idle] :=
  ⟨by decide +kernel, { identity := "line" }, rfl, by decide +kernel, by decide +kernel,
    by decide +kernel⟩

end RTUFixtureLine

end HelianthusModbus
