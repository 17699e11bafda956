import Mathlib.Algebra.Group.Prod
import Mathlib.Data.List.Induction
import HelianthusModbus.Theory.RtuProductionSteps

/-!
# The RTU Production Endpoint Is Single-Flight and Fenced

The lock is not held while an exchange asks for admission, sends and receives, nor while a
recovery drains the line. What keeps them apart are four flags: `inflight` is set exactly
while an exchange is between its first and its last region, and a recovery drains only
behind a fence, with its attempt recorded and no exchange in flight.

Two things the source does not exclude. A read takes any error it gets while it receives
for an exception response if the error wraps one, also an error of the stream or of the
context, and then does not fence. And the generation is counted without a look at the end
of its range.

## Main definitions

* `Reserved`: The flags and the stages of all operations.
* `RTUPhase.OnLine`: Between the check before the send and the end, or draining.
* `Counts`, `PlainRead`: The conditions on a step.

## Theorems

* `advance_reserved`: Every step keeps the flags and the stages together.
* `single_flight_fenced`: One operation at a time is on the line, sends only in the open
  generation it was admitted in, and after a fault nothing is sent before a recovery.
-/

namespace HelianthusModbus

/-- The flags and the stages of all operations: `holders` counts the exchanges and the
    recoveries. -/
structure Reserved (endpoint : RTUProductionEndpoint) (holders : Nat × Nat) : Prop where
  inflight : holders.1 = if endpoint.inflight then 1 else 0
  alone : holders.2 ≤ 1
  fenced : holders.2 ≠ 0 →
    endpoint.fenced = true ∧ endpoint.recoveryAttempted = true ∧ endpoint.inflight = false

/-- The weight of a phase. -/
def RTUPhase.holds (phase : RTUPhase) : Nat × Nat := (phase.reserves, phase.drains)

/-- An operation past the check before its send, or one that drains the line. -/
def RTUPhase.OnLine : RTUPhase → Prop
  | .writing _ _ | .receiving _ _ | .collecting _ _ _ | .classifying _ _ _ | .finishing _ _
  | .releasing _ | .draining _ | .succeeding => True
  | _ => False

theorem RTUPhase.onLine_holds (phase : RTUPhase) (h : phase.OnLine) :
    0 < phase.reserves + phase.drains := by
  cases phase <;> first | exact Nat.one_pos | exact h.elim

namespace RTUProductionEndpoint

/-- What storing a receipt with this outcome leaves as it was, apart from the receipts. -/
structure Stored (outcome : RTUOutcome) (endpoint after : RTUProductionEndpoint) : Prop where
  inflight : after.inflight = endpoint.inflight
  generation : after.generation = endpoint.generation
  recoveryAttempted : after.recoveryAttempted = endpoint.recoveryAttempted
  closed : endpoint.closed = true → after.closed = true
  fenced : endpoint.fenced = true → after.fenced = true
  fences : outcome.fences = true → after.fenced = true
  keeps : outcome.fences = false →
    after.fenced = endpoint.fenced ∧ after.closed = endpoint.closed

theorem store_stored (endpoint : RTUProductionEndpoint) (receipt : RTUReceipt)
    (ending : RTUEnding) (receivedAt fencedAt : Duration) :
    Stored ending.outcome endpoint (endpoint.store receipt ending receivedAt fencedAt) := by
  -- The fence is the same on both paths; only the receipt goes to another field.
  have hfence : Stored ending.outcome endpoint
      (if ending.outcome.fences then endpoint.fenceLocked fencedAt else endpoint) := by
    by_cases hfences : ending.outcome.fences = true
    · rw [if_pos hfences]
      unfold fenceLocked
      dsimp only
      split <;> constructor <;> simp [hfences]
    · rw [if_neg hfences]
      exact ⟨rfl, rfl, rfl, id, id, fun h => absurd h hfences, fun _ => ⟨rfl, rfl⟩⟩
  cases receipt with
  | read evidence | privateFunction evidence => exact { hfence with }

end RTUProductionEndpoint

theorem RTUPhase.drains_of_reserves (phase : RTUPhase) (h : phase.reserves = 1) :
    phase.drains = 0 := by
  cases phase <;> first | rfl | exact nomatch h

theorem advance_reserved (call : RTUProductionCall) (input : RTUInput) (phase after : RTUPhase)
    (endpoint next : RTUProductionEndpoint) (others : Nat × Nat)
    (h : Reserved endpoint (phase.holds + others))
    (hadvance : call.advance input phase endpoint = some (after, next)) :
    Reserved next (after.holds + others) := by
  rcases others with ⟨exchanges, recoveries⟩
  rcases h with ⟨hinflight, halone, hfenced⟩
  simp only [RTUPhase.holds, Prod.mk_add_mk] at hinflight halone hfenced ⊢
  cases call.advance_move input phase after endpoint next hadvance with
  | outside _ _ _ hreserves hdrains hreserves' hdrains' _ _ =>
    rw [hreserves] at hinflight
    rw [hdrains] at halone hfenced
    rw [hreserves', hdrains']
    exact ⟨hinflight, halone, hfenced⟩
  | enter frame _ hclosed hopen hfree =>
    -- An open endpoint has no recovery, since that would be behind a fence.
    simp only [RTUPhase.reserves, RTUPhase.drains] at *
    have hnone : 0 + recoveries = 0 := by
      by_contra hsome
      simp [hopen] at hfenced
      omega
    simp only [hfree, Bool.false_eq_true, if_false] at hinflight
    exact ⟨by simp; omega, halone, fun hsome => absurd hnone hsome⟩
  | inside _ _ _ hreserves hreserves' _ _ =>
    rw [hreserves] at hinflight
    rw [phase.drains_of_reserves hreserves] at halone hfenced
    rw [hreserves', after.drains_of_reserves hreserves']
    exact ⟨hinflight, halone, hfenced⟩
  | recheck frame receipt _ _ _ _ => exact ⟨hinflight, halone, hfenced⟩
  | finish receipt ending result receivedAt fencedAt _ =>
    have hstored := endpoint.store_stored receipt ending receivedAt fencedAt
    refine ⟨by rw [hstored.inflight]; exact hinflight, halone, fun hsome => ?_⟩
    rcases hfenced hsome with ⟨hfence, hattempted, hfree⟩
    exact ⟨hstored.fenced hfence, hstored.recoveryAttempted.trans hattempted,
      hstored.inflight.trans hfree⟩
  | release result _ =>
    simp only [RTUPhase.reserves, RTUPhase.drains] at *
    -- The exchange that ends is the only one.
    by_cases hflag : endpoint.inflight = true
    · rw [if_pos hflag] at hinflight
      refine ⟨?_, halone, fun hsome => ?_⟩
      · simp only [RTUProductionEndpoint.release, Bool.false_eq_true, if_false]
        omega
      · simp [hflag] at hfenced
        omega
    · rw [if_neg hflag] at hinflight
      omega
  | beginRecover _ hfence hfree hattempted =>
    simp only [RTUPhase.reserves, RTUPhase.drains] at *
    have hnone : recoveries = 0 := by
      by_contra hsome
      simp [hattempted] at hfenced
      omega
    exact ⟨hinflight, by omega, fun _ => ⟨hfence, rfl, hfree⟩⟩
  | drain quarantineUntil _ _ hdrains hreserves _ =>
    rw [hreserves, hdrains]
    exact ⟨hinflight, halone, hfenced⟩
  | giveUp quarantineUntil result _ | succeed _ =>
    simp only [RTUPhase.reserves, RTUPhase.drains] at *
    exact ⟨hinflight, by omega, fun hsome => by omega⟩
  | close _ hclosed =>
    refine ⟨hinflight, halone, fun hsome => ?_⟩
    exact ⟨rfl, (hfenced hsome).2⟩

/-- The exchange of a call ended with a frame that is the exception answer to it. -/
def RTUProductionCall.IsException (call : RTUProductionCall) (receipt : RTUReceipt)
    (ending : RTUEnding) : Prop :=
  match call, receipt with
  | .read unit request, .read _ => RTUExceptionFrame unit request.function ending.response
  | .exchangePrivateFunction unit request _ _, .privateFunction evidence =>
    ∃ frame ∈ evidence.responseADUs.getLast?, RTUExceptionFrame unit request.function frame
  | _, _ => False

/-- The exchange ended with success or with a correlated exception. -/
def RTUProductionCall.Answered (call : RTUProductionCall) (receipt : RTUReceipt)
    (ending : RTUEnding) : Prop :=
  ending.outcome = .success ∨ (ending.outcome = .exception ∧ call.IsException receipt ending)

/-- Neither the stream nor the context reports an error that wraps an exception response. -/
def RTUByteRead.plain (read : RTUByteRead) : Bool :=
  (match read.byte with
    | .ok _ => true
    | .error fault => !(RTUProductionError.fault fault).isException) &&
    read.deadlineErr.all fun err => !(RTUProductionError.fault err).isException

theorem RTUFrameDecoder.feedByte_error (decoder : RTUFrameDecoder) (offset : Duration)
    (value : UInt8) (err : ProtocolError) (h : (decoder.feedByte offset value).1 = some err) :
    err.kind ≠ .exceptionResponse := by
  unfold feedByte appendByte at h
  split_ifs at h <;> cases h <;> simp [protocolError]

theorem RTUFrameDecoder.endFrame_error (decoder : RTUFrameDecoder) (offset : Duration)
    (err : ProtocolError) (h : (decoder.endFrame offset).1.2 = some err) :
    err.kind ≠ .exceptionResponse := by
  unfold endFrame at h
  split at h
  · cases h
    simp [protocolError]
  · simp [decodeRTUADU_error _ err h]

theorem rtuReadResponseLength_error (request : ReadRegistersRequest) (raw : List UInt8)
    (err : ProtocolError) (h : rtuReadResponseLength request raw = .error err) :
    err.kind ≠ .exceptionResponse := by
  unfold rtuReadResponseLength at h
  dsimp only at h
  repeat' split at h
  all_goals first | (cases h; simp [protocolError]) | cases h

/-- A response that is taken for an exception is one, if the error is not that of the
    stream or of the context. -/
theorem RTUReceiveLoop.receiveByte_exception (loop : RTUReceiveLoop) (unit : UInt8)
    (request : ReadRegistersRequest) (read : RTUByteRead) (received : RTUReceived)
    (err : RTUProductionError) (hplain : read.plain = true)
    (h : loop.receiveByte unit request read = .done received)
    (hresult : received.result = .error err) (hexception : err.isException = true) :
    RTUExceptionFrame unit request.function received.raw := by
  unfold receiveByte at h
  split at h
  · dsimp only at h
    split at h
    · next hlength =>
      cases h
      cases hresult
      exact absurd (of_decide_eq_true hexception) (rtuReadResponseLength_error _ _ _ hlength)
    · split at h
      · next hfed =>
        cases h
        cases hresult
        exact absurd (of_decide_eq_true hexception)
          (RTUFrameDecoder.feedByte_error _ _ _ _ hfed)
      · cases h
  · next fault hfault =>
    simp only [RTUByteRead.plain, hfault, Bool.and_eq_true, Bool.not_eq_true'] at hplain
    split at h
    · cases h
      cases hresult
      simp [hplain.1] at hexception
    split at h
    · next hdeadline =>
      cases h
      cases hresult
      simp [hdeadline, hexception] at hplain
    · split at h
      · cases h
      split at h
      · cases h
        cases hresult
        simp [RTUProductionError.isException, protocolError] at hexception
      -- Only a whole frame that decodes to an exception is left.
      unfold RTUReceiveLoop.endFrame at h
      dsimp only at h
      split at h
      · next hended =>
        cases h
        cases hresult
        exact absurd (of_decide_eq_true hexception)
          (RTUFrameDecoder.endFrame_error _ _ _ hended)
      · split at h
        · next hdecoded =>
          cases h
          cases hresult
          exact decodeRTUReadResponseADU_exception unit request _ _
            (of_decide_eq_true hexception) hdecoded
        · cases h
          cases hresult

/-- A complete private frame is all that was received. -/
theorem RTUFrameLoop.readByte_complete (loop : RTUFrameLoop) (read : RTUByteRead)
    (received : RTUReceivedFrame) (complete : List UInt8)
    (h : loop.readByte read = .done received) (hcomplete : received.complete = .ok complete) :
    received.raw = complete := by
  unfold readByte at h
  dsimp only at h
  repeat' split at h
  all_goals cases h
  all_goals cases hcomplete
  rfl

theorem RTUPhase.Proceeds.outcome_ne {phase : RTUPhase} {receipt receipt' : RTUReceipt}
    {ending : RTUEnding} (hends : phase.Proceeds receipt)
    (h : phase = .finishing receipt' ending) : ending.outcome ≠ .exception := by
  subst h
  exact fun houtcome => hends.plain (congrArg some houtcome)

namespace RTUProductionEndpoint

variable (endpoint : RTUProductionEndpoint)

/-- A private exchange ends with an exception only if its last frame is one. -/
theorem afterFrame_exception (unit : UInt8) (request : PrivateFunctionRequest)
    (policy : PrivateFunctionResponsePolicy) (classifier : Bool)
    (evidence : RTUPrivateFunctionEvidence) (collected : RTUCollected)
    (received : RTUReceivedFrame) (input : RTUInput) (receipt : RTUReceipt)
    (ending : RTUEnding)
    (hcomplete : ∀ complete, received.complete = .ok complete → received.raw = complete)
    (h : endpoint.afterFrame unit request classifier evidence collected received input =
      .finishing receipt ending) (houtcome : ending.outcome = .exception) :
    (RTUProductionCall.exchangePrivateFunction unit request policy classifier).IsException
      receipt ending := by
  unfold afterFrame at h
  dsimp only at h
  split at h
  · cases h
    exact nomatch houtcome
  next complete hraw =>
  split at h
  · next err hdecoded =>
    split at h
    · next hkind =>
      have hframe := decodeRTUPrivateFunctionResponseADU_exception unit request complete
        err hkind hdecoded
      cases h
      -- The frame is not empty, so it has been added to the receipt.
      have hsome : received.raw.length ≠ 0 := by
        rw [hcomplete complete hraw, hframe.size]
        decide
      refine ⟨complete, ?_, hframe⟩
      rw [if_pos hsome, hcomplete complete hraw]
      simp
    · cases h
      exact nomatch houtcome
  · split at h
    · cases h
    · exact absurd houtcome ((endpoint.afterClassification_proceeds _ _ _ _ _).outcome_ne h)

end RTUProductionEndpoint

/-- An exchange that is about to end with an exception has received one. -/
theorem advance_exception (call : RTUProductionCall) (input : RTUInput) (phase : RTUPhase)
    (endpoint next : RTUProductionEndpoint) (receipt : RTUReceipt) (ending : RTUEnding)
    (hplain : ∀ evidence loop, phase = .receiving evidence loop → input.read.plain = true)
    (h : call.advance input phase endpoint = some (.finishing receipt ending, next))
    (houtcome : ending.outcome = .exception) : call.IsException receipt ending := by
  unfold RTUProductionCall.advance at h
  split at h
  case h_5 =>
    simp only [Option.some.injEq, Prod.mk.injEq] at h
    exact absurd houtcome ((endpoint.afterWrite_proceeds _ _ _).outcome_ne h.1)
  -- Only the two receive loops can end with an exception: of a read, and the private one below.
  case h_6 =>
    split at h
    · cases h
    next received hreceived =>
    simp only [Option.some.injEq, Prod.mk.injEq] at h
    have hafter := h.1
    unfold RTUReceived.finishing at hafter
    split at hafter
    · cases hafter
      exact nomatch houtcome
    next err hresult =>
    cases hafter
    by_cases hexception : err.isException = true
    · exact RTUReceiveLoop.receiveByte_exception _ _ _ _ received err
        (hplain _ _ rfl) hreceived hresult hexception
    · rw [if_neg hexception] at houtcome
      exact nomatch houtcome
  case h_7 =>
    split at h
    · cases h
    next received hreceived =>
    simp only [Option.some.injEq, Prod.mk.injEq] at h
    exact endpoint.afterFrame_exception _ _ _ _ _ _ received input receipt ending
      (fun complete => RTUFrameLoop.readByte_complete _ _ received complete hreceived) h.1
      houtcome
  case h_8 =>
    split at h
    · cases h
      exact nomatch houtcome
    · simp only [Option.some.injEq, Prod.mk.injEq] at h
      exact absurd houtcome ((endpoint.afterClassification_proceeds _ _ _ _ _).outcome_ne h.1)
  case h_4 =>
    split at h
    · cases h
    · rcases Option.map_eq_some_iff.mp h with ⟨_, _, hafter⟩
      cases hafter
  all_goals
    repeat' split at h
    all_goals cases h

abbrev RTUProductionState := Machine.State RTUProductionEndpoint RTUProductionCall RTUPhase

abbrev RTUProductionCommand := Machine.Command RTUProductionCall RTUInput

/-- A step that makes a new generation does not find the last one. -/
def Counts (endpoint : RTUProductionEndpoint) (_ : RTUProductionCall) (phase : RTUPhase)
    (_ : RTUInput) : Prop :=
  match phase with
  | .succeeding => endpoint.generation.toNat ≠ maxUint64
  | .closing => endpoint.closed = false → endpoint.generation.toNat ≠ maxUint64
  | _ => True

/-- While a read receives, neither the stream nor the context reports an error that wraps
    an exception response. -/
def PlainRead (_ : RTUProductionEndpoint) (_ : RTUProductionCall) (phase : RTUPhase)
    (input : RTUInput) : Prop :=
  match phase with
  | .receiving _ _ => input.read.plain = true
  | _ => True

instance (endpoint : RTUProductionEndpoint) (call : RTUProductionCall) (phase : RTUPhase)
    (input : RTUInput) : Decidable (Counts endpoint call phase input) := by
  unfold Counts
  split <;> infer_instance

instance (endpoint : RTUProductionEndpoint) (call : RTUProductionCall) (phase : RTUPhase)
    (input : RTUInput) : Decidable (PlainRead endpoint call phase input) := by
  unfold PlainRead
  split <;> infer_instance

theorem lt_next_generation (generation : UInt64) (h : generation.toNat ≠ maxUint64) :
    generation < generation + 1 := by
  have hbound := generation.toNat_lt
  unfold maxUint64 at h
  rw [UInt64.lt_iff_toNat_lt, UInt64.toNat_add, UInt64.toNat_one]
  omega

/-- A step makes a new generation. -/
def Renews (endpoint : RTUProductionEndpoint) (phase : RTUPhase) : Prop :=
  phase = .succeeding ∨ (phase = .closing ∧ endpoint.closed = false)

/-- Generations never decrease, and a new one is greater. -/
theorem advance_generation (call : RTUProductionCall) (input : RTUInput)
    (phase after : RTUPhase) (endpoint next : RTUProductionEndpoint)
    (hcounts : Counts endpoint call phase input)
    (hadvance : call.advance input phase endpoint = some (after, next)) :
    endpoint.generation ≤ next.generation ∧
      (Renews endpoint phase → endpoint.generation < next.generation) := by
  cases call.advance_move input phase after endpoint next hadvance with
  | succeed _ =>
    have hlt := lt_next_generation endpoint.generation hcounts
    exact ⟨UInt64.le_of_lt hlt, fun _ => hlt⟩
  | close _ hclosed =>
    have hlt := lt_next_generation endpoint.generation (hcounts hclosed)
    exact ⟨UInt64.le_of_lt hlt, fun _ => hlt⟩
  | finish receipt ending result receivedAt fencedAt _ =>
    have hstored := endpoint.store_stored receipt ending receivedAt fencedAt
    refine ⟨by rw [hstored.generation]; exact UInt64.le_refl _, ?_⟩
    rintro (hphase | hphase) <;> simp at hphase
  | outside _ _ _ _ hdrains _ _ _ hclosing =>
    refine ⟨UInt64.le_refl _, ?_⟩
    rintro (rfl | ⟨hphase, hclosed⟩)
    · exact nomatch hdrains
    · simp [hclosing hphase] at hclosed
  | inside _ _ _ hreserves _ _ _ =>
    refine ⟨UInt64.le_refl _, ?_⟩
    rintro (rfl | ⟨rfl, _⟩) <;> exact nomatch hreserves
  | _ =>
    refine ⟨UInt64.le_refl _, ?_⟩
    rintro (hphase | hphase) <;> simp at hphase

/-- The fence is up and nothing is being sent. -/
structure Sealed (state : RTUProductionState) : Prop where
  fenced : state.shared.fenced = true
  quiet : ∀ tid thread, state.threads.lookup tid = some thread → thread.2.isWriting = false

theorem RTUPhase.isWriting_of_reserves (phase : RTUPhase) (h : phase.reserves = 0) :
    phase.isWriting = false := by
  cases phase <;> first | rfl | exact nomatch h

/-- Behind a fence only the end of a recovery lets anything be sent. -/
theorem advance_fenced (call : RTUProductionCall) (input : RTUInput) (phase after : RTUPhase)
    (endpoint next : RTUProductionEndpoint) (hfenced : endpoint.fenced = true)
    (hphase : phase ≠ .succeeding)
    (hadvance : call.advance input phase endpoint = some (after, next)) :
    next.fenced = true ∧ after.isWriting = false := by
  cases call.advance_move input phase after endpoint next hadvance with
  | outside _ _ _ _ _ hreserves _ _ _ | drain quarantineUntil _ _ _ hreserves _ =>
    exact ⟨hfenced, after.isWriting_of_reserves hreserves⟩
  | enter frame _ _ hopen _ | recheck frame receipt _ _ hopen _ => simp [hfenced] at hopen
  | inside _ _ _ _ _ hwriting _ => exact ⟨hfenced, hwriting⟩
  | finish receipt ending result receivedAt fencedAt _ =>
    exact ⟨(endpoint.store_stored receipt ending receivedAt fencedAt).fenced hfenced, rfl⟩
  | succeed _ => exact absurd rfl hphase
  | close _ _ => exact ⟨rfl, rfl⟩
  | _ => exact ⟨hfenced, rfl⟩

theorem RTUProductionCall.start_isWriting (call : RTUProductionCall) :
    call.start.isWriting = false := by
  unfold RTUProductionCall.start
  repeat' split
  all_goals rfl

/-- The command is the end of a recovery that succeeds. -/
def Recovering (state : RTUProductionState) : RTUProductionCommand → Bool
  | .start _ _ => false
  | .step tid _ => (state.threads.lookup tid).any fun thread => thread.2.isSucceeding

theorem ne_succeeding_of_not_recovering (state : RTUProductionState) (tid : Nat)
    (input : RTUInput) (call : RTUProductionCall) (phase : RTUPhase)
    (h : Recovering state (.step tid input) = false)
    (hlook : state.threads.lookup tid = some (call, phase)) : phase ≠ .succeeding := by
  rintro rfl
  simp [Recovering, hlook, RTUPhase.isSucceeding] at h

theorem apply_sealed (state next : RTUProductionState) (command : RTUProductionCommand)
    (h : Sealed state) (hnot : Recovering state command = false)
    (happly : rtuProduction.apply state command = some next) : Sealed next := by
  refine ⟨?_, ?_⟩
  · cases Machine.effect_of_apply state next command happly with
    | start tid call _ => exact h.fenced
    | step tid input call phase after shared hlook hadvance =>
      exact (advance_fenced call input phase after _ shared h.fenced
        (ne_succeeding_of_not_recovering state tid input call phase hnot hlook) hadvance).1
  · refine Machine.apply_each (fun _ _ phase => phase.isWriting = false)
      (fun _ => RTUProductionCall.start_isWriting) state next command ?_ h.quiet happly
    intro tid input call phase after shared hcommand hlook _ hadvance
    subst hcommand
    exact ⟨(advance_fenced call input phase after _ shared h.fenced
      (ne_succeeding_of_not_recovering state tid input call phase hnot hlook) hadvance).2,
      fun _ _ => id⟩

theorem recovers_of_writing (state after : RTUProductionState) (h : Sealed state)
    (commands : List RTUProductionCommand) (hrun : rtuProduction.run state commands = some after)
    (tid : Nat) (thread : RTUProductionCall × RTUPhase)
    (hlook : after.threads.lookup tid = some thread) (hwriting : thread.2.isWriting = true) :
    rtuProduction.Sometime Recovering state commands := by
  induction commands generalizing state with
  | nil =>
    cases hrun
    simp [h.quiet tid thread hlook] at hwriting
  | cons command rest ih =>
    unfold Machine.Sometime
    by_cases hrecovering : Recovering state command = true
    · exact Or.inl hrecovering
    · right
      rcases Machine.run_cons hrun with ⟨next, happly, hrest⟩
      rw [happly]
      exact ih next (apply_sealed state next command h (Bool.eq_false_iff.mpr hrecovering)
        happly) hrest

/-- What is known of every state of a run. -/
structure Guarded (state : RTUProductionState) : Prop where
  reserved : Reserved state.shared (Machine.total RTUPhase.holds state)
  correlated : ∀ tid thread, state.threads.lookup tid = some thread →
    ∀ receipt ending, thread.2 = .finishing receipt ending → ending.outcome = .exception →
      thread.1.IsException receipt ending

theorem RTUProductionCall.start_holds (call : RTUProductionCall) : call.start.holds = 0 := by
  unfold RTUProductionCall.start
  repeat' split
  all_goals rfl

theorem RTUPhase.holds_of_isDone (phase : RTUPhase) (h : phase.isDone = true) :
    phase.holds = 0 := by
  cases phase <;> first | rfl | exact nomatch h

theorem apply_guarded (state next : RTUProductionState) (command : RTUProductionCommand)
    (h : Guarded state) (hplain : Machine.OnStep PlainRead state command)
    (happly : rtuProduction.apply state command = some next) : Guarded next := by
  refine ⟨?_, ?_⟩
  · refine Machine.apply_weighs RTUPhase.holds Reserved RTUProductionCall.start_holds
      RTUPhase.holds_of_isDone state next command ?_ h.reserved happly
    intro tid input call phase after shared others _ _ hreserved hadvance
    exact advance_reserved call input phase after _ shared others hreserved hadvance
  · refine Machine.apply_each (fun _ call phase => ∀ receipt ending,
      phase = .finishing receipt ending → ending.outcome = .exception →
        call.IsException receipt ending) ?_ state next command ?_ h.correlated happly
    · intro _ call receipt ending hstart
      have hholds := call.start_holds
      change call.start = _ at hstart
      rw [hstart] at hholds
      exact nomatch hholds
    · intro tid input call phase after shared hcommand hlook _ hadvance
      refine ⟨fun receipt ending hafter => ?_, fun _ _ => id⟩
      subst hcommand hafter
      refine advance_exception call input phase _ shared receipt ending ?_ hadvance
      rintro evidence loop rfl
      exact hplain _ hlook

theorem Guarded.alone {state : RTUProductionState} (h : Guarded state) (first second : Nat)
    (one other : RTUProductionCall × RTUPhase) (hone : state.threads.lookup first = some one)
    (hother : state.threads.lookup second = some other) (hfirst : one.2.OnLine)
    (hsecond : other.2.OnLine) : first = second := by
  have htotal : Machine.total (fun phase => phase.reserves + phase.drains) state ≤ 1 := by
    have hsum := Machine.total_map RTUPhase.holds
      (AddMonoidHom.coprod (.id Nat) (.id Nat)) state
    rcases h.reserved with ⟨hinflight, halone, hfenced⟩
    change Machine.total (fun phase => phase.reserves + phase.drains) state =
      (Machine.total RTUPhase.holds state).1 + (Machine.total RTUPhase.holds state).2 at hsum
    rw [hsum]
    -- A recovery drains only while no exchange is in flight.
    by_cases hdrains : (Machine.total RTUPhase.holds state).2 = 0
    · split at hinflight <;> omega
    · rw [(hfenced hdrains).2.2] at hinflight
      simp only [Bool.false_eq_true, if_false] at hinflight
      omega
  exact Machine.unique_of_total_le_one _ state htotal first second one other hone hother
    (one.2.onLine_holds hfirst) (other.2.onLine_holds hsecond)

/-- Only the check before the send leads to a send. -/
theorem advance_writing (call : RTUProductionCall) (input : RTUInput) (phase : RTUPhase)
    (endpoint next : RTUProductionEndpoint) (frame : List UInt8) (receipt : RTUReceipt)
    (hadvance : call.advance input phase endpoint = some (.writing frame receipt, next)) :
    phase = .rechecking frame receipt.generation ∧ endpoint.closed = false ∧
      endpoint.fenced = false ∧ endpoint.generation = receipt.generation := by
  generalize hafter : RTUPhase.writing frame receipt = after at hadvance
  cases call.advance_move input phase after endpoint next hadvance with
  | outside _ _ _ _ _ hreserves _ _ _ | drain _ _ _ _ hreserves _ =>
    exact nomatch hafter ▸ hreserves
  | inside _ _ _ _ _ hwriting _ => exact nomatch hafter ▸ hwriting
  | recheck frame' receipt' _ hclosed hfenced hgeneration =>
    cases hafter
    exact ⟨by rw [hgeneration], hclosed, hfenced, hgeneration.symm⟩
  | _ => exact nomatch hafter

/-- The call has passed the check before its send in the open generation it was admitted
    in, and has done nothing since. -/
def Rechecked (state : RTUProductionState) (commands : List RTUProductionCommand) (tid : Nat)
    (call : RTUProductionCall) (frame : List UInt8) (generation : UInt64) : Prop :=
  ∃ before input since checked, commands = before ++ .step tid input :: since ∧
    rtuProduction.run state before = some checked ∧
    checked.threads.lookup tid = some (call, .rechecking frame generation) ∧
    checked.shared.closed = false ∧ checked.shared.fenced = false ∧
    checked.shared.generation = generation ∧
    ∀ command ∈ since, command.tid ≠ tid

/-- What is sent has passed the check before the send. -/
theorem rechecked_of_writing (state after : RTUProductionState)
    (hnone : ∀ tid, state.threads.lookup tid = none) (commands : List RTUProductionCommand)
    (hrun : rtuProduction.run state commands = some after) (tid : Nat)
    (call : RTUProductionCall) (frame : List UInt8) (receipt : RTUReceipt)
    (hlook : after.threads.lookup tid = some (call, .writing frame receipt)) :
    Rechecked state commands tid call frame receipt.generation := by
  induction commands using List.reverseRecOn generalizing after with
  | nil =>
    cases hrun
    simp [hnone] at hlook
  | append_singleton earlier command ih =>
    rw [Machine.run_append] at hrun
    rcases Option.bind_eq_some_iff.mp hrun with ⟨middle, hmiddle, hlast⟩
    rcases Machine.run_cons hlast with ⟨_, happly, hend⟩
    cases hend
    have hkeep : middle.threads.lookup tid = some (call, .writing frame receipt) →
        command.tid ≠ tid →
        Rechecked state (earlier ++ [command]) tid call frame receipt.generation := by
      intro hwriting hother
      rcases ih middle hmiddle hwriting with
        ⟨before, input, since, checked, rfl, hbefore, hchecked, hopen, hfree, hcurrent, hsince⟩
      refine ⟨before, input, since ++ [command], checked, by simp, hbefore, hchecked, hopen,
        hfree, hcurrent, fun later hlater => ?_⟩
      rcases List.mem_append.mp hlater with hlater | hlater
      · exact hsince later hlater
      · rw [List.mem_singleton.mp hlater]
        exact hother
    -- The last command is the check itself, or one of another call.
    cases Machine.effect_of_apply middle after command happly with
    | start other call' _ =>
      rcases Table.lookup_insert_some hlook with ⟨_, hstart⟩ | ⟨hne, hold⟩
      · have hquiet := call'.start_isWriting
        rw [show call'.start = _ from (congrArg Prod.snd hstart).symm] at hquiet
        exact nomatch hquiet
      · exact hkeep hold hne.symm
    | step other input call' phase next shared hother hadvance =>
      rcases Table.lookup_insert_some hlook with ⟨rfl, hsame⟩ | ⟨hne, hold⟩
      · cases hsame
        rcases advance_writing _ _ _ _ _ _ _ hadvance with ⟨rfl, hclosed, hfenced, hcurrent⟩
        exact ⟨earlier, input, [], middle, rfl, hmiddle, hother, hclosed, hfenced, hcurrent,
          fun later hlater => nomatch hlater⟩
      · exact hkeep hold hne.symm

theorem RTUPhase.onLine_of_isWriting (phase : RTUPhase) (h : phase.isWriting = true) :
    phase.OnLine := by
  cases phase <;> trivial

theorem advance_finishing (call : RTUProductionCall) (input : RTUInput) (receipt : RTUReceipt)
    (ending : RTUEnding) (after : RTUPhase) (endpoint next : RTUProductionEndpoint)
    (hadvance : call.advance input (.finishing receipt ending) endpoint = some (after, next)) :
    next = endpoint.store receipt ending input.offset input.fenceOffset ∧
      after.isWriting = false := by
  cases receipt <;>
    · simp only [RTUProductionCall.advance, Option.some.injEq, Prod.mk.injEq] at hadvance
      rcases hadvance with ⟨rfl, rfl⟩
      exact ⟨rfl, rfl⟩

theorem apply_finishing (state next : RTUProductionState) (tid : Nat) (input : RTUInput)
    (call : RTUProductionCall) (receipt : RTUReceipt) (ending : RTUEnding)
    (hlook : state.threads.lookup tid = some (call, .finishing receipt ending))
    (happly : rtuProduction.apply state (.step tid input) = some next) :
    ∃ after : RTUPhase, after.isWriting = false ∧ next =
      { shared := state.shared.store receipt ending input.offset input.fenceOffset
        threads := state.threads.insert tid (call, after) } := by
  cases Machine.effect_of_apply state next _ happly with
  | step _ _ call' phase after shared hlook' hadvance =>
    rw [hlook, Option.some.injEq, Prod.mk.injEq] at hlook'
    rcases hlook' with ⟨rfl, rfl⟩
    rcases advance_finishing call input receipt ending after _ shared hadvance with
      ⟨rfl, hafter⟩
    exact ⟨after, hafter, rfl⟩

theorem sealed_of_fault (state next : RTUProductionState) (h : Guarded state) (tid : Nat)
    (input : RTUInput) (call : RTUProductionCall) (receipt : RTUReceipt) (ending : RTUEnding)
    (hlook : state.threads.lookup tid = some (call, .finishing receipt ending))
    (hfault : ¬ call.Answered receipt ending)
    (happly : rtuProduction.apply state (.step tid input) = some next) : Sealed next := by
  have hfences : ending.outcome.fences = true := by
    have hexception := h.correlated tid _ hlook receipt ending rfl
    cases houtcome : ending.outcome with
    | success => exact absurd (Or.inl houtcome) hfault
    | exception => exact absurd (Or.inr ⟨houtcome, hexception houtcome⟩) hfault
    | _ => rfl
  rcases apply_finishing state next tid input call receipt ending hlook happly with
    ⟨after, hafter, rfl⟩
  refine ⟨(state.shared.store_stored receipt ending _ _).fences hfences, ?_⟩
  intro other thread hother
  rcases Table.lookup_insert_some hother with ⟨_, rfl⟩ | ⟨hne, hold⟩
  · exact hafter
  · -- The exchange that ends is alone on the line, so no other one is sending.
    by_contra hwriting
    refine hne (h.alone other tid thread _ hold hlook ?_ trivial)
    exact thread.2.onLine_of_isWriting (Bool.not_eq_false _ ▸ hwriting)

theorem newRTUProductionEndpoint_guarded (config : RTUProductionConfig)
    (endpoint : RTUProductionEndpoint) (hnew : newRTUProductionEndpoint config = .ok endpoint) :
    Guarded { shared := endpoint } := by
  unfold newRTUProductionEndpoint at hnew
  split at hnew <;> cases hnew
  exact ⟨⟨rfl, Nat.zero_le 1, fun hsome => absurd rfl hsome⟩,
    fun tid thread hlook => nomatch hlook⟩

/-- In every run in which no stream or context error wraps an exception response and the
    generations do not run out: one operation at a time is past the check before its send
    or drains the line, every send is in the open generation it was admitted in, after a
    fault nothing is sent before a recovery, and generations only grow. -/
theorem single_flight_fenced (config : RTUProductionConfig) (endpoint : RTUProductionEndpoint)
    (hnew : newRTUProductionEndpoint config = .ok endpoint)
    (commands : List RTUProductionCommand) (after : RTUProductionState)
    (hplain : rtuProduction.Meets (Machine.OnStep PlainRead) { shared := endpoint } commands)
    (hcounts : rtuProduction.Meets (Machine.OnStep Counts) { shared := endpoint } commands)
    (hrun : rtuProduction.run { shared := endpoint } commands = some after) :
    (∀ first second one other, after.threads.lookup first = some one →
      after.threads.lookup second = some other → one.2.OnLine → other.2.OnLine →
        first = second) ∧
    (∀ tid call frame receipt, after.threads.lookup tid = some (call, .writing frame receipt) →
      Rechecked { shared := endpoint } commands tid call frame receipt.generation) ∧
    (∀ before tid input since state next call receipt ending,
      commands = before ++ .step tid input :: since →
      rtuProduction.run { shared := endpoint } before = some state →
      rtuProduction.apply state (.step tid input) = some next →
      state.threads.lookup tid = some (call, .finishing receipt ending) →
      ¬ call.Answered receipt ending → ∀ sender thread,
        after.threads.lookup sender = some thread → thread.2.isWriting = true →
          rtuProduction.Sometime Recovering next since) ∧
    (∀ before command since state next, commands = before ++ command :: since →
      rtuProduction.run { shared := endpoint } before = some state →
      rtuProduction.apply state command = some next →
      state.shared.generation ≤ next.shared.generation ∧
        ∀ tid input call phase, command = .step tid input →
          state.threads.lookup tid = some (call, phase) → Renews state.shared phase →
          state.shared.generation < next.shared.generation) := by
  have hguarded : ∀ before since state, commands = before ++ since →
      rtuProduction.run { shared := endpoint } before = some state → Guarded state := by
    intro before since state hcommands hbefore
    rw [hcommands, Machine.meets_append _ _ _ _ hbefore] at hplain
    exact Machine.run_induction Guarded (fun state command next => apply_guarded state next command)
      before _ state (newRTUProductionEndpoint_guarded config endpoint hnew) hplain.1 hbefore
  -- Each part reads the guard at its own point of the run.
  refine ⟨?_, ?_, ?_, ?_⟩
  · exact (hguarded commands [] after (List.append_nil commands).symm hrun).alone
  · exact rechecked_of_writing _ after (fun tid => rfl) commands hrun
  · intro before tid input since state next call receipt ending hcommands hbefore happly hlook
      hfault sender thread hsender hwriting
    have hsealed := sealed_of_fault state next (hguarded before _ state hcommands hbefore) tid
      input call receipt ending hlook hfault happly
    rw [hcommands] at hrun
    rcases Machine.run_append_cons _ state after before since _ hbefore hrun with
      ⟨next', happly', hsince⟩
    rw [happly, Option.some.injEq] at happly'
    exact recovers_of_writing next after hsealed since (happly' ▸ hsince) sender thread hsender
      hwriting
  · intro before command since state next hcommands hbefore happly
    rw [hcommands] at hcounts
    have hallowed :=
      (Machine.meets_append_cons _ state next before since _ hbefore happly hcounts).2.1
    cases Machine.effect_of_apply state next command happly with
    | start tid call _ =>
      exact ⟨UInt64.le_refl _, fun tid' input call' phase hcommand => nomatch hcommand⟩
    | step tid input call phase after' shared hlook hadvance =>
      have hgeneration := advance_generation call input phase after' _ shared
        (hallowed _ hlook) hadvance
      refine ⟨hgeneration.1, fun tid' input' call' phase' hcommand hlook' hrenews => ?_⟩
      cases hcommand
      rw [hlook, Option.some.injEq, Prod.mk.injEq] at hlook'
      rcases hlook' with ⟨rfl, rfl⟩
      exact hgeneration.2 hrenews

/-- A read that is admitted and comes to its send. -/
def admittedRead (tid : Nat) : List RTUProductionCommand :=
  [.start tid productionRead, .step tid {}, .step tid { admitted := true }, .step tid {}]

/-- The write fails, a recovery succeeds, and a second read is sent. -/
def recoveredReads : List RTUProductionCommand :=
  admittedRead 0 ++ [.step 0 {}, .step 0 {}, .step 0 {}] ++
    [.start 1 .recover, .step 1 {}, .step 1 { offset := 10000000 }, .step 1 {}] ++ admittedRead 2

theorem single_flight_fenced_recovered :
    ∃ endpoint after call frame receipt, newRTUProductionEndpoint productionConfig = .ok endpoint ∧
      rtuProduction.run { shared := endpoint } recoveredReads = some after ∧
      after.threads.lookup 2 = some (call, .writing frame receipt) ∧
      Rechecked { shared := endpoint } recoveredReads 2 call frame receipt.generation := by
  refine ⟨_, _, _, _, _, rfl, rfl, rfl, ?_⟩
  exact (single_flight_fenced productionConfig _ rfl recoveredReads _ (by decide +kernel)
    (by decide +kernel) rfl).2.1 2 _ _ _ rfl

/-- An error of the stream that wraps an exception response. -/
def wrappedException : RTUFault :=
  { protocol := some (protocolError .exceptionResponse 3 0x83 "exception_code" 1) }

/-- A read that is written and then gets this error instead of a byte. -/
def wrappedRead : List RTUProductionCommand :=
  admittedRead 0 ++
    [.step 0 { written := 8 }, .step 0 { read := { byte := .error wrappedException } }]

/-- The exchange has received nothing, but it ends as an exception and without a fence, and
    the next read is sent without a recovery. -/
theorem wrapped_exception_unfenced :
    ∃ endpoint state next after call receipt ending,
      newRTUProductionEndpoint productionConfig = .ok endpoint ∧
      rtuProduction.run { shared := endpoint } wrappedRead = some state ∧
      state.threads.lookup 0 = some (call, .finishing receipt ending) ∧
      ¬ call.Answered receipt ending ∧
      rtuProduction.apply state (.step 0 {}) = some next ∧
      rtuProduction.run next (.step 0 {} :: admittedRead 1) = some after ∧
      (∃ thread, after.threads.lookup 1 = some thread ∧ thread.2.isWriting = true) ∧
      ¬ rtuProduction.Sometime Recovering next (.step 0 {} :: admittedRead 1) := by
  refine ⟨_, _, _, _, _, _, _, rfl, rfl, rfl, ?_, rfl, rfl, ⟨_, rfl, rfl⟩, by decide +kernel⟩
  rintro (hsuccess | ⟨_, hexception⟩)
  · exact nomatch hsuccess
  · exact nomatch RTUExceptionFrame.size hexception

end HelianthusModbus
