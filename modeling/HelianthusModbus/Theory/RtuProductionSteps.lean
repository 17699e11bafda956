import HelianthusModbus.Core.RtuProductionRun
import HelianthusModbus.Theory.RtuSteps

/-!
# What a Step on the RTU Production Endpoint Does

The steps of all operations, said once. An exchange has the endpoint reserved from the end
of its first region to `releasing`, and a recovery drains the line between its two locked
regions. A step either stays inside one of these stages and does not touch the endpoint,
or it is one of the few that enter, check, store, release, recover or close.

The receipt of an exchange keeps the generation in which it passed the check before the
send.

## Main definitions

* `RTUPhase.reserves`, `RTUPhase.drains`: The two stages, as weights.
* `RTUPhase.generation`: The generation in the receipt of a phase.
* `RTUProductionEndpoint.store`: Storing the receipt of either path.
* `RTUMove`: The steps.

## Theorems

* `RTUProductionCall.advance_move`: Every step is one of them.
-/

namespace HelianthusModbus

namespace RTUPhase

/-- The exchange has the endpoint reserved. -/
def reserves : RTUPhase → Nat
  | .admitting _ _ | .rechecking _ _ | .writing _ _ | .receiving _ _ | .collecting _ _ _
  | .classifying _ _ _ | .finishing _ _ | .releasing _ => 1
  | _ => 0

/-- The recovery drains the line. -/
def drains : RTUPhase → Nat
  | .draining _ | .succeeding => 1
  | _ => 0

/-- The operation is about to send, or to learn that it has sent. -/
def isWriting : RTUPhase → Bool
  | .writing _ _ => true
  | _ => false

/-- A recovery is about to make its new generation and return nil. -/
def isSucceeding : RTUPhase → Bool
  | .succeeding => true
  | _ => false

end RTUPhase

/-- The generation in which an exchange was sent. -/
def RTUReceipt.generation : RTUReceipt → UInt64
  | .read evidence => evidence.generation
  | .privateFunction evidence => evidence.generation

def RTUPhase.generation : RTUPhase → Option UInt64
  | .writing _ receipt => some receipt.generation
  | .receiving evidence _ => some evidence.generation
  | .collecting evidence _ _ => some evidence.generation
  | .classifying evidence _ _ => some evidence.generation
  | .finishing receipt _ => some receipt.generation
  | _ => none

/-- Storing a receipt. -/
def RTUProductionEndpoint.store (endpoint : RTUProductionEndpoint) (receipt : RTUReceipt)
    (ending : RTUEnding) (receivedAt fencedAt : Duration) : RTUProductionEndpoint :=
  match receipt with
  | .read evidence =>
    (endpoint.finish evidence ending.response ending.wall ending.integrity ending.outcome
      ending.outcome.fences receivedAt fencedAt).2
  | .privateFunction evidence =>
    (endpoint.finishPrivate evidence ending.wall ending.integrity ending.outcome
      ending.outcome.fences receivedAt fencedAt).2

/-- The steps of all operations. -/
inductive RTUMove (call : RTUProductionCall) :
    RTUPhase → RTUProductionEndpoint → RTUPhase → RTUProductionEndpoint → Prop where
  /-- Outside of all stages nothing happens to the endpoint. -/
  | outside (phase after endpoint) :
      phase.reserves = 0 → phase.drains = 0 → after.reserves = 0 → after.drains = 0 →
        after.generation = none → (phase = .closing → endpoint.closed = true) →
        RTUMove call phase endpoint after endpoint
  | enter (frame endpoint) :
      endpoint.closed = false → endpoint.fenced = false → endpoint.inflight = false →
        RTUMove call (.entering frame) endpoint (.admitting frame endpoint.generation)
          { endpoint with inflight := true }
  /-- An exchange goes on. -/
  | inside (phase after endpoint) :
      phase.reserves = 1 → after.reserves = 1 → after.isWriting = false →
        (after.generation = phase.generation ∨ after.generation = none) →
        RTUMove call phase endpoint after endpoint
  | recheck (frame receipt endpoint) :
      endpoint.closed = false → endpoint.fenced = false →
        receipt.generation = endpoint.generation →
        RTUMove call (.rechecking frame endpoint.generation) endpoint (.writing frame receipt)
          { endpoint with nextID := endpoint.nextID + 1 }
  | finish (receipt ending result receivedAt fencedAt endpoint) :
      RTUMove call (.finishing receipt ending) endpoint (.releasing result)
        (endpoint.store receipt ending receivedAt fencedAt)
  | release (result endpoint) :
      RTUMove call (.releasing result) endpoint (.done result) endpoint.release
  | beginRecover (endpoint) :
      endpoint.fenced = true → endpoint.inflight = false → endpoint.recoveryAttempted = false →
        RTUMove call .recovering endpoint (.draining endpoint.quarantineUntil)
          { endpoint with recoveryAttempted := true }
  | drain (quarantineUntil after endpoint) :
      after.drains = 1 → after.reserves = 0 → after.generation = none →
        RTUMove call (.draining quarantineUntil) endpoint after endpoint
  | giveUp (quarantineUntil result endpoint) :
      RTUMove call (.draining quarantineUntil) endpoint (.done result) endpoint
  | succeed (endpoint) :
      RTUMove call .succeeding endpoint (.done {}) endpoint.endRecover
  | close (endpoint) :
      endpoint.closed = false → RTUMove call .closing endpoint .closingStream endpoint.close

namespace RTUProductionEndpoint

variable {endpoint entered checked begun : RTUProductionEndpoint}

theorem enter_ok (h : endpoint.enter = .ok entered) :
    endpoint.closed = false ∧ endpoint.fenced = false ∧ endpoint.inflight = false ∧
      entered = { endpoint with inflight := true } := by
  unfold enter at h
  split at h <;> cases h
  next hfree => simpa [not_or] using hfree

theorem enterPrivate_ok (function : PrivateFunctionCode)
    (h : endpoint.enterPrivate function = .ok entered) :
    endpoint.closed = false ∧ endpoint.fenced = false ∧ endpoint.inflight = false ∧
      entered = { endpoint with inflight := true } := by
  unfold enterPrivate at h
  split at h
  · cases h
  · next hfree =>
    split at h <;> cases h
    simpa [not_or] using hfree

theorem recheck_some (generation : UInt64) (h : endpoint.recheck generation = some checked) :
    endpoint.closed = false ∧ endpoint.fenced = false ∧ endpoint.generation = generation ∧
      checked = { endpoint with nextID := endpoint.nextID + 1 } := by
  unfold recheck at h
  split at h <;> cases h
  next hopen => simpa [not_or] using hopen

theorem beginRecover_some (quarantineUntil : Duration)
    (h : endpoint.beginRecover = some (quarantineUntil, begun)) :
    endpoint.fenced = true ∧ endpoint.inflight = false ∧ endpoint.recoveryAttempted = false ∧
      quarantineUntil = endpoint.quarantineUntil ∧
      begun = { endpoint with recoveryAttempted := true } := by
  unfold beginRecover at h
  split at h <;> cases h
  next hfree => simpa using (not_or.mp hfree).2

end RTUProductionEndpoint

theorem RTUProductionCall.receipt_generation (call : RTUProductionCall)
    (endpoint : RTUProductionEndpoint) (frame : List UInt8) (sentAt : Duration)
    (receipt : RTUReceipt) (h : call.receipt endpoint frame sentAt = some receipt) :
    receipt.generation = endpoint.generation := by
  unfold RTUProductionCall.receipt at h
  split at h <;> cases h <;> rfl

/-- The outcome with which an exchange is about to end. -/
def RTUPhase.ends : RTUPhase → Option RTUOutcome
  | .finishing _ ending => some ending.outcome
  | _ => none

/-- The exchange goes on with the receipt it has. -/
structure RTUPhase.Carries (phase : RTUPhase) (receipt : RTUReceipt) : Prop where
  reserves : phase.reserves = 1
  quiet : phase.isWriting = false
  generation : phase.generation = some receipt.generation

/-- The exchange goes on, and not to an end with an exception. -/
structure RTUPhase.Proceeds (phase : RTUPhase) (receipt : RTUReceipt) : Prop
    extends phase.Carries receipt where
  plain : phase.ends ≠ some .exception

namespace RTUProductionEndpoint

theorem collect_proceeds (endpoint : RTUProductionEndpoint)
    (evidence : RTUPrivateFunctionEvidence) (collected : RTUCollected) :
    (endpoint.collect evidence collected).Proceeds (.privateFunction evidence) := by
  unfold collect
  split <;> exact ⟨⟨rfl, rfl, rfl⟩, nofun⟩

theorem afterWrite_proceeds (endpoint : RTUProductionEndpoint) (frame : List UInt8)
    (receipt : RTUReceipt) (input : RTUInput) :
    (endpoint.afterWrite frame receipt input).Proceeds receipt := by
  unfold afterWrite
  split
  · exact ⟨⟨rfl, rfl, rfl⟩, nofun⟩
  · split
    · split <;> exact ⟨⟨rfl, rfl, rfl⟩, nofun⟩
    · exact endpoint.collect_proceeds _ _

theorem afterClassification_proceeds (endpoint : RTUProductionEndpoint)
    (request : PrivateFunctionRequest) (evidence : RTUPrivateFunctionEvidence)
    (collected : RTUCollected) (disposition : RTUPrivateFunctionDisposition)
    (input : RTUInput) :
    (endpoint.afterClassification request evidence collected disposition input).Proceeds
      (.privateFunction evidence) := by
  unfold afterClassification
  split
  · exact ⟨⟨rfl, rfl, rfl⟩, nofun⟩
  · split <;> exact ⟨⟨rfl, rfl, rfl⟩, nofun⟩
  · split
    · exact ⟨⟨rfl, rfl, rfl⟩, nofun⟩
    · exact endpoint.collect_proceeds _ _

theorem afterFrame_carries (endpoint : RTUProductionEndpoint) (unit : UInt8)
    (request : PrivateFunctionRequest) (classifier : Bool)
    (evidence : RTUPrivateFunctionEvidence) (collected : RTUCollected)
    (received : RTUReceivedFrame) (input : RTUInput) :
    (endpoint.afterFrame unit request classifier evidence collected received input).Carries
      (.privateFunction evidence) := by
  unfold afterFrame
  dsimp only
  -- Whether or not a frame was received, the receipt is for the same exchange.
  have hgeneration : (RTUReceipt.privateFunction (if received.raw.length ≠ 0 then
      { evidence with responseADUs := evidence.responseADUs ++ [received.raw] }
      else evidence)).generation = (RTUReceipt.privateFunction evidence).generation := by
    split <;> rfl
  generalize (if received.raw.length ≠ 0 then
    { evidence with responseADUs := evidence.responseADUs ++ [received.raw] } else evidence) =
    kept at hgeneration ⊢
  suffices hkept : RTUPhase.Carries _ (.privateFunction kept) from
    { hkept with generation := hkept.generation.trans (congrArg some hgeneration) }
  split
  · exact ⟨rfl, rfl, rfl⟩
  · split
    · split <;> exact ⟨rfl, rfl, rfl⟩
    · split
      · exact ⟨rfl, rfl, rfl⟩
      · exact (endpoint.afterClassification_proceeds _ _ _ _ _).toCarries

end RTUProductionEndpoint

theorem RTUReceived.finishing_carries (received : RTUReceived) (evidence : RTUReadEvidence) :
    (received.finishing evidence).Carries (.read evidence) := by
  unfold RTUReceived.finishing
  split <;> exact ⟨rfl, rfl, rfl⟩

theorem RTUMove.carries (call : RTUProductionCall) (phase after : RTUPhase)
    (receipt : RTUReceipt) (endpoint : RTUProductionEndpoint) (hphase : phase.reserves = 1)
    (hgeneration : phase.generation = some receipt.generation) (hafter : after.Carries receipt) :
    RTUMove call phase endpoint after endpoint :=
  .inside phase after endpoint hphase hafter.reserves hafter.quiet
    (Or.inl (hafter.generation.trans hgeneration.symm))

theorem RTUProductionCall.advance_move (call : RTUProductionCall) (input : RTUInput)
    (phase after : RTUPhase) (endpoint next : RTUProductionEndpoint)
    (h : call.advance input phase endpoint = some (after, next)) :
    RTUMove call phase endpoint after next := by
  unfold RTUProductionCall.advance at h
  -- One case for each phase, in the order of `advance`.
  split at h
  · split at h <;> cases h
    · exact .outside _ _ _ rfl rfl rfl rfl rfl (fun h => nomatch h)
    · next hentered =>
      rcases RTUProductionEndpoint.enter_ok hentered with ⟨hclosed, hfenced, hfree, rfl⟩
      exact .enter _ _ hclosed hfenced hfree
  · split at h <;> cases h
    · exact .outside _ _ _ rfl rfl rfl rfl rfl (fun h => nomatch h)
    · next hentered =>
      rcases RTUProductionEndpoint.enterPrivate_ok _ hentered with
        ⟨hclosed, hfenced, hfree, rfl⟩
      exact .enter _ _ hclosed hfenced hfree
  · split at h <;> cases h
    · exact .inside _ _ _ rfl rfl rfl (Or.inr rfl)
    · exact .inside _ _ _ rfl rfl rfl (Or.inr rfl)
  · split at h
    · cases h
      exact .inside _ _ _ rfl rfl rfl (Or.inr rfl)
    · next hchecked =>
      rcases RTUProductionEndpoint.recheck_some _ hchecked with ⟨hclosed, hfenced, rfl, rfl⟩
      rcases Option.map_eq_some_iff.mp h with ⟨receipt, hreceipt, hafter⟩
      cases hafter
      have hgeneration := RTUProductionCall.receipt_generation _ _ _ _ receipt hreceipt
      exact .recheck _ receipt _ hclosed hfenced hgeneration
  · cases h
    exact .carries _ _ _ _ _ rfl rfl (endpoint.afterWrite_proceeds _ _ _).toCarries
  · split at h <;> cases h
    · exact .inside _ _ _ rfl rfl rfl (Or.inl rfl)
    · exact .carries _ _ _ _ _ rfl rfl (RTUReceived.finishing_carries _ _)
  · split at h <;> cases h
    · exact .inside _ _ _ rfl rfl rfl (Or.inl rfl)
    · exact .carries _ _ _ _ _ rfl rfl (endpoint.afterFrame_carries _ _ _ _ _ _ _)
  · split at h <;> cases h
    · exact .inside _ _ _ rfl rfl rfl (Or.inl rfl)
    · exact .carries _ _ _ _ _ rfl rfl (endpoint.afterClassification_proceeds _ _ _ _ _).toCarries
  · cases h
    exact .finish (.read _) _ _ _ _ _
  · cases h
    exact .finish (.privateFunction _) _ _ _ _ _
  · cases h
    exact .release _ _
  · split at h <;> cases h
    · exact .outside _ _ _ rfl rfl rfl rfl rfl (fun h => nomatch h)
    · next hbegun =>
      rcases RTUProductionEndpoint.beginRecover_some _ hbegun with
        ⟨hfenced, hfree, hattempted, rfl, rfl⟩
      exact .beginRecover _ hfenced hfree hattempted
  · split at h
    · cases h
      exact .drain _ _ _ rfl rfl rfl
    · split at h
      · cases h
        exact .giveUp _ _ _
      · split at h <;> cases h
        · exact .drain _ _ _ rfl rfl rfl
        · exact .drain _ _ _ rfl rfl rfl
  · cases h
    exact .succeed _
  · split at h <;> cases h
    · next hclosed => exact .outside _ _ _ rfl rfl rfl rfl rfl fun _ => hclosed
    · next hclosed => exact .close _ (Bool.eq_false_iff.mpr hclosed)
  · cases h
    exact .outside _ _ _ rfl rfl rfl rfl rfl (fun h => nomatch h)
  · cases h
    exact .outside _ _ _ rfl rfl rfl rfl rfl (fun h => nomatch h)
  · cases h
    exact .outside _ _ _ rfl rfl rfl rfl rfl (fun h => nomatch h)
  · cases h

/-- A configuration for the runs on fixed inputs, and the read they make. -/
def productionConfig : RTUProductionConfig :=
  { endpoint := "line", timing := fixtureTiming, responseTimeout := 100000000
    serial := { path := "tty", baud := 19200, dataBits := 8, parity := .even, stopBits := 1 }
    enabled := true, admission := true
    privateFunction := { admission := true, maxResponses := 1 } }

/-- The endpoint of this configuration. -/
def productionEndpoint : RTUProductionEndpoint :=
  { endpoint := "line", timing := fixtureTiming, timeout := 100000000
    privateFunction := { admission := true, maxResponses := 1 } }

def productionRead : RTUProductionCall := .read 1 fixturePlan.request

end HelianthusModbus
