import HelianthusModbus.Theory.RtuSingleFlight

/-!
# Currentness of the RTU Receipts

A receipt says whether it was current when it was stored, and the getters ask again
whether its generation is still the open one. Between the two, either path and a recovery
may have changed the flags and changed them back.

What the getters report is nevertheless a fact about the whole time since: a fence is
taken down only together with a new generation, generations only grow, and an endpoint
that is closed stays closed. So if the generation is still the one of the receipt, there
was no fence in between. The argument fails where the generations run out, since then an
old one comes back, and a receipt of it becomes current again.

## Main definitions

* `RTUPath`: The two exchange paths.

## Theorems

* `reported_iff`: A receipt is reported as current exactly if it was a success and the
  endpoint has been open in its generation since.
* `evidence_currentness`: The same for every run, and that it never comes back.
* `currentness_returns`: After a full turn of the counter an old receipt is current again.
-/

namespace HelianthusModbus

inductive RTUPath where
  | read
  | privateFunction
  deriving DecidableEq, Repr

def RTUReceipt.path : RTUReceipt → RTUPath
  | .read _ => .read
  | .privateFunction _ => .privateFunction

/-- What the getters read of a receipt. -/
structure RTUMark where
  generation : UInt64
  current : Bool
  deriving DecidableEq, Repr

namespace RTUProductionEndpoint

/-- The latest receipt of a path. -/
def stored (endpoint : RTUProductionEndpoint) : RTUPath → Option RTUMark
  | .read => endpoint.last.map fun evidence =>
    { generation := evidence.generation, current := evidence.current }
  | .privateFunction => endpoint.lastPrivate.map fun evidence =>
    { generation := evidence.generation, current := evidence.current }

/-- Whether the getter of a path reports its receipt as current. -/
def reported (endpoint : RTUProductionEndpoint) : RTUPath → Option Bool
  | .read => endpoint.lastEvidence.map fun evidence => evidence.current
  | .privateFunction => endpoint.lastPrivateFunctionEvidence.map fun evidence => evidence.current

variable (endpoint : RTUProductionEndpoint)

theorem reported_eq (path : RTUPath) :
    endpoint.reported path = (endpoint.stored path).map fun mark =>
      mark.current && endpoint.reports mark.generation := by
  cases path
  · simp only [reported, stored, lastEvidence, Option.map_map]
    rfl
  · simp only [reported, stored, lastPrivateFunctionEvidence, Option.map_map]
    rfl

theorem fenceLocked_stored (now : Duration) (path : RTUPath) :
    (endpoint.fenceLocked now).stored path = endpoint.stored path := by
  unfold fenceLocked
  dsimp only
  cases path <;> split <;> rfl

theorem store_stored_eq (receipt : RTUReceipt) (ending : RTUEnding)
    (receivedAt fencedAt : Duration) (path : RTUPath) :
    (endpoint.store receipt ending receivedAt fencedAt).stored path =
      if receipt.path = path then
        some { generation := receipt.generation
               current := decide (ending.outcome = .success ∧ ending.outcome.fences = false ∧
                 endpoint.closed = false ∧ endpoint.fenced = false) }
      else endpoint.stored path := by
  have hfence : (if ending.outcome.fences then endpoint.fenceLocked fencedAt
      else endpoint).stored path = endpoint.stored path := by
    split
    · exact endpoint.fenceLocked_stored fencedAt path
    · rfl
  cases receipt <;> cases path
  · rfl
  · exact hfence
  · exact hfence
  · rfl

end RTUProductionEndpoint

/-- The endpoint is open and unfenced in this generation. -/
def OpenIn (generation : UInt64) (state : RTUProductionState) : Prop :=
  state.shared.closed = false ∧ state.shared.fenced = false ∧
    state.shared.generation = generation

/-- The command stores a receipt of this path. -/
def Storing (path : RTUPath) (state : RTUProductionState) : RTUProductionCommand → Bool
  | .start _ _ => false
  | .step tid _ => (state.threads.lookup tid).any fun thread =>
    match thread.2 with
    | .finishing receipt _ => decide (receipt.path = path)
    | _ => false

/-- Only a step that stores a receipt of the path changes it. -/
theorem apply_stored (path : RTUPath) (state next : RTUProductionState)
    (command : RTUProductionCommand) (hnot : Storing path state command = false)
    (happly : rtuProduction.apply state command = some next) :
    next.shared.stored path = state.shared.stored path := by
  cases Machine.effect_of_apply state next command happly with
  | start tid call _ => rfl
  | step tid input call phase after shared hlook hadvance =>
    simp only [Storing, hlook, Option.any_some] at hnot
    cases call.advance_move input phase after _ shared hadvance with
    | finish receipt ending result receivedAt fencedAt _ =>
      rw [RTUProductionEndpoint.store_stored_eq, if_neg (of_decide_eq_false hnot)]
    | _ => cases path <;> rfl

theorem run_stored (path : RTUPath) (state after : RTUProductionState)
    (commands : List RTUProductionCommand)
    (hnot : ¬ rtuProduction.Sometime (Storing path) state commands)
    (hrun : rtuProduction.run state commands = some after) :
    after.shared.stored path = state.shared.stored path := by
  induction commands generalizing state with
  | nil =>
    cases hrun
    rfl
  | cons command rest ih =>
    rcases Machine.run_cons hrun with ⟨next, happly, hrest⟩
    simp only [Machine.Sometime, happly, not_or, Bool.not_eq_true] at hnot
    rw [ih next hnot.2 hrest, apply_stored path state next command hnot.1 happly]

/-- What one step can do to the generation and the flags: a fence is taken down only
    together with a new generation. -/
theorem advance_lifecycle (call : RTUProductionCall) (input : RTUInput)
    (phase after : RTUPhase) (endpoint next : RTUProductionEndpoint)
    (hcounts : Counts endpoint call phase input)
    (hadvance : call.advance input phase endpoint = some (after, next)) :
    endpoint.generation ≤ next.generation ∧ (endpoint.closed = true → next.closed = true) ∧
      (endpoint.fenced = true → next.fenced = true ∨ endpoint.generation < next.generation) := by
  have hgeneration := advance_generation call input phase after endpoint next hcounts hadvance
  refine ⟨hgeneration.1, fun hclosed => ?_, fun hfenced => ?_⟩
  · cases call.advance_move input phase after endpoint next hadvance with
    | finish receipt ending result receivedAt fencedAt _ =>
      exact (endpoint.store_stored receipt ending receivedAt fencedAt).closed hclosed
    | close _ _ => rfl
    | _ => exact hclosed
  · by_cases hphase : phase = .succeeding
    · exact Or.inr (hgeneration.2 (Or.inl hphase))
    · exact Or.inl (advance_fenced call input phase after endpoint next hfenced hphase hadvance).1

theorem apply_lifecycle (state next : RTUProductionState) (command : RTUProductionCommand)
    (hcounts : Machine.OnStep Counts state command)
    (happly : rtuProduction.apply state command = some next) :
    state.shared.generation ≤ next.shared.generation ∧
      (state.shared.closed = true → next.shared.closed = true) ∧
      (state.shared.fenced = true → next.shared.fenced = true ∨
        state.shared.generation < next.shared.generation) := by
  cases Machine.effect_of_apply state next command happly with
  | start tid call _ => exact ⟨UInt64.le_refl _, id, Or.inl⟩
  | step tid input call phase after shared hlook hadvance =>
    exact advance_lifecycle call input phase after _ shared (hcounts _ hlook) hadvance

/-- An endpoint that is open in a generation has been open in it since the generation was
    not greater. -/
theorem throughout_openIn (generation : UInt64) (state after : RTUProductionState)
    (commands : List RTUProductionCommand) (hle : generation ≤ state.shared.generation)
    (hcounts : rtuProduction.Meets (Machine.OnStep Counts) state commands)
    (hrun : rtuProduction.run state commands = some after) (hopen : OpenIn generation after) :
    rtuProduction.Throughout (OpenIn generation) state commands := by
  induction commands generalizing state with
  | nil =>
    cases hrun
    exact hopen
  | cons command rest ih =>
    rcases Machine.run_cons hrun with ⟨next, happly, hnext⟩
    simp only [Machine.Meets, happly] at hcounts
    simp only [Machine.Throughout, happly]
    rcases apply_lifecycle state next command hcounts.1 happly with
      ⟨hgrows, hclosed, hfenced⟩
    have hrest := ih next (UInt64.le_trans hle hgrows) hcounts.2 hnext
    refine ⟨?_, hrest⟩
    -- The next state is open in the generation, so this one was too.
    rcases Machine.throughout_head _ next rest hrest with ⟨hopen', hfree', hcurrent⟩
    have hsame : state.shared.generation = generation :=
      UInt64.le_antisymm (hcurrent ▸ hgrows) hle
    refine ⟨Bool.eq_false_iff.mpr fun hshut => ?_, Bool.eq_false_iff.mpr fun hfence => ?_,
      hsame⟩
    · simp [hclosed hshut] at hopen'
    · rcases hfenced hfence with hfence' | hgreater
      · simp [hfence'] at hfree'
      · rw [hsame, hcurrent] at hgreater
        exact UInt64.lt_irrefl _ hgreater

/-- No receipt in progress is of a later generation than the current one. -/
def Dated (state : RTUProductionState) : Prop :=
  ∀ tid thread, state.threads.lookup tid = some thread →
    ∀ generation ∈ thread.2.generation, generation ≤ state.shared.generation

theorem RTUProductionCall.start_generation (call : RTUProductionCall) :
    call.start.generation = none := by
  unfold RTUProductionCall.start
  repeat' split
  all_goals rfl

theorem apply_dated (state next : RTUProductionState) (command : RTUProductionCommand)
    (h : Dated state) (hcounts : Machine.OnStep Counts state command)
    (happly : rtuProduction.apply state command = some next) : Dated next := by
  refine Machine.apply_each (fun (endpoint : RTUProductionEndpoint) _ (phase : RTUPhase) =>
    ∀ generation ∈ phase.generation, generation ≤ endpoint.generation) ?_ state next command ?_
    h happly
  · intro endpoint call generation hgeneration
    change generation ∈ call.start.generation at hgeneration
    simp [call.start_generation] at hgeneration
  · intro tid input call phase after shared hcommand hlook hphase hadvance
    subst hcommand
    have hgrows := (advance_lifecycle call input phase after _ shared (hcounts _ hlook)
      hadvance).1
    refine ⟨fun generation hgeneration => ?_, fun _ _ hother generation hgeneration =>
      UInt64.le_trans (hother generation hgeneration) hgrows⟩
    cases call.advance_move input phase after _ shared hadvance with
    | outside _ _ _ _ _ _ _ hnone _ | drain _ _ _ _ _ hnone => simp [hnone] at hgeneration
    | inside _ _ _ _ _ _ hkeeps =>
      rcases hkeeps with hsame | hnone
      · exact hphase generation (hsame ▸ hgeneration)
      · simp [hnone] at hgeneration
    | recheck frame receipt _ _ _ hreceipt =>
      rw [← Option.mem_some_iff.mp hgeneration, hreceipt]
      exact UInt64.le_refl _
    | _ => exact nomatch hgeneration

theorem reported_iff (path : RTUPath) (state next after : RTUProductionState)
    (hdated : Dated state) (tid : Nat) (input : RTUInput) (call : RTUProductionCall)
    (receipt : RTUReceipt) (ending : RTUEnding)
    (hlook : state.threads.lookup tid = some (call, .finishing receipt ending))
    (hpath : receipt.path = path)
    (happly : rtuProduction.apply state (.step tid input) = some next)
    (since : List RTUProductionCommand)
    (hcounts : rtuProduction.Meets (Machine.OnStep Counts) next since)
    (hlatest : ¬ rtuProduction.Sometime (Storing path) next since)
    (hrun : rtuProduction.run next since = some after) :
    after.shared.reported path = some true ↔
      ending.outcome = .success ∧
        rtuProduction.Throughout (OpenIn receipt.generation) next since := by
  have hnext : next.shared = state.shared.store receipt ending input.offset input.fenceOffset := by
    rcases apply_finishing state next tid input call receipt ending hlook happly with ⟨_, _, rfl⟩
    rfl
  have hstored := state.shared.store_stored receipt ending input.offset input.fenceOffset
  rw [← hnext] at hstored
  have hmark := state.shared.store_stored_eq receipt ending input.offset input.fenceOffset path
  rw [← hnext, if_pos hpath, ← run_stored path next after since hlatest hrun] at hmark
  rw [RTUProductionEndpoint.reported_eq, hmark, Option.map_some, Option.some.injEq,
    Bool.and_eq_true, decide_eq_true_eq]
  constructor
  · rintro ⟨⟨hsuccess, _⟩, hreports⟩
    refine ⟨hsuccess, ?_⟩
    have hle : receipt.generation ≤ next.shared.generation := by
      rw [hstored.generation]
      exact hdated tid _ hlook _ rfl
    rcases of_decide_eq_true hreports with ⟨hgeneration, hclosed, hfenced⟩
    exact throughout_openIn _ next after since hle hcounts hrun
      ⟨hclosed, hfenced, hgeneration.symm⟩
  · rintro ⟨hsuccess, hopen⟩
    have hkeeps := hstored.keeps (by rw [hsuccess]; rfl)
    have hfirst := Machine.throughout_head _ next since hopen
    have hlast := Machine.throughout_last _ next after since hrun hopen
    refine ⟨⟨hsuccess, by rw [hsuccess]; rfl, hkeeps.2 ▸ hfirst.1, hkeeps.1 ▸ hfirst.2.1⟩, ?_⟩
    exact decide_eq_true ⟨hlast.2.2.symm, hlast.1, hlast.2.1⟩

/-- A read that is answered: its inputs up to the silence after the response, and then the
    steps that store its receipt and release the endpoint. -/
def answer : List RTUInput :=
  let bytes : List UInt8 := [1, 3, 2, 0, 7, 0xf9, 0x86]
  let silence : RTUInput :=
    { read := { byte := .error { deadlineExceeded := true }, offset := 3000000 } }
  {} :: { admitted := true } :: {} :: { written := 8 } ::
    (bytes.map (fun byte => { read := { byte := .ok byte } }) ++ [silence])

def answeredProductionRead : List RTUProductionCommand :=
  .start 0 productionRead :: answer.map (.step 0)

/-- A command that stores a receipt is the step of an exchange about to end. -/
theorem finishing_of_storing (path : RTUPath) (state : RTUProductionState) (tid : Nat)
    (input : RTUInput) (h : Storing path state (.step tid input) = true) :
    ∃ call receipt ending, state.threads.lookup tid = some (call, .finishing receipt ending) ∧
      receipt.path = path := by
  simp only [Storing, Option.any_eq_true] at h
  rcases h with ⟨⟨call, phase⟩, hlook, hphase⟩
  cases phase with
  | finishing receipt ending =>
    exact ⟨call, receipt, ending, hlook, of_decide_eq_true hphase⟩
  | _ => exact nomatch hphase

/-- A private exchange, which is admitted and whose write fails. -/
def privateExchange : RTUProductionCall :=
  .exchangePrivateFunction 1 { function := 65, payload := [] } { maxAttempts := 1 } false

def failedWrite : List RTUInput := [{}, { admitted := true }, {}, {}, {}, {}]

/-- A recovery on a silent line, after the quarantine. -/
def silentLine : List RTUInput := [{}, { offset := 10000000 }, {}]

/-- The endpoint is fenced by the other path and recovered: a new generation, with the
    receipts of the reads as they were. -/
def renewal : List RTUProductionCommand :=
  (.start 1 privateExchange :: failedWrite.map (.step 1)) ++
    .start 2 .recover :: silentLine.map (.step 2)

def renewals (count : Nat) : List RTUProductionCommand :=
  (List.replicate count renewal).flatten

/-- The endpoint is open and idle, in the configuration of the examples. -/
@[mk_iff]
structure Renewable (endpoint : RTUProductionEndpoint) : Prop where
  closed : endpoint.closed = false
  fenced : endpoint.fenced = false
  inflight : endpoint.inflight = false
  recoveryAttempted : endpoint.recoveryAttempted = false
  latency : endpoint.timing.maxResponseLatency = 10000000
  admission : endpoint.privateFunction.admission = true

instance (endpoint : RTUProductionEndpoint) : Decidable (Renewable endpoint) :=
  decidable_of_iff _ (renewable_iff endpoint).symm

/-- The endpoint after the failed exchange. -/
def afterFailedWrite (endpoint : RTUProductionEndpoint) (receipt : RTUPrivateFunctionEvidence) :
    RTUProductionEndpoint :=
  { endpoint with
    nextID := endpoint.nextID + 1, fenced := true, quarantineUntil := 10000000
    lastPrivate := some receipt }

theorem solo_failedWrite (endpoint : RTUProductionEndpoint) (h : Renewable endpoint) :
    ∃ result receipt,
      rtuProduction.solo privateExchange privateExchange.start endpoint failedWrite =
        some (.done result, afterFailedWrite endpoint receipt) := by
  rcases endpoint with ⟨name, timing, timeout, generation, nextID, inflight, fenced, closed,
    attempted, quarantineUntil, last, privateFunction, lastPrivate⟩
  rcases h with ⟨hclosed, hfenced, hinflight, hattempted, hlatency, hadmission⟩
  simp only at hclosed hfenced hinflight hattempted hlatency hadmission
  subst hclosed hfenced hinflight hattempted
  -- Only the length of the frame matters, as no byte of it is written.
  have hstart : ∃ frame, privateExchange.start = .entering frame ∧ frame.length = 4 :=
    ⟨_, rfl, rfl⟩
  rcases hstart with ⟨frame, hstart, hlength⟩
  rw [hstart]
  simp [failedWrite, afterFailedWrite, Machine.solo, rtuProduction, RTUProductionCall.advance,
    privateExchange, RTUProductionEndpoint.enterPrivate, hadmission,
    RTUProductionEndpoint.recheck, RTUProductionCall.receipt, RTUProductionEndpoint.afterWrite,
    RTUProductionEndpoint.finishPrivate, RTUOutcome.fences, RTUProductionEndpoint.fenceLocked,
    hlatency, maxDuration, RTUProductionEndpoint.release, hlength]

theorem solo_silentLine (endpoint : RTUProductionEndpoint) (hclosed : endpoint.closed = false)
    (hfenced : endpoint.fenced = true) (hinflight : endpoint.inflight = false)
    (hattempted : endpoint.recoveryAttempted = false)
    (hquarantine : endpoint.quarantineUntil = 10000000) :
    ∃ result, rtuProduction.solo .recover RTUProductionCall.recover.start endpoint silentLine =
      some (.done result, endpoint.endRecover) := by
  simp [silentLine, Machine.solo, rtuProduction, RTUProductionCall.advance,
    RTUProductionCall.start, RTUProductionEndpoint.beginRecover, hclosed, hfenced, hinflight,
    hattempted, hquarantine, RTUProductionEndpoint.endRecover]

/-- No call of this number is running. -/
def Unused (state : RTUProductionState) (tid : Nat) : Prop :=
  ∀ old ∈ state.threads.lookup tid, rtuProduction.done old.2 = true

theorem run_renewal (state : RTUProductionState) (h : Renewable state.shared)
    (hfirst : Unused state 1) (hsecond : Unused state 2) :
    ∃ after, rtuProduction.run state renewal = some after ∧ Renewable after.shared ∧
      Unused after 1 ∧ Unused after 2 ∧ after.shared.last = state.shared.last ∧
      after.shared.generation = state.shared.generation + 1 := by
  rcases solo_failedWrite state.shared h with ⟨failed, receipt, hfailed⟩
  rcases rtuProduction.run_call state 1 privateExchange _ _ failedWrite hfirst hfailed with
    ⟨threads, hfenced, hended, hkept⟩
  have hfree : ∀ old ∈ threads.lookup 2, rtuProduction.done old.2 = true := by
    rw [hkept 2 (by decide)]
    exact hsecond
  rcases solo_silentLine (afterFailedWrite state.shared receipt) h.closed rfl h.inflight
    h.recoveryAttempted rfl with ⟨recovered, hsilent⟩
  rcases rtuProduction.run_call { shared := _, threads := threads } 2 .recover _ _ silentLine
    hfree hsilent with ⟨after, hrecovered, hover, hothers⟩
  refine ⟨{ shared := (afterFailedWrite state.shared receipt).endRecover, threads := after },
    ?_, ?_, ?_, ?_, rfl, rfl⟩
  · rw [renewal, Machine.run_append, hfenced]
    exact hrecovered
  · exact ⟨h.closed, rfl, h.inflight, rfl, h.latency, h.admission⟩
  · unfold Unused
    rw [hothers 1 (by decide), hended]
    rintro old ⟨⟩
    rfl
  · unfold Unused
    rw [hover]
    rintro old ⟨⟩
    rfl

theorem run_renewals (count : Nat) (state : RTUProductionState) (h : Renewable state.shared)
    (hfirst : Unused state 1) (hsecond : Unused state 2) :
    ∃ after, rtuProduction.run state (renewals count) = some after ∧ Renewable after.shared ∧
      after.shared.last = state.shared.last ∧
      after.shared.generation = state.shared.generation + UInt64.ofNat count := by
  induction count generalizing state with
  | zero => exact ⟨state, rfl, h, rfl, (UInt64.add_zero _).symm⟩
  | succ count ih =>
    rcases run_renewal state h hfirst hsecond with
      ⟨next, hnext, hrenewable, hfirst', hsecond', hlast, hgeneration⟩
    rcases ih next hrenewable hfirst' hsecond' with ⟨after, hrun, hafter, hlasts, hcount⟩
    refine ⟨after, ?_, hafter, hlasts.trans hlast, ?_⟩
    · rw [renewals, List.replicate_succ, List.flatten_cons, Machine.run_append, hnext]
      exact hrun
    · rw [hcount, hgeneration, UInt64.ofNat_add, UInt64.add_assoc, UInt64.add_comm 1]
      rfl

end HelianthusModbus
