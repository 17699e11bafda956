import HelianthusModbus.Theory.RtuSingleFlight

/-!
# The Lifetime of the RTU Production Endpoint

An exchange gives back its reservation on every path. Two things end the use of an endpoint.
A recovery that gives up leaves the fence up and its attempt recorded, and there is no second
one. And nothing takes a close back, not even a recovery that takes the fence down later.

## Main definitions

* `Abandoned`: The fence is up, the recovery was tried, and nobody is on the line.

## Theorems

* `reservation_exact`: The flag of the reservation and the exchanges in progress.
* `failed_recovery_final`: After a recovery that gave up, nobody is on the line again.
* `closed_sends_nothing`: After a close, no exchange comes to its send.
-/

namespace HelianthusModbus

/-- A relation between the endpoint and the stages of all operations, which every step keeps,
    holds after every run. -/
theorem run_holds (inv : RTUProductionEndpoint → Nat × Nat → Prop)
    (hstep : ∀ call input phase after endpoint next others, inv endpoint (phase.holds + others) →
      RTUProductionCall.advance call input phase endpoint = some (after, next) →
        inv next (after.holds + others))
    {commands : List RTUProductionCommand} {state after : RTUProductionState}
    (h : inv state.shared (Machine.total RTUPhase.holds state))
    (hrun : rtuProduction.run state commands = some after) :
    inv after.shared (Machine.total RTUPhase.holds after) := by
  refine Machine.run_invariant (fun state => inv state.shared
    (Machine.total RTUPhase.holds state)) (fun state command next h happly => ?_) commands state
    after h hrun
  exact Machine.apply_weighs RTUPhase.holds inv RTUProductionCall.start_holds
    RTUPhase.holds_of_isDone state next command
    (fun _ _ _ _ _ _ _ _ _ => hstep _ _ _ _ _ _ _) h happly

/-- In every interleaving the endpoint is reserved exactly while an exchange is between its
    first and its last region. -/
theorem reservation_exact (config : RTUProductionConfig) (endpoint : RTUProductionEndpoint)
    (hnew : newRTUProductionEndpoint config = .ok endpoint)
    (commands : List RTUProductionCommand) (after : RTUProductionState)
    (hrun : rtuProduction.run { shared := endpoint } commands = some after) :
    after.shared.inflight = true ↔
      ∃ tid thread, after.threads.lookup tid = some thread ∧ 0 < thread.2.reserves := by
  have hreserved := run_holds Reserved advance_reserved
    (newRTUProductionEndpoint_guarded config endpoint hnew).reserved hrun
  have htotal : Machine.total RTUPhase.reserves after = if after.shared.inflight then 1 else 0 :=
    (Machine.total_map RTUPhase.holds (AddMonoidHom.fst Nat Nat) after).trans hreserved.inflight
  rw [← Table.sum_pos_iff, ← Machine.total, htotal]
  cases after.shared.inflight <;> simp

theorem reservation_exact_read :
    ∃ endpoint after, newRTUProductionEndpoint productionConfig = .ok endpoint ∧
      rtuProduction.run { shared := endpoint } (admittedRead 0) = some after ∧
      after.shared.inflight = true := by
  refine ⟨_, _, rfl, rfl, ?_⟩
  exact (reservation_exact productionConfig _ rfl (admittedRead 0) _ rfl).mpr
    ⟨0, _, rfl, Nat.one_pos⟩

/-- The fence is up, the recovery was tried, and nobody is on the line. -/
structure Abandoned (endpoint : RTUProductionEndpoint) (holders : Nat × Nat) : Prop where
  fenced : endpoint.fenced = true
  attempted : endpoint.recoveryAttempted = true
  free : holders = 0

theorem advance_abandoned (call : RTUProductionCall) (input : RTUInput) (phase after : RTUPhase)
    (endpoint next : RTUProductionEndpoint) (others : Nat × Nat)
    (h : Abandoned endpoint (phase.holds + others))
    (hadvance : call.advance input phase endpoint = some (after, next)) :
    Abandoned next (after.holds + others) := by
  rcases h with ⟨hfenced, hattempted, hfree⟩
  rcases add_eq_zero.mp hfree with ⟨hphase, rfl⟩
  rcases Prod.ext_iff.mp hphase with ⟨hreserves, hdrains⟩
  cases call.advance_move input phase after endpoint next hadvance with
  | outside _ _ _ _ _ hreserves' hdrains' _ _ =>
    exact ⟨hfenced, hattempted, Prod.ext hreserves' hdrains'⟩
  | enter frame _ _ hopen _ | recheck frame receipt _ _ hopen _ => simp [hfenced] at hopen
  | beginRecover _ _ _ hfirst => simp [hattempted] at hfirst
  | close _ _ => exact ⟨rfl, hattempted, rfl⟩
  | inside _ _ _ hinside _ _ _ => exact nomatch hinside.symm.trans hreserves
  | finish | release => exact nomatch hreserves
  | drain | giveUp | succeed => exact nomatch hdrains

/-- A recovery that gave up was the last one: in every interleaving the fence stays up and
    nobody is on the line again. -/
theorem failed_recovery_final (config : RTUProductionConfig) (endpoint : RTUProductionEndpoint)
    (hnew : newRTUProductionEndpoint config = .ok endpoint)
    (before since : List RTUProductionCommand) (state next after : RTUProductionState)
    (hbefore : rtuProduction.run { shared := endpoint } before = some state)
    (tid : Nat) (input : RTUInput) (call : RTUProductionCall) (quarantineUntil : Duration)
    (hdraining : state.threads.lookup tid = some (call, .draining quarantineUntil))
    (happly : rtuProduction.apply state (.step tid input) = some next) (result : RTUResult)
    (hfailed : next.threads.lookup tid = some (call, .done result))
    (hsince : rtuProduction.run next since = some after) :
    after.shared.fenced = true ∧
      ∀ other thread, after.threads.lookup other = some thread → ¬ thread.2.OnLine := by
  have hnext : Abandoned next.shared (Machine.total RTUPhase.holds next) := by
    have hreserved := run_holds Reserved advance_reserved
      (newRTUProductionEndpoint_guarded config endpoint hnew).reserved hbefore
    rw [Machine.total_of_lookup _ _ _ _ _ hdraining] at hreserved
    cases Machine.effect_of_apply state next _ happly with
    | step _ _ call' phase moved shared hlook hadvance =>
    cases hdraining.symm.trans hlook
    cases (AList.lookup_insert _).symm.trans hfailed
    cases call.advance_move input (.draining quarantineUntil) (.done result) _ shared hadvance with
    | outside _ _ _ _ hnone | inside _ _ _ hnone | drain _ _ _ hnone => exact nomatch hnone
    | giveUp =>
      -- the recovery was alone, so with its end nobody is left
      rcases hreserved with ⟨hinflight, halone, hfenced⟩
      rcases hfenced (by simp [RTUPhase.holds, RTUPhase.drains]) with ⟨hfence, htried, hfree⟩
      rw [hfree] at hinflight
      rw [Machine.total_insert]
      refine ⟨hfence, htried, Prod.ext hinflight ?_⟩
      exact (Nat.zero_add _).trans (Nat.le_zero.mp (Nat.le_of_add_le_add_left halone))
  have hafter := run_holds Abandoned advance_abandoned hnext hsince
  refine ⟨hafter.fenced, fun other thread hlook honline => ?_⟩
  have hfree := hafter.free
  have hholds := thread.2.onLine_holds honline
  rw [Machine.total_of_lookup _ _ _ _ _ hlook, add_eq_zero] at hfree
  simp only [RTUPhase.holds, Prod.mk_eq_zero] at hfree
  omega

/-- A recovery drains the line when the stream fails, and a read comes after it. -/
theorem failed_recovery_final_read :
    ∃ endpoint state next after call quarantineUntil result,
      newRTUProductionEndpoint productionConfig = .ok endpoint ∧
      rtuProduction.run { shared := endpoint } (recoveredReads.take 9) = some state ∧
      state.threads.lookup 1 = some (call, .draining quarantineUntil) ∧
      rtuProduction.apply state (.step 1 { read := { byte := .error {} } }) = some next ∧
      next.threads.lookup 1 = some (call, .done result) ∧
      rtuProduction.run next [.start 2 productionRead, .step 2 {}] = some after ∧
      after.shared.fenced = true := by
  refine ⟨_, _, _, _, _, _, _, rfl, rfl, rfl, rfl, rfl, rfl, ?_⟩
  exact (failed_recovery_final productionConfig _ rfl (recoveredReads.take 9)
    [.start 2 productionRead, .step 2 {}] _ _ _ rfl 1 { read := { byte := .error {} } } _ _
    rfl rfl _ rfl rfl).1

/-- Once the endpoint is closed it stays so, and in every interleaving only an exchange that
    was already past the check before its send is still sent. -/
theorem closed_sends_nothing (state after : RTUProductionState)
    (hclosed : state.shared.closed = true) (commands : List RTUProductionCommand)
    (hrun : rtuProduction.run state commands = some after) :
    after.shared.closed = true ∧ ∀ tid thread, after.threads.lookup tid = some thread →
      thread.2.isWriting = true → state.threads.lookup tid = some thread := by
  refine Machine.run_invariant (fun next => next.shared.closed = true ∧ ∀ tid thread,
    next.threads.lookup tid = some thread → thread.2.isWriting = true →
      state.threads.lookup tid = some thread) ?_ commands state after
    ⟨hclosed, fun _ _ hlook _ => hlook⟩ hrun
  intro middle command next ⟨hshut, hold⟩ happly
  -- only a move to the send makes a new sender
  have hmoved (tid : Nat) (call : RTUProductionCall) (phase : RTUPhase)
      (hquiet : phase.isWriting = false) (other thread)
      (hlook : (middle.threads.insert tid (call, phase)).lookup other = some thread)
      (hwriting : thread.2.isWriting = true) : state.threads.lookup other = some thread := by
    rcases Table.lookup_insert_some hlook with ⟨_, rfl⟩ | ⟨_, hother⟩
    · simp [hquiet] at hwriting
    · exact hold other thread hother hwriting
  cases Machine.effect_of_apply middle next command happly with
  | start tid call _ => exact ⟨hshut, hmoved tid call _ call.start_isWriting⟩
  | step tid input call phase moved shared hlook hadvance =>
    refine ⟨?_, hmoved tid call moved (Bool.eq_false_iff.mpr fun hwriting => ?_)⟩
    · cases call.advance_move input phase moved _ shared hadvance with
      | finish receipt ending result receivedAt fencedAt _ =>
        exact (middle.shared.store_stored receipt ending receivedAt fencedAt).closed hshut
      | close _ _ => rfl
      | _ => exact hshut
    · cases moved with
      | writing frame receipt =>
        have hopen := (advance_writing call input phase _ shared frame receipt hadvance).2.1
        simp [hshut] at hopen
      | _ => exact nomatch hwriting

/-- A recovery drains the line while the endpoint is closed: it succeeds and takes the fence
    down, and the next read is refused all the same. An exchange that is at its send when the
    endpoint is closed is the only one that is still sent. -/
theorem closed_sends_nothing_read :
    ∃ endpoint draining recovered sending after call frame receipt,
      newRTUProductionEndpoint productionConfig = .ok endpoint ∧
      rtuProduction.run { shared := endpoint }
        (recoveredReads.take 9 ++ [.start 3 .close, .step 3 {}]) = some draining ∧
      rtuProduction.run draining [.step 1 { offset := 10000000 }, .step 1 {},
        .start 4 productionRead, .step 4 {}] = some recovered ∧
      recovered.shared.fenced = false ∧ recovered.shared.closed = true ∧
      rtuProduction.run { shared := endpoint }
        (admittedRead 0 ++ [.start 3 .close, .step 3 {}]) = some sending ∧
      rtuProduction.run sending [.start 4 productionRead, .step 4 {}] = some after ∧
      after.threads.lookup 0 = some (call, .writing frame receipt) ∧
      sending.threads.lookup 0 = some (call, .writing frame receipt) := by
  refine ⟨_, _, ?recovered, _, ?after, ?call, ?frame, ?receipt, rfl, rfl, ?hrecovered, ?hfence,
    (closed_sends_nothing _ _ rfl _ ?hrecovered).1, rfl, ?hafter, ?hsend,
    (closed_sends_nothing _ _ rfl _ ?hafter).2 0 _ ?hsend rfl⟩
  case hrecovered => rfl
  case hfence => rfl
  case hafter => rfl
  case hsend => rfl

end HelianthusModbus
