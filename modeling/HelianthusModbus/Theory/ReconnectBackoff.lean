import HelianthusModbus.Core.Backoff

/-!
# Attempts of the Reconnect Backoff

What a sequence of calls on one backoff costs. A delay that is handed out costs one
attempt, and nothing else should. `nextDelayBefore` keeps to this: a delay that does not
fit is rejected before the attempt is counted. `WaitUntil` looks at the deadline only
after `NextDelay` has counted the attempt and logged its jitter, so the same rejection
costs an attempt there.

`BackoffEffect` says once what a call can do. The bounds on delays and attempts are read
off it, and so is the one call that costs an attempt and hands nothing out.

## Main definitions

* `delayAt`: The delay of an attempt before jitter, in closed form.
* `BackoffStep.Fits`: The calls that are not waits past their deadline.

## Theorems

* `double_eq`, `delay_eq`: The loop and the chosen delay have a closed form.
* `rejected_wait_costs`: The delays and attempts of every run, and when a rejection is free.
-/

namespace HelianthusModbus

/-- The delay of an attempt before jitter: the floor doubled once an attempt, or the ceiling
    once the attempt before it has reached half of it. -/
def delayAt (floor ceiling : Duration) : Nat → Duration
  | 0 => floor
  | attempt + 1 =>
    if ceiling / 2 ≤ floor * 2 ^ attempt then ceiling else floor * 2 ^ (attempt + 1)

/-- A configuration that `newReconnectBackoff` accepts. -/
structure BackoffConfig.Accepted (config : BackoffConfig) : Prop where
  floor_pos : 0 < config.floor
  floor_le : config.floor ≤ config.ceiling
  attempts_pos : 0 < config.maxAttempts

theorem newReconnectBackoff_ok (config : BackoffConfig) (backoff : ReconnectBackoff)
    (h : newReconnectBackoff config = .ok backoff) :
    config.Accepted ∧ backoff = { config := config } := by
  unfold newReconnectBackoff at h
  split at h
  · cases h
  · next haccepted =>
    cases h
    simp only [not_or, Int.not_le, gt_iff_lt, Int.not_lt] at haccepted
    exact ⟨⟨haccepted.1, haccepted.2.2.1, haccepted.2.2.2.1⟩, rfl⟩

namespace ReconnectBackoff

theorem double_bounds (ceiling : Duration) (steps : Nat) (base : Duration) (hpos : 0 < base)
    (hle : base ≤ ceiling) :
    base ≤ double ceiling steps base ∧ double ceiling steps base ≤ ceiling := by
  unfold Duration at *
  induction steps generalizing base with
  | zero => exact ⟨Int.le_refl _, hle⟩
  | succ steps ih =>
    unfold double
    by_cases hhalf : base ≥ ceiling / 2
    · rw [if_pos hhalf]
      exact ⟨hle, Int.le_refl _⟩
    · -- Below half the ceiling a product is still below the ceiling.
      rw [if_neg hhalf]
      have hrest := ih (base * 2) (by omega) (by omega)
      exact ⟨by omega, hrest.2⟩

theorem double_eq (ceiling : Duration) (steps : Nat) (base : Duration) (hpos : 0 < base) :
    double ceiling steps base = delayAt base ceiling steps := by
  unfold Duration at *
  induction steps generalizing base with
  | zero => rfl
  | succ steps ih =>
    unfold double
    -- A guard that holds now holds for the value before the last turn, since values only grow.
    by_cases hhalf : base ≥ ceiling / 2
    · have hgrown : base * 1 ≤ base * 2 ^ steps :=
        Int.mul_le_mul_of_nonneg_left (Int.pow_pos (by decide)) hpos.le
      rw [if_pos hhalf, delayAt, if_pos (show ceiling / 2 ≤ base * 2 ^ steps by omega)]
    · rw [if_neg hhalf, ih (base * 2) (by omega)]
      cases steps with
      | zero =>
        rw [delayAt, delayAt, if_neg (show ¬ceiling / 2 ≤ base * 2 ^ 0 by omega)]
        rfl
      | succ steps => rw [delayAt, delayAt, Int.mul_assoc, Int.mul_assoc, ← Int.pow_succ',
          ← Int.pow_succ']

/-- One more step never gives a shorter delay. -/
theorem double_le_succ (ceiling : Duration) (steps : Nat) (base : Duration) (hpos : 0 < base)
    (hle : base ≤ ceiling) : double ceiling steps base ≤ double ceiling (steps + 1) base := by
  unfold Duration at *
  induction steps generalizing base with
  | zero => exact (double_bounds ceiling 1 base hpos hle).1
  | succ steps ih =>
    rw [double, double]
    by_cases hhalf : base ≥ ceiling / 2
    · simp only [hhalf, if_true, Int.le_refl]
    · simp only [hhalf, if_false]
      exact ih (base * 2) (by omega) (by omega)

theorem double_mono (ceiling base : Duration) (hpos : 0 < base) (hle : base ≤ ceiling)
    {m n : Nat} (h : m ≤ n) : double ceiling m base ≤ double ceiling n base :=
  monotone_nat_of_le_succ (fun steps => double_le_succ ceiling steps base hpos hle) h

theorem baseDelay_bounds (backoff : ReconnectBackoff) (h : backoff.config.Accepted) :
    backoff.config.floor ≤ backoff.baseDelay ∧ backoff.baseDelay ≤ backoff.config.ceiling := by
  have hbounds := double_bounds backoff.config.ceiling backoff.attempt backoff.config.floor
    h.floor_pos h.floor_le
  exact ⟨le_min hbounds.1 h.floor_le, min_le_right _ _⟩

theorem baseDelay_eq (backoff : ReconnectBackoff) (h : backoff.config.Accepted) :
    backoff.baseDelay =
      delayAt backoff.config.floor backoff.config.ceiling backoff.attempt := by
  have hbounds := double_bounds backoff.config.ceiling backoff.attempt backoff.config.floor
    h.floor_pos h.floor_le
  rw [baseDelay, min_eq_left hbounds.2, double_eq _ _ _ h.floor_pos]

theorem baseDelay_mono {first second : ReconnectBackoff} (h : first.config.Accepted)
    (hconfig : second.config = first.config) (hattempt : first.attempt ≤ second.attempt) :
    first.baseDelay ≤ second.baseDelay := by
  unfold baseDelay
  rw [hconfig]
  exact min_le_min_right _
    (double_mono first.config.ceiling first.config.floor h.floor_pos h.floor_le hattempt)

theorem boundedJitter_bounds (backoff : ReconnectBackoff) (h : backoff.config.Accepted)
    (answered : Duration) :
    0 ≤ backoff.boundedJitter backoff.baseDelay answered ∧
      backoff.baseDelay + backoff.boundedJitter backoff.baseDelay answered ≤
        backoff.config.ceiling := by
  have hbounds := backoff.baseDelay_bounds h
  unfold boundedJitter
  unfold Duration at *
  omega

theorem delay_eq (backoff : ReconnectBackoff) (h : backoff.config.Accepted)
    (answered : Duration) :
    backoff.baseDelay + backoff.boundedJitter backoff.baseDelay answered =
      min (delayAt backoff.config.floor backoff.config.ceiling backoff.attempt + max answered 0)
        backoff.config.ceiling := by
  rw [← backoff.baseDelay_eq h]
  unfold boundedJitter
  unfold Duration at *
  omega

/-- The values that a choice of a delay computes: the base after each turn of the loop, and
    what is built on the last one. -/
def computed (backoff : ReconnectBackoff) (answered : Duration) : List Duration :=
  ((List.range backoff.attempt).map fun turn =>
      double backoff.config.ceiling (turn + 1) backoff.config.floor) ++
    [backoff.config.ceiling - backoff.baseDelay,
      backoff.baseDelay + backoff.boundedJitter backoff.baseDelay answered,
      (backoff.attempt : Int) + 1]

end ReconnectBackoff

namespace BackoffStep

/-- The delay a call handed out. -/
def handed (step : BackoffStep) : Option Duration :=
  match step.answer with
  | some (.ok delay) => some delay
  | _ => none

/-- Its part before jitter. -/
def handedBase (step : BackoffStep) : Option Duration :=
  step.handed.map fun _ => step.before.baseDelay

/-- The call was rejected because its delay does not fit before its deadline. -/
def Rejected (step : BackoffStep) : Prop :=
  step.answer = some (.error (protocolError .invalidRange 0 0 "operation_deadline" (-1)))

/-- The attempt counter and the jitter log are as before. -/
def Free (step : BackoffStep) : Prop :=
  step.after.attempt = step.before.attempt ∧ step.after.emitted = step.before.emitted

/-- The call is no wait, or one that is refused before a delay is chosen, or the delay of the
    attempt and what the source adds to it, at most the ceiling, fit before its deadline. -/
def Fits (step : BackoffStep) : Prop :=
  match step.call with
  | .waitUntil nowOffset deadlineOffset answered =>
    nowOffset < 0 ∨ deadlineOffset ≤ nowOffset ∨
      step.before.config.maxAttempts ≤ step.before.attempt ∨
      min (delayAt step.before.config.floor step.before.config.ceiling step.before.attempt +
          max answered 0) step.before.config.ceiling ≤ deadlineOffset - nowOffset
  | _ => True

/-- The values that the arithmetic of a call computes. -/
def computed (step : BackoffStep) : List Duration :=
  if step.before.config.maxAttempts ≤ step.before.attempt then []
  else
    match step.call with
    | .nextDelay answered => step.before.computed answered
    | .nextDelayBefore _ answered => step.before.computed answered
    | .waitUntil nowOffset deadlineOffset answered =>
      if nowOffset < 0 ∨ deadlineOffset ≤ nowOffset then []
      else (deadlineOffset - nowOffset) :: step.before.computed answered
    | .validCorrelatedResponse => []

end BackoffStep

/-- What one call does. -/
inductive BackoffEffect (step : BackoffStep) : Prop where
  | reset (hcall : step.call = .validCorrelatedResponse) (hanswer : step.answer = none)
      (hafter : step.after = { step.before with attempt := 0 })
  | refused (err) (hanswer : step.answer = some (.error err)) (hafter : step.after = step.before)
      (hfits : step.Fits)
  | chosen (delay : Duration) (emitted : List Duration)
      (hanswer : step.answer = some (.ok delay))
      (hattempt : (step.before.attempt : Int) < step.before.config.maxAttempts)
      (hdelay : step.before.baseDelay ≤ delay ∧ delay ≤ step.before.config.ceiling)
      (hafter : step.after =
        { step.before with attempt := step.before.attempt + 1, emitted := emitted })
      (hfits : step.Fits)
  | spent (emitted : List Duration) (hanswer : step.Rejected)
      (hattempt : (step.before.attempt : Int) < step.before.config.maxAttempts)
      (hafter : step.after =
        { step.before with attempt := step.before.attempt + 1, emitted := emitted })
      (hlate : ¬step.Fits)

namespace ReconnectBackoff

/-- A choice of a delay: it is refused and nothing changes, or it costs one attempt. -/
theorem nextDelayBefore_cases (backoff : ReconnectBackoff) (remaining answered : Duration) :
    (∃ err, backoff.nextDelayBefore remaining answered = (.error err, backoff) ∧
        (remaining = 0 → backoff.config.maxAttempts ≤ backoff.attempt)) ∨
      ∃ emitted, (backoff.attempt : Int) < backoff.config.maxAttempts ∧
        backoff.nextDelayBefore remaining answered =
          (.ok (backoff.baseDelay + backoff.boundedJitter backoff.baseDelay answered),
            { backoff with attempt := backoff.attempt + 1, emitted := emitted }) := by
  unfold nextDelayBefore base
  by_cases hused : (backoff.attempt : Int) ≥ backoff.config.maxAttempts
  · rw [if_pos hused]
    exact Or.inl ⟨_, rfl, fun _ => hused⟩
  · rw [if_neg hused]
    by_cases hbase : remaining > 0 ∧ backoff.baseDelay ≥ remaining
    · rw [if_pos hbase]
      exact Or.inl ⟨_, rfl, fun hzero => absurd hzero (Int.ne_of_gt hbase.1)⟩
    · simp only [hbase, if_false]
      unfold advance
      by_cases hlate : remaining > 0 ∧ backoff.baseDelay +
          backoff.boundedJitter backoff.baseDelay answered ≥ remaining
      · refine Or.inl ⟨_, if_pos hlate, fun hzero => absurd hzero (Int.ne_of_gt hlate.1)⟩
      · -- No other call came in between, so the attempt is still the one of the first half.
        simp only [hlate, if_false, ne_eq, not_true_eq_false]
        exact Or.inr ⟨_, Int.not_le.mp hused, rfl⟩

theorem step_effect (backoff : ReconnectBackoff) (h : backoff.config.Accepted)
    (call : BackoffCall) : BackoffEffect (backoff.step call) := by
  have hdelay : ∀ answered, backoff.baseDelay ≤
        backoff.baseDelay + backoff.boundedJitter backoff.baseDelay answered ∧
      backoff.baseDelay + backoff.boundedJitter backoff.baseDelay answered ≤
        backoff.config.ceiling := fun answered =>
    ⟨Int.le_add_of_nonneg_right (backoff.boundedJitter_bounds h answered).1,
      (backoff.boundedJitter_bounds h answered).2⟩
  cases call with
  | validCorrelatedResponse => exact .reset rfl rfl rfl
  | nextDelay answered =>
    rcases backoff.nextDelayBefore_cases 0 answered with ⟨err, heq, _⟩ | ⟨emitted, hless, heq⟩
    · exact .refused err (by simp [step, answer, nextDelay, heq])
        (by simp [step, answer, nextDelay, heq]) trivial
    · exact .chosen _ emitted (by simp [step, answer, nextDelay, heq]) hless (hdelay answered)
        (by simp [step, answer, nextDelay, heq]) trivial
  | nextDelayBefore remaining answered =>
    rcases backoff.nextDelayBefore_cases remaining answered with
      ⟨err, heq, _⟩ | ⟨emitted, hless, heq⟩
    · exact .refused err (by simp [step, answer, heq]) (by simp [step, answer, heq]) trivial
    · exact .chosen _ emitted (by simp [step, answer, heq]) hless (hdelay answered)
        (by simp [step, answer, heq]) trivial
  | waitUntil nowOffset deadlineOffset answered =>
    by_cases hargs : nowOffset < 0 ∨ deadlineOffset ≤ nowOffset
    · exact .refused (protocolError .invalidRequest 0 0 "backoff_wait" (-1))
        (by simp [step, answer, waitUntil, hargs]) (by simp [step, answer, waitUntil, hargs])
        (hargs.imp_right Or.inl)
    rcases backoff.nextDelayBefore_cases 0 answered with ⟨err, heq, hused⟩ | ⟨emitted, hless, heq⟩
    · exact .refused err (by simp [step, answer, waitUntil, hargs, nextDelay, heq])
        (by simp [step, answer, waitUntil, hargs, nextDelay, heq])
        (Or.inr (Or.inr (Or.inl (hused rfl))))
    -- The attempt is counted by now, whether or not the delay fits.
    by_cases hlate : backoff.baseDelay + backoff.boundedJitter backoff.baseDelay answered >
        deadlineOffset - nowOffset
    · refine .spent emitted ?_ hless ?_ ?_
      · simp [BackoffStep.Rejected, step, answer, waitUntil, hargs, nextDelay, heq, hlate]
      · simp [step, answer, waitUntil, hargs, nextDelay, heq, hlate]
      · rintro (hnow | hdeadline | hused | hfits)
        · exact hargs (Or.inl hnow)
        · exact hargs (Or.inr hdeadline)
        · exact Int.not_le.mpr hless hused
        · exact Int.not_le.mpr hlate ((backoff.delay_eq h answered).trans_le hfits)
    · refine .chosen _ emitted ?_ hless (hdelay answered) ?_ ?_
      · simp [step, answer, waitUntil, hargs, nextDelay, heq, hlate]
      · simp [step, answer, waitUntil, hargs, nextDelay, heq, hlate]
      · exact Or.inr (Or.inr (Or.inr
          ((backoff.delay_eq h answered).symm.trans_le (Int.not_lt.mp hlate))))

end ReconnectBackoff

namespace BackoffEffect

variable {step : BackoffStep}

theorem config_eq (h : BackoffEffect step) : step.after.config = step.before.config := by
  cases h with
  | reset _ _ hafter => rw [hafter]
  | refused _ _ hafter _ => rw [hafter]
  | chosen _ _ _ _ _ hafter _ => rw [hafter]
  | spent _ _ _ hafter _ => rw [hafter]

/-- The attempts of a call that is no reset: what it hands out is counted, and never more
    than the limit. -/
theorem attempts (h : BackoffEffect step) (hcall : step.call ≠ .validCorrelatedResponse) :
    step.before.attempt + step.handed.toList.length ≤ step.after.attempt ∧
      ((step.before.attempt : Int) ≤ step.before.config.maxAttempts →
        (step.after.attempt : Int) ≤ step.before.config.maxAttempts) := by
  cases h with
  | reset hreset _ _ => exact absurd hreset hcall
  | refused err hanswer hafter _ => simp [BackoffStep.handed, hanswer, hafter]
  | chosen delay emitted hanswer hless _ hafter _ =>
    simp only [BackoffStep.handed, hanswer, hafter]
    exact ⟨Nat.le_refl _, fun _ => by omega⟩
  | spent emitted hanswer hless hafter _ =>
    unfold BackoffStep.Rejected at hanswer
    simp only [BackoffStep.handed, hanswer, hafter]
    exact ⟨Nat.le_succ _, fun _ => by omega⟩

theorem free_iff (h : BackoffEffect step) : (step.Rejected → step.Free) ↔ step.Fits := by
  cases h with
  | reset hcall hanswer _ =>
    simp [BackoffStep.Rejected, BackoffStep.Fits, hcall, hanswer]
  | refused err _ hafter hfits => simp [BackoffStep.Free, hafter, hfits]
  | chosen delay emitted hanswer _ _ _ hfits => simp [BackoffStep.Rejected, hanswer, hfits]
  | spent emitted hanswer _ hafter hlate =>
    refine iff_of_false (fun hfree => ?_) hlate
    have hsame := (hfree hanswer).1
    rw [hafter] at hsame
    exact absurd hsame (Nat.succ_ne_self _)

end BackoffEffect

/-- The ranges of the source's machine integers. -/
def BackoffConfig.Machine (config : BackoffConfig) : Prop :=
  config.ceiling ≤ maxDuration ∧ config.maxAttempts ≤ maxDuration

def BackoffCall.Machine : BackoffCall → Prop
  | .waitUntil _ deadlineOffset _ => deadlineOffset ≤ maxDuration
  | _ => True

namespace ReconnectBackoff

/-- A reachable state of a backoff with this configuration. -/
structure Within (config : BackoffConfig) (backoff : ReconnectBackoff) : Prop where
  accepted : config.Accepted
  config_eq : backoff.config = config
  attempt_le : (backoff.attempt : Int) ≤ config.maxAttempts

section

variable {config : BackoffConfig} {backoff : ReconnectBackoff} (h : backoff.Within config)
include h

theorem Within.effect (call : BackoffCall) : BackoffEffect (backoff.step call) :=
  backoff.step_effect (h.config_eq ▸ h.accepted) call

theorem Within.step (call : BackoffCall) : (backoff.step call).after.Within config := by
  have heffect := h.effect call
  refine ⟨h.accepted, heffect.config_eq.trans h.config_eq, ?_⟩
  by_cases hreset : call = .validCorrelatedResponse
  · subst hreset
    exact h.accepted.attempts_pos.le
  · have hle := (heffect.attempts hreset).2
    rw [show (backoff.step call).before.config = config from h.config_eq] at hle
    exact hle h.attempt_le

theorem Within.run (calls : List BackoffCall) : (backoff.run calls).Within config := by
  induction calls generalizing backoff with
  | nil => exact h
  | cons call rest ih => exact ih (h.step call)

theorem Within.delay_bounds (call : BackoffCall) (delay : Duration)
    (hhanded : (backoff.step call).handed = some delay) :
    config.floor ≤ delay ∧ delay ≤ config.ceiling := by
  have hbase := backoff.baseDelay_bounds (h.config_eq ▸ h.accepted)
  unfold BackoffStep.handed at hhanded
  cases h.effect call with
  | reset _ hanswer _ | refused _ hanswer _ _ => simp [hanswer] at hhanded
  | chosen chosen _ hanswer _ hdelay _ _ =>
    rw [h.config_eq] at hbase
    simp only [hanswer, Option.some.injEq] at hhanded
    subst hhanded
    rw [show (backoff.step call).before.config = config from h.config_eq] at hdelay
    exact ⟨hbase.1.trans hdelay.1, hdelay.2⟩
  | spent _ hanswer _ _ _ =>
    unfold BackoffStep.Rejected at hanswer
    simp [hanswer] at hhanded

/-- No value that a choice computes leaves the range of a duration. -/
theorem Within.computed_bounds (hmachine : config.Machine)
    (hless : (backoff.attempt : Int) < config.maxAttempts) (answered : Duration) :
    ∀ value ∈ backoff.computed answered, 0 ≤ value ∧ value ≤ maxDuration := by
  have haccepted : backoff.config.Accepted := h.config_eq ▸ h.accepted
  have hbase := backoff.baseDelay_bounds haccepted
  have hjitter := backoff.boundedJitter_bounds haccepted answered
  have hturn := fun turn => double_bounds backoff.config.ceiling (turn + 1) backoff.config.floor
    haccepted.floor_pos haccepted.floor_le
  have hpos := haccepted.floor_pos
  rw [h.config_eq] at *
  rcases hmachine with ⟨hceiling, hattempts⟩
  unfold Duration at *
  intro value hvalue
  simp only [computed, h.config_eq, List.mem_append, List.mem_map, List.mem_cons,
    List.not_mem_nil, or_false] at hvalue
  rcases hvalue with ⟨turn, _, rfl⟩ | rfl | rfl | rfl
  · have hbounds := hturn turn
    omega
  · omega
  · omega
  · omega

theorem Within.step_computed (hmachine : config.Machine) {call : BackoffCall}
    (hcall : call.Machine) :
    ∀ value ∈ (backoff.step call).computed, 0 ≤ value ∧ value ≤ maxDuration := by
  unfold BackoffStep.computed ReconnectBackoff.step
  rw [h.config_eq]
  by_cases hused : config.maxAttempts ≤ backoff.attempt
  · simp [hused]
  · rw [if_neg hused]
    have hbounds := h.computed_bounds hmachine (Int.not_le.mp hused)
    cases call with
    | nextDelay answered | nextDelayBefore _ answered => exact hbounds answered
    | validCorrelatedResponse => simp
    | waitUntil nowOffset deadlineOffset answered =>
      by_cases hargs : nowOffset < 0 ∨ deadlineOffset ≤ nowOffset
      · simp [hargs]
      · simp only [hargs, if_false, List.mem_cons, forall_eq_or_imp]
        refine ⟨?_, hbounds answered⟩
        unfold BackoffCall.Machine Duration at *
        omega

/-- Until the next reset the delays before jitter do not decrease, and every delay that is
    handed out is one of the attempts that are left. -/
theorem Within.between (calls : List BackoffCall)
    (hcalls : ∀ call ∈ calls, call ≠ .validCorrelatedResponse) :
    ((backoff.trace calls).filterMap BackoffStep.handedBase).Pairwise (· ≤ ·) ∧
      (∀ base ∈ (backoff.trace calls).filterMap BackoffStep.handedBase, backoff.baseDelay ≤ base) ∧
      (backoff.attempt : Int) + ((backoff.trace calls).filterMap BackoffStep.handed).length ≤
        config.maxAttempts := by
  induction calls generalizing backoff with
  | nil => simpa [trace] using h.attempt_le
  | cons call rest ih =>
    rcases ih (h.step call) (fun other hother => hcalls other (List.mem_cons_of_mem _ hother))
      with ⟨hsorted, hleast, hcount⟩
    have hattempts := ((h.effect call).attempts (hcalls call List.mem_cons_self)).1
    have hlater : backoff.baseDelay ≤ (backoff.step call).after.baseDelay :=
      baseDelay_mono (h.config_eq ▸ h.accepted) (h.effect call).config_eq
        ((Nat.le_add_right _ _).trans hattempts)
    have hrest := fun base hbase => hlater.trans (hleast base hbase)
    rw [show (backoff.step call).before = backoff from rfl] at hattempts
    rw [trace]
    cases hhanded : (backoff.step call).handed with
    | none =>
      rw [List.filterMap_cons_none (by simp [BackoffStep.handedBase, hhanded]),
        List.filterMap_cons_none hhanded]
      rw [hhanded] at hattempts
      exact ⟨hsorted, hrest, by simp at hattempts; omega⟩
    | some delay =>
      have hbase : (backoff.step call).handedBase = some backoff.baseDelay := by
        rw [BackoffStep.handedBase, hhanded]
        rfl
      rw [List.filterMap_cons_some hbase, List.filterMap_cons_some hhanded]
      rw [hhanded] at hattempts
      refine ⟨List.pairwise_cons.mpr ⟨hrest, hsorted⟩, ?_, ?_⟩
      · simpa using hrest
      · simp at hattempts ⊢
        omega

end

end ReconnectBackoff

/-- From every reached state: what a call hands out lies between floor and ceiling, its
    arithmetic stays in range, and a rejection for its deadline is free exactly if the call
    fits; until the next reset the delays before jitter do not decrease and are at most as
    many as the limit of attempts. -/
theorem rejected_wait_costs (config : BackoffConfig) (start : ReconnectBackoff)
    (h : newReconnectBackoff config = .ok start) (hmachine : config.Machine)
    (earlier : List BackoffCall) :
    (∀ call : BackoffCall, call.Machine →
      let step := (start.run earlier).step call
      (∀ delay, step.handed = some delay → config.floor ≤ delay ∧ delay ≤ config.ceiling) ∧
        (∀ value ∈ step.computed, 0 ≤ value ∧ value ≤ maxDuration) ∧
        ((step.Rejected → step.Free) ↔ step.Fits)) ∧
      ∀ calls : List BackoffCall, (∀ call ∈ calls, call ≠ .validCorrelatedResponse) →
        let steps := (start.run earlier).trace calls
        (steps.filterMap BackoffStep.handedBase).Pairwise (· ≤ ·) ∧
          ((steps.filterMap BackoffStep.handed).length : Int) ≤ config.maxAttempts := by
  rcases newReconnectBackoff_ok config start h with ⟨haccepted, rfl⟩
  have hwithin := (show ({ config := config } : ReconnectBackoff).Within config from
    ⟨haccepted, rfl, haccepted.attempts_pos.le⟩).run earlier
  refine ⟨fun call hcall => ?_, fun calls hcalls => ?_⟩
  · refine ⟨hwithin.delay_bounds call, fun value hvalue => ?_, (hwithin.effect call).free_iff⟩
    exact hwithin.step_computed hmachine hcall value hvalue
  · have hbetween := hwithin.between calls hcalls
    exact ⟨hbetween.1, by omega⟩

def backoffSample : BackoffConfig :=
  { floor := 10, ceiling := 80, maxAttempts := 4, jitterAlgorithmID := "uniform"
    jitterVersion := "1", jitterEvidence := "none" }

/-- A wait that is rejected for its deadline uses up an attempt and logs its jitter. -/
theorem rejected_wait_counted :
    newReconnectBackoff backoffSample = .ok { config := backoffSample } ∧
      let step := ReconnectBackoff.step { config := backoffSample } (.waitUntil 0 5 0)
      step.Rejected ∧ step.after.attempt = 1 ∧ step.after.emitted = [0] ∧ ¬step.Free := by
  unfold BackoffStep.Rejected BackoffStep.Free
  decide

theorem rejected_wait_costs_sample :
    newReconnectBackoff backoffSample = .ok { config := backoffSample } ∧
      let step := ReconnectBackoff.step { config := backoffSample } (.waitUntil 0 50 7)
      (step.Rejected → step.Free) ∧ step.handed = some 17 :=
  have hcosts := rejected_wait_costs backoffSample { config := backoffSample } (by decide)
    (by unfold BackoffConfig.Machine; decide) []
  ⟨by decide, ((hcosts.1 (.waitUntil 0 50 7) (by unfold BackoffCall.Machine; decide)).2.2).mpr
    (Or.inr (Or.inr (Or.inr (by decide)))), by decide⟩

end HelianthusModbus
