import HelianthusModbus.Theory.RuntimeCalls
import Mathlib.Data.List.Induction

/-!
# Capabilities Are One-Shot

A view yields at most one capability, a capability gets at most one outcome, and at most
one claim of it wins.

All three are facts about something that is used up: a view that is spent, and a
capability that has an outcome. A call that takes such a thing finds it unused and leaves
it used, and no call makes it unused again, so that a run takes it once
(`collect_nodup`).

A claim wins only through the instance of the capability's own attempt. That the attempt
was closed before, with exactly the registered members, is found by going back through
the run to the call that froze it.

## Main definitions

* `RuntimeSystem.yielded`, `RuntimeSystem.won`, `RuntimeSystem.reported`: The views that were
  issued, the claims that won and the outcomes that were reported.
* `RuntimeSystem.ClosedBy`, `RuntimeSystem.Entitled`: An earlier call closed an attempt, and
  what a claim needs to win.

## Theorems

* `RuntimeSystem.capabilities_one_shot`: The statement for every run of a new source.
-/

namespace HelianthusModbus

namespace RuntimeSystem

/-- What an observer of the calls and replies of a run sees. -/
def collect (observe : RuntimeCall → RuntimeReply → Option Nat) (system : RuntimeSystem) :
    List RuntimeCall → List Nat
  | [] => []
  | call :: rest =>
    (observe call (system.step call).1).toList ++ collect observe (system.step call).2 rest

/-- The view that yielded a capability. -/
def yielded : RuntimeCall → RuntimeReply → Option Nat
  | .issue _ _ view _ _, .acquisition (.ok _) => view.runtimeEligibility
  | _, _ => none

/-- The capability whose claim was won. -/
def won : RuntimeCall → RuntimeReply → Option Nat
  | .claim capability _ _, .claimed (.ok result) => if result.won then capability.token else none
  | _, _ => none

/-- The capability a call reports an outcome of. -/
def reported : RuntimeCall → RuntimeReply → Option (Nat × RuntimeCapabilityTerminalOutcome)
  | .claim capability _ _, .claimed (.ok result) =>
    capability.token.map fun token => (token, result.outcome)
  | .failOpen capability, .failed (.ok outcome) =>
    capability.token.map fun token => (token, outcome)
  | _, _ => none

/-- Something that a call takes unused and leaves used, and that stays used, is taken at
    most once in a run. -/
theorem collect_nodup (observe : RuntimeCall → RuntimeReply → Option Nat)
    (used : RuntimeSystem → Nat → Prop) (inv : RuntimeSystem → Prop)
    (hinv : ∀ system call, inv system → inv (system.step call).2)
    (hkept : ∀ system call x, inv system → used system x → used (system.step call).2 x)
    (htaken : ∀ system call x, inv system → observe call (system.step call).1 = some x →
      ¬ used system x ∧ used (system.step call).2 x)
    (system : RuntimeSystem) (h : inv system) (calls : List RuntimeCall) :
    (system.collect observe calls).Nodup ∧
      ∀ x ∈ system.collect observe calls, ¬ used system x := by
  induction calls generalizing system with
  | nil => exact ⟨List.nodup_nil, fun x hx => nomatch hx⟩
  | cons call rest ih =>
    obtain ⟨hnodup, hfresh⟩ := ih (system.step call).2 (hinv system call h)
    have hunused : ∀ x ∈ (system.step call).2.collect observe rest, ¬ used system x :=
      fun x hx hused => hfresh x hx (hkept system call x h hused)
    unfold collect
    cases hobserved : observe call (system.step call).1 with
    | none => exact ⟨hnodup, hunused⟩
    | some x =>
      obtain ⟨hbefore, hafter⟩ := htaken system call x h hobserved
      refine ⟨List.nodup_cons.mpr ⟨fun hx => hfresh x hx hafter, hnodup⟩, ?_⟩
      intro y hy
      rcases List.mem_cons.mp hy with rfl | hrest
      · exact hbefore
      · exact hunused y hrest

section Views

variable {before after : RuntimeSystem} {freezes : Nat → List Nat → Prop}

theorem Change.views_kept (h : Change freezes before after) :
    (before.ViewsFresh → after.ViewsFresh) ∧ ∀ view, before.Spent view → after.Spent view := by
  cases h with
  | idle h => exact ⟨h.fresh, h.spent⟩
  | _ => exact ⟨fun h => h, fun _ h => h⟩

theorem issue_view (system : RuntimeSystem) (attempt : RuntimeAttempt)
    (dependencyOrdinal : UInt32) (view : RuntimeView)
    (normalization : RuntimeNormalizationRecord) (now : Duration)
    (acquisition : RuntimeAcquisition)
    (h : (system.issue attempt dependencyOrdinal view normalization now).1 = .ok acquisition) :
    ∃ eligibility, view.runtimeEligibility = some eligibility ∧
      system.views.lookup eligibility = some .available ∧
      (system.issue attempt dependencyOrdinal view normalization now).2.views.lookup
        eligibility = some .issued := by
  unfold issue at h ⊢
  split at h
  · next token eligibility _ heligibility =>
    split at h
    · cases h
    next hchecks =>
    refine ⟨eligibility, heligibility, ?_⟩
    simp only [if_neg hchecks]
    unfold issueView at h ⊢
    split at h
    · cases h
    next havailable =>
    refine ⟨not_not.mp havailable, ?_⟩
    rw [if_neg havailable]
    dsimp only at h ⊢
    split at h
    · cases h
    next hclock =>
    rw [if_neg hclock]
    split at h
    · cases h
    · next key issued _ =>
      simp only [setView]
      exact AList.lookup_insert _
  · cases h

end Views

section Outcomes

variable {before after system : RuntimeSystem} {freezes : Nat → List Nat → Prop}

theorem Change.outcome_kept (hsound : Sound before) (h : Change freezes before after)
    (token : Nat) (outcome : RuntimeCapabilityTerminalOutcome)
    (houtcome : before.runtimeOutcomeOf token = some outcome) :
    after.runtimeOutcomeOf token = some outcome := by
  cases h with
  | idle h =>
    rw [h.same]
    exact houtcome
  | issued attempt state ordinal now sequence next exhausted =>
    unfold runtimeOutcomeOf at houtcome ⊢
    obtain ⟨held, hheld, _⟩ := Option.bind_eq_some_iff.mp houtcome
    dsimp only [register]
    rwa [AList.lookup_insert_ne (Nat.ne_of_lt (hsound.token_fresh token held hheld))]
  | ended other capability ended hlive _ =>
    obtain ⟨found, hfound, hnone, -⟩ := hsound.live_token other capability hlive
    unfold runtimeOutcomeOf at houtcome ⊢
    rw [terminalize_tokens before other capability ended hfound, Table.lookup_insert_ite]
    split
    · next hsame =>
      rw [hsame, hfound, Option.bind_some, hnone] at houtcome
      cases houtcome
    · exact houtcome
  | _ => exact houtcome

theorem step_outcome_kept (hsound : Sound system) (call : RuntimeCall) (token : Nat)
    (outcome : RuntimeCapabilityTerminalOutcome)
    (houtcome : system.runtimeOutcomeOf token = some outcome) :
    (system.step call).2.runtimeOutcomeOf token = some outcome :=
  step_kept (fun s => s.runtimeOutcomeOf token = some outcome)
    (fun _ _ _ hbefore hchange => hchange.outcome_kept hbefore token outcome) hsound houtcome call

theorem run_append (system : RuntimeSystem) (first second : List RuntimeCall) :
    system.run (first ++ second) = (system.run first).run second := by
  unfold run
  rw [List.foldl_append]

theorem live_outcome (hsound : Sound system) (token : Nat) (capability : RuntimeCapabilityState)
    (hlive : system.source.live.lookup token = some capability) :
    system.runtimeOutcomeOf token = none := by
  obtain ⟨held, hheld, hnone, -⟩ := hsound.live_token token capability hlive
  unfold runtimeOutcomeOf
  rw [hheld, Option.bind_some, hnone]

theorem terminalize_outcome (hsound : Sound system) (token : Nat)
    (capability : RuntimeCapabilityState) (outcome : RuntimeCapabilityTerminalOutcome)
    (hlive : system.source.live.lookup token = some capability) :
    (system.terminalize token capability outcome).runtimeOutcomeOf token = some outcome := by
  obtain ⟨held, hheld, -⟩ := hsound.live_token token capability hlive
  unfold runtimeOutcomeOf
  rw [terminalize_tokens system token capability outcome hheld, AList.lookup_insert,
    Option.bind_some]

@[simp] theorem reclaim_outcome (system : RuntimeSystem) (attempt token : Nat)
    (state : RuntimeAttemptState) :
    (system.reclaimAttemptIfTerminal attempt state).runtimeOutcomeOf token =
      system.runtimeOutcomeOf token := by
  unfold reclaimAttemptIfTerminal
  split
  · rfl
  · split
    · rfl
    · rfl

/-- What a claim that is answered does. -/
theorem claim_cases (capability : RuntimeAcquisitionCapability)
    (closed : RuntimeAttemptInstance) (now : Duration) (result : RuntimeCapabilityClaimResult)
    (h : (system.claim capability closed now).1 = .ok result) :
    ∃ token held, capability.token = some token ∧
      system.capabilityTokens.lookup token = some held ∧ closed.token = some held.attempt ∧
      ((held.outcome = some result.outcome ∧ result.won = false ∧
          (system.claim capability closed now).2 = system) ∨
        ∃ live state, system.source.live.lookup token = some live ∧
          system.source.attempts.lookup held.attempt = some state ∧
          state.phase = .attemptClosed ∧ token ∈ state.members ∧
          (result.won = true → now < live.claimDeadline) ∧
          (system.claim capability closed now).2 =
            (system.terminalize token live result.outcome).reclaimAttemptIfTerminal
              held.attempt state) := by
  unfold claim at h ⊢
  split at h
  · next token attempt htoken hattempt =>
    split at h
    · cases h
    next held hheld =>
    split at h
    · cases h
    next hsame =>
    rw [not_not] at hsame
    subst hsame
    refine ⟨token, held, htoken, hheld, hattempt, ?_⟩
    simp only [ne_eq, not_true_eq_false, if_false]
    split at h
    · next hsource =>
      rw [if_pos hsource]
      unfold claimLocked at h ⊢
      -- Either the capability had ended already, or it is live, its attempt is closed, and it ends
      -- now, late or not.
      split at h
      · unfold runtimeOutcomeOf at h ⊢
        rw [hheld, Option.bind_some] at h ⊢
        split at h
        · next outcome houtcome =>
          cases h
          rw [houtcome]
          exact .inl ⟨rfl, rfl, rfl⟩
        · cases h
      · next live hlive =>
        right
        split at h
        · cases h
        next state hstate =>
        split at h
        · cases h
        next hchecks =>
        push Not at hchecks
        refine ⟨live, state, hlive, hstate, hchecks.1, hchecks.2.2, ?_⟩
        rw [if_neg (by push Not; exact hchecks)]
        split at h
        · next hlate =>
          cases h
          rw [if_pos hlate]
          exact ⟨(fun hwon => nomatch hwon), rfl⟩
        · next hearly =>
          cases h
          rw [if_neg hearly]
          exact ⟨fun _ => not_le.mp hearly, rfl⟩
    · next hsource =>
      rw [if_neg hsource]
      split at h
      · next outcome houtcome =>
        cases h
        rw [houtcome]
        exact .inl ⟨rfl, rfl, rfl⟩
      · cases h
  · cases h

theorem failOpen_cases (capability : RuntimeAcquisitionCapability)
    (outcome : RuntimeCapabilityTerminalOutcome)
    (h : (system.failOpen capability).1 = .ok outcome) :
    ∃ token, capability.token = some token ∧
      ((system.runtimeOutcomeOf token = some outcome ∧
          (system.failOpen capability).2 = system) ∨
        ∃ live, system.source.live.lookup token = some live ∧
          (system.failOpen capability).2.capabilityTokens =
            (system.terminalize token live outcome).capabilityTokens) := by
  unfold failOpen at h ⊢
  split at h
  · cases h
  next token htoken =>
  refine ⟨token, htoken, ?_⟩
  dsimp only
  -- A token without a live entry ended before; a live one ends here.
  split at h
  · split at h
    · next ended houtcome =>
      cases h
      exact .inl ⟨houtcome, rfl⟩
    · cases h
  · next live hlive =>
    split at h
    · cases h
    next hsource =>
    rw [if_neg hsource]
    refine .inr ⟨live, hlive, ?_⟩
    dsimp only at h ⊢
    split at h
    · cases h
      rfl
    cases h
    unfold reclaimAttemptIfTerminal
    split
    · rfl
    · split
      · rfl
      · rfl

theorem reported_outcome (hsound : Sound system) (call : RuntimeCall) (token : Nat)
    (outcome : RuntimeCapabilityTerminalOutcome)
    (h : reported call (system.step call).1 = some (token, outcome)) :
    (system.step call).2.runtimeOutcomeOf token = some outcome := by
  unfold reported at h
  split at h
  · next capability closed now result hreply =>
    obtain ⟨found, hfound, hpair⟩ := Option.map_eq_some_iff.mp h
    cases hpair
    obtain ⟨_, held, hsame, hheld, -, hcases⟩ :=
      claim_cases capability closed now result (RuntimeReply.claimed.inj hreply)
    rw [hfound] at hsame
    cases hsame
    show (system.claim capability closed now).2.runtimeOutcomeOf token = some result.outcome
    -- An outcome that was there before the claim is not touched by it.
    rcases hcases with ⟨hended, -, hafter⟩ | ⟨live, state, hlive, -, -, -, -, hafter⟩
    · rw [hafter]
      unfold runtimeOutcomeOf
      rw [hheld, Option.bind_some, hended]
    · rw [hafter, reclaim_outcome]
      exact terminalize_outcome hsound token live result.outcome hlive
  · next capability outcome' hreply =>
    obtain ⟨found, hfound, hpair⟩ := Option.map_eq_some_iff.mp h
    cases hpair
    obtain ⟨_, hsame, hcases⟩ :=
      failOpen_cases capability outcome (RuntimeReply.failed.inj hreply)
    rw [hfound] at hsame
    cases hsame
    show (system.failOpen capability).2.runtimeOutcomeOf token = some outcome
    rcases hcases with ⟨hended, hafter⟩ | ⟨live, hlive, htokens⟩
    · rw [hafter]
      exact hended
    · have hterminal := terminalize_outcome hsound token live outcome hlive
      unfold runtimeOutcomeOf at hterminal ⊢
      rw [htokens]
      exact hterminal
  · cases h

/-- A capability that has ended reports its outcome, and nothing changes. -/
theorem ended_reports (hsound : Sound system) (token : Nat) (held : RuntimeCapabilityToken)
    (outcome : RuntimeCapabilityTerminalOutcome) (now : Duration)
    (hheld : system.capabilityTokens.lookup token = some held)
    (houtcome : held.outcome = some outcome) :
    system.claim { token := some token } { token := some held.attempt } now =
        (.ok { outcome := outcome }, system) ∧
      system.failOpen { token := some token } = (.ok outcome, system) := by
  have hnone : system.source.live.lookup token = none := by
    cases hlive : system.source.live.lookup token with
    | none => rfl
    | some live =>
      obtain ⟨found, hfound, hopen, -⟩ := hsound.live_token token live hlive
      rw [hheld] at hfound
      cases hfound
      rw [houtcome] at hopen
      cases hopen
  have hof : system.runtimeOutcomeOf token = some outcome := by
    unfold runtimeOutcomeOf
    rw [hheld, Option.bind_some, houtcome]
  constructor
  · simp only [claim, hheld, ne_eq, not_true_eq_false, if_false, houtcome]
    split
    · simp only [claimLocked, hnone, hof]
    · rfl
  · simp only [failOpen, hnone, hof]

/-- A claim that is won takes a capability without an outcome and leaves one with. -/
theorem won_cases (hsound : Sound system) (call : RuntimeCall) (token : Nat)
    (h : won call (system.step call).1 = some token) :
    system.runtimeOutcomeOf token = none ∧
      (system.step call).2.runtimeOutcomeOf token ≠ none := by
  unfold won at h
  split at h
  · next capability closed now result hreply =>
    split at h
    · next hwon =>
      obtain ⟨_, held, hsame, hheld, -, hcases⟩ :=
        claim_cases capability closed now result (RuntimeReply.claimed.inj hreply)
      rw [h] at hsame
      cases hsame
      rcases hcases with ⟨-, hlost, -⟩ | ⟨live, state, hlive, -, -, -, -, hafter⟩
      · rw [hwon] at hlost
        cases hlost
      · refine ⟨live_outcome hsound token live hlive, ?_⟩
        show (system.claim capability closed now).2.runtimeOutcomeOf token ≠ none
        rw [hafter, reclaim_outcome, terminalize_outcome hsound token live _ hlive]
        exact Option.some_ne_none _
    · cases h
  · cases h

end Outcomes

section Closing

variable {before after system : RuntimeSystem} {freezes : Nat → List Nat → Prop}

section Before

variable {attempt : Nat} {state : RuntimeAttemptState}
  (hstate : after.source.attempts.lookup attempt = some state)
  (hclosed : state.phase = .attemptClosed)
include hstate hclosed

/-- A closed attempt was closed before the change or is frozen by it. -/
theorem Change.closed_before (h : Change freezes before after) :
    before.source.attempts.lookup attempt = some state ∨ freezes attempt state.members := by
  cases h with
  | idle h =>
    rw [h.same] at hstate
    exact .inl hstate
  | begun key hroom =>
    rcases Table.lookup_insert_some hstate with ⟨_, rfl⟩ | ⟨_, hstate⟩
    · cases hclosed
    · exact .inl hstate
  | issued other otherState ordinal now sequence next exhausted _ _ hopen =>
    rcases Table.lookup_insert_some hstate with ⟨_, rfl⟩ | ⟨_, hstate⟩
    · exact nomatch hopen.symm.trans hclosed
    · exact .inl hstate
  | ended token capability outcome hlive hvalid => exact .inl hstate
  | frozen other otherState members hother hexact hfreezes =>
    rcases Table.lookup_insert_some hstate with ⟨rfl, rfl⟩ | ⟨_, hstate⟩
    · exact .inr hfreezes
    · exact .inl hstate
  | left other otherState drained hother hended hdrained =>
    exact .inl (Table.lookup_erase_some hstate).2

theorem Changes.closed_before (h : Changes freezes before after) :
    before.source.attempts.lookup attempt = some state ∨ freezes attempt state.members := by
  induction h with
  | refl => exact .inl hstate
  | tail _ hlast ih =>
    rcases hlast.closed_before hstate hclosed with hbefore | hfreezes
    · exact ih hbefore
    · exact .inr hfreezes

end Before

/-- A call of the run closed the attempt, with these tokens for members. -/
def ClosedBy (start : RuntimeSystem) (calls : List RuntimeCall) (attempt : Nat)
    (members : List RuntimeAcquisition) : Prop :=
  ∃ earlier later order,
    calls = earlier ++ .close { token := some attempt } members order :: later ∧
    ((start.run earlier).close { token := some attempt } members order).1 =
      .ok { token := some attempt }

theorem closed_history (start : RuntimeSystem) (hsound : Sound start)
    (hopen : ∀ attempt state, start.source.attempts.lookup attempt = some state →
      state.phase ≠ .attemptClosed) (calls : List RuntimeCall) :
    ∀ attempt state, (start.run calls).source.attempts.lookup attempt = some state →
      state.phase = .attemptClosed →
      ∃ members, ClosedBy start calls attempt members ∧
        members.map (fun member => member.capability.token) = state.members.map some := by
  -- The induction goes from the end of the run, since a call may only close an attempt
  -- that is then still there.
  induction calls using List.reverseRecOn with
  | nil =>
    intro attempt state hstate hclosed
    exact absurd hclosed (hopen attempt state hstate)
  | append_singleton calls call ih =>
    intro attempt state hstate hclosed
    rw [run_append] at hstate
    have hrun := sound_run hsound calls
    rcases Changes.closed_before hstate hclosed (step_changes hrun call) with
      hbefore | ⟨members, order, hcall, hreply, hmap⟩
    · obtain ⟨members, ⟨earlier, later, order, hcalls, hreply⟩, hmap⟩ :=
        ih attempt state hbefore hclosed
      refine ⟨members, ⟨earlier, later ++ [call], order, ?_, hreply⟩, hmap⟩
      rw [hcalls, List.append_assoc, List.cons_append]
    · exact ⟨members, ⟨calls, [], order, by rw [hcall], hreply⟩, hmap⟩

/-- A claim that comes after `history` is entitled to win: it goes through the instance
    of the capability's own attempt, which a call has closed with exactly the registered
    members in the order of their ordinals, and the deadline has not come. -/
def Entitled (start : RuntimeSystem) (history : List RuntimeCall)
    (capability : RuntimeAcquisitionCapability) (closed : RuntimeAttemptInstance)
    (now : Duration) : Prop :=
  ∃ token held state live members, capability.token = some token ∧
    (start.run history).capabilityTokens.lookup token = some held ∧
    closed.token = some held.attempt ∧
    (start.run history).source.attempts.lookup held.attempt = some state ∧
    ClosedBy start history held.attempt members ∧
    (∀ ordinal : UInt32, state.registered.lookup ordinal =
      (members[ordinal.toNat]?).bind fun member => member.capability.token) ∧
    state.registered.lookup held.ordinal = some token ∧
    (start.run history).source.live.lookup token = some live ∧ now < live.claimDeadline

theorem won_entitled (start : RuntimeSystem) (hsound : Sound start)
    (hopen : ∀ attempt state, start.source.attempts.lookup attempt = some state →
      state.phase ≠ .attemptClosed) (history : List RuntimeCall)
    (capability : RuntimeAcquisitionCapability) (closed : RuntimeAttemptInstance)
    (now : Duration) (result : RuntimeCapabilityClaimResult)
    (h : ((start.run history).claim capability closed now).1 = .ok result)
    (hwon : result.won = true) : Entitled start history capability closed now := by
  have hrun := sound_run hsound history
  obtain ⟨token, held, htoken, hheld, hinstance, hcases⟩ :=
    claim_cases capability closed now result h
  -- A claim of an ended capability is lost, so it was live and its attempt closed.
  rcases hcases with ⟨-, hlost, -⟩ | ⟨live, state, hlive, hstate, hclosed, -, hdeadline, -⟩
  · rw [hwon] at hlost
    cases hlost
  · obtain ⟨members, hby, hmap⟩ := closed_history start hsound hopen history held.attempt state
      hstate hclosed
    refine ⟨token, held, state, live, members, htoken, hheld, hinstance, hstate, hby, ?_, ?_,
      hlive, hdeadline hwon⟩
    · intro ordinal
      have hat := congrArg (fun tokens => tokens[ordinal.toNat]?) hmap
      rw [List.getElem?_map, List.getElem?_map] at hat
      rw [hrun.closed_members held.attempt state hstate hclosed ordinal]
      cases hmember : members[ordinal.toNat]? with
      | none =>
        rw [hmember, Option.map_none, eq_comm, Option.map_eq_none_iff] at hat
        rw [hat, Option.bind_none]
      | some member =>
        rw [hmember, Option.map_some, eq_comm, Option.map_eq_some_iff] at hat
        obtain ⟨found, hfound, hsame⟩ := hat
        rw [hfound, Option.bind_some, hsame]
    · obtain ⟨found, hfound, hnone, -⟩ := hrun.live_token token live hlive
      rw [hheld] at hfound
      cases hfound
      obtain ⟨other, hother, hregistered⟩ := hrun.open_registered token held hheld hnone
      rw [hstate] at hother
      cases hother
      exact hregistered

end Closing

theorem new_attempts {config : RuntimeAcquisitionConfig} {clock : Option Duration}
    {system : RuntimeSystem} (h : newRuntimeAcquisitionSource config clock = .ok system) :
    system.source.attempts = ∅ ∧ system.views = ∅ ∧ system.source.limits = config.limits := by
  obtain ⟨-, restart, -, -, rfl⟩ := new_cases h
  exact ⟨rfl, rfl, rfl⟩

theorem Change.limits_kept {before after : RuntimeSystem} {freezes : Nat → List Nat → Prop}
    (h : Change freezes before after) : after.source.limits = before.source.limits := by
  cases h with
  | idle h => rw [h.same]
  | _ => rfl

theorem yielded_nodup {system : RuntimeSystem} (hsound : Sound system)
    (hfresh : system.ViewsFresh) (calls : List RuntimeCall) :
    (system.collect yielded calls).Nodup := by
  have hfresher : ∀ {s : RuntimeSystem}, Sound s → s.ViewsFresh → ∀ call,
      (s.step call).2.ViewsFresh :=
    step_kept ViewsFresh fun _ _ _ _ hchange => hchange.views_kept.1
  refine (collect_nodup yielded Spent (fun s => Sound s ∧ s.ViewsFresh) ?_ ?_ ?_ system
    ⟨hsound, hfresh⟩ calls).1
  · rintro s call ⟨hs, hviews⟩
    exact ⟨sound_step hs call, hfresher hs hviews call⟩
  · rintro s call view ⟨hs, -⟩ hspent
    exact step_kept (Spent · view) (fun _ _ _ _ hchange => hchange.views_kept.2 view) hs hspent call
  · -- A yielded view was fresh before the call and is spent after it.
    rintro s call view ⟨hs, hviews⟩ hyielded
    unfold yielded at hyielded
    split at hyielded
    · next attempt ordinal delivered normalization now acquisition hreply =>
      obtain ⟨eligibility, heligibility, hbefore, hafter⟩ := issue_view s attempt ordinal
        delivered normalization now acquisition (RuntimeReply.acquisition.inj hreply)
      rw [hyielded] at heligibility
      cases heligibility
      refine ⟨fun hspent => hspent.2 hbefore, ?_, ?_⟩
      · refine hfresher hs hviews (.issue attempt ordinal delivered normalization now) view ?_
        show ((s.issue attempt ordinal delivered normalization now).2.views.lookup view).isSome
        rw [hafter]
        rfl
      · show (s.issue attempt ordinal delivered normalization now).2.views.lookup view ≠ _
        rw [hafter]
        decide
    · cases hyielded

theorem won_nodup {system : RuntimeSystem} (hsound : Sound system) (calls : List RuntimeCall) :
    (system.collect won calls).Nodup := by
  refine (collect_nodup won (fun s token => s.runtimeOutcomeOf token ≠ none) Sound
    (fun s call hs => sound_step hs call) ?_ ?_ system hsound calls).1
  · intro s call token hs hended
    obtain ⟨outcome, houtcome⟩ := Option.ne_none_iff_exists'.mp hended
    rw [step_outcome_kept hs call token outcome houtcome]
    exact Option.some_ne_none _
  · intro s call token hs hwon
    obtain ⟨hbefore, hafter⟩ := won_cases hs call token hwon
    exact ⟨fun h => h hbefore, hafter⟩

/-- Capabilities are one-shot. Over every run of a new source, with any clock readings, a
    view yields at most one capability; an outcome stays for good, is what a call that
    reports one reports, and is reported when asked for; at most one claim of a capability
    is won, and only one that is entitled to; a capability without an outcome is registered
    with an attempt the source holds; and the limits on live capabilities and on attempts,
    drained ones included, are kept. -/
theorem capabilities_one_shot (config : RuntimeAcquisitionConfig) (clock : Option Duration)
    (system : RuntimeSystem) (hnew : newRuntimeAcquisitionSource config clock = .ok system)
    (calls : List RuntimeCall) :
    (system.collect yielded calls).Nodup ∧
      (∀ before after, calls = before ++ after → ∀ token outcome,
        (system.run before).runtimeOutcomeOf token = some outcome →
        (system.run calls).runtimeOutcomeOf token = some outcome) ∧
      (∀ before call after, calls = before ++ call :: after → ∀ token outcome,
        reported call ((system.run before).step call).1 = some (token, outcome) →
        (system.run (before ++ [call])).runtimeOutcomeOf token = some outcome) ∧
      (∀ token held outcome now,
        (system.run calls).capabilityTokens.lookup token = some held →
        held.outcome = some outcome →
        (system.run calls).claim { token := some token } { token := some held.attempt } now =
            (.ok { outcome := outcome }, system.run calls) ∧
          (system.run calls).failOpen { token := some token } =
            (.ok outcome, system.run calls)) ∧
      (system.collect won calls).Nodup ∧
      (∀ before capability closed now after result,
        calls = before ++ .claim capability closed now :: after →
        ((system.run before).claim capability closed now).1 = .ok result →
        result.won = true → Entitled system before capability closed now) ∧
      (∀ token held, (system.run calls).capabilityTokens.lookup token = some held →
        held.outcome = none →
        ∃ state, (system.run calls).source.attempts.lookup held.attempt = some state ∧
          state.registered.lookup held.ordinal = some token) ∧
      ((system.run calls).source.live.entries.length : Int) ≤ config.limits.maxLiveCapabilities ∧
      ((system.run calls).attemptCount : Int) ≤ config.limits.maxAttempts := by
  have hsound := sound_new hnew
  obtain ⟨hattempts, hviews, hlimits⟩ := new_attempts hnew
  have hrun := sound_run hsound calls
  have hsame : (system.run calls).source.limits = system.source.limits :=
    run_kept (fun s => s.source.limits = system.source.limits)
      (fun _ _ _ _ hchange => hchange.limits_kept.trans) hsound rfl calls
  refine ⟨yielded_nodup hsound ?_ calls, ?_, ?_, ?_, won_nodup hsound calls, ?_,
    hrun.open_registered, ?_, ?_⟩
  · intro view hview
    rw [hviews] at hview
    cases hview
  · rintro before after rfl token outcome houtcome
    rw [run_append]
    exact run_kept (fun s => s.runtimeOutcomeOf token = some outcome)
      (fun _ _ _ hsound hchange => hchange.outcome_kept hsound token outcome)
      (sound_run hsound before) houtcome after
  · rintro before call after - token outcome hreported
    rw [run_append]
    exact reported_outcome (sound_run hsound before) call token outcome hreported
  · intro token held outcome now hheld houtcome
    exact ended_reports hrun token held outcome now hheld houtcome
  · intro before capability closed now after result _ hresult hwon
    refine won_entitled system hsound ?_ before capability closed now result hresult hwon
    rw [hattempts]
    exact fun _ _ h => nomatch h
  · rw [← hlimits, ← hsame]
    exact hrun.live_bound
  · rw [← hlimits, ← hsame]
    exact hrun.attempts_bound

/-- Limits with room for one capability in one attempt. -/
def singleLimits : RuntimeAcquisitionLimits where
  maxLiveCapabilities := 1
  maxAttempts := 1
  maxMembersPerAttempt := 1
  attemptKeyMaxUTF8Bytes := 8
  sourceEvidenceIDMaxUTF8Bytes := 8
  normalizationRecordMaxEncodedBytes := 64
  normalizationRequiredStringMaxUTF8Bytes := 8
  normalizationExtensionCountMax := 1
  normalizationExtensionKeyMaxUTF8Bytes := 8
  normalizationExtensionValueMaxEncodedBytes := 8
  retainedDiagnosticCountPerObjectMax := 1
  retainedDiagnosticMaxUTF8Bytes := 8
  capabilityTombstoneLimit := 1
  capabilityTombstoneMaxEncodedBytes := 128

/-- A view of one register. -/
def registerView : RuntimeView where
  view :=
    { logicalViewID := 1, wireResponseID := 1, logicalOffset := 10, logicalWords := 1
      sliceOffset := 0, sliceWordCount := 1, words := [7], wireBytes := [3, 2, 0, 7]
      provenance :=
        { physicalRequestID := 1
          wire :=
            { transport := .tcp, requestedFunction := 3, receivedFunction := 3
              table := .holdingRegisters, offset := 10, quantity := 1 }
          authorizationScope := "a", pollGeneration := 0, deadlineIdentity := 0
          logicalOffset := 10, logicalWordCount := 1, sliceOffset := 0, sliceWordCount := 1 } }
  runtimeEligibility := some 0

/-- The normalization of that view. -/
def registerNormalization : RuntimeNormalizationRecord where
  owned := true
  fields :=
    { sourceKind := .runtime, sourceEvidenceID := "e", functionCode := 3
      logicalTable := .holdingRegisters, normalizedZeroBasedPDUOffset := 10, wordCount := 1 }

/-- What the view yields under the first attempt. -/
def registerAcquisition : RuntimeAcquisition where
  attemptKey := "k"
  provenance := runtimeProvenanceFromView registerView.view registerNormalization.fields
  normalization := registerNormalization
  capability := { token := some 0 }

def singleConfig : RuntimeAcquisitionConfig where
  limits := singleLimits
  claimLifetime := 10

/-- A capability is issued twice from one view and claimed twice. -/
def claimTwice : List RuntimeCall :=
  [.newView, .beginAttempt "k",
    .issue { token := some 0 } 0 registerView registerNormalization 5,
    .issue { token := some 0 } 1 registerView registerNormalization 5,
    .close { token := some 0 } [registerAcquisition] [],
    .claim { token := some 0 } { token := some 0 } 9,
    .claim { token := some 0 } { token := some 0 } 9]

theorem capabilities_one_shot_twice :
    ∃ system,
      newRuntimeAcquisitionSource singleConfig (some 0) = .ok system ∧
      system.collect yielded claimTwice = [0] ∧ system.collect won claimTwice = [0] ∧
      (system.run claimTwice).claim { token := some 0 } { token := some 0 } 9 =
        (.ok { outcome := .claimed }, system.run claimTwice) := by
  refine ⟨_, rfl, by decide +kernel, by decide +kernel, ?_⟩
  obtain ⟨-, -, -, hreports, -⟩ := capabilities_one_shot singleConfig (some 0) _ rfl claimTwice
  exact (hreports 0 { attempt := 0, ordinal := 0, source := false, outcome := some .claimed }
    .claimed 9 (by decide +kernel) rfl).1

end RuntimeSystem

end HelianthusModbus
