import HelianthusModbus.Core.RuntimeAcquisition

/-!
# What the Calls of a Runtime Source Change

Every call on a source is a sequence of a few changes: an attempt begins, a capability is
issued, a capability ends, an attempt is frozen with its members, an attempt leaves. The
order in which a call makes them, and the tokens it detaches on the way, do not matter to
the invariant of the tables, so the invariant is proved for one change at a time.

A change carries the facts the call has checked before it. That an attempt only leaves
when all its registered capabilities have ended is such a fact, and for `cancelOpen` it
needs the invariant itself: the members of a closed attempt are its registered ones.

## Main definitions

* `RuntimeSystem.Change`: One change.
* `RuntimeSystem.Sound`: The invariant of the tables.

## Theorems

* `RuntimeSystem.Sound.change`, `RuntimeSystem.Sound.changes`: The invariant is kept.
-/

namespace HelianthusModbus

namespace RuntimeSystem

/-- A view that was issued or rejected, or is about to be. -/
def Spent (system : RuntimeSystem) (view : Nat) : Prop :=
  view < system.nextView ∧ system.views.lookup view ≠ some .available

/-- New views get new numbers. -/
def ViewsFresh (system : RuntimeSystem) : Prop :=
  ∀ view, (system.views.lookup view).isSome → view < system.nextView

/-- Only views, attempt tokens and the retirement change, and no attempt is drained. A
    view that is spent stays so. -/
structure Idle (before after : RuntimeSystem) : Prop where
  same : after = { before with
    source := { before.source with
      drainedAttempts := after.source.drainedAttempts, retired := after.source.retired }
    attemptTokens := after.attemptTokens, views := after.views, nextView := after.nextView }
  drained : after.source.drainedAttempts.entries.length ≤
    before.source.drainedAttempts.entries.length
  retired : before.source.retired = true → after.source.retired = true
  spent : ∀ view, before.Spent view → after.Spent view
  fresh : before.ViewsFresh → after.ViewsFresh

/-- The attempts and the drained attempts. -/
def attemptCount (system : RuntimeSystem) : Nat :=
  system.source.attempts.entries.length + system.source.drainedAttempts.entries.length

/-- A capability is issued. The reserved `sequence` left the counter at `next`. -/
def register (system : RuntimeSystem) (attempt : Nat) (state : RuntimeAttemptState)
    (ordinal : UInt32) (now : Duration) (sequence next : UInt64) (exhausted : Bool) :
    RuntimeSystem :=
  { system with
    source :=
      { system.source with
        nextTerminalSequence := next
        sequenceExhausted := exhausted
        live := system.source.live.insert system.nextCapability
          { attempt := attempt, terminalSequence := sequence
            claimDeadline := now + system.source.claimLifetime }
        attempts := system.source.attempts.insert attempt
          { state with
            registered := state.registered.insert ordinal system.nextCapability } }
    capabilityTokens := system.capabilityTokens.insert system.nextCapability
      { attempt := attempt, ordinal := ordinal }
    nextCapability := system.nextCapability + 1
    reserved := sequence :: system.reserved }

/-- One change of the tables of a source. An attempt may only be frozen with members that
    `freezes` allows. -/
inductive Change (freezes : Nat → List Nat → Prop) : RuntimeSystem → RuntimeSystem → Prop
  | idle (h : Idle before after) : Change freezes before after
  | begun (system key) (hroom : (system.attemptCount : Int) < system.source.limits.maxAttempts) :
      Change freezes system
        { system with
          source :=
            { system.source with
              attempts := system.source.attempts.insert system.nextAttempt
                { key := key, phase := .attemptOpen } }
          nextAttempt := system.nextAttempt + 1 }
  | issued (system : RuntimeSystem) (attempt : Nat) (state : RuntimeAttemptState)
      (ordinal : UInt32) (now : Duration) (sequence next : UInt64) (exhausted : Bool)
      (hretired : system.source.retired = false)
      (hstate : system.source.attempts.lookup attempt = some state)
      (hopen : state.phase = .attemptOpen)
      (hordinal : state.registered.lookup ordinal = none)
      (hlive : (system.source.live.entries.length : Int) <
        system.source.limits.maxLiveCapabilities)
      (hsequence : system.source.reserveTerminalSequence = (.ok sequence,
        { system.source with
          nextTerminalSequence := next, sequenceExhausted := exhausted })) :
      Change freezes system (system.register attempt state ordinal now sequence next exhausted)
  | ended (system token capability outcome)
      (hlive : system.source.live.lookup token = some capability)
      (hvalid : validRuntimeTerminalOutcome outcome = true) :
      Change freezes system (system.terminalize token capability outcome)
  | frozen (system token state members) (hstate : system.source.attempts.lookup token = some state)
      (hexact : ∀ ordinal : UInt32, state.registered.lookup ordinal = members[ordinal.toNat]?)
      (hfreezes : freezes token members) :
      Change freezes system
        { system with
          source :=
            { system.source with
              attempts := system.source.attempts.insert token
                { state with phase := .attemptClosed, members := members } } }
  | left (system : RuntimeSystem) (token : Nat) (state : RuntimeAttemptState)
      (drained : Table Nat Unit) (hstate : system.source.attempts.lookup token = some state)
      (hended : ∀ (ordinal : UInt32) (member : Nat),
        state.registered.lookup ordinal = some member → system.runtimeOutcomeOf member ≠ none)
      (hdrained : drained.entries.length ≤
        system.source.drainedAttempts.entries.length + 1) :
      Change freezes system
        { system with
          source :=
            { system.source with
              attempts := system.source.attempts.erase token, drainedAttempts := drained } }

/-- A sequence of changes. -/
abbrev Changes (freezes : Nat → List Nat → Prop) : RuntimeSystem → RuntimeSystem → Prop :=
  Relation.ReflTransGen (Change freezes)

/-- What holds of the tables between two calls. -/
structure Sound (system : RuntimeSystem) : Prop where
  members_bound : system.source.limits.maxMembersPerAttempt ≤ maxRuntimeMembersPerAttempt
  live_token : ∀ token capability, system.source.live.lookup token = some capability →
    ∃ held, system.capabilityTokens.lookup token = some held ∧ held.outcome = none ∧
      held.source = true ∧ held.attempt = capability.attempt
  open_live : ∀ token held, system.capabilityTokens.lookup token = some held →
    held.outcome = none → (system.source.live.lookup token).isSome
  open_registered : ∀ token held, system.capabilityTokens.lookup token = some held →
    held.outcome = none → ∃ state, system.source.attempts.lookup held.attempt = some state ∧
      state.registered.lookup held.ordinal = some token
  registered_token : ∀ attempt state ordinal token,
    system.source.attempts.lookup attempt = some state →
    state.registered.lookup ordinal = some token →
    ∃ held, system.capabilityTokens.lookup token = some held ∧ held.attempt = attempt ∧
      held.ordinal = ordinal
  closed_members : ∀ attempt state, system.source.attempts.lookup attempt = some state →
    state.phase = .attemptClosed →
    ∀ ordinal : UInt32, state.registered.lookup ordinal = state.members[ordinal.toNat]?
  token_fresh : ∀ token held, system.capabilityTokens.lookup token = some held →
    token < system.nextCapability
  attempt_fresh : ∀ attempt state, system.source.attempts.lookup attempt = some state →
    attempt < system.nextAttempt
  live_bound : (system.source.live.entries.length : Int) ≤
    system.source.limits.maxLiveCapabilities
  attempts_bound : (system.attemptCount : Int) ≤ system.source.limits.maxAttempts

/-- Reserving a sequence hands out the next one and moves the counter. -/
theorem reserve_cases {source after : RuntimeAcquisitionSource} {sequence : UInt64}
    (h : source.reserveTerminalSequence = (.ok sequence, after)) :
    ∃ next exhausted,
      after = { source with nextTerminalSequence := next, sequenceExhausted := exhausted } ∧
      source.sequenceExhausted = false ∧ source.nextTerminalSequence ≠ 0 ∧
      sequence = source.nextTerminalSequence ∧
      (source.nextTerminalSequence = 18446744073709551615 ∧ next = 0 ∧ exhausted = true ∨
        source.nextTerminalSequence ≠ 18446744073709551615 ∧
          next = source.nextTerminalSequence + 1 ∧ exhausted = false) := by
  unfold RuntimeAcquisitionSource.reserveTerminalSequence at h
  split at h
  · cases h
  next hnot =>
  rw [not_or, Bool.not_eq_true] at hnot
  split at h
  · next hmax =>
    cases h
    exact ⟨0, true, rfl, hnot.1, hnot.2, rfl, .inl ⟨hmax, rfl, rfl⟩⟩
  · next hmax =>
    cases h
    exact ⟨_, false, by rw [← hnot.1], hnot.1, hnot.2, rfl, .inr ⟨hmax, rfl, rfl⟩⟩

section Ending

variable (system : RuntimeSystem) (token : Nat) (capability : RuntimeCapabilityState)
  (outcome : RuntimeCapabilityTerminalOutcome)

@[simp] theorem terminalize_limits :
    (system.terminalize token capability outcome).source.limits = system.source.limits := rfl

@[simp] theorem terminalize_live :
    (system.terminalize token capability outcome).source.live =
      system.source.live.erase token := rfl

theorem terminalize_tokens {held : RuntimeCapabilityToken}
    (h : system.capabilityTokens.lookup token = some held) :
    (system.terminalize token capability outcome).capabilityTokens =
      system.capabilityTokens.insert token
        { held with source := false, outcome := some outcome } := by
  simp only [terminalize, h]

end Ending

namespace Sound

variable {system : RuntimeSystem} {freezes : Nat → List Nat → Prop}

/-- A capability has an outcome once it is not live. -/
theorem ended_of_not_live (hsound : Sound system) {token : Nat} {held : RuntimeCapabilityToken}
    (htoken : system.capabilityTokens.lookup token = some held)
    (hlive : system.source.live.lookup token = none) :
    system.runtimeOutcomeOf token ≠ none := by
  unfold runtimeOutcomeOf
  rw [htoken, Option.bind_some]
  intro hnone
  have := hsound.open_live token held htoken hnone
  rw [hlive] at this
  cases this

theorem idle {after : RuntimeSystem} (hsound : Sound system) (h : Idle system after) :
    Sound after := by
  have hdrained := h.drained
  have hbound := hsound.attempts_bound
  rw [h.same]
  refine { hsound with attempts_bound := ?_ }
  unfold attemptCount at hbound ⊢
  dsimp only
  omega

/-- Writing an attempt that keeps the registered capabilities where they are. -/
theorem attempt_written (hsound : Sound system) (token : Nat) (state : RuntimeAttemptState)
    (nextAttempt : Nat) (hnext : system.nextAttempt ≤ nextAttempt) (hfresh : token < nextAttempt)
    (hkept : ∀ old, system.source.attempts.lookup token = some old →
      state.registered = old.registered)
    (hnew : system.source.attempts.lookup token = none → state.registered = ∅)
    (hclosed : state.phase = .attemptClosed →
      ∀ ordinal : UInt32, state.registered.lookup ordinal = state.members[ordinal.toNat]?)
    (hroom : (system.attemptCount : Int) < system.source.limits.maxAttempts ∨
      (system.source.attempts.lookup token).isSome) :
    Sound
      { system with
        source := { system.source with attempts := system.source.attempts.insert token state }
        nextAttempt := nextAttempt } := by
  refine { hsound with
    open_registered := ?_, registered_token := ?_, closed_members := ?_, attempt_fresh := ?_
    attempts_bound := ?_ }
  · intro capability held hheld hopen
    obtain ⟨old, hold, hregistered⟩ := hsound.open_registered capability held hheld hopen
    dsimp only
    rw [Table.lookup_insert_ite]
    by_cases hsame : held.attempt = token
    · refine ⟨state, if_pos hsame, ?_⟩
      rw [hkept old (by rw [← hsame]; exact hold)]
      exact hregistered
    · exact ⟨old, by rw [if_neg hsame]; exact hold, hregistered⟩
  · intro attempt other ordinal capability hother hregistered
    rcases Table.lookup_insert_some hother with ⟨rfl, rfl⟩ | ⟨_, hother⟩
    · cases hold : system.source.attempts.lookup attempt with
      | none =>
        rw [hnew hold] at hregistered
        cases hregistered
      | some old =>
        rw [hkept old hold] at hregistered
        exact hsound.registered_token attempt old ordinal capability hold hregistered
    · exact hsound.registered_token attempt other ordinal capability hother hregistered
  · intro attempt other hother hphase
    rcases Table.lookup_insert_some hother with ⟨rfl, rfl⟩ | ⟨_, hother⟩
    · exact hclosed hphase
    · exact hsound.closed_members attempt other hother hphase
  · intro attempt other hother
    rcases Table.lookup_insert_some hother with ⟨rfl, rfl⟩ | ⟨_, hother⟩
    · exact hfresh
    · exact Nat.lt_of_lt_of_le (hsound.attempt_fresh attempt other hother) hnext
  · -- A new attempt needs room; a known one is only replaced.
    have hbound := hsound.attempts_bound
    have herase := Table.length_erase system.source.attempts token
    unfold attemptCount at hbound hroom ⊢
    dsimp only
    rw [Table.length_insert]
    rcases hroom with hroom | hsome
    · split at herase <;> omega
    · rw [if_pos hsome] at herase
      omega

theorem issued (hsound : Sound system) (attempt : Nat) (state : RuntimeAttemptState)
    (ordinal : UInt32) (now : Duration) (sequence next : UInt64) (exhausted : Bool)
    (hstate : system.source.attempts.lookup attempt = some state)
    (hopen : state.phase = .attemptOpen) (hordinal : state.registered.lookup ordinal = none)
    (hlive : (system.source.live.entries.length : Int) <
      system.source.limits.maxLiveCapabilities) :
    Sound (system.register attempt state ordinal now sequence next exhausted) := by
  have hkeep : ∀ token held, system.capabilityTokens.lookup token = some held →
      AList.lookup token (system.capabilityTokens.insert system.nextCapability
        { attempt := attempt, ordinal := ordinal }) = some held := by
    intro token held hheld
    rw [AList.lookup_insert_ne (Nat.ne_of_lt (hsound.token_fresh token held hheld))]
    exact hheld
  refine { hsound with
    live_token := ?_, open_live := ?_, open_registered := ?_, registered_token := ?_
    closed_members := ?_, token_fresh := ?_, attempt_fresh := ?_, live_bound := ?_
    attempts_bound := ?_ }
  · intro token capability htoken
    rcases Table.lookup_insert_some htoken with ⟨rfl, rfl⟩ | ⟨_, htoken⟩
    · exact ⟨_, AList.lookup_insert _, rfl, rfl, rfl⟩
    · obtain ⟨held, hheld, hrest⟩ := hsound.live_token token capability htoken
      exact ⟨held, hkeep token held hheld, hrest⟩
  · intro token held hheld hnone
    dsimp only [register]
    rw [Table.lookup_insert_ite]
    rcases Table.lookup_insert_some hheld with ⟨rfl, _⟩ | ⟨hne, hheld⟩
    · rw [if_pos rfl]
      rfl
    · rw [if_neg hne]
      exact hsound.open_live token held hheld hnone
  · intro token held hheld hnone
    dsimp only [register]
    rw [Table.lookup_insert_ite]
    rcases Table.lookup_insert_some hheld with ⟨rfl, rfl⟩ | ⟨_, hheld⟩
    · exact ⟨_, if_pos rfl, AList.lookup_insert _⟩
    obtain ⟨old, hold, hregistered⟩ := hsound.open_registered token held hheld hnone
    by_cases hsame : held.attempt = attempt
    · rw [hsame, hstate] at hold
      cases hold
      refine ⟨_, if_pos hsame, ?_⟩
      dsimp only
      -- The ordinal was free, so the entry of this token is another one.
      rw [AList.lookup_insert_ne (fun heq => by rw [heq, hordinal] at hregistered
                                                cases hregistered)]
      exact hregistered
    · exact ⟨old, by rw [if_neg hsame]; exact hold, hregistered⟩
  · intro other otherState otherOrdinal token hother hregistered
    rcases Table.lookup_insert_some hother with ⟨rfl, rfl⟩ | ⟨_, hother⟩
    · rcases Table.lookup_insert_some hregistered with ⟨rfl, rfl⟩ | ⟨_, hregistered⟩
      · exact ⟨_, AList.lookup_insert _, rfl, rfl⟩
      · obtain ⟨held, hheld, hrest⟩ :=
          hsound.registered_token other state otherOrdinal token hstate hregistered
        exact ⟨held, hkeep token held hheld, hrest⟩
    · obtain ⟨held, hheld, hrest⟩ :=
        hsound.registered_token other otherState otherOrdinal token hother hregistered
      exact ⟨held, hkeep token held hheld, hrest⟩
  · intro other otherState hother hphase
    rcases Table.lookup_insert_some hother with ⟨rfl, rfl⟩ | ⟨_, hother⟩
    · exact nomatch hopen.symm.trans hphase
    · exact hsound.closed_members other otherState hother hphase
  · intro token held hheld
    show token < system.nextCapability + 1
    rcases Table.lookup_insert_some hheld with ⟨rfl, _⟩ | ⟨_, hheld⟩
    · exact Nat.lt_succ_self _
    · exact Nat.lt_succ_of_lt (hsound.token_fresh token held hheld)
  · intro other otherState hother
    rcases Table.lookup_insert_some hother with ⟨rfl, _⟩ | ⟨_, hother⟩
    · exact hsound.attempt_fresh other state hstate
    · exact hsound.attempt_fresh other otherState hother
  · have herase := Table.length_erase system.source.live system.nextCapability
    dsimp only [register]
    rw [Table.length_insert]
    omega
  · have hbound := hsound.attempts_bound
    have herase := Table.length_erase system.source.attempts attempt
    rw [hstate, Option.isSome_some, if_pos rfl] at herase
    unfold attemptCount at hbound ⊢
    dsimp only [register]
    rw [Table.length_insert]
    omega

theorem ended (hsound : Sound system) (token : Nat) (capability : RuntimeCapabilityState)
    (outcome : RuntimeCapabilityTerminalOutcome)
    (hlive : system.source.live.lookup token = some capability) :
    Sound (system.terminalize token capability outcome) := by
  obtain ⟨held, hheld, hnone, hsource, hattempt⟩ := hsound.live_token token capability hlive
  have htokens := terminalize_tokens system token capability outcome hheld
  -- Every other token is as before, and the one that ended is not open any more.
  have hother : ∀ other found, AList.lookup other
      (system.terminalize token capability outcome).capabilityTokens = some found →
      found.outcome = none → other ≠ token ∧ system.capabilityTokens.lookup other = some found := by
    intro other found hfound hopen
    rw [htokens] at hfound
    rcases Table.lookup_insert_some hfound with ⟨_, rfl⟩ | hbefore
    · cases hopen
    · exact hbefore
  refine { hsound with
    live_token := ?_, open_live := ?_, open_registered := ?_, registered_token := ?_
    token_fresh := ?_, live_bound := ?_ }
  · intro other found hfound
    obtain ⟨hne, hfound⟩ := Table.lookup_erase_some hfound
    rw [htokens, AList.lookup_insert_ne hne]
    exact hsound.live_token other found hfound
  · intro other found hfound hopen
    obtain ⟨hne, hbefore⟩ := hother other found hfound hopen
    rw [terminalize_live, AList.lookup_erase_ne hne]
    exact hsound.open_live other found hbefore hopen
  · intro other found hfound hopen
    exact hsound.open_registered other found (hother other found hfound hopen).2 hopen
  · intro attempt state ordinal other hstate hregistered
    obtain ⟨found, hfound, hrest⟩ :=
      hsound.registered_token attempt state ordinal other hstate hregistered
    rw [htokens, Table.lookup_insert_ite]
    split
    · next hsame =>
      rw [hsame, hheld] at hfound
      cases hfound
      exact ⟨_, rfl, hrest⟩
    · exact ⟨found, hfound, hrest⟩
  · intro other found hfound
    rw [htokens] at hfound
    rcases Table.lookup_insert_some hfound with ⟨rfl, _⟩ | ⟨_, hfound⟩
    · exact hsound.token_fresh other held hheld
    · exact hsound.token_fresh other found hfound
  · have hbound := hsound.live_bound
    have herase := Table.length_erase system.source.live token
    rw [terminalize_live, terminalize_limits]
    omega

/-- An attempt leaves once all its registered capabilities have ended. -/
theorem left (hsound : Sound system) (token : Nat) (state : RuntimeAttemptState)
    (drained : Table Nat Unit) (hstate : system.source.attempts.lookup token = some state)
    (hended : ∀ (ordinal : UInt32) (member : Nat),
      state.registered.lookup ordinal = some member → system.runtimeOutcomeOf member ≠ none)
    (hdrained : drained.entries.length ≤ system.source.drainedAttempts.entries.length + 1) :
    Sound
      { system with
        source :=
          { system.source with
            attempts := system.source.attempts.erase token, drainedAttempts := drained } } := by
  have hother := Table.Within.erase system.source.attempts token
  refine { hsound with
    open_registered := ?_, attempts_bound := ?_
    registered_token := fun attempt found ordinal capability hfound =>
      hsound.registered_token attempt found ordinal capability (hother attempt found hfound)
    closed_members := fun attempt found hfound =>
      hsound.closed_members attempt found (hother attempt found hfound)
    attempt_fresh := fun attempt found hfound =>
      hsound.attempt_fresh attempt found (hother attempt found hfound) }
  · intro capability held hheld hopen
    obtain ⟨found, hfound, hregistered⟩ := hsound.open_registered capability held hheld hopen
    refine ⟨found, ?_, hregistered⟩
    dsimp only
    rw [Table.lookup_erase_ite]
    split
    · next hsame =>
      -- The capability is open, so it cannot be registered with the attempt that leaves.
      rw [hsame, hstate] at hfound
      cases hfound
      refine absurd ?_ (hended held.ordinal capability hregistered)
      unfold runtimeOutcomeOf
      rw [hheld, Option.bind_some, hopen]
    · exact hfound
  · have hbound := hsound.attempts_bound
    have herase := Table.length_erase system.source.attempts token
    rw [hstate, Option.isSome_some, if_pos rfl] at herase
    unfold attemptCount at hbound ⊢
    dsimp only
    omega

theorem change {after : RuntimeSystem} (hsound : Sound system) (h : Change freezes system after) :
    Sound after := by
  cases h with
  | idle h => exact hsound.idle h
  | begun key hroom =>
    have hnew : system.source.attempts.lookup system.nextAttempt = none := by
      cases hold : system.source.attempts.lookup system.nextAttempt with
      | none => rfl
      | some old =>
        exact absurd (hsound.attempt_fresh _ old hold) (Nat.lt_irrefl _)
    refine hsound.attempt_written _ _ _ (Nat.le_succ _) (Nat.lt_succ_self _) ?_ ?_ ?_ (.inl hroom)
    · intro old hold
      rw [hnew] at hold
      cases hold
    · exact fun _ => rfl
    · exact fun hphase => nomatch hphase
  | issued attempt state ordinal now sequence next exhausted _ hstate hopen hordinal hlive _ =>
    exact hsound.issued attempt state ordinal now sequence next exhausted hstate hopen hordinal
      hlive
  | ended token capability outcome hlive _ => exact hsound.ended token capability outcome hlive
  | frozen token state members hstate hexact _ =>
    refine hsound.attempt_written token _ system.nextAttempt (Nat.le_refl _)
      (hsound.attempt_fresh token state hstate) ?_ ?_ (fun _ => hexact)
      (.inr (by rw [hstate]; rfl))
    · intro old hold
      rw [hstate] at hold
      cases hold
      rfl
    · intro hnone
      rw [hstate] at hnone
      cases hnone
  | left token state drained hstate hended hdrained =>
    exact hsound.left token state drained hstate hended hdrained

theorem changes {after : RuntimeSystem} (hsound : Sound system) (h : Changes freezes system after) :
    Sound after := by
  induction h with
  | refl => exact hsound
  | tail _ hlast ih => exact ih.change hlast

end Sound

end RuntimeSystem

end HelianthusModbus
