import HelianthusModbus.Theory.RuntimeChanges

/-!
# The Calls of a Runtime Source as Changes

Each call is a sequence of the changes of `RuntimeChanges`, so that the invariant of the
tables holds after every run. The one call that freezes an attempt is a `close` that
succeeded, with the tokens of the members it was given.

## Main definitions

* `RuntimeSystem.Freezes`: The attempt a call freezes.

## Theorems

* `RuntimeSystem.step_changes`: A call is a sequence of changes.
* `RuntimeSystem.step_kept`, `RuntimeSystem.run_kept`: What every change keeps is kept.
* `RuntimeSystem.sound_new`, `RuntimeSystem.sound_run`: The invariant holds after every run
  of a new source.
-/

namespace HelianthusModbus

namespace RuntimeSystem

/-- The tokens found by the membership check, one for each member, are the registered
    ones at consecutive ordinals. -/
theorem exactMembers_spec (system : RuntimeSystem) (attempt : Nat) (state : RuntimeAttemptState)
    (members : List RuntimeAcquisition) (seen tokens : List Nat)
    (h : system.exactMembers attempt state members seen = some tokens) :
    ∃ more, tokens = seen ++ more ∧
      members.map (fun member => member.capability.token) = more.map some ∧
      ∀ i < more.length,
        state.registered.lookup (UInt32.ofNat (seen.length + i)) = more[i]? := by
  induction members generalizing seen with
  | nil =>
    cases h
    exact ⟨[], (List.append_nil _).symm, rfl, fun i hi => absurd hi (Nat.not_lt_zero i)⟩
  | cons member rest ih =>
    unfold exactMembers at h
    split at h
    · cases h
    next token hmember =>
    split at h
    · cases h
    -- The ordinal of a member is the number of those before it.
    obtain ⟨more, htokens, hmap, hlookup⟩ := ih (seen ++ [token]) h
    obtain ⟨htoken, hregistered⟩ : member.capability.token = some token ∧
        state.registered.lookup (UInt32.ofNat seen.length) = some token := by
      unfold exactMember at hmember
      split at hmember
      · cases hmember
      next found hfound =>
      split at hmember
      · cases hmember
      split at hmember
      · cases hmember
      · next hchecks =>
        cases hmember
        exact ⟨hfound, not_not.mp (not_or.mp hchecks).1⟩
    refine ⟨token :: more, by rw [htokens, List.append_assoc]; rfl, ?_, ?_⟩
    · rw [List.map_cons, List.map_cons, htoken, hmap]
    · intro i hi
      cases i with
      | zero => exact hregistered
      | succ i =>
        have hnext := hlookup i (by simpa using hi)
        rw [List.length_append, List.length_singleton, Nat.add_assoc,
          Nat.add_comm 1 i] at hnext
        rw [List.getElem?_cons_succ]
        exact hnext

/-- An exact member list has the registered capabilities in the order of their ordinals,
    and no others are registered. -/
theorem exactMembership_spec (system : RuntimeSystem) (hsound : Sound system) (attempt : Nat)
    (state : RuntimeAttemptState) (members : List RuntimeAcquisition) (tokens : List Nat)
    (h : system.exactMembership attempt state members = some tokens) :
    members.map (fun member => member.capability.token) = tokens.map some ∧
      ∀ ordinal : UInt32, state.registered.lookup ordinal = tokens[ordinal.toNat]? := by
  unfold exactMembership at h
  split at h
  · cases h
  next hcounts =>
  obtain ⟨more, hmore, hmap, hlookup⟩ :=
    exactMembers_spec system attempt state members [] tokens h
  rw [List.nil_append] at hmore
  subst hmore
  have hlength : members.length = tokens.length := by
    simpa only [List.length_map] using congrArg List.length hmap
  have hbound := hsound.members_bound
  unfold maxRuntimeMembersPerAttempt maxCoalescedDependents at hbound
  push Not at hcounts
  replace hlookup : ∀ i < tokens.length,
      state.registered.lookup (UInt32.ofNat i) = tokens[i]? := fun i hi => by
    have := hlookup i hi
    rwa [List.length_nil, Nat.zero_add] at this
  have hsmall : ∀ i < tokens.length, (UInt32.ofNat i).toNat = i := fun i hi =>
    UInt32.toNat_ofNat_of_lt' (by show i < 4294967296; omega)
  refine ⟨hmap, fun ordinal => ?_⟩
  by_cases hordinal : ordinal.toNat < tokens.length
  · have := hlookup ordinal.toNat hordinal
    rwa [UInt32.ofNat_toNat] at this
  · -- The ordinals below the length are all that are registered.
    rw [List.getElem?_eq_none (Nat.le_of_not_lt hordinal)]
    cases hother : state.registered.lookup ordinal with
    | none => rfl
    | some other =>
      exfalso
      have hmem := Table.mem_of_length_le state.registered
        ((List.range tokens.length).map UInt32.ofNat) ?_ ?_ ?_ ordinal (by rw [hother]; rfl)
      · obtain ⟨i, hi, hsame⟩ := List.mem_map.mp hmem
        rw [← hsame, hsmall i (List.mem_range.mp hi)] at hordinal
        exact hordinal (List.mem_range.mp hi)
      · refine List.Nodup.map_on (fun i hi j hj hsame => ?_) List.nodup_range
        rw [← hsmall i (List.mem_range.mp hi), ← hsmall j (List.mem_range.mp hj), hsame]
      · intro key hkey
        obtain ⟨i, hi, rfl⟩ := List.mem_map.mp hkey
        rw [hlookup i (List.mem_range.mp hi),
          List.getElem?_eq_getElem (List.mem_range.mp hi)]
        rfl
      · rw [List.length_map, List.length_range, ← hlength, hcounts.2.1]

section Calls

variable {system : RuntimeSystem} (freezes : Nat → List Nat → Prop)

theorem setView_idle (system : RuntimeSystem) (view : Nat) (state : RuntimeViewState)
    (hstate : state ≠ .available) (hknown : (system.views.lookup view).isSome) :
    Idle system (system.setView view state) := by
  refine ⟨rfl, Nat.le_refl _, fun h => h, ?_, ?_⟩
  · rintro other ⟨hnumber, hother⟩
    refine ⟨hnumber, ?_⟩
    show AList.lookup other (system.views.insert view state) ≠ _
    rw [Table.lookup_insert_ite]
    split
    · exact fun h => hstate (Option.some.inj h)
    · exact hother
  · intro hfresh other hother
    change (AList.lookup other (system.views.insert view state)).isSome at hother
    rw [Table.lookup_insert_ite] at hother
    split at hother
    · next hsame => rw [hsame]; exact hfresh view hknown
    · exact hfresh other hother

theorem newRuntimeViewEligibility_idle (system : RuntimeSystem) :
    Idle system system.newRuntimeViewEligibility.2 := by
  refine ⟨rfl, Nat.le_refl _, fun h => h, ?_, ?_⟩
  · rintro view ⟨hnumber, hview⟩
    refine ⟨Nat.lt_succ_of_lt hnumber, ?_⟩
    show AList.lookup view (system.views.insert system.nextView .available) ≠ _
    rw [AList.lookup_insert_ne (Nat.ne_of_lt hnumber)]
    exact hview
  · intro hfresh view hview
    change (AList.lookup view (system.views.insert system.nextView .available)).isSome at hview
    show view < system.nextView + 1
    rw [Table.lookup_insert_ite] at hview
    split at hview
    · omega
    · exact Nat.lt_succ_of_lt (hfresh view hview)

theorem detachAttempt_idle (system : RuntimeSystem) (token : Nat) :
    Idle system (system.detachAttempt token) :=
  ⟨rfl, Nat.le_refl _, fun h => h, fun _ h => h, fun h => h⟩

theorem foldl_detachAttempt (tokens : List Nat) (system : RuntimeSystem) :
    ∃ attemptTokens, tokens.foldl detachAttempt system =
      { system with attemptTokens := attemptTokens } := by
  induction tokens generalizing system with
  | nil => exact ⟨system.attemptTokens, rfl⟩
  | cons token rest ih => exact ih (system.detachAttempt token)

theorem beginAttempt_changes (system : RuntimeSystem) (attemptKey : String) :
    Changes freezes system (system.beginAttempt attemptKey).2 := by
  unfold beginAttempt
  split
  · exact .refl
  split
  · exact .refl
  split
  · exact .refl
  next hroom =>
  have hbegun := @Change.begun freezes system attemptKey (by
    unfold attemptCount
    omega)
  refine (Relation.ReflTransGen.single hbegun).tail (.idle ?_)
  exact ⟨rfl, Nat.le_refl _, fun h => h, fun _ h => h, fun h => h⟩

theorem issueLocked_changes (system : RuntimeSystem) (attempt : Nat)
    (dependencyOrdinal : UInt32) (now : Duration) :
    Changes freezes system (system.issueLocked attempt dependencyOrdinal now).2 ∧
      (system.issueLocked attempt dependencyOrdinal now).2.views = system.views := by
  unfold issueLocked
  dsimp only
  split
  · exact ⟨.refl, rfl⟩
  next state hstate =>
  split
  · exact ⟨.refl, rfl⟩
  next hphase =>
  rw [not_or, not_not, Bool.not_eq_true] at hphase
  split
  · exact ⟨.refl, rfl⟩
  split
  · exact ⟨.refl, rfl⟩
  next hordinal =>
  split
  · exact ⟨.refl, rfl⟩
  next hroom =>
  rw [not_or] at hroom
  rcases hreserved : system.source.reserveTerminalSequence with ⟨_ | sequence, source⟩
  · have hsame : source = system.source := by
      unfold RuntimeAcquisitionSource.reserveTerminalSequence at hreserved
      split at hreserved
      · exact (Prod.ext_iff.mp hreserved).2.symm
      · split at hreserved <;> cases hreserved
    rw [hsame]
    exact ⟨.refl, rfl⟩
  · obtain ⟨next, exhausted, rfl, -⟩ := reserve_cases hreserved
    refine ⟨.single (.issued system attempt state dependencyOrdinal now sequence next exhausted
      hphase.1 hstate hphase.2 ?_ (by omega) hreserved), rfl⟩
    simpa using hordinal

theorem issueView_changes (system : RuntimeSystem) (attempt : Nat) (dependencyOrdinal : UInt32)
    (view : LogicalReadView) (eligibility : Nat) (normalization : RuntimeNormalizationRecord)
    (now : Duration) :
    Changes freezes system (system.issueView attempt dependencyOrdinal view eligibility
      normalization now).2 := by
  unfold issueView
  split
  · exact .refl
  next havailable =>
  rw [not_not] at havailable
  have hissuing : Changes freezes system (system.setView eligibility .issuing) :=
    .single (.idle (setView_idle system eligibility .issuing (by decide)
      (by rw [havailable]; rfl)))
  have hknown : ((system.setView eligibility .issuing).views.lookup eligibility).isSome := by
    show (AList.lookup eligibility (system.views.insert eligibility .issuing)).isSome
    rw [AList.lookup_insert]
    rfl
  obtain ⟨hlocked, hviews⟩ := issueLocked_changes freezes
    (system.setView eligibility .issuing) attempt dependencyOrdinal now
  have hissued := hissuing.trans hlocked
  dsimp only
  split
  · exact hissuing.tail (.idle (setView_idle _ _ _ (by decide) hknown))
  · split
    · exact hissued.tail (.idle (setView_idle _ _ _ (by decide) (by rw [hviews]; exact hknown)))
    · exact hissued.tail (.idle (setView_idle _ _ _ (by decide) (by rw [hviews]; exact hknown)))

theorem issue_changes (system : RuntimeSystem) (attempt : RuntimeAttempt)
    (dependencyOrdinal : UInt32) (view : RuntimeView)
    (normalization : RuntimeNormalizationRecord) (now : Duration) :
    Changes freezes system (system.issue attempt dependencyOrdinal view normalization now).2 := by
  unfold issue
  split
  · split
    · exact .refl
    · exact issueView_changes freezes ..
  · exact .refl

/-- Ending a list of capabilities: afterwards none of them is live. -/
theorem foldl_terminalizeOpen (outcome : RuntimeCapabilityTerminalOutcome)
    (hvalid : validRuntimeTerminalOutcome outcome = true) (tokens : List Nat)
    (system : RuntimeSystem) :
    Changes freezes system (tokens.foldl (terminalizeOpen outcome) system) ∧
      (tokens.foldl (terminalizeOpen outcome) system).source.attempts =
        system.source.attempts ∧
      (∀ token, system.source.live.lookup token = none →
        (tokens.foldl (terminalizeOpen outcome) system).source.live.lookup token = none) ∧
      ∀ token ∈ tokens,
        (tokens.foldl (terminalizeOpen outcome) system).source.live.lookup token = none := by
  induction tokens generalizing system with
  | nil => exact ⟨.refl, rfl, fun _ h => h, fun _ h => nomatch h⟩
  | cons head rest ih =>
    rw [List.foldl_cons]
    obtain ⟨hfirst, hattempts, hkept, hended⟩ :
        Changes freezes system (terminalizeOpen outcome system head) ∧
          (terminalizeOpen outcome system head).source.attempts = system.source.attempts ∧
          (∀ token, system.source.live.lookup token = none →
            (terminalizeOpen outcome system head).source.live.lookup token = none) ∧
          (terminalizeOpen outcome system head).source.live.lookup head = none := by
      unfold terminalizeOpen
      split
      · next hnone => exact ⟨.refl, rfl, fun _ h => h, hnone⟩
      next capability hlive =>
      refine ⟨.single (.ended system head capability outcome hlive hvalid), rfl, ?_, ?_⟩
      · intro token htoken
        rw [terminalize_live, Table.lookup_erase_ite, htoken, ite_self]
      · rw [terminalize_live, AList.lookup_erase]
    obtain ⟨hrest, hattempts', hkept', hended'⟩ := ih (terminalizeOpen outcome system head)
    refine ⟨hfirst.trans hrest, hattempts'.trans hattempts,
      fun token htoken => hkept' token (hkept token htoken), fun token htoken => ?_⟩
    rcases List.mem_cons.mp htoken with rfl | hmem
    · exact hkept' token hended
    · exact hended' token hmem

/-- An attempt whose registered capabilities have ended is dropped. -/
theorem dropAttempt_changes (system : RuntimeSystem) (token : Nat) (state : RuntimeAttemptState)
    (hstate : system.source.attempts.lookup token = some state)
    (hended : ∀ (ordinal : UInt32) (member : Nat),
      state.registered.lookup ordinal = some member → system.runtimeOutcomeOf member ≠ none) :
    Changes freezes system (system.dropAttempt token) := by
  have hleft := @Change.left freezes system token state system.source.drainedAttempts hstate hended
    (Nat.le_succ _)
  exact (Relation.ReflTransGen.single hleft).tail (.idle (detachAttempt_idle _ token))

/-- Ending the capabilities of an attempt and dropping it. -/
theorem cancelAndDrop_changes (hsound : Sound system) (token : Nat)
    (state : RuntimeAttemptState) (tokens : List Nat)
    (hstate : system.source.attempts.lookup token = some state)
    (hall : ∀ (ordinal : UInt32) (member : Nat),
      state.registered.lookup ordinal = some member → member ∈ tokens) :
    Changes freezes system
      ((tokens.foldl (terminalizeOpen .cancelled) system).dropAttempt token) := by
  obtain ⟨hcancelled, hattempts, -, hended⟩ :=
    foldl_terminalizeOpen freezes .cancelled rfl tokens system
  have hafter := hsound.changes hcancelled
  have hstate' : (tokens.foldl (terminalizeOpen .cancelled) system).source.attempts.lookup token =
      some state := by
    rw [hattempts]
    exact hstate
  refine hcancelled.trans (dropAttempt_changes freezes _ token state hstate' ?_)
  intro ordinal member hregistered
  obtain ⟨held, hheld, -⟩ := hafter.registered_token token state ordinal member hstate' hregistered
  exact hafter.ended_of_not_live hheld (hended member (hall ordinal member hregistered))

/-- A closed attempt without open members is drained. -/
theorem reclaim_changes (hsound : Sound system) (token : Nat) (state : RuntimeAttemptState)
    (hstate : system.source.attempts.lookup token = some state) :
    Changes freezes system (system.reclaimAttemptIfTerminal token state) := by
  unfold reclaimAttemptIfTerminal
  split
  · exact .refl
  next hphase =>
  split
  · exact .refl
  next hmembers =>
  have herase := Table.length_erase system.source.drainedAttempts token
  refine .single (.left system token state _ hstate ?_ ?_)
  · intro ordinal member hregistered hnone
    rw [hsound.closed_members token state hstate (not_not.mp hphase) ordinal]
      at hregistered
    refine hmembers (List.any_eq_true.mpr
      ⟨member, List.mem_of_getElem? hregistered, ?_⟩)
    rw [hnone]
    rfl
  · rw [Table.length_insert]
    omega

/-- A capability ends, and its attempt is drained if it was the last one. -/
theorem end_changes (hsound : Sound system) (token : Nat) (capability : RuntimeCapabilityState)
    (outcome : RuntimeCapabilityTerminalOutcome) (attempt : Nat) (state : RuntimeAttemptState)
    (hlive : system.source.live.lookup token = some capability)
    (hvalid : validRuntimeTerminalOutcome outcome = true)
    (hstate : system.source.attempts.lookup attempt = some state) :
    Changes freezes system
      ((system.terminalize token capability outcome).reclaimAttemptIfTerminal attempt state) := by
  have hended := @Change.ended freezes system token capability outcome hlive hvalid
  exact (Relation.ReflTransGen.single hended).trans
    (reclaim_changes freezes (hsound.change hended) attempt state hstate)

/-- The attempt a call freezes, with the tokens of its members. -/
def Freezes (system : RuntimeSystem) (call : RuntimeCall) (token : Nat) (tokens : List Nat) :
    Prop :=
  ∃ members order, call = .close { token := some token } members order ∧
    (system.close { token := some token } members order).1 = .ok { token := some token } ∧
    members.map (fun member => member.capability.token) = tokens.map some

theorem close_changes (hsound : Sound system) (attempt : RuntimeAttempt)
    (members : List RuntimeAcquisition) (order : List Nat) :
    Changes (system.Freezes (.close attempt members order)) system
      (system.close attempt members order).2 := by
  obtain ⟨_ | token⟩ := attempt
  · exact .refl
  · by_cases hsource : system.attemptTokens.lookup token ≠ some true
    · simp only [close, if_pos hsource]
      exact .refl
    · cases hstate : system.source.attempts.lookup token with
      | none =>
        simp only [close, if_neg hsource, hstate]
        exact .refl
      | some state =>
        by_cases hphase : state.phase ≠ .attemptOpen
        · simp only [close, if_neg hsource, hstate, if_pos hphase]
          exact .refl
        · cases hexact : system.exactMembership token state members with
          | none =>
            simp only [close, if_neg hsource, hstate, if_neg hphase, hexact]
            refine cancelAndDrop_changes _ hsound token state _ hstate ?_
            -- Whatever order is given, the registered members are the ones that are cancelled.
            intro ordinal member hregistered
            have hlisted : member ∈ state.registered.entries.map fun e => e.2 :=
              List.mem_map.mpr
                ⟨⟨ordinal, member⟩, (Table.mem_entries_iff _ _ _).mpr hregistered, rfl⟩
            split
            · next hperm => exact hperm.mem_iff.mpr hlisted
            · exact hlisted
          | some tokens =>
            obtain ⟨hmap, hregistered⟩ :=
              exactMembership_spec system hsound token state members tokens hexact
            have hfreezes : system.Freezes (.close { token := some token } members order) token
                tokens := by
              refine ⟨members, order, rfl, ?_, hmap⟩
              simp only [close, if_neg hsource, hstate, if_neg hphase, hexact]
            have hfrozen := Change.frozen system token state tokens hstate hregistered hfreezes
            simp only [close, if_neg hsource, hstate, if_neg hphase, hexact]
            exact (Relation.ReflTransGen.single hfrozen).trans
              (reclaim_changes _ (hsound.change hfrozen) token _ (AList.lookup_insert _))

theorem claimLocked_changes (hsound : Sound system) (token attempt : Nat) (now : Duration) :
    Changes freezes system (system.claimLocked token attempt now).2 := by
  unfold claimLocked
  split
  · split
    · exact .refl
    · exact .refl
  next capability hlive =>
  split
  · exact .refl
  next state hstate =>
  split
  · exact .refl
  · split
    · exact end_changes freezes hsound token capability _ attempt state hlive rfl hstate
    · exact end_changes freezes hsound token capability _ attempt state hlive rfl hstate

theorem claim_changes (hsound : Sound system) (capability : RuntimeAcquisitionCapability)
    (closed : RuntimeAttemptInstance) (now : Duration) :
    Changes freezes system (system.claim capability closed now).2 := by
  unfold claim
  split
  · split
    · exact .refl
    split
    · exact .refl
    split
    · exact claimLocked_changes freezes hsound _ _ now
    · split
      · exact .refl
      · exact .refl
  · exact .refl

theorem cancelOpen_changes (hsound : Sound system) (closed : RuntimeAttemptInstance) :
    Changes freezes system (system.cancelOpen closed).2 := by
  unfold cancelOpen
  split
  · exact .refl
  next token _ =>
  split
  · exact .refl
  split
  · split
    · exact .refl
    have herase := Table.length_erase system.source.drainedAttempts token
    refine .single (.idle ⟨rfl, ?_, fun h => h, fun _ h => h, fun h => h⟩)
    dsimp only [detachAttempt]
    omega
  · next state hstate =>
    split
    · exact .refl
    next hphase =>
    refine cancelAndDrop_changes freezes hsound token state _ hstate ?_
    intro ordinal member hregistered
    rw [hsound.closed_members token state hstate (not_not.mp hphase)] at hregistered
    exact List.mem_of_getElem? hregistered

/-- An open capability ends, whatever became of its attempt. -/
theorem endAny_changes (hsound : Sound system) (token : Nat)
    (capability : RuntimeCapabilityState) (outcome : RuntimeCapabilityTerminalOutcome)
    (hlive : system.source.live.lookup token = some capability)
    (hvalid : validRuntimeTerminalOutcome outcome = true) :
    Changes freezes system
      (match system.source.attempts.lookup capability.attempt with
        | none => system.terminalize token capability outcome
        | some attempt =>
          (system.terminalize token capability outcome).reclaimAttemptIfTerminal
            capability.attempt attempt) := by
  split
  · exact .single (.ended system token capability outcome hlive hvalid)
  · next state hstate =>
    exact end_changes freezes hsound token capability outcome _ state hlive hvalid hstate

theorem failOpen_changes (hsound : Sound system) (capability : RuntimeAcquisitionCapability) :
    Changes freezes system (system.failOpen capability).2 := by
  unfold failOpen
  split
  · exact .refl
  next token _ =>
  split
  · split
    · exact .refl
    · exact .refl
  next state hlive =>
  split
  · exact .refl
  have hended := endAny_changes freezes hsound token state .failed hlive rfl
  dsimp only
  split at hended
  · next hnone => simpa only [hnone] using hended
  · next attempt hsome => simpa only [hsome] using hended

theorem dueCandidate_spec (system : RuntimeSystem) (now : Duration) (token : Nat)
    (candidate : RuntimeCapabilityState) (h : system.dueCandidate now = some (token, candidate)) :
    system.source.live.lookup token = some candidate ∧ candidate.claimDeadline ≤ now := by
  rw [← Table.mem_entries_iff]
  revert h
  unfold dueCandidate
  refine List.foldlRecOn (motive := fun best => best = some (token, candidate) →
    ⟨token, candidate⟩ ∈ system.source.live.entries ∧ candidate.claimDeadline ≤ now)
    system.source.live.entries _ (b := none) (fun h => nomatch h) ?_
  intro best ih entry hentry h
  split at h
  · exact ih h
  · next hdue =>
    cases h
    exact ⟨hentry, not_lt.mp (not_or.mp hdue).1⟩

theorem expireLoop_changes (now : Duration) (fuel expired : Nat) (system : RuntimeSystem)
    (hsound : Sound system) : Changes freezes system (expireLoop now fuel expired system).2 := by
  induction fuel generalizing expired system with
  | zero => exact .refl
  | succ fuel ih =>
    unfold expireLoop
    split
    · exact .refl
    next token candidate hcandidate =>
    have hended := endAny_changes freezes hsound token candidate .expired
      (dueCandidate_spec system now token candidate hcandidate).1 rfl
    exact hended.trans (ih _ _ (hsound.changes hended))

theorem foldl_dropAttempt_changes (tokens : List Nat) (system : RuntimeSystem)
    (hnodup : tokens.Nodup)
    (hempty : ∀ token ∈ tokens, ∃ state, system.source.attempts.lookup token = some state ∧
      state.registered.entries.length = 0) :
    Changes freezes system (tokens.foldl dropAttempt system) := by
  induction tokens generalizing system with
  | nil => exact .refl
  | cons head rest ih =>
    rw [List.nodup_cons] at hnodup
    obtain ⟨state, hstate, hnone⟩ := hempty head List.mem_cons_self
    have hdrop := dropAttempt_changes freezes system head state hstate (by
      intro ordinal member hregistered
      have := (Table.mem_entries_iff _ _ _).mpr hregistered
      rw [List.length_eq_zero_iff.mp hnone] at this
      cases this)
    refine hdrop.trans (ih _ hnodup.2 (fun token htoken => ?_))
    obtain ⟨other, hother, hnone'⟩ := hempty token (List.mem_cons_of_mem _ htoken)
    refine ⟨other, ?_, hnone'⟩
    show AList.lookup token (system.source.attempts.erase head) = some other
    rw [AList.lookup_erase_ne (fun hsame : token = head => hnodup.1 (hsame ▸ htoken))]
    exact hother

theorem emptyAttempts_spec (system : RuntimeSystem) :
    system.emptyAttempts.Nodup ∧
      ∀ token ∈ system.emptyAttempts, ∃ state,
        system.source.attempts.lookup token = some state ∧
          state.registered.entries.length = 0 := by
  unfold emptyAttempts
  constructor
  · exact (List.filter_sublist.map _).nodup system.source.attempts.nodupKeys
  · intro token htoken
    obtain ⟨entry, hentry, rfl⟩ := List.mem_map.mp htoken
    obtain ⟨hmem, hnone⟩ := List.mem_filter.mp hentry
    exact ⟨entry.2, (Table.mem_entries_iff _ _ _).mp hmem, of_decide_eq_true hnone⟩

theorem exportRestartState_changes (system : RuntimeSystem) :
    Changes freezes system system.exportRestartState.2 := by
  unfold exportRestartState
  obtain ⟨hnodup, hempty⟩ := emptyAttempts_spec system
  have hswept := foldl_dropAttempt_changes freezes system.emptyAttempts system hnodup hempty
  split
  · exact .refl
  dsimp only
  split
  · exact hswept
  obtain ⟨attemptTokens, hdetached⟩ := foldl_detachAttempt
    ((system.emptyAttempts.foldl dropAttempt system).source.drainedAttempts.entries.map
      fun e => e.1) (system.emptyAttempts.foldl dropAttempt system)
  rw [hdetached]
  exact hswept.tail (.idle ⟨rfl, Nat.zero_le _, fun _ => rfl, fun _ h => h, fun h => h⟩)

theorem step_changes (hsound : Sound system) (call : RuntimeCall) :
    Changes (system.Freezes call) system (system.step call).2 := by
  cases call with
  | newView => exact .single (.idle (newRuntimeViewEligibility_idle system))
  | beginAttempt attemptKey => exact beginAttempt_changes _ system attemptKey
  | issue attempt dependencyOrdinal view normalization now =>
    exact issue_changes _ system attempt dependencyOrdinal view normalization now
  | close attempt members order => exact close_changes hsound attempt members order
  | claim capability closed now => exact claim_changes _ hsound capability closed now
  | cancelOpen closed => exact cancelOpen_changes _ hsound closed
  | failOpen capability => exact failOpen_changes _ hsound capability
  | expireOpen now => exact expireLoop_changes _ now _ 0 system hsound
  | exportRestartState => exact exportRestartState_changes _ system

end Calls

theorem config_cases {config : RuntimeAcquisitionConfig} {clock : Option Duration}
    (h : validateRuntimeAcquisitionConfig config clock = none) :
    (∀ bound ∈ config.limits.positiveBounded, 0 < bound.1 ∧ bound.1 ≤ bound.2) ∧
      (({ terminalSequence := 18446744073709551615, terminalOutcome := .cancelled } :
          RuntimeCapabilityTombstone).encoded.length : Int) ≤
        config.limits.capabilityTombstoneMaxEncodedBytes ∧
      ∀ restart, config.restart = some restart →
        validateRuntimeRestart restart config.limits = none := by
  unfold validateRuntimeAcquisitionConfig at h
  dsimp only at h
  split at h
  · cases h
  next hbounds =>
  split at h
  · cases h
  split at h
  · cases h
  split at h
  · cases h
  split at h
  · split at h
    · cases h
    next hencoded =>
    refine ⟨fun bound hbound => ?_, not_lt.mp hencoded, ?_⟩
    · rw [List.any_eq_true] at hbounds
      by_contra hcontra
      exact hbounds ⟨bound, hbound, by rw [decide_eq_true_eq]; omega⟩
    · intro restart hrestart
      rw [hrestart] at h
      exact h
  · cases h

/-- What a new source starts from: the state it is restored from, or that of a source
    which has handed out no number. -/
theorem new_cases {config : RuntimeAcquisitionConfig} {clock : Option Duration}
    {system : RuntimeSystem} (h : newRuntimeAcquisitionSource config clock = .ok system) :
    validateRuntimeAcquisitionConfig config clock = none ∧
      ∃ restart, validateRuntimeRestart restart config.limits = none ∧
        (∀ state, config.restart = some state → restart = state) ∧ system =
          { source :=
              { limits := config.limits, claimLifetime := config.claimLifetime
                nextTerminalSequence := restart.nextTerminalSequence
                sequenceExhausted := restart.sequenceExhausted
                tombstones := restart.tombstones }
            records := restart.tombstones.reverse } := by
  unfold newRuntimeAcquisitionSource at h
  split at h
  · cases h
  next hvalid =>
  obtain ⟨hbounds, -, hrestart⟩ := config_cases hvalid
  refine ⟨hvalid, ?_⟩
  split at h
  · next hnone =>
    have hlimit := (hbounds (config.limits.capabilityTombstoneLimit, maxRuntimeTombstones)
      (by simp [RuntimeAcquisitionLimits.positiveBounded])).1
    refine ⟨{ schemaVersion := 1, nextTerminalSequence := 1, sequenceExhausted := false
              tombstones := [] }, ?_, ?_, (Except.ok.inj h).symm⟩
    · simp [validateRuntimeRestart, checkRestartTombstones, Int.le_of_lt hlimit]
    · exact fun state hstate => nomatch hnone.symm.trans hstate
  · next restart hsome =>
    exact ⟨restart, hrestart restart hsome,
      fun _ hstate => Option.some.inj (hsome.symm.trans hstate), (Except.ok.inj h).symm⟩

theorem sound_new {config : RuntimeAcquisitionConfig} {clock : Option Duration}
    {system : RuntimeSystem} (h : newRuntimeAcquisitionSource config clock = .ok system) :
    Sound system := by
  obtain ⟨hvalid, restart, -, -, rfl⟩ := new_cases h
  have hbounds := (config_cases hvalid).1
  have hcapabilities := hbounds (config.limits.maxLiveCapabilities, maxRuntimeCapabilities)
    (by simp [RuntimeAcquisitionLimits.positiveBounded])
  have hcount := hbounds (config.limits.maxAttempts, maxRuntimeAttempts)
    (by simp [RuntimeAcquisitionLimits.positiveBounded])
  have hmembers := hbounds (config.limits.maxMembersPerAttempt, maxRuntimeMembersPerAttempt)
    (by simp [RuntimeAcquisitionLimits.positiveBounded])
  exact ⟨hmembers.2, (fun _ _ h => nomatch h), (fun _ _ h => nomatch h), (fun _ _ h => nomatch h),
    (fun _ _ _ _ h => nomatch h), (fun _ _ h => nomatch h), (fun _ _ h => nomatch h),
    (fun _ _ h => nomatch h), Int.le_of_lt hcapabilities.1, Int.le_of_lt hcount.1⟩

theorem sound_step {system : RuntimeSystem} (hsound : Sound system) (call : RuntimeCall) :
    Sound (system.step call).2 :=
  hsound.changes (step_changes hsound call)

section Kept

variable {system : RuntimeSystem} (holds : RuntimeSystem → Prop)
  (hkept : ∀ freezes before after, Sound before → Change freezes before after → holds before →
    holds after) (hsound : Sound system) (h : holds system)
include hkept hsound h

theorem step_kept (call : RuntimeCall) : holds (system.step call).2 := by
  have hchanges := step_changes hsound call
  generalize (system.step call).2 = after at hchanges
  induction hchanges with
  | refl => exact h
  | tail hfirst hlast ih => exact hkept _ _ _ (hsound.changes hfirst) hlast ih

theorem run_kept (calls : List RuntimeCall) : holds (system.run calls) := by
  induction calls generalizing system with
  | nil => exact h
  | cons call rest ih => exact ih (sound_step hsound call) (step_kept holds hkept hsound h call)

end Kept

theorem sound_run {system : RuntimeSystem} (hsound : Sound system) (calls : List RuntimeCall) :
    Sound (system.run calls) :=
  run_kept Sound (fun _ _ _ _ hchange hbefore => hbefore.change hchange) hsound hsound calls

end RuntimeSystem

end HelianthusModbus
