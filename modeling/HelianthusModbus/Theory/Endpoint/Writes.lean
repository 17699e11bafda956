import HelianthusModbus.Theory.Endpoint.Owners
import HelianthusModbus.Theory.Endpoint.Programs

/-!
# A Write Never Stops Half-Way

One transport write, followed from its start to its return among everything else that
happens to the endpoint.

The write turns its request through the stages of a reservation. Before the invocation the
request is reserved, and every way out gives it back. The mark of the invocation turns it
to the invoked stage, from which recording the result of the write settles it, and then
nothing turns it any more. What is beside the write keeps each of these stages, so the
assertions between its regions are stable.

The operation of the write tells the same story about cancellations. Before the mark it
has recorded no invocation; until the socket returns, every event it records is an
interruption, and the first of them decides its state; after it was stopped it records
nothing more.

## Main definitions

* `TransportOperation.Unwritten`, `InWrite`, `Written`: The phases of an operation.
* `TransportWrite.Reserved`, `Invoked`, `Returned`, `Done`: The assertions of a write.
* `TransportWrite.Ready`, `TransportWrite.Settled`: Where a write starts and ends.

## Theorems

* `TransportWrite.ensures_done`: Every write ends well.
* `write_settles`: The same for every run beside anything else.
-/

namespace HelianthusModbus

/-- A cancellation or the deadline came first. -/
def OperationState.won : OperationState → Bool
  | .cancelledDuringIo => true
  | .timedOutDuringIo => true
  | _ => false

/-- The socket returned first. -/
def OperationState.completed : OperationState → Bool
  | .returned => true
  | .returnedThenCancelled => true
  | .returnedThenTimedOut => true
  | _ => false

namespace TransportOperation

variable {operation : TransportOperation}

/-- No write was invoked. -/
def Unwritten (operation : TransportOperation) : Prop := .writeInvocation ∉ operation.events

/-- The write is in the socket. The first interruption decides the state. -/
def InWrite (operation : TransportOperation) : Prop :=
  ∃ before during, operation.events = before ++ .writeInvocation :: during ∧
    .writeInvocation ∉ before ∧ (∀ event ∈ during, event.interrupts = true) ∧
    ((operation.state = .invoked ∧ during = []) ∨ (operation.state.won = true ∧ during ≠ []))

/-- The socket has returned. What is recorded after that does not count. -/
def Written (operation : TransportOperation) : Prop :=
  ∃ before during late,
    operation.events = before ++ .writeInvocation :: (during ++ .writeReturn :: late) ∧
    .writeInvocation ∉ before ∧ (∀ event ∈ during, event.interrupts = true) ∧
    ((operation.state.completed = true ∧ during = []) ∨
      (operation.state.won = true ∧ during ≠ []))

theorem interrupts_event (source : Interruption) : source.event.interrupts = true := by
  cases source <;> rfl

/-- Once a cancellation won, another one does not change that. -/
theorem won_target (source : Interruption) {state : OperationState} (h : state.won = true) :
    (source.target state).won = true := by
  cases state <;> cases source <;> first | rfl | cases h

theorem completed_target (source : Interruption) {state : OperationState}
    (h : state.completed = true) : (source.target state).completed = true := by
  cases state <;> cases source <;> first | rfl | cases h

/-- An interruption either does nothing or cancels. -/
theorem interrupt_of {motive : TransportOperation → Prop} (source : Interruption)
    (hsame : motive operation) (hcancel : motive (operation.cancel source)) :
    motive (operation.interrupt source) := by
  unfold interrupt
  split
  · exact hsame
  · exact hcancel

theorem interrupt_stopped (h : operation.stopped = true) (source : Interruption) :
    operation.interrupt source = operation :=
  if_pos (Or.inl h)

theorem Unwritten.interrupt (h : operation.Unwritten) (source : Interruption) :
    (operation.interrupt source).Unwritten := by
  refine interrupt_of source h fun hmem => ?_
  rcases List.mem_append.mp hmem with hmem | hmem
  · exact h hmem
  · cases source <;> simp [Interruption.event] at hmem

theorem dropWhile_before {before : List OperationEvent} (h : .writeInvocation ∉ before)
    (rest : List OperationEvent) :
    (before ++ rest).dropWhile (fun event => decide (event ≠ .writeInvocation)) =
      rest.dropWhile fun event => decide (event ≠ .writeInvocation) := by
  refine List.dropWhile_append_of_pos fun event hevent => decide_eq_true ?_
  rintro rfl
  exact h hevent

theorem Unwritten.raced_eq (h : operation.Unwritten) : operation.raced = false := by
  unfold raced duringWrite
  rw [← List.append_nil operation.events, dropWhile_before h]
  rfl

theorem Unwritten.beginInvocation (h : operation.Unwritten) :
    (operation.beginInvocation true).InWrite :=
  ⟨operation.events, [], rfl, h, nofun, Or.inl ⟨rfl, rfl⟩⟩

theorem InWrite.interrupt (h : operation.InWrite) (source : Interruption) :
    (operation.interrupt source).InWrite := by
  refine interrupt_of source h ?_
  rcases h with ⟨before, during, hevents, hbefore, hduring, hstate⟩
  refine ⟨before, during ++ [source.event], ?_, hbefore, ?_, Or.inr ⟨?_, ?_⟩⟩
  · simp [cancel, hevents]
  · intro event hevent
    rcases List.mem_append.mp hevent with hevent | hevent
    · exact hduring event hevent
    · rw [List.mem_singleton.mp hevent]
      exact interrupts_event source
  · show (source.target operation.state).won = true
    -- The first interruption finds the invoked state, a later one a state that was won.
    rcases hstate with ⟨hinvoked, _⟩ | ⟨hwon, _⟩
    · rw [hinvoked]
      cases source <;> rfl
    · exact won_target source hwon
  · exact List.append_ne_nil_of_right_ne_nil _ (List.cons_ne_nil _ _)

theorem InWrite.markReturn (h : operation.InWrite) : operation.markReturn.Written := by
  rcases h with ⟨before, during, hevents, hbefore, hduring, hstate⟩
  refine ⟨before, during, [], ?_, hbefore, hduring, ?_⟩
  · simp [TransportOperation.markReturn, hevents]
  · rcases hstate with ⟨hinvoked, hnone⟩ | ⟨hwon, hsome⟩
    · refine Or.inl ⟨?_, hnone⟩
      simp [TransportOperation.markReturn, hinvoked, OperationState.completed]
    · refine Or.inr ⟨?_, hsome⟩
      have hne : operation.state ≠ .invoked := by
        intro heq
        rw [heq] at hwon
        cases hwon
      simp [TransportOperation.markReturn, hne, hwon]

theorem Written.interrupt (h : operation.Written) (source : Interruption) :
    (operation.interrupt source).Written := by
  refine interrupt_of source h ?_
  rcases h with ⟨before, during, late, hevents, hbefore, hduring, hstate⟩
  refine ⟨before, during, late ++ [source.event], ?_, hbefore, hduring, ?_⟩
  · simp [cancel, hevents]
  · exact hstate.imp (And.imp_left (completed_target source)) (And.imp_left (won_target source))

theorem Written.stopAndJoin (h : operation.Written) (late : List Interruption) :
    (operation.stopAndJoin late).Written := by
  suffices hlate : (late.foldl TransportOperation.interrupt operation).Written from hlate
  induction late generalizing operation with
  | nil => exact h
  | cons source rest ih => exact ih (h.interrupt source)

theorem Written.raced_eq (h : operation.Written) : operation.raced = operation.state.won := by
  rcases h with ⟨before, during, late, hevents, hbefore, hduring, hstate⟩
  have hwrite : operation.duringWrite = during := by
    unfold duringWrite
    rw [hevents, dropWhile_before hbefore]
    show (during ++ .writeReturn :: late).takeWhile _ = during
    rw [List.takeWhile_append_of_pos]
    · exact List.append_nil during
    · intro event hevent
      refine decide_eq_true ?_
      rintro rfl
      cases hduring _ hevent
  unfold raced
  rw [hwrite]
  rcases hstate with ⟨hcompleted, rfl⟩ | ⟨hwon, hsome⟩
  · cases hs : operation.state <;> rw [hs] at hcompleted <;> first | rfl | cases hcompleted
  · rw [hwon, List.any_eq_true]
    rcases List.exists_mem_of_ne_nil during hsome with ⟨event, hevent⟩
    exact ⟨event, hevent, hduring event hevent⟩

theorem ended_won (operation : TransportOperation) :
    operation.ended.cancellationWonDuringIo = operation.state.won := by
  unfold ended
  cases operation.state <;> rfl

end TransportOperation

/-- The regions that neither move the request of a write on nor end its socket call. -/
def Region.quiet : Region → Bool
  | .observe .socketWrite => false
  | .owner _ (.markWriteInvoked _) => false
  | .owner _ (.recordTransmit ..) => false
  | _ => true

theorem WriteRun.region_cases {region : Region} {input : Input} {run after : WriteRun}
    {reply : region.Reply} (h : run.region region input = some (reply, after)) :
    ∃ shared, region.exec input run.shared = some (reply, shared) ∧
      after = { run with shared := shared } := by
  unfold WriteRun.region at h
  rw [Option.map_eq_some_iff] at h
  rcases h with ⟨done, hexec, hdone⟩
  cases hdone
  exact ⟨done.2, hexec, rfl⟩

theorem WriteRun.quiet_cases {region : Region} {input : WriteInput} {run after : WriteRun}
    {reply : region.Reply} (hquiet : region.quiet = true)
    (h : WriteRun.perform region input run = some (reply, after)) :
    ∃ outside shared, region.exec outside run.shared = some (reply, shared) ∧
      after = { run with shared := shared } := by
  unfold WriteRun.perform at h
  -- The first three regions are those that are not quiet.
  split at h
  · cases hquiet
  · cases hquiet
  · cases hquiet
  · exact ⟨_, WriteRun.region_cases h⟩

namespace TransportWrite

variable (write : TransportWrite)

/-- The request is reserved, and its group, if there is one, holds the reservation. -/
def Reserved (run : WriteRun) : Prop :=
  ∃ owner, run.shared.Carries write.connection write.reservation .reserved owner ∧
    (∀ id, write.group = some id → ∃ group, run.shared.system.groups.lookup id = some group ∧
      group.Holds write.reservation owner) ∧
    run.operation.Unwritten ∧ run.classified = none

/-- The write is in the socket. -/
def Invoked (run : WriteRun) : Prop :=
  (∃ owner, run.shared.Carries write.connection write.reservation .invoked owner) ∧
    run.operation.InWrite

/-- The socket has returned and the operation is over. -/
def Returned (ended : OperationEnd) (run : WriteRun) : Prop :=
  (∃ owner, run.shared.Carries write.connection write.reservation .invoked owner) ∧
    run.operation.stopped = true ∧ ended.cancellationWonDuringIo = run.operation.raced

/-- The request is settled, and the classification agrees with the events. -/
def Done (run : WriteRun) : Prop :=
  (∃ owner, run.shared.Carries write.connection write.reservation .settled owner) ∧
    (run.classified = some .cancellationRace ↔ run.operation.raced = true) ∧
    (run.operation.stopped = true ∨ run.operation.Unwritten)

/-- A program of the write takes one assertion to another, whatever happens beside it. -/
abbrev Leads {α : Type} (pre : WriteRun → Prop) (p : Action α) (post : α → WriteRun → Prop) :
    Prop :=
  Ensures WriteRun.perform write.others pre p post

/-- A region does not mark the request of the write. -/
def Unmarked (region : Region) : Prop :=
  ∀ other, region = .owner write.connection (.markWriteInvoked other) →
    other.physicalRequestID ≠ write.reservation.physicalRequestID

variable {write} {run : WriteRun} {region : Region} {input : Input} {shared : EndpointState}
  {reply : region.Reply}

/-- A region that is not the write's own does not mark its request. -/
theorem unmarked_of_owns (howns : write.owns region = false) : write.Unmarked region := by
  rintro other rfl hsame
  simp [owns, hsame] at howns

theorem unmarked_of_quiet (hquiet : region.quiet = true) : write.Unmarked region := by
  rintro other rfl
  cases hquiet

/-- What the region of another leaves of a reserved request and its group. -/
theorem Reserved.beside (h : write.Reserved run)
    (hexec : region.exec input run.shared = some (reply, shared))
    (howns : write.owns region = false) : write.Reserved { run with shared := shared } := by
  rcases h with ⟨owner, hcarries, hgroups, hoperation, hclassified⟩
  rcases hcarries.unmarked hexec (unmarked_of_owns howns) with ⟨changed, hchanged⟩
  refine ⟨changed, hchanged, fun id hid => ?_, hoperation, hclassified⟩
  rcases hgroups id hid with ⟨group, hlook, hholds⟩
  by_cases hown : ∃ op, region = .group id op
  · rcases hown with ⟨op, rfl⟩
    have hbegin : ∀ transport, op ≠ .beginWrite transport := by
      rintro transport rfl
      simp [owns, hid] at howns
    have hfail : op ≠ .transition .finishWriteFailure := by
      rintro rfl
      simp [owns, hid] at howns
    rcases hcarries.groupOp hlook hholds hexec hbegin hfail with
      ⟨changed', kept, hlook', hkept, hholds'⟩
    rw [hchanged.look, Option.some.injEq] at hlook'
    rw [← hlook'] at hholds'
    exact ⟨kept, hkept, hholds'⟩
  · -- The group stays as it is, and a request that is gone stays gone.
    have hsame : group.Holds write.reservation changed := by
      refine hholds.same (.refl group) rfl fun hcompleted => ?_
      have hgone : run.shared.Carries write.connection write.reservation .gone owner :=
        ⟨hcarries.orderly, hcarries.look, hcarries.issued, hholds.gone hcompleted⟩
      rcases hgone.last (Or.inr rfl) hexec with ⟨changed', hgone'⟩
      have heq := hchanged.look.symm.trans hgone'.look
      rw [Option.some.injEq] at heq
      rw [heq]
      exact hgone'.at_stage
    refine ⟨group, ?_, hsame⟩
    rcases (Region.exec_step hexec).groups with ⟨hafter, _⟩ | ⟨_, hafter, _⟩ |
      ⟨id', op, _, _, hregion, _, hafter, _⟩
    · rw [hafter]
      exact hlook
    · have hpast := hcarries.orderly.groups id group hlook
      rw [hafter, AList.lookup_insert_ne (Nat.ne_of_lt hpast)]
      exact hlook
    · have hne : id ≠ id' := by
        rintro rfl
        exact hown ⟨op, hregion⟩
      rw [hafter, AList.lookup_insert_ne hne]
      exact hlook

theorem Invoked.beside (h : write.Invoked run)
    (hexec : region.exec input run.shared = some (reply, shared))
    (hunmarked : write.Unmarked region) : write.Invoked { run with shared := shared } := by
  rcases h with ⟨⟨owner, hcarries⟩, hoperation⟩
  exact ⟨hcarries.unmarked hexec hunmarked, hoperation⟩

theorem Returned.beside {ended : OperationEnd} (h : write.Returned ended run)
    (hexec : region.exec input run.shared = some (reply, shared))
    (hunmarked : write.Unmarked region) : write.Returned ended { run with shared := shared } := by
  rcases h with ⟨⟨owner, hcarries⟩, htold⟩
  exact ⟨hcarries.unmarked hexec hunmarked, htold⟩

theorem Done.beside (h : write.Done run)
    (hexec : region.exec input run.shared = some (reply, shared)) :
    write.Done { run with shared := shared } := by
  rcases h with ⟨⟨owner, hcarries⟩, htold⟩
  exact ⟨hcarries.last (Or.inl rfl) hexec, htold⟩

section Stable

/-- What the rest of the endpoint keeps is kept by interruptions and by regions. -/
theorem stable_of {assertion : WriteRun → Prop}
    (hinterrupt : ∀ run source, assertion run →
      assertion { run with operation := run.operation.interrupt source })
    (hregion : ∀ run (region : Region) input (reply : region.Reply) shared, assertion run →
      region.exec input run.shared = some (reply, shared) → write.owns region = false →
      assertion { run with shared := shared }) : Stable write.others assertion := by
  intro env run after h hmove
  cases env with
  | interrupt source =>
    cases hmove
    exact hinterrupt run source h
  | region region input =>
    simp only [others] at hmove
    split at hmove
    · cases hmove
    · next howns =>
      rw [Option.map_eq_some_iff] at hmove
      rcases hmove with ⟨⟨reply, run'⟩, hexec, rfl⟩
      rcases WriteRun.region_cases hexec with ⟨shared, hshared, rfl⟩
      rw [Bool.not_eq_true] at howns
      exact hregion run region input reply shared h hshared howns

theorem stable_reserved : Stable write.others write.Reserved := by
  refine stable_of (fun run source h => ?_) fun run region input reply shared h hexec howns => ?_
  · rcases h with ⟨owner, hcarries, hgroups, hoperation, hclassified⟩
    exact ⟨owner, hcarries, hgroups, hoperation.interrupt source, hclassified⟩
  · exact h.beside hexec howns

theorem stable_invoked : Stable write.others write.Invoked := by
  refine stable_of (fun run source h => ?_) fun run region input reply shared h hexec howns => ?_
  · exact ⟨h.1, h.2.interrupt source⟩
  · exact h.beside hexec (unmarked_of_owns howns)

theorem stable_returned (ended : OperationEnd) : Stable write.others (write.Returned ended) := by
  refine stable_of (fun run source h => ?_) fun run region input reply shared h hexec howns => ?_
  · rcases h with ⟨hcarries, hstopped, hended⟩
    rw [TransportOperation.interrupt_stopped hstopped]
    exact ⟨hcarries, hstopped, hended⟩
  · exact h.beside hexec (unmarked_of_owns howns)

theorem stable_done : Stable write.others write.Done := by
  refine stable_of (fun run source h => ?_) fun run region input reply shared h hexec _ => ?_
  · rcases h with ⟨hcarries, htold, hstopped | hunwritten⟩
    · rw [TransportOperation.interrupt_stopped hstopped]
      exact ⟨hcarries, htold, Or.inl hstopped⟩
    · refine ⟨hcarries, ?_, Or.inr (hunwritten.interrupt source)⟩
      rw [htold, hunwritten.raced_eq, (hunwritten.interrupt source).raced_eq]
  · exact h.beside hexec

end Stable

section Quiet

variable {α : Type} {next : region.Reply → Action α} {post : α → WriteRun → Prop}

/-- A quiet region of the write keeps what regions of others keep. -/
theorem leads_quiet {assertion : WriteRun → Prop} (hstable : Stable write.others assertion)
    (hquiet : region.quiet = true)
    (hbeside : ∀ {run input shared} {reply : region.Reply}, assertion run →
      region.exec input run.shared = some (reply, shared) → assertion { run with shared := shared })
    (hnext : ∀ reply, write.Leads assertion (next reply) post) :
    write.Leads assertion (.act region next) post := by
  refine .act region next (fun _ => assertion) hstable ?_ hnext
  intro input run reply after h hexec
  rcases WriteRun.quiet_cases hquiet hexec with ⟨_, shared, hshared, rfl⟩
  exact hbeside h hshared

theorem Reserved.quiet (hquiet : region.quiet = true) (howns : write.owns region = false)
    (hnext : ∀ reply, write.Leads write.Reserved (next reply) post) :
    write.Leads write.Reserved (.act region next) post :=
  leads_quiet stable_reserved hquiet (fun h hexec => h.beside hexec howns) hnext

theorem Invoked.quiet (hquiet : region.quiet = true)
    (hnext : ∀ reply, write.Leads write.Invoked (next reply) post) :
    write.Leads write.Invoked (.act region next) post :=
  leads_quiet stable_invoked hquiet (fun h hexec => h.beside hexec (unmarked_of_quiet hquiet)) hnext

theorem Returned.quiet {ended : OperationEnd} (hquiet : region.quiet = true)
    (hnext : ∀ reply, write.Leads (write.Returned ended) (next reply) post) :
    write.Leads (write.Returned ended) (.act region next) post :=
  leads_quiet (stable_returned ended) hquiet
    (fun h hexec => h.beside hexec (unmarked_of_quiet hquiet)) hnext

end Quiet

theorem Done.keep {α : Type} {p : Action α} (huses : p.Uses fun region => region.quiet = true) :
    Ensures WriteRun.perform write.others write.Done p fun _ => write.Done := by
  refine .keep huses stable_done ?_ fun _ _ h => h
  intro region input run reply after hquiet h hexec
  rcases WriteRun.quiet_cases hquiet hexec with ⟨_, shared, hshared, rfl⟩
  exact h.beside hshared

theorem closing_quiet :
    Closing fun _ p => Prog.Uses (fun region : Region => region.quiet = true) p where
  toProgramClass := Prog.Uses.programClass _
  conclude := fun _ _ _ => ⟨rfl, fun _ => trivial⟩
  giveDependents := fun _ _ => ⟨rfl, fun _ => trivial⟩
  forgetCoalesced := fun _ _ => ⟨rfl, fun _ => trivial⟩
  finish := fun _ => ⟨rfl, fun _ => trivial⟩
  closeTerminal := fun _ => ⟨rfl, fun _ => trivial⟩
  closeDetached := fun _ => ⟨rfl, fun _ => trivial⟩
  takePoolSlot := fun _ => ⟨rfl, fun _ => trivial⟩
  closeOwner := fun _ => ⟨rfl, fun _ => trivial⟩
  removeLease := fun _ => ⟨rfl, fun _ => trivial⟩

theorem Reserved.done (h : write.Reserved run) {owner : TCPConnectionOwner}
    (hgone : shared.Carries write.connection write.reservation .gone owner) :
    write.Done { run with shared := shared } := by
  rcases h with ⟨_, _, _, hoperation, hclassified⟩
  refine ⟨⟨owner, hgone.orderly, hgone.look, hgone.issued, hgone.at_stage.of_gone .settled⟩, ?_,
    Or.inr hoperation⟩
  rw [hclassified, hoperation.raced_eq]
  exact ⟨nofun, nofun⟩

/-- What follows the first attempt to give the reservation back. -/
theorem uses_releasePreWrite {connection generation : Nat} {reservation : TCPReservation} :
    (releasePreWrite connection generation reservation).Uses
      fun region => region.quiet = true := by
  refine ⟨rfl, fun err => .ite _ trivial ⟨rfl, fun found => ?_⟩⟩
  cases found with
  | none => trivial
  | some canonical =>
    refine .ite _ ⟨rfl, fun _ => trivial⟩ ⟨rfl, fun current => ?_⟩
    refine .ite _ (mem_closeTerminal closing_quiet _) ?_
    exact closing_quiet.bind _ _ (mem_closeOwner closing_quiet _) fun _ => trivial

/-- Giving the reservation back ends the write well. -/
theorem ensures_releasePreWrite :
    write.Leads write.Reserved
      (releasePreWrite write.connection write.generation write.reservation)
      fun _ => write.Done := by
  refine .act (.owner write.connection (.cancelBeforeWrite write.reservation)) _
    (fun _ => write.Done) stable_reserved ?_ fun err => Done.keep (uses_releasePreWrite.2 err)
  intro input run err after h hexec
  rcases WriteRun.quiet_cases rfl hexec with ⟨_, shared, hshared, rfl⟩
  rcases id h with ⟨owner, hcarries, _⟩
  rcases hcarries.ownerOp hshared with ⟨_, horderly, _, hlook⟩
  exact h.done ⟨horderly, hlook,
    hcarries.issued.operate (.call (.cancelBeforeWrite write.reservation)),
    hcarries.at_stage.cancelBeforeWrite hcarries.issued⟩

theorem ensures_giveUpReservation (err : Err) :
    write.Leads write.Reserved
      (giveUpReservation write.connection write.generation write.reservation err)
      fun _ => write.Done :=
  .bind _ ensures_releasePreWrite fun _ => Done.keep trivial

theorem classifyNetWrite_race (expected written : Nat) (writeErr : Option Bool) (won : Bool) :
    classifyNetWrite expected written writeErr won = .cancellationRace ↔ won = true := by
  unfold classifyNetWrite
  cases won with
  | true => simp
  | false =>
    simp only [Bool.false_eq_true, if_false, iff_false]
    repeat' split
    all_goals exact nofun

/-- After the invocation the result of the socket call settles the request. -/
theorem ensures_performInvokedWrite (size : Nat) :
    write.Leads write.Invoked
      (performInvokedWrite write.config write.connection write.reservation size)
      fun _ => write.Done := by
  refine .act (Region.observe .socketWrite) _ (fun io : Input => write.Returned io.ended)
    stable_invoked ?_ fun io => ?_
  · intro input run io after h hexec
    simp only [WriteRun.perform, Option.some.injEq, Prod.mk.injEq] at hexec
    rcases hexec with ⟨rfl, rfl⟩
    refine ⟨h.1, rfl, ?_⟩
    rw [TransportOperation.ended_won]
    exact ((h.2.markReturn.stopAndJoin input.late).raced_eq).symm
  refine Returned.quiet rfl fun _ => ?_
  refine Returned.quiet rfl fun clock => ?_
  refine .act (.owner write.connection (.recordTransmit write.reservation
    (classifyNetWrite size io.written io.writeErr io.ended.cancellationWonDuringIo) _)) _
    (fun _ => write.Done) (stable_returned io.ended) ?_ fun recorded => Done.keep ?_
  · intro input run recorded after h hexec
    rcases h with ⟨⟨owner, hcarries⟩, hstopped, hended⟩
    simp only [WriteRun.perform, Option.map_eq_some_iff] at hexec
    rcases hexec with ⟨⟨reply, run'⟩, hregion, hdone⟩
    rcases WriteRun.region_cases hregion with ⟨shared, hshared, rfl⟩
    cases hdone
    rcases hcarries.ownerOp hshared with ⟨_, horderly, _, hlook⟩
    refine ⟨⟨_, horderly, hlook, hcarries.issued.operate (.call (.recordTransmit _ _ _)),
      hcarries.at_stage.recordTransmitUntil hcarries.issued _ _⟩, ?_, Or.inl hstopped⟩
    rw [Option.some.injEq, classifyNetWrite_race, hended]
  · refine ⟨rfl, fun _ => ?_⟩
    refine closing_quiet.bind (abandonWritten _ _ _ _ _) _ ?_ fun abandoned => ?_
    · exact .ite _ ⟨rfl, fun _ => trivial⟩ trivial
    refine closing_quiet.bind (closeAfterWrite _ _ _) _ ?_ fun closed => .ite _ trivial trivial
    exact .ite _ ⟨rfl, fun _ => mem_closeTerminal closing_quiet _⟩ trivial

/-- The mark turns the request on, or leaves it reserved. -/
theorem ensures_mark {α : Type} {next : Err → Action α} {post : α → WriteRun → Prop}
    (hok : write.Leads write.Invoked (next []) post)
    (hfail : ∀ err, err ≠ [] →
      write.Leads write.Reserved (next err) post) :
    write.Leads write.Reserved
      (.act (.owner write.connection (.markWriteInvoked write.reservation)) next) post := by
  refine .act (Region.owner write.connection (.markWriteInvoked write.reservation)) _
    (fun (err : Err) run => if err = [] then write.Invoked run else write.Reserved run)
    stable_reserved ?_ fun err => ?_
  · intro input run err after h hexec
    rcases h with ⟨owner, hcarries, hgroups, hoperation, hclassified⟩
    simp only [WriteRun.perform] at hexec
    split at hexec
    · cases hexec
    rw [Option.map_eq_some_iff] at hexec
    rcases hexec with ⟨⟨reply, run'⟩, hregion, hdone⟩
    rcases WriteRun.region_cases hregion with ⟨shared, hshared, rfl⟩
    cases hdone
    rcases hcarries.ownerOp hshared with ⟨hreply, horderly, hsystem, hlook⟩
    have hissued := hcarries.issued.operate (.call (.markWriteInvoked write.reservation))
    have hstage := hcarries.at_stage.markWriteInvoked hcarries.issued
    -- A refused mark leaves the owner as it was.
    cases hmarked : (owner.markWriteInvoked write.reservation).1 with
    | none =>
      have hempty : reply = ([] : Err) := by
        rw [hreply]
        exact congrArg Err.ofOption hmarked
      rw [if_pos hempty, hempty]
      rw [if_pos hmarked] at hstage
      exact ⟨⟨_, horderly, hlook, hissued, hstage⟩, hoperation.beginInvocation⟩
    | some refused =>
      have hrefused : reply ≠ ([] : Err) := by
        rw [hreply]
        show Err.ofOption (owner.markWriteInvoked write.reservation).1 ≠ []
        rw [hmarked]
        exact nofun
      have hsame : (owner.markWriteInvoked write.reservation).2 = owner :=
        TCPReservation.markWriteInvoked_refused (by rw [hmarked]; exact nofun)
      have hlook' : shared.owners.lookup write.connection = some owner :=
        hlook.trans (congrArg some hsame)
      rw [if_neg hrefused, decide_eq_false hrefused]
      refine ⟨owner, ⟨horderly, hlook', hcarries.issued, hcarries.at_stage⟩, ?_, hoperation,
        hclassified⟩
      intro id hid
      rw [hsystem]
      exact hgroups id hid
  · by_cases herr : err = []
    · subst herr
      exact hok.weaken fun run h => by simpa using h
    · exact (hfail err herr).weaken fun run h => by simpa [herr] using h

theorem ensures_writeReservationGated (identity : TCPConnectionOwner.ReservationWireIdentity) :
    write.Leads write.Reserved
      (writeReservationGated write.config write.connection write.generation write.reservation
        identity) fun _ => write.Done := by
  refine Reserved.quiet rfl rfl fun current => ?_
  refine .ite _ (fun _ => ensures_giveUpReservation _) fun _ => ?_
  refine Reserved.quiet rfl rfl fun (io : Input) => ?_
  dsimp only [Prog.bind]
  cases io.interrupted with
  | some cause => exact ensures_giveUpReservation _
  | none =>
    refine Reserved.quiet rfl rfl fun encoded => ?_
    cases encoded with
    | error err => exact ensures_giveUpReservation _
    | ok encoded =>
      refine .ite _ (fun _ => ensures_giveUpReservation _) fun _ => ?_
      refine Reserved.quiet rfl rfl fun _ => Reserved.quiet rfl rfl fun (io : Input) => ?_
      dsimp only [Prog.bind]
      cases io.interrupted with
      | some cause => exact ensures_giveUpReservation _
      | none =>
        refine ensures_mark ?_ fun err herr => ?_
        · exact Invoked.quiet rfl fun _ => ensures_performInvokedWrite _
        · exact .ite _ (fun _ => ensures_giveUpReservation _) fun hempty => absurd herr hempty

theorem ensures_writeReservationUntil :
    write.Leads write.Reserved
      (writeReservationUntil write.config write.connection write.generation write.reservation)
      fun _ => write.Done := by
  refine .act (Region.owner write.connection (.wireIdentity write.reservation)) _
    (fun (found : Except Err TCPConnectionOwner.ReservationWireIdentity) run =>
      match found with
      | .error _ => write.Done run
      | .ok _ => write.Reserved run) stable_reserved ?_ fun found => ?_
  · intro input run found after h hexec
    rcases WriteRun.quiet_cases rfl hexec with ⟨_, shared, hshared, rfl⟩
    cases found with
    | ok identity => exact h.beside hshared rfl
    | error err =>
      -- The reservation names nothing any more, so its request is gone.
      rcases id h with ⟨owner, hcarries, _⟩
      rcases hcarries.ownerOp hshared with ⟨hreply, horderly, _, hlook⟩
      refine h.done ⟨horderly, hlook, hcarries.issued, ?_⟩
      cases hfound : owner.requestFor write.reservation .reserved with
      | error refused => exact hcarries.at_stage.of_refused hcarries.issued hfound
      | ok request =>
        simp [OwnerOp.exec, TCPConnectionOwner.reservationWireIdentity, hfound,
          Except.mapError] at hreply
  · cases found with
    | error err => exact Done.keep trivial
    | ok identity =>
      refine Reserved.quiet rfl rfl fun _ => Reserved.quiet rfl rfl fun gate => ?_
      cases gate with
      | some cause => exact ensures_giveUpReservation _
      | none =>
        show Ensures _ _ _ (Prog.bind (writeReservationGated _ _ _ _ identity) _) _
        refine .bind _ (ensures_writeReservationGated identity) fun written => ?_
        exact Done.keep ⟨rfl, fun _ => trivial⟩

/-- A failed transport gives the reservation of the group back. -/
theorem ensures_failTransport {id : Nat} (hid : write.group = some id) :
    write.Leads write.Reserved (failTransport id)
      fun _ => write.Done := by
  refine .act (Region.group id (.transition .failTransport)) _ (fun _ => write.Done)
    stable_reserved ?_ fun reply => Done.keep ?_
  · intro input run reply after h hexec
    rcases WriteRun.quiet_cases rfl hexec with ⟨_, shared, hshared, rfl⟩
    have h' := h
    rcases h' with ⟨owner, hcarries, hgroups, _⟩
    rcases hgroups id hid with ⟨group, hlook, hholds⟩
    have horderly := hcarries.orderly.region hshared
    simp only [Region.exec, GroupOp.exec, Option.map_eq_some_iff] at hshared
    rcases hshared with ⟨found, hfree, hdone⟩
    have hfound : found = group :=
      Option.some.inj ((EndpointState.lookup_of_freeGroup hfree).symm.trans hlook)
    have hshared : (run.shared.transitionGroup id found .failTransport).2 = shared :=
      congrArg Prod.snd hdone
    rw [hfound] at hshared
    have howner := (hcarries.transition hholds id .failTransport).1
    rw [hshared] at howner
    exact h.done ⟨horderly, howner,
      (hcarries.at_stage.unmarked hcarries.issued
        (GroupTransition.exec_unmarked .failTransport group owner)).1,
      hholds.failTransport hcarries.issued hcarries.at_stage⟩
  · refine closing_quiet.bind _ _ ?_ fun _ => trivial
    show Prog.Uses _ (Prog.bind (giveBack id reply) _)
    refine closing_quiet.bind _ _ (mem_giveBack closing_quiet.toConcluding id reply) fun _ => ?_
    exact closing_quiet.bind _ _ (mem_finishScheduling closing_quiet.toConcluding id reply)
      fun _ => trivial

theorem ensures_giveUpGroup {id : Nat} (hid : write.group = some id)
    (reservation : Option TCPReservation)
    (hreservation : reservation = none ∨ reservation = some write.reservation) (err : Err) :
    write.Leads write.Reserved
      (giveUpGroup write.connection write.generation id reservation err)
      fun _ => write.Done := by
  refine .bind _ (ensures_failTransport hid) fun groupErr => ?_
  rcases hreservation with rfl | rfl
  · exact Done.keep trivial
  · exact Done.keep (closing_quiet.bind _ _ uses_releasePreWrite fun _ => trivial)

/-- `beginWriteLocked` turns the request on, or leaves it reserved. -/
theorem ensures_beginWriteLocked {id : Nat} :
    write.Leads write.Reserved
      (beginWriteLocked write.connection write.generation id write.reservation)
      fun err run => if err = [] then write.Invoked run else write.Reserved run := by
  have hrefused : ∀ err : Err, err ≠ [] →
      write.Leads write.Reserved (Prog.ret err)
        fun err run => if err = [] then write.Invoked run else write.Reserved run := by
    intro err herr
    refine .ret err stable_reserved fun run h => ?_
    rw [if_neg herr]
    exact h
  refine Reserved.quiet rfl rfl fun err => .ite _ (hrefused err) fun _ => ?_
  refine Reserved.quiet rfl rfl fun err => .ite _ (hrefused err) fun _ => ?_
  refine Reserved.quiet rfl rfl fun err => .ite _ (hrefused err) fun _ => ?_
  refine ensures_mark ?_ fun err herr => ?_
  · refine Invoked.quiet rfl fun _ => .ret [] stable_invoked fun run h => ?_
    rw [if_pos rfl]
    exact h
  · exact .ite _ (fun _ => Reserved.quiet rfl rfl fun _ => hrefused err herr)
      fun hempty => absurd herr hempty

/-- What the preparation of a group's write leaves behind. -/
def Prepared (write : TransportWrite) (run : WriteRun) :
    Except (Option TCPReservation × Err) (TCPReservation × Nat) → Prop
  | .error (reservation, _) =>
    write.Reserved run ∧ (reservation = none ∨ reservation = some write.reservation)
  | .ok (reservation, _) => write.Invoked run ∧ reservation = write.reservation

/-- The preparation reads the reservation of the group, which is the write's. -/
theorem ensures_prepareCoalesced {id : Nat} (hid : write.group = some id) :
    write.Leads write.Reserved
      (prepareCoalesced write.connection write.generation id)
      fun result run => write.Prepared run result := by
  have hleave : ∀ err : Err,
      write.Leads write.Reserved
        (do Action.group id .leaveWrite
            return .error (some write.reservation, err))
        fun result run => write.Prepared run result := by
    intro err
    refine Reserved.quiet rfl rfl fun _ => .ret _ stable_reserved fun run h => ?_
    exact ⟨h, Or.inr rfl⟩
  refine .act (Region.group id (.prepareWrite write.connection write.generation)) _
    (fun (found : Except Err TCPReservation) run =>
      write.Reserved run ∧ ∀ reservation, found = .ok reservation →
        reservation = write.reservation) stable_reserved ?_ fun found => ?_
  · intro input run found after h hexec
    rcases WriteRun.quiet_cases rfl hexec with ⟨_, shared, hshared, rfl⟩
    refine ⟨h.beside hshared rfl, fun reservation hfound => ?_⟩
    rcases h with ⟨owner, hcarries, hgroups, _⟩
    rcases hgroups id hid with ⟨group, hlook, hholds⟩
    simp only [Region.exec, GroupOp.exec, Option.map_eq_some_iff] at hshared
    rcases hshared with ⟨free, hfree, hdone⟩
    have hgroup : free = group :=
      Option.some.inj ((EndpointState.lookup_of_freeGroup hfree).symm.trans hlook)
    subst hgroup
    rw [← hholds.reservation_eq]
    split at hdone
    · cases hdone
      cases hfound
    · next kept hkept =>
      cases hdone
      cases hfound
      unfold CoalescedRead.reservationForTransport at hkept
      split_ifs at hkept
      exact (Except.ok.inj hkept).symm
  · -- From here on every way out but the last gives up the write with the request still reserved.
    cases found with
    | error err => exact .assume fun _ => .ret _ stable_reserved fun run h => ⟨h, Or.inl rfl⟩
    | ok reservation =>
      refine .assume fun hsame => ?_
      obtain rfl := hsame reservation rfl
      refine Reserved.quiet rfl rfl fun encoded => ?_
      cases encoded with
      | error err => exact hleave err
      | ok encoded =>
        refine Reserved.quiet rfl rfl fun _ => Reserved.quiet rfl rfl fun (io : Input) => ?_
        dsimp only [Prog.bind]
        cases io.interrupted with
        | some cause => exact hleave _
        | none =>
          show Ensures _ _ _ (Prog.bind (beginWriteLocked _ _ _ _) _) _
          refine .bind _ ensures_beginWriteLocked fun err => ?_
          refine .ite _ (fun hne => ?_) fun hempty => ?_
          · exact (hleave err).weaken fun run h => by rwa [if_neg hne] at h
          · rw [not_not] at hempty
            refine Ensures.weaken ?_ fun run h => by rwa [if_pos hempty] at h
            refine Invoked.quiet rfl fun _ => .ret _ stable_invoked fun run h => ?_
            exact ⟨h, rfl⟩

theorem ensures_writeCoalescedGated {id : Nat} (hid : write.group = some id) :
    write.Leads write.Reserved
      (writeCoalescedGated write.config write.connection write.generation id)
      fun _ => write.Done := by
  refine Reserved.quiet rfl rfl fun current => ?_
  refine .ite _ (fun _ => ensures_giveUpGroup hid none (Or.inl rfl) _) fun _ => ?_
  refine Reserved.quiet rfl rfl fun (io : Input) => ?_
  dsimp only [Prog.bind]
  cases io.interrupted with
  | some cause => exact ensures_giveUpGroup hid none (Or.inl rfl) _
  | none =>
    show Ensures _ _ _ (Prog.bind (prepareCoalesced _ _ _) _) _
    refine .bind _ (ensures_prepareCoalesced hid) fun prepared => ?_
    cases prepared with
    | error refused =>
      exact .assume fun hreservation => ensures_giveUpGroup hid refused.1 hreservation _
    | ok prepared =>
      rcases prepared with ⟨reservation, size⟩
      refine .assume fun (hsame : reservation = write.reservation) => ?_
      subst hsame
      refine .bind _ (ensures_performInvokedWrite size) fun written => Done.keep ?_
      refine .ite _ trivial ?_
      refine closing_quiet.bind (concludeGroup id .finishWriteFailure) _ ?_ fun _ => ?_
      · exact mem_concludeGroup closing_quiet.toConcluding id _ nofun
      · exact closing_quiet.bind (failTransport id) _
          (mem_failTransport closing_quiet.toConcluding id) fun _ => trivial

theorem ensures_writeCoalescedUntil {id : Nat} (hid : write.group = some id) :
    write.Leads write.Reserved
      (writeCoalescedUntil write.config write.connection write.generation id)
      fun _ => write.Done := by
  refine Reserved.quiet rfl rfl fun _ => Reserved.quiet rfl rfl fun gate => ?_
  cases gate with
  | some cause => exact ensures_giveUpGroup hid none (Or.inl rfl) _
  | none =>
    show Ensures _ _ _ (Prog.bind (writeCoalescedGated _ _ _ id) _) _
    refine .bind _ (ensures_writeCoalescedGated hid) fun written => ?_
    exact Done.keep ⟨rfl, fun _ => trivial⟩

theorem ensures_done (write : TransportWrite) :
    write.Leads write.Reserved write.program fun _ => write.Done := by
  unfold program
  cases hgroup : write.group with
  | none => exact ensures_writeReservationUntil
  | some id => exact ensures_writeCoalescedUntil hgroup

/-- Where a write starts: its request is reserved, and its group, if there is one, is bound
    to the reservation and open. -/
structure Ready (write : TransportWrite) (state : EndpointState) : Prop where
  reserved : ∃ owner request, state.owners.lookup write.connection = some owner ∧
    owner.requestFor write.reservation .reserved = .ok request
  bound : ∀ id, write.group = some id → ∃ group, state.system.groups.lookup id = some group ∧
    group.physicalRequestID = write.reservation.physicalRequestID ∧
    group.owner = write.reservation.owner ∧ group.reservation = write.reservation ∧
    group.writeBegun = false ∧ group.completed = false

/-- Where a write ends: its request is neither reserved nor write-invoked, and an early
    completion of it is left in a closed owner only. -/
def Settled (write : TransportWrite) (state : EndpointState) : Prop :=
  ∃ owner, state.owners.lookup write.connection = some owner ∧
    (∀ t request, owner.inFlight.lookup t = some request →
      request.physicalRequestID = write.reservation.physicalRequestID →
      request.state ≠ .reserved ∧ request.state ≠ .writeInvoked) ∧
    (owner.earlyCompletions.lookup write.reservation.physicalRequestID ≠ none →
      owner.closed = true)

theorem Ready.start {state : EndpointState} (h : write.Ready state) (horderly : state.Orderly) :
    write.Reserved { shared := state } := by
  rcases h.reserved with ⟨owner, request, hlook, hrequest⟩
  rcases TCPReservation.IssuedBy.of_reserved (horderly.owners _ owner hlook).2.2 hrequest with
    ⟨hissued, hreserved⟩
  refine ⟨owner, ⟨horderly, hlook, hissued, hreserved⟩, fun id hid => ?_, nofun, rfl⟩
  rcases h.bound id hid with ⟨group, hgroup, hphysical, howner, hreservation, hbegun, hopen⟩
  refine ⟨group, hgroup, hphysical, howner, hreservation, hbegun, fun hcompleted => ?_⟩
  cases hopen.symm.trans hcompleted

theorem Done.settled (h : write.Done run) : write.Settled run.shared := by
  rcases h.1 with ⟨owner, hcarries⟩
  refine ⟨owner, hcarries.look, fun t request ht hid => ?_, fun hearly => ?_⟩
  · rw [hcarries.at_stage.1 request ⟨⟨t, ht⟩, hid⟩]
    exact ⟨nofun, nofun⟩
  · exact hcarries.at_stage.2.resolve_left hearly

end TransportWrite

/-- A write never leaves its reservation half-way. From any endpoint of a run in which the
    request is reserved, and beside any regions of others and any interruptions, a write
    that returns has settled its request, and it is classified as a cancellation race
    exactly if its operation recorded an interruption between its invocation and its
    return. -/
theorem write_settles (config : TCPEndpointConfig) (start state : EndpointState)
    (hnew : newTCPEndpoint config = .ok start) (before : List (Region × Input))
    (hbefore : Region.run start before = some state) (write : TransportWrite)
    (hready : write.Ready state) (turns : List (Turn WriteInput Disturbance))
    (result : OwnerTransition × Err) (after : WriteRun)
    (hrun : write.program.among WriteRun.perform write.others { shared := state } turns =
      some (.ret result, after)) :
    write.Settled after.shared ∧
      (after.classified = some .cancellationRace ↔ after.operation.raced = true) := by
  have horderly := (EndpointState.Orderly.start hnew).run before hbefore
  have hdone := write.ensures_done.sound turns _ after result (hready.start horderly) hrun
  exact ⟨hdone.settled, hdone.2.1⟩

/-- A small endpoint. -/
def smallEndpoint : TCPEndpointConfig :=
  { endpoint := "endpoint"
    poolLimits :=
      { maxConnections := 1, connection := { maxInFlight := 2, maxTombstones := 2 } }
    schedulerLimits :=
      { maxActiveAdmissionKeys := 1, protectedSlotsPerKey := 1, sharedBurstSlots := 1
        totalQueued := 2, maxQueuedPerKey := 2, maxQueuedPerAuthorizationScope := 2
        maxCoalescedDependentsPerKey := 2, maxRetryAttempts := 1, maxInFlightRequests := 1 }
    backoff :=
      { floor := 1, ceiling := 1, maxAttempts := 1, jitterAlgorithmID := "none"
        jitterVersion := "1", jitterEvidence := "none" }
    maxRequestDeadline := 10
    maxResponseDeadline := 5 }

/-- The write of the first request of the small endpoint. -/
def smallWrite : TransportWrite :=
  { config := smallEndpoint, connection := 1, generation := 1
    reservation :=
      { owner := some 1, transactionID := 0, physicalRequestID := 1, generation := 1
        deadlineOffset := 10 } }

/-- The timer fires while the request is in the socket. -/
def timerInWrite : List (Turn WriteInput Disturbance) :=
  List.replicate 10 (.own {}) ++ .other (.interrupt .internalDeadline) ::
    List.replicate 10 (.own {})

theorem write_settles_timer :
    ∃ run : WriteRun, smallWrite.Settled run.shared ∧
      run.classified = some .cancellationRace ∧ run.operation.raced = true := by
  let opened : List (Region × Input) :=
    [(.table .openConnection, {}),
      (.owner 1 (.reserve 1 (.deviceID { access := 1, objectID := 0 } .strict) 10), {})]
  -- The whole run is evaluated once; the rest reads its parts off.
  have hrun : (newTCPEndpoint smallEndpoint).toOption.any (fun start =>
      (Region.run start opened).any fun state =>
        ((state.owners.lookup 1).any fun owner =>
          (owner.requestFor smallWrite.reservation .reserved).toOption.isSome) &&
        ((smallWrite.program.among WriteRun.perform smallWrite.others { shared := state }
          timerInWrite).any fun ended =>
            (match ended.1 with | .ret _ => true | .act _ _ => false) &&
              decide (ended.2.classified = some .cancellationRace))) = true := by
    decide +kernel
  simp only [Option.any_eq_true, Bool.and_eq_true, decide_eq_true_eq, Option.isSome_iff_exists]
    at hrun
  rcases hrun with ⟨start, hnew, state, hopened, ⟨owner, hlook, request, hrequest⟩,
    ⟨rest, run⟩, hmoves, hret, hrace⟩
  have hok : ∀ {ε α : Type} {x : Except ε α} {a : α}, x.toOption = some a → x = .ok a := by
    intro ε α x a h
    cases x with
    | error err => cases h
    | ok b => exact congrArg Except.ok (Option.some.inj h)
  have hready : smallWrite.Ready state := ⟨⟨owner, request, hlook, hok hrequest⟩, nofun⟩
  cases rest with
  | act region next => cases hret
  | ret result =>
    have hsettled := write_settles smallEndpoint start state (hok hnew) opened hopened smallWrite
      hready timerInWrite result run hmoves
    exact ⟨run, hsettled.1, hrace, hsettled.2.mp hrace⟩

end HelianthusModbus
