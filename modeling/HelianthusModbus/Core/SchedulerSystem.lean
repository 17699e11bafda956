import HelianthusModbus.Core.Scheduler

/-!
# Scheduler and Groups Together

The scheduler and the coalesced groups it admits call each other: a group gives its
slots back as its dependents end, and the scheduler fails the groups whose entries
it drops. This module runs the two as one system.

A group is named by the number it was created under, which stands for its address.
The owner of a group's reservation belongs to a connection and is not part of this
system, so a call that reaches it carries its state at that moment.

## Main definitions

* `EndpointScheduler.releaseDependentCount`, `EndpointScheduler.finishScheduling`:
  What a group tells its scheduler.
* `SchedulerSystem`: A scheduler with every group it admitted.
* `SchedulerCall`: The operations, with everything they read from outside.
* `SchedulerSystem.step`, `SchedulerSystem.run`: One call, and a sequence of calls.
-/

namespace HelianthusModbus

namespace EndpointScheduler

/-- `releaseDependentCount` of a group. -/
def releaseDependentCount (scheduler : EndpointScheduler) (group : CoalescedRead)
    (count : Nat) : EndpointScheduler :=
  if group.scheduled = true ∧ count > 0 then
    scheduler.releaseCoalescedDependents group.admissionKey count
  else scheduler

/-- `finishScheduling` of a group. -/
def finishScheduling (scheduler : EndpointScheduler) (id : Nat) (group : CoalescedRead) :
    Option ProtocolError × EndpointScheduler :=
  if group.scheduled then scheduler.finishCoalesced id else (none, scheduler)

end EndpointScheduler

/-- A scheduler with the groups it admitted. -/
structure SchedulerSystem where
  scheduler : EndpointScheduler
  groups : Table Nat CoalescedRead := ∅
  nextGroup : Nat := 0

/-- One operation. The owner of the group is arbitrary where the operation reaches
    it; `owners` gives it for each group a call may fail. -/
inductive SchedulerCall where
  | enqueue (request : ScheduledRequest)
  | scheduleCoalesced (request : ScheduledRequest) (intents : List ReadIntent)
  | dispatch (nowOffset : Int) (owners : Nat → TCPConnectionOwner)
  | cancelQueued (requestID : Nat) (owners : Nat → TCPConnectionOwner)
  | retry (requestID : Nat) (owners : Nat → TCPConnectionOwner)
  | complete (requestID : Nat)
  | finishCoalesced (group : Nat)
  | setOperationDeadline (group : Nat) (deadline : Duration)
  | bindReservation (group : Nat) (reservation : TCPReservation) (owner : TCPConnectionOwner)
  | beginWrite (group transport generation : Nat) (registered : Option ProtocolError)
      (owner : TCPConnectionOwner)
  | finishWriteFailure (group : Nat)
  | cancel (group logicalViewID : Nat) (owner : TCPConnectionOwner)
  | replaySuccessfulResponse (group : Nat) (response : WireResponse)
  | fail (group : Nat) (response : WireResponse)
  | failTransport (group : Nat) (owner : TCPConnectionOwner)

/-- What a call produced. `scheduling` has every error the scheduler returned once it
    held its lock, also those the source drops, and `accounting` says that a counter
    check failed where the source only answers no. All other errors are in `err`.
    `released` is how many dependents each group gave back to the scheduler. -/
structure SchedulerReply where
  scheduling : List ProtocolError := []
  accounting : Bool := false
  released : Nat → Nat := fun _ => 0
  dispatched : Option ScheduledRequest := none
  views : List LogicalReadView := []
  err : Option ProtocolError := none

namespace SchedulerSystem

/-- The end of a group transition: the group gives back the dependents that ended
    and, if it is completed, leaves the scheduler. -/
def settle (system : SchedulerSystem) (id count : Nat) (completed : Bool)
    (after : CoalescedRead) : List ProtocolError × SchedulerSystem :=
  let released := system.scheduler.releaseDependentCount after count
  let finished := if completed then released.finishScheduling id after else (none, released)
  (finished.1.toList,
    { system with scheduler := finished.2, groups := system.groups.insert id after })

/-- A transition of one group that ends dependents: its error and views, how many
    ended, whether the group leaves the scheduler, and the group afterwards. -/
def conclude (system : SchedulerSystem) (id : Nat)
    (change : CoalescedRead →
      Except ProtocolError (List LogicalReadView) × Nat × Bool × CoalescedRead) :
    SchedulerReply × SchedulerSystem :=
  match system.groups.lookup id with
  | none => ({}, system)
  | some group =>
    let changed := change group
    let settled := system.settle id changed.2.1 changed.2.2.1 changed.2.2.2
    let reply : SchedulerReply :=
      { scheduling := settled.1
        released := fun other =>
          if other = id ∧ changed.2.2.2.scheduled = true then changed.2.1 else 0 }
    match changed.1 with
    | .error err => ({ reply with err := some err }, settled.2)
    | .ok views => ({ reply with views := views }, settled.2)

/-- The answer of a transition that delivers nothing. -/
def answer (err : Option ProtocolError) : Except ProtocolError (List LogicalReadView) :=
  match err with
  | none => .ok []
  | some err => .error err

def failTransport (system : SchedulerSystem) (id : Nat) (owner : TCPConnectionOwner) :
    SchedulerReply × SchedulerSystem :=
  system.conclude id fun group =>
    let failed := group.failTransportLocked owner
    (answer failed.1, failed.2.1, failed.2.2.1.completed, failed.2.2.1)

/-- Failing the groups whose entries the scheduler dropped. -/
def failGroups (owners : Nat → TCPConnectionOwner) :
    List Nat → SchedulerSystem → SchedulerReply × SchedulerSystem
  | [], system => ({}, system)
  | id :: rest, system =>
    let failed := system.failTransport id (owners id)
    let more := failGroups owners rest failed.2
    ({ scheduling := failed.1.scheduling ++ more.1.scheduling
       released := fun group => failed.1.released group + more.1.released group }, more.2)

def scheduleCoalesced (system : SchedulerSystem) (request : ScheduledRequest)
    (intents : List ReadIntent) : SchedulerReply × SchedulerSystem :=
  match EndpointScheduler.validateCoalescedRequest request intents with
  | some err => ({ err := some err }, system)
  | none =>
    match coalesceReads intents system.scheduler.limits.maxCoalescedDependentsPerKey with
    | .error err => ({ err := some err }, system)
    | .ok group =>
      let scheduled := system.scheduler.scheduleCoalescedLocked request intents.length
        system.nextGroup
      match scheduled.1 with
      | some err => ({ scheduling := [err] }, { system with scheduler := scheduled.2 })
      | none =>
        ({}, { scheduler := scheduled.2
               groups := system.groups.insert system.nextGroup
                 { group with scheduled := true, admissionKey := request.key }
               nextGroup := system.nextGroup + 1 })

/-- `beginWriteLocked`. The transport's answer to the registration is `registered`. -/
def beginWrite (system : SchedulerSystem) (id transport generation : Nat)
    (registered : Option ProtocolError) (owner : TCPConnectionOwner) :
    SchedulerReply × SchedulerSystem :=
  match system.groups.lookup id with
  | none => ({}, system)
  | some group =>
    let dispatched :=
      if group.scheduled then system.scheduler.requireCoalescedDispatch id else none
    let invoked := owner.markWriteInvoked group.reservation
    match (((group.checkBeginWrite transport generation).or dispatched).or registered).or
        invoked.1 with
    | some err => ({ err := some err }, system)
    | none => ({}, { system with groups := system.groups.insert id (group.beginWrite transport) })

/-- A transition of one group that does not reach the scheduler. -/
def update (system : SchedulerSystem) (id : Nat)
    (change : CoalescedRead → Option ProtocolError × CoalescedRead) :
    SchedulerReply × SchedulerSystem :=
  match system.groups.lookup id with
  | none => ({}, system)
  | some group =>
    let changed := change group
    ({ err := changed.1 }, { system with groups := system.groups.insert id changed.2 })

def step (system : SchedulerSystem) : SchedulerCall → SchedulerReply × SchedulerSystem
  | .enqueue request =>
    let queued := system.scheduler.enqueue request
    ({ scheduling := queued.1.toList }, { system with scheduler := queued.2 })
  | .scheduleCoalesced request intents => system.scheduleCoalesced request intents
  | .dispatch nowOffset owners =>
    let dispatched := system.scheduler.dispatch nowOffset
    let failed := failGroups owners dispatched.2.1
      { system with scheduler := dispatched.2.2 }
    match dispatched.1 with
    | .ok request => ({ failed.1 with dispatched := some request }, failed.2)
    | .error stop => ({ failed.1 with accounting := decide (stop = .accounting) }, failed.2)
  | .cancelQueued requestID owners =>
    let cancelled := system.scheduler.cancelQueued requestID
    match cancelled.1 with
    | .cancelled group =>
      failGroups owners group.toList { system with scheduler := cancelled.2 }
    | answer =>
      ({ accounting := decide (answer = .accounting) },
        { system with scheduler := cancelled.2 })
  | .retry requestID owners =>
    let retried := system.scheduler.retry requestID
    let failed := failGroups owners retried.2.1.toList { system with scheduler := retried.2.2 }
    ({ failed.1 with scheduling := retried.1.toList ++ failed.1.scheduling }, failed.2)
  | .complete requestID =>
    let completed := system.scheduler.complete requestID
    ({ scheduling := completed.1.toList }, { system with scheduler := completed.2 })
  | .finishCoalesced group =>
    let finished := system.scheduler.finishCoalesced group
    ({ scheduling := finished.1.toList }, { system with scheduler := finished.2 })
  | .setOperationDeadline group deadline =>
    system.update group fun group => (none, group.setOperationDeadline deadline)
  | .bindReservation group reservation owner =>
    system.update group fun group => group.bindReservation reservation owner
  | .beginWrite group transport generation registered owner =>
    system.beginWrite group transport generation registered owner
  | .finishWriteFailure group =>
    system.conclude group fun group =>
      -- A transport only reports a failure of a write it has begun.
      if group.writeBegun = false ∨ group.completed = true then (.ok [], 0, false, group)
      else
        let failed := group.finishWriteFailureLocked
        (.ok [], failed.1, true, failed.2)
  | .cancel group logicalViewID owner =>
    system.conclude group fun group =>
      let cancelled := group.cancelLocked logicalViewID owner
      (answer cancelled.1.err, cancelled.1.released, cancelled.1.completed, cancelled.2.1)
  | .replaySuccessfulResponse group response =>
    system.conclude group fun group =>
      let replayed := group.replayLocked response
      (replayed.1, replayed.2.1, replayed.2.2.completed, replayed.2.2)
  | .fail group response =>
    system.conclude group fun group =>
      let failed := group.failLocked response
      (answer failed.1, failed.2.1, failed.2.2.completed, failed.2.2)
  | .failTransport group owner => system.failTransport group owner

/-- A sequence of calls, with what each of them produced. -/
def run (system : SchedulerSystem) :
    List SchedulerCall → List SchedulerReply × SchedulerSystem
  | [] => ([], system)
  | call :: rest =>
    let stepped := system.step call
    let more := stepped.2.run rest
    (stepped.1 :: more.1, more.2)

end SchedulerSystem

end HelianthusModbus
