import HelianthusModbus.Core.Endpoint.Exec

/-!
# Transport Operations

The operations of one transport as programs over regions: closing it and writing a
reserved request.

A write crosses an invocation boundary. Before it the reservation can be given back
without a trace; after it the result of the socket call decides what the owner records.
A group keeps its mutex from the preparation of its write to that boundary.

## Main definitions

* `failTransport`, `closeTerminal`: Ending groups and sockets.
* `writeReservationUntil`, `writeCoalescedUntil`: The two kinds of write.
-/

namespace HelianthusModbus

/-- A program over the regions of the endpoint. -/
abbrev Action (α : Type) := Prog Region.Reply α

namespace Action

def perform (region : Region) : Action region.Reply := Prog.perform region

def observe (what : Observation) : Action Input := perform (.observe what)

def record (count : Nat) : Action Unit := perform (.record count)

def owner (connection : Nat) (op : OwnerOp) : Action op.Reply :=
  perform (.owner connection op)

def transport (connection : Nat) (op : TransportOp) : Action op.Reply :=
  perform (.transport connection op)

def pool (connection : Nat) (op : PoolOp) : Action op.Reply := perform (.pool connection op)

def scheduler (op : SchedulerOp) : Action op.Reply := perform (.scheduler op)

def group (id : Nat) (op : GroupOp) : Action op.Reply := perform (.group id op)

def table (op : TableOp) : Action op.Reply := perform (.table op)

end Action

open HelianthusModbus.Action

/-- The end of a group transition: dependents go back to the scheduler, and a completed
    group is forgotten by its transport. -/
def giveBack (id : Nat) (reply : GroupReply) : Action Unit := do
  Prog.when (reply.released > 0) (group id (.release reply.released))
  match reply.transport with
  | some connection =>
    Prog.when reply.completed (transport connection (.forgetCoalesced reply.physicalRequestID))
  | none => return ()

/-- A completed group leaves the scheduler. -/
def finishScheduling (id : Nat) (reply : GroupReply) : Action Err :=
  if reply.completed then scheduler (.finish id) else return []

/-- `FailTransport`, and every other transition of a group but `Cancel`. -/
def concludeGroup (id : Nat) (transition : GroupTransition) :
    Action (List LogicalReadView × Err) := do
  let reply ← group id (.transition transition)
  giveBack id reply
  let err ← finishScheduling id reply
  return (reply.views, reply.err ++ err)

def failTransport (id : Nat) : Action Err := do
  let concluded ← concludeGroup id .failTransport
  return concluded.2

def failGroups (ids : List Nat) : Action Err := do
  let errs ← Prog.each failTransport ids
  return errs.flatten

def releasePoolSlot (connection : Nat) : Action Unit := do
  let pooled ← owner connection .takePoolSlot
  Prog.when pooled (pool connection .remove)

def closeTerminal (connection : Nat) : Action (OwnerTransition × Err) := do
  let reply ← transport connection .closeTerminal
  let err ← failGroups reply.groups
  Prog.when reply.lost (releasePoolSlot connection)
  return (reply.transition, reply.err ++ err)

def closeDetached (connection : Nat) : Action Err := do
  let reply ← transport connection .closeDetached
  let err ← failGroups reply.groups
  return reply.err ++ err

/-- Closing the transport an owner step took from its owner, if there was one. -/
def closeBound (connection : Nat) : Option Nat → Action Unit
  | none => return ()
  | some _ => do
      let _ ← closeDetached connection
      return ()

def closeOwner (connection : Nat) : Action Unit := do
  let bound ← owner connection .close
  closeBound connection bound

def mergeOwnerTransitions (first second : OwnerTransition) : OwnerTransition :=
  { closeConnection := first.closeConnection || second.closeConnection
    failed := first.failed ++ second.failed }

/-- Giving a reservation back before the invocation. The request that is live under its
    transaction identifier may be another one. -/
def releasePreWrite (connection generation : Nat) (reservation : TCPReservation) :
    Action (OwnerTransition × Err) := do
  let err ← owner connection (.cancelBeforeWrite reservation)
  if err = [] then return ({}, [])
  else
    match ← owner connection (.canonicalLive reservation) with
    | none => return ({}, [])
    | some (canonical, state) =>
      if state = .reserved then do
        let err ← owner connection (.cancelBeforeWrite canonical)
        return ({}, err)
      else do
        let current ← owner connection (.transportCurrent generation)
        if current then closeTerminal connection
        else do
          closeOwner connection
          return ({ closeConnection := true }, [])

def classifyNetWrite (expected written : Nat) (writeErr : Option Bool) (cancellationWon : Bool) :
    TransmitResult :=
  if cancellationWon then .cancellationRace
  else if written = expected ∧ writeErr = none then .complete
  else if 0 < written ∧ written < expected then .partialWrite
  else
    match writeErr with
    | some provablyNoBytesTransmitted =>
      if written ≠ 0 then .ambiguous
      else if provablyNoBytesTransmitted then .provableZero
      else .indeterminate
    | none => .ambiguous

def responseWaitDeadline (responseDeadline now operationDeadline : Duration) :
    Except Err Duration :=
  if now < 0 then .error (.protocol .invalidRange "operation_deadline")
  else if 0 < operationDeadline ∧ operationDeadline ≤ now then
    .error (.protocol .invalidRange "operation_deadline")
  else if 0 < operationDeadline ∧ operationDeadline - now ≤ responseDeadline then
    .ok operationDeadline
  else if responseDeadline > remainingDuration now then
    .error (.protocol .invalidRange "operation_deadline")
  else if 0 < operationDeadline ∧ operationDeadline < now + responseDeadline then
    .ok operationDeadline
  else .ok (now + responseDeadline)

/-- Abandoning a request whose bytes were all written when its caller or its deadline
    had given up already. -/
def abandonWritten (connection : Nat) (reservation : TCPReservation) (result : TransmitResult)
    (contextErr deadlineErr : Err) : Action (OwnerTransition × Err) :=
  if result = .complete ∧ (contextErr ≠ [] ∨ deadlineErr ≠ []) then
    owner connection (.abandonAfterWrite reservation
      (if deadlineErr ≠ [] ∨ Cause.deadlineExceeded ∈ contextErr then .timeout
        else .cancellation))
  else return ({}, [])

/-- Giving the socket up after a write: the endpoint is told before it closes. -/
def closeAfterWrite (connection : Nat) (lost giveUp : Bool) : Action (OwnerTransition × Err) :=
  if giveUp then do
    table (.markReconnectRequired lost)
    closeTerminal connection
  else return ({}, [])

/-- The write after the invocation boundary. -/
def performInvokedWrite (config : TCPEndpointConfig) (connection : Nat)
    (reservation : TCPReservation) (size : Nat) : Action (OwnerTransition × Err) := do
  let io ← observe .socketWrite
  record 1
  let result := classifyNetWrite size io.written io.writeErr io.ended.cancellationWonDuringIo
  let clock ← observe .clock
  let deadline := responseWaitDeadline config.maxResponseDeadline clock.now
    reservation.deadlineOffset
  let deadlineErr : Err := match deadline with
    | .ok _ => []
    | .error err => err
  let recorded ← owner connection (.recordTransmit reservation result (deadline.toOption.getD 0))
  record 1
  let abandoned ← abandonWritten connection reservation result io.ended.err deadlineErr
  let transition := mergeOwnerTransitions recorded.1 abandoned.1
  let resetErr : Err := if io.resetFailed then [.io] else []
  let closed ← closeAfterWrite connection recorded.1.closeConnection
    (transition.closeConnection || io.resetFailed)
  let writeErr : Err := if io.writeErr.isSome then [.io] else []
  let causes := writeErr ++ io.ended.err ++ deadlineErr ++ (recorded.2 ++ abandoned.2) ++
    resetErr ++ closed.2
  if result = .complete ∧ causes = [] then
    return (mergeOwnerTransitions transition closed.1, [])
  else return (mergeOwnerTransitions transition closed.1, .write result :: causes)

/-- Ending a write that was not invoked. -/
def giveUpReservation (connection generation : Nat) (reservation : TCPReservation) (err : Err) :
    Action (OwnerTransition × Err) := do
  let released ← releasePreWrite connection generation reservation
  return (released.1, err ++ released.2)

def staleTransport : Err := .protocol .invalidRequest "stale_transport"

/-- `writeReservationUntil` while it holds the write gate. -/
def writeReservationGated (config : TCPEndpointConfig) (connection generation : Nat)
    (reservation : TCPReservation) (identity : TCPConnectionOwner.ReservationWireIdentity) :
    Action (OwnerTransition × Err) := do
  let current ← owner connection (.transportCurrent generation)
  if current = false then giveUpReservation connection generation reservation staleTransport
  else
    match (← observe .context).interrupted with
    | some cause => giveUpReservation connection generation reservation [cause.cause]
    | none =>
      match ← owner connection (.encode reservation) with
      | .error err => giveUpReservation connection generation reservation err
      | .ok (adu, encoded) =>
        if encoded ≠ identity then
          giveUpReservation connection generation reservation
            [.protocol (protocolError .invalidRequest identity.function 0
              "reservation_identity_changed" (-1))]
        else do
          record 1
          match (← observe .context).interrupted with
          | some cause => giveUpReservation connection generation reservation [cause.cause]
          | none => do
              let err ← owner connection (.markWriteInvoked reservation)
              if err ≠ [] then giveUpReservation connection generation reservation err
              else do
                record 1
                performInvokedWrite config connection reservation adu.length

/-- The write of a Device Identification request. -/
def writeReservationUntil (config : TCPEndpointConfig) (connection generation : Nat)
    (reservation : TCPReservation) : Action (OwnerTransition × Err) := do
  match ← owner connection (.wireIdentity reservation) with
  | .error err => return ({}, err)
  | .ok identity => do
      record 1
      match ← transport connection (.acquireGate .write) with
      | some cause => giveUpReservation connection generation reservation [cause.cause]
      | none => do
          let written ← writeReservationGated config connection generation reservation identity
          transport connection (.releaseGate .write)
          return written

/-- `beginWriteLocked` of a group whose mutex is held. -/
def beginWriteLocked (connection generation id : Nat) (reservation : TCPReservation) :
    Action Err := do
  let err ← group id (.checkBeginWrite connection generation)
  if err ≠ [] then return err
  else do
    let err ← scheduler (.requireDispatch id)
    if err ≠ [] then return err
    else do
      let err ← transport connection (.registerCoalesced reservation.physicalRequestID id)
      if err ≠ [] then return err
      else do
        let err ← owner connection (.markWriteInvoked reservation)
        if err ≠ [] then do
          transport connection (.forgetCoalesced reservation.physicalRequestID)
          return err
        else do
          group id (.beginWrite connection)
          return []

/-- Ending the write of a group that was not invoked. -/
def giveUpGroup (connection generation id : Nat) (reservation : Option TCPReservation)
    (err : Err) : Action (OwnerTransition × Err) := do
  let groupErr ← failTransport id
  match reservation with
  | none => return ({}, err ++ groupErr)
  | some reservation => do
      let released ← releasePreWrite connection generation reservation
      return (released.1, err ++ groupErr ++ released.2)

/-- The preparation of a group's write under the group's mutex: the reservation and its
    encoded size, or the error with the reservation as far as it was read. -/
def prepareCoalesced (connection generation id : Nat) :
    Action (Except (Option TCPReservation × Err) (TCPReservation × Nat)) := do
  match ← group id (.prepareWrite connection generation) with
  | .error err => return .error (none, err)
  | .ok reservation =>
    match ← owner connection (.encode reservation) with
    | .error err => do
        group id .leaveWrite
        return .error (some reservation, err)
    | .ok (adu, _) => do
        record 1
        match (← observe .context).interrupted with
        | some cause => do
            group id .leaveWrite
            return .error (some reservation, [cause.cause])
        | none => do
            let err ← beginWriteLocked connection generation id reservation
            if err ≠ [] then do
              group id .leaveWrite
              return .error (some reservation, err)
            else do
              record 1
              return .ok (reservation, adu.length)

/-- `writeCoalescedUntil` while it holds the write gate. -/
def writeCoalescedGated (config : TCPEndpointConfig) (connection generation id : Nat) :
    Action (OwnerTransition × Err) := do
  let current ← owner connection (.transportCurrent generation)
  if current = false then giveUpGroup connection generation id none staleTransport
  else
    match (← observe .context).interrupted with
    | some cause => giveUpGroup connection generation id none [cause.cause]
    | none =>
      match ← prepareCoalesced connection generation id with
      | .error (reservation, err) => giveUpGroup connection generation id reservation err
      | .ok (reservation, size) => do
          let written ← performInvokedWrite config connection reservation size
          if written.2 = [] then return written
          else do
            let _ ← concludeGroup id .finishWriteFailure
            let err ← failTransport id
            return (written.1, written.2 ++ err)

/-- The write of a coalesced read. -/
def writeCoalescedUntil (config : TCPEndpointConfig) (connection generation id : Nat) :
    Action (OwnerTransition × Err) := do
  record 1
  match ← transport connection (.acquireGate .write) with
  | some cause => giveUpGroup connection generation id none [cause.cause]
  | none => do
      let written ← writeCoalescedGated config connection generation id
      transport connection (.releaseGate .write)
      return written

end HelianthusModbus
