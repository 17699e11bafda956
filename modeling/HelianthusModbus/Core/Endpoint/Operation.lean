import HelianthusModbus.Core.Endpoint.Transport
import HelianthusModbus.Lib.Among

/-!
# One Transport Write

A transport write with the operation that times and cancels it, among everything else
that happens to the endpoint.

An operation has a state, which its timer, the context of its caller and the write itself
change one at a time, and it records an event in the same section as each change. The
timer and the context act at most once each, and not after the operation was stopped. The
invocation of the write holds this section from its check of the state to its end, so a
region that marks the request runs in a pending operation only.

The write is the program of `writeReservationUntil` or `writeCoalescedUntil`. Its regions
run on the endpoint as always, except that they see their own operation. The rest of the
endpoint may perform any regions in between, apart from the ones that only the write of
this reservation performs.

## Main definitions

* `OperationState`, `TransportOperation`: The operation of a write.
* `TransportOperation.raced`: Its own account of a race.
* `WriteRun.perform`, `TransportWrite.others`: The moves of a write, and of the rest.
-/

namespace HelianthusModbus

inductive OperationState where
  | pending
  | invoked
  | returned
  | cancelledBeforeInvocation
  | timedOutBeforeInvocation
  | cancelledDuringIo
  | timedOutDuringIo
  | returnedThenCancelled
  | returnedThenTimedOut
  | invocationFailed
  deriving DecidableEq, Repr

/-- What an operation records about itself. -/
inductive OperationEvent where
  | timerFire
  | callerCancellation
  | writeInvocation
  | writeReturn
  deriving DecidableEq, Repr

/-- What cancels an operation: the context of its caller, or its own timer. -/
inductive Interruption where
  | callerCancellation (cause : ContextCause)
  | internalDeadline
  deriving DecidableEq, Repr

namespace Interruption

def event : Interruption → OperationEvent
  | .callerCancellation _ => .callerCancellation
  | .internalDeadline => .timerFire

def cause : Interruption → ContextCause
  | .callerCancellation cause => cause
  | .internalDeadline => .deadlineExceeded

/-- The state after an interruption. Only the first one in a phase counts. -/
def target : Interruption → OperationState → OperationState
  | .callerCancellation _, .pending => .cancelledBeforeInvocation
  | .internalDeadline, .pending => .timedOutBeforeInvocation
  | .callerCancellation _, .invoked => .cancelledDuringIo
  | .internalDeadline, .invoked => .timedOutDuringIo
  | .callerCancellation _, .returned => .returnedThenCancelled
  | .internalDeadline, .returned => .returnedThenTimedOut
  | _, state => state

end Interruption

/-- An event that an interruption records. -/
def OperationEvent.interrupts : OperationEvent → Bool
  | .timerFire => true
  | .callerCancellation => true
  | _ => false

/-- The operation of a write, with its events in order. -/
structure TransportOperation where
  state : OperationState := .pending
  causeErr : Option ContextCause := none
  stopped : Bool := false
  events : List OperationEvent := []
  deriving DecidableEq, Repr

namespace TransportOperation

/-- `cancel`. The event is recorded whether or not the state changes. -/
def cancel (operation : TransportOperation) (source : Interruption) : TransportOperation :=
  { operation with
    state := source.target operation.state
    causeErr :=
      if source.target operation.state ≠ operation.state then some source.cause
      else operation.causeErr
    events := operation.events ++ [source.event] }

/-- The timer or the context runs its callback, once and not after the end. -/
def interrupt (operation : TransportOperation) (source : Interruption) : TransportOperation :=
  if operation.stopped = true ∨ source.event ∈ operation.events then operation
  else operation.cancel source

def preInvocationError (operation : TransportOperation) : Option ContextCause :=
  match operation.state with
  | .cancelledBeforeInvocation | .timedOutBeforeInvocation => operation.causeErr
  | _ => none

/-- The end of `beginInvocation`, once the request was marked or could not be. -/
def beginInvocation (operation : TransportOperation) (marked : Bool) : TransportOperation :=
  if marked then
    { operation with state := .invoked, events := operation.events ++ [.writeInvocation] }
  else { operation with state := .invocationFailed }

def markReturn (operation : TransportOperation) : TransportOperation :=
  { operation with
    state := if operation.state = .invoked then .returned else operation.state
    events := operation.events ++ [.writeReturn] }

/-- `stopAndJoin`, during which the last interruptions may still arrive. -/
def stopAndJoin (operation : TransportOperation) (late : List Interruption) :
    TransportOperation :=
  { late.foldl interrupt operation with stopped := true }

/-- How the operation ended, for the code that classifies its write. -/
def ended (operation : TransportOperation) : OperationEnd :=
  match operation.state with
  | .cancelledDuringIo => .cancelledDuringIo (operation.causeErr.getD .canceled)
  | .timedOutDuringIo => .timedOutDuringIo
  | .returnedThenCancelled => .returnedThenCancelled (operation.causeErr.getD .canceled)
  | .returnedThenTimedOut => .returnedThenTimedOut
  | _ => .returned

/-- The events of the operation after its write was invoked and before it returned. -/
def duringWrite (operation : TransportOperation) : List OperationEvent :=
  ((operation.events.dropWhile fun event => event ≠ .writeInvocation).drop 1).takeWhile
    fun event => event ≠ .writeReturn

/-- The operation recorded an interruption between the invocation of its write and its
    return. -/
def raced (operation : TransportOperation) : Bool :=
  operation.duringWrite.any OperationEvent.interrupts

end TransportOperation

/-- What a write works on. `classified` is the result it recorded. -/
structure WriteRun where
  shared : EndpointState
  operation : TransportOperation := {}
  classified : Option TransmitResult := none

/-- What a region of a write reads from outside. `late` are the interruptions between the
    return of the socket and the end of the operation. -/
structure WriteInput where
  outside : Input := {}
  late : List Interruption := []

/-- What happens beside a write. -/
inductive Disturbance where
  | interrupt (source : Interruption)
  | region (region : Region) (input : Input)

/-- A write of a reserved request, or of the group that is bound to it. -/
structure TransportWrite where
  config : TCPEndpointConfig
  connection : Nat
  generation : Nat
  reservation : TCPReservation
  group : Option Nat := none

namespace TransportWrite

def program (write : TransportWrite) : Action (OwnerTransition × Err) :=
  match write.group with
  | none =>
    writeReservationUntil write.config write.connection write.generation write.reservation
  | some id => writeCoalescedUntil write.config write.connection write.generation id

/-- The regions that only the write of this reservation performs: it marks the request,
    and it begins the write of its group and gives it up afterwards. -/
def owns (write : TransportWrite) : Region → Bool
  | .owner connection (.markWriteInvoked reservation) =>
    connection = write.connection ∧
      reservation.physicalRequestID = write.reservation.physicalRequestID
  | .group id (.beginWrite _) => write.group = some id
  | .group id (.transition .finishWriteFailure) => write.group = some id
  | _ => false

end TransportWrite

namespace WriteRun

/-- A region of the write with the input it sees. -/
def region (region : Region) (input : Input) (run : WriteRun) :
    Option (region.Reply × WriteRun) :=
  (region.exec input run.shared).map fun done => (done.1, { run with shared := done.2 })

/-- The regions of a write. The socket call ends with the end of the operation. -/
def perform : (region : Region) → WriteInput → WriteRun → Option (region.Reply × WriteRun)
  | .observe .socketWrite, input, run =>
    let operation := run.operation.markReturn.stopAndJoin input.late
    some ({ input.outside with ended := operation.ended }, { run with operation := operation })
  | .owner connection (.markWriteInvoked reservation), input, run =>
    if run.operation.state ≠ .pending then none
    else
      (run.region (.owner connection (.markWriteInvoked reservation)) input.outside).map
        fun done => (done.1, { done.2 with
          operation := run.operation.beginInvocation (done.1 = ([] : Err)) })
  | .owner connection (.recordTransmit reservation result responseDeadline), input, run =>
    (run.region (.owner connection (.recordTransmit reservation result responseDeadline))
      input.outside).map fun done => (done.1, { done.2 with classified := some result })
  | region, input, run =>
    run.region region { input.outside with interrupted := run.operation.preInvocationError }

end WriteRun

/-- What the rest of the endpoint does beside a write. -/
def TransportWrite.others (write : TransportWrite) : Disturbance → WriteRun → Option WriteRun
  | .interrupt source, run => some { run with operation := run.operation.interrupt source }
  | .region region input, run =>
    if write.owns region then none else (run.region region input).map Prod.snd

/-- Any regions one after another. -/
def Region.run (state : EndpointState) : List (Region × Input) → Option EndpointState
  | [] => some state
  | (region, input) :: rest =>
    match region.exec input state with
    | none => none
    | some (_, next) => Region.run next rest

end HelianthusModbus
