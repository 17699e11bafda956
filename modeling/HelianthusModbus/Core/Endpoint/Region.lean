import HelianthusModbus.Core.Endpoint.State
import HelianthusModbus.Lib.Regions

/-!
# Atomic Regions of the Endpoint

The regions the endpoint operations are made of, what each of them answers, and what
it does to the state.

A region is what one mutex protects from its lock to its unlock, together with at most
one section of another mutex inside it. Where an operation holds a mutex across more
than that, taking and giving back the mutex are regions of their own and every other
region that needs it has to wait. This concerns the enqueue, schedule and outcome
mutexes of the endpoint and the mutex of a coalesced group.

What the outside decides is in `Input`: the clock, the socket, cancellations and
timers, the jitter source, whether an event sink callback is running.

## Main definitions

* `Region`, `Region.Reply`: The regions and their answers.
-/

namespace HelianthusModbus

inductive ContextCause where
  | canceled
  | deadlineExceeded
  deriving DecidableEq, Repr

def ContextCause.cause : ContextCause → Cause
  | .canceled => .canceled
  | .deadlineExceeded => .deadlineExceeded

/-- How a transport operation that invoked its socket call ended: on its own, or with
    the caller's context or its own deadline first, or one of these just after. -/
inductive OperationEnd where
  | returned
  | cancelledDuringIo (cause : ContextCause)
  | timedOutDuringIo
  | returnedThenCancelled (cause : ContextCause)
  | returnedThenTimedOut
  deriving DecidableEq, Repr

/-- The error the operation was cancelled with. -/
def OperationEnd.err : OperationEnd → Err
  | .returned => []
  | .cancelledDuringIo cause | .returnedThenCancelled cause => [cause.cause]
  | .timedOutDuringIo | .returnedThenTimedOut => [.deadlineExceeded]

def OperationEnd.cancellationWonDuringIo : OperationEnd → Bool
  | .cancelledDuringIo _ | .timedOutDuringIo => true
  | _ => false

inductive ReadFailure where
  | eof
  | timeout
  | other
  deriving DecidableEq, Repr

/-- What a region reads from outside. `writeErr` is a write error with whether it
    proves that no byte was sent; `frames` is nothing when the received bytes do not
    decode; `callbackEvents` are events that timers and cancellations recorded. -/
structure Input where
  sinkActive : Bool := false
  now : Duration := 0
  claimErr : Option ProtocolError := none
  bindErr : Option ProtocolError := none
  interrupted : Option ContextCause := none
  written : Nat := 0
  writeErr : Option Bool := none
  ended : OperationEnd := .returned
  resetFailed : Bool := false
  closeFailed : Bool := false
  received : Nat := 0
  frames : Option (List TCPADU) := some []
  readErr : Option ReadFailure := none
  rearmed : Bool := false
  jitter : Duration := 0
  waitErr : Option Cause := none
  callbackEvents : Nat := 0

/-- What an operation observes of the outside between its regions. Whether an event
    sink callback is running is asked at the start of an operation, and once more before
    the endpoint closes. -/
inductive Observation where
  | sink
  | sinkBeforeClose
  | clock
  | context
  | socketWrite
  | socketRead
  | jitter
  | wait
  deriving DecidableEq, Repr

/-- A transition of a group under its mutex. -/
inductive GroupTransition where
  | cancel (logicalViewID : Nat)
  | finishWriteFailure
  | replay (response : WireResponse)
  | fail (response : WireResponse)
  | failTransport
  deriving DecidableEq, Repr

/-- The answer of a group transition. `released` dependents are to be given back to
    the scheduler; until then the mutex of the group is held. -/
structure GroupReply where
  err : Err := []
  views : List LogicalReadView := []
  released : Nat := 0
  completed : Bool := false
  transport : Option Nat := none
  physicalRequestID : Nat := 0
  transition : CoalescedTransition := {}
  deriving DecidableEq, Repr

/-- Sections of a group's mutex. -/
inductive GroupOp where
  | physicalRequest
  | setOperationDeadline (deadline : Duration)
  | bindReservation (reservation : TCPReservation)
  | prepareWrite (transport generation : Nat)
  | checkBeginWrite (transport generation : Nat)
  | beginWrite (transport : Nat)
  | leaveWrite
  | transition (transition : GroupTransition)
  | release (count : Nat)
  | activeDependentCount
  deriving DecidableEq, Repr

abbrev GroupOp.Reply : GroupOp → Type
  | .physicalRequest => ReadRegistersRequest
  | .setOperationDeadline _ => Unit
  | .bindReservation _ => Err
  | .prepareWrite _ _ => Except Err TCPReservation
  | .checkBeginWrite _ _ => Err
  | .beginWrite _ => Unit
  | .leaveWrite => Unit
  | .transition _ => GroupReply
  | .release _ => Unit
  | .activeDependentCount => Nat

/-- Sections of the scheduler's mutex. What a section leaves to be failed after the
    mutex is released is part of its answer. -/
inductive SchedulerOp where
  | enqueue (request : ScheduledRequest)
  | scheduleCoalesced (request : ScheduledRequest) (intents : List ReadIntent)
  | dispatch (now : Duration)
  | cancelQueued (requestID : Nat)
  | complete (requestID : Nat)
  | requireDispatch (group : Nat)
  | finish (group : Nat)
  deriving DecidableEq, Repr

abbrev SchedulerOp.Reply : SchedulerOp → Type
  | .enqueue _ => Err
  | .scheduleCoalesced _ _ => Except Err Nat
  | .dispatch _ => Option ScheduledRequest × List Nat
  | .cancelQueued _ => Option Nat
  | .complete _ => Err
  | .requireDispatch _ => Err
  | .finish _ => Err

/-- Where expired response waits are abandoned. -/
inductive ExpirySite where
  | beforeRead
  | readDeadline
  | readGate
  | readReturn
  deriving DecidableEq, Repr

/-- Sections of an owner's mutex. -/
inductive OwnerOp where
  | reserve (unitID : UInt8) (request : TCPConnectionOwner.Reserve) (deadline : Duration)
  | closed
  | cancelBeforeWrite (reservation : TCPReservation)
  | wireIdentity (reservation : TCPReservation)
  | transportCurrent (generation : Nat)
  | encode (reservation : TCPReservation)
  | markWriteInvoked (reservation : TCPReservation)
  | recordTransmit (reservation : TCPReservation) (result : TransmitResult)
      (responseDeadline : Duration)
  | abandonAfterWrite (reservation : TCPReservation) (reason : AbandonReason)
  | abandonExpired (site : ExpirySite) (now : Duration)
  | hasTombstones
  | correlate (generation : Nat) (frame : TCPADU)
  | canonicalLive (reservation : TCPReservation)
  | close
  | takePoolSlot

abbrev OwnerOp.Reply : OwnerOp → Type
  | .reserve _ _ _ => Except Err TCPReservation
  | .closed => Bool
  | .cancelBeforeWrite _ => Err
  | .wireIdentity _ => Except Err TCPConnectionOwner.ReservationWireIdentity
  | .transportCurrent _ => Bool
  | .encode _ => Except Err (List UInt8 × TCPConnectionOwner.ReservationWireIdentity)
  | .markWriteInvoked _ => Err
  | .recordTransmit _ _ _ => OwnerTransition × Err
  | .abandonAfterWrite _ _ => OwnerTransition × Err
  | .abandonExpired _ _ => List TCPReservation × OwnerTransition × Err
  | .hasTombstones => Bool
  | .correlate _ _ => WireResponse × Err
  | .canonicalLive _ => Option (TCPReservation × RequestState)
  | .close => Option Nat
  | .takePoolSlot => Bool

/-- The gates that serialize writes and reads of one transport. -/
inductive Gate where
  | write
  | read
  deriving DecidableEq, Repr

/-- The answer of closing a transport. `lost` says that this call took the socket
    from the owner, and `groups` are the groups to be failed with it. -/
structure CloseReply where
  transition : OwnerTransition := {}
  groups : List Nat := []
  lost : Bool := false
  err : Err := []
  deriving DecidableEq, Repr

/-- Sections of a transport's own mutex, and its gates. -/
inductive TransportOp where
  | acquireGate (gate : Gate)
  | releaseGate (gate : Gate)
  | registerCoalesced (physicalRequestID group : Nat)
  | forgetCoalesced (physicalRequestID : Nat)
  | closeTerminal
  | closeDetached
  deriving DecidableEq, Repr

abbrev TransportOp.Reply : TransportOp → Type
  | .acquireGate _ => Option ContextCause
  | .releaseGate _ => Unit
  | .registerCoalesced _ _ => Err
  | .forgetCoalesced _ => Unit
  | .closeTerminal => CloseReply
  | .closeDetached => CloseReply

/-- Sections of the pool's mutex. `retire` is the check of a lease together with the
    retirement of its owner, and answers nothing for a lease that is not live. -/
inductive PoolOp where
  | ownerForEndpoint
  | retire
  | remove
  deriving DecidableEq, Repr

abbrev PoolOp.Reply : PoolOp → Type
  | .ownerForEndpoint => Bool
  | .retire => Option (Option Nat)
  | .remove => Unit

/-- Sections of the backoff's mutex. -/
inductive BackoffOp where
  | base (remaining : Duration)
  | advance (remaining : Duration) (attempt : Nat) (base : Duration)
  | validCorrelatedResponse
  deriving DecidableEq, Repr

abbrev BackoffOp.Reply : BackoffOp → Type
  | .base _ => Except Err (Nat × Duration)
  | .advance _ _ _ => Except Err Duration
  | .validCorrelatedResponse => Unit

/-- What `Retry` finds on a handle: a refusal that changes nothing, no attempt or no
    time left, or the plan to enqueue again with its deadline. -/
inductive RetryEntry where
  | refused (err : Err)
  | attempts
  | deadline
  | ready (plan : RequestBackoff) (effectiveDeadline : Duration)
  deriving DecidableEq, Repr

/-- What the end of a backoff delay finds on the handle that waited. -/
inductive WaitEnd where
  | changed
  | overflow
  | kept
  deriving DecidableEq, Repr

/-- Sections of a handle's mutex. -/
inductive HandleOp where
  | setLifecycle (lifecycle : RequestLifecycle)
  | setRetryState (lifecycle : RequestLifecycle) (requiresBackoff : Bool)
  | requiresBackoff
  | clear
  | expire (now : Duration)
  | terminalize
  | filterReads (logicalViewID : Nat)
  | retryEntry
  | restore
  | waitEntry
  | stopWaiting
  | waitEnd (additionalDebt : Duration)
  | completeBackoff (after additionalDebt : Duration)
  | outcome
  deriving DecidableEq, Repr

abbrev HandleOp.Reply : HandleOp → Type
  | .setLifecycle _ => Unit
  | .setRetryState _ _ => Unit
  | .requiresBackoff => Bool
  | .clear => Unit
  | .expire _ => Bool
  | .terminalize => Unit
  | .filterReads _ => Unit
  | .retryEntry => RetryEntry
  | .restore => RequestLifecycle
  | .waitEntry => Option (Bool × Duration × Duration)
  | .stopWaiting => Unit
  | .waitEnd _ => WaitEnd
  | .completeBackoff _ _ => Bool
  | .outcome => RequestLifecycle × Bool

/-- A request object with its fields at the moment it was read. -/
structure RequestRef where
  object : Nat
  request : EndpointRequest
  deriving DecidableEq, Repr

inductive AdmitReply where
  | refused
  | exhausted
  | admitted (requestID generation : Nat)
  deriving DecidableEq, Repr

inductive RegisterReply where
  | closed
  | stale
  | identityChanged
  | registered
  deriving DecidableEq, Repr

inductive TakeReply where
  | gone
  | stale (ref : RequestRef)
  | lost (ref : RequestRef)
  | taken (dispatchID : Nat)
  deriving DecidableEq, Repr

inductive FinishWriteReply where
  | moved
  | failed
  | noDeadline
  | waiting
  deriving DecidableEq, Repr

structure TrackReply where
  evicted : Option Nat := none
  refused : Bool := false
  deriving DecidableEq, Repr

inductive CancelLookup where
  | refused (err : Err)
  | cancelled
  | live (ref : RequestRef)
  deriving DecidableEq, Repr

inductive CancelAllLookup where
  | refused (err : Err)
  | cancelled (views : Nat)
  | deviceID
  | live (logicalViewIDs : List Nat)
  deriving DecidableEq, Repr

inductive CancelDeviceReply where
  | unknown
  | lifecycle
  | gone
  | writing (channel : Nat)
  | removed (ref : RequestRef) (connected : Bool) (reservation : TCPReservation)
  deriving DecidableEq, Repr

inductive RetryRegisterReply where
  | registered
  | refused (current stillOwned : Bool) (lifecycle : RequestLifecycle)
  deriving DecidableEq, Repr

/-- What `Close` takes out of the tables. -/
structure ShutdownReply where
  connections : List Nat
  requests : List RequestRef
  retryable : List Nat
  deriving DecidableEq, Repr

/-- Sections of the endpoint's own mutex, and accesses to request objects.
    `markReconnectRequired` says whether it was the result of the write that cost the
    socket. -/
inductive TableOp where
  | handleKnown (requestID : Nat)
  | openConnection
  | admitRequest (connection : Nat) (planValid : Bool)
  | register (requestID : Nat) (request : EndpointRequest) (backoff : RequestBackoff)
  | dispatchIdentityAvailable
  | pruneExpired (now : Duration)
  | take (requestID : Nat) (now : Duration)
  | beginWriting (dispatchID requestID : Nat)
  | attachPhysical (object : Nat) (reservation : TCPReservation)
  | finishWrite (object : Nat) (reservation : TCPReservation) (failed abandoned : Bool)
  | closeWriteDone (channel : Nat)
  | removeRequest (requestID : Nat)
  | dropConnection (connection : Nat)
  | closeConnection (connection : Nat)
  | shutdown
  | setDisableReason (reason : String)
  | markReconnectRequired (lost : Bool)
  | requireReconnect
  | trackRetryable (requestID : Nat) (lifecycle : RequestLifecycle) (requiresBackoff : Bool)
  | retryableHandles
  | forgetRetryable (requestID : Nat)
  | cancelLookup (requestID logicalViewID : Nat)
  | cancelAllLookup (requestID : Nat)
  | cancelDevice (requestID : Nat) (written : Bool)
  | retirePhysical (object : Nat)
  | retryConnection (connection requestID : Nat)
  | retryRegister (connection requestID : Nat) (request : EndpointRequest)
  | beginReconnectWait
  | endReconnectWait
  | completeReconnect
  | lookupConnection (connection : Nat)
  | earliestWaitingDeadline (connection : Nat)
  | requestForPhysical (connection physicalRequestID : Nat)
  | failPhysical (connection physicalRequestID : Nat)
  | retireFailed (connection physicalRequestID : Nat)
  | takeRetired (connection physicalRequestID : Nat)
  | current (object : Nat)
  | continueDeviceID (object : Nat) (next : DeviceIDRequest)
  | readObject (object : Nat)
  | addSegment (object : Nat) (segment : DeviceIDSegment)
  | setTraversal (object : Nat) (traversal : DeviceIDTolerantTraversal)
  deriving DecidableEq, Repr

abbrev TableOp.Reply : TableOp → Type
  | .handleKnown _ => Bool
  | .openConnection => Except Err (Nat × Bool)
  | .admitRequest _ _ => AdmitReply
  | .register _ _ _ => RegisterReply
  | .dispatchIdentityAvailable => Bool
  | .pruneExpired _ => List RequestRef
  | .take _ _ => TakeReply
  | .beginWriting _ _ => Option RequestRef
  | .attachPhysical _ _ => Bool
  | .finishWrite _ _ _ _ => FinishWriteReply
  | .removeRequest _ => Option RequestRef
  | .dropConnection _ => List RequestRef
  | .closeConnection _ => Option (List RequestRef)
  | .shutdown => Option ShutdownReply
  | .trackRetryable _ _ _ => TrackReply
  | .retryableHandles => List Nat
  | .cancelLookup _ _ => CancelLookup
  | .cancelAllLookup _ => CancelAllLookup
  | .cancelDevice _ _ => CancelDeviceReply
  | .retryConnection _ _ => Option Nat × Bool
  | .retryRegister _ _ _ => RetryRegisterReply
  | .beginReconnectWait => Bool
  | .lookupConnection _ => Option Nat
  | .earliestWaitingDeadline _ => Option Duration
  | .requestForPhysical _ _ => Option RequestRef
  | .failPhysical _ _ => Option RequestRef
  | .takeRetired _ _ => Bool
  | .current _ => Bool
  | .continueDeviceID _ _ => Bool
  | .readObject _ => EndpointRequest
  | .addSegment _ _ => List DeviceIDSegment
  | _ => Unit

/-- The regions. `stuck` is never performed; it ends the unrolling of a loop. -/
inductive Region where
  | observe (what : Observation)
  | record (count : Nat)
  | timelineAvailable
  | acquire (mutex : Mutex)
  | release (mutex : Mutex)
  | handle (requestID : Nat) (op : HandleOp)
  | owner (connection : Nat) (op : OwnerOp)
  | transport (connection : Nat) (op : TransportOp)
  | pool (connection : Nat) (op : PoolOp)
  | backoff (op : BackoffOp)
  | scheduler (op : SchedulerOp)
  | group (group : Nat) (op : GroupOp)
  | table (op : TableOp)
  | awaitWriteDone (channel : Nat)
  | stuck

abbrev Region.Reply : Region → Type
  | .observe _ => Input
  | .record _ => Unit
  | .timelineAvailable => Bool
  | .acquire _ => Unit
  | .release _ => Unit
  | .handle _ op => op.Reply
  | .owner _ op => op.Reply
  | .transport _ op => op.Reply
  | .pool _ op => op.Reply
  | .backoff op => op.Reply
  | .scheduler op => op.Reply
  | .group _ op => op.Reply
  | .table op => op.Reply
  | .awaitWriteDone _ => Unit
  | .stuck => Unit

end HelianthusModbus
