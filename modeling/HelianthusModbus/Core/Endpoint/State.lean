import HelianthusModbus.Core.Backoff
import HelianthusModbus.Core.Pool
import HelianthusModbus.Core.SchedulerSystem

/-!
# Endpoint State

The data of one TCP endpoint: its configuration, the objects its operations share,
and the tables that find them.

Objects the source reaches through pointers live in tables here, each under a number.
A connection number stands for the connection's owner and transport as well, since all
three are made together and a number is never used twice. A request handle is the
number of its request; the backoff state the source hangs on the handle is found under
that number. A request object has a number of its own, because a retry makes a second
object for the same request.

Errors are lists of causes. Joining errors appends the lists, and the source only asks
an error whether it is there, whether it contains a sentinel, and which is the first
protocol or write error in it.

## Main definitions

* `Err`, `Cause`: Joined errors.
* `RequestBackoff`, `EndpointRequest`, `EndpointTransport`: The shared objects.
* `EndpointState`, `newTCPEndpoint`: The endpoint and its construction.
-/

namespace HelianthusModbus

/-- One cause inside a joined error. `write` is a transport write error; the causes it
    wraps follow it. -/
inductive Cause where
  | protocol (err : ProtocolError)
  | canceled
  | deadlineExceeded
  | readDeadlineRearmed
  | eof
  | timeout
  | io
  | write (result : TransmitResult)
  deriving DecidableEq, Repr

/-- A joined error, empty for no error. -/
abbrev Err := List Cause

namespace Err

def protocol (kind : ErrorKind) (field : String) : Err :=
  [.protocol (protocolError kind 0 0 field (-1))]

/-- A single protocol error about a Device Identification request. -/
def deviceID (kind : ErrorKind) (field : String) : Err :=
  [.protocol (protocolError kind functionEncapsulatedInterface 0 field (-1))]

def ofOption (err : Option ProtocolError) : Err := err.toList.map .protocol

end Err

def invalidEndpointConfig : Err := .protocol .invalidRequest "tcp_endpoint_config"

/-- What is left up to the largest clock reading. The subtraction wraps around for a
    negative reading. -/
def remainingDuration (now : Duration) : Duration :=
  if now < 0 then maxDuration - now - 18446744073709551616 else maxDuration - now

structure TCPEndpointConfig where
  endpoint : String
  poolLimits : EndpointPoolLimits
  schedulerLimits : SchedulerLimits
  backoff : BackoffConfig
  maxRequestDeadline : Duration
  maxResponseDeadline : Duration

structure TCPLogicalRead where
  logicalViewID : Nat
  request : ReadRegistersRequest
  deriving DecidableEq, Repr

inductive RequestPhase where
  | queued
  | dispatched
  | writing
  | waiting
  deriving DecidableEq, Repr

inductive RequestLifecycle where
  | active
  | retrying
  | retryable
  | terminal
  deriving DecidableEq, Repr

/-- The backoff state of a request handle. A request for Device Identification has a
    nonzero access in `deviceID` and no reads. -/
structure RequestBackoff where
  deadlineOffset : Duration
  clockDebt : Duration := 0
  lifecycle : RequestLifecycle := .active
  retries : Int := 0
  unitID : UInt8
  authorizationScope : String
  pollGeneration : Nat
  deadlineIdentity : Nat
  reads : List TCPLogicalRead := []
  deviceID : DeviceIDRequest := {}
  deviceIDLimits : DeviceIDLimits := ⟨0, 0, 0⟩
  deviceIDDecoding : DeviceIDDecoding := .strict
  requiresBackoff : Bool := false
  backoffSatisfied : Bool := false
  backoffWaiting : Bool := false
  deriving DecidableEq, Repr

/-- A request object. Its group is missing for Device Identification. `writeDone`
    names the channel its current write closes at the end, zero for none. -/
structure EndpointRequest where
  requestID : Nat
  deadlineOffset : Duration
  connectionID : Nat
  transportGeneration : Nat
  unitID : UInt8
  authorizationScope : String
  pollGeneration : Nat
  deadlineIdentity : Nat
  group : Option Nat := none
  deviceID : DeviceIDRequest := {}
  deviceIDInitial : DeviceIDRequest := {}
  deviceIDLimits : DeviceIDLimits := ⟨0, 0, 0⟩
  deviceIDDecoding : DeviceIDDecoding := .strict
  deviceIDSegments : List DeviceIDSegment := []
  deviceIDTraversal : Option DeviceIDTolerantTraversal := none
  operationDeadline : Duration
  phase : RequestPhase := .queued
  dispatchID : Nat := 0
  physicalRequestID : Nat := 0
  transactionID : UInt16 := 0
  responseDeadline : Duration := 0
  writeCancel : Bool := false
  writeDone : Nat := 0
  cancelPending : Bool := false
  deriving DecidableEq, Repr

instance : Inhabited EndpointRequest :=
  ⟨{ requestID := 0, deadlineOffset := 0, connectionID := 0, transportGeneration := 0,
     unitID := 0, authorizationScope := "", pollGeneration := 0, deadlineIdentity := 0,
     operationDeadline := 0 }⟩

/-- The transport of a connection. `claimed` says that it holds the claim on its
    socket. A gate is true while no operation holds it. -/
structure EndpointTransport where
  generation : Nat
  closed : Bool := false
  claimed : Bool := true
  writeGate : Bool := true
  readGate : Bool := true
  coalesced : Table Nat Nat := ∅
  closeFailures : List TCPReservation := []

/-- The pool slots that are taken, and the counters that name new ones. -/
structure TCPEndpointPool where
  nextConnectionID : Nat := 1
  nextGeneration : Nat := 0
  connections : Table Nat Unit := ∅

/-- The event timeline, as far as operations depend on it. -/
structure EndpointTimeline where
  sequence : Nat := 0
  exhausted : Bool := false
  deriving DecidableEq, Repr

/-- The mutexes that are held across several regions. -/
inductive Mutex where
  | enqueue
  | schedule
  | outcome
  deriving DecidableEq, Repr

/-- One endpoint with every object it made. -/
structure EndpointState where
  config : TCPEndpointConfig
  held : Mutex → Bool := fun _ => false
  timeline : EndpointTimeline := {}
  pool : TCPEndpointPool := {}
  owners : Table Nat TCPConnectionOwner := ∅
  transports : Table Nat EndpointTransport := ∅
  system : SchedulerSystem
  /-- The groups whose mutex an operation holds across several regions. -/
  lockedGroups : Table Nat Unit := ∅
  backoff : ReconnectBackoff
  /-- Transport generation of every registered connection. -/
  connections : Table Nat Nat := ∅
  objects : Table Nat EndpointRequest := ∅
  nextObject : Nat := 0
  /-- The channels that were closed. -/
  doneChannels : Table Nat Unit := ∅
  nextChannel : Nat := 1
  requests : Table Nat Nat := ∅
  physical : Table (Nat × Nat) Nat := ∅
  retiredPhysical : Table (Nat × Nat) Unit := ∅
  handles : Table Nat RequestBackoff := ∅
  retryable : Table Nat Unit := ∅
  nextRequestID : Nat := 1
  nextDispatchID : Nat := 1
  reconnectRequired : Bool := false
  reconnectReady : Bool := false
  reconnectWaiting : Bool := false
  disableReason : String := ""
  closed : Bool := false

/-- A request object. Only numbers of objects that were made are ever asked for. -/
def EndpointState.object (state : EndpointState) (object : Nat) : EndpointRequest :=
  (state.objects.lookup object).getD default

/-- `NewTCPEndpoint`. The checks of the remote address, the framing and the buffer size
    concern data that is not modelled. -/
def newTCPEndpoint (config : TCPEndpointConfig) : Except Err EndpointState :=
  if config.maxRequestDeadline ≤ 0 ∨ config.maxResponseDeadline ≤ 0 ∨
      config.maxResponseDeadline > config.maxRequestDeadline ∨
      config.poolLimits.maxConnections ≤ 0 ∨ config.poolLimits.connection.maxInFlight ≤ 0 ∨
      config.poolLimits.maxConnections > maxInt / config.poolLimits.connection.maxInFlight ∨
      config.schedulerLimits.maxInFlightRequests >
        config.poolLimits.maxConnections * config.poolLimits.connection.maxInFlight then
    .error invalidEndpointConfig
  else if config.endpoint = "" ∨ config.poolLimits.maxConnections > 65536 ∨
      config.poolLimits.connection.maxInFlight > 65536 ∨
      config.poolLimits.connection.maxTombstones ≤ 0 ∨
      config.poolLimits.connection.maxTombstones > 65536 then
    .error (.protocol .invalidRequest "endpoint_pool_limits")
  else
    match newEndpointScheduler config.schedulerLimits, newReconnectBackoff config.backoff with
    | .ok scheduler, .ok backoff =>
      .ok { config := config, system := { scheduler := scheduler }, backoff := backoff }
    | .error err, _ => .error [.protocol err]
    | _, .error err => .error [.protocol err]

end HelianthusModbus
