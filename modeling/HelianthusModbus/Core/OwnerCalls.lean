import HelianthusModbus.Core.Owner

/-!
# Calls on a Connection Owner

The critical sections that change an owner, as one type of calls with one type of
replies. A run of an owner is a list of calls, in the order in which its mutex admits
them.

Reading an owner is not a call. Draining its failures and giving up its pool slot
return nothing a caller of the protocol sees; they are the two operations beside the
calls.

## Main definitions

* `OwnerCall`, `OwnerReply`, `TCPConnectionOwner.apply`: The calls on an owner.
* `OwnerOperation`, `TCPConnectionOwner.operate`: Everything that changes an owner.
-/

namespace HelianthusModbus

open TCPConnectionOwner (Reserve)

/-- The calls that change an owner, with the arguments their callers choose. -/
inductive OwnerCall where
  | reserve (unitID : UInt8) (request : Reserve) (deadlineOffset : Duration)
  | cancelBeforeWrite (reservation : TCPReservation)
  | replaceReservedRead (reservation : TCPReservation) (request : ReadRegistersRequest)
  | markWriteInvoked (reservation : TCPReservation)
  | recordTransmit (reservation : TCPReservation) (result : TransmitResult)
      (responseDeadlineOffset : Duration)
  | abandonAfterWrite (reservation : TCPReservation) (reason : AbandonReason)
  | abandonExpired (nowOffset : Duration)
  | correlate (generation : Nat) (adu : TCPADU)
  | bindTransport (transport : Nat)
  | loseTransport (transport : Nat)
  | close
  | retire
  | reconnect (allocated : Option Nat)
  deriving DecidableEq, Repr

/-- The replies, one shape for each shape of Go result. -/
inductive OwnerReply where
  | reserved (result : Except ProtocolError TCPReservation)
  | plain (err : Option ProtocolError)
  | transition (transition : OwnerTransition) (err : Option ProtocolError)
  | expired (reservations : List TCPReservation) (transition : OwnerTransition)
      (err : Option ProtocolError)
  | response (response : WireResponse) (errs : List ProtocolError)
  | generation (result : Except ProtocolError Nat)
  | done

namespace TCPConnectionOwner

def apply (owner : TCPConnectionOwner) : OwnerCall → OwnerReply × TCPConnectionOwner
  | .reserve unitID request deadlineOffset =>
    let result := owner.reserve unitID request deadlineOffset
    (.reserved result.1, result.2)
  | .cancelBeforeWrite reservation =>
    let result := owner.cancelBeforeWrite reservation
    (.plain result.1, result.2)
  | .replaceReservedRead reservation request =>
    let result := owner.replaceReservedRead reservation request
    (.plain result.1, result.2)
  | .markWriteInvoked reservation =>
    let result := owner.markWriteInvoked reservation
    (.plain result.1, result.2)
  | .recordTransmit reservation outcome responseDeadlineOffset =>
    let result := owner.recordTransmitUntil reservation outcome responseDeadlineOffset
    (.transition result.1 result.2.1, result.2.2)
  | .abandonAfterWrite reservation reason =>
    let result := owner.abandonAfterWrite reservation reason
    (.transition result.1 result.2.1, result.2.2)
  | .abandonExpired nowOffset =>
    let result := owner.abandonExpired nowOffset
    (.expired result.1 result.2.1 result.2.2.1, result.2.2.2)
  | .correlate generation adu =>
    let result := owner.correlate generation adu
    (.response result.1 result.2.1, result.2.2)
  | .bindTransport transport =>
    let result := owner.bindTransport transport
    (.generation result.1, result.2)
  | .loseTransport transport =>
    let result := owner.loseTransport transport
    (.transition result.1 none, result.2)
  | .close => (.done, owner.close.2)
  | .retire => (.done, owner.retire.2)
  | .reconnect allocated =>
    let result := owner.reconnect allocated
    (.generation (.ok result.1), result.2)

end TCPConnectionOwner

/-- Everything that changes an owner. -/
inductive OwnerOperation where
  | call (call : OwnerCall)
  | drainFailedReservations
  | takePoolSlot
  deriving DecidableEq, Repr

namespace TCPConnectionOwner

def operate (owner : TCPConnectionOwner) : OwnerOperation → TCPConnectionOwner
  | .call call => (owner.apply call).2
  | .drainFailedReservations => owner.drainFailedReservations.2
  | .takePoolSlot => owner.takePoolSlot.2

def operateAll (owner : TCPConnectionOwner) (operations : List OwnerOperation) :
    TCPConnectionOwner :=
  operations.foldl operate owner

end TCPConnectionOwner

end HelianthusModbus
