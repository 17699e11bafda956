import HelianthusModbus.Core.OwnerCalls
import HelianthusModbus.Lib.Machine

/-!
# Connection Pool

The pool that names connections and hands out transport generations, with all owners it
made.

Opening and closing hold the mutex of the pool, and everything on an owner holds the
owner's. The generation counter has no mutex: it is read, and then swapped if it still
has the value that was read. So the operations are machines here, split at these two
atomic accesses and wherever a mutex is taken or given back. A step that has to wait for
a mutex is not possible.

An owner is named by its place in the list of all owners, which stands for its address.
Two connections may be confused only by their connection ids, which is what the pool has
to prevent.

The results of all calls are kept in the order in which they were returned. No operation
reads them.

## Main definitions

* `TCPPoolState`: The pool and its owners.
* `PoolCall`, `PoolPhase`: The operations, and where one is.
* `poolMachine`: The machine of all operations.
-/

namespace HelianthusModbus

structure EndpointPoolLimits where
  maxConnections : Int
  connection : ConnectionLimits
  deriving DecidableEq, Repr

/-- A handle of a live connection. The default is the Go zero value. -/
structure TCPConnectionLease where
  pool : Option Nat := none
  connectionID : Nat := 0
  owner : Option Nat := none
  deriving DecidableEq, Repr

/-- An owner with its mutex. -/
structure PooledOwner where
  owner : TCPConnectionOwner
  locked : Bool := false

/-- What an operation returned. An opened connection is shown with the generation of its
    new owner, and a reconnect with whether the generation it returned is a new one. -/
inductive PoolResult where
  | opened (lease : TCPConnectionLease) (generation : Nat)
  | refused (err : ProtocolError)
  | closed (err : Option ProtocolError)
  | released
  | drained (owner : Nat) (failed : List TCPReservation)
  | replied (owner : Nat) (reply : OwnerReply)
  | reconnected (owner generation : Nat) (fresh : Bool)

/-- A pool with its mutex and every owner it made. -/
structure TCPPoolState where
  pool : Nat := 0
  endpoint : String
  limits : EndpointPoolLimits
  locked : Bool := false
  nextConnectionID : Nat := 1
  nextGeneration : Nat := 0
  connections : Table Nat Nat := ∅
  owners : List PooledOwner := []
  results : List PoolResult := []

/-- The operations. An owner is called through `onOwner`; its reconnect goes to the pool for
    a generation and giving up its slot goes to the pool as well, so these two are apart. -/
inductive PoolCall where
  | openConnection
  | closeConnection (lease : TCPConnectionLease)
  | releasePoolSlot (owner : Nat)
  | reconnect (owner : Nat)
  | drainFailedReservations (owner : Nat)
  | onOwner (owner : Nat) (call : OwnerCall)

/-- What a generation is allocated for. -/
inductive GenerationUse where
  | connection (connectionID : Nat)
  | owner (owner : Nat)
  deriving DecidableEq, Repr

/-- Where an operation is, with its local variables. -/
inductive PoolPhase where
  | starting
  | loading (purpose : GenerationUse)
  | swapping (purpose : GenerationUse) (current : Nat)
  | allocated (purpose : GenerationUse) (generation : Nat)
  | retiring (lease : TCPConnectionLease)
  | removing (lease : TCPConnectionLease)
  | releasing (owner connectionID : Nat)
  | done
  deriving DecidableEq, Repr

def PoolPhase.isDone : PoolPhase → Bool
  | .done => true
  | _ => false

/-- The second half of `Reconnect`, once the generation is allocated. -/
def TCPConnectionOwner.restart (owner : TCPConnectionOwner) (generation : Nat) :
    TCPConnectionOwner :=
  { owner with
    generation := generation, closed := false, nextTransactionID := 0, inFlight := ∅
    }.forgetSocket

namespace TCPPoolState

def returning (state : TCPPoolState) (result : PoolResult) : PoolPhase × TCPPoolState :=
  (.done, { state with results := result :: state.results })

def setOwner (state : TCPPoolState) (owner : Nat) (pooled : PooledOwner) : TCPPoolState :=
  { state with owners := state.owners.set owner pooled }

/-- `openConnection` up to the allocation of a generation. -/
def beginOpen (state : TCPPoolState) : Option (PoolPhase × TCPPoolState) :=
  if state.locked then none
  else if (state.connections.entries.length : Int) ≥ state.limits.maxConnections then
    some (state.returning (.refused (protocolError .invalidRange 0 0 "connections" (-1))))
  else if state.nextConnectionID = 0 then
    some (state.returning (.refused (protocolError .invalidRange 0 0 "connection_identity" (-1))))
  else some (.loading (.connection state.nextConnectionID), { state with locked := true })

/-- The load of `allocateGeneration`. Zero says that no generation is left. -/
def load (state : TCPPoolState) (purpose : GenerationUse) : PoolPhase × TCPPoolState :=
  if state.nextGeneration = maxUint64 then (.allocated purpose 0, state)
  else (.swapping purpose state.nextGeneration, state)

/-- The compare-and-swap of `allocateGeneration`. -/
def swap (state : TCPPoolState) (purpose : GenerationUse) (current : Nat) :
    PoolPhase × TCPPoolState :=
  if state.nextGeneration = current then
    (.allocated purpose (current + 1), { state with nextGeneration := current + 1 })
  else (.loading purpose, state)

/-- The next connection id, with the mutex given back. -/
def advanced (state : TCPPoolState) : TCPPoolState :=
  { state with locked := false, nextConnectionID := nextUint64 state.nextConnectionID }

/-- Filing a new owner under its connection id. -/
def register (state : TCPPoolState) (connectionID : Nat) (owner : TCPConnectionOwner) :
    TCPPoolState :=
  { state with
    owners := state.owners ++
      [{ owner := { owner with connectionID := connectionID, pooled := true } }]
    connections := state.connections.insert connectionID state.owners.length }

/-- `openConnection` from there on. -/
def finishOpen (state : TCPPoolState) (connectionID generation : Nat) :
    PoolPhase × TCPPoolState :=
  if generation = 0 then
    returning { state with locked := false }
      (.refused (protocolError .invalidRange 0 0 "transport_generation" (-1)))
  else
    match newTCPConnectionOwner state.endpoint generation state.limits.connection with
    | .error err => state.advanced.returning (.refused err)
    | .ok owner =>
      (state.advanced.register connectionID owner).returning (.opened
        { pool := some state.pool, connectionID := connectionID
          owner := some state.owners.length } generation)

/-- `Reconnect` up to the allocation of a generation. -/
def beginReconnect (state : TCPPoolState) (owner : Nat) : Option (PoolPhase × TCPPoolState) :=
  match state.owners[owner]? with
  | none => none
  | some pooled =>
    if pooled.locked then none
    else if pooled.owner.closed = false ∨ pooled.owner.retired = true ∨
        pooled.owner.boundTransport.isSome then
      some (state.returning (.reconnected owner pooled.owner.generation false))
    else
      some (.loading (.owner owner), state.setOwner owner { pooled with locked := true })

/-- `Reconnect` from there on. -/
def finishReconnect (state : TCPPoolState) (owner generation : Nat) :
    Option (PoolPhase × TCPPoolState) :=
  match state.owners[owner]? with
  | none => none
  | some pooled =>
    if generation = 0 then
      some ((state.setOwner owner { pooled with locked := false }).returning
        (.reconnected owner pooled.owner.generation false))
    else
      some ((state.setOwner owner { owner := pooled.owner.restart generation }).returning
        (.reconnected owner generation true))

/-- `closeConnection` up to the mutex of the owner. -/
def beginClose (state : TCPPoolState) (lease : TCPConnectionLease) :
    Option (PoolPhase × TCPPoolState) :=
  if state.locked then none
  else if lease.pool ≠ some state.pool ∨ lease.connectionID = 0 ∨
      state.connections.lookup lease.connectionID ≠ lease.owner then
    some (state.returning
      (.closed (some (protocolError .invalidRequest 0 0 "connection_lease" (-1)))))
  else some (.retiring lease, { state with locked := true })

/-- `retire` of the owner of a lease. A lease without an owner has nothing to retire. -/
def retireOwner (state : TCPPoolState) (lease : TCPConnectionLease) :
    Option (PoolPhase × TCPPoolState) :=
  match lease.owner with
  | none => some (.removing lease, state)
  | some owner =>
    match state.owners[owner]? with
    | none => none
    | some pooled =>
      if pooled.locked then none
      else some (.removing lease, state.setOwner owner { owner := pooled.owner.retire.2 })

/-- `closeConnection` from there on. -/
def finishClose (state : TCPPoolState) (lease : TCPConnectionLease) :
    PoolPhase × TCPPoolState :=
  returning { state with
    locked := false, connections := state.connections.erase lease.connectionID } (.closed none)

/-- The half of `releasePoolSlot` on the owner. -/
def beginRelease (state : TCPPoolState) (owner : Nat) : Option (PoolPhase × TCPPoolState) :=
  match state.owners[owner]? with
  | none => none
  | some pooled =>
    if pooled.locked then none
    else
      let taken := pooled.owner.takePoolSlot
      let after := state.setOwner owner { owner := taken.2 }
      if taken.1 then some (.releasing owner pooled.owner.connectionID, after)
      else some (after.returning .released)

def finishRelease (state : TCPPoolState) (owner connectionID : Nat) :
    Option (PoolPhase × TCPPoolState) :=
  if state.locked then none
  else if state.connections.lookup connectionID = some owner then
    some (returning { state with connections := state.connections.erase connectionID } .released)
  else some (state.returning .released)

def drainOwner (state : TCPPoolState) (owner : Nat) : Option (PoolPhase × TCPPoolState) :=
  match state.owners[owner]? with
  | none => none
  | some pooled =>
    if pooled.locked then none
    else
      let drained := pooled.owner.drainFailedReservations
      some ((state.setOwner owner { owner := drained.2 }).returning (.drained owner drained.1))

def callOwner (state : TCPPoolState) (owner : Nat) (call : OwnerCall) :
    Option (PoolPhase × TCPPoolState) :=
  match state.owners[owner]? with
  | none => none
  | some pooled =>
    if pooled.locked then none
    else
      match call with
      -- An owner of a pool gets its generations from the pool.
      | .reconnect _ => none
      | call =>
        let replied := pooled.owner.apply call
        some ((state.setOwner owner { owner := replied.2 }).returning
          (.replied owner replied.1))

end TCPPoolState

namespace PoolCall

/-- The first step of an operation. -/
def begin (state : TCPPoolState) : PoolCall → Option (PoolPhase × TCPPoolState)
  | .openConnection => state.beginOpen
  | .closeConnection lease => state.beginClose lease
  | .releasePoolSlot owner => state.beginRelease owner
  | .reconnect owner => state.beginReconnect owner
  | .drainFailedReservations owner => state.drainOwner owner
  | .onOwner owner call => state.callOwner owner call

/-- The step from a phase. -/
def advance (call : PoolCall) (_ : Unit) (phase : PoolPhase) (state : TCPPoolState) :
    Option (PoolPhase × TCPPoolState) :=
  match phase with
  | .starting => call.begin state
  | .loading purpose => some (state.load purpose)
  | .swapping purpose current => some (state.swap purpose current)
  | .allocated (.connection connectionID) generation =>
    some (state.finishOpen connectionID generation)
  | .allocated (.owner owner) generation => state.finishReconnect owner generation
  | .retiring lease => state.retireOwner lease
  | .removing lease => some (state.finishClose lease)
  | .releasing owner connectionID => state.finishRelease owner connectionID
  | .done => none

end PoolCall

/-- The machine of all operations on a pool and its owners. -/
def poolMachine : Machine TCPPoolState PoolCall PoolPhase Unit where
  start := fun _ => .starting
  advance := PoolCall.advance
  done := PoolPhase.isDone

end HelianthusModbus
