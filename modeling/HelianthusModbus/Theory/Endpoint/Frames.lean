import HelianthusModbus.Core.Endpoint.Exec

/-!
# What Regions Leave Alone

The table regions of the endpoint change few of its fields. This module says which, for
the steps that are not visibly an update of a record. Apart from the opening of a
connection, they are about requests and their handles only, and leave the owners, the pool
and the scheduler alone.

## Main definitions

* `EndpointState.core`: The part of the endpoint that the tables of requests leave alone.

## Theorems

* `TableOp.core_exec`: Every region of the tables but one keeps the core.
-/

namespace HelianthusModbus

namespace EndpointState

variable (state : EndpointState)

theorem removeRequestLocked_frame (requestID : Nat) :
    ∃ physical, state.removeRequestLocked requestID =
      { state with requests := state.requests.erase requestID, physical := physical } := by
  unfold removeRequestLocked ref
  cases hlook : state.requests.lookup requestID with
  | none =>
    refine ⟨state.physical, ?_⟩
    have hsame : state.requests.erase requestID = state.requests := by
      refine AList.ext ?_
      exact List.kerase_of_notMem_keys (AList.lookup_eq_none.mp hlook)
    rw [hsame]
    rfl
  | some object => exact ⟨_, rfl⟩

theorem foldl_removeRequestLocked_frame (requestIDs : List Nat) :
    ∃ physical, requestIDs.foldl removeRequestLocked state =
      { state with requests := state.requests.eraseAll requestIDs, physical := physical } := by
  induction requestIDs generalizing state with
  | nil => exact ⟨_, rfl⟩
  | cons requestID rest ih =>
    obtain ⟨physical, hremove⟩ := state.removeRequestLocked_frame requestID
    obtain ⟨physical', hrest⟩ := ih (state.removeRequestLocked requestID)
    refine ⟨physical', ?_⟩
    rw [List.foldl_cons, hrest, hremove]
    rfl

theorem takeRequests_frame (requestIDs : List Nat) :
    ∃ physical, (state.takeRequests requestIDs).2 =
      { state with requests := state.requests.eraseAll requestIDs, physical := physical } :=
  state.foldl_removeRequestLocked_frame requestIDs

end EndpointState

namespace EndpointState

/-- The owners, the pool, and the scheduler with its groups. -/
def core (state : EndpointState) :
    Table Nat TCPConnectionOwner × TCPEndpointPool × SchedulerSystem :=
  (state.owners, state.pool, state.system)

variable (state : EndpointState)

theorem core_removeRequestLocked (requestID : Nat) :
    (state.removeRequestLocked requestID).core = state.core := by
  rcases state.removeRequestLocked_frame requestID with ⟨physical, hremove⟩
  rw [hremove]
  rfl

theorem core_takeRequests (requestIDs : List Nat) :
    (state.takeRequests requestIDs).2.core = state.core := by
  rcases state.takeRequests_frame requestIDs with ⟨physical, htake⟩
  rw [htake]
  rfl

theorem core_forgetConnection (connection : Nat) :
    (state.forgetConnection connection).2.core = state.core := by
  unfold forgetConnection
  dsimp only
  rw [core_takeRequests]
  rfl

theorem core_shutdown : state.shutdown.2.core = state.core := by
  unfold shutdown
  split
  · rfl
  have htaken := core_takeRequests
    { state with
      closed := true
      disableReason := if state.disableReason = "" then "closed" else state.disableReason
      reconnectRequired := false
      reconnectReady := false
      reconnectWaiting := false
      connections := ∅
      retiredPhysical := ∅ } state.requests.sortedKeys
  exact htaken

theorem core_register (requestID : Nat) (request : EndpointRequest) (backoff : RequestBackoff) :
    (state.register requestID request backoff).2.core = state.core := by
  unfold register
  split_ifs
  · rfl
  · rfl
  · rfl
  · rfl

theorem core_pruneExpired (now : Duration) : (state.pruneExpired now).2.core = state.core :=
  state.core_takeRequests _

theorem core_take (requestID : Nat) (now : Duration) :
    (state.take requestID now).2.core = state.core := by
  unfold take
  split
  · rfl
  split_ifs
  · exact state.core_removeRequestLocked requestID
  · exact state.core_removeRequestLocked requestID
  · rfl

theorem core_beginWriting (dispatchID requestID : Nat) :
    (state.beginWriting dispatchID requestID).2.core = state.core := by
  unfold beginWriting
  split
  · rfl
  · split_ifs
    · rfl
    · rfl

theorem core_attachPhysical (object : Nat) (reservation : TCPReservation) :
    (state.attachPhysical object reservation).2.core = state.core := by
  unfold attachPhysical
  dsimp only
  split_ifs
  · rfl
  · rfl

theorem core_finishWrite (object : Nat) (reservation : TCPReservation) (failed abandoned : Bool) :
    (state.finishWrite object reservation failed abandoned).2.core = state.core := by
  unfold finishWrite
  dsimp only
  split
  · rfl
  split
  · rw [core_removeRequestLocked]
    split
    · rfl
    · rfl
  · split
    · exact state.core_removeRequestLocked _
    · rfl

theorem core_trackRetryable (requestID : Nat) (lifecycle : RequestLifecycle)
    (requiresBackoff : Bool) :
    (state.trackRetryable requestID lifecycle requiresBackoff).2.core = state.core := by
  unfold trackRetryable
  dsimp only
  split
  · split
    · rfl
    split
    · split
      · rfl
      · rfl
    · rfl
  · rfl

theorem core_cancelLookup (requestID logicalViewID : Nat) :
    (state.cancelLookup requestID logicalViewID).2.core = state.core := by
  unfold cancelLookup
  split
  · split
    · rfl
    · rfl
  split
  · rfl
  split_ifs
  · rfl
  · rfl
  · rfl

theorem core_cancelAllLookup (requestID : Nat) :
    (state.cancelAllLookup requestID).2.core = state.core := by
  unfold cancelAllLookup
  split
  · split
    · rfl
    · rfl
  split
  · rfl
  · split
    · rfl
    · rfl

theorem core_removeDevice (ref : RequestRef) : (state.removeDevice ref).2.core = state.core := by
  unfold removeDevice
  dsimp only
  split
  · rw [core_removeRequestLocked]
    rfl
  · exact state.core_removeRequestLocked _

theorem core_cancelDevice (requestID : Nat) (written : Bool) :
    (state.cancelDevice requestID written).2.core = state.core := by
  unfold cancelDevice
  split
  · rfl
  dsimp only
  split_ifs
  · rfl
  · exact state.core_removeDevice _
  · rfl
  · rfl
  · rfl
  · exact state.core_removeDevice _

theorem core_retryRegister (connection requestID : Nat) (request : EndpointRequest) :
    (state.retryRegister connection requestID request).2.core = state.core := by
  unfold retryRegister
  split
  · rfl
  dsimp only
  split
  · rfl
  · rfl

theorem core_continueDeviceID (object : Nat) (next : DeviceIDRequest) :
    (state.continueDeviceID object next).2.core = state.core := by
  unfold continueDeviceID
  dsimp only
  split
  · rfl
  · rfl

theorem system_openConnection (input : Input) :
    (state.openConnection input).2.system = state.system := by
  unfold openConnection
  dsimp only
  split
  · rfl
  split
  · rfl
  split
  · rfl
  split
  · rfl
  split
  · rfl
  split
  · rfl
  split
  · rfl
  split
  · rfl
  · rfl

end EndpointState

open EndpointState in
/-- Every section of the endpoint's mutex but the opening of a connection is about requests. -/
theorem TableOp.core_exec (input : Input) (state : EndpointState) (op : TableOp)
    (hop : op ≠ .openConnection) : (op.exec input state).2.core = state.core := by
  cases op with
  | openConnection => exact absurd rfl hop
  | register requestID request backoff => exact state.core_register requestID request backoff
  | pruneExpired now => exact state.core_pruneExpired now
  | take requestID now => exact state.core_take requestID now
  | beginWriting dispatchID requestID => exact state.core_beginWriting dispatchID requestID
  | attachPhysical object reservation => exact state.core_attachPhysical object reservation
  | finishWrite object reservation failed abandoned =>
    exact state.core_finishWrite object reservation failed abandoned
  | removeRequest requestID => exact state.core_removeRequestLocked requestID
  | dropConnection connection => exact state.core_forgetConnection connection
  | closeConnection connection =>
    simp only [TableOp.exec]
    split
    · rfl
    · exact state.core_forgetConnection connection
  | shutdown => exact state.core_shutdown
  | markReconnectRequired lost | beginReconnectWait =>
    simp only [TableOp.exec]
    split
    · rfl
    · rfl
  | trackRetryable requestID lifecycle requiresBackoff =>
    exact state.core_trackRetryable requestID lifecycle requiresBackoff
  | cancelLookup requestID logicalViewID => exact state.core_cancelLookup requestID logicalViewID
  | cancelAllLookup requestID => exact state.core_cancelAllLookup requestID
  | cancelDevice requestID written => exact state.core_cancelDevice requestID written
  | retryRegister connection requestID request =>
    exact state.core_retryRegister connection requestID request
  | failPhysical connection physicalRequestID =>
    simp only [TableOp.exec]
    split
    · rfl
    · exact state.core_removeRequestLocked _
  | continueDeviceID object next => exact state.core_continueDeviceID object next
  | _ => rfl

end HelianthusModbus
