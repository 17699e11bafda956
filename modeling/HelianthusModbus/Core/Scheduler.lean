import HelianthusModbus.Core.Coalescing

/-!
# Endpoint Scheduler

The bounded admission queues of one endpoint. Capacity is counted by admission
key, an authorization scope together with a unit, and served round robin, first
over the scopes and then over the units of a scope.

An entry is either queued, and then stands in the queue of its key, or in flight.
A plain request weighs one queue slot while it is queued. A coalesced group
weighs nothing itself; instead each of its active dependents holds a slot of the
key until that dependent reaches a terminal state, whatever happens to the entry.

The source keeps one heap object for an entry and stores it both in the entry
table and in its queue. Here both hold a copy. The object is changed only while
it is in no queue, so the copies agree, and a fresh sequence number is given to
every entry that is put in a queue, so equality of copies is identity of objects.

Groups that have to be failed are failed by their own methods after the
scheduler's mutex is released. The functions here return the names of those
groups.

## Main definitions

* `EndpointScheduler`: The scheduler's state.
* `validateSchedulerLimits`: The accepted limits.
* `EndpointScheduler.checkAdmissionCount`: The admission check.
* `EndpointScheduler.enqueue`, `EndpointScheduler.scheduleCoalescedLocked`:
  Admission.
* `EndpointScheduler.dispatch`: Expiry and the next request in turn.
* `EndpointScheduler.cancelQueued`, `EndpointScheduler.retry`,
  `EndpointScheduler.complete`, `EndpointScheduler.finishCoalesced`: The ways an
  entry leaves.
-/

namespace HelianthusModbus

/-- The bounds of a scheduler. Its fields are machine integers; only the upper
    bound of two of them is ever used. -/
structure SchedulerLimits where
  maxActiveAdmissionKeys : Int
  protectedSlotsPerKey : Int
  sharedBurstSlots : Int
  totalQueued : Int
  maxQueuedPerKey : Int
  maxQueuedPerAuthorizationScope : Int
  maxCoalescedDependentsPerKey : Int
  maxRetryAttempts : Int
  maxInFlightRequests : Int
  machine : totalQueued ≤ maxInt ∧ maxInFlightRequests ≤ maxInt := by decide
  deriving DecidableEq, Repr

def invalidSchedulerLimits : ProtocolError :=
  protocolError .invalidRequest 0 0 "scheduler_limits" (-1)

def validateSchedulerLimits (limits : SchedulerLimits) : Option ProtocolError :=
  if limits.maxActiveAdmissionKeys ≤ 0 ∨ limits.protectedSlotsPerKey ≤ 0 ∨
      limits.sharedBurstSlots ≤ 0 ∨ limits.totalQueued ≤ 0 ∨ limits.maxQueuedPerKey ≤ 0 ∨
      limits.maxQueuedPerAuthorizationScope ≤ 0 ∨ limits.maxCoalescedDependentsPerKey ≤ 0 ∨
      limits.maxRetryAttempts ≤ 0 ∨ limits.maxInFlightRequests ≤ 0 then
    some invalidSchedulerLimits
  else if limits.maxActiveAdmissionKeys > maxInt / limits.protectedSlotsPerKey then
    some invalidSchedulerLimits
  else
    let protectedSlots := limits.maxActiveAdmissionKeys * limits.protectedSlotsPerKey
    if protectedSlots > maxInt - limits.sharedBurstSlots then some invalidSchedulerLimits
    else
      let required := protectedSlots + limits.sharedBurstSlots
      if limits.totalQueued < required ∨
          limits.maxQueuedPerKey < limits.protectedSlotsPerKey ∨
          limits.maxQueuedPerKey > limits.totalQueued ∨
          limits.maxQueuedPerAuthorizationScope < protectedSlots ∨
          limits.maxQueuedPerAuthorizationScope > limits.totalQueued ∨
          limits.maxCoalescedDependentsPerKey < limits.protectedSlotsPerKey ∨
          limits.maxCoalescedDependentsPerKey > maxCoalescedDependents ∨
          limits.maxCoalescedDependentsPerKey > limits.totalQueued then
        some invalidSchedulerLimits
      else none

structure ScheduledRequest where
  requestID : Nat
  key : AdmissionKey
  deadlineOffset : Int
  deriving DecidableEq, Repr

def validScheduledRequest (request : ScheduledRequest) : Bool :=
  request.requestID ≠ 0 ∧ request.key.authorizationScope ≠ "" ∧ request.key.unitID ≤ 247 ∧
    request.deadlineOffset > 0

inductive ScheduledState where
  | queued
  | inFlight
  deriving DecidableEq, Repr

/-- One scheduled request. `coalesced` names its group, if it has one. -/
structure ScheduledEntry where
  request : ScheduledRequest
  sequence : Nat
  state : ScheduledState
  retries : Int := 0
  admissionWeight : Int
  coalesced : Option Nat := none
  deriving DecidableEq, Repr

structure AdmissionState where
  queue : List ScheduledEntry := []
  queued : Int := 0
  inFlight : Int := 0
  dependents : Int := 0
  deriving DecidableEq, Repr

structure EndpointScheduler where
  limits : SchedulerLimits
  nextSequence : Nat := 0
  entries : Table Nat ScheduledEntry := ∅
  coalesced : Table Nat Nat := ∅
  keys : Table AdmissionKey AdmissionState := ∅
  scopeOrder : List String := []
  unitOrder : Table String (List UInt8) := ∅
  scopeCursor : Nat := 0
  unitCursor : Table String Nat := ∅
  inFlight : Int := 0

def newEndpointScheduler (limits : SchedulerLimits) : Except ProtocolError EndpointScheduler :=
  match validateSchedulerLimits limits with
  | some err => .error err
  | none => .ok { limits := limits }

/-- Addition of two counters, refused when either is negative or the sum does not
    fit a machine integer. -/
def checkedAdmissionAdd (first second : Int) : Option Int :=
  if first < 0 ∨ second < 0 ∨ first > maxInt - second then none else some (first + second)

/-- What is left of a limit, refused when the limit is exceeded. -/
def checkedAdmissionRemaining (limit used : Int) : Option Int :=
  if limit < 0 ∨ used < 0 ∨ used > limit then none else some (limit - used)

def schedulerAdmissionError (field : String) : ProtocolError :=
  protocolError .invalidRange 0 0 field (-1)

/-- The failure of an internal counter check. -/
def admissionAccounting : ProtocolError := schedulerAdmissionError "admission_accounting"

/-- The position of a cursor after one element of its list was removed. -/
def cursorAfterRemoval (cursor removedIndex oldLength : Nat) : Nat :=
  if oldLength ≤ 1 then 0
  else
    let moved := if cursor > removedIndex then cursor - 1 else cursor
    if moved ≥ oldLength - 1 then 0 else moved

/-- The indices of a list in the order a cursor probes them. -/
def probeOrder (cursor length : Nat) : List Nat :=
  (List.range length).map fun checked => (cursor + checked) % length

namespace EndpointScheduler

/-- The units of a scope, in service order. -/
def unitsOf (scheduler : EndpointScheduler) (scope : String) : List UInt8 :=
  (scheduler.unitOrder.lookup scope).getD []

def rememberOrder (scheduler : EndpointScheduler) (key : AdmissionKey) : EndpointScheduler :=
  let scope := key.authorizationScope
  let units := scheduler.unitsOf scope
  { scheduler with
    scopeOrder :=
      if scope ∈ scheduler.scopeOrder then scheduler.scopeOrder
      else scheduler.scopeOrder ++ [scope]
    unitOrder :=
      if key.unitID ∈ units then scheduler.unitOrder
      else scheduler.unitOrder.insert scope (units ++ [key.unitID]) }

def forgetOrder (scheduler : EndpointScheduler) (key : AdmissionKey) : EndpointScheduler :=
  let scope := key.authorizationScope
  let units := scheduler.unitsOf scope
  if key.unitID ∉ units then scheduler
  else
    let remaining := units.erase key.unitID
    if remaining ≠ [] then
      { scheduler with
        unitOrder := scheduler.unitOrder.insert scope remaining
        unitCursor := scheduler.unitCursor.insert scope
          (cursorAfterRemoval ((scheduler.unitCursor.lookup scope).getD 0)
            (units.idxOf key.unitID) units.length) }
    else
      let forgotten :=
        { scheduler with
          unitOrder := scheduler.unitOrder.erase scope
          unitCursor := scheduler.unitCursor.erase scope }
      if scope ∉ scheduler.scopeOrder then forgotten
      else
        { forgotten with
          scopeOrder := scheduler.scopeOrder.erase scope
          scopeCursor := cursorAfterRemoval scheduler.scopeCursor
            (scheduler.scopeOrder.idxOf scope) scheduler.scopeOrder.length }

/-- Removing a key once nothing is left under it. -/
def releaseIfEmpty (scheduler : EndpointScheduler) (key : AdmissionKey) : EndpointScheduler :=
  match scheduler.keys.lookup key with
  | none => scheduler
  | some state =>
    if state.queue = [] ∧ state.inFlight = 0 ∧ state.dependents = 0 then
      { scheduler with keys := scheduler.keys.erase key }.forgetOrder key
    else scheduler

def setKey (scheduler : EndpointScheduler) (key : AdmissionKey) (state : AdmissionState) :
    EndpointScheduler :=
  { scheduler with keys := scheduler.keys.insert key state }

def openKey (scheduler : EndpointScheduler) (key : AdmissionKey) :
    AdmissionState × EndpointScheduler :=
  match scheduler.keys.lookup key with
  | some state => (state, scheduler)
  | none => ({}, (scheduler.setKey key {}).rememberOrder key)

def forgetEntryLocked (scheduler : EndpointScheduler) (entry : ScheduledEntry) :
    EndpointScheduler :=
  { scheduler with
    entries := scheduler.entries.erase entry.request.requestID
    coalesced :=
      match entry.coalesced with
      | none => scheduler.coalesced
      | some group => scheduler.coalesced.erase group }

/-- The first loop of the admission check, over the entries of the key table: the
    total occupancy and the occupancy of one scope. -/
def sumOccupied (scope : String) :
    List ((_ : AdmissionKey) × AdmissionState) → Int → Int → Option (Int × Int)
  | [], total, scopeQueued => some (total, scopeQueued)
  | ⟨activeKey, state⟩ :: rest, total, scopeQueued => do
      let occupied ← checkedAdmissionAdd state.queued state.dependents
      let total ← checkedAdmissionAdd total occupied
      let scopeQueued ←
        if activeKey.authorizationScope = scope then checkedAdmissionAdd scopeQueued occupied
        else some scopeQueued
      sumOccupied scope rest total scopeQueued

/-- The second loop: what the other active keys may still claim of their protected
    slots, on top of what is already reserved. -/
def sumReserved (key : AdmissionKey) (slots : Int) :
    List ((_ : AdmissionKey) × AdmissionState) → Int → Option Int
  | [], reserved => some reserved
  | ⟨activeKey, state⟩ :: rest, reserved =>
    if activeKey = key then sumReserved key slots rest reserved
    else do
      let occupied ← checkedAdmissionAdd state.queued state.dependents
      if occupied < slots then
        let reserved ← checkedAdmissionAdd reserved (slots - occupied)
        sumReserved key slots rest reserved
      else sumReserved key slots rest reserved

/-- The occupancy of one key, zero for a key that is not active. -/
def keyOccupied (scheduler : EndpointScheduler) (key : AdmissionKey) : Option Int :=
  match scheduler.keys.lookup key with
  | none => some 0
  | some state => checkedAdmissionAdd state.queued state.dependents

/-- The last part of the admission check, once the occupancy is known: the
    capacity that is promised to other keys is not used. -/
def checkProtected (scheduler : EndpointScheduler) (key : AdmissionKey) (active : Bool)
    (count totalQueued : Int) : Option ProtocolError :=
  let limits := scheduler.limits
  let resultingActive : Int := scheduler.keys.entries.length + (if active then 0 else 1)
  if resultingActive > limits.maxActiveAdmissionKeys then
    some (schedulerAdmissionError "active_admission_keys")
  else
    match sumReserved key limits.protectedSlotsPerKey scheduler.keys.entries
      ((limits.maxActiveAdmissionKeys - resultingActive) * limits.protectedSlotsPerKey) with
    | none => some admissionAccounting
    | some reservedCapacity =>
      match checkedAdmissionRemaining limits.totalQueued reservedCapacity with
      | none => some admissionAccounting
      | some usableNow =>
        match checkedAdmissionRemaining usableNow totalQueued with
        | none => some (schedulerAdmissionError "protected_capacity")
        | some usableRemaining =>
          if count > usableRemaining then
            some (schedulerAdmissionError "protected_capacity")
          else none

/-- Whether `count` more slots may be taken under a key; `none` admits them. -/
def checkAdmissionCount (scheduler : EndpointScheduler) (key : AdmissionKey) (active : Bool)
    (count : Int) : Option ProtocolError :=
  let limits := scheduler.limits
  if count ≤ 0 then some (schedulerAdmissionError "queued_capacity")
  else if active = false ∧
      (scheduler.keys.entries.length : Int) ≥ limits.maxActiveAdmissionKeys then
    some (schedulerAdmissionError "active_admission_keys")
  else
    match scheduler.keyOccupied key with
    | none => some admissionAccounting
    | some keyQueued =>
      match checkedAdmissionRemaining limits.maxQueuedPerKey keyQueued with
      | none => some admissionAccounting
      | some keyRemaining =>
        if count > keyRemaining then some (schedulerAdmissionError "queued_per_key")
        else
          match sumOccupied key.authorizationScope scheduler.keys.entries 0 0 with
          | none => some admissionAccounting
          | some (totalQueued, scopeQueued) =>
            match checkedAdmissionRemaining limits.totalQueued totalQueued,
              checkedAdmissionRemaining limits.maxQueuedPerAuthorizationScope
                scopeQueued with
            | some totalRemaining, some scopeRemaining =>
              if count > totalRemaining ∨ count > scopeRemaining then
                some (schedulerAdmissionError "queued_capacity")
              else scheduler.checkProtected key active count totalQueued
            | _, _ => some admissionAccounting

def enqueueLocked (scheduler : EndpointScheduler) (request : ScheduledRequest)
    (group : Option Nat) (admissionWeight : Int) : Option ProtocolError × EndpointScheduler :=
  if (scheduler.entries.lookup request.requestID).isSome then
    (some (protocolError .invalidRequest 0 0 "request_id" (-1)), scheduler)
  else
    let active := (scheduler.keys.lookup request.key).isSome
    let refused :=
      if admissionWeight > 0 then
        scheduler.checkAdmissionCount request.key active admissionWeight
      else none
    match refused with
    | some err => (some err, scheduler)
    | none =>
      let opened := scheduler.openKey request.key
      let sequence := nextUint64 opened.2.nextSequence
      let entry : ScheduledEntry :=
        { request := request, sequence := sequence, state := .queued,
          admissionWeight := admissionWeight, coalesced := group }
      let numbered := { opened.2 with nextSequence := sequence }
      match checkedAdmissionAdd opened.1.queued admissionWeight with
      | none => (some admissionAccounting, numbered.releaseIfEmpty request.key)
      | some queued =>
        let placed := numbered.setKey request.key
          { opened.1 with queue := opened.1.queue ++ [entry], queued := queued }
        (none,
          { placed with
            entries := placed.entries.insert request.requestID entry
            coalesced :=
              match group with
              | none => placed.coalesced
              | some group => placed.coalesced.insert group request.requestID })

/-- `Enqueue`: admission of one plain request. -/
def enqueue (scheduler : EndpointScheduler) (request : ScheduledRequest) :
    Option ProtocolError × EndpointScheduler :=
  if validScheduledRequest request = false then
    (some (protocolError .invalidRequest 0 0 "scheduled_request" (-1)), scheduler)
  else scheduler.enqueueLocked request none 1

def validateCoalescedRequest (request : ScheduledRequest) (intents : List ReadIntent) :
    Option ProtocolError :=
  match intents with
  | [] => some (protocolError .invalidRequest 0 0 "scheduled_coalesced_request" (-1))
  | first :: _ =>
    if validScheduledRequest request = false then
      some (protocolError .invalidRequest 0 0 "scheduled_coalesced_request" (-1))
    else if request.key.authorizationScope ≠ first.spec.authorizationScope ∨
        request.key.unitID ≠ first.spec.unitID then
      some (protocolError .invalidRequest first.spec.request.function 0
        "scheduled_coalesced_identity" (-1))
    else none

/-- The locked part of `ScheduleCoalesced`. Its dependents are admitted first, then
    the group is queued without weight. A refusal after the key was opened closes
    it again. -/
def scheduleCoalescedLocked (scheduler : EndpointScheduler) (request : ScheduledRequest)
    (count : Int) (group : Nat) : Option ProtocolError × EndpointScheduler :=
  if (scheduler.entries.lookup request.requestID).isSome then
    (some (protocolError .invalidRequest 0 0 "request_id" (-1)), scheduler)
  else
    let active := (scheduler.keys.lookup request.key).isSome
    match scheduler.checkAdmissionCount request.key active count with
    | some err => (some err, scheduler)
    | none =>
      let opened := scheduler.openKey request.key
      match checkedAdmissionRemaining scheduler.limits.maxCoalescedDependentsPerKey
        opened.1.dependents with
      | none => (some admissionAccounting, opened.2.releaseIfEmpty request.key)
      | some dependentRemaining =>
        if count > dependentRemaining then
          (some (schedulerAdmissionError "coalesced_dependents"),
            opened.2.releaseIfEmpty request.key)
        else
          match checkedAdmissionAdd opened.1.dependents count with
          | none => (some admissionAccounting, opened.2.releaseIfEmpty request.key)
          | some dependents =>
            let admitted := opened.2.setKey request.key
              { opened.1 with dependents := dependents }
            let queued := admitted.enqueueLocked request (some group) 0
            match queued.1 with
            | none => (none, queued.2)
            | some err =>
              let restored :=
                match queued.2.keys.lookup request.key with
                | none => queued.2
                | some state => queued.2.setKey request.key
                    { state with dependents := opened.1.dependents }
              (some err, restored.releaseIfEmpty request.key)

/-- `RequireCoalescedDispatch`: a group is written only while its entry is in
    flight. -/
def requireCoalescedDispatch (scheduler : EndpointScheduler) (group : Nat) :
    Option ProtocolError :=
  match scheduler.coalesced.lookup group with
  | none => some (protocolError .invalidRequest 0 0 "coalesced_dispatch" (-1))
  | some requestID =>
    match scheduler.entries.lookup requestID with
    | some { state := .inFlight, .. } => none
    | _ => some (protocolError .invalidRequest 0 0 "coalesced_dispatch_state" (-1))

/-- Giving back the slots of dependents that reached a terminal state. -/
def releaseCoalescedDependents (scheduler : EndpointScheduler) (key : AdmissionKey)
    (count : Int) : EndpointScheduler :=
  match scheduler.keys.lookup key with
  | none => scheduler
  | some state =>
    if count ≤ 0 ∨ count > state.dependents then scheduler
    else
      match checkedAdmissionRemaining state.dependents count with
      | none => scheduler
      | some dependents =>
        (scheduler.setKey key { state with dependents := dependents }).releaseIfEmpty key

/-- The inner loop of `expireLocked`, over the queue of one key. -/
structure ExpirePass where
  scheduler : EndpointScheduler
  queued : Int
  kept : List ScheduledEntry := []
  expired : List Nat := []
  accountingOK : Bool := true

def expireEntry (nowOffset : Int) (pass : ExpirePass) (entry : ScheduledEntry) : ExpirePass :=
  if entry.request.deadlineOffset ≤ nowOffset then
    match checkedAdmissionRemaining pass.queued entry.admissionWeight with
    | none => { pass with accountingOK := false, kept := pass.kept ++ [entry] }
    | some queued =>
      { pass with
        queued := queued
        scheduler := pass.scheduler.forgetEntryLocked entry
        expired := pass.expired ++ entry.coalesced.toList }
  else { pass with kept := pass.kept ++ [entry] }

/-- Expiring the queue of one key. The result lists the groups to fail and says
    whether every counter check passed. -/
def expireKey (nowOffset : Int) (scheduler : EndpointScheduler) (key : AdmissionKey) :
    EndpointScheduler × List Nat × Bool :=
  match scheduler.keys.lookup key with
  | none => (scheduler, [], true)
  | some state =>
    let pass := state.queue.foldl (expireEntry nowOffset)
      { scheduler := scheduler, queued := state.queued }
    ((pass.scheduler.setKey key
        { state with queue := pass.kept, queued := pass.queued }).releaseIfEmpty key,
      pass.expired, pass.accountingOK)

/-- `expireLocked`. The source ranges over a map, so the list has the keys in any order. -/
def expireLocked (nowOffset : Int) :
    List AdmissionKey → EndpointScheduler → EndpointScheduler × List Nat × Bool
  | [], scheduler => (scheduler, [], true)
  | key :: rest, scheduler =>
    let first := scheduler.expireKey nowOffset key
    let others := expireLocked nowOffset rest first.1
    (others.1, first.2.1 ++ others.2.1, first.2.2 && others.2.2)

/-- Whether a key has something to serve. -/
def keyHasQueued (scheduler : EndpointScheduler) (key : AdmissionKey) : Bool :=
  match scheduler.keys.lookup key with
  | none => false
  | some state => state.queue ≠ []

def scopeHasQueued (scheduler : EndpointScheduler) (scope : String) : Bool :=
  (scheduler.unitsOf scope).any fun unit =>
    scheduler.keyHasQueued { authorizationScope := scope, unitID := unit }

/-- The next scope in turn. The cursor moves past it. -/
def nextScope (scheduler : EndpointScheduler) : Option (String × EndpointScheduler) :=
  let length := scheduler.scopeOrder.length
  match (probeOrder scheduler.scopeCursor length).find? fun index =>
      scheduler.scopeHasQueued (scheduler.scopeOrder.getD index "") with
  | none => none
  | some index =>
    some (scheduler.scopeOrder.getD index "",
      { scheduler with scopeCursor := (index + 1) % length })

/-- The next unit in turn within a scope. -/
def nextUnit (scheduler : EndpointScheduler) (scope : String) :
    Option (AdmissionKey × EndpointScheduler) :=
  let units := scheduler.unitsOf scope
  let key (index : Nat) : AdmissionKey :=
    { authorizationScope := scope, unitID := units.getD index 0 }
  match (probeOrder ((scheduler.unitCursor.lookup scope).getD 0) units.length).find? fun index =>
      scheduler.keyHasQueued (key index) with
  | none => none
  | some index =>
    some (key index,
      { scheduler with
        unitCursor := scheduler.unitCursor.insert scope ((index + 1) % units.length) })

/-- Why a dispatch returns no request. The source returns the same answer for all
    three. -/
inductive DispatchStop where
  | accounting
  | inFlightLimit
  | nothingQueued
  deriving DecidableEq, Repr

def takeHead (scheduler : EndpointScheduler) (key : AdmissionKey) :
    Except DispatchStop ScheduledRequest × EndpointScheduler :=
  match scheduler.keys.lookup key with
  | none => (.error .nothingQueued, scheduler)
  | some state =>
    match state.queue with
    -- `nextUnit` only returns a key with a queue.
    | [] => (.error .nothingQueued, scheduler)
    | entry :: rest =>
      match checkedAdmissionRemaining state.queued entry.admissionWeight,
        checkedAdmissionAdd state.inFlight 1, checkedAdmissionAdd scheduler.inFlight 1 with
      | some queued, some keyInFlight, some inFlight =>
        if inFlight > scheduler.limits.maxInFlightRequests then
          (.error .accounting, scheduler)
        else
          let taken := scheduler.setKey key
            { state with queue := rest, queued := queued, inFlight := keyInFlight }
          (.ok entry.request,
            { taken with
              inFlight := inFlight
              entries := taken.entries.insert entry.request.requestID
                { entry with state := .inFlight } })
      | _, _, _ => (.error .accounting, scheduler)

/-- `Dispatch` up to the release of the mutex, where the expiry visits the keys in the given
    order. The list in the answer names the expired groups, which the caller fails. -/
def dispatchIn (scheduler : EndpointScheduler) (order : List AdmissionKey) (nowOffset : Int) :
    Except DispatchStop ScheduledRequest × List Nat × EndpointScheduler :=
  let expiry := expireLocked nowOffset order scheduler
  if expiry.2.2 = false then (.error .accounting, expiry.2.1, expiry.1)
  else if expiry.1.inFlight ≥ expiry.1.limits.maxInFlightRequests then
    (.error .inFlightLimit, expiry.2.1, expiry.1)
  else
    match expiry.1.nextScope with
    | none => (.error .nothingQueued, expiry.2.1, expiry.1)
    | some (scope, moved) =>
      match moved.nextUnit scope with
      | none => (.error .nothingQueued, expiry.2.1, moved)
      | some (key, turned) =>
        let taken := turned.takeHead key
        (taken.1, expiry.2.1, taken.2)

/-- `Dispatch` with the keys in the order of the table. -/
def dispatch (scheduler : EndpointScheduler) (nowOffset : Int) :
    Except DispatchStop ScheduledRequest × List Nat × EndpointScheduler :=
  scheduler.dispatchIn scheduler.keys.keys nowOffset

/-- Taking a queued entry out of the queue of its key; `none` is a failed counter
    check. -/
def dropQueued (scheduler : EndpointScheduler) (entry : ScheduledEntry)
    (state : AdmissionState) : Option EndpointScheduler :=
  (checkedAdmissionRemaining state.queued entry.admissionWeight).map fun remaining =>
    scheduler.setKey entry.request.key
      { state with queue := state.queue.erase entry, queued := remaining }

/-- Giving back the in-flight slot of an entry; `none` is a failed counter check. -/
def releaseInFlightLocked (scheduler : EndpointScheduler) (key : AdmissionKey) :
    Option EndpointScheduler :=
  match scheduler.keys.lookup key with
  | none => none
  | some state =>
    match checkedAdmissionRemaining state.inFlight 1,
      checkedAdmissionRemaining scheduler.inFlight 1 with
    | some keyInFlight, some inFlight =>
      some { scheduler.setKey key { state with inFlight := keyInFlight } with
        inFlight := inFlight }
    | _, _ => none

/-- Forgetting an entry and, if nothing is left, its key. -/
def removeEntry (scheduler : EndpointScheduler) (entry : ScheduledEntry) : EndpointScheduler :=
  (scheduler.forgetEntryLocked entry).releaseIfEmpty entry.request.key

/-- What `CancelQueued` found. The source answers no to the first two. -/
inductive CancelQueuedResult where
  | notQueued
  | accounting
  | cancelled (group : Option Nat)
  deriving DecidableEq, Repr

/-- `CancelQueued` up to the release of the mutex; the caller fails the group. -/
def cancelQueued (scheduler : EndpointScheduler) (requestID : Nat) :
    CancelQueuedResult × EndpointScheduler :=
  match scheduler.entries.lookup requestID with
  | none => (.notQueued, scheduler)
  | some entry =>
    if entry.state ≠ .queued then (.notQueued, scheduler)
    else
      match scheduler.keys.lookup entry.request.key with
      | none => (.notQueued, scheduler)
      | some state =>
        if entry ∉ state.queue then (.notQueued, scheduler)
        else
          match scheduler.dropQueued entry state with
          | none => (.accounting, scheduler)
          | some dropped => (.cancelled entry.coalesced, dropped.removeEntry entry)

/-- `Retry` up to the release of the mutex: an in-flight entry re-enters at the tail
    under the current bounds. An entry that may not re-enter is removed, and the
    second component names the group the caller then fails. -/
def retry (scheduler : EndpointScheduler) (requestID : Nat) :
    Option ProtocolError × Option Nat × EndpointScheduler :=
  match scheduler.entries.lookup requestID with
  | none => (some (protocolError .invalidRequest 0 0 "request_state" (-1)), none, scheduler)
  | some entry =>
    if entry.state ≠ .inFlight then
      (some (protocolError .invalidRequest 0 0 "request_state" (-1)), none, scheduler)
    else
      let key := entry.request.key
      let refused :=
        if entry.retries ≥ scheduler.limits.maxRetryAttempts then
          some (schedulerAdmissionError "retry_attempts")
        else if entry.admissionWeight > 0 then
          scheduler.checkAdmissionCount key true entry.admissionWeight
        else none
      match scheduler.releaseInFlightLocked key, refused with
      | none, _ => (some admissionAccounting, none, scheduler)
      | some released, some err => (some err, entry.coalesced, released.removeEntry entry)
      | some released, none =>
        let sequence := nextUint64 released.nextSequence
        let requeued : ScheduledEntry :=
          { entry with
            retries := entry.retries + 1, sequence := sequence, state := .queued }
        let numbered := { released with nextSequence := sequence }
        match numbered.keys.lookup key with
        | none => (none, none, numbered)
        | some state =>
          match checkedAdmissionAdd state.queued entry.admissionWeight with
          | none => (some admissionAccounting, entry.coalesced, numbered.removeEntry entry)
          | some queued =>
            let placed := numbered.setKey key
              { state with queue := state.queue ++ [requeued], queued := queued }
            (none, none,
              { placed with entries := placed.entries.insert requestID requeued })

/-- `Complete`: an in-flight entry is done. -/
def complete (scheduler : EndpointScheduler) (requestID : Nat) :
    Option ProtocolError × EndpointScheduler :=
  match scheduler.entries.lookup requestID with
  | none => (some (protocolError .invalidRequest 0 0 "request_state" (-1)), scheduler)
  | some entry =>
    if entry.state ≠ .inFlight then
      (some (protocolError .invalidRequest 0 0 "request_state" (-1)), scheduler)
    else
      match scheduler.releaseInFlightLocked entry.request.key with
      | none => (some admissionAccounting, scheduler)
      | some released => (none, released.removeEntry entry)

/-- `FinishCoalesced`: a terminal group leaves from either live state. A group that
    has no entry any more is no error. -/
def finishCoalesced (scheduler : EndpointScheduler) (group : Nat) :
    Option ProtocolError × EndpointScheduler :=
  match scheduler.coalesced.lookup group with
  | none => (none, scheduler)
  | some requestID =>
    match scheduler.entries.lookup requestID with
    | none => (none, { scheduler with coalesced := scheduler.coalesced.erase group })
    | some entry =>
      match entry.state with
      | .queued =>
        match scheduler.keys.lookup entry.request.key with
        | none => (none, scheduler.removeEntry entry)
        | some state =>
          if entry ∉ state.queue then (none, scheduler.removeEntry entry)
          else
            match scheduler.dropQueued entry state with
            | none => (some admissionAccounting, scheduler)
            | some dropped => (none, dropped.removeEntry entry)
      | .inFlight =>
        match scheduler.releaseInFlightLocked entry.request.key with
        | none => (some admissionAccounting, scheduler)
        | some released => (none, released.removeEntry entry)

end EndpointScheduler

end HelianthusModbus
