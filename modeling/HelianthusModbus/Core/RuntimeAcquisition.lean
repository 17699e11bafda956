import HelianthusModbus.Core.Coalescing
import HelianthusModbus.Lib.Window

/-!
# Runtime Acquisition

The source of one-shot capabilities. A logical view that was delivered while a source
was attached is eligible once; issuing it under an open attempt yields a capability that
can be claimed once, through the instance of the attempt after the attempt was closed
with exactly its members.

Every capability reserves a terminal sequence number when it is issued. When it ends it
leaves a tombstone with that number, and the source keeps the tombstones with the
highest numbers. A source without live capabilities can export its counter and its
tombstones, and a new source continues from them.

The objects that the source shares with its callers, the attempt tokens, the capability
tokens and the eligibility of views, are tables beside the source. A token is named by a
number, and a number that is in no table stands for an object of another source. A
pointer from a token back to the source is a flag, since the tables belong to one source.

Two lists of the system are history that the code does not keep: the sequence numbers in
the order in which they were reserved, and every tombstone that was restored or left.

## Main definitions

* `RuntimeAcquisitionLimits`, `validateRuntimeAcquisitionConfig`: The configuration.
* `RuntimeAcquisitionRestartState`, `validateRuntimeRestart`: What survives a restart.
* `RuntimeSystem`: A source with the tokens it handed out.
* `RuntimeSystem.issue`, `RuntimeSystem.close`, `RuntimeSystem.claim`,
  `RuntimeSystem.cancelOpen`, `RuntimeSystem.failOpen`, `RuntimeSystem.expireOpen`,
  `RuntimeSystem.exportRestartState`: The operations.
* `RuntimeCall`, `RuntimeSystem.step`, `RuntimeSystem.run`: Sequences of them.
-/

namespace HelianthusModbus

inductive RuntimeAcquisitionError where
  | unavailable
  | capacity
  | terminalSequenceExhausted
  | attemptClosed
  | attemptMembership
  deriving DecidableEq, Repr

def maxRuntimeCapabilities : Int := 65536
def maxRuntimeAttempts : Int := 65536
def maxRuntimeMembersPerAttempt : Int := maxCoalescedDependents
def maxRuntimeNormalizationBytes : Int := 4194304
def maxRuntimeNormalizationItems : Int := 4096
def maxRuntimeStringBytes : Int := 1048576
def maxRuntimeTombstones : Int := 65536

structure RuntimeAcquisitionLimits where
  maxLiveCapabilities : Int
  maxAttempts : Int
  maxMembersPerAttempt : Int
  attemptKeyMaxUTF8Bytes : Int
  sourceEvidenceIDMaxUTF8Bytes : Int
  normalizationRecordMaxEncodedBytes : Int
  normalizationRequiredStringMaxUTF8Bytes : Int
  normalizationExtensionCountMax : Int
  normalizationExtensionKeyMaxUTF8Bytes : Int
  normalizationExtensionValueMaxEncodedBytes : Int
  retainedDiagnosticCountPerObjectMax : Int
  retainedDiagnosticMaxUTF8Bytes : Int
  capabilityTombstoneLimit : Int
  capabilityTombstoneMaxEncodedBytes : Int
  deriving DecidableEq, Repr

/-- How a capability ended. A restart state may carry any other text. -/
inductive RuntimeCapabilityTerminalOutcome where
  | claimed
  | cancelled
  | failed
  | expired
  | other (text : String)
  deriving DecidableEq, Repr

def RuntimeCapabilityTerminalOutcome.text : RuntimeCapabilityTerminalOutcome → String
  | .claimed => "claimed"
  | .cancelled => "cancelled"
  | .failed => "failed"
  | .expired => "expired"
  | .other text => text

structure RuntimeCapabilityTombstone where
  schemaVersion : Int := 1
  terminalSequence : UInt64
  terminalOutcome : RuntimeCapabilityTerminalOutcome
  deriving DecidableEq, Repr

/-- The JSON text of a tombstone. Every text that is measured is plain ASCII. -/
def RuntimeCapabilityTombstone.encoded (tombstone : RuntimeCapabilityTombstone) : String :=
  String.singleton '{' ++ "\"schema_version\":" ++ toString tombstone.schemaVersion ++
    ",\"terminal_sequence\":" ++ Nat.repr tombstone.terminalSequence.toNat ++
    ",\"terminal_outcome\":\"" ++ tombstone.terminalOutcome.text ++ "\"" ++ String.singleton '}'

structure RuntimeAcquisitionRestartState where
  schemaVersion : Int
  nextTerminalSequence : UInt64
  sequenceExhausted : Bool
  tombstones : List RuntimeCapabilityTombstone
  deriving DecidableEq, Repr

def validRuntimeTerminalOutcome : RuntimeCapabilityTerminalOutcome → Bool
  | .claimed | .cancelled | .failed | .expired => true
  | .other _ => false

def validRuntimeTombstone (tombstone : RuntimeCapabilityTombstone) : Bool :=
  tombstone.schemaVersion = 1 ∧ tombstone.terminalSequence ≠ 0 ∧
    validRuntimeTerminalOutcome tombstone.terminalOutcome

/-- The loop of `validateRuntimeRestart`. It returns the sequence of the last tombstone,
    or `previous` if there is none. -/
def checkRestartTombstones (maxEncodedBytes : Int) :
    List RuntimeCapabilityTombstone → (first : Bool) → (previous : UInt64) → Option UInt64
  | [], _, previous => some previous
  | tombstone :: rest, first, previous =>
    if validRuntimeTombstone tombstone = false ∨
        (first = false ∧ tombstone.terminalSequence ≤ previous) then none
    else if (tombstone.encoded.length : Int) > maxEncodedBytes then none
    else checkRestartTombstones maxEncodedBytes rest false tombstone.terminalSequence

/-- `validateRuntimeRestart` of a state that is there. -/
def validateRuntimeRestart (restart : RuntimeAcquisitionRestartState)
    (limits : RuntimeAcquisitionLimits) : Option RuntimeAcquisitionError :=
  if restart.schemaVersion ≠ 1 ∨
      (restart.tombstones.length : Int) > limits.capabilityTombstoneLimit ∨
      (restart.sequenceExhausted = true ∧ restart.nextTerminalSequence ≠ 0) ∨
      (restart.sequenceExhausted = false ∧ restart.nextTerminalSequence = 0) then
    some .unavailable
  else
    match checkRestartTombstones limits.capabilityTombstoneMaxEncodedBytes restart.tombstones
      true 0 with
    | none => some .unavailable
    | some previous =>
      if restart.sequenceExhausted = false ∧ previous ≥ restart.nextTerminalSequence then
        some .unavailable
      else none

def maxRuntimeInt : Int := 9223372036854775807

def checkedRuntimeAdd (first second : Int) : Option Int :=
  if first < 0 ∨ second < 0 ∨ first > maxRuntimeInt - second then none else some (first + second)

def checkedRuntimeMultiply (first second : Int) : Option Int :=
  if first < 0 ∨ second < 0 ∨ (first ≠ 0 ∧ second > maxRuntimeInt / first) then none
  else some (first * second)

/-- The number of fields a normalization record must have. -/
def runtimeNormalizationRequiredFields : Int := 10

/-- Each limit with the largest value it may have. -/
def RuntimeAcquisitionLimits.positiveBounded (limits : RuntimeAcquisitionLimits) :
    List (Int × Int) :=
  [(limits.maxLiveCapabilities, maxRuntimeCapabilities),
    (limits.maxAttempts, maxRuntimeAttempts),
    (limits.maxMembersPerAttempt, maxRuntimeMembersPerAttempt),
    (limits.attemptKeyMaxUTF8Bytes, maxRuntimeStringBytes),
    (limits.sourceEvidenceIDMaxUTF8Bytes, maxRuntimeStringBytes),
    (limits.normalizationRecordMaxEncodedBytes, maxRuntimeNormalizationBytes),
    (limits.normalizationRequiredStringMaxUTF8Bytes, maxRuntimeStringBytes),
    (limits.normalizationExtensionCountMax, maxRuntimeNormalizationItems),
    (limits.normalizationExtensionKeyMaxUTF8Bytes, maxRuntimeStringBytes),
    (limits.normalizationExtensionValueMaxEncodedBytes, maxRuntimeNormalizationBytes),
    (limits.retainedDiagnosticCountPerObjectMax, maxRuntimeNormalizationItems),
    (limits.retainedDiagnosticMaxUTF8Bytes, maxRuntimeStringBytes),
    (limits.capabilityTombstoneLimit, maxRuntimeTombstones),
    (limits.capabilityTombstoneMaxEncodedBytes, maxRuntimeNormalizationBytes)]

structure RuntimeAcquisitionConfig where
  limits : RuntimeAcquisitionLimits
  claimLifetime : Duration
  restart : Option RuntimeAcquisitionRestartState := none
  deriving DecidableEq, Repr

/-- The check of a configuration. `clock` is the reading of the clock, or nothing if there
    is none. -/
def validateRuntimeAcquisitionConfig (config : RuntimeAcquisitionConfig)
    (clock : Option Duration) : Option RuntimeAcquisitionError :=
  let limits := config.limits
  if limits.positiveBounded.any fun bound => bound.1 ≤ 0 ∨ bound.1 > bound.2 then
    some .unavailable
  else
    match clock with
    | none => some .unavailable
    | some now =>
      if limits.maxMembersPerAttempt > limits.maxLiveCapabilities ∨
          config.claimLifetime ≤ 0 ∨ now < 0 then some .unavailable
      else
        match checkedRuntimeAdd limits.normalizationExtensionKeyMaxUTF8Bytes
          limits.normalizationExtensionValueMaxEncodedBytes with
        | none => some .unavailable
        | some keyAndValue =>
          match checkedRuntimeAdd runtimeNormalizationRequiredFields
              limits.normalizationExtensionCountMax,
            checkedRuntimeMultiply limits.normalizationExtensionCountMax keyAndValue with
          | some _, some _ =>
            let largest : RuntimeCapabilityTombstone :=
              { terminalSequence := 18446744073709551615, terminalOutcome := .cancelled }
            if (largest.encoded.length : Int) >
                limits.capabilityTombstoneMaxEncodedBytes then some .unavailable
            else config.restart.bind fun restart => validateRuntimeRestart restart limits
          | _, _ => some .unavailable

inductive RuntimeAttemptPhase where
  | attemptOpen
  | attemptClosing
  | attemptClosed
  deriving DecidableEq, Repr

structure RuntimeAttemptState where
  key : String
  phase : RuntimeAttemptPhase
  registered : Table UInt32 Nat := ∅
  members : List Nat := []

structure RuntimeCapabilityState where
  attempt : Nat
  terminalSequence : UInt64
  claimDeadline : Duration
  deriving DecidableEq, Repr

/-- A capability token. `source` says that the token still points to its source. -/
structure RuntimeCapabilityToken where
  attempt : Nat
  ordinal : UInt32
  source : Bool := true
  outcome : Option RuntimeCapabilityTerminalOutcome := none
  deriving DecidableEq, Repr

/-- The states of the eligibility of a view. -/
inductive RuntimeViewState where
  | available
  | issuing
  | issued
  | rejected
  deriving DecidableEq, Repr

/-- The state behind the mutex. -/
structure RuntimeAcquisitionSource where
  limits : RuntimeAcquisitionLimits
  claimLifetime : Duration
  attempts : Table Nat RuntimeAttemptState := ∅
  drainedAttempts : Table Nat Unit := ∅
  live : Table Nat RuntimeCapabilityState := ∅
  tombstones : List RuntimeCapabilityTombstone := []
  nextTerminalSequence : UInt64 := 1
  sequenceExhausted : Bool := false
  retired : Bool := false

/-- A source with the tokens it handed out. `attemptTokens` says of each attempt token
    whether it still points to the source. `reserved` and `records` are history: the
    sequences in the order they were reserved, and every tombstone that was restored or
    left, both latest first. -/
structure RuntimeSystem where
  source : RuntimeAcquisitionSource
  attemptTokens : Table Nat Bool := ∅
  capabilityTokens : Table Nat RuntimeCapabilityToken := ∅
  views : Table Nat RuntimeViewState := ∅
  nextAttempt : Nat := 0
  nextCapability : Nat := 0
  nextView : Nat := 0
  reserved : List UInt64 := []
  records : List RuntimeCapabilityTombstone := []

def newRuntimeAcquisitionSource (config : RuntimeAcquisitionConfig) (clock : Option Duration) :
    Except RuntimeAcquisitionError RuntimeSystem :=
  match validateRuntimeAcquisitionConfig config clock with
  | some err => .error err
  | none =>
    match config.restart with
    | none => .ok { source := { limits := config.limits, claimLifetime := config.claimLifetime } }
    | some restart =>
      .ok { source :=
              { limits := config.limits, claimLifetime := config.claimLifetime
                nextTerminalSequence := restart.nextTerminalSequence
                sequenceExhausted := restart.sequenceExhausted
                tombstones := restart.tombstones }
            records := restart.tombstones.reverse }

/-- An open membership handle. The zero value has no token. -/
structure RuntimeAttempt where
  token : Option Nat := none
  deriving DecidableEq, Repr

structure RuntimeAttemptInstance where
  token : Option Nat := none
  deriving DecidableEq, Repr

structure RuntimeAcquisitionCapability where
  token : Option Nat := none
  deriving DecidableEq, Repr

inductive RuntimeAcquisitionSourceKind where
  | runtime
  | offlineFixture
  deriving DecidableEq, Repr

/-- The fields of a normalization record that issuing reads. -/
structure RuntimeNormalizationFields where
  sourceKind : RuntimeAcquisitionSourceKind
  sourceEvidenceID : String
  functionCode : FunctionCode
  logicalTable : LogicalTable
  normalizedZeroBasedPDUOffset : Nat
  wordCount : Nat
  deriving DecidableEq, Repr

/-- A parsed normalization record. `owned` says that the source itself parsed it. -/
structure RuntimeNormalizationRecord where
  owned : Bool
  fields : RuntimeNormalizationFields
  deriving DecidableEq, Repr

/-- A delivered view with its eligibility, if a source was attached. -/
structure RuntimeView where
  view : LogicalReadView
  runtimeEligibility : Option Nat := none
  deriving DecidableEq, Repr

structure RuntimeAcquisitionProvenance where
  sourceKind : RuntimeAcquisitionSourceKind
  sourceEvidenceID : String
  logicalViewID : Nat
  wireResponseID : Nat
  physicalRequestID : Nat
  endpoint : String
  connectionID : Nat
  transport : TransportFamily
  transportGeneration : Nat
  unitID : UInt8
  requestedFunction : FunctionCode
  receivedFunction : FunctionCode
  table : LogicalTable
  physicalOffset : Nat
  physicalWordCount : Nat
  authorizationScope : String
  pollGeneration : Nat
  deadlineIdentity : Nat
  logicalOffset : Nat
  logicalWordCount : Nat
  sliceOffset : Nat
  sliceWordCount : Nat
  words : List Nat
  wireResponseBytes : List UInt8
  deriving DecidableEq, Repr

structure RuntimeAcquisition where
  attemptKey : String
  provenance : RuntimeAcquisitionProvenance
  normalization : RuntimeNormalizationRecord
  capability : RuntimeAcquisitionCapability
  deriving DecidableEq, Repr

structure RuntimeCapabilityClaimResult where
  won : Bool := false
  outcome : RuntimeCapabilityTerminalOutcome
  deriving DecidableEq, Repr

def normalizationMatchesView (fields : RuntimeNormalizationFields) (view : LogicalReadView) :
    Bool :=
  view.logicalViewID ≠ 0 ∧ view.wireResponseID ≠ 0 ∧ view.provenance.physicalRequestID ≠ 0 ∧
    view.provenance.wire.transport = .tcp ∧
    view.provenance.wire.requestedFunction = fields.functionCode ∧
    view.provenance.wire.receivedFunction = fields.functionCode ∧
    view.provenance.wire.table = fields.logicalTable ∧
    view.logicalOffset = fields.normalizedZeroBasedPDUOffset ∧
    view.logicalWords = fields.wordCount ∧ view.logicalWords = view.sliceWordCount ∧
    view.words.length = view.logicalWords ∧ view.wireBytes.length ≠ 0

def runtimeProvenanceFromView (view : LogicalReadView) (fields : RuntimeNormalizationFields) :
    RuntimeAcquisitionProvenance :=
  let wire := view.provenance.wire
  { sourceKind := fields.sourceKind
    sourceEvidenceID := fields.sourceEvidenceID
    logicalViewID := view.logicalViewID
    wireResponseID := view.wireResponseID
    physicalRequestID := view.provenance.physicalRequestID
    endpoint := wire.endpoint
    connectionID := wire.connectionID
    transport := wire.transport
    transportGeneration := wire.transportGeneration
    unitID := wire.unitID
    requestedFunction := wire.requestedFunction
    receivedFunction := wire.receivedFunction
    table := wire.table
    physicalOffset := wire.offset
    physicalWordCount := wire.quantity
    authorizationScope := view.provenance.authorizationScope
    pollGeneration := view.provenance.pollGeneration
    deadlineIdentity := view.provenance.deadlineIdentity
    logicalOffset := view.logicalOffset
    logicalWordCount := view.logicalWords
    sliceOffset := view.sliceOffset
    sliceWordCount := view.sliceWordCount
    words := view.words
    wireResponseBytes := view.wireBytes }

namespace RuntimeAcquisitionSource

/-- `reserveTerminalSequenceLocked`. The largest number is handed out too, and then the
    source is exhausted for good. -/
def reserveTerminalSequence (source : RuntimeAcquisitionSource) :
    Except RuntimeAcquisitionError UInt64 × RuntimeAcquisitionSource :=
  if source.sequenceExhausted = true ∨ source.nextTerminalSequence = 0 then
    (.error .terminalSequenceExhausted, source)
  else if source.nextTerminalSequence = 18446744073709551615 then
    (.ok source.nextTerminalSequence,
      { source with nextTerminalSequence := 0, sequenceExhausted := true })
  else
    (.ok source.nextTerminalSequence,
      { source with nextTerminalSequence := source.nextTerminalSequence + 1 })

/-- Placing a tombstone among the others, and dropping the lowest if there are too many. -/
def bury (source : RuntimeAcquisitionSource) (tombstone : RuntimeCapabilityTombstone) :
    RuntimeAcquisitionSource :=
  let index := search source.tombstones.length fun index =>
    (source.tombstones[index]?).any fun other =>
      other.terminalSequence > tombstone.terminalSequence
  let placed := source.tombstones.take index ++ tombstone :: source.tombstones.drop index
  { source with
    tombstones :=
      if (placed.length : Int) > source.limits.capabilityTombstoneLimit then placed.drop 1
      else placed }

end RuntimeAcquisitionSource

namespace RuntimeSystem

/-- The outcome of a capability, if it has ended. -/
def runtimeOutcomeOf (system : RuntimeSystem) (token : Nat) :
    Option RuntimeCapabilityTerminalOutcome :=
  (system.capabilityTokens.lookup token).bind RuntimeCapabilityToken.outcome

/-- An attempt token lets go of the source. -/
def detachAttempt (system : RuntimeSystem) (token : Nat) : RuntimeSystem :=
  { system with attemptTokens := system.attemptTokens.insert token false }

/-- `terminalizeLocked`: a live capability ends. -/
def terminalize (system : RuntimeSystem) (token : Nat) (capability : RuntimeCapabilityState)
    (outcome : RuntimeCapabilityTerminalOutcome) : RuntimeSystem :=
  let tombstone : RuntimeCapabilityTombstone :=
    { terminalSequence := capability.terminalSequence, terminalOutcome := outcome }
  let buried := { system.source with live := system.source.live.erase token }.bury tombstone
  { system with
    source := buried
    capabilityTokens :=
      match system.capabilityTokens.lookup token with
      | none => system.capabilityTokens
      | some held => system.capabilityTokens.insert token
          { held with source := false, outcome := some outcome }
    records := tombstone :: system.records }

/-- `reclaimAttemptIfTerminalLocked`: a closed attempt without open members is drained. -/
def reclaimAttemptIfTerminal (system : RuntimeSystem) (token : Nat)
    (attempt : RuntimeAttemptState) : RuntimeSystem :=
  if attempt.phase ≠ .attemptClosed then system
  else if attempt.members.any fun member => (system.runtimeOutcomeOf member).isNone then system
  else
    { system with
      source :=
        { system.source with
          attempts := system.source.attempts.erase token
          drainedAttempts := system.source.drainedAttempts.insert token () } }

/-- A view is delivered while the source is attached. -/
def newRuntimeViewEligibility (system : RuntimeSystem) : Nat × RuntimeSystem :=
  (system.nextView,
    { system with
      views := system.views.insert system.nextView .available
      nextView := system.nextView + 1 })

def beginAttempt (system : RuntimeSystem) (attemptKey : String) :
    Except RuntimeAcquisitionError RuntimeAttempt × RuntimeSystem :=
  if attemptKey = "" ∨
      (attemptKey.utf8ByteSize : Int) > system.source.limits.attemptKeyMaxUTF8Bytes then
    (.error .unavailable, system)
  else if system.source.retired then (.error .unavailable, system)
  else if ((system.source.attempts.entries.length +
      system.source.drainedAttempts.entries.length : Nat) : Int) ≥
      system.source.limits.maxAttempts then (.error .capacity, system)
  else
    (.ok { token := some system.nextAttempt },
      { system with
        source :=
          { system.source with
            attempts := system.source.attempts.insert system.nextAttempt
              { key := attemptKey, phase := .attemptOpen } }
        attemptTokens := system.attemptTokens.insert system.nextAttempt true
        nextAttempt := system.nextAttempt + 1 })

/-- The state of an eligible view changes. -/
def setView (system : RuntimeSystem) (view : Nat) (state : RuntimeViewState) : RuntimeSystem :=
  { system with views := system.views.insert view state }

/-- The part of `Issue` under the mutex. -/
def issueLocked (system : RuntimeSystem) (attempt : Nat) (dependencyOrdinal : UInt32)
    (now : Duration) : Except RuntimeAcquisitionError (String × Nat) × RuntimeSystem :=
  let source := system.source
  match source.attempts.lookup attempt with
  | none => (.error .attemptClosed, system)
  | some state =>
    if source.retired = true ∨ state.phase ≠ .attemptOpen then (.error .attemptClosed, system)
    else if (dependencyOrdinal.toNat : Int) ≥ source.limits.maxMembersPerAttempt then
      (.error .attemptMembership, system)
    else if (state.registered.lookup dependencyOrdinal).isSome then
      (.error .attemptMembership, system)
    else if (state.registered.entries.length : Int) ≥ source.limits.maxMembersPerAttempt ∨
        (source.live.entries.length : Int) ≥ source.limits.maxLiveCapabilities then
      (.error .capacity, system)
    else
      let sequenced := source.reserveTerminalSequence
      match sequenced.1 with
      | .error err => (.error err, { system with source := sequenced.2 })
      | .ok sequence =>
        let token := system.nextCapability
        (.ok (state.key, token),
          { system with
            source :=
              { sequenced.2 with
                live := source.live.insert token
                  { attempt := attempt, terminalSequence := sequence
                    claimDeadline := now + source.claimLifetime }
                attempts := source.attempts.insert attempt
                  { state with
                    registered := state.registered.insert dependencyOrdinal token } }
            capabilityTokens := system.capabilityTokens.insert token
              { attempt := attempt, ordinal := dependencyOrdinal }
            nextCapability := token + 1
            reserved := sequence :: system.reserved })

/-- `Issue` for handles that are there. A view that passed the first check is used up
    whatever happens then. -/
def issueView (system : RuntimeSystem) (attempt : Nat) (dependencyOrdinal : UInt32)
    (view : LogicalReadView) (eligibility : Nat) (normalization : RuntimeNormalizationRecord)
    (now : Duration) : Except RuntimeAcquisitionError RuntimeAcquisition × RuntimeSystem :=
  if system.views.lookup eligibility ≠ some .available then (.error .unavailable, system)
  else
    let issuing := system.setView eligibility .issuing
    if now < 0 ∨ system.source.claimLifetime > maxDuration - now then
      (.error .unavailable, issuing.setView eligibility .rejected)
    else
      let issued := issuing.issueLocked attempt dependencyOrdinal now
      match issued.1 with
      | .error err => (.error err, issued.2.setView eligibility .rejected)
      | .ok (key, token) =>
        (.ok { attemptKey := key
               provenance := runtimeProvenanceFromView view normalization.fields
               normalization := normalization
               capability := { token := some token } },
          issued.2.setView eligibility .issued)

/-- `Issue`. The clock is read after the view was taken. -/
def issue (system : RuntimeSystem) (attempt : RuntimeAttempt) (dependencyOrdinal : UInt32)
    (view : RuntimeView) (normalization : RuntimeNormalizationRecord) (now : Duration) :
    Except RuntimeAcquisitionError RuntimeAcquisition × RuntimeSystem :=
  match attempt.token, view.runtimeEligibility with
  | some token, some eligibility =>
    if system.attemptTokens.lookup token ≠ some true ∨ normalization.owned = false ∨
        (system.views.lookup eligibility).isNone ∨
        normalization.fields.sourceKind ≠ .runtime ∨
        normalizationMatchesView normalization.fields view.view = false then
      (.error .unavailable, system)
    else
      system.issueView token dependencyOrdinal view.view eligibility normalization now
  | _, _ => (.error .unavailable, system)

/-- The checks of one member of `exactMembershipLocked`. -/
def exactMember (system : RuntimeSystem) (attempt : Nat) (state : RuntimeAttemptState)
    (index : Nat) (member : RuntimeAcquisition) : Option Nat :=
  match member.capability.token with
  | none => none
  | some token =>
    match system.capabilityTokens.lookup token with
    | none => none
    | some held =>
      if state.registered.lookup (UInt32.ofNat index) ≠ some token ∨
          held.ordinal ≠ UInt32.ofNat index ∨
          ((system.source.live.lookup token).isNone ∧ held.outcome.isNone) ∨
          ((system.source.live.lookup token).any fun capability =>
            capability.attempt ≠ attempt) ∨
          held.attempt ≠ attempt ∨ member.attemptKey ≠ state.key then none
      else some token

/-- The loop of `exactMembershipLocked`. The tokens seen so far are in order. -/
def exactMembers (system : RuntimeSystem) (attempt : Nat) (state : RuntimeAttemptState) :
    List RuntimeAcquisition → (seen : List Nat) → Option (List Nat)
  | [], seen => some seen
  | member :: rest, seen =>
    match system.exactMember attempt state seen.length member with
    | none => none
    | some token =>
      if token ∈ seen then none else exactMembers system attempt state rest (seen ++ [token])

/-- `exactMembershipLocked`, with the tokens of the members. -/
def exactMembership (system : RuntimeSystem) (attempt : Nat) (state : RuntimeAttemptState)
    (members : List RuntimeAcquisition) : Option (List Nat) :=
  if members.length = 0 ∨ members.length ≠ state.registered.entries.length ∨
      (members.length : Int) > system.source.limits.maxMembersPerAttempt then none
  else system.exactMembers attempt state members []

/-- Ending one capability if it is still open. -/
def terminalizeOpen (outcome : RuntimeCapabilityTerminalOutcome) (system : RuntimeSystem)
    (token : Nat) : RuntimeSystem :=
  match system.source.live.lookup token with
  | none => system
  | some capability => system.terminalize token capability outcome

/-- The source gives up an attempt. -/
def dropAttempt (system : RuntimeSystem) (token : Nat) : RuntimeSystem :=
  { system with
    source := { system.source with attempts := system.source.attempts.erase token }
    }.detachAttempt token

/-- `Close` of an attempt. The registered members of a rejected one are in a Go map, which is
    visited in any order: `order` is the one that is taken, if it is one of them. -/
def close (system : RuntimeSystem) (attempt : RuntimeAttempt)
    (members : List RuntimeAcquisition) (order : List Nat) :
    Except RuntimeAcquisitionError RuntimeAttemptInstance × RuntimeSystem :=
  match attempt.token with
  | none => (.error .unavailable, system)
  | some token =>
    if system.attemptTokens.lookup token ≠ some true then (.error .attemptClosed, system)
    else
      match system.source.attempts.lookup token with
      | none => (.error .attemptClosed, system)
      | some state =>
        if state.phase ≠ .attemptOpen then (.error .attemptClosed, system)
        else
          match system.exactMembership token state members with
          | none =>
            let registered := state.registered.entries.map fun e => e.2
            let visited := if order.Perm registered then order else registered
            (.error .attemptMembership,
              (visited.foldl (terminalizeOpen .cancelled) system).dropAttempt token)
          | some tokens =>
            let closed : RuntimeAttemptState :=
              { state with phase := .attemptClosed, members := tokens }
            let frozen :=
              { system with
                source :=
                  { system.source with
                    attempts := system.source.attempts.insert token closed } }
            (.ok { token := some token }, frozen.reclaimAttemptIfTerminal token closed)

/-- `claim` of the source. -/
def claimLocked (system : RuntimeSystem) (token attempt : Nat) (now : Duration) :
    Except RuntimeAcquisitionError RuntimeCapabilityClaimResult × RuntimeSystem :=
  match system.source.live.lookup token with
  | none =>
    match system.runtimeOutcomeOf token with
    | some outcome => (.ok { outcome := outcome }, system)
    | none => (.error .unavailable, system)
  | some capability =>
    match system.source.attempts.lookup attempt with
    | none => (.error .attemptMembership, system)
    | some state =>
      if state.phase ≠ .attemptClosed ∨ capability.attempt ≠ attempt ∨
          token ∉ state.members then (.error .attemptMembership, system)
      else if now ≥ capability.claimDeadline then
        (.ok { outcome := .expired },
          (system.terminalize token capability .expired).reclaimAttemptIfTerminal attempt
            state)
      else
        (.ok { won := true, outcome := .claimed },
          (system.terminalize token capability .claimed).reclaimAttemptIfTerminal attempt
            state)

/-- `Claim` through an instance. -/
def claim (system : RuntimeSystem) (capability : RuntimeAcquisitionCapability)
    (closed : RuntimeAttemptInstance) (now : Duration) :
    Except RuntimeAcquisitionError RuntimeCapabilityClaimResult × RuntimeSystem :=
  match capability.token, closed.token with
  | some token, some attempt =>
    match system.capabilityTokens.lookup token with
    | none => (.error .unavailable, system)
    | some held =>
      if held.attempt ≠ attempt then (.error .attemptMembership, system)
      else if held.source then system.claimLocked token attempt now
      else
        match held.outcome with
        | some outcome => (.ok { outcome := outcome }, system)
        | none => (.error .unavailable, system)
  | _, _ => (.error .unavailable, system)

def cancelOpen (system : RuntimeSystem) (closed : RuntimeAttemptInstance) :
    Option RuntimeAcquisitionError × RuntimeSystem :=
  match closed.token with
  | none => (some .unavailable, system)
  | some token =>
    if system.attemptTokens.lookup token ≠ some true then (some .attemptClosed, system)
    else
      match system.source.attempts.lookup token with
      | none =>
        match system.source.drainedAttempts.lookup token with
        | none => (some .attemptClosed, system)
        | some () =>
          (none,
            { system with
              source :=
                { system.source with
                  drainedAttempts := system.source.drainedAttempts.erase token }
              }.detachAttempt token)
      | some state =>
        if state.phase ≠ .attemptClosed then (some .attemptClosed, system)
        else
          (none, (state.members.foldl (terminalizeOpen .cancelled) system).dropAttempt token)

/-- `FailOpen`. The tables only have the tokens of this source. A token of another source is
    unavailable here, where Go returns the outcome of one that has ended there. -/
def failOpen (system : RuntimeSystem) (capability : RuntimeAcquisitionCapability) :
    Except RuntimeAcquisitionError RuntimeCapabilityTerminalOutcome × RuntimeSystem :=
  match capability.token with
  | none => (.error .unavailable, system)
  | some token =>
    match system.source.live.lookup token with
    | none =>
      match system.runtimeOutcomeOf token with
      | some outcome => (.ok outcome, system)
      | none => (.error .unavailable, system)
    | some state =>
      if (system.capabilityTokens.lookup token).any fun held => held.source = false then
        (.error .unavailable, system)
      else
        let failed := system.terminalize token state .failed
        match system.source.attempts.lookup state.attempt with
        | none => (.ok .failed, failed)
        | some attempt => (.ok .failed, failed.reclaimAttemptIfTerminal state.attempt attempt)

/-- The inner loop of `ExpireOpen`: the capability that is due and has the lowest
    sequence. -/
def dueCandidate (system : RuntimeSystem) (now : Duration) :
    Option (Nat × RuntimeCapabilityState) :=
  system.source.live.entries.foldl
    (fun candidate entry =>
      if entry.2.claimDeadline > now ∨
          (candidate.any fun best => best.2.terminalSequence < entry.2.terminalSequence) then
        candidate
      else some (entry.1, entry.2)) none

/-- The outer loop of `ExpireOpen`. Every turn ends one live capability, so their number
    is enough fuel. -/
def expireLoop (now : Duration) : (fuel : Nat) → Nat → RuntimeSystem → Nat × RuntimeSystem
  | 0, expired, system => (expired, system)
  | fuel + 1, expired, system =>
    match system.dueCandidate now with
    | none => (expired, system)
    | some (token, candidate) =>
      let ended := system.terminalize token candidate .expired
      let reclaimed :=
        match system.source.attempts.lookup candidate.attempt with
        | none => ended
        | some attempt => ended.reclaimAttemptIfTerminal candidate.attempt attempt
      expireLoop now fuel (expired + 1) reclaimed

def expireOpen (system : RuntimeSystem) (now : Duration) : Nat × RuntimeSystem :=
  expireLoop now system.source.live.entries.length 0 system

/-- The attempts without members, which an export drops. -/
def emptyAttempts (system : RuntimeSystem) : List Nat :=
  (system.source.attempts.entries.filter fun e => e.2.registered.entries.length = 0).map
    fun e => e.1

def exportRestartState (system : RuntimeSystem) :
    Except RuntimeAcquisitionError RuntimeAcquisitionRestartState × RuntimeSystem :=
  if system.source.retired then (.error .unavailable, system)
  else
    let swept := system.emptyAttempts.foldl dropAttempt system
    if swept.source.live.entries.length ≠ 0 ∨ swept.source.attempts.entries.length ≠ 0 then
      (.error .unavailable, swept)
    else
      let drained := (swept.source.drainedAttempts.entries.map fun e => e.1).foldl
        detachAttempt swept
      (.ok { schemaVersion := 1
             nextTerminalSequence := drained.source.nextTerminalSequence
             sequenceExhausted := drained.source.sequenceExhausted
             tombstones := drained.source.tombstones },
        { drained with
          source := { drained.source with drainedAttempts := ∅, retired := true } })

end RuntimeSystem

/-- The calls on a source, with the reading of the clock where it is read and the order in
    which a map is visited where that shows. A new view becomes eligible from outside. -/
inductive RuntimeCall where
  | newView
  | beginAttempt (attemptKey : String)
  | issue (attempt : RuntimeAttempt) (dependencyOrdinal : UInt32) (view : RuntimeView)
      (normalization : RuntimeNormalizationRecord) (now : Duration)
  | close (attempt : RuntimeAttempt) (members : List RuntimeAcquisition) (order : List Nat)
  | claim (capability : RuntimeAcquisitionCapability) (closed : RuntimeAttemptInstance)
      (now : Duration)
  | cancelOpen (closed : RuntimeAttemptInstance)
  | failOpen (capability : RuntimeAcquisitionCapability)
  | expireOpen (now : Duration)
  | exportRestartState
  deriving DecidableEq, Repr

inductive RuntimeReply where
  | view (eligibility : Nat)
  | attempt (result : Except RuntimeAcquisitionError RuntimeAttempt)
  | acquisition (result : Except RuntimeAcquisitionError RuntimeAcquisition)
  | closed (result : Except RuntimeAcquisitionError RuntimeAttemptInstance)
  | claimed (result : Except RuntimeAcquisitionError RuntimeCapabilityClaimResult)
  | cancelled (err : Option RuntimeAcquisitionError)
  | failed (result : Except RuntimeAcquisitionError RuntimeCapabilityTerminalOutcome)
  | expired (count : Nat)
  | exported (result : Except RuntimeAcquisitionError RuntimeAcquisitionRestartState)

namespace RuntimeSystem

def step (system : RuntimeSystem) : RuntimeCall → RuntimeReply × RuntimeSystem
  | .newView =>
    let result := system.newRuntimeViewEligibility
    (.view result.1, result.2)
  | .beginAttempt attemptKey =>
    let result := system.beginAttempt attemptKey
    (.attempt result.1, result.2)
  | .issue attempt dependencyOrdinal view normalization now =>
    let result := system.issue attempt dependencyOrdinal view normalization now
    (.acquisition result.1, result.2)
  | .close attempt members order =>
    let result := system.close attempt members order
    (.closed result.1, result.2)
  | .claim capability closed now =>
    let result := system.claim capability closed now
    (.claimed result.1, result.2)
  | .cancelOpen closed =>
    let result := system.cancelOpen closed
    (.cancelled result.1, result.2)
  | .failOpen capability =>
    let result := system.failOpen capability
    (.failed result.1, result.2)
  | .expireOpen now =>
    let result := system.expireOpen now
    (.expired result.1, result.2)
  | .exportRestartState =>
    let result := system.exportRestartState
    (.exported result.1, result.2)

def run (system : RuntimeSystem) (calls : List RuntimeCall) : RuntimeSystem :=
  calls.foldl (fun system call => (system.step call).2) system

end RuntimeSystem

end HelianthusModbus
