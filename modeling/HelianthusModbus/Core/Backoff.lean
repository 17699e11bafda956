import HelianthusModbus.Core.Owner

/-!
# Reconnect Backoff

The bounded progression of reconnect delays of one endpoint.

A delay doubles with every attempt, from the floor up to the ceiling, and gets a
jitter that keeps it below the ceiling. Choosing a delay takes the mutex twice: the
jitter source is asked in between, without the mutex. The two halves are separate
functions here, so that whatever happens in between can be placed there.

## Main definitions

* `BackoffConfig`, `newReconnectBackoff`: The configuration and its check.
* `ReconnectBackoff.nextDelayBefore`, `ReconnectBackoff.waitUntil`: Both halves in a row,
  and the wait that is built on them.
* `BackoffCall`, `ReconnectBackoff.trace`, `ReconnectBackoff.run`: A sequence of calls.
-/

namespace HelianthusModbus

/-- The jitter source is an input of the steps that ask it. -/
structure BackoffConfig where
  floor : Duration
  ceiling : Duration
  maxAttempts : Int
  jitterAlgorithmID : String
  jitterVersion : String
  jitterEvidence : String
  deriving DecidableEq, Repr

structure ReconnectBackoff where
  config : BackoffConfig
  attempt : Nat := 0
  emitted : List Duration := []
  deriving DecidableEq, Repr

def newReconnectBackoff (config : BackoffConfig) : Except ProtocolError ReconnectBackoff :=
  if config.floor ≤ 0 ∨ config.ceiling ≤ 0 ∨ config.floor > config.ceiling ∨
      config.maxAttempts ≤ 0 ∨ config.jitterAlgorithmID = "" ∨ config.jitterVersion = "" ∨
      config.jitterEvidence = "" then
    .error (protocolError .invalidRequest 0 0 "backoff_config" (-1))
  else .ok { config := config }

namespace ReconnectBackoff

/-- The doubling loop of `nextDelayBefore`. -/
def double (ceiling : Duration) : Nat → Duration → Duration
  | 0, base => base
  | steps + 1, base => if base ≥ ceiling / 2 then ceiling else double ceiling steps (base * 2)

/-- The delay of the current attempt without jitter. -/
def baseDelay (backoff : ReconnectBackoff) : Duration :=
  min (double backoff.config.ceiling backoff.attempt backoff.config.floor) backoff.config.ceiling

/-- The first half of `nextDelayBefore`: the attempt and its delay without jitter. A
    `remaining` of zero is no limit. -/
def base (backoff : ReconnectBackoff) (remaining : Duration) :
    Except ProtocolError (Nat × Duration) :=
  if (backoff.attempt : Int) ≥ backoff.config.maxAttempts then
    .error (protocolError .invalidRange 0 0 "backoff_attempts" (-1))
  else if remaining > 0 ∧ backoff.baseDelay ≥ remaining then
    .error (protocolError .invalidRange 0 0 "operation_deadline" (-1))
  else .ok (backoff.attempt, backoff.baseDelay)

/-- The jitter the source answered, cut to its bounds. -/
def boundedJitter (backoff : ReconnectBackoff) (base answered : Duration) : Duration :=
  min (max answered 0) (backoff.config.ceiling - base)

/-- The second half of `nextDelayBefore`. Another success may have reset the
    progression since the first half. -/
def advance (backoff : ReconnectBackoff) (remaining : Duration) (attempt : Nat)
    (base answered : Duration) : Except ProtocolError Duration × ReconnectBackoff :=
  let jitter := backoff.boundedJitter base answered
  if remaining > 0 ∧ base + jitter ≥ remaining then
    (.error (protocolError .invalidRange 0 0 "operation_deadline" (-1)), backoff)
  else if backoff.attempt ≠ attempt then
    (.error (protocolError .invalidRequest 0 0 "backoff_attempt" (-1)), backoff)
  else
    let recent :=
      if (backoff.emitted.length : Int) = backoff.config.maxAttempts then backoff.emitted.tail
      else backoff.emitted
    (.ok (base + jitter),
      { backoff with attempt := attempt + 1, emitted := recent ++ [jitter] })

/-- `ValidCorrelatedResponse`: a proven success resets the progression. -/
def validCorrelatedResponse (backoff : ReconnectBackoff) : ReconnectBackoff :=
  { backoff with attempt := 0 }

/-- `nextDelayBefore`, where the source answers `answered` if it is asked. -/
def nextDelayBefore (backoff : ReconnectBackoff) (remaining answered : Duration) :
    Except ProtocolError Duration × ReconnectBackoff :=
  match backoff.base remaining with
  | .error err => (.error err, backoff)
  | .ok (attempt, base) => backoff.advance remaining attempt base answered

def nextDelay (backoff : ReconnectBackoff) (answered : Duration) :
    Except ProtocolError Duration × ReconnectBackoff :=
  backoff.nextDelayBefore 0 answered

/-- `WaitUntil` up to the wait. The waiter is asked for the delay of a success; what it
    returns does not come back here. -/
def waitUntil (backoff : ReconnectBackoff) (nowOffset deadlineOffset answered : Duration) :
    Except ProtocolError Duration × ReconnectBackoff :=
  if nowOffset < 0 ∨ deadlineOffset ≤ nowOffset then
    (.error (protocolError .invalidRequest 0 0 "backoff_wait" (-1)), backoff)
  else
    let next := backoff.nextDelay answered
    match next.1 with
    | .error err => (.error err, next.2)
    | .ok delay =>
      if delay > deadlineOffset - nowOffset then
        (.error (protocolError .invalidRange 0 0 "operation_deadline" (-1)), next.2)
      else (.ok delay, next.2)

end ReconnectBackoff

/-- The calls on a backoff, each with what the source answers if it is asked. -/
inductive BackoffCall where
  | nextDelay (answered : Duration)
  | nextDelayBefore (remaining answered : Duration)
  | waitUntil (nowOffset deadlineOffset answered : Duration)
  | validCorrelatedResponse
  deriving DecidableEq, Repr

/-- One call in a sequence of calls. A reset answers nothing. -/
structure BackoffStep where
  before : ReconnectBackoff
  call : BackoffCall
  answer : Option (Except ProtocolError Duration)
  after : ReconnectBackoff

namespace ReconnectBackoff

def answer (backoff : ReconnectBackoff) :
    BackoffCall → Option (Except ProtocolError Duration) × ReconnectBackoff
  | .nextDelay answered => (backoff.nextDelay answered).map some id
  | .nextDelayBefore remaining answered =>
    (backoff.nextDelayBefore remaining answered).map some id
  | .waitUntil nowOffset deadlineOffset answered =>
    (backoff.waitUntil nowOffset deadlineOffset answered).map some id
  | .validCorrelatedResponse => (none, backoff.validCorrelatedResponse)

def step (backoff : ReconnectBackoff) (call : BackoffCall) : BackoffStep where
  before := backoff
  call := call
  answer := (backoff.answer call).1
  after := (backoff.answer call).2

def trace (backoff : ReconnectBackoff) : List BackoffCall → List BackoffStep
  | [] => []
  | call :: rest => backoff.step call :: (backoff.step call).after.trace rest

/-- The backoff after them. -/
def run (backoff : ReconnectBackoff) (calls : List BackoffCall) : ReconnectBackoff :=
  calls.foldl (fun backoff call => (backoff.step call).after) backoff

end ReconnectBackoff

end HelianthusModbus
