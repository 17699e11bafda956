import HelianthusModbus.Core.Owner

/-!
# RTU Timing

The serial format of an RTU line and the silent intervals derived from it. A
character has a start bit, eight data bits, at most one parity bit and one or two
stop bits; the inter-character and inter-frame intervals are one and a half and
three and a half characters, or fixed above 19200 baud.

All durations are nanoseconds in a signed 64-bit integer, so an addition that would
leave that range is refused and not wrapped.

## Main definitions

* `RTUTimingConfig`, `RTUTiming`: A serial format, and the intervals it stands for.
* `newRTUTiming`: Checking a format and computing its intervals.
* `RTUTiming.frameTransmitHorizon`: How long a frame of a given size takes to send.
-/

namespace HelianthusModbus

def second : Nat := 1000000000

def rtuFixedInterCharacter : Duration := 750000
def rtuFixedInterFrame : Duration := 1750000
def rtuFixedTimerBaudFloor : UInt32 := 19200
def rtuHostInterCharacter : Duration := 20000000

/-- The largest RTU frame, in bytes. -/
def maxRTUADUSize : Nat := 256
def minRTUADUSize : Nat := 4

/-- The parity bit of a serial format. Every text that names no parity is `unset`. -/
inductive RTUParity where
  | unset
  | none
  | even
  | odd
  deriving DecidableEq, Repr

structure RTUTimingConfig where
  baud : UInt32
  dataBits : UInt8
  parity : RTUParity
  stopBits : UInt8
  interCharacterSafety : Duration := 0
  interFrameSafety : Duration := 0
  maxResponseLatency : Duration
  maxQuiescence : Duration
  deriving DecidableEq, Repr

/-- A timing contract. The default is the Go zero value, which no endpoint accepts. -/
structure RTUTiming where
  baud : UInt32 := 0
  bitsPerCharacter : Nat := 0
  characterTime : Duration := 0
  interCharacter : Duration := 0
  interFrame : Duration := 0
  readInterCharacter : Duration := 0
  maxResponseLatency : Duration := 0
  maxQuiescence : Duration := 0
  deriving DecidableEq, Repr, Inhabited

/-- The quotient rounded up, as a positive duration. -/
def ceilRTUDuration (numerator denominator : Nat) : Option Duration :=
  if denominator = 0 ∨ (numerator : Int) > maxDuration then none
  else
    let value := if numerator % denominator ≠ 0 then numerator / denominator + 1
      else numerator / denominator
    if value = 0 ∨ (value : Int) > maxDuration then none else some value

/-- The two silent intervals before the configured safety increases. -/
def rtuSilentIntervals (baud : UInt32) (bits : Nat) : Except ProtocolError (Duration × Duration) :=
  if baud > rtuFixedTimerBaudFloor then .ok (rtuFixedInterCharacter, rtuFixedInterFrame)
  else
    match ceilRTUDuration (bits * 3 * second) (baud.toNat * 2) with
    | none => .error (protocolError .invalidRange 0 0 "rtu_inter_character" (-1))
    | some interCharacter =>
      match ceilRTUDuration (bits * 7 * second) (baud.toNat * 2) with
      | none => .error (protocolError .invalidRange 0 0 "rtu_inter_frame" (-1))
      | some interFrame => .ok (interCharacter, interFrame)

/-- An interval raised to its configured safety value, which must not be shorter. -/
def rtuSafety (interval safety : Duration) (field : String) : Except ProtocolError Duration :=
  if safety = 0 then .ok interval
  else if safety < interval then .error (protocolError .invalidRange 0 0 field (-1))
  else .ok safety

def newRTUTiming (config : RTUTimingConfig) : Except ProtocolError RTUTiming :=
  if config.baud = 0 ∨ config.dataBits ≠ 8 ∨ config.parity = .unset ∨
      (config.stopBits ≠ 1 ∧ config.stopBits ≠ 2) ∨ config.maxResponseLatency ≤ 0 ∨
      config.maxQuiescence ≤ config.maxResponseLatency then
    .error (protocolError .invalidRequest 0 0 "rtu_timing" (-1))
  else do
    let parityBits := if config.parity = .none then 0 else 1
    let bits := 1 + config.dataBits.toNat + parityBits + config.stopBits.toNat
    let character ←
      match ceilRTUDuration (bits * second) config.baud.toNat with
      | none => .error (protocolError .invalidRange 0 0 "rtu_character_time" (-1))
      | some character => .ok character
    let intervals ← rtuSilentIntervals config.baud bits
    let interCharacter ← rtuSafety intervals.1 config.interCharacterSafety
      "rtu_inter_character_safety"
    let interFrame ← rtuSafety intervals.2 config.interFrameSafety "rtu_inter_frame_safety"
    if interCharacter ≥ interFrame then
      .error (protocolError .invalidRange 0 0 "rtu_silent_interval_order" (-1))
    else
      .ok { baud := config.baud, bitsPerCharacter := bits, characterTime := character
            interCharacter := interCharacter, interFrame := interFrame
            readInterCharacter :=
              if config.interCharacterSafety = 0 ∧ interCharacter < rtuHostInterCharacter then
                rtuHostInterCharacter
              else interCharacter
            maxResponseLatency := config.maxResponseLatency
            maxQuiescence := config.maxQuiescence }

/-- The time a whole frame takes on the line. -/
def RTUTiming.frameTransmitHorizon (timing : RTUTiming) (frameBytes : Nat) :
    Except ProtocolError Duration :=
  if frameBytes = 0 ∨ frameBytes > maxRTUADUSize ∨ timing.characterTime ≤ 0 ∨
      (frameBytes : Int) > maxDuration / timing.characterTime then
    .error (protocolError .invalidRange 0 0 "rtu_frame_horizon" (-1))
  else .ok (frameBytes * timing.characterTime)

/-- Addition of two offsets that are not negative and whose sum is a duration. -/
def checkedRTUOffsetAdd (offset delay : Duration) : Option Duration :=
  if offset < 0 ∨ delay < 0 ∨ offset > maxDuration - delay then none else some (offset + delay)

theorem checkedRTUOffsetAdd_eq_some (offset delay sum : Duration) :
    checkedRTUOffsetAdd offset delay = some sum ↔
      0 ≤ offset ∧ 0 ≤ delay ∧ offset + delay ≤ maxDuration ∧ sum = offset + delay := by
  unfold checkedRTUOffsetAdd Duration
  split_ifs with h
  · simp only [false_iff]
    omega
  · simp only [Option.some.injEq]
    omega

end HelianthusModbus
