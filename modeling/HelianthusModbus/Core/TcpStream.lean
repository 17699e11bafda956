import HelianthusModbus.Core.TcpAdu
import HelianthusModbus.Lib.Feeding
import HelianthusModbus.Lib.Loop

/-!
# Decoding a TCP Stream

The decoder that cuts the bytes of a connection into frames. It keeps what it has of the
next frame in a buffer of bounded size, and takes from each fragment only as many bytes as
the header, and then the frame, still needs.

Strict framing accepts the lengths of the protocol. Tolerant framing accepts longer
frames, and its errors carry every byte that was received and not delivered, also the
frames the failing call had already completed.

`Feed` is a loop over the buffer and the rest of the fragment. A turn moves bytes from the
fragment to the buffer or a frame out of the buffer, so twice the fragment and once the
buffer is a size that every turn makes smaller.

## Main definitions

* `TCPFraming`, `TCPFrameError`, `TCPStreamError`: The two framings and their errors.
* `TCPStreamDecoder`, `newTCPStreamDecoderWithFraming`: The decoder.
* `TCPStreamDecoder.feed`, `TCPStreamDecoder.finish`: The two calls.
* `TCPStreamDecoder.session`: A sequence of calls.
-/

namespace HelianthusModbus

def mbapHeaderSize : Nat := 7
def minMBAPLength : Nat := 2
def maxMBAPLength : Nat := maxPDUSize + 1
def maxTCPADUSize : Nat := mbapHeaderSize - 1 + maxMBAPLength
def maxTCPDecoderBuffer : Nat := 64 * 1024
def maxTolerantMBAPLength : Nat := maxTolerantPDUSize + 1
def maxTolerantTCPADUSize : Nat := mbapHeaderSize - 1 + maxTolerantMBAPLength

/-- How a decoder treats the length field. -/
inductive TCPFraming where
  | strict
  | tolerant
  deriving DecidableEq, Repr

def tcpFramingADUBound : TCPFraming → Nat
  | .tolerant => maxTolerantTCPADUSize
  | .strict => maxTCPADUSize

/-- A failure of tolerant framing, with every byte that was not delivered. -/
structure TCPFrameError where
  cause : ProtocolError
  raw : List UInt8
  deriving DecidableEq, Repr

/-- What `Feed` and `Finish` return as an error. -/
inductive TCPStreamError where
  | protocol (err : ProtocolError)
  | frame (err : TCPFrameError)
  deriving DecidableEq, Repr

/-- The protocol error that `errors.As` finds. -/
def TCPStreamError.cause : TCPStreamError → ProtocolError
  | .protocol err => err
  | .frame err => err.cause

/-- The undelivered bytes an error keeps. -/
def TCPStreamError.raw : TCPStreamError → List UInt8
  | .protocol _ => []
  | .frame err => err.raw

structure TCPStreamDecoder where
  maxBuffered : Nat
  framing : TCPFraming
  buffer : List UInt8 := []
  deriving DecidableEq, Repr

def newTCPStreamDecoderWithFraming (maxBuffered : Int) (framing : TCPFraming) :
    Except ProtocolError TCPStreamDecoder :=
  if maxBuffered < mbapHeaderSize ∨ maxBuffered > maxTCPDecoderBuffer ∨
      (framing = .tolerant ∧ maxBuffered < maxTolerantTCPADUSize) then
    .error (protocolError .invalidRequest 0 0 "max_buffered" (-1))
  else .ok { maxBuffered := maxBuffered.toNat, framing := framing }

def newTCPStreamDecoder (maxBuffered : Int) : Except ProtocolError TCPStreamDecoder :=
  newTCPStreamDecoderWithFraming maxBuffered .strict

namespace TCPStreamDecoder

def lengthBound (decoder : TCPStreamDecoder) : Nat :=
  match decoder.framing with
  | .tolerant => maxTolerantMBAPLength
  | .strict => maxMBAPLength

/-- `appendBounded`. The capacity of the buffer is not visible to a caller. -/
def appendBounded (decoder : TCPStreamDecoder) (fragment : List UInt8) : TCPStreamDecoder :=
  { decoder with buffer := decoder.buffer ++ fragment }

def failMalformed (decoder : TCPStreamDecoder) (field : String) (offset : Int) :
    TCPStreamError × TCPStreamDecoder :=
  (.protocol (protocolError .malformedResponse 0 0 field offset), { decoder with buffer := [] })

/-- `failFrame`: the frames completed earlier in the call are taken back. -/
def failFrame (decoder : TCPStreamDecoder) (field : String) (offset : Int)
    (undelivered : List TCPADU) (remainder : List UInt8) : TCPStreamError × TCPStreamDecoder :=
  match decoder.framing with
  | .strict => decoder.failMalformed field offset
  | .tolerant =>
    (.frame
      { cause := protocolError .malformedResponse 0 0 field offset
        raw := (undelivered.map TCPADU.raw).flatten ++ decoder.buffer ++ remainder },
      { decoder with buffer := [] })

def failBufferedBytes (decoder : TCPStreamDecoder) : TCPStreamError × TCPStreamDecoder :=
  (.protocol (protocolError .invalidRange 0 0 "buffered_bytes" (-1)),
    { decoder with buffer := [] })

def byte (decoder : TCPStreamDecoder) (index : Nat) : UInt8 :=
  decoder.buffer.getD index 0

def length (decoder : TCPStreamDecoder) : Nat :=
  (decoder.byte 4).toNat * 256 + (decoder.byte 5).toNat

/-- The frame in the first bytes of the buffer. -/
def frameOf (decoder : TCPStreamDecoder) (total : Nat) : TCPADU :=
  { transactionID := (decoder.byte 0).toUInt16 <<< 8 ||| (decoder.byte 1).toUInt16
    unitID := decoder.byte 6
    pdu := (decoder.buffer.take total).drop 7
    raw := decoder.buffer.take total }

end TCPStreamDecoder

/-- What a call of `Feed` returns, and the decoder after it. -/
abbrev TCPFed := Fed TCPStreamDecoder TCPADU TCPStreamError

/-- The variables of the loop of `Feed`. -/
structure TCPFeedState where
  decoder : TCPStreamDecoder
  frames : List TCPADU := []
  fragment : List UInt8

namespace TCPStreamDecoder

/-- The return of a failed call. -/
def failed (frames : List TCPADU) (failure : TCPStreamError × TCPStreamDecoder) : TCPFed :=
  { out := frames, err := some failure.1, state := failure.2 }

/-- The turn that takes some bytes of the fragment. -/
def consume (state : TCPFeedState) (needed : Nat) : TCPFeedState :=
  { state with
    decoder := state.decoder.appendBounded (state.fragment.take needed)
    fragment := state.fragment.drop needed }

/-- One turn of the loop of `Feed`. -/
def turn (state : TCPFeedState) : TCPFed ⊕ TCPFeedState :=
  let decoder := state.decoder
  if decoder.buffer.length < mbapHeaderSize then
    if state.fragment = [] then .inl { out := state.frames, state := decoder }
    else .inr (consume state (min (mbapHeaderSize - decoder.buffer.length) state.fragment.length))
  else if decoder.byte 2 ≠ 0 ∨ decoder.byte 3 ≠ 0 then
    .inl (failed [] (decoder.failFrame "protocol_id" 2 state.frames state.fragment))
  else if decoder.length < minMBAPLength ∨ decoder.length > decoder.lengthBound then
    .inl (failed [] (decoder.failFrame "length" 4 state.frames state.fragment))
  else
    let total := 6 + decoder.length
    if total > tcpFramingADUBound decoder.framing then
      .inl (failed [] (decoder.failFrame "adu_length" 4 state.frames state.fragment))
    else if decoder.buffer.length < total then
      if state.fragment = [] then .inl { out := state.frames, state := decoder }
      else
        let available := decoder.maxBuffered - decoder.buffer.length
        -- This exit alone returns the frames of the call together with the error.
        if available = 0 then .inl (failed state.frames decoder.failBufferedBytes)
        else
          .inr (consume state
            (min (min (total - decoder.buffer.length) state.fragment.length) available))
    else
      .inr { state with
        frames := state.frames ++ [decoder.frameOf total]
        decoder := { decoder with buffer := decoder.buffer.drop total } }

theorem consume_shrinks (state : TCPFeedState) (needed : Nat) (hpositive : 0 < needed)
    (hle : needed ≤ state.fragment.length) :
    2 * (consume state needed).fragment.length + (consume state needed).decoder.buffer.length <
      2 * state.fragment.length + state.decoder.buffer.length := by
  simp only [consume, appendBounded, List.length_append, List.length_take, List.length_drop]
  omega

/-- The loop of `Feed`. -/
def feedLoop : Loop TCPFeedState TCPFed where
  turn := turn
  size state := 2 * state.fragment.length + state.decoder.buffer.length
  shrinks state next h := by
    unfold turn at h
    simp only at h
    have hfragment : state.fragment ≠ [] → 0 < state.fragment.length := List.length_pos_of_ne_nil
    split at h
    next hheader =>
      split at h
      next => cases h
      next hsome =>
        cases h
        have := hfragment hsome
        exact consume_shrinks state _ (by omega) (by omega)
    next hheader =>
      split at h
      next => cases h
      next =>
        split at h
        next => cases h
        next hlength =>
          split at h
          next => cases h
          next =>
            split at h
            next hshort =>
              split at h
              next => cases h
              next hsome =>
                split at h
                next => cases h
                next havailable =>
                  cases h
                  have := hfragment hsome
                  exact consume_shrinks state _ (by omega) (by omega)
            next hwhole =>
              cases h
              simp only [List.length_drop]
              omega

def feed (decoder : TCPStreamDecoder) (fragment : List UInt8) : TCPFed :=
  feedLoop.run { decoder := decoder, fragment := fragment }

def finish (decoder : TCPStreamDecoder) : Option TCPStreamError × TCPStreamDecoder :=
  if decoder.buffer.length = 0 then (none, decoder)
  else
    let failure := decoder.failFrame "truncated_adu" decoder.buffer.length [] []
    (some failure.1, failure.2)

/-- Fragments fed one after the other up to the first error, and then perhaps `Finish`. -/
def session (decoder : TCPStreamDecoder) (fragments : List (List UInt8)) (finishing : Bool) :
    Feeding TCPStreamDecoder UInt8 TCPADU TCPStreamError :=
  let fed := feedAll feed decoder fragments
  if finishing = true ∧ fed.err = none then
    { fed with err := fed.state.finish.1, state := fed.state.finish.2 }
  else fed

end TCPStreamDecoder

end HelianthusModbus
