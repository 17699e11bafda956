import HelianthusModbus.Core.TcpStream

/-!
# Framing Does Not Depend on the Cuts

How a TCP stream is cut into fragments is an accident of the network, so nothing a decoder
delivers may depend on it. And what tolerant framing refuses must not lose bytes.

Both follow from one view of the loop of `Feed`: the buffer alone decides what happens
next. It is waiting for a number of bytes, it is full, it has a bad header, or it holds a
whole frame. A fragment that is shorter than what the buffer waits for only makes the wait
shorter, and that is why a cut changes nothing.

## Main definitions

* `TCPDemand`, `TCPStreamDecoder.demand`: What the buffer decides.

## Theorems

* `demands`: What the buffer decides, with what it holds then.
* `feed_joins`: Feeding two fragments is feeding them joined.
* `stream_partition_equivalence`: Every way of cutting a stream gives the same result.
* `tolerant_keeps_bytes`: Tolerant framing loses no byte.
-/

namespace HelianthusModbus

/-- What the buffer of a decoder decides about the next turn. -/
inductive TCPDemand where
  | more (needed : Nat)
  | full
  | bad (field : String) (offset : Int)
  | whole (total : Nat)

namespace TCPStreamDecoder

/-- The bytes the loop would take next, if any. A frame of this length never fits a bound
    that its length field does not fit, so the second bound of the source has no case. -/
def demand (decoder : TCPStreamDecoder) : TCPDemand :=
  if decoder.buffer.length < mbapHeaderSize then .more (mbapHeaderSize - decoder.buffer.length)
  else if decoder.byte 2 ≠ 0 ∨ decoder.byte 3 ≠ 0 then .bad "protocol_id" 2
  else if decoder.length < minMBAPLength ∨ decoder.length > decoder.lengthBound then
    .bad "length" 4
  else if decoder.buffer.length < 6 + decoder.length then
    if decoder.maxBuffered - decoder.buffer.length = 0 then .full
    else .more (min (6 + decoder.length - decoder.buffer.length)
      (decoder.maxBuffered - decoder.buffer.length))
  else .whole (6 + decoder.length)

/-- What the buffer decides, with what it holds then. -/
inductive Demands (decoder : TCPStreamDecoder) : TCPDemand → Prop where
  | header (hshort : decoder.buffer.length < mbapHeaderSize) :
      Demands decoder (.more (mbapHeaderSize - decoder.buffer.length))
  | protocolID (hheader : mbapHeaderSize ≤ decoder.buffer.length)
      (hid : decoder.byte 2 ≠ 0 ∨ decoder.byte 3 ≠ 0) : Demands decoder (.bad "protocol_id" 2)
  | length (hheader : mbapHeaderSize ≤ decoder.buffer.length)
      (hlength : decoder.length < minMBAPLength ∨ decoder.length > decoder.lengthBound) :
      Demands decoder (.bad "length" 4)
  | full (hheader : mbapHeaderSize ≤ decoder.buffer.length)
      (hbound : decoder.length ≤ decoder.lengthBound)
      (hshort : decoder.buffer.length < 6 + decoder.length)
      (hroom : decoder.maxBuffered ≤ decoder.buffer.length) : Demands decoder .full
  | rest (hheader : mbapHeaderSize ≤ decoder.buffer.length)
      (hid : ¬(decoder.byte 2 ≠ 0 ∨ decoder.byte 3 ≠ 0))
      (hlength : ¬(decoder.length < minMBAPLength ∨ decoder.length > decoder.lengthBound))
      (hshort : decoder.buffer.length < 6 + decoder.length)
      (hroom : decoder.buffer.length < decoder.maxBuffered) :
      Demands decoder (.more (min (6 + decoder.length - decoder.buffer.length)
        (decoder.maxBuffered - decoder.buffer.length)))
  | whole (hlength : minMBAPLength ≤ decoder.length)
      (hwhole : 6 + decoder.length ≤ decoder.buffer.length) :
      Demands decoder (.whole (6 + decoder.length))

theorem demands (decoder : TCPStreamDecoder) : Demands decoder decoder.demand := by
  unfold demand
  split
  · next hshort => exact .header hshort
  next hheader =>
  split
  · next hid => exact .protocolID (by omega) hid
  next hid =>
  split
  · next hlength => exact .length (by omega) hlength
  next hlength =>
  split
  · next hshort =>
    split
    · exact .full (by omega) (by omega) hshort (by omega)
    · exact .rest (by omega) hid hlength hshort (by omega)
  · exact .whole (by omega) (by omega)

/-- The frame leaves the buffer. -/
def extract (decoder : TCPStreamDecoder) (total : Nat) : TCPStreamDecoder :=
  { decoder with buffer := decoder.buffer.drop total }

theorem total_le_bound (decoder : TCPStreamDecoder) (h : decoder.length ≤ decoder.lengthBound) :
    6 + decoder.length ≤ tcpFramingADUBound decoder.framing := by
  unfold lengthBound at h
  cases hframing : decoder.framing with
  | strict =>
    rw [hframing] at h
    simp only [tcpFramingADUBound, maxTCPADUSize, mbapHeaderSize] at h ⊢
    omega
  | tolerant =>
    rw [hframing] at h
    simp only [tcpFramingADUBound, maxTolerantTCPADUSize, mbapHeaderSize] at h ⊢
    omega

theorem turn_eq (state : TCPFeedState) :
    turn state = match state.decoder.demand with
      | .more needed =>
        if state.fragment = [] then .inl { out := state.frames, state := state.decoder }
        else .inr (consume state (min needed state.fragment.length))
      | .full =>
        if state.fragment = [] then .inl { out := state.frames, state := state.decoder }
        else .inl (failed state.frames state.decoder.failBufferedBytes)
      | .bad field offset =>
        .inl (failed [] (state.decoder.failFrame field offset state.frames state.fragment))
      | .whole total =>
        .inr { state with
          frames := state.frames ++ [state.decoder.frameOf total]
          decoder := state.decoder.extract total } := by
  unfold turn demand
  simp only
  by_cases hheader : state.decoder.buffer.length < mbapHeaderSize
  · simp [if_pos hheader]
  · simp only [if_neg hheader]
    by_cases hid : state.decoder.byte 2 ≠ 0 ∨ state.decoder.byte 3 ≠ 0
    · simp [if_pos hid]
    · simp only [if_neg hid]
      by_cases hlength : state.decoder.length < minMBAPLength ∨
          state.decoder.length > state.decoder.lengthBound
      · simp [if_pos hlength]
      · simp only [if_neg hlength]
        have hbound := total_le_bound state.decoder (by omega)
        rw [if_neg (by omega)]
        by_cases hshort : state.decoder.buffer.length < 6 + state.decoder.length
        · simp only [if_pos hshort]
          by_cases hfull : state.decoder.maxBuffered - state.decoder.buffer.length = 0
          · simp [if_pos hfull]
          · simp only [if_neg hfull]
            rw [Nat.min_right_comm]
        · simp only [if_neg hshort]
          rfl

theorem turn_more (state : TCPFeedState) (needed : Nat)
    (hdemand : state.decoder.demand = .more needed) (hsome : state.fragment ≠ []) :
    feedLoop.turn state = .inr (consume state (min needed state.fragment.length)) := by
  rw [show feedLoop.turn = turn from rfl, turn_eq, hdemand]
  exact if_neg hsome

theorem turn_wait (state : TCPFeedState) (needed : Nat)
    (hdemand : state.decoder.demand = .more needed) (hnone : state.fragment = []) :
    feedLoop.turn state = .inl { out := state.frames, state := state.decoder } := by
  rw [show feedLoop.turn = turn from rfl, turn_eq, hdemand]
  exact if_pos hnone

theorem turn_full (state : TCPFeedState) (hdemand : state.decoder.demand = .full)
    (hsome : state.fragment ≠ []) :
    feedLoop.turn state = .inl (failed state.frames state.decoder.failBufferedBytes) := by
  rw [show feedLoop.turn = turn from rfl, turn_eq, hdemand]
  exact if_neg hsome

theorem turn_full_wait (state : TCPFeedState) (hdemand : state.decoder.demand = .full)
    (hnone : state.fragment = []) :
    feedLoop.turn state = .inl { out := state.frames, state := state.decoder } := by
  rw [show feedLoop.turn = turn from rfl, turn_eq, hdemand]
  exact if_pos hnone

theorem turn_bad (state : TCPFeedState) (field : String) (offset : Int)
    (hdemand : state.decoder.demand = .bad field offset) :
    feedLoop.turn state = .inl (failed []
      (state.decoder.failFrame field offset state.frames state.fragment)) := by
  rw [show feedLoop.turn = turn from rfl, turn_eq, hdemand]

theorem turn_whole (state : TCPFeedState) (total : Nat)
    (hdemand : state.decoder.demand = .whole total) :
    feedLoop.turn state = .inr { state with
      frames := state.frames ++ [state.decoder.frameOf total]
      decoder := state.decoder.extract total } := by
  rw [show feedLoop.turn = turn from rfl, turn_eq, hdemand]

theorem byte_appendBounded (decoder : TCPStreamDecoder) (bytes : List UInt8) (index : Nat)
    (h : index < decoder.buffer.length) :
    (decoder.appendBounded bytes).byte index = decoder.byte index := by
  simp [byte, appendBounded, List.getElem?_append_left h]

/-- Fewer bytes than were asked for only make the wait shorter. -/
theorem demand_appendBounded (decoder : TCPStreamDecoder) (needed : Nat) (bytes : List UInt8)
    (hdemand : decoder.demand = .more needed) (hfewer : bytes.length < needed) :
    (decoder.appendBounded bytes).demand = .more (needed - bytes.length) := by
  have hgrown : (decoder.appendBounded bytes).buffer.length =
      decoder.buffer.length + bytes.length := by
    simp [appendBounded]
  have hcase := demands decoder
  rw [hdemand] at hcase
  unfold demand
  rw [hgrown]
  cases hcase with
  | header hshort =>
    rw [if_pos (by omega)]
    congr 1
    omega
  | rest hheader hid hlengths hshort hroom =>
    have hheaders : ∀ index < mbapHeaderSize,
        (decoder.appendBounded bytes).byte index = decoder.byte index :=
      fun index hindex => byte_appendBounded decoder bytes index (by omega)
    have hlength : (decoder.appendBounded bytes).length = decoder.length := by
      simp [length, hheaders 4 (by decide), hheaders 5 (by decide)]
    have hmax : (decoder.appendBounded bytes).maxBuffered = decoder.maxBuffered := rfl
    have hbound : (decoder.appendBounded bytes).lengthBound = decoder.lengthBound := rfl
    rw [if_neg (by omega), hlength, hheaders 2 (by decide), hheaders 3 (by decide), if_neg hid,
      hbound, if_neg hlengths, if_pos (by omega), hmax, if_neg (by omega)]
    congr 1
    omega

theorem failFrame_cause (decoder : TCPStreamDecoder) (field : String) (offset : Int)
    (undelivered : List TCPADU) (remainder : List UInt8) :
    (decoder.failFrame field offset undelivered remainder).1.cause =
      protocolError .malformedResponse 0 0 field offset := by
  unfold failFrame
  cases decoder.framing <;> rfl

/-- The same turn with more frames completed before. -/
def prepend (earlier : List TCPADU) (state : TCPFeedState) : TCPFeedState :=
  { state with frames := earlier ++ state.frames }

/-- Two runs that differ only in the frames they start with. -/
theorem run_prepend (earlier : List TCPADU) (state : TCPFeedState) :
    (feedLoop.run (prepend earlier state)).err.map TCPStreamError.cause =
        (feedLoop.run state).err.map TCPStreamError.cause ∧
      ((feedLoop.run state).err = none →
        (feedLoop.run (prepend earlier state)).out = earlier ++ (feedLoop.run state).out ∧
          (feedLoop.run (prepend earlier state)).state = (feedLoop.run state).state) := by
  induction hsize : feedLoop.size state using Nat.strongRecOn generalizing state with
  | _ size ih =>
    -- No turn looks at the frames decoded so far, so both runs take the same one.
    cases hdemand : state.decoder.demand with
    | more needed =>
      by_cases hempty : state.fragment = []
      · rw [feedLoop.run_done _ _ (turn_wait state needed hdemand hempty),
          feedLoop.run_done _ _ (turn_wait (prepend earlier state) needed hdemand hempty)]
        exact ⟨rfl, fun _ => ⟨rfl, rfl⟩⟩
      · have hturn := turn_more state needed hdemand hempty
        rw [feedLoop.run_next _ _ hturn,
          feedLoop.run_next _ _ (turn_more (prepend earlier state) needed hdemand hempty)]
        exact ih _ (hsize ▸ feedLoop.shrinks _ _ hturn) _ rfl
    | full =>
      by_cases hempty : state.fragment = []
      · rw [feedLoop.run_done _ _ (turn_full_wait state hdemand hempty),
          feedLoop.run_done _ _ (turn_full_wait (prepend earlier state) hdemand hempty)]
        exact ⟨rfl, fun _ => ⟨rfl, rfl⟩⟩
      · rw [feedLoop.run_done _ _ (turn_full state hdemand hempty),
          feedLoop.run_done _ _ (turn_full (prepend earlier state) hdemand hempty)]
        exact ⟨rfl, fun h => nomatch h⟩
    | bad field offset =>
      rw [feedLoop.run_done _ _ (turn_bad state field offset hdemand),
        feedLoop.run_done _ _ (turn_bad (prepend earlier state) field offset hdemand)]
      simp [failed, failFrame_cause, prepend]
    | whole total =>
      have hturn := turn_whole state total hdemand
      have hsame := turn_whole (prepend earlier state) total hdemand
      simp only [prepend, List.append_assoc] at hsame
      rw [feedLoop.run_next _ _ hturn, prepend, feedLoop.run_next _ _ hsame]
      exact ih _ (hsize ▸ feedLoop.shrinks _ _ hturn) _ rfl

/-- A fragment that is too short for what the buffer waits for can come with the next one. -/
theorem run_short (decoder : TCPStreamDecoder) (frames : List TCPADU) (needed : Nat)
    (first second : List UInt8) (hdemand : decoder.demand = .more needed)
    (hfewer : first.length < needed) :
    feedLoop.run ⟨decoder, frames, first ++ second⟩ =
      feedLoop.run ⟨decoder.appendBounded first, frames, second⟩ := by
  have hrest := demand_appendBounded decoder needed first hdemand hfewer
  by_cases hfirst : first = []
  · rw [hfirst, List.nil_append, appendBounded, List.append_nil]
  · by_cases hsecond : second = []
    · -- Nothing follows: one turn takes all of the first, and then there is nothing to do.
      subst hsecond
      rw [feedLoop.run_next _ _ (turn_more _ needed hdemand (by simp [hfirst]))]
      simp only [consume, List.append_nil, Nat.min_eq_right (Nat.le_of_lt hfewer), List.take_length,
        List.drop_length]
    · rw [feedLoop.run_next _ _ (turn_more ⟨decoder, frames, first ++ second⟩ needed hdemand
          (by simp [hfirst])),
        feedLoop.run_next _ _ (turn_more ⟨decoder.appendBounded first, frames, second⟩ _ hrest
          hsecond)]
      have hcount : min needed (first ++ second).length =
          first.length + min (needed - first.length) second.length := by
        rw [List.length_append]
        omega
      simp only [consume, appendBounded, hcount, List.take_length_add_append,
        List.drop_length_add_append, List.append_assoc]

/-- The loop with more bytes behind its fragment. -/
def extend (state : TCPFeedState) (second : List UInt8) : TCPFeedState :=
  { state with fragment := state.fragment ++ second }

/-- A failure is there whatever follows, and without one the bytes that follow can as well
    come with the next call. -/
theorem run_extend (state : TCPFeedState) (second : List UInt8) :
    (∀ err, (feedLoop.run state).err = some err →
      (feedLoop.run (extend state second)).err.map TCPStreamError.cause = some err.cause) ∧
    ((feedLoop.run state).err = none →
      feedLoop.run (extend state second) =
        feedLoop.run ⟨(feedLoop.run state).state, (feedLoop.run state).out, second⟩) := by
  induction hsize : feedLoop.size state using Nat.strongRecOn generalizing state with
  | _ size ih =>
    have hmore : state.fragment ≠ [] → (extend state second).fragment ≠ [] :=
      fun h => List.append_ne_nil_of_left_ne_nil h second
    cases hdemand : state.decoder.demand with
    | more needed =>
      by_cases hempty : state.fragment = []
      · rw [feedLoop.run_done _ _ (turn_wait state needed hdemand hempty)]
        refine ⟨fun err h => (by cases h), fun _ => ?_⟩
        simp [extend, hempty]
      · have hturn := turn_more state needed hdemand hempty
        by_cases henough : needed ≤ state.fragment.length
        · -- Both loops take the same bytes.
          have hsame := turn_more (extend state second) needed hdemand (hmore hempty)
          have htaken : consume (extend state second)
                (min needed (extend state second).fragment.length) =
              extend (consume state (min needed state.fragment.length)) second := by
            have hcount : min needed (extend state second).fragment.length =
                min needed state.fragment.length := by
              simp only [extend, List.length_append]
              omega
            rw [hcount]
            simp only [consume, extend]
            rw [List.take_append_of_le_length (by omega),
              List.drop_append_of_le_length (by omega)]
          rw [htaken] at hsame
          rw [feedLoop.run_next _ _ hturn, feedLoop.run_next _ _ hsame]
          exact ih _ (hsize ▸ feedLoop.shrinks _ _ hturn) _ rfl
        · have hfewer : state.fragment.length < needed := by omega
          have hwait := demand_appendBounded state.decoder needed state.fragment hdemand hfewer
          have halone : feedLoop.run state =
              { out := state.frames, state := state.decoder.appendBounded state.fragment } := by
            have hshort := run_short state.decoder state.frames needed state.fragment []
              hdemand hfewer
            rw [List.append_nil] at hshort
            exact hshort.trans (feedLoop.run_done _ _ (turn_wait _ _ hwait rfl))
          rw [halone]
          exact ⟨fun err h => (by cases h), fun _ => run_short state.decoder state.frames
            needed state.fragment second hdemand hfewer⟩
    | full =>
      by_cases hempty : state.fragment = []
      · rw [feedLoop.run_done _ _ (turn_full_wait state hdemand hempty)]
        refine ⟨fun err h => (by cases h), fun _ => ?_⟩
        simp [extend, hempty]
      · rw [feedLoop.run_done _ _ (turn_full state hdemand hempty),
          feedLoop.run_done _ _ (turn_full (extend state second) hdemand (hmore hempty))]
        exact ⟨fun err h => congrArg _ h, fun h => by cases h⟩
    | bad field offset =>
      rw [feedLoop.run_done _ _ (turn_bad state field offset hdemand),
        feedLoop.run_done _ _ (turn_bad (extend state second) field offset hdemand)]
      refine ⟨fun err h => ?_, fun h => by cases h⟩
      cases h
      simp [failed, failFrame_cause]
    | whole total =>
      have hturn := turn_whole state total hdemand
      rw [feedLoop.run_next _ _ hturn,
        feedLoop.run_next _ _ (turn_whole (extend state second) total hdemand)]
      exact ih _ (hsize ▸ feedLoop.shrinks _ _ hturn) _ rfl

theorem feed_joins : Joins feed TCPStreamError.cause where
  fails decoder first second err h :=
    (run_extend { decoder := decoder, fragment := first } second).1 err h
  goesOn decoder first second h := by
    have hsame := (run_extend { decoder := decoder, fragment := first } second).2 h
    have hprepend := run_prepend (feed decoder first).out
      { decoder := (feed decoder first).state, fragment := second }
    rw [prepend, List.append_nil] at hprepend
    exact (congrArg (fun fed => fed.err.map TCPStreamError.cause) hsame).trans hprepend.1
  complete decoder first second h hsecond := by
    have hsame := (run_extend { decoder := decoder, fragment := first } second).2 h
    have hprepend := (run_prepend (feed decoder first).out
      { decoder := (feed decoder first).state, fragment := second }).2 hsecond
    rw [prepend, List.append_nil] at hprepend
    exact ⟨(congrArg Fed.out hsame).trans hprepend.1,
      (congrArg Fed.state hsame).trans hprepend.2⟩

theorem demand_fits (decoder : TCPStreamDecoder) (needed : Nat)
    (hheader : mbapHeaderSize ≤ decoder.maxBuffered) (hdemand : decoder.demand = .more needed) :
    decoder.buffer.length + needed ≤ decoder.maxBuffered := by
  have hcase := demands decoder
  rw [hdemand] at hcase
  cases hcase with
  | header hshort => omega
  | rest _ _ _ _ hroom => omega

/-- The buffer is within its bound, and the bound has room for a header. -/
structure Bounded (maxBuffered : Nat) (decoder : TCPStreamDecoder) : Prop where
  bound : decoder.maxBuffered = maxBuffered
  header : mbapHeaderSize ≤ maxBuffered
  buffer : decoder.buffer.length ≤ maxBuffered

theorem Bounded.empty {maxBuffered : Nat} {decoder : TCPStreamDecoder}
    (h : Bounded maxBuffered decoder) : Bounded maxBuffered { decoder with buffer := [] } :=
  ⟨h.bound, h.header, Nat.zero_le _⟩

theorem turn_bounded (maxBuffered : Nat) (state next : TCPFeedState)
    (h : Bounded maxBuffered state.decoder) (hturn : feedLoop.turn state = .inr next) :
    Bounded maxBuffered next.decoder := by
  rw [show feedLoop.turn = turn from rfl, turn_eq] at hturn
  split at hturn
  next needed hdemand =>
    split at hturn
    · cases hturn
    cases hturn
    have hfits := demand_fits state.decoder needed (h.bound ▸ h.header) hdemand
    rw [h.bound] at hfits
    refine ⟨h.bound, h.header, ?_⟩
    simp only [consume, appendBounded, List.length_append, List.length_take]
    omega
  next => split at hturn <;> cases hturn
  next => cases hturn
  next total hdemand =>
    cases hturn
    refine ⟨h.bound, h.header, ?_⟩
    have := h.buffer
    simp only [extract, List.length_drop]
    omega

theorem failFrame_state (decoder : TCPStreamDecoder) (field : String) (offset : Int)
    (undelivered : List TCPADU) (remainder : List UInt8) :
    (decoder.failFrame field offset undelivered remainder).2 = { decoder with buffer := [] } := by
  unfold failFrame
  split <;> rfl

theorem feed_bounded (maxBuffered : Nat) (decoder : TCPStreamDecoder) (fragment : List UInt8)
    (h : Bounded maxBuffered decoder) : Bounded maxBuffered (decoder.feed fragment).state := by
  refine feedLoop.run_induction (fun state => Bounded maxBuffered state.decoder)
    (fun fed => Bounded maxBuffered fed.state) (turn_bounded maxBuffered) ?_ _ h
  intro state fed hstate hturn
  rw [show feedLoop.turn = turn from rfl, turn_eq] at hturn
  split at hturn
  · split at hturn <;> cases hturn
    exact hstate
  · split at hturn <;> cases hturn
    · exact hstate
    · exact hstate.empty
  · cases hturn
    rw [failed, failFrame_state]
    exact hstate.empty
  · cases hturn

theorem newTCPStreamDecoderWithFraming_ok (maxBuffered : Int) (framing : TCPFraming)
    (decoder : TCPStreamDecoder)
    (h : newTCPStreamDecoderWithFraming maxBuffered framing = .ok decoder) :
    decoder = { maxBuffered := maxBuffered.toNat, framing := framing } ∧
      (mbapHeaderSize : Int) ≤ maxBuffered ∧
      (framing = .tolerant → (maxTolerantTCPADUSize : Int) ≤ maxBuffered) := by
  unfold newTCPStreamDecoderWithFraming at h
  split at h
  next => cases h
  next haccepted =>
    cases h
    exact ⟨rfl, by omega, fun htolerant => by
      by_contra hsmall
      exact haccepted (.inr (.inr ⟨htolerant, by omega⟩))⟩

/-- The result of a stream is the same for every way of cutting it into fragments: all of
    them are taken, with the same frames, the same rest and the same answer at the end, or
    all of them fail, for the same cause and in the call that has one certain byte. -/
def IndependentOfCuts (decoder : TCPStreamDecoder) (stream : List UInt8) : Prop :=
  (∃ frames buffer finished, ∀ fragments : List (List UInt8), fragments.flatten = stream →
    (feedAll feed decoder fragments).err = none ∧
      (feedAll feed decoder fragments).out = frames ∧
      (feedAll feed decoder fragments).state.buffer = buffer ∧
      (feedAll feed decoder fragments).state.finish.1 = finished) ∨
  ∃ kind field offset, ∃ position < stream.length,
    ∀ fragments : List (List UInt8), fragments.flatten = stream →
      (∃ err, (feedAll feed decoder fragments).err = some err ∧ err.cause.kind = kind ∧
        err.cause.field = field ∧ err.cause.offset = offset) ∧
      (feedAll feed decoder fragments).calls.dropLast.flatten.length ≤ position ∧
      position < (feedAll feed decoder fragments).calls.flatten.length

theorem independentOfCuts (decoder : TCPStreamDecoder) (hsettled : Settled feed decoder)
    (stream : List UInt8) : IndependentOfCuts decoder stream := by
  cases herr : (decoder.feed stream).err with
  | none =>
    refine .inl ⟨(decoder.feed stream).out, (decoder.feed stream).state.buffer,
      (decoder.feed stream).state.finish.1, fun fragments hcut => ?_⟩
    subst hcut
    rcases feedAll_complete feed_joins decoder fragments hsettled herr with
      ⟨hok, _, hout, hstate⟩
    exact ⟨hok, hout, congrArg buffer hstate, congrArg (fun state => state.finish.1) hstate⟩
  | some err =>
    rcases feedAll_fails feed_joins decoder stream hsettled err herr with
      ⟨position, hposition, hall⟩
    refine .inr ⟨err.cause.kind, err.cause.field, err.cause.offset, position, hposition, ?_⟩
    intro fragments hcut
    rcases hall fragments hcut with ⟨hcause, hbefore, hafter⟩
    rcases Option.map_eq_some_iff.mp hcause with ⟨other, hother, hsame⟩
    exact ⟨⟨other, hother, hsame ▸ rfl, hsame ▸ rfl, hsame ▸ rfl⟩, hbefore, hafter⟩

/-- The decoder after some calls, whether they failed or not. -/
def fedWith (decoder : TCPStreamDecoder) (fragments : List (List UInt8)) : TCPStreamDecoder :=
  fragments.foldl (fun decoder fragment => (decoder.feed fragment).state) decoder

theorem fedWith_bounded (maxBuffered : Nat) (decoder : TCPStreamDecoder)
    (fragments : List (List UInt8)) (h : Bounded maxBuffered decoder) :
    Bounded maxBuffered (decoder.fedWith fragments) := by
  induction fragments generalizing decoder with
  | nil => exact h
  | cons fragment rest ih => exact ih _ (feed_bounded maxBuffered decoder fragment h)

/-- The cuts of a stream do not matter, and the buffer is within its bound at every turn of
    every call. -/
theorem stream_partition_equivalence (maxBuffered : Int) (framing : TCPFraming)
    (decoder : TCPStreamDecoder)
    (hnew : newTCPStreamDecoderWithFraming maxBuffered framing = .ok decoder) :
    (∀ stream, IndependentOfCuts decoder stream) ∧
      ∀ earlier fragment visited,
        feedLoop.Visits { decoder := decoder.fedWith earlier, fragment := fragment } visited →
        (visited.decoder.buffer.length : Int) ≤ maxBuffered := by
  rcases newTCPStreamDecoderWithFraming_ok maxBuffered framing decoder hnew with
    ⟨hdecoder, hheader, _⟩
  subst hdecoder
  constructor
  · exact independentOfCuts _ (feedLoop.run_done _ _ (turn_wait _ mbapHeaderSize rfl rfl))
  · intro earlier fragment visited hvisits
    have hfed := fedWith_bounded maxBuffered.toNat
      { maxBuffered := maxBuffered.toNat, framing := framing } earlier
      ⟨rfl, by omega, Nat.zero_le _⟩
    have hbounded := feedLoop.visits_induction
      (fun state => Bounded maxBuffered.toNat state.decoder) (turn_bounded _) _ _ hvisits hfed
    have := hbounded.buffer
    omega

/-- A strict decoder of the smallest size on a frame that does not fit it. -/
theorem stream_partition_equivalence_small :
    newTCPStreamDecoderWithFraming 7 .strict =
        .ok { maxBuffered := 7, framing := .strict } ∧
      IndependentOfCuts { maxBuffered := 7, framing := .strict } [0, 1, 0, 0, 0, 3, 1, 3, 2] ∧
      (feed { maxBuffered := 7, framing := .strict } [0, 1, 0, 0, 0, 3, 1, 3, 2]).err =
        some (.protocol (protocolError .invalidRange 0 0 "buffered_bytes" (-1))) :=
  ⟨rfl, (stream_partition_equivalence 7 .strict _ rfl).1 _, by decide +kernel⟩

/-- A tolerant decoder with room for its largest frame. -/
structure Roomy (decoder : TCPStreamDecoder) : Prop where
  framing : decoder.framing = .tolerant
  room : maxTolerantTCPADUSize ≤ decoder.maxBuffered

/-- The buffer is never full, and the only bad headers are those of the two checks. -/
theorem Roomy.demand {decoder : TCPStreamDecoder} (h : Roomy decoder) :
    decoder.demand ≠ .full ∧
      ∀ field offset, decoder.demand = .bad field offset →
        field = "protocol_id" ∨ field = "length" := by
  have hroom := h.room
  have hcase := demands decoder
  refine ⟨fun hfull => ?_, fun field offset hbad => ?_⟩
  · rw [hfull] at hcase
    cases hcase with
    | full _ hbound hshort hfull =>
      -- A frame that passed the length check fits the room.
      have htotal := total_le_bound decoder hbound
      rw [h.framing, tcpFramingADUBound] at htotal
      omega
  · rw [hbad] at hcase
    cases hcase with
    | protocolID => exact .inl rfl
    | length => exact .inr rfl

end TCPStreamDecoder

/-- The parts of a frame are those of its bytes, and its length field counts them. -/
structure TCPADU.WellFramed (adu : TCPADU) : Prop where
  header : mbapHeaderSize ≤ adu.raw.length
  transactionID : adu.transactionID =
    (adu.raw.getD 0 0).toUInt16 <<< 8 ||| (adu.raw.getD 1 0).toUInt16
  unitID : adu.unitID = adu.raw.getD 6 0
  pdu : adu.pdu = adu.raw.drop 7
  length : (adu.raw.getD 4 0).toNat * 256 + (adu.raw.getD 5 0).toNat = adu.pdu.length + 1

namespace TCPStreamDecoder

theorem demand_whole (decoder : TCPStreamDecoder) (total : Nat)
    (h : decoder.demand = .whole total) :
    total = 6 + decoder.length ∧ minMBAPLength ≤ decoder.length ∧
      total ≤ decoder.buffer.length := by
  have hcase := demands decoder
  rw [h] at hcase
  cases hcase with
  | whole hlength hwhole => exact ⟨rfl, hlength, hwhole⟩

theorem frameOf_wellFramed (decoder : TCPStreamDecoder) (total : Nat)
    (h : decoder.demand = .whole total) : (decoder.frameOf total).WellFramed := by
  rcases demand_whole decoder total h with ⟨htotal, hlength, hbuffer⟩
  unfold minMBAPLength at hlength
  have hbyte : ∀ index < total, (decoder.buffer.take total).getD index 0 = decoder.byte index := by
    intro index hindex
    simp only [byte, List.getD_eq_getElem?_getD, List.getElem?_take_of_lt hindex]
  have hsize : (decoder.buffer.take total).length = total := by
    rw [List.length_take]
    omega
  refine ⟨?_, ?_, ?_, rfl, ?_⟩
  · simp only [frameOf, hsize, mbapHeaderSize]
    omega
  · simp only [frameOf, hbyte 0 (by omega), hbyte 1 (by omega)]
  · simp only [frameOf, hbyte 6 (by omega)]
  · simp only [frameOf, hbyte 4 (by omega), hbyte 5 (by omega), List.length_drop, hsize]
    have : (decoder.byte 4).toNat * 256 + (decoder.byte 5).toNat = decoder.length := rfl
    omega

/-- The bytes of the loop: those of the frames, the buffer and the rest of the fragment. -/
structure Keeps (bytes : List UInt8) (state : TCPFeedState) : Prop where
  kept : (state.frames.map TCPADU.raw).flatten ++ (state.decoder.buffer ++ state.fragment) = bytes
  framed : ∀ frame ∈ state.frames, frame.WellFramed

/-- What is left after a call: the bytes of its error, or else the buffer. -/
def left (err : Option TCPStreamError) (decoder : TCPStreamDecoder) : List UInt8 :=
  match err with
  | some err => err.raw
  | none => decoder.buffer

/-- A tolerant error: it keeps bytes, and it comes from one of these checks. -/
def TolerantError (err : TCPStreamError) : Prop :=
  ∃ kept, err = .frame kept ∧ kept.cause.field ∈ ["protocol_id", "length", "truncated_adu"]

/-- One call of a tolerant decoder. -/
structure KeptBy (bytes : List UInt8) (fed : TCPFed) : Prop where
  roomy : Roomy fed.state
  kept : (fed.out.map TCPADU.raw).flatten ++ left fed.err fed.state = bytes
  framed : ∀ frame ∈ fed.out, frame.WellFramed
  tolerant : ∀ err, fed.err = some err → TolerantError err

theorem turn_keeps (bytes : List UInt8) (state next : TCPFeedState) (h : Keeps bytes state)
    (hturn : feedLoop.turn state = .inr next) : Keeps bytes next := by
  rw [show feedLoop.turn = turn from rfl, turn_eq] at hturn
  split at hturn
  next needed hdemand =>
    split at hturn
    · cases hturn
    cases hturn
    refine ⟨?_, h.framed⟩
    simp only [consume, appendBounded, List.append_assoc, List.take_append_drop]
    exact h.kept
  next => split at hturn <;> cases hturn
  next => cases hturn
  next total hdemand =>
    cases hturn
    refine ⟨?_, ?_⟩
    · simp only [List.map_append, List.flatten_append, List.map_cons, List.map_nil,
        List.flatten_cons, List.flatten_nil, List.append_nil, frameOf, extract,
        List.append_assoc]
      rw [← List.append_assoc (List.take total _), List.take_append_drop]
      exact h.kept
    · intro frame hframe
      rcases List.mem_append.mp hframe with hearlier | hthis
      · exact h.framed frame hearlier
      · rw [List.mem_singleton.mp hthis]
        exact frameOf_wellFramed state.decoder total hdemand

/-- Without an error a call keeps every byte, in the frames and then in the buffer. -/
theorem feed_keeps (decoder : TCPStreamDecoder) (fragment : List UInt8)
    (hok : (decoder.feed fragment).err = none) :
    ((decoder.feed fragment).out.map TCPADU.raw).flatten ++ (decoder.feed fragment).state.buffer =
        decoder.buffer ++ fragment ∧
      ∀ frame ∈ (decoder.feed fragment).out, frame.WellFramed := by
  refine feedLoop.run_induction (Keeps (decoder.buffer ++ fragment))
    (fun fed => fed.err = none →
      (fed.out.map TCPADU.raw).flatten ++ fed.state.buffer = decoder.buffer ++ fragment ∧
        ∀ frame ∈ fed.out, frame.WellFramed) (turn_keeps _) ?_ _ ⟨rfl, nofun⟩ hok
  intro state fed h hturn hnone
  rw [show feedLoop.turn = turn from rfl, turn_eq] at hturn
  -- The only exits without an error are the two waits.
  have hwait : state.fragment = [] → (state.frames.map TCPADU.raw).flatten ++
      state.decoder.buffer = decoder.buffer ++ fragment := by
    intro hempty
    rw [← h.kept, hempty, List.append_nil]
  split at hturn
  · split at hturn <;> cases hturn
    next hempty => exact ⟨hwait hempty, h.framed⟩
  · split at hturn <;> cases hturn
    · next hempty => exact ⟨hwait hempty, h.framed⟩
    · cases hnone
  · cases hturn
    cases hnone
  · cases hturn

theorem turn_keptBy (bytes : List UInt8) (state : TCPFeedState) (fed : TCPFed)
    (h : Roomy state.decoder ∧ Keeps bytes state) (hturn : feedLoop.turn state = .inl fed) :
    KeptBy bytes fed := by
  rcases h with ⟨hroomy, hkeeps⟩
  rw [show feedLoop.turn = turn from rfl, turn_eq] at hturn
  split at hturn
  · split at hturn <;> cases hturn
    next hnone =>
    have hkept := hkeeps.kept
    rw [hnone, List.append_nil] at hkept
    exact ⟨hroomy, hkept, hkeeps.framed, nofun⟩
  · next hfull => exact absurd hfull hroomy.demand.1
  · next field offset hdemand =>
    cases hturn
    have hfield := hroomy.demand.2 field offset hdemand
    simp only [failed, failFrame, hroomy.framing]
    refine ⟨⟨rfl, hroomy.room⟩, ?_, nofun, ?_⟩
    · simp only [left, TCPStreamError.raw, List.map_nil, List.flatten_nil, List.nil_append,
        List.append_assoc]
      exact hkeeps.kept
    · rintro err ⟨⟩
      refine ⟨_, rfl, ?_⟩
      rcases hfield with rfl | rfl <;> simp [protocolError]
  · cases hturn

theorem feed_keptBy (decoder : TCPStreamDecoder) (fragment : List UInt8) (h : Roomy decoder) :
    KeptBy (decoder.buffer ++ fragment) (decoder.feed fragment) := by
  refine feedLoop.run_induction
    (fun state => Roomy state.decoder ∧ Keeps (decoder.buffer ++ fragment) state)
    (KeptBy (decoder.buffer ++ fragment)) ?_ (turn_keptBy _) _ ⟨h, rfl, nofun⟩
  intro state next hstate hturn
  refine ⟨?_, turn_keeps _ state next hstate.2 hturn⟩
  -- No turn changes the framing or the room.
  rw [show feedLoop.turn = turn from rfl, turn_eq] at hturn
  split at hturn
  · split at hturn <;> cases hturn
    exact ⟨hstate.1.framing, hstate.1.room⟩
  · split at hturn <;> cases hturn
  · cases hturn
  · cases hturn
    exact ⟨hstate.1.framing, hstate.1.room⟩

/-- A list of calls up to the first error. -/
structure KeptByAll (bytes : List UInt8)
    (fed : Feeding TCPStreamDecoder UInt8 TCPADU TCPStreamError) : Prop where
  roomy : Roomy fed.state
  kept : (fed.out.map TCPADU.raw).flatten ++ left fed.err fed.state = bytes ++ fed.calls.flatten
  framed : ∀ frame ∈ fed.out, frame.WellFramed
  tolerant : ∀ err, fed.err = some err → TolerantError err

theorem feedAll_keptBy (decoder : TCPStreamDecoder) (fragments : List (List UInt8))
    (h : Roomy decoder) : KeptByAll decoder.buffer (feedAll feed decoder fragments) := by
  induction fragments generalizing decoder with
  | nil =>
    refine ⟨h, ?_, nofun, nofun⟩
    simp [feedAll, left]
  | cons fragment rest ih =>
    have hfirst := feed_keptBy decoder fragment h
    cases herr : (decoder.feed fragment).err with
    | some err =>
      simp only [feedAll, herr]
      have hkept := hfirst.kept
      rw [herr] at hkept
      refine ⟨hfirst.roomy, ?_, hfirst.framed, fun other hother => ?_⟩
      · simpa using hkept
      · exact hfirst.tolerant other (herr.trans hother)
    | none =>
      simp only [feedAll, herr]
      have hmore := ih _ hfirst.roomy
      have hkept := hfirst.kept
      rw [herr, left] at hkept
      refine ⟨hmore.roomy, ?_, ?_, hmore.tolerant⟩
      · rw [List.map_append, List.flatten_append, List.append_assoc, hmore.kept,
          ← List.append_assoc, hkept, List.append_assoc, List.flatten_cons]
      · intro frame hframe
        rcases List.mem_append.mp hframe with hearlier | hlater
        · exact hfirst.framed frame hearlier
        · exact hmore.framed frame hlater

theorem finish_keptBy (decoder : TCPStreamDecoder) (h : Roomy decoder) :
    left decoder.finish.1 decoder.finish.2 = decoder.buffer ∧
      ∀ err, decoder.finish.1 = some err → TolerantError err := by
  unfold finish
  split
  next => exact ⟨rfl, nofun⟩
  next =>
    simp only [failFrame, h.framing]
    refine ⟨?_, ?_⟩
    · simp [left, TCPStreamError.raw]
    · rintro err ⟨⟩
      exact ⟨_, rfl, by simp [protocolError]⟩

/-- Tolerant framing loses no byte: whatever was fed is in the frames that were delivered
    and then in the error, or in the buffer if there was none. Every error keeps its bytes,
    and none comes from the buffer bound or from the second length bound. -/
theorem tolerant_keeps_bytes (maxBuffered : Int) (decoder : TCPStreamDecoder)
    (hnew : newTCPStreamDecoderWithFraming maxBuffered .tolerant = .ok decoder)
    (fragments : List (List UInt8)) (finishing : Bool) :
    ((decoder.session fragments finishing).out.map TCPADU.raw).flatten ++
        (match (decoder.session fragments finishing).err with
          | some err => err.raw
          | none => (decoder.session fragments finishing).state.buffer) =
      (decoder.session fragments finishing).calls.flatten ∧
    (∀ frame ∈ (decoder.session fragments finishing).out, frame.WellFramed) ∧
    ∀ err, (decoder.session fragments finishing).err = some err →
      (∃ kept, err = .frame kept) ∧ err.cause.field ≠ "buffered_bytes" ∧
        err.cause.field ≠ "adu_length" := by
  rcases newTCPStreamDecoderWithFraming_ok maxBuffered .tolerant decoder hnew with
    ⟨hdecoder, _, hroom⟩
  have hroomy : Roomy decoder := by
    have := hroom rfl
    subst hdecoder
    exact ⟨rfl, by simp only; omega⟩
  have hempty : decoder.buffer = [] := by rw [hdecoder]
  have hfed := feedAll_keptBy decoder fragments hroomy
  have hkept := hfed.kept
  rw [hempty, List.nil_append] at hkept
  have hfields : ∀ err, TolerantError err → (∃ kept, err = .frame kept) ∧
      err.cause.field ≠ "buffered_bytes" ∧ err.cause.field ≠ "adu_length" := by
    rintro err ⟨kept, rfl, hfield⟩
    refine ⟨⟨kept, rfl⟩, ?_, ?_⟩ <;>
    · intro hother
      rw [TCPStreamError.cause] at hother
      rw [hother] at hfield
      simp at hfield
  unfold session
  by_cases hfinishing : finishing = true ∧ (feedAll feed decoder fragments).err = none
  · simp only [if_pos hfinishing]
    rcases finish_keptBy _ hfed.roomy with ⟨hleft, htolerant⟩
    rw [hfinishing.2, left, ← hleft] at hkept
    exact ⟨hkept, hfed.framed, fun err herr => hfields err (htolerant err herr)⟩
  · simp only [if_neg hfinishing]
    exact ⟨hkept, hfed.framed, fun err herr => hfields err (hfed.tolerant err herr)⟩

/-- A frame, and then a bad header in the next fragment. -/
theorem tolerant_keeps_bytes_bad :
    newTCPStreamDecoderWithFraming 4103 .tolerant =
        .ok { maxBuffered := 4103, framing := .tolerant } ∧
      ((session { maxBuffered := 4103, framing := .tolerant }
          [[0, 1, 0, 0, 0, 3, 1, 3, 2, 0, 2], [0, 7, 0, 3, 1]] true).err.map
            TCPStreamError.raw) = some [0, 2, 0, 7, 0, 3, 1] ∧
      ∀ frame ∈ (session { maxBuffered := 4103, framing := .tolerant }
          [[0, 1, 0, 0, 0, 3, 1, 3, 2, 0, 2], [0, 7, 0, 3, 1]] true).out, frame.WellFramed :=
  ⟨rfl, by decide +kernel, (tolerant_keeps_bytes 4103 _ rfl _ true).2.1⟩

end TCPStreamDecoder

end HelianthusModbus
