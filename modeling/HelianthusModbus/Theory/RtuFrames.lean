import HelianthusModbus.Core.RtuAdu
import Mathlib.Data.List.Chain

/-!
# Frame Assembly on an RTU Line

The decoder keeps three flags and one offset, which after a rejected byte means the latest
offset and before it the offset of the last byte taken. `RTULine` is what an observer of the
calls and their replies knows: the bytes accepted since the last boundary, whether a byte was
rejected since then, and the latest offset of a byte. `Follows` ties the two together, and
everything a frame promises is about the observer's side.

## Main definitions

* `RTUDecoderCall`, `RTUFrameDecoder.perform`: The calls of a decoder.
* `RTULine`, `RTULine.observe`: The observer.
* `RTULine.Follows`: The decoder is where the observer thinks.

## Theorems

* `RTULine.Follows.perform`, `RTULine.Follows.run`: Every call keeps it so.
* `frame_assembly`: What a frame that is handed over promises, and what follows a rejection.
-/

namespace HelianthusModbus

inductive RTUDecoderCall where
  | feedByte (offset : Duration) (value : UInt8)
  | endFrame (offset : Duration)
  | reset
  deriving DecidableEq, Repr

/-- The offset of a call is not negative. -/
def RTUDecoderCall.Timed : RTUDecoderCall → Prop
  | .feedByte offset _ => 0 ≤ offset
  | .endFrame offset => 0 ≤ offset
  | .reset => True

/-- A call, and whether it took its byte or handed over a frame. -/
def RTUFrameDecoder.perform (decoder : RTUFrameDecoder) : RTUDecoderCall → Bool × RTUFrameDecoder
  | .feedByte offset value =>
    ((decoder.feedByte offset value).1 = none, (decoder.feedByte offset value).2)
  | .endFrame offset => ((decoder.endFrame offset).1.1.raw ≠ [], (decoder.endFrame offset).2)
  | .reset => (true, decoder.reset)

/-- What an observer knows since the last reset, frame end or resynchronization. -/
structure RTULine where
  accepted : List (Duration × UInt8) := []
  rejected : Bool := false
  latest : Duration := 0

namespace RTULine

/-- A call and its reply, observed. A byte that is taken after a rejection starts anew. -/
def observe (line : RTULine) (done : Bool) : RTUDecoderCall → RTULine
  | .feedByte offset value =>
    if done = false then { line with rejected := true, latest := max line.latest offset }
    else if line.rejected then { accepted := [(offset, value)], latest := offset }
    else
      { line with
        accepted := line.accepted ++ [(offset, value)], latest := max line.latest offset }
  | .endFrame _ => if done then {} else line
  | .reset => {}

/-- A decoder and its observer, call after call. -/
def run (line : RTULine) (decoder : RTUFrameDecoder) :
    List RTUDecoderCall → RTULine × RTUFrameDecoder
  | [] => (line, decoder)
  | call :: rest =>
    (line.observe (decoder.perform call).1 call).run (decoder.perform call).2 rest

/-- The bytes of a frame follow one another without a gap. -/
def Unbroken (timing : RTUTiming) (bytes : List (Duration × UInt8)) : Prop :=
  bytes.IsChain fun earlier later =>
    earlier.1 ≤ later.1 ∧ later.1 - earlier.1 ≤ timing.interCharacter

/-- The decoder is where the observer thinks. -/
structure Follows (timing : RTUTiming) (line : RTULine) (decoder : RTUFrameDecoder) : Prop where
  unbroken : Unbroken timing line.accepted
  size : line.accepted.length ≤ maxRTUADUSize
  sameTiming : decoder.timing = timing
  poisoned : decoder.poisoned = line.rejected
  latest : decoder.lastByte = line.latest
  positive : 0 ≤ line.latest
  dropped : line.rejected = true → decoder.buffer = [] ∧ decoder.haveByte = false
  buffer : line.rejected = false → decoder.buffer = line.accepted.map Prod.snd
  started : line.rejected = false → (decoder.haveByte = true ↔ line.accepted ≠ [])
  last : line.rejected = false → line.latest = (line.accepted.getLast?.map Prod.fst).getD 0

variable {timing : RTUTiming} {line : RTULine} {decoder : RTUFrameDecoder}

theorem Follows.start (h : newRTUFrameDecoder timing = .ok decoder) :
    Follows timing {} decoder := by
  unfold newRTUFrameDecoder at h
  split_ifs at h
  cases h
  exact ⟨.nil, by simp, rfl, rfl, rfl, Int.le_refl 0, nofun, fun _ => rfl, by simp, by simp⟩

section Following

variable (h : Follows timing line decoder)
include h

theorem Follows.reset : Follows timing {} decoder.reset :=
  ⟨.nil, by simp, h.sameTiming, rfl, rfl, Int.le_refl 0, nofun, fun _ => rfl,
    by simp [RTUFrameDecoder.reset], by simp⟩

/-- A rejected byte: the decoder drops what it has and keeps the latest offset. -/
theorem Follows.reject {offset : Duration} (hoffset : 0 ≤ offset) (after : RTUFrameDecoder)
    (htiming : after.timing = decoder.timing) (hpoisoned : after.poisoned = true)
    (hempty : after.buffer = [] ∧ after.haveByte = false)
    (hlatest : after.lastByte = max line.latest offset) :
    Follows timing { line with rejected := true, latest := max line.latest offset } after :=
  ⟨h.unbroken, h.size, htiming.trans h.sameTiming, hpoisoned, hlatest,
    Int.le_trans hoffset (Int.le_max_right _ _), fun _ => hempty, nofun, nofun, nofun⟩

/-- A byte on a line without a rejection. -/
theorem Follows.appendByte (hclean : line.rejected = false) {offset : Duration} (value : UInt8)
    (hoffset : 0 ≤ offset) :
    Follows timing (line.observe ((decoder.appendByte offset value).1 = none)
      (.feedByte offset value)) (decoder.appendByte offset value).2 := by
  -- the offset of a byte that is not early is the latest one
  have hlate : ¬(decoder.haveByte = true ∧ offset < decoder.lastByte) →
      line.accepted ≠ [] → line.latest ≤ offset := by
    intro hback hsome
    rw [← h.latest]
    exact Int.not_lt.mp fun hless => hback ⟨(h.started hclean).mpr hsome, hless⟩
  unfold RTUFrameDecoder.appendByte
  split_ifs with hback hgap hfull
  · refine h.reject hoffset _ rfl rfl ⟨rfl, rfl⟩ ?_
    exact h.latest.trans (Int.max_eq_left (h.latest ▸ Int.le_of_lt hback.2)).symm
  · refine h.reject hoffset _ rfl rfl ⟨rfl, rfl⟩ ?_
    exact (Int.max_eq_right (hlate hback ((h.started hclean).mp hgap.1))).symm
  · refine h.reject hoffset _ rfl rfl ⟨rfl, rfl⟩ ?_
    refine (Int.max_eq_right (hlate hback fun hnone => ?_)).symm
    rw [h.buffer hclean, hnone] at hfull
    cases hfull
  · have hlatest : max line.latest offset = offset := by
      by_cases hsome : line.accepted = []
      · exact Int.max_eq_right (by simpa [h.last hclean, hsome] using hoffset)
      · exact Int.max_eq_right (hlate hback hsome)
    have hbuffer := h.buffer hclean
    have hlength := congrArg List.length hbuffer
    have hsize := h.size
    rw [List.length_map] at hlength
    simp only [observe, hclean, decide_true, Bool.true_eq_false, if_false, Bool.false_eq_true]
    refine ⟨?_, ?_, h.sameTiming, hclean ▸ h.poisoned, hlatest.symm,
      Int.le_trans hoffset (Int.le_max_right _ _), nofun,
      by simp [hbuffer], by simp, by simp [hlatest]⟩
    · refine List.isChain_append.mpr ⟨h.unbroken, by simp, ?_⟩
      rintro previous hprevious _ ⟨⟩
      have hsome : line.accepted ≠ [] := by
        rintro hnone
        simp [hnone] at hprevious
      have hoffsetOf : previous.1 = line.latest := by
        rw [h.last hclean, Option.mem_def.mp hprevious]
        rfl
      refine ⟨hoffsetOf ▸ hlate hback hsome, Int.not_lt.mp fun hlong => hgap ⟨?_, ?_⟩⟩
      · exact (h.started hclean).mpr hsome
      · rw [h.latest, ← hoffsetOf, h.sameTiming]
        exact hlong
    · simp only [List.length_append, List.length_singleton]
      omega

/-- A byte after a rejection is taken only after a silent line. -/
theorem Follows.feedByte_rejected (hrejected : line.rejected = true) {offset : Duration}
    (value : UInt8) (hoffset : 0 ≤ offset) :
    Follows timing (line.observe ((decoder.feedByte offset value).1 = none)
        (.feedByte offset value)) (decoder.feedByte offset value).2 ∧
      ((decoder.feedByte offset value).1 = none → line.latest + timing.interFrame ≤ offset) := by
  have hlatest := h.latest
  have htiming := h.sameTiming
  rcases h.dropped hrejected with ⟨hbuffer, hbyte⟩
  unfold RTUFrameDecoder.feedByte
  rw [if_neg (Int.not_lt.mpr hoffset), if_pos (h.poisoned.trans hrejected)]
  split_ifs with hgap hlater
  · refine ⟨h.reject hoffset _ rfl (h.poisoned.trans hrejected) ⟨hbuffer, hbyte⟩ ?_, nofun⟩
    exact (Int.max_eq_right (hlatest ▸ hlater)).symm
  · refine ⟨h.reject hoffset _ rfl (h.poisoned.trans hrejected) ⟨hbuffer, hbyte⟩ ?_, nofun⟩
    exact hlatest.trans (Int.max_eq_left (hlatest ▸ Int.le_of_lt (Int.not_le.mp hlater))).symm
  · have htaken : ({ decoder with poisoned := false, lastByte := 0 } :
        RTUFrameDecoder).appendByte offset value =
        (none, { decoder with
          poisoned := false, buffer := [value], lastByte := offset, haveByte := true }) := by
      simp [RTUFrameDecoder.appendByte, hbyte, hbuffer, maxRTUADUSize]
    rw [htaken]
    simp only [observe, hrejected, decide_true, Bool.true_eq_false, if_false, if_true]
    refine ⟨⟨.singleton _, by simp [maxRTUADUSize], htiming, rfl, rfl, hoffset, nofun,
      fun _ => rfl, by simp, fun _ => rfl⟩, fun _ => ?_⟩
    rw [hlatest, htiming] at hgap
    push Not at hgap
    exact Int.add_comm line.latest _ ▸ Int.add_le_of_le_sub_right hgap.2

/-- `EndFrame` refuses and changes nothing, or hands over the accepted bytes after a silent
    line. -/
theorem Follows.endFrame (offset : Duration) :
    ((decoder.endFrame offset).1.1.raw = [] ∧ (decoder.endFrame offset).2 = decoder) ∨
      ((decoder.endFrame offset).1.1.raw ≠ [] ∧ (decoder.endFrame offset).2 = decoder.reset ∧
        (decoder.endFrame offset).1 = decodeRTUADU (line.accepted.map Prod.snd) ∧
        line.rejected = false ∧ line.accepted ≠ [] ∧ line.latest + timing.interFrame ≤ offset) := by
  unfold RTUFrameDecoder.endFrame
  split_ifs with hgap
  · exact Or.inl ⟨rfl, rfl⟩
  · push Not at hgap
    rcases hgap with ⟨hclean, hbyte, _, hsilent⟩
    rw [h.poisoned, ne_eq, Bool.not_eq_true] at hclean
    have hsome : line.accepted ≠ [] := (h.started hclean).mp (by simpa using hbyte)
    rw [h.latest, h.sameTiming] at hsilent
    refine Or.inr ⟨?_, rfl, by rw [h.buffer hclean], hclean, hsome, ?_⟩
    · rw [decodeRTUADU_raw, h.buffer hclean]
      simpa using hsome
    · exact Int.add_comm line.latest _ ▸ Int.add_le_of_le_sub_right hsilent

theorem Follows.perform (call : RTUDecoderCall) (htimed : call.Timed) :
    Follows timing (line.observe (decoder.perform call).1 call) (decoder.perform call).2 := by
  cases call with
  | feedByte offset value =>
    by_cases hrejected : line.rejected = true
    · exact (h.feedByte_rejected hrejected value htimed).1
    · rw [Bool.not_eq_true] at hrejected
      have hfeed : decoder.feedByte offset value = decoder.appendByte offset value := by
        unfold RTUFrameDecoder.feedByte
        rw [if_neg (Int.not_lt.mpr htimed), if_neg (by simp [h.poisoned, hrejected])]
      simp only [RTUFrameDecoder.perform, hfeed]
      exact h.appendByte hrejected value htimed
  | endFrame offset =>
    rcases h.endFrame offset with ⟨hraw, hafter⟩ | ⟨hraw, hafter, _⟩
    · simpa [RTUFrameDecoder.perform, observe, hraw, hafter] using h
    · simpa [RTUFrameDecoder.perform, observe, hraw, hafter] using h.reset
  | reset => exact h.reset

theorem Follows.run (calls : List RTUDecoderCall) (htimed : ∀ call ∈ calls, call.Timed) :
    Follows timing (line.run decoder calls).1 (line.run decoder calls).2 := by
  induction calls generalizing line decoder with
  | nil => exact h
  | cons call rest ih =>
    rw [List.forall_mem_cons] at htimed
    exact ih (h.perform call htimed.1) htimed.2

end Following

end RTULine

/-- Whenever a frame is handed over, it is what was accepted since the last boundary: bytes
    without a gap between them, with silence after the last one. And once a byte was
    rejected, none is taken before the line was silent. -/
theorem frame_assembly (timing : RTUTiming) (decoder : RTUFrameDecoder)
    (hnew : newRTUFrameDecoder timing = .ok decoder) (calls : List RTUDecoderCall)
    (htimed : ∀ call ∈ calls, call.Timed) (line : RTULine) (after : RTUFrameDecoder)
    (hrun : RTULine.run {} decoder calls = (line, after)) (offset : Duration)
    (hoffset : 0 ≤ offset) :
    ((after.endFrame offset).1.1.raw ≠ [] →
      (after.endFrame offset).1 = decodeRTUADU (line.accepted.map Prod.snd) ∧
        line.rejected = false ∧ RTULine.Unbroken timing line.accepted ∧
        (∃ last ∈ line.accepted.getLast?, last.1 + timing.interFrame ≤ offset) ∧
        line.accepted.length ≤ 256) ∧
    (line.rejected = true → ∀ value, (after.feedByte offset value).1 = none →
      line.latest + timing.interFrame ≤ offset) := by
  have hfollows := (RTULine.Follows.start hnew).run calls htimed
  rw [hrun] at hfollows
  refine ⟨fun hraw => ?_, fun hrejected value => ?_⟩
  · rcases hfollows.endFrame offset with ⟨hnone, _⟩ | ⟨_, _, hframe, hclean, hsome, hsilent⟩
    · exact absurd hnone hraw
    · refine ⟨hframe, hclean, hfollows.unbroken, ?_, hfollows.size⟩
      refine ⟨_, List.getLast?_eq_some_getLast hsome, ?_⟩
      rw [hfollows.last hclean, List.getLast?_eq_some_getLast hsome] at hsilent
      exact hsilent
  · exact (hfollows.feedByte_rejected hrejected value hoffset).2

/-- A gap in the middle of a frame: the bytes before it are not handed over. -/
theorem frame_assembly_gap :
    let timing : RTUTiming := { characterTime := 1, interCharacter := 2, interFrame := 4 }
    let ended := RTULine.run {} { timing := timing }
      [.feedByte 0 1, .feedByte 3 3, .feedByte 7 1]
    ended.1.accepted = [(7, 1)] ∧
      (ended.2.endFrame 11).1 = decodeRTUADU (ended.1.accepted.map Prod.snd) := by
  refine ⟨by decide +kernel, ?_⟩
  exact ((frame_assembly { characterTime := 1, interCharacter := 2, interFrame := 4 } _ rfl
    [.feedByte 0 1, .feedByte 3 3, .feedByte 7 1] (by simp [RTUDecoderCall.Timed]) _ _ rfl 11
    (by decide)).1 (by decide +kernel)).1

end HelianthusModbus
