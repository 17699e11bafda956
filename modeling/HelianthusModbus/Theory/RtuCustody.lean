import HelianthusModbus.Core.RtuReceive

/-!
# Custody of an RTU Request

What the fixture endpoint is for, with everything left out that does not decide how a
request ends: at most one request is held at a time, requests are numbered within a
generation, and a new generation starts its numbers again. A held request is dropped
without a word or concluded by one event that names it.

Every event carries a sequence number, the generation and the request it is about. An
event that concludes a request without a response must have another one before it in
the same step, which says either that the line is quarantined or that nothing was sent.

## Main definitions

* `RTUStamp.Ends`: The events that conclude a request.
* `RTUCustody.Move`: The steps of custody with the events each of them emits.
* `RTUCustody.Sound`: The history of events fits the custody.

## Theorems

* `RTUCustody.Sound.ends_once`: A request ends at most once in a sound history.
* `RTUCustody.Sound.move`: Every step keeps a sound history sound.
-/

namespace HelianthusModbus

/-- What an event says about a request. -/
structure RTUStamp where
  kind : RTUEventKind
  requestID : Nat
  generation : Nat
  sequence : Nat
  result : Option TransmitResult
  deriving DecidableEq, Repr

def RTUEvent.stamp (event : RTUEvent) : RTUStamp :=
  { kind := event.kind, requestID := event.requestID, generation := event.generation
    sequence := event.sequence, result := event.transmitResult }

namespace RTUStamp

/-- The waiter of a request is resolved, or its response is received. -/
def Ends (stamp : RTUStamp) : Prop :=
  stamp.kind = .waiterResolved ∨ (stamp.kind = .responseReceive ∧ stamp.requestID ≠ 0)

instance (stamp : RTUStamp) : Decidable stamp.Ends :=
  inferInstanceAs (Decidable (_ ∨ _))

/-- The stamp is about this request of this generation. -/
def About (stamp : RTUStamp) (generation requestID : Nat) : Prop :=
  stamp.generation = generation ∧ stamp.requestID = requestID

instance (stamp : RTUStamp) (generation requestID : Nat) :
    Decidable (stamp.About generation requestID) :=
  inferInstanceAs (Decidable (_ ∧ _))

/-- The transport proved that no byte of the request was sent. -/
def ProvesUnsent (stamp : RTUStamp) : Prop :=
  stamp.kind = .transmitResult ∧ stamp.result = some .provableZero

/-- The stamps are numbered one after the other, from `sequence + 1` on. -/
def Numbered : Nat → List RTUStamp → Prop
  | _, [] => True
  | sequence, stamp :: rest => stamp.sequence = sequence + 1 ∧ Numbered (sequence + 1) rest

theorem numbered_append (sequence : Nat) (first second : List RTUStamp) :
    Numbered sequence (first ++ second) ↔
      Numbered sequence first ∧ Numbered (sequence + first.length) second := by
  induction first generalizing sequence with
  | nil => simp [Numbered]
  | cons stamp rest ih =>
    simp only [List.cons_append, Numbered, ih, List.length_cons, and_assoc, Nat.add_assoc,
      Nat.add_comm 1]

theorem Numbered.mem {sequence : Nat} {stamps : List RTUStamp} (h : Numbered sequence stamps)
    {stamp : RTUStamp} (hmem : stamp ∈ stamps) :
    sequence < stamp.sequence ∧ stamp.sequence ≤ sequence + stamps.length := by
  induction stamps generalizing sequence with
  | nil => exact nomatch hmem
  | cons first rest ih =>
    rw [List.length_cons]
    rcases List.mem_cons.mp hmem with rfl | hrest
    · have hfirst := h.1
      omega
    · have hlater := ih h.2 hrest
      omega

theorem Numbered.pairwise {sequence : Nat} {stamps : List RTUStamp}
    (h : Numbered sequence stamps) :
    stamps.Pairwise fun earlier later => earlier.sequence < later.sequence := by
  induction stamps generalizing sequence with
  | nil => exact List.Pairwise.nil
  | cons first rest ih =>
    refine List.Pairwise.cons (fun later hlater => ?_) (ih h.2)
    rw [h.1]
    exact (h.2.mem hlater).1

theorem Numbered.range {sequence : Nat} {stamps : List RTUStamp} (h : Numbered sequence stamps) :
    stamps.map RTUStamp.sequence = List.range' (sequence + 1) stamps.length := by
  induction stamps generalizing sequence with
  | nil => rfl
  | cons first rest ih => rw [List.map_cons, h.1, ih h.2, List.length_cons, List.range'_succ]

end RTUStamp

/-- Who is held, and the counters of the endpoint. `exhausted` counts the events that found
    no number left. -/
structure RTUCustody where
  generation : Nat
  nextRequestID : Nat
  holder : Option Nat
  sequence : Nat
  exhausted : Nat
  deriving DecidableEq, Repr

namespace RTUCustody

open RTUStamp

/-- Stamps of this generation that conclude no request. -/
structure Quiet (custody : RTUCustody) (stamps : List RTUStamp) : Prop where
  numbered : Numbered custody.sequence stamps
  generation : ∀ stamp ∈ stamps, stamp.generation = custody.generation
  silent : ∀ stamp ∈ stamps, ¬ stamp.Ends

/-- Stamps that conclude one request: `last` is the only one that ends a request, and if it
    resolves the waiter, one before it says why. -/
structure Concludes (custody : RTUCustody) (requestID : Nat) (before : List RTUStamp)
    (last : RTUStamp) (after : List RTUStamp) : Prop where
  numbered : Numbered custody.sequence (before ++ last :: after)
  generation : ∀ stamp ∈ before ++ after, stamp.generation = custody.generation
  silent : ∀ stamp ∈ before ++ after, ¬ stamp.Ends
  about : last.About custody.generation requestID
  ends : last.Ends
  warned : last.kind = .waiterResolved → ∃ stamp ∈ before,
    stamp.About custody.generation requestID ∧
      (stamp.kind = .quarantineTransition ∨ stamp.ProvesUnsent)

/-- The steps of custody. -/
inductive Move (custody : RTUCustody) : List RTUStamp → RTUCustody → Prop
  | keep (stamps) (h : custody.Quiet stamps) :
      Move custody stamps { custody with sequence := custody.sequence + stamps.length }
  | drop (stamps) (h : custody.Quiet stamps) :
      Move custody stamps
        { custody with holder := none, sequence := custody.sequence + stamps.length }
  | begin (stamps) (hfree : custody.holder = none) (h : custody.Quiet stamps) :
      Move custody stamps
        { custody with
          holder := some custody.nextRequestID, nextRequestID := custody.nextRequestID + 1
          sequence := custody.sequence + stamps.length }
  | conclude (requestID before last after) (hheld : custody.holder = some requestID)
      (h : custody.Concludes requestID before last after) :
      Move custody (before ++ last :: after)
        { custody with
          holder := none, sequence := custody.sequence + (before ++ last :: after).length }
  | recover (stamps) (hnumbered : Numbered custody.sequence stamps)
      (hgeneration : ∀ stamp ∈ stamps, stamp.generation ≤ custody.generation + 1)
      (hsilent : ∀ stamp ∈ stamps, ¬ stamp.Ends) :
      Move custody stamps
        { custody with
          generation := custody.generation + 1, nextRequestID := 1, holder := none
          sequence := custody.sequence + stamps.length }

/-- The history of stamps fits the custody. -/
structure Sound (history : List RTUStamp) (custody : RTUCustody) : Prop where
  positive : 0 < custody.nextRequestID
  held : ∀ requestID ∈ custody.holder, 0 < requestID ∧ requestID < custody.nextRequestID
  past : ∀ stamp ∈ history, stamp.sequence ≤ custody.sequence ∧
    stamp.generation ≤ custody.generation
  ordered : history.Pairwise fun earlier later => earlier.sequence < later.sequence
  ended : ∀ stamp ∈ history, stamp.Ends → stamp.generation = custody.generation →
    stamp.requestID < custody.nextRequestID ∧ stamp.requestID ∉ custody.holder
  once : history.Pairwise fun earlier later => earlier.Ends → later.Ends →
    ¬ later.About earlier.generation earlier.requestID
  warned : ∀ stamp ∈ history, stamp.kind = .waiterResolved → ∃ warning ∈ history,
    warning.About stamp.generation stamp.requestID ∧ warning.sequence < stamp.sequence ∧
      (warning.kind = .quarantineTransition ∨ warning.ProvesUnsent)

theorem Sound.empty (generation sequence : Nat) :
    Sound [] { generation := generation, nextRequestID := 1, holder := none,
               sequence := sequence, exhausted := 0 } where
  positive := Nat.one_pos
  held := fun _ h => nomatch h
  past := fun _ h => nomatch h
  ordered := List.Pairwise.nil
  ended := fun _ h => nomatch h
  once := List.Pairwise.nil
  warned := fun _ h => nomatch h

/-- Of the stamps about one request at most one ends it. -/
theorem Sound.ends_once {history : List RTUStamp} {custody : RTUCustody}
    (h : Sound history custody) (generation requestID : Nat) :
    (history.filter fun stamp =>
      decide (stamp.Ends ∧ stamp.About generation requestID)).length ≤ 1 := by
  have honce := h.once.filter fun stamp =>
    decide (stamp.Ends ∧ stamp.About generation requestID)
  have hall : ∀ stamp ∈ history.filter fun stamp =>
      decide (stamp.Ends ∧ stamp.About generation requestID),
      stamp.Ends ∧ stamp.About generation requestID := fun stamp hstamp =>
    of_decide_eq_true (List.mem_filter.mp hstamp).2
  generalize history.filter _ = ended at honce hall
  match ended, honce, hall with
  | [], _, _ => exact Nat.zero_le _
  | [_], _, _ => exact Nat.le_refl _
  | first :: second :: _, honce, hall =>
    have hfirst := hall first List.mem_cons_self
    have hsecond := hall second (List.mem_cons_of_mem _ List.mem_cons_self)
    refine absurd ?_ ((List.pairwise_cons.mp honce).1 second List.mem_cons_self hfirst.1 hsecond.1)
    rw [hfirst.2.1, hfirst.2.2]
    exact hsecond.2

section Steps

variable {history : List RTUStamp} {custody : RTUCustody}

section Extending

variable (h : Sound history custody) (stamps : List RTUStamp) (after : RTUCustody)
  (hnumbered : Numbered custody.sequence stamps)
  (hsequence : after.sequence = custody.sequence + stamps.length)
  (hgeneration : custody.generation ≤ after.generation)
  (hpast : ∀ stamp ∈ stamps, stamp.generation ≤ after.generation)
  (hpositive : 0 < after.nextRequestID)
  (hheld : ∀ requestID ∈ after.holder, 0 < requestID ∧ requestID < after.nextRequestID)
include h hnumbered hsequence hgeneration hpast hpositive hheld

/-- A history that is extended by stamps which do not conclude a request twice. -/
theorem Sound.extend
    (hended : ∀ stamp ∈ history ++ stamps, stamp.Ends → stamp.generation = after.generation →
      stamp.requestID < after.nextRequestID ∧ stamp.requestID ∉ after.holder)
    (honce : ∀ earlier ∈ history, ∀ later ∈ stamps, earlier.Ends → later.Ends →
      ¬ later.About earlier.generation earlier.requestID)
    (hself : stamps.Pairwise fun earlier later => earlier.Ends → later.Ends →
      ¬ later.About earlier.generation earlier.requestID)
    (hwarned : ∀ stamp ∈ stamps, stamp.kind = .waiterResolved → ∃ warning ∈ stamps,
      warning.About stamp.generation stamp.requestID ∧ warning.sequence < stamp.sequence ∧
        (warning.kind = .quarantineTransition ∨ warning.ProvesUnsent)) :
    Sound (history ++ stamps) after where
  positive := hpositive
  held := hheld
  past := by
    intro stamp hstamp
    rw [hsequence]
    rcases List.mem_append.mp hstamp with hold | hnew
    · have hbefore := h.past stamp hold
      exact ⟨by omega, hbefore.2.trans hgeneration⟩
    · exact ⟨(hnumbered.mem hnew).2, hpast stamp hnew⟩
  ordered := by
    rw [List.pairwise_append]
    refine ⟨h.ordered, hnumbered.pairwise, fun earlier hearlier later hlater => ?_⟩
    exact Nat.lt_of_le_of_lt (h.past earlier hearlier).1 (hnumbered.mem hlater).1
  ended := hended
  once := List.pairwise_append.mpr ⟨h.once, hself, honce⟩
  warned := by
    intro stamp hstamp hresolved
    rcases List.mem_append.mp hstamp with hold | hnew
    · rcases h.warned stamp hold hresolved with ⟨warning, hmem, hwarning⟩
      exact ⟨warning, List.mem_append_left _ hmem, hwarning⟩
    · rcases hwarned stamp hnew hresolved with ⟨warning, hmem, hwarning⟩
      exact ⟨warning, List.mem_append_right _ hmem, hwarning⟩

/-- Stamps that conclude nothing extend a history whenever the custody afterwards allows
    the requests that ended before. -/
theorem Sound.silent (hsilent : ∀ stamp ∈ stamps, ¬ stamp.Ends)
    (hended : ∀ stamp ∈ history, stamp.Ends → stamp.generation = after.generation →
      stamp.requestID < after.nextRequestID ∧ stamp.requestID ∉ after.holder) :
    Sound (history ++ stamps) after := by
  refine h.extend stamps after hnumbered hsequence hgeneration hpast hpositive hheld ?_ ?_ ?_ ?_
  · intro stamp hstamp hends
    rcases List.mem_append.mp hstamp with hold | hnew
    · exact hended stamp hold hends
    · exact absurd hends (hsilent stamp hnew)
  · exact fun earlier _ later hlater _ hends => absurd hends (hsilent later hlater)
  · refine List.Pairwise.imp_of_mem ?_ hnumbered.pairwise
    exact fun _ hlater _ _ hends => absurd hends (hsilent _ hlater)
  · exact fun stamp hstamp hresolved => absurd (Or.inl hresolved) (hsilent stamp hstamp)

end Extending

/-- The stamps of a concluding step extend a history: the request they end was held, so it
    has not ended before. -/
theorem Sound.conclude (h : Sound history custody) (requestID : Nat) (before : List RTUStamp)
    (last : RTUStamp) (after : List RTUStamp) (hheld : custody.holder = some requestID)
    (hends : custody.Concludes requestID before last after) :
    Sound (history ++ (before ++ last :: after))
      { custody with
        holder := none, sequence := custody.sequence + (before ++ last :: after).length } := by
  have honly : ∀ stamp ∈ before ++ last :: after, stamp.Ends → stamp = last := by
    intro stamp hstamp hstops
    by_contra hother
    refine hends.silent stamp ?_ hstops
    rcases List.mem_append.mp hstamp with hbefore | hlast
    · exact List.mem_append_left _ hbefore
    · exact List.mem_append_right _ ((List.mem_cons.mp hlast).resolve_left hother)
  have hgeneration : ∀ stamp ∈ before ++ last :: after, stamp.generation = custody.generation := by
    intro stamp hstamp
    rcases List.mem_append.mp hstamp with hbefore | hlast
    · exact hends.generation stamp (List.mem_append_left _ hbefore)
    · rcases List.mem_cons.mp hlast with rfl | hafter
      · exact hends.about.1
      · exact hends.generation stamp (List.mem_append_right _ hafter)
  refine h.extend _ _ hends.numbered rfl le_rfl (fun stamp hstamp => (hgeneration stamp hstamp).le)
    h.positive (fun _ hnone => nomatch hnone) ?_ ?_ ?_ ?_
  · intro stamp hstamp hstops hcurrent
    refine ⟨?_, fun hnone => nomatch hnone⟩
    rcases List.mem_append.mp hstamp with hold | hnew
    · exact (h.ended stamp hold hstops hcurrent).1
    · rw [honly stamp hnew hstops, hends.about.2]
      exact (h.held requestID hheld).2
  · -- The held request has not ended before, since nobody holds a request that has.
    intro earlier hearlier later hlater hstopped hstops habout
    rw [honly later hlater hstops] at habout
    have hsame : earlier.generation = custody.generation := habout.1.symm.trans hends.about.1
    refine (h.ended earlier hearlier hstopped hsame).2 ?_
    rw [hheld, ← habout.2, hends.about.2]
    rfl
  · refine List.Pairwise.imp_of_mem ?_ hends.numbered.pairwise
    intro earlier later hearlier hlater horder hstopped hstops
    rw [honly earlier hearlier hstopped, honly later hlater hstops] at horder
    exact absurd horder (lt_irrefl _)
  · intro stamp hstamp hresolved
    have hlast := honly stamp hstamp (Or.inl hresolved)
    rw [hlast] at hresolved ⊢
    rcases hends.warned hresolved with ⟨warning, hmem, habout, hwarning⟩
    refine ⟨warning, List.mem_append_left _ hmem, ?_, ?_, hwarning⟩
    · rwa [hends.about.1, hends.about.2]
    · exact (List.pairwise_append.mp hends.numbered.pairwise).2.2 warning hmem last
        List.mem_cons_self

theorem Sound.move (h : Sound history custody) {stamps : List RTUStamp} {after : RTUCustody}
    (hmove : Move custody stamps after) : Sound (history ++ stamps) after := by
  cases hmove with
  | keep _ hquiet =>
    exact h.silent _ _ hquiet.numbered rfl le_rfl
      (fun stamp hstamp => (hquiet.generation stamp hstamp).le) h.positive h.held hquiet.silent
      h.ended
  | drop _ hquiet =>
    refine h.silent _ _ hquiet.numbered rfl le_rfl
      (fun stamp hstamp => (hquiet.generation stamp hstamp).le) h.positive
      (fun _ hnone => nomatch hnone) hquiet.silent ?_
    intro stamp hstamp hends hcurrent
    exact ⟨(h.ended stamp hstamp hends hcurrent).1, fun hnone => nomatch hnone⟩
  | begin _ hfree hquiet =>
    refine h.silent _ _ hquiet.numbered rfl le_rfl
      (fun stamp hstamp => (hquiet.generation stamp hstamp).le) (Nat.succ_pos _) ?_
      hquiet.silent ?_
    · intro requestID hheld
      rw [← Option.mem_some_iff.mp hheld]
      exact ⟨h.positive, Nat.lt_succ_self _⟩
    · intro stamp hstamp hends hcurrent
      -- The number of the new request is larger than that of every one before it.
      have hbefore := (h.ended stamp hstamp hends hcurrent).1
      refine ⟨Nat.lt_succ_of_lt hbefore, fun hheld => ?_⟩
      rw [Option.mem_some_iff] at hheld
      omega
  | conclude requestID before last after hheld hends =>
    exact h.conclude requestID before last after hheld hends
  | recover _ hnumbered hgeneration hsilent =>
    refine h.silent _ _ hnumbered rfl (Nat.le_succ _) hgeneration Nat.one_pos
      (fun _ hnone => nomatch hnone) hsilent ?_
    intro stamp hstamp _ hcurrent
    have hbefore := (h.past stamp hstamp).2
    dsimp only at hcurrent
    omega

end Steps

/-- Every step numbers its stamps without a gap, and has a number for each of them. -/
theorem Move.numbers {custody after : RTUCustody} {stamps : List RTUStamp}
    (h : Move custody stamps after) :
    Numbered custody.sequence stamps ∧ after.sequence = custody.sequence + stamps.length ∧
      after.exhausted = custody.exhausted := by
  cases h with
  | keep _ hquiet | drop _ hquiet | begin _ _ hquiet => exact ⟨hquiet.numbered, rfl, rfl⟩
  | conclude _ _ _ _ _ hends => exact ⟨hends.numbered, rfl, rfl⟩
  | recover _ hnumbered => exact ⟨hnumbered, rfl, rfl⟩

end RTUCustody

end HelianthusModbus
