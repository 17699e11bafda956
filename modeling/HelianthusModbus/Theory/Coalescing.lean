import HelianthusModbus.Core.Coalescing
import HelianthusModbus.Lib.Checks
import Mathlib.Data.List.Perm.Basic

/-!
# What Can Be Coalesced

The loop of `coalesceReads` keeps four running bounds. Two of them enclose all ranges and
become the physical request. The other two, the largest start and the smallest end, decide
whether the ranges overlap: if they do in pairs, the registers between these two are common
to all of them, and so the union has no gap.

## Main definitions

* `Coalescible`: Reads that can share one physical request.

## Theorems

* `coalesceReads_iff`: The groups that `coalesceReads` builds.
* `coalescing_exact`: It accepts the reads that overlap in pairs and asks for their union.
-/

namespace HelianthusModbus

/-- The lowest start and the highest end of some ranges. -/
structure Spans (ranges : List (Nat × Nat)) (low high : Nat) : Prop where
  lowest : ∃ range ∈ ranges, range.1 = low
  highest : ∃ range ∈ ranges, range.2 = high
  within : ∀ range ∈ ranges, low ≤ range.1 ∧ range.2 ≤ high

namespace Spans

variable {ranges others : List (Nat × Nat)} {low high low' high' : Nat}

theorem single (range : Nat × Nat) : Spans [range] range.1 range.2 := by
  constructor <;> simp

theorem add (h : Spans ranges low high) (range : Nat × Nat) :
    Spans (range :: ranges) (min low range.1) (max high range.2) := by
  rcases h with ⟨⟨first, hfirst, hlow⟩, ⟨last, hlast, hhigh⟩, hwithin⟩
  constructor <;> grind

theorem exists_of_ne_nil (h : ranges ≠ []) : ∃ low high, Spans ranges low high := by
  induction ranges with
  | nil => exact absurd rfl h
  | cons range rest ih =>
    by_cases hrest : rest = []
    · exact ⟨_, _, hrest ▸ single range⟩
    · rcases ih hrest with ⟨low, high, hspans⟩
      exact ⟨_, _, hspans.add range⟩

theorem unique (h : Spans ranges low high) (h' : Spans ranges low' high') :
    low = low' ∧ high = high' := by
  rcases h with ⟨⟨first, hfirst, hlow⟩, ⟨last, hlast, hhigh⟩, hwithin⟩
  rcases h' with ⟨⟨first', hfirst', hlow'⟩, ⟨last', hlast', hhigh'⟩, hwithin'⟩
  have := hwithin first' hfirst'
  have := hwithin last' hlast'
  have := hwithin' first hfirst
  have := hwithin' last hlast
  omega

theorem congr_mem (h : Spans ranges low high) (hmem : ∀ range, range ∈ others ↔ range ∈ ranges) :
    Spans others low high := by
  rcases h with ⟨hlow, hhigh, hwithin⟩
  constructor <;> simpa only [hmem]

end Spans

/-- The registers of a read: its start and its end. -/
def ReadIntent.range (intent : ReadIntent) : Nat × Nat :=
  (intent.spec.request.offset, intent.spec.request.offset + intent.spec.request.quantity)

/-- The bounds the loop starts with. -/
abbrev ReadIntent.bounds (first : ReadIntent) : CoalesceBounds :=
  { minOffset := first.range.1, maxEnd := first.range.2, maxStart := first.range.1,
    minEnd := first.range.2 }

/-- The bounds with one more read. -/
def CoalesceBounds.widen (bounds : CoalesceBounds) (intent : ReadIntent) : CoalesceBounds :=
  { minOffset := min bounds.minOffset intent.range.1, maxEnd := max bounds.maxEnd intent.range.2
    maxStart := max bounds.maxStart intent.range.1, minEnd := min bounds.minEnd intent.range.2
    seenIDs := intent.spec.logicalViewID :: bounds.seenIDs }

/-- The bounds enclose some ranges, and the inner ones enclose what these have in common. -/
def CoalesceBounds.Of (bounds : CoalesceBounds) (ranges : List (Nat × Nat)) : Prop :=
  Spans ranges bounds.minOffset bounds.maxEnd ∧
    Spans (ranges.map Prod.swap) bounds.minEnd bounds.maxStart

theorem CoalesceBounds.Of.foldl (intents : List ReadIntent) {bounds : CoalesceBounds}
    {ranges : List (Nat × Nat)} (h : bounds.Of ranges) :
    (intents.foldl widen bounds).Of ((intents.map ReadIntent.range).reverse ++ ranges) := by
  induction intents generalizing bounds ranges with
  | nil => exact h
  | cons intent rest ih =>
    have hwide : (bounds.widen intent).Of (intent.range :: ranges) :=
      ⟨h.1.add intent.range, h.2.add intent.range.swap⟩
    simpa using ih hwide

theorem newReadIntent_ok {spec : ReadIntentSpec} {intent : ReadIntent}
    (h : newReadIntent spec = .ok intent) :
    intent = ⟨spec⟩ ∧ validateReadRegistersRequest spec.request = .ok () := by
  unfold newReadIntent at h
  rw [ite_error_eq_ok] at h
  rcases h with ⟨_, h⟩
  split at h
  · cases h
  next hvalid =>
  cases h
  exact ⟨rfl, hvalid⟩

/-- The loop over the intents goes through if each is valid, has the identity of the first
    and a view of its own. -/
theorem coalesceBounds_iff (base : ReadIntentSpec) (intents : List ReadIntent)
    (bounds result : CoalesceBounds) :
    coalesceBounds base bounds intents = .ok result ↔
      (∀ intent ∈ intents, newReadIntent intent.spec = .ok intent ∧
        sameCoalescingIdentity base intent.spec = true) ∧
      ((intents.map fun intent => intent.spec.logicalViewID).Nodup ∧
        (intents.map fun intent => intent.spec.logicalViewID).Disjoint bounds.seenIDs) ∧
      result = intents.foldl CoalesceBounds.widen bounds := by
  induction intents generalizing bounds with
  | nil =>
    simp only [coalesceBounds, Except.ok.injEq, List.foldl_nil, eq_comm (a := bounds)]
    simp
  | cons intent rest ih =>
    simp only [coalesceBounds]
    cases hnew : newReadIntent intent.spec with
    | error err => simp [hnew]
    | ok checked =>
      rcases newReadIntent_ok hnew with ⟨rfl, _⟩
      have hrest := ih (bounds.widen intent)
      simp only [CoalesceBounds.widen, ReadIntent.range] at hrest
      simp only [ite_error_eq_ok, hrest, List.forall_mem_cons, hnew, List.map_cons,
        List.nodup_cons, List.disjoint_cons_left, List.disjoint_cons_right, List.foldl_cons,
        CoalesceBounds.widen, ReadIntent.range, Bool.not_eq_false]
      tauto

/-- Reads that can share a physical request. -/
structure Coalescible (base : ReadIntentSpec) (intents : List ReadIntent)
    (physical : ReadRegistersRequest) : Prop where
  joins : ∀ intent ∈ intents, newReadIntent intent.spec = .ok intent ∧
    sameCoalescingIdentity base intent.spec = true
  views : (intents.map fun intent => intent.spec.logicalViewID).Nodup
  overlap : ∀ first ∈ intents, ∀ second ∈ intents, first.range.1 < second.range.2
  spans : Spans (intents.map ReadIntent.range) physical.offset
    (physical.offset + physical.quantity)
  function : physical.function = base.request.function
  valid : validateReadRegistersRequest physical = .ok ()

/-- The group of some reads. -/
def ReadIntentSpec.groupOf (base : ReadIntentSpec) (intents : List ReadIntent)
    (physical : ReadRegistersRequest) : CoalescedRead :=
  { physical := physical, dependents := intents.map (dependentOf physical.offset)
    endpoint := base.endpoint, transport := base.transport
    intentGeneration := base.transportGeneration, unitID := base.unitID
    authorizationScope := base.authorizationScope, pollGeneration := base.pollGeneration
    deadlineIdentity := base.deadlineIdentity }

/-- The registers a dependent asked for. -/
def CoalescedDependent.range (dependent : CoalescedDependent) : Nat × Nat :=
  (dependent.slice.logicalOffset, dependent.slice.logicalOffset + dependent.slice.logicalWords)

namespace CoalescedRead

/-- The dependents that stay when one is cancelled. -/
def others (group : CoalescedRead) (view : Nat) : List CoalescedDependent :=
  group.dependents.filter fun dependent =>
    dependent.state.active && dependent.slice.logicalViewID != view

/-- One step of the union of `unionWithout`. -/
def unite (bounds : Option (Nat × Nat)) (dependent : CoalescedDependent) : Option (Nat × Nat) :=
  match bounds with
  | none => some dependent.range
  | some (minOffset, maxEnd) =>
    some (min minOffset dependent.range.1, max maxEnd dependent.range.2)

theorem foldl_unite (dependents : List CoalescedDependent) {ranges : List (Nat × Nat)}
    {low high : Nat} (h : Spans ranges low high) :
    ∃ low' high', dependents.foldl unite (some (low, high)) = some (low', high') ∧
      Spans ((dependents.map CoalescedDependent.range).reverse ++ ranges) low' high' := by
  induction dependents generalizing ranges low high with
  | nil => exact ⟨low, high, rfl, h⟩
  | cons dependent rest ih => simpa [unite] using ih (h.add dependent.range)

theorem unionWithout_iff (group : CoalescedRead) (view low high : Nat) :
    group.unionWithout view = some (low, high) ↔
      Spans ((group.others view).map CoalescedDependent.range) low high := by
  show (group.others view).foldl unite none = _ ↔ _
  cases group.others view with
  | nil => exact iff_of_false nofun fun h => absurd h.lowest (by simp)
  | cons dependent rest =>
    rcases foldl_unite rest (.single dependent.range) with ⟨low', high', hfold, hspans⟩
    have hall : Spans ((dependent :: rest).map CoalescedDependent.range) low' high' :=
      hspans.congr_mem (by simp [or_comm])
    rw [List.foldl_cons]
    refine ⟨fun h => ?_, fun h => ?_⟩
    · cases hfold.symm.trans h
      exact hall
    · rcases hall.unique h with ⟨rfl, rfl⟩
      exact hfold

end CoalescedRead

/-- The number of reads is within the bound of dependents. -/
abbrev WithinDependents (intents : List ReadIntent) (maxDependents : Int) : Prop :=
  0 < maxDependents ∧ maxDependents ≤ maxCoalescedDependents ∧
    (intents.length : Int) ≤ maxDependents

theorem CoalesceBounds.Of.overlap_iff {bounds : CoalesceBounds} {intents : List ReadIntent}
    (h : bounds.Of (intents.map ReadIntent.range)) :
    bounds.maxStart < bounds.minEnd ↔
      ∀ first ∈ intents, ∀ second ∈ intents, first.range.1 < second.range.2 := by
  rcases h.2 with ⟨hlowest, hhighest, hwithin⟩
  simp only [List.mem_map, exists_exists_and_eq_and] at hlowest hhighest
  simp only [List.forall_mem_map] at hwithin
  rcases hlowest with ⟨last, hlast, hend⟩
  rcases hhighest with ⟨first, hfirst, hstart⟩
  refine ⟨fun hless one hone two htwo => ?_, fun hall => ?_⟩
  · exact Nat.lt_of_le_of_lt (hwithin one hone).2 (Nat.lt_of_lt_of_le hless (hwithin two htwo).1)
  · rw [← hend, ← hstart]
    exact hall first hfirst last hlast

/-- The bounds of the loop, which starts from the first read and goes over all of them. -/
theorem coalesceBounds_of (first : ReadIntent) (rest : List ReadIntent) (result : CoalesceBounds)
    (h : coalesceBounds first.spec first.bounds (first :: rest) = .ok result) :
    result.Of ((first :: rest).map ReadIntent.range) := by
  have hstart : first.bounds.Of [first.range] := ⟨.single _, .single first.range.swap⟩
  rw [((coalesceBounds_iff _ _ _ _).mp h).2.2]
  have hall := hstart.foldl (first :: rest)
  exact ⟨hall.1.congr_mem (by simp [or_comm]), hall.2.congr_mem (by simp [or_comm])⟩

theorem coalesceReads_iff (intents : List ReadIntent) (maxDependents : Int)
    (group : CoalescedRead) :
    coalesceReads intents maxDependents = .ok group ↔
      WithinDependents intents maxDependents ∧ ∃ first ∈ intents.head?, ∃ physical,
        Coalescible first.spec intents physical ∧
          group = first.spec.groupOf intents physical := by
  unfold coalesceReads WithinDependents
  simp only [ite_error_eq_ok, not_or, Int.not_le, Int.not_lt, gt_iff_lt, and_assoc]
  refine and_congr_right fun _ => and_congr_right fun _ => and_congr_right fun _ => ?_
  cases intents with
  | nil => simp
  | cons first rest =>
    simp only [List.head?_cons, Option.mem_some_iff, exists_eq_left']
    have hlimit : maxReadRegisters = 125 := rfl
    constructor
    · intro h
      split at h
      · cases h
      split at h
      · cases h
      next bounds hloop =>
      rcases (coalesceBounds_iff _ _ _ _).mp hloop with ⟨hjoins, ⟨hviews, _⟩, _⟩
      have hof := coalesceBounds_of first rest bounds hloop
      rw [ite_error_eq_ok, ite_error_eq_ok] at h
      rcases h with ⟨hoverlap, hunion, h⟩
      split at h
      · cases h
      next physical hphysical =>
      cases h
      have hfirst := (validateReadRegistersRequest_ok _).mp
        (newReadIntent_ok (hjoins first (by simp)).1).2
      have hwithin := hof.1.within first.range (by simp)
      simp only [ReadIntent.range] at hwithin
      rw [newReadRegistersRequest_ok, Nat.mod_eq_of_lt (by omega), Nat.mod_eq_of_lt (by omega)]
        at hphysical
      rcases hphysical with ⟨hfunction, hoffset, hquantity, hvalid⟩
      refine ⟨physical, ⟨hjoins, hviews, ?_, ?_, hfunction, hvalid⟩, ?_⟩
      · -- The source checks the overlap only for more than one read.
        by_cases hmore : rest = []
        · subst hmore
          simp only [List.mem_singleton, forall_eq, ReadIntent.range]
          omega
        · exact hof.overlap_iff.mp (Nat.not_le.mp fun hle => hoverlap ⟨hmore, hle⟩)
      · rw [hoffset, hquantity, Nat.add_sub_of_le (by omega)]
        exact hof.1
      · rw [Nat.mod_eq_of_lt (by omega), ← hoffset]
        rfl
    · rintro ⟨physical, h, rfl⟩
      have hloop := (coalesceBounds_iff first.spec (first :: rest) first.bounds _).mpr
        ⟨h.joins, ⟨h.views, List.disjoint_nil_right _⟩, rfl⟩
      have hof := coalesceBounds_of first rest _ hloop
      generalize List.foldl CoalesceBounds.widen _ (first :: rest) = bounds at hloop hof
      rcases hof.1.unique h.spans with ⟨hmin, hmax⟩
      have hrange := (validateReadRegistersRequest_ok _).mp h.valid
      simp only [ReadIntent.bounds, ReadIntent.range] at hloop
      simp only [(h.joins first (by simp)).1, hloop, hmin, hmax]
      rw [if_neg fun hnone => absurd (hof.overlap_iff.mpr h.overlap) (Nat.not_lt.mpr hnone.2),
        if_neg (by omega), Nat.mod_eq_of_lt (by omega), Nat.mod_eq_of_lt (by omega),
        (newReadRegistersRequest_ok _ _ _ physical).mpr ⟨h.function, rfl, by omega, h.valid⟩]
      rfl

theorem sameCoalescingIdentity_of {base first second : ReadIntentSpec}
    (hfirst : sameCoalescingIdentity base first = true)
    (hsecond : sameCoalescingIdentity base second = true) :
    sameCoalescingIdentity first second = true := by
  simp only [sameCoalescingIdentity, decide_eq_true_eq] at *
  simp_all

namespace Coalescible

variable {base : ReadIntentSpec} {intents others : List ReadIntent}
  {physical : ReadRegistersRequest}

/-- Reads of one identity that overlap in pairs can share the request for their span. -/
theorem of_spans {low high : Nat}
    (hjoins : ∀ intent ∈ intents, newReadIntent intent.spec = .ok intent ∧
      sameCoalescingIdentity base intent.spec = true)
    (hviews : (intents.map fun intent => intent.spec.logicalViewID).Nodup)
    (hoverlap : ∀ first ∈ intents, ∀ second ∈ intents, first.range.1 < second.range.2)
    (hspans : Spans (intents.map ReadIntent.range) low high) (hsize : high ≤ low + 125) :
    ∃ physical, Coalescible base intents physical := by
  rcases hspans.lowest with ⟨_, hmem, hlow⟩
  rcases hspans.highest with ⟨_, hmem', hhigh⟩
  rcases List.mem_map.mp hmem with ⟨first, hfirst, rfl⟩
  rcases List.mem_map.mp hmem' with ⟨last, hlast, rfl⟩
  have hless := hoverlap first hfirst last hlast
  rcases hjoins last hlast with ⟨hvalid, hsame⟩
  have hend := (validateReadRegistersRequest_ok _).mp (newReadIntent_ok hvalid).2
  simp only [sameCoalescingIdentity, decide_eq_true_eq] at hsame
  simp only [ReadIntent.range] at hlow hhigh hless
  have hlimit : maxReadRegisters = 125 := rfl
  refine ⟨⟨base.request.function, base.request.table, low, high - low⟩, hjoins, hviews, hoverlap,
    ?_, rfl, (validateReadRegistersRequest_ok _).mpr ?_⟩
  · show Spans _ low (low + (high - low))
    rwa [Nat.add_sub_of_le (by omega)]
  · dsimp only
    rw [hsame.2.2.2.2.1, hsame.2.2.2.2.2.1]
    exact ⟨hend.1, by omega, by omega, by omega⟩

theorem part (h : Coalescible base intents physical) (hpart : others ⊆ intents)
    (hsome : others ≠ [])
    (hviews : (others.map fun intent => intent.spec.logicalViewID).Nodup) :
    ∃ physical, Coalescible base others physical := by
  have hsize := (validateReadRegistersRequest_ok _).mp h.valid
  have hlimit : maxReadRegisters = 125 := rfl
  rcases Spans.exists_of_ne_nil (List.map_eq_nil_iff.not.mpr hsome) with ⟨low, high, hspans⟩
  refine of_spans (fun intent hmem => h.joins intent (hpart hmem)) hviews
    (fun one hone two htwo => h.overlap one (hpart hone) two (hpart htwo)) hspans ?_
  rcases hspans.lowest with ⟨one, hone, rfl⟩
  rcases hspans.highest with ⟨two, htwo, rfl⟩
  have hlow := h.spans.within one (List.map_subset _ hpart hone)
  have hhigh := h.spans.within two (List.map_subset _ hpart htwo)
  omega

/-- The reads are coalesced, and it does not matter which of them comes first. -/
theorem coalesceReads (h : Coalescible base intents physical) {maxDependents : Int}
    (hwithin : WithinDependents intents maxDependents) :
    coalesceReads intents maxDependents = .ok (base.groupOf intents physical) := by
  cases intents with
  | nil => exact absurd h.spans.lowest (by simp)
  | cons first rest =>
    have hfirst := (h.joins first List.mem_cons_self).2
    refine (coalesceReads_iff _ _ _).mpr ⟨hwithin, first, rfl, physical, ?_, ?_⟩
    · refine ⟨fun intent hmem => ⟨(h.joins intent hmem).1, ?_⟩, h.views, h.overlap, h.spans, ?_,
        h.valid⟩
      · exact sameCoalescingIdentity_of hfirst (h.joins intent hmem).2
      · simp only [sameCoalescingIdentity, decide_eq_true_eq] at hfirst
        rw [h.function, hfirst.2.2.2.2.1]
    · simp only [sameCoalescingIdentity, decide_eq_true_eq] at hfirst
      simp [ReadIntentSpec.groupOf, hfirst]

theorem physical_eq {physical' : ReadRegistersRequest} (h : Coalescible base intents physical)
    (h' : Coalescible base others physical')
    (hsame : ∀ intent, intent ∈ others ↔ intent ∈ intents) : physical' = physical := by
  have hspans := h'.spans.unique (h.spans.congr_mem (by simp [hsame]))
  have hvalid := (validateReadRegistersRequest_ok _).mp h.valid
  have hvalid' := (validateReadRegistersRequest_ok _).mp h'.valid
  have hfunction : physical'.function = physical.function := h'.function.trans h.function.symm
  rw [hfunction, hvalid.1, Option.some.injEq] at hvalid'
  have hquantity : physical'.quantity = physical.quantity := by omega
  cases physical
  cases physical'
  rw [ReadRegistersRequest.mk.injEq]
  exact ⟨hfunction, hvalid'.1.symm, hspans.1, hquantity⟩

end Coalescible

/-- A register that a read asks for. -/
def ReadIntent.Asks (intent : ReadIntent) (register : Nat) : Prop :=
  intent.range.1 ≤ register ∧ register < intent.range.2

theorem coalesceReads_perm {intents permuted : List ReadIntent} {maxDependents : Int}
    {group : CoalescedRead} (h : coalesceReads intents maxDependents = .ok group)
    (hperm : permuted.Perm intents) :
    ∃ group', coalesceReads permuted maxDependents = .ok group' ∧
      group'.physical = group.physical ∧ group'.dependents.Perm group.dependents := by
  rcases (coalesceReads_iff _ _ _).mp h with ⟨hwithin, first, hfirst, physical, hreads, rfl⟩
  have hsome : permuted ≠ [] := by
    rintro rfl
    simp [List.nil_perm.mp hperm] at hfirst
  rcases hreads.part hperm.subset hsome ((hperm.map _).nodup_iff.mpr hreads.views) with
    ⟨physical', hreads'⟩
  have hsame := hreads.physical_eq hreads' fun _ => hperm.mem_iff
  refine ⟨_, hreads'.coalesceReads ?_, hsame, ?_⟩
  · rwa [WithinDependents, hperm.length_eq]
  · rw [hsame]
    exact hperm.map _

/-- The span of reads that overlap in pairs has no gap: what the read with the lowest start
    leaves, the one with the highest end asks for. -/
theorem Coalescible.asked_iff {base : ReadIntentSpec} {intents : List ReadIntent}
    {physical : ReadRegistersRequest} (h : Coalescible base intents physical) (register : Nat) :
    (physical.offset ≤ register ∧ register < physical.offset + physical.quantity) ↔
      ∃ intent ∈ intents, intent.Asks register := by
  constructor
  · rintro ⟨hlow, hhigh⟩
    rcases h.spans.lowest with ⟨_, hmem, hstart⟩
    rcases h.spans.highest with ⟨_, hmem', hend⟩
    rcases List.mem_map.mp hmem with ⟨first, hfirst, rfl⟩
    rcases List.mem_map.mp hmem' with ⟨last, hlast, rfl⟩
    have hmeet := h.overlap last hlast first hfirst
    by_cases hbefore : register < first.range.2
    · exact ⟨first, hfirst, by omega, hbefore⟩
    · exact ⟨last, hlast, by omega, by omega⟩
  · rintro ⟨intent, hmem, hasks⟩
    have hwithin := h.spans.within intent.range (List.mem_map_of_mem hmem)
    exact ⟨hwithin.1.trans hasks.1, hasks.2.trans_le hwithin.2⟩

/-- Two reads overlap if each starts before the other ends. -/
theorem asks_both_iff {first second : ReadIntent}
    (hfirst : newReadIntent first.spec = .ok first)
    (hsecond : newReadIntent second.spec = .ok second) :
    (∃ register, first.Asks register ∧ second.Asks register) ↔
      first.range.1 < second.range.2 ∧ second.range.1 < first.range.2 := by
  have hone := (validateReadRegistersRequest_ok _).mp (newReadIntent_ok hfirst).2
  have htwo := (validateReadRegistersRequest_ok _).mp (newReadIntent_ok hsecond).2
  simp only [ReadIntent.Asks, ReadIntent.range]
  refine ⟨fun ⟨register, hasks⟩ => by omega, fun hmeet => ?_⟩
  exact ⟨max first.spec.request.offset second.spec.request.offset, by omega, by omega⟩

/-- Coalescing accepts the reads of one identity that overlap in pairs, if their span is not
    too long. It asks for the registers some read asks for, and the order does not matter. -/
theorem coalescing_exact (intents : List ReadIntent) (maxDependents : Int)
    (hvalid : ∀ intent ∈ intents, newReadIntent intent.spec = .ok intent)
    (hwithin : WithinDependents intents maxDependents) :
    ((∃ group, coalesceReads intents maxDependents = .ok group) ↔
      (∀ first ∈ intents, ∀ second ∈ intents,
        sameCoalescingIdentity first.spec second.spec = true) ∧
      (intents.map fun intent => intent.spec.logicalViewID).Nodup ∧
      (∀ first ∈ intents, ∀ second ∈ intents,
        ∃ register, first.Asks register ∧ second.Asks register) ∧
      ∃ low high, Spans (intents.map ReadIntent.range) low high ∧ high ≤ low + 125) ∧
    (∀ group, coalesceReads intents maxDependents = .ok group → ∀ register,
      (group.physical.offset ≤ register ∧
        register < group.physical.offset + group.physical.quantity) ↔
      ∃ intent ∈ intents, intent.Asks register) ∧
    ∀ permuted : List ReadIntent, permuted.Perm intents →
      ((∃ group, coalesceReads permuted maxDependents = .ok group) ↔
        ∃ group, coalesceReads intents maxDependents = .ok group) ∧
      ∀ group group', coalesceReads intents maxDependents = .ok group →
        coalesceReads permuted maxDependents = .ok group' →
        group'.physical = group.physical ∧ group'.dependents.Perm group.dependents := by
  refine ⟨⟨?_, ?_⟩, ?_, fun permuted hperm => ⟨⟨?_, ?_⟩, ?_⟩⟩
  · rintro ⟨group, h⟩
    rcases (coalesceReads_iff _ _ _).mp h with ⟨_, first, _, physical, hreads, rfl⟩
    have hsize := (validateReadRegistersRequest_ok _).mp hreads.valid
    refine ⟨fun one hone two htwo => ?_, hreads.views, fun one hone two htwo => ?_,
      _, _, hreads.spans, Nat.add_le_add_left hsize.2.2.1 _⟩
    · exact sameCoalescingIdentity_of (hreads.joins one hone).2 (hreads.joins two htwo).2
    · exact (asks_both_iff (hvalid one hone) (hvalid two htwo)).mpr
        ⟨hreads.overlap one hone two htwo, hreads.overlap two htwo one hone⟩
  · rintro ⟨hsame, hviews, hoverlap, low, high, hspans, hsize⟩
    cases intents with
    | nil => exact absurd hspans.lowest (by simp)
    | cons first rest =>
      rcases Coalescible.of_spans (fun intent hmem => ⟨hvalid intent hmem,
        hsame first List.mem_cons_self intent hmem⟩) hviews (fun one hone two htwo =>
          ((asks_both_iff (hvalid one hone) (hvalid two htwo)).mp
            (hoverlap one hone two htwo)).1) hspans hsize with ⟨physical, hreads⟩
      exact ⟨_, hreads.coalesceReads hwithin⟩
  · intro group h register
    rcases (coalesceReads_iff _ _ _).mp h with ⟨_, first, _, physical, hreads, rfl⟩
    exact hreads.asked_iff register
  · rintro ⟨group, h⟩
    rcases coalesceReads_perm h hperm.symm with ⟨group', h', _⟩
    exact ⟨group', h'⟩
  · rintro ⟨group, h⟩
    rcases coalesceReads_perm h hperm with ⟨group', h', _⟩
    exact ⟨group', h'⟩
  · intro group group' h h'
    rcases coalesceReads_perm h hperm with ⟨other, hother, hphysical, hdependents⟩
    cases hother.symm.trans h'
    exact ⟨hphysical, hdependents⟩

/-- Three overlapping reads of holding registers, by view. -/
def overlappingIntents : List ReadIntent :=
  [(1, 10, 4), (2, 12, 4), (3, 11, 2)].map fun (view, offset, quantity) =>
    { spec :=
        { logicalViewID := view, endpoint := "endpoint", transport := .tcp,
          transportGeneration := 1, unitID := 1, authorizationScope := "scope",
          pollGeneration := 1, deadlineIdentity := 1,
          request :=
            { function := 3, table := .holdingRegisters, offset := offset,
              quantity := quantity } } }

theorem coalescing_exact_three :
    WithinDependents overlappingIntents 8 ∧
      ∃ group, coalesceReads overlappingIntents 8 = .ok group := by
  have hwithin : WithinDependents overlappingIntents 8 := by decide +kernel
  have hasks : ∀ intent ∈ overlappingIntents, intent.Asks 12 := by
    simp [overlappingIntents, ReadIntent.Asks, ReadIntent.range]
  refine ⟨hwithin, (coalescing_exact _ 8 ?_ hwithin).1.mpr ⟨?_, ?_, ?_, 10, 16, ?_, ?_⟩⟩
  · decide +kernel
  · decide +kernel
  · decide
  · exact fun one hone two htwo => ⟨12, hasks one hone, hasks two htwo⟩
  · constructor <;> decide
  · decide

end HelianthusModbus
