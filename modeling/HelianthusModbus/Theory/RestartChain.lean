import HelianthusModbus.Theory.Capabilities
import Mathlib.Data.Nat.Digits.Defs

/-!
# Terminal Sequences and Restarts

The numbers that capabilities reserve, and the tombstones they leave.

A source hands out the numbers from its counter upwards, and the largest one is the last.
`bound` is the number that comes next; when the largest has been handed out it is one
more, which no number reaches. Every record lies below it, so that each new number is
new, and a source that was restored goes on where the exported one stopped.

Capabilities end in any order. What the source keeps is the window of the highest
numbers among all records (`bury_tombstones`), whatever the order.

## Main definitions

* `RuntimeSystem.Sequenced`: The invariant of the counter, the records and the tombstones.
* `RuntimeSystem.Restarts`: A chain of sources, each restored from the one before.

## Theorems

* `RuntimeSystem.Sequenced.change`: A change keeps the invariant.
* `RuntimeSystem.terminal_sequences_unique`: The statement for every chain.
-/

namespace HelianthusModbus

/-- The number of a tombstone. -/
def RuntimeCapabilityTombstone.key (tombstone : RuntimeCapabilityTombstone) : Nat :=
  tombstone.terminalSequence.toNat

section Restart

/-- The check of the tombstones: each is valid and fits, they ascend, and the result is the
    last number. -/
theorem checkRestartTombstones_iff (maxEncodedBytes : Int)
    (tombstones : List RuntimeCapabilityTombstone) (first : Bool) (previous last : UInt64) :
    checkRestartTombstones maxEncodedBytes tombstones first previous = some last ↔
      (∀ tombstone ∈ tombstones, validRuntimeTombstone tombstone = true ∧
        (tombstone.encoded.length : Int) ≤ maxEncodedBytes) ∧
      tombstones.Pairwise (fun a b => a.terminalSequence < b.terminalSequence) ∧
      (first = false → ∀ tombstone ∈ tombstones, previous < tombstone.terminalSequence) ∧
      last = (tombstones.getLast?.map fun t => t.terminalSequence).getD previous := by
  induction tombstones generalizing first previous with
  | nil =>
    unfold checkRestartTombstones
    constructor
    · intro h
      cases h
      exact ⟨(fun _ h => by cases h), List.Pairwise.nil, (fun _ _ h => by cases h), rfl⟩
    · rintro ⟨-, -, -, rfl⟩
      rfl
  | cons tombstone rest ih =>
    have hlast : ((tombstone :: rest).getLast?.map fun t => t.terminalSequence).getD previous =
        (rest.getLast?.map fun t => t.terminalSequence).getD tombstone.terminalSequence := by
      rw [List.getLast?_cons]
      cases rest.getLast? with
      | none => rfl
      | some other => rfl
    rw [hlast]
    unfold checkRestartTombstones
    split
    · next hinvalid =>
      refine iff_of_false (fun h => by cases h) ?_
      rintro ⟨hvalid, -, hprevious, -⟩
      rcases hinvalid with hinvalid | ⟨hfirst, hle⟩
      · rw [(hvalid tombstone List.mem_cons_self).1] at hinvalid
        cases hinvalid
      · exact absurd (hprevious hfirst tombstone List.mem_cons_self) (UInt64.not_lt.mpr hle)
    · next hok =>
      rw [not_or, Bool.not_eq_false, not_and, UInt64.not_le] at hok
      split
      · next hlong =>
        refine iff_of_false (fun h => by cases h) ?_
        rintro ⟨hvalid, -⟩
        exact absurd (hvalid tombstone List.mem_cons_self).2 (not_le.mpr hlong)
      · next hfits =>
        -- The check compares neighbours only, but being above the previous one is transitive.
        rw [ih, List.pairwise_cons]
        constructor
        · rintro ⟨hvalid, hascending, habove, hsame⟩
          refine ⟨?_, ⟨habove rfl, hascending⟩, ?_, hsame⟩
          · intro other hother
            rcases List.mem_cons.mp hother with rfl | hrest
            · exact ⟨hok.1, not_lt.mp hfits⟩
            · exact hvalid other hrest
          · intro hfirst other hother
            rcases List.mem_cons.mp hother with rfl | hrest
            · exact hok.2 hfirst
            · exact UInt64.lt_trans (hok.2 hfirst) (habove rfl other hrest)
        · rintro ⟨hvalid, ⟨habove, hascending⟩, -, hsame⟩
          exact ⟨fun other hother => hvalid other (List.mem_cons_of_mem _ hother), hascending,
            fun _ => habove, hsame⟩

/-- The last of ascending numbers is below a bound when all are. -/
theorem last_lt_iff (tombstones : List RuntimeCapabilityTombstone) (next : UInt64)
    (hascending : tombstones.Pairwise (fun a b => a.terminalSequence < b.terminalSequence))
    (hnext : next ≠ 0) :
    (tombstones.getLast?.map fun t => t.terminalSequence).getD 0 < next ↔
      ∀ tombstone ∈ tombstones, tombstone.terminalSequence < next := by
  rcases List.eq_nil_or_concat tombstones with rfl | ⟨front, last, rfl⟩
  · refine iff_of_true ?_ (fun _ h => nomatch h)
    exact UInt64.pos_iff_ne_zero.mpr hnext
  · rw [List.concat_eq_append] at hascending ⊢
    rw [List.getLast?_concat, Option.map_some, Option.getD_some]
    rw [List.pairwise_append] at hascending
    constructor
    · intro hlast tombstone hmem
      rcases List.mem_append.mp hmem with hfront | hsame
      · exact UInt64.lt_trans
          (hascending.2.2 tombstone hfront last (List.mem_singleton_self _)) hlast
      · rw [List.mem_singleton.mp hsame]
        exact hlast
    · intro hall
      exact hall last (List.mem_append_right _ (List.mem_singleton_self _))

theorem validateRuntimeRestart_iff (restart : RuntimeAcquisitionRestartState)
    (limits : RuntimeAcquisitionLimits) :
    validateRuntimeRestart restart limits = none ↔
      restart.schemaVersion = 1 ∧
      (restart.tombstones.length : Int) ≤ limits.capabilityTombstoneLimit ∧
      (restart.sequenceExhausted = true ↔ restart.nextTerminalSequence = 0) ∧
      (∀ tombstone ∈ restart.tombstones, validRuntimeTombstone tombstone = true ∧
        (tombstone.encoded.length : Int) ≤ limits.capabilityTombstoneMaxEncodedBytes) ∧
      restart.tombstones.Pairwise (fun a b => a.terminalSequence < b.terminalSequence) ∧
      (restart.sequenceExhausted = false → ∀ tombstone ∈ restart.tombstones,
        tombstone.terminalSequence < restart.nextTerminalSequence) := by
  have hcheck := checkRestartTombstones_iff limits.capabilityTombstoneMaxEncodedBytes
    restart.tombstones true 0
  unfold validateRuntimeRestart
  split
  · next hheader =>
    refine iff_of_false (fun h => nomatch h) ?_
    rintro ⟨hschema, hlength, hcounter, -⟩
    rcases hheader with hne | hlong | ⟨hexhausted, hnext⟩ | ⟨hnot, hnext⟩
    · exact hne hschema
    · omega
    · exact hnext (hcounter.mp hexhausted)
    · rw [hcounter.mpr hnext] at hnot
      cases hnot
  · next hheader =>
    push Not at hheader
    obtain ⟨hschema, hlength, hexhausted, hnext⟩ := hheader
    have hcounter : restart.sequenceExhausted = true ↔ restart.nextTerminalSequence = 0 := by
      refine ⟨hexhausted, fun hzero => ?_⟩
      cases hnot : restart.sequenceExhausted with
      | true => rfl
      | false => exact absurd hzero (hnext hnot)
    split
    · next hnone =>
      refine iff_of_false (fun h => nomatch h) ?_
      rintro ⟨-, -, -, hvalid, hascending, -⟩
      have := (hcheck _).mpr ⟨hvalid, hascending, (fun h => nomatch h), rfl⟩
      rw [hnone] at this
      cases this
    · next last hsome =>
      obtain ⟨hvalid, hascending, -, hlast⟩ := (hcheck last).mp hsome
      -- The last number decides for all of them.
      have hbelow : ¬ (restart.sequenceExhausted = false ∧
            last ≥ restart.nextTerminalSequence) ↔
          (restart.sequenceExhausted = false → ∀ tombstone ∈ restart.tombstones,
            tombstone.terminalSequence < restart.nextTerminalSequence) := by
        rw [not_and]
        refine imp_congr_right (fun hnot => ?_)
        rw [ge_iff_le, UInt64.not_le, hlast]
        exact last_lt_iff restart.tombstones _ hascending (hnext hnot)
      split
      · next hover =>
        refine iff_of_false (fun h => nomatch h) ?_
        rintro ⟨-, -, -, -, -, hall⟩
        exact hbelow.mpr hall hover
      · next hover =>
        exact iff_of_true rfl ⟨hschema, hlength, hcounter, hvalid, hascending,
          hbelow.mp hover⟩

/-- The tombstone whose text is the longest. -/
abbrev largestTombstone : RuntimeCapabilityTombstone :=
  { terminalSequence := 18446744073709551615, terminalOutcome := .cancelled }

/-- No valid tombstone is longer: it has at most twenty digits, and no outcome has a longer
    name. -/
theorem encoded_le_largest (tombstone : RuntimeCapabilityTombstone)
    (hvalid : validRuntimeTombstone tombstone = true) :
    tombstone.encoded.length ≤ largestTombstone.encoded.length := by
  simp only [validRuntimeTombstone, Bool.decide_and, Bool.and_eq_true, decide_eq_true_eq] at hvalid
  obtain ⟨hschema, -, houtcome⟩ := hvalid
  have hdigits : (Nat.repr tombstone.terminalSequence.toNat).length ≤ 20 := by
    refine Nat.repr_length _ 20 (by omega) ?_
    have := tombstone.terminalSequence.toNat_lt
    omega
  have hmost : (Nat.repr largestTombstone.terminalSequence.toNat).length = 20 := by decide
  have htext : tombstone.terminalOutcome.text.length ≤
      RuntimeCapabilityTerminalOutcome.cancelled.text.length := by
    cases hcase : tombstone.terminalOutcome with
    | other text =>
      rw [hcase] at houtcome
      cases houtcome
    | _ => decide
  unfold RuntimeCapabilityTombstone.encoded
  simp only [String.length_append]
  rw [hschema, hmost]
  omega

end Restart

namespace RuntimeSystem

/-- The number that is handed out next. When the largest has been handed out it is one
    more than that. -/
def bound (source : RuntimeAcquisitionSource) : Nat :=
  if source.sequenceExhausted then 18446744073709551616 else source.nextTerminalSequence.toNat

/-- What holds of the counter, the records and the tombstones of a source that started at
    the number `start`. -/
structure Sequenced (start : Nat) (system : RuntimeSystem) : Prop where
  limit_pos : 0 < system.source.limits.capabilityTombstoneLimit
  encoded_fits : (largestTombstone.encoded.length : Int) ≤
    system.source.limits.capabilityTombstoneMaxEncodedBytes
  counter : system.source.sequenceExhausted = true ↔ system.source.nextTerminalSequence = 0
  start_le : start ≤ bound system.source
  records_below : ∀ record ∈ system.records, record.key < bound system.source
  records_valid : ∀ record ∈ system.records, validRuntimeTombstone record = true
  records_nodup : (system.records.map RuntimeCapabilityTombstone.key).Nodup
  live_below : ∀ token capability, system.source.live.lookup token = some capability →
    0 < capability.terminalSequence.toNat ∧
      capability.terminalSequence.toNat < bound system.source
  live_unrecorded : ∀ token capability, system.source.live.lookup token = some capability →
    ∀ record ∈ system.records, record.key ≠ capability.terminalSequence.toNat
  live_distinct : ∀ token capability other otherCapability,
    system.source.live.lookup token = some capability →
    system.source.live.lookup other = some otherCapability →
    capability.terminalSequence = otherCapability.terminalSequence → token = other
  window : system.source.tombstones = window RuntimeCapabilityTombstone.key
    system.source.limits.capabilityTombstoneLimit.toNat system.records
  reserved_range : ∀ sequence ∈ system.reserved,
    start ≤ sequence.toNat ∧ sequence.toNat < bound system.source
  reserved_nodup : system.reserved.Nodup

theorem reserve_bound {source after : RuntimeAcquisitionSource} {sequence : UInt64}
    (h : source.reserveTerminalSequence = (.ok sequence, after)) :
    sequence.toNat = bound source ∧ bound after = bound source + 1 ∧ 0 < sequence.toNat ∧
      (after.sequenceExhausted = true ↔ after.nextTerminalSequence = 0) := by
  obtain ⟨next, exhausted, rfl, hopen, hnext, rfl, hcases⟩ := reserve_cases h
  have hpos : 0 < source.nextTerminalSequence.toNat :=
    UInt64.lt_iff_toNat_lt.mp (UInt64.pos_iff_ne_zero.mpr hnext)
  unfold bound
  rw [hopen]
  rcases hcases with ⟨hmax, rfl, rfl⟩ | ⟨hmax, rfl, rfl⟩
  · refine ⟨rfl, ?_, hpos, iff_of_true rfl rfl⟩
    rw [hmax]
    rfl
  · have hlt : source.nextTerminalSequence.toNat + 1 < 18446744073709551616 := by
      have hsize := source.nextTerminalSequence.toNat_lt
      have hne : source.nextTerminalSequence.toNat ≠ 18446744073709551615 := fun heq =>
        hmax (UInt64.toNat_inj.mp heq)
      omega
    have hadd : (source.nextTerminalSequence + 1).toNat =
        source.nextTerminalSequence.toNat + 1 := by
      rw [UInt64.toNat_add]
      exact Nat.mod_eq_of_lt hlt
    refine ⟨rfl, hadd, hpos, iff_of_false (fun h => nomatch h) fun hzero => ?_⟩
    rw [show (source.nextTerminalSequence + 1) = 0 from hzero] at hadd
    exact absurd hadd (by simp)

/-- One more record that no other has the number of: the tombstones are again the
    window of the records. -/
theorem bury_tombstones (source : RuntimeAcquisitionSource)
    (records : List RuntimeCapabilityTombstone) (tombstone : RuntimeCapabilityTombstone)
    (hlimit : 0 < source.limits.capabilityTombstoneLimit)
    (hnodup : (records.map RuntimeCapabilityTombstone.key).Nodup)
    (hfresh : ∀ record ∈ records, record.key ≠ tombstone.key)
    (hwindow : source.tombstones = window RuntimeCapabilityTombstone.key
      source.limits.capabilityTombstoneLimit.toNat records) :
    (source.bury tombstone).tombstones = window RuntimeCapabilityTombstone.key
      source.limits.capabilityTombstoneLimit.toNat (tombstone :: records) := by
  have hstrict := window_strict RuntimeCapabilityTombstone.key
    source.limits.capabilityTombstoneLimit.toNat records hnodup
  rw [← hwindow] at hstrict
  -- The test of the search is monotone since the tombstones ascend.
  have htest : ∀ (i : Nat) (hi : i < source.tombstones.length),
      ((source.tombstones[i]?).any fun other =>
        decide (other.terminalSequence > tombstone.terminalSequence)) = true ↔
      tombstone.key < (source.tombstones.get ⟨i, hi⟩).key := by
    intro i hi
    rw [List.getElem?_eq_getElem hi, Option.any_some, decide_eq_true_eq]
    exact UInt64.lt_iff_toNat_lt
  obtain ⟨hle, hbefore, hafter⟩ := search_spec source.tombstones.length
    (fun index => (source.tombstones[index]?).any fun other =>
      decide (other.terminalSequence > tombstone.terminalSequence)) (by
        intro i j hij hj hi
        rw [htest j hj]
        rw [htest i (by omega)] at hi
        rcases Nat.lt_or_eq_of_le hij with hlt | rfl
        · exact Nat.lt_trans hi (List.pairwise_iff_get.mp hstrict ⟨i, by omega⟩ ⟨j, hj⟩ hlt)
        · exact hi)
  have hplaced := placed_eq_orderedInsert RuntimeCapabilityTombstone.key source.tombstones tombstone
    (search source.tombstones.length fun index => (source.tombstones[index]?).any fun other =>
      decide (other.terminalSequence > tombstone.terminalSequence)) ?_ ?_
  · unfold RuntimeAcquisitionSource.bury
    dsimp only
    rw [hplaced, window_cons, ← hwindow]
    congr 1
    rw [gt_iff_lt, gt_iff_lt, eq_iff_iff]
    omega
  · intro other hother
    obtain ⟨i, hi, hsame⟩ := List.mem_take_iff_getElem.mp hother
    have hnot := hbefore i (by omega)
    have hkey : ¬ tombstone.key < other.key := by
      rw [← hsame]
      intro hlt
      have := (htest i (by omega)).mpr hlt
      rw [hnot] at this
      cases this
    have hne := hfresh other (mem_of_mem_window RuntimeCapabilityTombstone.key _ _ _ (by
      rw [← hwindow]
      exact List.mem_of_mem_take hother))
    omega
  · intro other hother
    obtain ⟨i, hi, hsame⟩ := List.mem_drop_iff_getElem.mp hother
    have hyes := hafter _ (Nat.le_add_left _ i) hi
    rw [htest _ hi] at hyes
    rw [List.get_eq_getElem] at hyes
    simp only [← hsame, Nat.add_comm _ i]
    exact Nat.le_of_lt hyes

namespace Sequenced

variable {start : Nat} {before after system : RuntimeSystem} {freezes : Nat → List Nat → Prop}

/-- A number is handed out. -/
theorem issued (h : Sequenced start system) (attempt : Nat) (state : RuntimeAttemptState)
    (ordinal : UInt32) (now : Duration) (sequence next : UInt64) (exhausted : Bool)
    (hsequence : system.source.reserveTerminalSequence = (.ok sequence,
      { system.source with nextTerminalSequence := next, sequenceExhausted := exhausted })) :
    Sequenced start (system.register attempt state ordinal now sequence next exhausted) := by
  obtain ⟨hnumber, hgrows, hpos, hcounter⟩ := reserve_bound hsequence
  have hbound : bound (system.register attempt state ordinal now sequence next exhausted).source =
      bound system.source + 1 := hgrows
  have hstart := h.start_le
  refine { h with
    counter := hcounter, start_le := by omega, records_below := ?_, live_below := ?_
    live_unrecorded := ?_, live_distinct := ?_, reserved_range := ?_, reserved_nodup := ?_ }
  · intro record hrecord
    have := h.records_below record hrecord
    omega
  · intro other found hfound
    rcases Table.lookup_insert_some hfound with ⟨_, rfl⟩ | ⟨_, hfound⟩
    · dsimp only
      omega
    · have := h.live_below other found hfound
      omega
  · intro other found hfound record hrecord
    rcases Table.lookup_insert_some hfound with ⟨_, rfl⟩ | ⟨_, hfound⟩
    · have := h.records_below record hrecord
      dsimp only
      omega
    · exact h.live_unrecorded other found hfound record hrecord
  · -- The new number is the bound, and all numbers of the others are below it.
    have hnew : ∀ other found, system.source.live.lookup other = some found →
        found.terminalSequence ≠ sequence := by
      intro other found hfound hsame
      have := (h.live_below other found hfound).2
      rw [hsame] at this
      omega
    intro first firstFound second secondFound hfirst hsecond hsame
    rcases Table.lookup_insert_some hfirst with ⟨heq, rfl⟩ | ⟨_, hfirst⟩
    · rcases Table.lookup_insert_some hsecond with ⟨heq', _⟩ | ⟨_, hsecond⟩
      · rw [heq, heq']
      · exact absurd hsame.symm (hnew second secondFound hsecond)
    · rcases Table.lookup_insert_some hsecond with ⟨_, rfl⟩ | ⟨_, hsecond⟩
      · exact absurd hsame (hnew first firstFound hfirst)
      · exact h.live_distinct first firstFound second secondFound hfirst hsecond hsame
  · intro other hother
    rcases List.mem_cons.mp hother with rfl | hrest
    · omega
    · have := h.reserved_range other hrest
      omega
  · refine List.nodup_cons.mpr ⟨fun hmem => ?_, h.reserved_nodup⟩
    have := (h.reserved_range sequence hmem).2
    omega

theorem ended (h : Sequenced start system) (token : Nat) (capability : RuntimeCapabilityState)
    (outcome : RuntimeCapabilityTerminalOutcome)
    (hlive : system.source.live.lookup token = some capability)
    (hvalid : validRuntimeTerminalOutcome outcome = true) :
    Sequenced start (system.terminalize token capability outcome) := by
  obtain ⟨hpos, hbelow⟩ := h.live_below token capability hlive
  have hfresh := h.live_unrecorded token capability hlive
  have hothers : ∀ other found,
      (system.terminalize token capability outcome).source.live.lookup other = some found →
      other ≠ token ∧ system.source.live.lookup other = some found :=
    fun _ _ => Table.lookup_erase_some
  refine { h with
    records_below := ?_, records_valid := ?_, records_nodup := ?_, live_unrecorded := ?_
    live_below := fun other found hfound => h.live_below other found (hothers _ _ hfound).2
    live_distinct := fun first firstFound second secondFound hfirst hsecond =>
      h.live_distinct first firstFound second secondFound (hothers _ _ hfirst).2
        (hothers _ _ hsecond).2
    window := bury_tombstones { system.source with live := system.source.live.erase token }
      system.records { terminalSequence := capability.terminalSequence, terminalOutcome := outcome }
      h.limit_pos h.records_nodup hfresh h.window }
  · intro record hrecord
    rcases List.mem_cons.mp hrecord with rfl | hrest
    · exact hbelow
    · exact h.records_below record hrest
  · intro record hrecord
    rcases List.mem_cons.mp hrecord with rfl | hrest
    · have hne : capability.terminalSequence ≠ 0 := fun hzero => by
        rw [hzero] at hpos
        exact absurd hpos (by decide)
      simp [validRuntimeTombstone, hne, hvalid]
    · exact h.records_valid record hrest
  · refine List.nodup_cons.mpr ⟨fun hmem => ?_, h.records_nodup⟩
    obtain ⟨record, hrecord, hsame⟩ := List.mem_map.mp hmem
    exact hfresh record hrecord hsame
  · -- A live capability with the new record's sequence would be the one that ended.
    intro other found hfound record hrecord
    obtain ⟨hne, hbefore⟩ := hothers other found hfound
    rcases List.mem_cons.mp hrecord with rfl | hrest
    · intro hsame
      exact hne (h.live_distinct other found token capability hbefore hlive
        (UInt64.toNat_inj.mp hsame.symm))
    · exact h.live_unrecorded other found hbefore record hrest

theorem change (h : Sequenced start before) (hchange : Change freezes before after) :
    Sequenced start after := by
  cases hchange with
  | idle hidle =>
    rw [hidle.same]
    exact { h with }
  | issued attempt state ordinal now sequence next exhausted _ _ _ _ _ hsequence =>
    exact h.issued attempt state ordinal now sequence next exhausted hsequence
  | ended token capability outcome hlive hvalid =>
    exact h.ended token capability outcome hlive hvalid
  | _ => exact { h with }

end Sequenced

theorem sequenced_new {config : RuntimeAcquisitionConfig} {clock : Option Duration}
    {system : RuntimeSystem} (h : newRuntimeAcquisitionSource config clock = .ok system) :
    Sequenced (bound system.source) system := by
  obtain ⟨hconfig, restart, haccepted, -, rfl⟩ := new_cases h
  obtain ⟨hbounds, hencoded, -⟩ := config_cases hconfig
  have hlimit := (hbounds (config.limits.capabilityTombstoneLimit, maxRuntimeTombstones)
    (by simp [RuntimeAcquisitionLimits.positiveBounded])).1
  obtain ⟨-, hlength, hcounter, hvalid, hascending, hbelow⟩ :=
    (validateRuntimeRestart_iff restart config.limits).mp haccepted
  have hstrict : restart.tombstones.Pairwise (fun a b => a.key < b.key) :=
    hascending.imp fun h => UInt64.lt_iff_toNat_lt.mp h
  have hnodup : (restart.tombstones.map RuntimeCapabilityTombstone.key).Nodup :=
    List.pairwise_map.mpr (hstrict.imp fun h => Nat.ne_of_lt h)
  constructor
  case limit_pos => exact hlimit
  case encoded_fits => exact hencoded
  case counter => exact hcounter
  case start_le => exact Nat.le_refl _
  case records_below =>
    intro record hrecord
    rw [List.mem_reverse] at hrecord
    unfold bound
    split
    · exact record.terminalSequence.toNat_lt
    · next hnot =>
      exact UInt64.lt_iff_toNat_lt.mp (hbelow (by simpa using hnot) record hrecord)
  case records_valid =>
    exact fun record hrecord => (hvalid record (List.mem_reverse.mp hrecord)).1
  case records_nodup =>
    rw [List.map_reverse, List.nodup_reverse]
    exact hnodup
  case live_below => exact fun _ _ h => by cases h
  case live_unrecorded => exact fun _ _ h => by cases h
  case live_distinct => exact fun _ _ _ _ h => by cases h
  -- A restart state comes sorted and within its limit, so the window is all of it.
  case window =>
    dsimp only
    rw [← window_perm _ _ restart.tombstones _ (List.reverse_perm _).symm hnodup,
      window_of_strict _ _ restart.tombstones hstrict (by omega)]
  case reserved_range => exact fun _ h => by cases h
  case reserved_nodup => exact List.nodup_nil

theorem Sequenced.run {start : Nat} {system : RuntimeSystem} (h : Sequenced start system)
    (hsound : Sound system) (calls : List RuntimeCall) : Sequenced start (system.run calls) :=
  run_kept (Sequenced start) (fun _ _ _ _ hchange hbefore => hbefore.change hchange) hsound h calls

section Export

variable {system : RuntimeSystem}

theorem foldl_dropAttempt (tokens : List Nat) (system : RuntimeSystem) :
    ∃ attempts attemptTokens, tokens.foldl dropAttempt system =
      { system with
        source := { system.source with attempts := attempts }
        attemptTokens := attemptTokens } := by
  induction tokens generalizing system with
  | nil => exact ⟨system.source.attempts, system.attemptTokens, rfl⟩
  | cons token rest ih => exact ih (system.dropAttempt token)

/-- What an export returns, and that the source is retired then. -/
theorem exportRestartState_cases {state : RuntimeAcquisitionRestartState}
    (h : system.exportRestartState.1 = .ok state) :
    state = { schemaVersion := 1
              nextTerminalSequence := system.source.nextTerminalSequence
              sequenceExhausted := system.source.sequenceExhausted
              tombstones := system.source.tombstones } ∧
      system.exportRestartState.2.source.retired = true ∧
      bound system.exportRestartState.2.source = bound system.source := by
  obtain ⟨attempts, attemptTokens, hswept⟩ := foldl_dropAttempt system.emptyAttempts system
  unfold exportRestartState at h ⊢
  split at h
  · cases h
  next hretired =>
  rw [if_neg hretired]
  dsimp only at h ⊢
  rw [hswept] at h ⊢
  split at h
  · cases h
  next hempty =>
  rw [if_neg hempty]
  obtain ⟨detached, hdetached⟩ := foldl_detachAttempt
    (system.source.drainedAttempts.entries.map fun e => e.1)
    { system with
      source := { system.source with attempts := attempts }
      attemptTokens := attemptTokens }
  rw [hdetached] at h ⊢
  cases h
  exact ⟨rfl, rfl, rfl⟩

/-- An exported state is accepted under the same limits. -/
theorem exported_accepted {start : Nat} (h : Sequenced start system)
    {state : RuntimeAcquisitionRestartState} (hstate : system.exportRestartState.1 = .ok state) :
    validateRuntimeRestart state system.source.limits = none := by
  obtain ⟨rfl, -⟩ := exportRestartState_cases hstate
  have hstrict := window_strict RuntimeCapabilityTombstone.key
    system.source.limits.capabilityTombstoneLimit.toNat system.records h.records_nodup
  rw [← h.window] at hstrict
  have hrecord : ∀ tombstone ∈ system.source.tombstones, tombstone ∈ system.records := by
    intro tombstone hmem
    rw [h.window] at hmem
    exact mem_of_mem_window _ _ _ _ hmem
  refine (validateRuntimeRestart_iff _ _).mpr ⟨rfl, ?_, h.counter, ?_, ?_, ?_⟩
  · have hlimit := h.limit_pos
    have hlength := window_length RuntimeCapabilityTombstone.key
      system.source.limits.capabilityTombstoneLimit.toNat system.records
    rw [← h.window] at hlength
    show (system.source.tombstones.length : Int) ≤ _
    omega
  · intro tombstone hmem
    have hvalid := h.records_valid tombstone (hrecord tombstone hmem)
    have hencoded := encoded_le_largest tombstone hvalid
    have hfits := h.encoded_fits
    exact ⟨hvalid, by omega⟩
  · exact hstrict.imp fun hlt => UInt64.lt_iff_toNat_lt.mpr hlt
  · intro hnot tombstone hmem
    have hbelow := h.records_below tombstone (hrecord tombstone hmem)
    change system.source.sequenceExhausted = false at hnot
    unfold bound at hbelow
    rw [if_neg (by rw [hnot]; decide)] at hbelow
    exact UInt64.lt_iff_toNat_lt.mpr hbelow

theorem retired_run (hsound : Sound system) (hretired : system.source.retired = true)
    (calls : List RuntimeCall) : bound (system.run calls).source = bound system.source := by
  refine (run_kept (fun s => s.source.retired = true ∧ bound s.source = bound system.source) ?_
    hsound ⟨hretired, rfl⟩ calls).2
  rintro freezes before after - hchange ⟨hbefore, hbound⟩
  rw [← hbound]
  cases hchange with
  | idle hidle =>
    refine ⟨hidle.retired hbefore, ?_⟩
    rw [hidle.same]
    rfl
  | issued attempt state ordinal now sequence next exhausted hopen =>
    exact nomatch hbefore.symm.trans hopen
  | _ => exact ⟨hbefore, rfl⟩

/-- The state that a run exports, if it does. -/
def exportedState (system : RuntimeSystem) :
    List RuntimeCall → Option RuntimeAcquisitionRestartState
  | [] => none
  | call :: rest =>
    match (system.step call).1 with
    | .exported (.ok state) => some state
    | _ => exportedState (system.step call).2 rest

/-- The exported counter is still that of the source after the run. -/
theorem exportedState_counter (hsound : Sound system) (calls : List RuntimeCall)
    (state : RuntimeAcquisitionRestartState) (h : system.exportedState calls = some state) :
    (if state.sequenceExhausted then 18446744073709551616
      else state.nextTerminalSequence.toNat) = bound (system.run calls).source := by
  induction calls generalizing system with
  | nil => cases h
  | cons call rest ih =>
    unfold exportedState at h
    split at h
    · next found hreply =>
      cases h
      cases call with
      | exportRestartState =>
        obtain ⟨rfl, hretired, hbound⟩ :=
          exportRestartState_cases (RuntimeReply.exported.inj hreply)
        -- An export retires the source, so no number is handed out after it.
        have hafter := retired_run (sound_step hsound .exportRestartState) hretired rest
        exact (hafter.trans hbound).symm
      | _ => cases hreply
    · exact ih (sound_step hsound call) h

/-- A chain of sources, the latest first. Each runs any calls, and the next one is
    restored, under any configuration, from the state the last one exported. -/
inductive Restarts : List RuntimeSystem → Option RuntimeAcquisitionRestartState → Prop
  | first (config clock system) (hnew : newRuntimeAcquisitionSource config clock = .ok system)
      (calls) :
      Restarts [system.run calls] (system.exportedState calls)
  | again (systems state) (hchain : Restarts systems (some state)) (config clock system)
      (hrestart : config.restart = some state)
      (hnew : newRuntimeAcquisitionSource config clock = .ok system) (calls) :
      Restarts (system.run calls :: systems) (system.exportedState calls)

/-- What the last source of a chain is: a run of a new source, and the number it started
    at is above every number that was handed out before. -/
theorem restarts_last {systems : List RuntimeSystem}
    {exported : Option RuntimeAcquisitionRestartState} (h : Restarts systems exported) :
    ∃ start last earlier, systems = last :: earlier ∧ Sequenced start last ∧
      (∀ sequence ∈ earlier.flatMap (fun system => system.reserved), sequence.toNat < start) ∧
      (systems.flatMap fun system => system.reserved).Nodup ∧
      ∀ state, exported = some state →
        (if state.sequenceExhausted then 18446744073709551616
          else state.nextTerminalSequence.toNat) = bound last.source := by
  induction h with
  | first config clock system hnew calls =>
    have hsound := sound_new hnew
    have hlast := (sequenced_new hnew).run hsound calls
    refine ⟨_, _, [], rfl, hlast, (fun _ h => nomatch h), ?_, ?_⟩
    · simpa only [List.flatMap_cons, List.flatMap_nil, List.append_nil] using hlast.reserved_nodup
    · exact fun state hstate => exportedState_counter hsound calls state hstate
  | again systems state hchain config clock system hrestart hnew calls ih =>
    obtain ⟨start, last, earlier, rfl, hlast, hbefore, hnodup, hcounter⟩ := ih
    have hsound := sound_new hnew
    have hnext := (sequenced_new hnew).run hsound calls
    -- The new source starts at the bound of the last one.
    have hstart : bound system.source = bound last.source := by
      rw [← hcounter state rfl]
      obtain ⟨-, restart, -, hsame, rfl⟩ := new_cases hnew
      cases hsame state hrestart
      rfl
    have hbelow : ∀ sequence ∈ (last :: earlier).flatMap (fun system => system.reserved),
        sequence.toNat < bound system.source := by
      intro sequence hsequence
      rw [List.flatMap_cons, List.mem_append] at hsequence
      rw [hstart]
      rcases hsequence with hmem | hmem
      · exact (hlast.reserved_range sequence hmem).2
      · exact Nat.lt_of_lt_of_le (hbefore sequence hmem) hlast.start_le
    refine ⟨_, _, _, rfl, hnext, hbelow, ?_, ?_⟩
    · rw [List.flatMap_cons, List.nodup_append]
      refine ⟨hnext.reserved_nodup, hnodup, ?_⟩
      intro sequence hnew' other hother hsame
      have habove := (hnext.reserved_range sequence hnew').1
      have := hbelow other hother
      rw [hsame] at habove
      omega
    · exact fun state hstate => exportedState_counter hsound calls state hstate

end Export

/-- Terminal sequences are unique across restarts, and an export always restores. In every
    chain of sources, the tombstones of the last one ascend, lie below the next number
    unless there is none left, and are the highest-numbered of all its records, restored
    ones included, in whatever order the records came; a state it exports is accepted under
    its own limits; and no number was handed out twice in the whole chain. -/
theorem terminal_sequences_unique (last : RuntimeSystem) (earlier : List RuntimeSystem)
    (exported : Option RuntimeAcquisitionRestartState)
    (h : Restarts (last :: earlier) exported) :
    last.source.tombstones.Pairwise (fun a b => a.terminalSequence < b.terminalSequence) ∧
      (∀ tombstone ∈ last.source.tombstones, last.source.sequenceExhausted = true ∨
        tombstone.terminalSequence < last.source.nextTerminalSequence) ∧
      (∀ records : List RuntimeCapabilityTombstone, records.Perm last.records →
        last.source.tombstones = window (fun record => record.terminalSequence.toNat)
          last.source.limits.capabilityTombstoneLimit.toNat records) ∧
      (∀ state, last.exportRestartState.1 = .ok state →
        validateRuntimeRestart state last.source.limits = none) ∧
      ((last :: earlier).flatMap fun system => system.reserved).Nodup := by
  obtain ⟨start, _, _, hsame, hlast, -, hnodup, -⟩ := restarts_last h
  cases hsame
  have hstrict := window_strict RuntimeCapabilityTombstone.key
    last.source.limits.capabilityTombstoneLimit.toNat last.records hlast.records_nodup
  rw [← hlast.window] at hstrict
  refine ⟨hstrict.imp fun hlt => UInt64.lt_iff_toNat_lt.mpr hlt, ?_, ?_,
    fun state hstate => exported_accepted hlast hstate, hnodup⟩
  · intro tombstone hmem
    rw [hlast.window] at hmem
    have hbelow := hlast.records_below tombstone (mem_of_mem_window _ _ _ _ hmem)
    unfold bound at hbelow
    split at hbelow
    · next hexhausted => exact .inl hexhausted
    · exact .inr (UInt64.lt_iff_toNat_lt.mpr hbelow)
  · intro records hperm
    rw [hlast.window]
    exact window_perm RuntimeCapabilityTombstone.key _ _ _ hperm.symm hlast.records_nodup

/-- A source that has one number left. -/
def lastNumber : RuntimeAcquisitionConfig where
  limits := singleLimits
  claimLifetime := 10
  restart := some
    { schemaVersion := 1, nextTerminalSequence := 18446744073709551615
      sequenceExhausted := false, tombstones := [] }

/-- The number is handed out and the source exported. -/
def claimAndExport : List RuntimeCall :=
  [.newView, .beginAttempt "k",
    .issue { token := some 0 } 0 registerView registerNormalization 5,
    .close { token := some 0 } [registerAcquisition] [],
    .claim { token := some 0 } { token := some 0 } 9, .exportRestartState]

/-- A source restored from what that one exported. -/
def noNumber : RuntimeAcquisitionConfig where
  limits := singleLimits
  claimLifetime := 10
  restart := some
    { schemaVersion := 1, nextTerminalSequence := 0, sequenceExhausted := true
      tombstones := [{ terminalSequence := 18446744073709551615, terminalOutcome := .claimed }] }

theorem terminal_sequences_unique_exhausted :
    ∃ full restored,
      newRuntimeAcquisitionSource lastNumber (some 0) = .ok full ∧
      newRuntimeAcquisitionSource noNumber (some 0) = .ok restored ∧
      full.exportedState claimAndExport = noNumber.restart ∧
      (full.run claimAndExport).reserved = [18446744073709551615] ∧
      (restored.run claimAndExport).reserved = [] ∧
      ([restored.run claimAndExport, full.run claimAndExport].flatMap
        fun system => system.reserved).Nodup := by
  refine ⟨_, _, rfl, rfl, by decide +kernel, by decide +kernel, by decide +kernel, ?_⟩
  have hchain := Restarts.first lastNumber (some 0) _ rfl claimAndExport
  obtain ⟨-, -, -, -, hnodup⟩ := terminal_sequences_unique _ _ _
    (.again _ _ hchain noNumber (some 0) _ (by decide +kernel) rfl claimAndExport)
  exact hnodup

end RuntimeSystem

end HelianthusModbus
