import Mathlib.Data.Finmap
import Mathlib.Algebra.Order.BigOperators.Group.List
import Mathlib.Algebra.Order.Ring.Nat
import Mathlib.Data.List.Sort

/-!
# Finite Tables

A finite map with a computable list of entries, and the sums over its entries
that accounting arguments are made of.

The representation is Mathlib's `AList`, used at a constant family. It comes with
`lookup`, `insert` and `erase`; what an accounting proof needs on top is how a
sum over the entries changes when one entry is written or removed. Both facts
are stated as one equation that holds whether or not the key was there before,
with the old contribution on one side and the new one on the other, so that a
caller never has to split on membership only to do arithmetic.

## Main definitions

* `Table`: A finite map.
* `Table.Within`: One table has only entries of another.

## Theorems

* `Table.sum_insert`, `Table.sum_erase`: How one write or removal moves a sum.
* `Table.le_sum`: One entry contributes at most the whole.
* `Table.sum_pos_iff`: A sum is positive exactly when some entry contributes.
* `Table.length_erase`, `Table.length_insert`: How the number of entries changes.
* `Table.Within.length_le`: Then it does not have more of them.
* `Table.lookup_eraseAll`: What is left after removing a list of keys.
-/

namespace HelianthusModbus

/-- A finite map from `K` to `V`. -/
abbrev Table (K V : Type) := AList (fun _ : K => V)

namespace Table

variable {K V : Type}

/-- The sum of `f` over all entries. -/
def sum {M : Type} [AddCommMonoid M] (f : K → V → M) (m : Table K V) : M :=
  (m.entries.map fun e => f e.1 e.2).sum

/-- The number of entries that satisfy a test. -/
def count (p : K → V → Bool) (m : Table K V) : Nat :=
  m.sum fun k v => if p k v then 1 else 0

section Sums

variable {M : Type} [AddCommMonoid M]

@[simp] theorem sum_empty (f : K → V → M) : sum f (∅ : Table K V) = 0 := rfl

theorem sum_congr (f g : K → V → M) (m : Table K V)
    (h : ∀ e ∈ m.entries, f e.1 e.2 = g e.1 e.2) : m.sum f = m.sum g := by
  unfold sum
  rw [List.map_congr_left h]

theorem sum_add (f g : K → V → M) (m : Table K V) :
    m.sum (fun k v => f k v + g k v) = m.sum f + m.sum g := by
  unfold sum
  rw [List.sum_map_add]

theorem sum_const (c : M) (m : Table K V) : m.sum (fun _ _ => c) = m.entries.length • c := by
  unfold sum
  rw [List.map_const', List.sum_replicate]

theorem sum_le_sum [Preorder M] [AddLeftMono M] [AddRightMono M] (f g : K → V → M)
    (m : Table K V) (h : ∀ e ∈ m.entries, f e.1 e.2 ≤ g e.1 e.2) : m.sum f ≤ m.sum g := by
  unfold sum
  exact List.sum_le_sum h

theorem sum_nonneg [Preorder M] [AddLeftMono M] (f : K → V → M) (m : Table K V)
    (h : ∀ e ∈ m.entries, 0 ≤ f e.1 e.2) : 0 ≤ m.sum f := by
  unfold sum
  refine List.sum_nonneg (fun x hx => ?_)
  rcases List.mem_map.mp hx with ⟨e, he, rfl⟩
  exact h e he

end Sums

variable [DecidableEq K]

theorem mem_entries_iff (m : Table K V) (k : K) (v : V) :
    ⟨k, v⟩ ∈ m.entries ↔ m.lookup k = some v :=
  AList.mem_lookup_iff.symm

theorem eq_empty_of_lookup (m : Table K V) (h : ∀ k v, m.lookup k ≠ some v) : m = ∅ := by
  refine AList.ext ?_
  show m.entries = []
  refine List.eq_nil_iff_forall_not_mem.mpr (fun e he => ?_)
  exact h e.1 e.2 ((mem_entries_iff m e.1 e.2).mp he)

theorem lookup_insert_ite (m : Table K V) (k k' : K) (v : V) :
    AList.lookup k' (AList.insert k v m) = if k' = k then some v else m.lookup k' := by
  by_cases h : k' = k
  · subst h
    rw [if_pos rfl, AList.lookup_insert]
  · rw [if_neg h, AList.lookup_insert_ne h]

/-- An entry after an insertion is the new one or an old one under another key. -/
theorem lookup_insert_some {m : Table K V} {k k' : K} {v v' : V}
    (h : AList.lookup k' (AList.insert k v m) = some v') :
    k' = k ∧ v' = v ∨ k' ≠ k ∧ m.lookup k' = some v' := by
  rw [lookup_insert_ite] at h
  split_ifs at h with hkey
  · exact .inl ⟨hkey, (Option.some.inj h).symm⟩
  · exact .inr ⟨hkey, h⟩

theorem lookup_erase_ite (m : Table K V) (k k' : K) :
    AList.lookup k' (AList.erase k m) = if k' = k then none else m.lookup k' := by
  by_cases h : k' = k
  · subst h
    rw [if_pos rfl, AList.lookup_erase]
  · rw [if_neg h, AList.lookup_erase_ne h]

theorem lookup_erase_some {m : Table K V} {k k' : K} {v : V}
    (h : AList.lookup k' (AList.erase k m) = some v) : k' ≠ k ∧ m.lookup k' = some v := by
  rw [lookup_erase_ite] at h
  split_ifs at h with hkey
  exact ⟨hkey, h⟩

section Updates

variable {M : Type} [AddCommMonoid M]

/-- Removing a key takes its contribution out of the sum, and takes out nothing
    when the key is absent. -/
theorem sum_erase (f : K → V → M) (m : Table K V) (k : K) :
    sum f (m.erase k) + (m.lookup k).elim 0 (f k) = sum f m := by
  obtain ⟨entries, hnodup⟩ := m
  simp only [sum, AList.erase, AList.lookup]
  clear hnodup
  induction entries with
  | nil => exact add_zero _
  | cons e rest ih =>
    obtain ⟨a, b⟩ := e
    by_cases h : k = a
    · subst h
      simp [add_comm]
    · rw [List.kerase_cons_ne h, List.dlookup_cons_ne _ _ h]
      simp only [List.map_cons, List.sum_cons]
      rw [add_assoc, ih]

theorem sum_insert_eq (f : K → V → M) (m : Table K V) (k : K) (v : V) :
    sum f (m.insert k v) = f k v + sum f (m.erase k) := by
  simp only [sum, AList.entries_insert, AList.erase, List.map_cons, List.sum_cons]

/-- Writing a key replaces its old contribution by the new one. -/
theorem sum_insert (f : K → V → M) (m : Table K V) (k : K) (v : V) :
    sum f (m.insert k v) + (m.lookup k).elim 0 (f k) = sum f m + f k v := by
  rw [sum_insert_eq, add_assoc, sum_erase, add_comm]

theorem sum_erase_congr (f g : K → V → M) (m : Table K V) (k : K)
    (h : ∀ k' v, k' ≠ k → f k' v = g k' v) : sum f (m.erase k) = sum g (m.erase k) := by
  refine sum_congr f g _ (fun e he => h e.1 e.2 ?_)
  have hlook := (mem_entries_iff (m.erase k) e.1 e.2).mp he
  rw [lookup_erase_ite] at hlook
  intro hk
  rw [if_pos hk] at hlook
  cases hlook

/-- Leaving one key out of a sum is summing without it. -/
theorem sum_except (f : K → V → M) (m : Table K V) (k : K) :
    m.sum (fun k' v => if k' = k then 0 else f k' v) = sum f (m.erase k) := by
  have herase := sum_erase (fun k' v => if k' = k then 0 else f k' v) m k
  have hzero : (m.lookup k).elim 0 (fun v => if k = k then (0 : M) else f k v) = 0 := by
    cases m.lookup k with
    | none => rfl
    | some v => exact if_pos rfl
  rw [hzero, add_zero] at herase
  rw [← herase]
  exact sum_erase_congr _ f m k (fun _ _ hne => if_neg hne)

end Updates

theorem count_erase (p : K → V → Bool) (m : Table K V) (k : K) :
    count p (m.erase k) + (m.lookup k).elim 0 (fun v => if p k v then 1 else 0) = count p m :=
  sum_erase _ m k

theorem count_insert (p : K → V → Bool) (m : Table K V) (k : K) (v : V) :
    count p (m.insert k v) + (m.lookup k).elim 0 (fun v => if p k v then 1 else 0) =
      count p m + if p k v then 1 else 0 :=
  sum_insert _ m k v

theorem le_sum (f : K → V → Nat) (m : Table K V) (k : K) (v : V) (h : m.lookup k = some v) :
    f k v ≤ sum f m := by
  have herase := sum_erase f m k
  rw [h, Option.elim_some] at herase
  omega

theorem sum_pos_iff (f : K → V → Nat) (m : Table K V) :
    0 < sum f m ↔ ∃ k v, m.lookup k = some v ∧ 0 < f k v := by
  constructor
  · intro hpos
    by_contra hnone
    push Not at hnone
    have hzero : sum f m = sum (fun _ _ => 0) m := by
      refine sum_congr _ _ m (fun e he => ?_)
      have := hnone e.1 e.2 ((mem_entries_iff m e.1 e.2).mp he)
      omega
    rw [hzero] at hpos
    simp only [sum, List.map_const', List.sum_replicate, nsmul_zero, lt_self_iff_false] at hpos
  · rintro ⟨k, v, hk, hpos⟩
    exact Nat.lt_of_lt_of_le hpos (le_sum f m k v hk)

theorem length_erase (m : Table K V) (k : K) :
    (m.erase k).entries.length + (if (m.lookup k).isSome then 1 else 0) = m.entries.length := by
  have hsum := sum_erase (fun _ _ => 1) m k
  rw [sum_const, sum_const, nsmul_one, nsmul_one, Nat.cast_id, Nat.cast_id] at hsum
  cases hlook : m.lookup k with
  | none | some v => simpa [hlook] using hsum

theorem length_insert (m : Table K V) (k : K) (v : V) :
    (AList.insert k v m).entries.length = (m.erase k).entries.length + 1 := by
  rw [AList.entries_insert, List.length_cons]
  rfl

/-- As many distinct keys of a table as it has entries are all its keys. -/
theorem mem_of_length_le (m : Table K V) (keys : List K) (hnodup : keys.Nodup)
    (hkeys : ∀ k ∈ keys, (m.lookup k).isSome) (hlength : m.entries.length ≤ keys.length)
    (k : K) (hk : (m.lookup k).isSome) : k ∈ keys := by
  have hmem : ∀ k, k ∈ m.keys ↔ (m.lookup k).isSome := fun k => by
    rw [AList.lookup_isSome, AList.mem_keys]
  have hsub : keys.Subperm m.keys :=
    List.subperm_of_subset hnodup (fun k hk => (hmem k).mpr (hkeys k hk))
  have hperm : keys.Perm m.keys := hsub.perm_of_length_le (by
    simpa only [AList.keys, List.keys, List.length_map] using hlength)
  exact hperm.mem_iff.mpr ((hmem k).mpr hk)

/-- Every entry of the first table is one of the second. -/
def Within (m m' : Table K V) : Prop := ∀ k v, m.lookup k = some v → m'.lookup k = some v

namespace Within

theorem refl (m : Table K V) : m.Within m := fun _ _ h => h

theorem trans {m m' m'' : Table K V} (h : m.Within m') (h' : m'.Within m'') : m.Within m'' :=
  fun k v hk => h' k v (h k v hk)

theorem empty (m : Table K V) : Within ∅ m := by
  intro k v hk
  rw [AList.lookup_empty] at hk
  cases hk

theorem erase (m : Table K V) (k : K) : Within (m.erase k) m := by
  intro k' v hk'
  rw [lookup_erase_ite] at hk'
  split at hk'
  · cases hk'
  · exact hk'

theorem length_le {m m' : Table K V} (h : m.Within m') : m.entries.length ≤ m'.entries.length := by
  have hsub : m.keys ⊆ m'.keys := by
    intro k hk
    rw [← AList.mem_keys, ← AList.lookup_isSome] at hk ⊢
    rcases Option.isSome_iff_exists.mp hk with ⟨v, hv⟩
    exact Option.isSome_iff_exists.mpr ⟨v, h k v hv⟩
  have hlength := (List.subperm_of_subset m.keys_nodup hsub).length_le
  simpa only [AList.keys, List.keys, List.length_map] using hlength

theorem lookup_none {m m' : Table K V} (h : m.Within m') {k : K} (hk : m'.lookup k = none) :
    m.lookup k = none := by
  cases hlook : m.lookup k with
  | none => rfl
  | some v =>
    rw [h k v hlook] at hk
    cases hk

end Within

/-- Removing every key of a list. -/
def eraseAll (m : Table K V) (keys : List K) : Table K V :=
  keys.foldl (fun m k => m.erase k) m

theorem lookup_eraseAll (m : Table K V) (keys : List K) (k : K) :
    AList.lookup k (m.eraseAll keys) = if k ∈ keys then none else m.lookup k := by
  induction keys generalizing m with
  | nil => simp [eraseAll]
  | cons a rest ih =>
    have hstep : m.eraseAll (a :: rest) = eraseAll (m.erase a) rest := rfl
    rw [hstep, ih, lookup_erase_ite]
    by_cases hrest : k ∈ rest
    · rw [if_pos hrest, if_pos (List.mem_cons_of_mem a hrest)]
    · by_cases ha : k = a
      · rw [if_neg hrest, if_pos ha, if_pos (by rw [ha]; exact List.mem_cons_self)]
      · rw [if_neg hrest, if_neg ha, if_neg (by rw [List.mem_cons]; tauto)]

/-- The keys in ascending order. -/
def sortedKeys [LinearOrder K] (m : Table K V) : List K :=
  m.keys.insertionSort (· ≤ ·)

end Table

end HelianthusModbus
