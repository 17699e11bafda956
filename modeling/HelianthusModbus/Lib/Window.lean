import Mathlib.Data.List.Sort

/-!
# Keeping the Largest

A sorted list of bounded length that keeps the largest elements it was given, in
whatever order they come.

An element is placed by a binary search for the first larger one, and if the list is then
too long its smallest element goes. The result only depends on the set of all elements
given so far: it is the upper end of their sorted list. That is `window`, and
`window_cons` is the step.

## Main definitions

* `search`: Binary search for the first index at which a monotone test holds.
* `window`: The upper end of the sorted list of some elements.

## Theorems

* `search_spec`: What the search finds.
* `placed_eq_orderedInsert`: Placing an element at that index is an ordered insertion.
* `window_strict`: The elements of the window are strictly ascending.
* `window_perm`: The order in which the elements came does not matter.
-/

namespace HelianthusModbus

/-- The search in `[low, high)`. Every step at least halves the interval, so the length
    of the interval is enough fuel. -/
def searchBetween (test : Nat → Bool) : (fuel low high : Nat) → Nat
  | 0, low, _ => low
  | fuel + 1, low, high =>
    if low < high then
      let middle := (low + high) / 2
      if test middle = false then searchBetween test fuel (middle + 1) high
      else searchBetween test fuel low middle
    else low

/-- The smallest index below `n` at which the test holds, or `n`. -/
def search (n : Nat) (test : Nat → Bool) : Nat := searchBetween test n 0 n

theorem searchBetween_spec (test : Nat → Bool) (fuel low high n : Nat)
    (hmono : ∀ i j, i ≤ j → j < n → test i = true → test j = true)
    (hfuel : high - low ≤ fuel) (hle : low ≤ high) (hhigh : high ≤ n)
    (hbefore : ∀ i < low, test i = false) (hafter : ∀ i, high ≤ i → i < n → test i = true) :
    searchBetween test fuel low high ≤ n ∧
      (∀ i < searchBetween test fuel low high, test i = false) ∧
      ∀ i, searchBetween test fuel low high ≤ i → i < n → test i = true := by
  induction fuel generalizing low high with
  | zero =>
    have hsame : low = high := by omega
    subst hsame
    exact ⟨hhigh, hbefore, hafter⟩
  | succ fuel ih =>
    unfold searchBetween
    by_cases hlt : low < high
    · rw [if_pos hlt]
      dsimp only
      by_cases htest : test ((low + high) / 2) = false
      · rw [if_pos htest]
        refine ih _ _ (by omega) (by omega) hhigh (fun i hi => ?_) hafter
        -- The test is monotone, so it fails below the middle as well.
        by_contra htrue
        have := hmono i ((low + high) / 2) (by omega) (by omega) (by simpa using htrue)
        rw [htest] at this
        cases this
      · rw [if_neg htest]
        refine ih _ _ (by omega) (by omega) (by omega) hbefore (fun i hi hn => ?_)
        exact hmono _ i hi hn (by simpa using htest)
    · rw [if_neg hlt]
      have hsame : low = high := by omega
      subst hsame
      exact ⟨hhigh, hbefore, hafter⟩

theorem search_spec (n : Nat) (test : Nat → Bool)
    (hmono : ∀ i j, i ≤ j → j < n → test i = true → test j = true) :
    search n test ≤ n ∧ (∀ i < search n test, test i = false) ∧
      ∀ i, search n test ≤ i → i < n → test i = true :=
  searchBetween_spec test n 0 n n hmono (by omega) (by omega) (by omega)
    (fun _ hi => absurd hi (Nat.not_lt_zero _)) (fun _ hi hn => absurd hn (by omega))

section Windows

variable {α : Type} (key : α → Nat)

/-- The order of the keys. -/
abbrev byKey (a b : α) : Prop := key a ≤ key b

/-- The elements with the `limit` largest keys, in ascending order. -/
def window (limit : Nat) (all : List α) : List α :=
  (all.insertionSort (byKey key)).drop (all.length - limit)

theorem placed_eq_orderedInsert (l : List α) (x : α) (i : Nat)
    (hbefore : ∀ y ∈ l.take i, key y < key x) (hafter : ∀ y ∈ l.drop i, key x ≤ key y) :
    l.take i ++ x :: l.drop i = l.orderedInsert (byKey key) x := by
  induction l generalizing i with
  | nil => simp
  | cons head tail ih =>
    cases i with
    | zero =>
      have hle : byKey key x head := hafter head List.mem_cons_self
      rw [List.orderedInsert_cons_of_le _ _ hle]
      rfl
    | succ i =>
      have hlt : ¬ byKey key x head := Nat.not_le.mpr (hbefore head List.mem_cons_self)
      rw [List.orderedInsert_of_not_le _ _ hlt, List.take_succ_cons, List.drop_succ_cons,
        List.cons_append, ih i (fun y hy => hbefore y (List.mem_cons_of_mem _ hy)) hafter]

theorem orderedInsert_of_forall_le (l : List α) (x : α) (h : ∀ y ∈ l, key x ≤ key y) :
    l.orderedInsert (byKey key) x = x :: l := by
  cases l with
  | nil => rfl
  | cons head tail => exact List.orderedInsert_cons_of_le _ _ (h head List.mem_cons_self)

/-- The upper end of an insertion only depends on the upper end of the list. -/
theorem drop_orderedInsert (low up : List α) (x : α)
    (hsorted : (low ++ up).Pairwise (byKey key)) :
    ((low ++ up).orderedInsert (byKey key) x).drop (low.length + 1) =
      (up.orderedInsert (byKey key) x).drop 1 := by
  induction low with
  | nil => rfl
  | cons head tail ih =>
    rw [List.cons_append, List.pairwise_cons] at hsorted
    rw [List.cons_append, List.length_cons]
    by_cases hle : byKey key x head
    · -- The element goes into the lower part, so the upper part stays as it is.
      have hup : ∀ y ∈ up, key x ≤ key y := fun y hy =>
        Nat.le_trans hle (hsorted.1 y (List.mem_append_right _ hy))
      rw [List.orderedInsert_cons_of_le _ _ hle, orderedInsert_of_forall_le key up x hup]
      simp
    · rw [List.orderedInsert_of_not_le _ _ hle, List.drop_succ_cons, ih hsorted.2]

theorem sorted_insertionSort (l : List α) : (l.insertionSort (byKey key)).Pairwise (byKey key) :=
  haveI : Std.Total (byKey key) := ⟨fun a b => Nat.le_total (key a) (key b)⟩
  haveI : IsTrans α (byKey key) := ⟨fun _ _ _ => Nat.le_trans⟩
  List.pairwise_insertionSort _ l

theorem window_length (limit : Nat) (all : List α) :
    (window key limit all).length = min all.length limit := by
  unfold window
  rw [List.length_drop, List.length_insertionSort]
  omega

/-- One more element: it is placed in the window, and if there are now too many the
    smallest one goes. -/
theorem window_cons (limit : Nat) (all : List α) (x : α) :
    window key limit (x :: all) =
      if ((window key limit all).orderedInsert (byKey key) x).length > limit then
        ((window key limit all).orderedInsert (byKey key) x).drop 1
      else (window key limit all).orderedInsert (byKey key) x := by
  rw [List.orderedInsert_length, window_length]
  by_cases hfull : limit ≤ all.length
  · rw [if_pos (by omega)]
    have hsplit := List.take_append_drop (all.length - limit)
      (all.insertionSort (byKey key))
    have hlength : ((all.insertionSort (byKey key)).take (all.length - limit)).length =
        all.length - limit := by
      rw [List.length_take, List.length_insertionSort]
      omega
    have hdrop := drop_orderedInsert key ((all.insertionSort (byKey key)).take
      (all.length - limit)) ((all.insertionSort (byKey key)).drop (all.length - limit)) x
      (by rw [hsplit]; exact sorted_insertionSort key all)
    rw [hsplit, hlength] at hdrop
    unfold window
    rw [List.insertionSort_cons, List.length_cons,
      show all.length + 1 - limit = all.length - limit + 1 by omega]
    exact hdrop
  · rw [if_neg (by omega)]
    unfold window
    rw [List.insertionSort_cons, List.length_cons, show all.length + 1 - limit = 0 by omega,
      show all.length - limit = 0 by omega, List.drop_zero, List.drop_zero]

theorem mem_of_mem_window (limit : Nat) (all : List α) (x : α) (h : x ∈ window key limit all) :
    x ∈ all :=
  (List.mem_insertionSort (byKey key)).mp (List.mem_of_mem_drop h)

theorem insertionSort_strict (all : List α) (hnodup : (all.map key).Nodup) :
    (all.insertionSort (byKey key)).Pairwise fun a b => key a < key b := by
  have hkeys : ((all.insertionSort (byKey key)).map key).Nodup :=
    ((List.perm_insertionSort (byKey key) all).map key).nodup_iff.mpr hnodup
  have hne : (all.insertionSort (byKey key)).Pairwise fun a b => key a ≠ key b :=
    List.pairwise_map.mp hkeys
  exact ((sorted_insertionSort key all).and hne).imp
    fun hboth => Nat.lt_of_le_of_ne hboth.1 hboth.2

theorem window_strict (limit : Nat) (all : List α) (hnodup : (all.map key).Nodup) :
    (window key limit all).Pairwise fun a b => key a < key b :=
  (insertionSort_strict key all hnodup).sublist (List.drop_sublist _ _)

theorem window_of_strict (limit : Nat) (all : List α)
    (hstrict : all.Pairwise fun a b => key a < key b) (hlength : all.length ≤ limit) :
    window key limit all = all := by
  have hsorted : all.Pairwise (byKey key) := hstrict.imp fun h => Nat.le_of_lt h
  unfold window
  rw [hsorted.insertionSort_eq, Nat.sub_eq_zero_of_le hlength, List.drop_zero]

theorem window_perm (limit : Nat) (all other : List α) (hperm : all.Perm other)
    (hnodup : (all.map key).Nodup) : window key limit all = window key limit other := by
  have hsame : all.insertionSort (byKey key) = other.insertionSort (byKey key) := by
    refine List.Perm.eq_of_pairwise ?_ (insertionSort_strict key all hnodup)
      (insertionSort_strict key other ((hperm.map key).nodup_iff.mp hnodup)) ?_
    · exact fun a b _ _ hab hba => absurd hab (Nat.lt_asymm hba)
    · exact (List.perm_insertionSort _ all).trans
        (hperm.trans (List.perm_insertionSort _ other).symm)
  unfold window
  rw [hsame, hperm.length_eq]

end Windows

end HelianthusModbus
