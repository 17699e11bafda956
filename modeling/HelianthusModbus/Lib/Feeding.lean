import Mathlib.Data.List.Basic
import Mathlib.Data.Nat.Find

/-!
# Feeding a Stream in Fragments

A consumer takes a stream fragment by fragment. Each fragment gives some outputs, perhaps
an error, and a new state of the consumer. If feeding two fragments is the same as feeding
them joined, then nothing of the result depends on the cuts: outputs and state are those of
the whole stream fed at once, and if that fails, every way of cutting fails, for the same
cause and in the fragment that has one certain element of the stream.

Two ways of failing are compared by a cause that the errors have in common, since the error
itself may carry what was not yet delivered, and that does depend on the cuts.

## Main definitions

* `Feeding`, `feedAll`: What a list of fragments gives, up to the first error.
* `Joins`: Feeding two fragments is feeding them joined.

## Theorems

* `feedAll_complete`: If the whole stream is taken, so is every way of cutting it, with the
  same outputs and state.
* `feedAll_fails`: If the whole stream fails, so does every way of cutting it, at one
  element of the stream.
-/

namespace HelianthusModbus

/-- What a consumer makes of one fragment. -/
structure Fed (σ β ε : Type) where
  out : List β := []
  err : Option ε := none
  state : σ

/-- What it makes of a list of fragments, up to and including the first error. The calls
    that were made are kept, the failed one as the last. -/
structure Feeding (σ α β ε : Type) where
  out : List β := []
  calls : List (List α) := []
  err : Option ε := none
  state : σ

section

variable {σ α β ε κ : Type} (feed : σ → List α → Fed σ β ε)

def feedAll (state : σ) : List (List α) → Feeding σ α β ε
  | [] => { state := state }
  | fragment :: rest =>
    let fed := feed state fragment
    match fed.err with
    | some err =>
      { out := fed.out, calls := [fragment], err := some err, state := fed.state }
    | none =>
      let more := feedAll fed.state rest
      { out := fed.out ++ more.out, calls := fragment :: more.calls, err := more.err
        state := more.state }

/-- Feeding two fragments one after the other is feeding them joined. -/
structure Joins (cause : ε → κ) : Prop where
  /-- An error of the first fragment is there whatever follows. -/
  fails : ∀ state first second err, (feed state first).err = some err →
    (feed state (first ++ second)).err.map cause = some (cause err)
  /-- Otherwise the second fragment is taken as if it had come at once. -/
  goesOn : ∀ state first second, (feed state first).err = none →
    (feed state (first ++ second)).err.map cause =
      (feed (feed state first).state second).err.map cause
  complete : ∀ state first second, (feed state first).err = none →
    (feed (feed state first).state second).err = none →
    (feed state (first ++ second)).out =
        (feed state first).out ++ (feed (feed state first).state second).out ∧
      (feed state (first ++ second)).state = (feed (feed state first).state second).state

/-- The consumer has nothing to do before the next element. -/
def Settled (state : σ) : Prop :=
  feed state [] = { state := state }

variable {feed} {cause : ε → κ}

theorem Joins.err_none_iff (h : Joins feed cause) (state : σ) (first second : List α)
    (hok : (feed state first).err = none) :
    (feed state (first ++ second)).err = none ↔
      (feed (feed state first).state second).err = none := by
  rw [← Option.map_eq_none_iff (f := cause), h.goesOn state first second hok,
    Option.map_eq_none_iff]

theorem Joins.settled (h : Joins feed cause) (state : σ) (fragment : List α)
    (hok : (feed state fragment).err = none) : Settled feed (feed state fragment).state := by
  have hnone : (feed (feed state fragment).state []).err = none := by
    rw [← h.err_none_iff state fragment [] hok, List.append_nil, hok]
  have hcomplete := h.complete state fragment [] hok hnone
  rw [List.append_nil] at hcomplete
  -- Joining with nothing adds nothing, so the second call gave no output.
  have hout : (feed (feed state fragment).state []).out = [] :=
    List.append_right_eq_self.mp hcomplete.1.symm
  have hstate := hcomplete.2.symm
  unfold Settled
  rcases hfed : feed (feed state fragment).state [] with ⟨out, err, after⟩
  rw [hfed] at hnone hout hstate
  cases hnone
  cases hout
  cases hstate
  rfl

/-- A way of cutting a stream that is taken as a whole. -/
theorem feedAll_complete (h : Joins feed cause) (state : σ) (fragments : List (List α))
    (hsettled : Settled feed state) (hok : (feed state fragments.flatten).err = none) :
    (feedAll feed state fragments).err = none ∧
      (feedAll feed state fragments).calls = fragments ∧
      (feedAll feed state fragments).out = (feed state fragments.flatten).out ∧
      (feedAll feed state fragments).state = (feed state fragments.flatten).state := by
  induction fragments generalizing state with
  | nil =>
    rw [List.flatten_nil, hsettled]
    exact ⟨rfl, rfl, rfl, rfl⟩
  | cons fragment rest ih =>
    rw [List.flatten_cons] at hok ⊢
    cases hfirst : (feed state fragment).err with
    | some err =>
      have hfails := h.fails state fragment rest.flatten err hfirst
      rw [hok] at hfails
      cases hfails
    | none =>
      have hsecond := (h.err_none_iff state fragment rest.flatten hfirst).mp hok
      rcases h.complete state fragment rest.flatten hfirst hsecond with ⟨hout, hstate⟩
      rcases ih _ (h.settled state fragment hfirst) hsecond with
        ⟨herr, hcalls, hrest, hafter⟩
      simp only [feedAll, hfirst, herr, hcalls, hrest, hafter, hout, hstate, and_self]

/-- A way of cutting a stream that fails: it fails for the same cause, what was fed before
    the last call is taken as a whole, and with the last call it is not. -/
theorem feedAll_failed (h : Joins feed cause) (state : σ) (fragments : List (List α))
    (hsettled : Settled feed state) (err : ε)
    (hfails : (feed state fragments.flatten).err = some err) :
    (feedAll feed state fragments).err.map cause = some (cause err) ∧
      (feedAll feed state fragments).calls <+: fragments ∧
      (feed state (feedAll feed state fragments).calls.dropLast.flatten).err = none ∧
      (feed state (feedAll feed state fragments).calls.flatten).err ≠ none := by
  induction fragments generalizing state err with
  | nil =>
    rw [List.flatten_nil, hsettled] at hfails
    cases hfails
  | cons fragment rest ih =>
    rw [List.flatten_cons] at hfails
    cases hfirst : (feed state fragment).err with
    | some first =>
      have hsame := h.fails state fragment rest.flatten first hfirst
      rw [hfails] at hsame
      simp only [feedAll, hfirst, List.flatten_cons, List.flatten_nil, List.append_nil,
        List.dropLast_singleton]
      refine ⟨hsame.symm, ⟨rest, rfl⟩, ?_, ?_⟩
      · rw [hsettled]
      · exact Option.some_ne_none first
    | none =>
      have hsame := h.goesOn state fragment rest.flatten hfirst
      rw [hfails] at hsame
      rcases Option.map_eq_some_iff.mp hsame.symm with ⟨second, hsecond, hcause⟩
      rcases ih _ (h.settled state fragment hfirst) second hsecond with
        ⟨herr, hcalls, hbefore, hfailed⟩
      -- The failed call is one of the later ones, so the last call is among them.
      have hne : (feedAll feed (feed state fragment).state rest).calls ≠ [] := by
        intro hnil
        rw [hnil, List.flatten_nil, h.settled state fragment hfirst] at hfailed
        exact hfailed rfl
      simp only [feedAll, hfirst]
      refine ⟨herr.trans (congrArg some hcause), ?_, ?_, ?_⟩
      · exact List.cons_prefix_cons.mpr ⟨rfl, hcalls⟩
      · rw [List.dropLast_cons_of_ne_nil hne, List.flatten_cons,
          h.err_none_iff state fragment _ hfirst]
        exact hbefore
      · rw [List.flatten_cons, ne_eq, h.err_none_iff state fragment _ hfirst]
        exact hfailed

theorem Joins.fails_take (h : Joins feed cause) (state : σ) (stream : List α) (fewer more : Nat)
    (hle : fewer ≤ more) (hfails : (feed state (stream.take fewer)).err ≠ none) :
    (feed state (stream.take more)).err ≠ none := by
  rcases Option.ne_none_iff_exists'.mp hfails with ⟨err, herr⟩
  have htake : stream.take fewer ++ (stream.drop fewer).take (more - fewer) =
      stream.take more := by
    rw [← List.take_add, Nat.add_sub_of_le hle]
  have hsame := h.fails state _ ((stream.drop fewer).take (more - fewer)) err herr
  rw [htake] at hsame
  intro hnone
  rw [hnone] at hsame
  cases hsame

theorem take_of_calls {calls fragments : List (List α)} (h : calls <+: fragments) :
    fragments.flatten.take calls.flatten.length = calls.flatten := by
  rcases h with ⟨rest, rfl⟩
  rw [List.flatten_append, List.take_left]

/-- If a stream fails as a whole, one of its elements is the one at which every way of
    cutting it fails. -/
theorem feedAll_fails (h : Joins feed cause) (state : σ) (stream : List α)
    (hsettled : Settled feed state) (err : ε) (hfails : (feed state stream).err = some err) :
    ∃ position < stream.length, ∀ fragments : List (List α), fragments.flatten = stream →
      (feedAll feed state fragments).err.map cause = some (cause err) ∧
        (feedAll feed state fragments).calls.dropLast.flatten.length ≤ position ∧
        position < (feedAll feed state fragments).calls.flatten.length := by
  -- The element is the last one of the shortest start of the stream that fails.
  have hsome : ∃ count, (feed state (stream.take count)).err ≠ none := by
    refine ⟨stream.length, ?_⟩
    rw [List.take_length, hfails]
    exact Option.some_ne_none err
  have hfirst := Nat.find_spec hsome
  have hpositive : Nat.find hsome ≠ 0 := by
    intro hzero
    rw [hzero, List.take_zero, hsettled] at hfirst
    exact hfirst rfl
  have hbound : Nat.find hsome ≤ stream.length := by
    refine Nat.find_min' hsome ?_
    rw [List.take_length, hfails]
    exact Option.some_ne_none err
  refine ⟨Nat.find hsome - 1, by omega, ?_⟩
  rintro fragments rfl
  rcases feedAll_failed h state fragments hsettled err hfails with
    ⟨hcause, hcalls, hbefore, hfailed⟩
  have hearlier := List.dropLast_prefix (feedAll feed state fragments).calls
  refine ⟨hcause, ?_, ?_⟩
  · by_contra hlate
    refine h.fails_take state fragments.flatten _
      (feedAll feed state fragments).calls.dropLast.flatten.length (by omega) hfirst ?_
    rw [take_of_calls (hearlier.trans hcalls), hbefore]
  · have hleast := Nat.find_min' hsome
      (m := (feedAll feed state fragments).calls.flatten.length) (by rwa [take_of_calls hcalls])
    omega

end

end HelianthusModbus
