import Mathlib.Data.List.Rotate

/-!
# Rings with a Cursor

Round robin over a list that changes while it is served.

A ring is a list with a cursor, and `List.rotate` reads it from the cursor on. Serving
takes the first element that passes a test and puts the cursor behind it, so that what
was passed over and the served element come last. Removing an element takes it out of
the rotation and leaves the rest in place. A new element goes to the end of the list,
and that is the end of the rotation only while the cursor stands at the beginning.

`Leads l b a` says that `b` comes before any `a` in the rotation. It is what makes a
round fair: as long as it holds and `b` passes the test, `a` is not served before `b`.

## Main definitions

* `Leads`: One element comes before another.

## Theorems

* `not_found_of_leads`: The later element is not served while the earlier one passes.
* `leads_served`, `leads_of_served`: What serving does to the order.
* `Leads.sublist`, `leads_inserted`: What removing and adding elements do.
-/

namespace HelianthusModbus

variable {α : Type}

/-- The element `b` is in the list and no `a` comes before it. -/
def Leads (l : List α) (b a : α) : Prop :=
  ∃ front back, l = front ++ b :: back ∧ a ∉ front ∧ b ∉ front

theorem Leads.mem {l : List α} {b a : α} (h : Leads l b a) : b ∈ l := by
  obtain ⟨front, back, rfl, -, -⟩ := h
  exact List.mem_append_right _ List.mem_cons_self

/-- Nothing that is not in the list comes before an element. -/
theorem leads_of_absent {l : List α} {b a : α} (hb : b ∈ l) (ha : a ∉ l) : Leads l b a := by
  obtain ⟨front, back, rfl, hfirst⟩ := List.eq_append_cons_of_mem hb
  exact ⟨front, back, rfl, fun hmem => ha (List.mem_append_left _ hmem), hfirst⟩

/-- Removing other elements keeps the order. -/
theorem Leads.sublist {l l' : List α} {b a : α} (h : Leads l b a) (hsub : l'.Sublist l)
    (hnodup : l.Nodup) (hb : b ∈ l') : Leads l' b a := by
  obtain ⟨front, back, rfl, ha, hfront⟩ := h
  obtain ⟨first, second, rfl, hfirst, hsecond⟩ := List.sublist_append_iff.mp hsub
  rcases List.mem_append.mp hb with hin | hin
  · exact absurd (hfirst.subset hin) hfront
  · -- The element stands once, at the head of the second part.
    cases hsecond with
    | cons _ hrest =>
      have hback := (List.nodup_cons.mp (List.nodup_append.mp hnodup).2.1).1
      exact absurd (hrest.subset hin) hback
    | cons_cons _ hrest =>
      exact ⟨first, _, rfl, fun hin => ha (hfirst.subset hin),
        fun hin => hfront (hfirst.subset hin)⟩

/-- Adding an element keeps the order, unless it is `a` in front of `b`. -/
theorem leads_inserted (first second : List α) (b a z : α)
    (hz : z ≠ b) (hplace : z = a → b ∈ first) (h : Leads (first ++ second) b a) :
    Leads (first ++ z :: second) b a := by
  obtain ⟨front, back, hsplit, ha, hb⟩ := h
  rcases List.append_eq_append_iff.mp hsplit with ⟨more, hfront, hsecond⟩ | ⟨more, hfirst, hback⟩
  · -- The element `b` stands behind the place of `z`.
    refine ⟨first ++ z :: more, back, ?_, ?_, ?_⟩
    · rw [hsecond, List.append_assoc, List.cons_append]
    · rw [hfront] at ha hb
      simp only [List.mem_append, List.mem_cons, not_or] at ha hb ⊢
      refine ⟨ha.1, fun hza => ?_, ha.2⟩
      exact hb.1 (hplace hza.symm)
    · rw [hfront] at hb
      simp only [List.mem_append, List.mem_cons, not_or] at hb ⊢
      exact ⟨hb.1, fun hbz => hz hbz.symm, hb.2⟩
  · -- The list `more` starts with `b`, or is empty and `b` is the head of the second part.
    cases more with
    | nil =>
      rw [List.append_nil] at hfirst
      rw [List.nil_append] at hback
      refine ⟨front ++ [z], back, ?_, ?_, ?_⟩
      · rw [hfirst, ← hback, List.append_assoc, List.singleton_append]
      · rw [List.mem_append, List.mem_singleton]
        rintro (hin | rfl)
        · exact ha hin
        · exact hb (hfirst ▸ hplace rfl)
      · rw [List.mem_append, List.mem_singleton]
        rintro (hin | rfl)
        · exact hb hin
        · exact hz rfl
    | cons head more =>
      rw [List.cons_append, List.cons.injEq] at hback
      refine ⟨front, more ++ z :: second, ?_, ha, hb⟩
      rw [hfirst, ← hback.1, List.append_assoc, List.cons_append]

section Serving

variable (p : α → Bool) (passed rest : List α) (x b a : α)

/-- As long as `b` leads and passes the test, `a` is not the first that passes. -/
theorem not_found_of_leads (l : List α) (h : Leads l b a) (hb : p b = true) (hne : a ≠ b) :
    l.find? p ≠ some a := by
  obtain ⟨front, back, rfl, ha, -⟩ := h
  intro hfind
  rw [List.find?_append] at hfind
  cases hfront : front.find? p with
  | some y =>
    rw [hfront, Option.some_or] at hfind
    cases hfind
    exact ha (List.mem_of_find?_eq_some hfront)
  | none =>
    rw [hfront, Option.none_or, List.find?_cons_of_pos hb] at hfind
    exact hne (Option.some.inj hfind).symm

/-- The served element comes last, so every other one leads it. -/
theorem leads_of_served (hnodup : (rest ++ passed ++ [x]).Nodup) (hb : b ∈ rest ++ passed) :
    Leads (rest ++ passed ++ [x]) b x := by
  obtain ⟨front, back, hsplit⟩ := List.append_of_mem hb
  have hsub : ∀ y ∈ front, y ∈ rest ++ passed := fun y hy => by
    rw [hsplit]
    exact List.mem_append_left _ hy
  refine ⟨front, back ++ [x], ?_, ?_, ?_⟩
  · rw [hsplit, List.append_assoc, List.cons_append]
  · intro hin
    exact (List.nodup_append.mp hnodup).2.2 x (hsub x hin) x (List.mem_singleton_self x) rfl
  · intro hin
    have hfirst : (front ++ b :: back).Nodup := by
      rw [← hsplit]
      exact (List.nodup_append.mp hnodup).1
    exact (List.nodup_append.mp hfirst).2.2 b hin b List.mem_cons_self rfl

/-- Serving another element keeps the order of a pair whose first element passes. -/
theorem leads_served (hpassed : ∀ y ∈ passed, p y = false) (hb : p b = true) (hx : x ≠ b)
    (h : Leads (passed ++ x :: rest) b a) : Leads (rest ++ passed ++ [x]) b a := by
  obtain ⟨front, back, hsplit, ha, hbfront⟩ := h
  have hbpassed : b ∉ passed := fun hin => by
    rw [hpassed b hin] at hb
    cases hb
  rcases List.append_eq_append_iff.mp hsplit with ⟨more, hfront, hrest⟩ | ⟨more, hin, hback⟩
  · -- What was passed over and the served element stand before `b`.
    cases more with
    | nil =>
      rw [List.nil_append, List.cons.injEq] at hrest
      exact absurd hrest.1 hx
    | cons head more =>
      rw [List.cons_append, List.cons.injEq] at hrest
      refine ⟨more, back ++ (passed ++ [x]), ?_, ?_, ?_⟩
      · rw [hrest.2]
        simp only [List.append_assoc, List.cons_append]
      · intro hmore
        exact ha (by rw [hfront]; simp only [List.mem_append, List.mem_cons, hmore, or_true])
      · intro hmore
        exact hbfront (by
          rw [hfront]; simp only [List.mem_append, List.mem_cons, hmore, or_true])
  · -- Otherwise `b` was passed over, although it passes the test.
    cases more with
    | nil =>
      rw [List.nil_append, List.cons.injEq] at hback
      exact absurd hback.1.symm hx
    | cons head more =>
      rw [List.cons_append, List.cons.injEq] at hback
      exact absurd (by rw [hin, hback.1]; simp) hbpassed

end Serving

/-- Continuing behind an element of a rotation moves it and all before it to the end. -/
theorem rotate_after (l passed rest : List α) (x : α) (n : Nat)
    (h : l.rotate n = passed ++ x :: rest) :
    l.rotate (n + (passed.length + 1)) = rest ++ passed ++ [x] := by
  rw [← List.rotate_rotate, h]
  have hsplit : passed ++ x :: rest = (passed ++ [x]) ++ rest := by
    rw [List.append_assoc, List.singleton_append]
  have hlength : passed.length + 1 = (passed ++ [x]).length := by
    rw [List.length_append, List.length_singleton]
  rw [hsplit, hlength, List.rotate_append_length_eq, List.append_assoc]

end HelianthusModbus
