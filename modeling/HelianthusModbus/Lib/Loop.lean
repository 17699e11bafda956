import Mathlib.Data.List.Basic

/-!
# Measured Loops

A loop of an imperative program, as a function on the values of its variables: each turn
ends the loop with a result or goes on with new values. A size that every turn makes
smaller is part of the loop, so running it needs no fuel.

## Main definitions

* `Loop`: The body of a loop and its size.
* `Loop.run`: The result of the loop.

## Theorems

* `run_done`, `run_next`: The first turn of a run.
* `run_induction`: The invariant rule for the result.
* `visits_induction`: The invariant rule for every turn.
-/

namespace HelianthusModbus

/-- A loop: one turn, and a size that gets smaller with every turn that goes on. -/
structure Loop (σ ρ : Type) where
  turn : σ → ρ ⊕ σ
  size : σ → Nat
  shrinks : ∀ state next, turn state = .inr next → size next < size state

namespace Loop

variable {σ ρ : Type} (L : Loop σ ρ)

/-- The result of the loop from a state. -/
def run (state : σ) : ρ :=
  match _h : L.turn state with
  | .inl result => result
  | .inr next => run next
termination_by L.size state
decreasing_by exact L.shrinks _ _ _h

theorem run_done (state : σ) (result : ρ) (h : L.turn state = .inl result) :
    L.run state = result := by
  rw [run]
  split
  next other hother =>
    rw [h] at hother
    cases hother
    rfl
  next next hnext =>
    rw [h] at hnext
    cases hnext

theorem run_next (state next : σ) (h : L.turn state = .inr next) :
    L.run state = L.run next := by
  rw [run]
  split
  next result hresult =>
    rw [h] at hresult
    cases hresult
  next other hother =>
    rw [h] at hother
    cases hother
    rfl

/-- The states at the head of a turn. -/
inductive Visits : σ → σ → Prop
  | head (state : σ) : Visits state state
  | later (state next visited : σ) : L.turn state = .inr next → Visits next visited →
      Visits state visited

/-- What holds at the start and is kept by a turn gives what the last turn makes of it. -/
theorem run_induction (invariant : σ → Prop) (post : ρ → Prop)
    (hnext : ∀ state next, invariant state → L.turn state = .inr next → invariant next)
    (hdone : ∀ state result, invariant state → L.turn state = .inl result → post result)
    (state : σ) (h : invariant state) : post (L.run state) := by
  -- Strong induction on the size, since a turn may shrink it by more than one.
  induction hsize : L.size state using Nat.strongRecOn generalizing state with
  | _ size ih =>
    cases hturn : L.turn state with
    | inl result =>
      rw [L.run_done state result hturn]
      exact hdone state result h hturn
    | inr next =>
      rw [L.run_next state next hturn]
      exact ih (L.size next) (hsize ▸ L.shrinks state next hturn) next
        (hnext state next h hturn) rfl

theorem visits_induction (invariant : σ → Prop)
    (hnext : ∀ state next, invariant state → L.turn state = .inr next → invariant next)
    (state visited : σ) (hvisits : L.Visits state visited) (h : invariant state) :
    invariant visited := by
  induction hvisits with
  | head state => exact h
  | later state next visited hturn _ ih => exact ih (hnext state next h hturn)

end Loop

end HelianthusModbus
