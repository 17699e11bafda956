import Mathlib.Tactic.SplitIfs
import Mathlib.Tactic.Push

/-!
# Chains of Checks

A validator is a chain of checks, each of which refuses with its own error. What it accepts
is what passes every check.

## Theorems

* `ite_error_eq_ok`: One check of a chain.
-/

theorem ite_error_eq_ok {ε α : Type} {p : Prop} [Decidable p] {err : ε} {rest : Except ε α}
    {value : α} : (if p then .error err else rest) = Except.ok value ↔ ¬p ∧ rest = .ok value := by
  split_ifs with h <;> simp [h]
