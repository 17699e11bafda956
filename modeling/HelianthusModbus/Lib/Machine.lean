import HelianthusModbus.Lib.Table

/-!
# Machines of Threads

Calls that share a state, where each is a machine of its own.

A call in progress is in a phase, which has all its local variables. A step takes one call
from its phase to the next, with an input from outside, and may change the shared state;
it stands for a piece of code that no other call can interrupt. Loops are phases that a
call comes back to, so nothing bounds how long a call lasts. Any number of calls run at
once and every step picks one of them, so a fact about all runs is a fact about all
interleavings.

An invariant of the shared state often depends on where the calls are: a flag is set
exactly while some call is in certain phases. Such phases have a weight, and `apply_weighs`
carries a relation between the shared state and the sum of all weights from the step of a
call to every command, and so with `run_induction` to every run.

## Main definitions

* `Machine`: How calls start and proceed.
* `Machine.State`, `Machine.Command`: The state of a run, and one step of it.
* `Machine.apply`, `Machine.run`: The effect of a command and of a list of commands.
* `Machine.Meets`, `Machine.OnStep`: Every command of a run meets a condition, and the
  condition on the steps only.
* `Machine.Sometime`, `Machine.Throughout`: Some command of a run, and every state of it.

## Theorems

* `Machine.run_append`, `Machine.meets_append`, `Machine.sometime_append`,
  `Machine.throughout_append`: A run in two parts.
* `Machine.run_induction`, `Machine.run_invariant`: A fact every command keeps holds after
  every run.
* `Machine.effect_of_apply`: The inversion of a command.
* `Machine.run_call`: A call that is not interrupted runs as it does alone.
* `Machine.unique_of_total_le_one`: At most one call has a weight.
-/

namespace HelianthusModbus

/-- How calls start and proceed. A call that is `done` does not proceed. -/
structure Machine (σ Call Phase In : Type) where
  start : Call → Phase
  advance : Call → In → Phase → σ → Option (Phase × σ)
  done : Phase → Bool

namespace Machine

variable {σ Call Phase In : Type}

/-- The state of a run: the calls in progress, by a number each. -/
structure State (σ Call Phase : Type) where
  shared : σ
  threads : Table Nat (Call × Phase) := ∅

/-- One step of a run. -/
inductive Command (Call In : Type) where
  | start (tid : Nat) (call : Call)
  | step (tid : Nat) (input : In)

/-- The number of the call a command is about. -/
def Command.tid : Command Call In → Nat
  | .start tid _ => tid
  | .step tid _ => tid

/-- The condition holds for the step a command takes, if it is a step. -/
def OnStep (condition : σ → Call → Phase → In → Prop) (state : State σ Call Phase) :
    Command Call In → Prop
  | .start _ _ => True
  | .step tid input =>
    ∀ thread ∈ state.threads.lookup tid, condition state.shared thread.1 thread.2 input

instance (condition : σ → Call → Phase → In → Prop)
    [∀ shared call phase input, Decidable (condition shared call phase input)]
    (state : State σ Call Phase) (command : Command Call In) :
    Decidable (OnStep condition state command) :=
  match command with
  | .start _ _ => .isTrue trivial
  | .step tid input => inferInstanceAs (Decidable (∀ thread ∈ state.threads.lookup tid,
      condition state.shared thread.1 thread.2 input))

variable (M : Machine σ Call Phase In)

/-- The effect of a command, if it is possible. A number is free again once its call is
    done. -/
def apply (state : State σ Call Phase) : Command Call In → Option (State σ Call Phase)
  | .start tid call =>
    match state.threads.lookup tid with
    | none => some { state with threads := state.threads.insert tid (call, M.start call) }
    | some (_, phase) =>
      if M.done phase then
        some { state with threads := state.threads.insert tid (call, M.start call) }
      else none
  | .step tid input =>
    match state.threads.lookup tid with
    | none => none
    | some (call, phase) =>
      match M.advance call input phase state.shared with
      | none => none
      | some (phase, shared) =>
        some { shared := shared, threads := state.threads.insert tid (call, phase) }

/-- The effect of a list of commands. -/
def run (state : State σ Call Phase) : List (Command Call In) → Option (State σ Call Phase)
  | [] => some state
  | command :: rest =>
    match M.apply state command with
    | none => none
    | some next => run next rest

/-- Every command of a run meets a condition on the state it is taken in. -/
def Meets (allowed : State σ Call Phase → Command Call In → Prop)
    (state : State σ Call Phase) : List (Command Call In) → Prop
  | [] => True
  | command :: rest =>
    allowed state command ∧
      match M.apply state command with
      | none => True
      | some next => Meets allowed next rest

instance decidableMeets (allowed : State σ Call Phase → Command Call In → Prop)
    [∀ state command, Decidable (allowed state command)] : (state : State σ Call Phase) →
    (commands : List (Command Call In)) → Decidable (M.Meets allowed state commands)
  | _, [] => .isTrue trivial
  | state, command :: rest =>
    have : Decidable (match M.apply state command with
        | none => True
        | some next => M.Meets allowed next rest) :=
      match M.apply state command with
      | none => .isTrue trivial
      | some next => decidableMeets allowed next rest
    inferInstanceAs (Decidable (allowed state command ∧ _))

/-- Some command of a run passes a test in the state it is taken in. -/
def Sometime (test : State σ Call Phase → Command Call In → Bool)
    (state : State σ Call Phase) : List (Command Call In) → Prop
  | [] => False
  | command :: rest =>
    test state command = true ∨
      match M.apply state command with
      | none => False
      | some next => Sometime test next rest

instance decidableSometime (test : State σ Call Phase → Command Call In → Bool) :
    (state : State σ Call Phase) → (commands : List (Command Call In)) →
    Decidable (M.Sometime test state commands)
  | _, [] => .isFalse fun h => h
  | state, command :: rest =>
    have : Decidable (match M.apply state command with
        | none => False
        | some next => M.Sometime test next rest) :=
      match M.apply state command with
      | none => .isFalse fun h => h
      | some next => decidableSometime test next rest
    inferInstanceAs (Decidable (test state command = true ∨ _))

/-- Every state of a run has a property, the first and the last included. -/
def Throughout (fact : State σ Call Phase → Prop) (state : State σ Call Phase) :
    List (Command Call In) → Prop
  | [] => fact state
  | command :: rest =>
    fact state ∧
      match M.apply state command with
      | none => True
      | some next => Throughout fact next rest

/-- A call that is not interrupted, by the inputs of its steps. -/
def solo (call : Call) (phase : Phase) (shared : σ) : List In → Option (Phase × σ)
  | [] => some (phase, shared)
  | input :: rest =>
    match M.advance call input phase shared with
    | none => none
    | some (phase, shared) => solo call phase shared rest

/-- What a command does: a call starts under a free number, or one call takes a step. -/
inductive Effect (state : State σ Call Phase) :
    Command Call In → State σ Call Phase → Prop where
  | start (tid : Nat) (call : Call) :
      (∀ old ∈ state.threads.lookup tid, M.done old.2 = true) →
        Effect state (.start tid call)
          { state with threads := state.threads.insert tid (call, M.start call) }
  | step (tid : Nat) (input : In) (call : Call) (phase after : Phase) (shared : σ) :
      state.threads.lookup tid = some (call, phase) →
        M.advance call input phase state.shared = some (after, shared) →
        Effect state (.step tid input)
          { shared := shared, threads := state.threads.insert tid (call, after) }

variable {M} {allowed : State σ Call Phase → Command Call In → Prop}

theorem effect_of_apply (state next : State σ Call Phase) (command : Command Call In)
    (h : M.apply state command = some next) : M.Effect state command next := by
  cases command with
  | start tid call =>
    simp only [apply] at h
    split at h
    · next hlook =>
      cases h
      exact .start tid call fun old hold => by simp [hlook] at hold
    · next call' phase hlook =>
      split at h <;> cases h
      next hdone =>
        refine .start tid call fun old hold => ?_
        rw [hlook, Option.mem_some_iff] at hold
        rw [← hold]
        exact hdone
  | step tid input =>
    simp only [apply] at h
    split at h
    · cases h
    · next call phase hlook =>
      split at h <;> cases h
      next after shared hadvance => exact .step tid input call phase after shared hlook hadvance

theorem run_append (state : State σ Call Phase) (before after : List (Command Call In)) :
    M.run state (before ++ after) = (M.run state before).bind fun next => M.run next after := by
  induction before generalizing state with
  | nil => rfl
  | cons command rest ih =>
    simp only [List.cons_append, run]
    cases M.apply state command with
    | none => rfl
    | some next => exact ih next

theorem run_cons {state after : State σ Call Phase} {command : Command Call In}
    {rest : List (Command Call In)} (h : M.run state (command :: rest) = some after) :
    ∃ next, M.apply state command = some next ∧ M.run next rest = some after := by
  simp only [run] at h
  split at h
  · cases h
  · next next happly => exact ⟨next, happly, h⟩

theorem run_append_cons (state middle after : State σ Call Phase)
    (before since : List (Command Call In)) (command : Command Call In)
    (hbefore : M.run state before = some middle)
    (hrun : M.run state (before ++ command :: since) = some after) :
    ∃ next, M.apply middle command = some next ∧ M.run next since = some after := by
  rw [run_append, hbefore, Option.bind_some] at hrun
  exact run_cons hrun

theorem meets_append (state next : State σ Call Phase) (before after : List (Command Call In))
    (hrun : M.run state before = some next) :
    M.Meets allowed state (before ++ after) ↔
      M.Meets allowed state before ∧ M.Meets allowed next after := by
  induction before generalizing state with
  | nil =>
    cases hrun
    simp [Meets]
  | cons command rest ih =>
    rcases run_cons hrun with ⟨middle, happly, hrest⟩
    simp only [List.cons_append, Meets, happly, ih middle hrest, and_assoc]

theorem meets_append_cons (state middle next : State σ Call Phase)
    (before since : List (Command Call In)) (command : Command Call In)
    (hbefore : M.run state before = some middle) (happly : M.apply middle command = some next)
    (h : M.Meets allowed state (before ++ command :: since)) :
    M.Meets allowed state before ∧ allowed middle command ∧ M.Meets allowed next since := by
  rw [meets_append _ _ _ _ hbefore] at h
  simp only [Meets, happly] at h
  exact h

theorem sometime_append (test : State σ Call Phase → Command Call In → Bool)
    (state next : State σ Call Phase) (before after : List (Command Call In))
    (hrun : M.run state before = some next) :
    M.Sometime test state (before ++ after) ↔
      M.Sometime test state before ∨ M.Sometime test next after := by
  induction before generalizing state with
  | nil =>
    cases hrun
    simp [Sometime]
  | cons command rest ih =>
    rcases run_cons hrun with ⟨middle, happly, hrest⟩
    simp [Sometime, happly, ih middle hrest, or_assoc]

theorem throughout_head (fact : State σ Call Phase → Prop) (state : State σ Call Phase)
    (commands : List (Command Call In)) (h : M.Throughout fact state commands) : fact state := by
  cases commands with
  | nil => exact h
  | cons command rest => exact h.1

theorem throughout_append (fact : State σ Call Phase → Prop) (state next : State σ Call Phase)
    (before after : List (Command Call In)) (hrun : M.run state before = some next)
    (h : M.Throughout fact state (before ++ after)) :
    M.Throughout fact state before ∧ M.Throughout fact next after := by
  induction before generalizing state with
  | nil =>
    cases hrun
    exact ⟨throughout_head fact _ after h, h⟩
  | cons command rest ih =>
    rcases run_cons hrun with ⟨middle, happly, hrest⟩
    simp only [List.cons_append, Throughout, happly] at h ⊢
    exact ⟨⟨h.1, (ih middle hrest h.2).1⟩, (ih middle hrest h.2).2⟩

theorem throughout_last (fact : State σ Call Phase → Prop) (state after : State σ Call Phase)
    (commands : List (Command Call In)) (hrun : M.run state commands = some after)
    (h : M.Throughout fact state commands) : fact after := by
  rw [← List.append_nil commands] at h
  exact (throughout_append fact state after commands [] hrun h).2

/-- A fact that every allowed command keeps holds after every allowed run. -/
theorem run_induction (fact : State σ Call Phase → Prop)
    (hstep : ∀ state command next, fact state → allowed state command →
      M.apply state command = some next → fact next)
    (commands : List (Command Call In)) (state after : State σ Call Phase) (hfact : fact state)
    (hmeets : M.Meets allowed state commands) (hrun : M.run state commands = some after) :
    fact after := by
  induction commands generalizing state with
  | nil =>
    cases hrun
    exact hfact
  | cons command rest ih =>
    rcases run_cons hrun with ⟨next, happly, hrest⟩
    simp only [Meets, happly] at hmeets
    exact ih next (hstep state command next hfact hmeets.1 happly) hmeets.2 hrest

theorem run_invariant (fact : State σ Call Phase → Prop)
    (hstep : ∀ state command next, fact state → M.apply state command = some next → fact next)
    (commands : List (Command Call In)) (state after : State σ Call Phase) (hfact : fact state)
    (hrun : M.run state commands = some after) : fact after := by
  have hall : M.Meets (fun _ _ => True) state commands := by
    clear hfact hrun
    induction commands generalizing state with
    | nil => trivial
    | cons command rest ih =>
      refine ⟨trivial, ?_⟩
      split
      · trivial
      · exact ih _
  exact run_induction fact (fun state command next h _ => hstep state command next h) commands
    state after hfact hall hrun

section Weights

variable {W : Type} [AddCommMonoid W] (weight : Phase → W)

/-- The sum of the weights of all calls. -/
def total (state : State σ Call Phase) : W := state.threads.sum fun _ thread => weight thread.2

/-- Replacing one call, or starting one, changes only its own weight. -/
theorem total_insert (state : State σ Call Phase) (shared : σ) (tid : Nat) (call : Call)
    (phase : Phase) :
    total weight { shared := shared, threads := state.threads.insert tid (call, phase) } =
      weight phase + Table.sum (fun _ thread => weight thread.2) (state.threads.erase tid) := by
  simp [total, Table.sum_insert_eq]

theorem total_of_lookup (state : State σ Call Phase) (tid : Nat) (call : Call) (phase : Phase)
    (h : state.threads.lookup tid = some (call, phase)) :
    total weight state =
      weight phase + Table.sum (fun _ thread => weight thread.2) (state.threads.erase tid) := by
  have hsum := Table.sum_erase (fun _ thread => weight thread.2) state.threads tid
  rw [h, Option.elim_some, add_comm] at hsum
  exact hsum.symm

theorem total_of_none (state : State σ Call Phase) (tid : Nat)
    (h : state.threads.lookup tid = none) :
    total weight state = Table.sum (fun _ thread => weight thread.2) (state.threads.erase tid) := by
  have hsum := Table.sum_erase (fun _ thread => weight thread.2) state.threads tid
  rw [h, Option.elim_none, add_zero] at hsum
  exact hsum.symm

/-- An additive image of the weights sums up to the image of the total. -/
theorem total_map {V : Type} [AddCommMonoid V] (f : W →+ V) (state : State σ Call Phase) :
    total (fun phase => f (weight phase)) state = f (total weight state) := by
  unfold total Table.sum
  rw [map_list_sum, List.map_map]
  rfl

variable (inv : σ → W → Prop)

/-- A relation between the shared state and the total weight, which every step of a call
    keeps whatever the others weigh, is kept by every command. -/
theorem apply_weighs (hstart : ∀ call, weight (M.start call) = 0)
    (hdone : ∀ phase, M.done phase = true → weight phase = 0)
    (state next : State σ Call Phase) (command : Command Call In)
    (hstep : ∀ tid input call phase phase' shared' rest, command = .step tid input →
      state.threads.lookup tid = some (call, phase) →
      inv state.shared (weight phase + rest) →
      M.advance call input phase state.shared = some (phase', shared') →
      inv shared' (weight phase' + rest))
    (hinv : inv state.shared (total weight state))
    (happly : M.apply state command = some next) : inv next.shared (total weight next) := by
  cases effect_of_apply state next command happly with
  | start tid call hfree =>
    rw [total_insert, hstart, zero_add]
    cases hlook : state.threads.lookup tid with
    | none => rwa [total_of_none weight state tid hlook] at hinv
    | some old =>
      rwa [total_of_lookup weight state tid old.1 old.2 hlook, hdone old.2 (hfree old hlook),
        zero_add] at hinv
  | step tid input call phase after shared hlook hadvance =>
    rw [total_of_lookup weight state tid call phase hlook] at hinv
    rw [total_insert]
    exact hstep tid input call phase after shared _ rfl hlook hinv hadvance

end Weights

/-- A fact about each call, which its own steps and those of all others keep, is kept by
    every command. -/
theorem apply_each (fact : σ → Call → Phase → Prop)
    (hstart : ∀ shared call, fact shared call (M.start call))
    (state next : State σ Call Phase) (command : Command Call In)
    (hstep : ∀ tid input call phase after shared, command = .step tid input →
      state.threads.lookup tid = some (call, phase) → fact state.shared call phase →
      M.advance call input phase state.shared = some (after, shared) →
      fact shared call after ∧
        ∀ other waiting, fact state.shared other waiting → fact shared other waiting)
    (heach : ∀ tid thread, state.threads.lookup tid = some thread →
      fact state.shared thread.1 thread.2)
    (happly : M.apply state command = some next) :
    ∀ tid thread, next.threads.lookup tid = some thread →
      fact next.shared thread.1 thread.2 := by
  intro tid' thread hlook'
  cases effect_of_apply state next command happly with
  | start tid call hfree =>
    rcases Table.lookup_insert_some hlook' with ⟨_, rfl⟩ | ⟨_, hother⟩
    · exact hstart _ call
    · exact heach tid' thread hother
  | step tid input call phase after shared hlook hadvance =>
    have hmoved := hstep tid input call phase after shared rfl hlook (heach tid _ hlook) hadvance
    rcases Table.lookup_insert_some hlook' with ⟨_, rfl⟩ | ⟨_, hother⟩
    · exact hmoved.1
    · exact hmoved.2 _ _ (heach tid' thread hother)

theorem run_solo (state : State σ Call Phase) (tid : Nat) (call : Call) (phase after : Phase)
    (shared : σ) (inputs : List In) (hlook : state.threads.lookup tid = some (call, phase))
    (hsolo : M.solo call phase state.shared inputs = some (after, shared)) :
    ∃ threads, M.run state (inputs.map (.step tid)) =
        some { shared := shared, threads := threads } ∧
      threads.lookup tid = some (call, after) ∧
      ∀ other, other ≠ tid → threads.lookup other = state.threads.lookup other := by
  induction inputs generalizing state phase with
  | nil =>
    cases hsolo
    exact ⟨state.threads, rfl, hlook, fun _ _ => rfl⟩
  | cons input rest ih =>
    simp only [solo] at hsolo
    cases hadvance : M.advance call input phase state.shared with
    | none => simp [hadvance] at hsolo
    | some moved =>
      rw [hadvance] at hsolo
      rcases ih { shared := moved.2, threads := state.threads.insert tid (call, moved.1) }
        moved.1 (AList.lookup_insert _) hsolo with ⟨threads, hrun, hafter, hothers⟩
      refine ⟨threads, ?_, hafter, fun other hother => ?_⟩
      · simp only [List.map_cons, run, apply, hlook, hadvance]
        exact hrun
      · rw [hothers other hother, AList.lookup_insert_ne hother]

/-- A whole call under a free number, not interrupted by others. -/
theorem run_call (state : State σ Call Phase) (tid : Nat) (call : Call) (after : Phase)
    (shared : σ) (inputs : List In)
    (hfree : ∀ old ∈ state.threads.lookup tid, M.done old.2 = true)
    (hsolo : M.solo call (M.start call) state.shared inputs = some (after, shared)) :
    ∃ threads, M.run state (.start tid call :: inputs.map (.step tid)) =
        some { shared := shared, threads := threads } ∧
      threads.lookup tid = some (call, after) ∧
      ∀ other, other ≠ tid → threads.lookup other = state.threads.lookup other := by
  rcases run_solo { state with threads := state.threads.insert tid (call, M.start call) } tid call
    (M.start call) after shared inputs (AList.lookup_insert _) hsolo with
    ⟨threads, hrun, hafter, hothers⟩
  refine ⟨threads, ?_, hafter, fun other hother => ?_⟩
  · simp only [run, apply]
    cases hlook : state.threads.lookup tid with
    | none => exact hrun
    | some old =>
      simp only [hfree old hlook, if_true]
      exact hrun
  · rw [hothers other hother, AList.lookup_insert_ne hother]

/-- Where the weights sum up to one at most, at most one call has a weight. -/
theorem unique_of_total_le_one (weight : Phase → Nat) (state : State σ Call Phase)
    (htotal : total weight state ≤ 1) (first second : Nat) (one other : Call × Phase)
    (hone : state.threads.lookup first = some one)
    (hother : state.threads.lookup second = some other) (hfirst : 0 < weight one.2)
    (hsecond : 0 < weight other.2) : first = second := by
  by_contra hne
  have hrest := Table.le_sum (fun _ thread => weight thread.2) (state.threads.erase first) second
    other (by rw [Table.lookup_erase_ite, if_neg (Ne.symm hne)]; exact hother)
  rw [total_of_lookup weight state first one.1 one.2 hone] at htotal
  omega

end Machine

end HelianthusModbus
