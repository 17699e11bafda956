import HelianthusModbus.Lib.Regions
import Mathlib.Logic.Relation

/-!
# One Program Among Others

The run of a single program while others change the state it works on.

A whole run of many programs says nothing about the end of one of them in particular.
Here one program is followed from its start to its end, and everything else is an
environment: between two regions of the program, and before it returns, the environment
may take any number of its own turns. What these turns can be is a parameter, so a fact
about the end of the program holds in every company that keeps to them.

A fact is carried through such a run by assertions between the regions. An assertion has
to be stable, which means that no move of the environment destroys it. `Ensures` is the
triple of such a program, and its rules follow the shape of the program. Most of a program
usually does not matter for a given fact: `Ensures.keep` passes over any program whose
regions all keep an assertion.

## Main definitions

* `Turn`, `Prog.among`: The run of a program among others.
* `Prog.wp`: What has to hold before a program for its end to satisfy an assertion.
* `Prog.Uses`: A program keeps to some regions.
* `Ensures`: From one assertion a program ends in another.

## Theorems

* `Ensures.ret`, `Ensures.act`, `Ensures.bind`, `Ensures.ite`, `Ensures.weaken`,
  `Ensures.assume`: The rules.
* `Ensures.sound`: A triple is about every run among others.
-/

namespace HelianthusModbus

/-- One step of a run: a region of the program, or a move of the environment. -/
inductive Turn (In Env : Type) where
  | own (input : In)
  | other (env : Env)

variable {Op : Type} {Ar : Op → Type} {α β σ In Env : Type}

section Semantics

variable (exec : (op : Op) → In → σ → Option (Ar op × σ)) (others : Env → σ → Option σ)

/-- The run of a program among others, as far as the turns go. -/
def Prog.among : Prog Ar α → σ → List (Turn In Env) → Option (Prog Ar α × σ)
  | p, s, [] => some (p, s)
  | p, s, .other env :: rest =>
    match others env s with
    | none => none
    | some s' => p.among s' rest
  | .ret _, _, .own _ :: _ => none
  | .act op next, s, .own input :: rest =>
    match exec op input s with
    | none => none
    | some (reply, s') => (next reply).among s' rest

/-- What the environment can turn a state into. -/
def Becomes : σ → σ → Prop := Relation.ReflTransGen fun s s' => ∃ env, others env s = some s'

/-- An assertion that no move of the environment destroys. -/
def Stable (assertion : σ → Prop) : Prop :=
  ∀ env s s', assertion s → others env s = some s' → assertion s'

/-- The states from which every run of a program among others ends in an assertion. -/
def Prog.wp : Prog Ar α → (α → σ → Prop) → σ → Prop
  | .ret a, post, s => ∀ s', Becomes others s s' → post a s'
  | .act op next, post, s => ∀ s', Becomes others s s' →
      ∀ input reply after, exec op input s' = some (reply, after) → (next reply).wp post after

/-- Every region a program can reach is allowed. -/
def Prog.Uses (allowed : Op → Prop) : Prog Ar α → Prop
  | .ret _ => True
  | .act op next => allowed op ∧ ∀ reply, (next reply).Uses allowed

/-- From every state of the first assertion, a program among others ends in the second. -/
def Ensures (pre : σ → Prop) (p : Prog Ar α) (post : α → σ → Prop) : Prop :=
  ∀ s, pre s → p.wp exec others post s

end Semantics

variable {exec : (op : Op) → In → σ → Option (Ar op × σ)} {others : Env → σ → Option σ}

theorem Stable.becomes {assertion : σ → Prop} (h : Stable others assertion) {s s' : σ}
    (hs : assertion s) (hbecomes : Becomes others s s') : assertion s' := by
  induction hbecomes with
  | refl => exact hs
  | tail _ hmove ih =>
    rcases hmove with ⟨env, hmove⟩
    exact h env _ _ ih hmove

namespace Prog

/-- The environment may move before the program does. -/
theorem wp_becomes (p : Prog Ar α) (post : α → σ → Prop) {s s' : σ}
    (h : p.wp exec others post s) (hbecomes : Becomes others s s') : p.wp exec others post s' := by
  cases p with
  | ret a => exact fun t ht => h t (hbecomes.trans ht)
  | act op next => exact fun t ht => h t (hbecomes.trans ht)

theorem wp_bind (p : Prog Ar α) (f : α → Prog Ar β) (mid : α → σ → Prop) (post : β → σ → Prop)
    (hf : ∀ a s, mid a s → (f a).wp exec others post s) :
    ∀ s, p.wp exec others mid s → (p.bind f).wp exec others post s := by
  induction p with
  | ret a => exact fun s h => hf a s (h s .refl)
  | act op next ih =>
    intro s h t ht input reply after hexec
    exact ih reply after (h t ht input reply after hexec)

theorem Uses.programClass (allowed : Op → Prop) :
    ProgramClass fun α (p : Prog Ar α) => p.Uses allowed where
  ret := fun _ => trivial
  bind := by
    intro α β p f hp hf
    induction p with
    | ret a => exact hf a
    | act op next ih => exact ⟨hp.1, fun reply => ih reply (hp.2 reply)⟩

theorem Uses.ite {allowed : Op → Prop} {p q : Prog Ar α} (c : Prop) [Decidable c]
    (hp : p.Uses allowed) (hq : q.Uses allowed) : (if c then p else q).Uses allowed := by
  split
  · exact hp
  · exact hq

/-- What holds before a program makes every run of it end well. -/
theorem wp_sound (turns : List (Turn In Env)) (p : Prog Ar α) (post : α → σ → Prop) (s t : σ)
    (a : α) (h : p.wp exec others post s)
    (hrun : p.among exec others s turns = some (.ret a, t)) : post a t := by
  induction turns generalizing p s with
  | nil =>
    cases hrun
    exact h t .refl
  | cons move rest ih =>
    cases move with
    | other env =>
      unfold among at hrun
      split at hrun
      · cases hrun
      · next s' hmove => exact ih p s' (p.wp_becomes post h (.single ⟨env, hmove⟩)) hrun
    | own input =>
      cases p with
      | ret b => cases hrun
      | act op next =>
        unfold among at hrun
        split at hrun
        · cases hrun
        · next reply s' hexec => exact ih _ s' (h s .refl input reply s' hexec) hrun

end Prog

namespace Ensures

variable {pre : σ → Prop} {post : α → σ → Prop}

theorem ret (a : α) (hstable : Stable others pre) (h : ∀ s, pre s → post a s) :
    Ensures exec others pre (.ret a) post :=
  fun _ hs s' hbecomes => h s' (hstable.becomes hs hbecomes)

theorem act (op : Op) (next : Ar op → Prog Ar α) (mid : Ar op → σ → Prop)
    (hstable : Stable others pre)
    (hop : ∀ input s reply s', pre s → exec op input s = some (reply, s') → mid reply s')
    (hnext : ∀ reply, Ensures exec others (mid reply) (next reply) post) :
    Ensures exec others pre (.act op next) post :=
  fun _ hs s' hbecomes input reply after hexec =>
    hnext reply after (hop input s' reply after (hstable.becomes hs hbecomes) hexec)

theorem bind {p : Prog Ar α} {f : α → Prog Ar β} (mid : α → σ → Prop) {post : β → σ → Prop}
    (hp : Ensures exec others pre p mid) (hf : ∀ a, Ensures exec others (mid a) (f a) post) :
    Ensures exec others pre (p.bind f) post :=
  fun s hs => p.wp_bind f mid post hf s (hp s hs)

theorem weaken {p : Prog Ar α} {pre' : σ → Prop} (h : Ensures exec others pre' p post)
    (hpre : ∀ s, pre s → pre' s) : Ensures exec others pre p post :=
  fun s hs => h s (hpre s hs)

theorem ite {p q : Prog Ar α} (c : Prop) [Decidable c] (hp : c → Ensures exec others pre p post)
    (hq : ¬c → Ensures exec others pre q post) :
    Ensures exec others pre (if c then p else q) post := by
  split
  · next hc => exact hp hc
  · next hc => exact hq hc

theorem assume {p : Prog Ar α} {fact : Prop} (h : fact → Ensures exec others pre p post) :
    Ensures exec others (fun s => pre s ∧ fact) p post :=
  fun s hs => h hs.2 s hs.1

/-- A program of regions that all keep a stable assertion keeps it. -/
theorem keep {p : Prog Ar α} {allowed : Op → Prop} (huses : p.Uses allowed)
    (hstable : Stable others pre)
    (hops : ∀ op input s reply s', allowed op → pre s → exec op input s = some (reply, s') →
      pre s') (h : ∀ a s, pre s → post a s) : Ensures exec others pre p post := by
  induction p with
  | ret a => exact ret a hstable (h a)
  | act op next ih =>
    refine act op next (fun _ => pre) hstable ?_ fun reply => ih reply (huses.2 reply)
    exact fun input s reply s' => hops op input s reply s' huses.1

theorem sound {p : Prog Ar α} (h : Ensures exec others pre p post) (turns : List (Turn In Env))
    (s t : σ) (a : α) (hs : pre s) (hrun : p.among exec others s turns = some (.ret a, t)) :
    post a t :=
  p.wp_sound turns post s t a (h s hs) hrun

end Ensures

end HelianthusModbus
