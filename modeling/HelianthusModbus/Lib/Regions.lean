import HelianthusModbus.Lib.Table

/-!
# Programs over Regions

Programs that share a state and touch it only inside atomic regions.

A program is a tree: it either returns, or performs one region and goes on with the
answer. What a region does to the state is said elsewhere.

## Main definitions

* `Prog`: A program over regions.
-/

namespace HelianthusModbus

/-- A program over the regions `Op`, where `Ar op` is the answer of the region `op`. -/
inductive Prog {Op : Type} (Ar : Op → Type) (α : Type) where
  | ret (a : α)
  | act (op : Op) (next : Ar op → Prog Ar α)

namespace Prog

variable {Op : Type} {Ar : Op → Type} {α β : Type}

/-- Running one program after another. -/
def bind : Prog Ar α → (α → Prog Ar β) → Prog Ar β
  | ret a, f => f a
  | act op next, f => act op fun reply => (next reply).bind f

instance : Monad (Prog Ar) where
  pure := ret
  bind := bind

/-- The program that performs a single region. -/
def perform (op : Op) : Prog Ar (Ar op) := act op ret

/-- A program that runs only under a condition. -/
def when (b : Bool) (p : Prog Ar Unit) : Prog Ar Unit := if b then p else ret ()

/-- A program for each element of a list, in order, with their answers. -/
def each (f : α → Prog Ar β) : List α → Prog Ar (List β)
  | [] => ret []
  | a :: rest => (f a).bind fun b => (each f rest).bind fun bs => ret (b :: bs)

end Prog

/-- A class of programs that contains the ones that do nothing and is closed under
    running one after another. -/
structure ProgramClass {Op : Type} {Ar : Op → Type} (C : (α : Type) → Prog Ar α → Prop) :
    Prop where
  ret : ∀ {α : Type} (a : α), C α (.ret a)
  bind : ∀ {α β : Type} (p : Prog Ar α) (f : α → Prog Ar β),
    C α p → (∀ a, C β (f a)) → C β (p.bind f)

namespace ProgramClass

variable {Op : Type} {Ar : Op → Type} {α β : Type} {C : (α : Type) → Prog Ar α → Prop}

theorem when (hC : ProgramClass C) (b : Bool) (p : Prog Ar Unit) (hp : C Unit p) :
    C Unit (Prog.when b p) := by
  cases b with
  | false => exact hC.ret ()
  | true => exact hp

theorem each (hC : ProgramClass C) (f : α → Prog Ar β) (items : List α)
    (hf : ∀ a ∈ items, C β (f a)) : C (List β) (Prog.each f items) := by
  induction items with
  | nil => exact hC.ret []
  | cons a rest ih =>
    refine hC.bind _ _ (hf a List.mem_cons_self) (fun b => ?_)
    exact hC.bind _ _ (ih fun a' ha' => hf a' (List.mem_cons_of_mem a ha'))
      (fun bs => hC.ret (b :: bs))

end ProgramClass

end HelianthusModbus
