import HelianthusModbus.Core.Endpoint.Transport

/-!
# Classes of Endpoint Programs

Which regions the endpoint operations are made of.

Proofs about an operation look closely at only a few of its regions. For everything else
it is enough that the programs in question form a class closed under sequencing and that
the class contains the regions an operation performs. The structures here list these
regions, one structure for each group of programs that belong together, and the theorems
put the programs together from them.

## Main definitions

* `Concluding`, `Closing`: Concluding groups and closing connections.

## Theorems

* `mem_concludeGroup`, `mem_failTransport`, `mem_failGroups`: Concluding groups.
* `mem_closeTerminal`, `mem_closeOwner`: Closing connections.
-/

namespace HelianthusModbus

open HelianthusModbus.Action

/-- The regions that conclude a group. -/
structure Concluding (C : (α : Type) → Action α → Prop) : Prop extends ProgramClass C where
  conclude : ∀ id transition, (∀ logicalViewID, transition ≠ .cancel logicalViewID) →
    C _ (group id (.transition transition))
  giveDependents : ∀ id count, C _ (group id (.release count))
  forgetCoalesced : ∀ connection physicalRequestID,
    C _ (transport connection (.forgetCoalesced physicalRequestID))
  finish : ∀ id, C _ (scheduler (.finish id))

/-- The regions that close a connection. -/
structure Closing (C : (α : Type) → Action α → Prop) : Prop extends Concluding C where
  closeTerminal : ∀ connection, C _ (transport connection .closeTerminal)
  closeDetached : ∀ connection, C _ (transport connection .closeDetached)
  takePoolSlot : ∀ connection, C _ (owner connection .takePoolSlot)
  closeOwner : ∀ connection, C _ (owner connection .close)
  removeLease : ∀ connection, C _ (pool connection .remove)

variable {C : (α : Type) → Action α → Prop}

section Concluding

variable (hC : Concluding C)
include hC

theorem mem_giveBack (id : Nat) (reply : GroupReply) : C _ (giveBack id reply) := by
  refine hC.bind _ _ (hC.when _ _ (hC.giveDependents _ _)) (fun _ => ?_)
  cases reply.transport with
  | none => exact hC.ret ()
  | some connection => exact hC.when _ _ (hC.forgetCoalesced _ _)

theorem mem_finishScheduling (id : Nat) (reply : GroupReply) :
    C _ (finishScheduling id reply) := by
  unfold finishScheduling
  split
  · exact hC.finish id
  · exact hC.ret []

theorem mem_concludeGroup (id : Nat) (transition : GroupTransition)
    (htransition : ∀ logicalViewID, transition ≠ .cancel logicalViewID) :
    C _ (concludeGroup id transition) := by
  refine hC.bind _ _ (hC.conclude id transition htransition) (fun reply => ?_)
  refine hC.bind _ _ (mem_giveBack hC id reply) (fun _ => ?_)
  exact hC.bind _ _ (mem_finishScheduling hC id reply) (fun _ => hC.ret _)

theorem mem_failTransport (id : Nat) : C _ (failTransport id) :=
  hC.bind _ _ (mem_concludeGroup hC id .failTransport nofun) (fun _ => hC.ret _)

theorem mem_failGroups (ids : List Nat) : C _ (failGroups ids) :=
  hC.bind _ _ (hC.each _ _ fun id _ => mem_failTransport hC id) (fun _ => hC.ret _)

end Concluding

section Closing

variable (hC : Closing C)
include hC

theorem mem_closeTerminal (connection : Nat) : C _ (closeTerminal connection) := by
  refine hC.bind _ _ (hC.closeTerminal connection) (fun reply => ?_)
  refine hC.bind _ _ (mem_failGroups hC.toConcluding reply.groups) (fun err => ?_)
  refine hC.bind _ _ (hC.when _ _ ?_) (fun _ => hC.ret _)
  exact hC.bind _ _ (hC.takePoolSlot connection) (fun _ => hC.when _ _ (hC.removeLease connection))

theorem mem_closeOwner (connection : Nat) : C _ (closeOwner connection) := by
  refine hC.bind _ _ (hC.closeOwner connection) (fun bound => ?_)
  cases bound with
  | none => exact hC.ret ()
  | some transport =>
    refine hC.bind _ _ (hC.bind _ _ (hC.closeDetached connection) fun reply => ?_)
      (fun _ => hC.ret ())
    exact hC.bind _ _ (mem_failGroups hC.toConcluding reply.groups) (fun _ => hC.ret _)

end Closing

end HelianthusModbus
