import Mathlib.Data.Finset.Card
import XdsService.Foundation.Ledger
import XdsService.Foundation.Logs

/-!
# Blocks of memory

What a program does with the blocks that an allocator gives it is a log: blocks
are granted, used and freed.  The log is in order if every block was free of use
when it was granted, and if only granted blocks are used and freed that were not
freed before.
-/

namespace XdsService
namespace Foundation
namespace Blocks

open Logs

inductive BlockOp where
  | grant (block : Nat)
  | use (block : Nat)
  | free (block : Nat)
deriving DecidableEq, Repr

def entry : BlockOp -> Option (Ledger.Entry Nat)
  | BlockOp.grant block => some (Ledger.Entry.add block)
  | BlockOp.use _ => none
  | BlockOp.free block => some (Ledger.Entry.remove block)

/-- The blocks that were granted and not freed since. -/
def allocated (ops : List BlockOp) : Finset Nat :=
  Ledger.replay (ops.filterMap entry)

/-- A new block has the number of the operation that grants it. -/
def InOrder (before : List BlockOp) : BlockOp -> Prop
  | BlockOp.grant block => block = before.length
  | BlockOp.use block => block ∈ allocated before
  | BlockOp.free block => block ∈ allocated before

variable {ops : List BlockOp} {block : Nat}

@[simp] theorem allocated_grant :
    allocated (ops ++ [BlockOp.grant block]) = insert block (allocated ops) := by
  simp [allocated, entry, Ledger.replay_append_singleton, Ledger.Entry.apply]

@[simp] theorem allocated_use :
    allocated (ops ++ [BlockOp.use block]) = allocated ops := by
  have hnone : [BlockOp.use block].filterMap entry = [] := rfl
  rw [allocated, List.filterMap_append, hnone, List.append_nil]
  rfl

@[simp] theorem allocated_free :
    allocated (ops ++ [BlockOp.free block]) = (allocated ops).erase block := by
  simp [allocated, entry, Ledger.replay_append_singleton, Ledger.Entry.apply]

theorem lt_length_of_mem (h : Obeys InOrder ops)
    (hblock : block ∈ allocated ops) : block < ops.length := by
  apply h.induct (P := fun ops =>
    forall block, block ∈ allocated ops -> block < ops.length) _ _ block hblock
  · intro block hnone
    cases hnone
  · intro before op hop ih block hmem
    rw [List.length_append, List.length_singleton]
    apply Nat.lt_succ_of_le
    cases op with
    | grant new =>
        rw [allocated_grant, Finset.mem_insert] at hmem
        rcases hmem with rfl | hmem
        · exact Nat.le_of_eq hop
        · exact Nat.le_of_lt (ih block hmem)
    | use other =>
        rw [allocated_use] at hmem
        exact Nat.le_of_lt (ih block hmem)
    | free other =>
        rw [allocated_free] at hmem
        exact Nat.le_of_lt (ih block (Finset.mem_of_mem_erase hmem))

/-- The block that is granted next is not one of the allocated ones. -/
theorem fresh_notMem (h : Obeys InOrder ops) : ops.length ∉ allocated ops :=
  fun hmem => Nat.lt_irrefl _ (lt_length_of_mem h hmem)

theorem obeys_grant (h : Obeys InOrder ops) :
    Obeys InOrder (ops ++ [BlockOp.grant ops.length]) :=
  h.snoc rfl

theorem obeys_use (h : Obeys InOrder ops) (hblock : block ∈ allocated ops) :
    Obeys InOrder (ops ++ [BlockOp.use block]) :=
  h.snoc hblock

theorem obeys_free (h : Obeys InOrder ops) (hblock : block ∈ allocated ops) :
    Obeys InOrder (ops ++ [BlockOp.free block]) :=
  h.snoc hblock

end Blocks
end Foundation
end XdsService
