import XdsService.Utils.LinkedList

/-!
# The elements of a list

What a pointer into the memory reaches is a chain of cells; the loops of
`list.c` are described here by the elements of that chain.
-/

namespace XdsService
namespace Utils

open Foundation
open Foundation.Cells
open Foundation.Program

def Elt.entry (elt : Elt) : String × Json := (elt.key, elt.value)

/-- From the pointer the list of these elements, with their addresses. -/
structure Lists (m : Memory) (l : Option Nat)
    (elements : List (Nat × Elt)) : Prop where
  chain : Chain Elt.next m.cells l (elements.map Prod.fst)
  cells : forall e, e ∈ elements -> m.cells[e.1]? = some e.2

variable {m : Memory} {l : Option Nat} {elements : List (Nat × Elt)}

theorem lists_nil (m : Memory) : Lists m none [] where
  chain := Chain.nil
  cells := fun e he => by cases he

theorem Lists.none_of_nil (h : Lists m l []) : l = none := by
  cases h.chain
  rfl

theorem Lists.nil_of_none (h : Lists m none elements) : elements = [] := by
  cases elements with
  | nil => rfl
  | cons e rest => cases h.chain

theorem Lists.cons {address : Nat} {elt : Elt}
    (hcell : m.cells[address]? = some elt) (h : Lists m elt.next elements) :
    Lists m (some address) ((address, elt) :: elements) where
  chain := Chain.cons hcell h.chain
  cells := by
    intro e he
    rcases List.mem_cons.mp he with rfl | he
    · exact hcell
    · exact h.cells e he

theorem Lists.cons_inv {e : Nat × Elt}
    (h : Lists m l (e :: elements)) :
    l = some e.1 ∧ m.cells[e.1]? = some e.2 ∧ Lists m e.2.next elements := by
  have hcell := h.cells e List.mem_cons_self
  cases h.chain with
  | cons hc hrest =>
      rw [hcell] at hc
      cases hc
      refine ⟨rfl, hcell, hrest, ?_⟩
      exact fun e' he' => h.cells e' (List.mem_cons_of_mem e he')

theorem Lists.length_le (h : Lists m l elements) :
    elements.length ≤ m.cells.length := by
  have hle := h.chain.length_le
  rw [List.length_map] at hle
  exact hle

theorem getElem?_addresses {k : Nat} {e : Nat × Elt}
    (h : elements[k]? = some e) :
    (elements.map Prod.fst)[k]? = some e.1 := by
  rw [List.getElem?_map, h]
  rfl

/-- Different elements are at different addresses. -/
theorem Lists.index_eq (h : Lists m l elements) {j k : Nat} {e e' : Nat × Elt}
    (hj : elements[j]? = some e) (hk : elements[k]? = some e')
    (heq : e.1 = e'.1) : j = k := by
  have hj' := getElem?_addresses hj
  have hlt := (List.getElem?_eq_some_iff.mp hj').1
  apply (List.getElem?_inj hlt h.chain.nodup).mp
  rw [hj', getElem?_addresses hk, heq]

/-!
## Pointer accesses
-/

theorem run_load_none (m : Memory) :
    (load none).run m = .error ListError.nullPointer m := rfl

theorem run_load {address : Nat} {elt : Elt}
    (h : m.cells[address]? = some elt) :
    (load (some address)).run m = .ok elt m := by
  have hget : (get : ListProgram Memory).run m = .ok m m := rfl
  refine (run_bind_of_ok hget).trans ?_
  simp only [h]
  rfl

def Memory.write (m : Memory) (address : Nat) (elt : Elt) : Memory :=
  { m with cells := m.cells.set address elt }

theorem run_store {address : Nat} {elt elt' : Elt}
    (h : m.cells[address]? = some elt) :
    (store (some address) elt').run m = .ok () (m.write address elt') := by
  have hlt := (List.getElem?_eq_some_iff.mp h).1
  have hget : (get : ListProgram Memory).run m = .ok m m := rfl
  refine (run_bind_of_ok hget).trans ?_
  simp only [hlt, if_true]
  rfl

/-!
## The loop over an index
-/

theorem run_advance_none (m : Memory) (steps : Nat) :
    (advance (steps + 1) none).run m = .error ListError.nullPointer m :=
  run_bind_of_error (run_load_none m)

/-- In a list that is not empty the loop ends at the element of that index. -/
theorem run_advance {e : Nat × Elt} (h : Lists m l (e :: elements))
    (steps : Nat) :
    (advance steps l).run m =
      .ok ((e :: elements)[steps]?.map fun e => some e.1) m := by
  induction steps generalizing l e elements with
  | zero =>
      rcases h.cons_inv with ⟨rfl, _, _⟩
      rfl
  | succ steps ih =>
      rcases h.cons_inv with ⟨rfl, hcell, hrest⟩
      unfold advance
      rw [run_bind_of_ok (run_load hcell)]
      cases elements with
      | nil =>
          rw [hrest.none_of_nil]
          rfl
      | cons e' rest =>
          have hnext := hrest.cons_inv.1
          rw [hnext] at hrest ⊢
          exact ih hrest

/-!
## The loop over the keys
-/

theorem run_searchKey {alpha : Type} (found : Nat -> Elt -> alpha)
    (missing : alpha) (key : String) (h : Lists m l elements)
    {bound : Nat} (hbound : elements.length ≤ bound) :
    (searchKey found missing key bound l).run m =
      .ok ((elements.find? fun e => strcasecmp e.2.key key).elim missing
        fun e => found e.1 e.2) m := by
  induction bound generalizing l elements with
  | zero =>
      have hnil := List.length_eq_zero_iff.mp (Nat.le_zero.mp hbound)
      subst hnil
      rw [h.none_of_nil]
      rfl
  | succ bound ih =>
      cases elements with
      | nil =>
          rw [h.none_of_nil]
          rfl
      | cons e rest =>
          rcases h.cons_inv with ⟨rfl, hcell, hrest⟩
          unfold searchKey
          rw [run_bind_of_ok (run_load hcell)]
          rw [List.find?_cons]
          cases strcasecmp e.2.key key with
          | true => rfl
          | false => exact ih hrest (Nat.le_of_succ_le_succ hbound)

theorem run_findEltFromKey (h : Lists m l elements) (key : String) :
    (findEltFromKey l key).run m =
      .ok ((elements.find? fun e => strcasecmp e.2.key key).map Prod.fst)
        m := by
  have hrun := run_searchKey (fun address _ => some address) none key h
    h.length_le
  rw [show (findEltFromKey l key).run m = _ from hrun]
  cases elements.find? fun e => strcasecmp e.2.key key with
  | none => rfl
  | some e => rfl

theorem run_findKeyValue (h : Lists m l elements) (key : String) :
    (findKeyValue l key).run m =
      .ok ((elements.find? fun e => strcasecmp e.2.key key).elim Json.null
        fun e => e.2.value) m :=
  run_searchKey (fun _ elt => elt.value) Json.null key h h.length_le

theorem run_getElt {e : Nat × Elt} (h : Lists m l (e :: elements))
    (index : Int) :
    (getElt l index).run m =
      .ok ((e :: elements)[index.toNat]?.map Prod.fst) m := by
  unfold getElt
  rw [run_bind_of_ok (run_advance h index.toNat)]
  cases (e :: elements)[index.toNat]? with
  | none => rfl
  | some e => rfl

end Utils
end XdsService
