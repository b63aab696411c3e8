import Mathlib.Data.List.Basic
import Mathlib.Data.List.Nodup
import Mathlib.Data.List.Perm.Subperm

/-!
# Chains of cells

A memory is the list of its cells, and an address is a position in it.  Every
cell holds at most one further address, its link.  A chain leads from a
pointer over the links to NULL; its addresses differ, so that walking it ends.
-/

namespace XdsService
namespace Foundation
namespace Cells

variable {cell : Type} {next : cell -> Option Nat}

/-- From the pointer the links lead over these addresses to NULL. -/
inductive Chain (next : cell -> Option Nat) (cells : List cell) :
    Option Nat -> List Nat -> Prop where
  | nil : Chain next cells none []
  | cons {address : Nat} {c : cell} {rest : List Nat} :
      cells[address]? = some c ->
      Chain next cells (next c) rest ->
      Chain next cells (some address) (address :: rest)

variable {cells : List cell} {p : Option Nat} {addresses : List Nat}
variable {address : Nat} {c c' : cell}

theorem Chain.unique {addresses' : List Nat}
    (h : Chain next cells p addresses) (h' : Chain next cells p addresses') :
    addresses = addresses' := by
  induction h generalizing addresses' with
  | nil =>
      cases h' with
      | nil => rfl
  | cons hcell _ ih =>
      cases h' with
      | cons hcell' hrest' =>
          rw [hcell] at hcell'
          cases hcell'
          rw [ih hrest']

theorem Chain.suffix {earlier later : List Nat}
    (h : Chain next cells p (earlier ++ address :: later)) :
    Chain next cells (some address) (address :: later) := by
  induction earlier generalizing p with
  | nil =>
      cases h with
      | cons hcell hrest => exact Chain.cons hcell hrest
  | cons first rest ih =>
      cases h with
      | cons _ hrest => exact ih hrest

theorem Chain.nodup (h : Chain next cells p addresses) : addresses.Nodup := by
  induction h with
  | nil => exact List.nodup_nil
  | @cons address c rest hcell hrest ih =>
      refine List.nodup_cons.mpr ⟨?_, ih⟩
      intro hmem
      rcases List.append_of_mem hmem with ⟨earlier, later, rfl⟩
      have hsame := (Chain.cons hcell hrest).unique hrest.suffix
      have hlength := congrArg List.length hsame
      simp at hlength
      omega

theorem Chain.exists_cell (h : Chain next cells p addresses)
    (hmem : address ∈ addresses) :
    exists c, cells[address]? = some c := by
  rcases List.append_of_mem hmem with ⟨earlier, later, rfl⟩
  cases h.suffix with
  | cons hcell _ => exact ⟨_, hcell⟩

theorem Chain.lt_length (h : Chain next cells p addresses)
    (hmem : address ∈ addresses) : address < cells.length := by
  rcases h.exists_cell hmem with ⟨c, hcell⟩
  exact (List.getElem?_eq_some_iff.mp hcell).1

theorem Chain.length_le (h : Chain next cells p addresses) :
    addresses.length ≤ cells.length := by
  have hsubset : addresses ⊆ List.range cells.length :=
    fun _ hmem => List.mem_range.mpr (h.lt_length hmem)
  have hle := (List.subperm_of_subset h.nodup hsubset).length_le
  rw [List.length_range] at hle
  exact hle

/-!
## Changes to the memory
-/

theorem Chain.append (h : Chain next cells p addresses) (more : List cell) :
    Chain next (cells ++ more) p addresses := by
  induction h with
  | nil => exact Chain.nil
  | cons hcell _ ih =>
      refine Chain.cons ?_ ih
      rw [List.getElem?_append_left (List.getElem?_eq_some_iff.mp hcell).1]
      exact hcell

/-- A write that keeps the link of the cell leaves every chain. -/
theorem Chain.set_of_next (h : Chain next cells p addresses)
    (hcell : cells[address]? = some c) (hnext : next c' = next c) :
    Chain next (cells.set address c') p addresses := by
  induction h with
  | nil => exact Chain.nil
  | @cons first d rest hfirst _ ih =>
      by_cases heq : address = first
      · subst heq
        rw [hcell] at hfirst
        cases hfirst
        rw [← hnext] at ih
        refine Chain.cons ?_ ih
        rw [List.getElem?_set_self (List.getElem?_eq_some_iff.mp hcell).1]
      · refine Chain.cons ?_ ih
        rw [List.getElem?_set_ne heq]
        exact hfirst

end Cells
end Foundation
end XdsService
