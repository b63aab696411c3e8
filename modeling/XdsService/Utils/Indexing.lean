import XdsService.Utils.Elements

/-!
# Updates at an index

`set_value` and `get_elt` find the element of an index with the same loop,
which tests the link it follows but neither the sign of the index nor the
pointer it starts from.
-/

namespace XdsService
namespace Utils

open Foundation
open Foundation.Cells
open Foundation.Program

/-- A list of any length in a memory. -/
structure LinkedList where
  memory : Memory
  first : Option Nat
  elements : List (Nat × Elt)
  lists : Lists memory first elements

namespace LinkedList

def InBounds (list : LinkedList) (index : Int) : Prop :=
  0 ≤ index ∧ index < list.elements.length

/--
`set_value` changes the value of the element at an index in bounds and nothing
else, and reports any other index; `get_elt` agrees with it about the indices.
-/
structure ChecksIndex (list : LinkedList) (val : Json) (index : Int) :
    Prop where
  inside : list.InBounds index -> exists address elt m',
    list.elements[index.toNat]? = some (address, elt) ∧
      m' = list.memory.write address { elt with value := val } ∧
      (setValue list.first val index).run list.memory = .ok 0 m' ∧
      Lists m' list.first
        (list.elements.set index.toNat (address, { elt with value := val })) ∧
      (getElt list.first index).run m' = .ok (some address) m' ∧
      (getElt list.first index).run list.memory =
        .ok (some address) list.memory
  outside : ¬ list.InBounds index ->
    (setValue list.first val index).run list.memory = .ok (-1) list.memory ∧
      (getElt list.first index).run list.memory = .ok none list.memory

end LinkedList

variable {m : Memory} {l : Option Nat} {elements : List (Nat × Elt)}

/-!
## Writing a value
-/

theorem Lists.write_value {k address : Nat} {elt : Elt}
    (h : Lists m l elements) (hk : elements[k]? = some (address, elt))
    (val : Json) :
    Lists (m.write address { elt with value := val }) l
      (elements.set k (address, { elt with value := val })) := by
  have hcell := h.cells _ (List.mem_of_getElem? hk)
  constructor
  · have hset : (elements.set k (address, { elt with value := val })).map
        Prod.fst = elements.map Prod.fst := by
      rcases List.getElem?_eq_some_iff.mp (getElem?_addresses hk) with
        ⟨hlt, hget⟩
      rw [List.map_set, ← hget]
      exact List.set_getElem_self hlt
    rw [hset]
    exact h.chain.set_of_next hcell rfl
  · intro e he
    rcases List.mem_iff_getElem?.mp he with ⟨j, hj⟩
    have hlt := (List.getElem?_eq_some_iff.mp hk).1
    rw [List.getElem?_set, if_pos hlt] at hj
    split at hj
    · cases hj
      exact List.getElem?_set_self (List.getElem?_eq_some_iff.mp hcell).1
    · rename_i hne
      have hother : address ≠ e.1 := fun heq => hne (h.index_eq hk hj heq)
      rw [← h.cells e (List.mem_of_getElem? hj)]
      exact List.getElem?_set_ne hother

theorem run_setValue_of_missing {e : Nat × Elt}
    (h : Lists m l (e :: elements)) {index : Int}
    (hk : (e :: elements)[index.toNat]? = none) (val : Json) :
    (setValue l val index).run m = .ok (-1) m := by
  unfold setValue
  rw [run_bind_of_ok (run_advance h index.toNat), hk]
  rfl

theorem run_setValue_of_found {address : Nat} {elt : Elt}
    (h : Lists m l elements) {index : Int}
    (hk : elements[index.toNat]? = some (address, elt)) (val : Json) :
    (setValue l val index).run m =
      .ok 0 (m.write address { elt with value := val }) := by
  have hcell := h.cells _ (List.mem_of_getElem? hk)
  cases elements with
  | nil => cases hk
  | cons e rest =>
      unfold setValue
      rw [run_bind_of_ok (run_advance h index.toNat), hk]
      show (load (some address) >>= _).run m = _
      rw [run_bind_of_ok (run_load hcell), run_bind_of_ok (run_store hcell)]
      rfl

theorem run_setValue_none (val : Json) (index : Int) (m : Memory) :
    (setValue none val index).run m = .error ListError.nullPointer m := by
  unfold setValue
  cases index.toNat with
  | zero => rfl
  | succ steps => exact run_bind_of_error (run_advance_none m steps)

/-!
## The indices that are checked
-/

theorem checksIndex_of_cons {list : LinkedList} {index : Int}
    (hne : list.elements ≠ []) (hindex : 0 ≤ index) (val : Json) :
    list.ChecksIndex val index := by
  rcases list with ⟨m, l, elements, hlists⟩
  cases elements with
  | nil => exact absurd rfl hne
  | cons e rest =>
      constructor
      · intro hin
        have hlt : index.toNat < (e :: rest).length := by
          have := hin.2
          dsimp only at this
          omega
        rcases hk : (e :: rest)[index.toNat] with ⟨address, elt⟩
        have hk' : (e :: rest)[index.toNat]? = some (address, elt) := by
          rw [List.getElem?_eq_getElem hlt, hk]
        have hafter := hlists.write_value hk' val
        refine ⟨address, elt, _, hk', rfl,
          run_setValue_of_found hlists hk' val, hafter, ?_, ?_⟩
        · cases hset : (e :: rest).set index.toNat
              (address, { elt with value := val }) with
          | nil => simp at hset
          | cons e' rest' =>
              have hafter' := hset ▸ hafter
              rw [run_getElt hafter', ← hset, List.getElem?_set_self hlt]
              rfl
        · rw [run_getElt hlists, hk']
          rfl
      · intro hout
        have hk : (e :: rest)[index.toNat]? = none := by
          rw [List.getElem?_eq_none_iff]
          by_contra hlt
          exact hout ⟨hindex, by dsimp only; omega⟩
        refine ⟨run_setValue_of_missing hlists hk val, ?_⟩
        rw [run_getElt hlists, hk]
        rfl

theorem not_checksIndex_of_nil {list : LinkedList}
    (hnil : list.elements = []) (val : Json) (index : Int) :
    ¬ list.ChecksIndex val index := by
  intro h
  have hout : ¬ list.InBounds index := by
    intro h
    rcases h with ⟨hle, hlt⟩
    rw [hnil] at hlt
    exact absurd hlt (Int.not_lt.mpr hle)
  have hrun := (h.outside hout).1
  have hlists := list.lists
  rw [hnil] at hlists
  rw [hlists.none_of_nil, run_setValue_none] at hrun
  cases hrun

/-- An index below zero reaches the first element. -/
theorem not_checksIndex_of_neg {list : LinkedList} {index : Int}
    (hindex : index < 0) (val : Json) : ¬ list.ChecksIndex val index := by
  intro h
  rcases list with ⟨m, l, elements, hlists⟩
  have hout := h.outside fun hin => absurd hin.1 (Int.not_le.mpr hindex)
  cases elements with
  | nil => exact not_checksIndex_of_nil rfl val index h
  | cons e rest =>
      have hzero : index.toNat = 0 := Int.toNat_of_nonpos (Int.le_of_lt hindex)
      have hk : (e :: rest)[index.toNat]? = some (e.1, e.2) := by
        rw [hzero]
        rfl
      have hrun := hout.1
      rw [run_setValue_of_found hlists hk val] at hrun
      cases hrun

/--
The update at an index is checked exactly where the list is not empty and the
index is not negative.
-/
theorem checks_index_iff (list : LinkedList) (val : Json) (index : Int) :
    list.ChecksIndex val index <->
      0 < list.elements.length ∧ 0 ≤ index := by
  constructor
  · intro h
    constructor
    · apply List.length_pos_of_ne_nil
      intro hnil
      exact not_checksIndex_of_nil hnil val index h
    · by_contra hneg
      exact not_checksIndex_of_neg (Int.not_le.mp hneg) val h
  · intro h
    rcases h with ⟨hlength, hindex⟩
    exact checksIndex_of_cons (List.ne_nil_of_length_pos hlength) hindex val

def oneElement (key : String) (value : Json) : LinkedList where
  memory := ⟨[⟨key, value, none⟩], some 0⟩
  first := some 0
  elements := [(0, ⟨key, value, none⟩)]
  lists := Lists.cons rfl (lists_nil _)

/-- At the index -1 `set_value` writes to the first element and returns 0. -/
theorem negative_index_updates :
    (setValue (oneElement "a" Json.null).first (Json.bool true) (-1)).run
        (oneElement "a" Json.null).memory =
      .ok 0 ⟨[⟨"a", Json.bool true, none⟩], some 0⟩ ∧
    ¬ (oneElement "a" Json.null).ChecksIndex (Json.bool true) (-1) := by
  constructor
  · rfl
  · intro h
    have hrun := (h.outside fun hin => absurd hin.1 (by decide)).1
    cases hrun

end Utils
end XdsService
