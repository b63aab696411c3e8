import XdsService.Utils.Adding

/-!
# Destroying a list

`destroy_list` reads the link of an element before it frees the element.  It
comes to an end on every pointer, and to the right end on a list none of which
was freed before; what the adds have lost is not freed by it.
-/

namespace XdsService
namespace Utils

open Foundation
open Foundation.Cells
open Foundation.Program

/-- A memory, and the addresses that were given to `free`. -/
structure Heap where
  memory : Memory
  freed : List Nat

inductive HeapError where
  | danglingPointer
  | freedPointer
  | endless
deriving DecidableEq, Repr

abbrev HeapProgram (α : Type) : Type := EStateM HeapError Heap α

def loadNext (address : Nat) : HeapProgram (Option Nat) := do
  let h <- get
  if address ∈ h.freed then
    throw HeapError.freedPointer
  else
    match h.memory.cells[address]? with
    | none => throw HeapError.danglingPointer
    | some elt => pure elt.next

def free (address : Nat) : HeapProgram Unit := do
  let h <- get
  if address ∈ h.freed then
    throw HeapError.freedPointer
  else
    set { h with freed := h.freed ++ [address] }

/-- The loop of `destroy_list`, for at most so many rounds. -/
def destroyLoop : Nat -> Option Nat -> HeapProgram Unit
  | _, none => pure ()
  | 0, some _ => throw HeapError.endless
  | rounds + 1, some address => do
      let save <- loadNext address
      free address
      destroyLoop rounds save

def destroyList (l : Option Nat) : HeapProgram Unit := do
  let h <- get
  destroyLoop (h.memory.cells.length + 1) l

namespace Heap

def release (h : Heap) (addresses : List Nat) : Heap :=
  { h with freed := h.freed ++ addresses }

def live (h : Heap) : List Nat :=
  (List.range h.memory.cells.length).filter fun address =>
    decide (address ∉ h.freed)

@[simp] theorem release_memory (h : Heap) (addresses : List Nat) :
    (h.release addresses).memory = h.memory := rfl

@[simp] theorem release_freed (h : Heap) (addresses : List Nat) :
    (h.release addresses).freed = h.freed ++ addresses := rfl

theorem release_release (h : Heap) (first second : List Nat) :
    (h.release first).release second = h.release (first ++ second) := by
  simp [release]

end Heap

/-- The list ends, and nothing of it was freed. -/
structure Destroyable (h : Heap) (l : Option Nat)
    (elements : List (Nat × Elt)) : Prop where
  lists : Lists h.memory l elements
  live : forall e, e ∈ elements -> e.1 ∉ h.freed

variable {h h' : Heap} {l : Option Nat} {elements : List (Nat × Elt)}
variable {address rounds : Nat} {elt : Elt}

/-!
## One round
-/

theorem run_destroyLoop_of_freed (hfreed : address ∈ h.freed) :
    (destroyLoop (rounds + 1) (some address)).run h =
      .error HeapError.freedPointer h := by
  have hload : (loadNext address).run h =
      .error HeapError.freedPointer h := by
    unfold loadNext
    rw [EStateM.run_bind, EStateM.run_get]
    simp only [hfreed, if_true]
    rfl
  exact run_bind_of_error hload

theorem run_destroyLoop_of_dangling (hlive : address ∉ h.freed)
    (hcell : h.memory.cells[address]? = none) :
    (destroyLoop (rounds + 1) (some address)).run h =
      .error HeapError.danglingPointer h := by
  have hload : (loadNext address).run h =
      .error HeapError.danglingPointer h := by
    unfold loadNext
    rw [EStateM.run_bind, EStateM.run_get]
    simp only [hlive, if_false, hcell]
    rfl
  exact run_bind_of_error hload

theorem run_destroyLoop_of_live (hlive : address ∉ h.freed)
    (hcell : h.memory.cells[address]? = some elt) :
    (destroyLoop (rounds + 1) (some address)).run h =
      (destroyLoop rounds elt.next).run (h.release [address]) := by
  have hload : (loadNext address).run h = .ok elt.next h := by
    unfold loadNext
    rw [EStateM.run_bind, EStateM.run_get]
    simp only [hlive, if_false, hcell]
    rfl
  have hfree : (free address).run h = .ok () (h.release [address]) := by
    unfold free
    rw [EStateM.run_bind, EStateM.run_get]
    simp only [hlive, if_false]
    rfl
  show (loadNext address >>= fun save => free address >>= fun _ =>
    destroyLoop rounds save).run h = _
  rw [run_bind_of_ok hload, run_bind_of_ok hfree]

theorem length_live_release (hlive : address ∉ h.freed)
    (hcell : h.memory.cells[address]? = some elt) :
    (h.release [address]).live.length < h.live.length := by
  have hmem : address ∈ h.live := by
    have hlt := (List.getElem?_eq_some_iff.mp hcell).1
    simp [Heap.live, hlt, hlive]
  have hless : (h.release [address]).live =
      h.live.filter fun other => decide (other ≠ address) := by
    simp [Heap.live, List.filter_filter, and_comm]
  rw [hless, List.length_filter_lt_length_iff_exists]
  exact ⟨address, hmem, by simp⟩

/-!
## All rounds
-/

/-- There are not more rounds than live cells, whatever the pointers are. -/
theorem destroyLoop_ends (hrounds : h.live.length < rounds) :
    (destroyLoop rounds l).run h ≠ .error HeapError.endless h' := by
  induction rounds generalizing h l with
  | zero => cases hrounds
  | succ rounds ih =>
      cases l with
      | none =>
          intro hrun
          cases hrun
      | some address =>
          by_cases hfreed : address ∈ h.freed
          · rw [run_destroyLoop_of_freed hfreed]
            intro hrun
            cases hrun
          · cases hcell : h.memory.cells[address]? with
            | none =>
                rw [run_destroyLoop_of_dangling hfreed hcell]
                intro hrun
                cases hrun
            | some elt =>
                have hless := length_live_release hfreed hcell
                rw [run_destroyLoop_of_live hfreed hcell]
                exact ih (Nat.lt_of_lt_of_le hless (Nat.le_of_lt_succ hrounds))

theorem Destroyable.rest {e : Nat × Elt}
    (hlist : Destroyable h l (e :: elements)) :
    Destroyable (h.release [e.1]) e.2.next elements where
  lists := by
    rcases hlist.lists.cons_inv with ⟨_, _, hrest⟩
    exact ⟨hrest.chain, hrest.cells⟩
  live := by
    intro other hmem hfreed
    have hnodup := hlist.lists.chain.nodup
    rw [List.map_cons, List.nodup_cons] at hnodup
    rw [Heap.release_freed, List.mem_append, List.mem_singleton] at hfreed
    rcases hfreed with hfreed | heq
    · exact hlist.live other (List.mem_cons_of_mem e hmem) hfreed
    · exact hnodup.left (heq ▸ List.mem_map_of_mem hmem)

theorem run_destroyLoop (hlist : Destroyable h l elements)
    (hrounds : elements.length ≤ rounds) :
    (destroyLoop rounds l).run h =
      .ok () (h.release (elements.map Prod.fst)) := by
  induction elements generalizing h l rounds with
  | nil =>
      rw [hlist.lists.none_of_nil]
      simp only [Heap.release, List.map_nil, List.append_nil]
      cases rounds with
      | zero => rfl
      | succ rounds => rfl
  | cons e elements ih =>
      cases rounds with
      | zero => cases hrounds
      | succ rounds =>
          rcases hlist.lists.cons_inv with ⟨rfl, hcell, _⟩
          have hlive := hlist.live e List.mem_cons_self
          rw [run_destroyLoop_of_live hlive hcell,
            ih hlist.rest (Nat.le_of_succ_le_succ hrounds),
            Heap.release_release]
          rfl

/-- Where the loop ends well it has gone through a list of live elements. -/
theorem destroyable_of_run
    (hrun : (destroyLoop rounds l).run h = .ok () h') :
    exists elements, Destroyable h l elements := by
  induction rounds generalizing h l with
  | zero =>
      cases l with
      | none => exact ⟨[], lists_nil _, by simp⟩
      | some address => cases hrun
  | succ rounds ih =>
      cases l with
      | none => exact ⟨[], lists_nil _, by simp⟩
      | some address =>
          by_cases hfreed : address ∈ h.freed
          · rw [run_destroyLoop_of_freed hfreed] at hrun
            cases hrun
          · cases hcell : h.memory.cells[address]? with
            | none =>
                rw [run_destroyLoop_of_dangling hfreed hcell] at hrun
                cases hrun
            | some elt =>
                rw [run_destroyLoop_of_live hfreed hcell] at hrun
                rcases ih hrun with ⟨elements, hrest⟩
                have hlists : Lists h.memory elt.next elements :=
                  ⟨hrest.lists.chain, hrest.lists.cells⟩
                refine ⟨(address, elt) :: elements, hlists.cons hcell, ?_⟩
                intro e he hold
                rcases List.mem_cons.mp he with rfl | he
                · exact hfreed hold
                · exact hrest.live e he
                    (List.mem_append_left [address] hold)

/-!
## destroy_list
-/

theorem run_destroyList (hlist : Destroyable h l elements) :
    (destroyList l).run h =
      .ok () (h.release (elements.map Prod.fst)) :=
  run_destroyLoop hlist (Nat.le_succ_of_le hlist.lists.length_le)

/--
`destroy_list` frees the elements of a list of which nothing was freed, each
once and in order.  On any other pointer, a circular list included, it ends at
an address that is no live cell.
-/
theorem destroyList_total (h : Heap) (l : Option Nat) :
    (exists elements, Destroyable h l elements ∧
        (elements.map Prod.fst).Nodup ∧
        (destroyList l).run h =
          .ok () (h.release (elements.map Prod.fst))) ∨
      ((forall elements, ¬ Destroyable h l elements) ∧
        exists e h', (destroyList l).run h = .error e h' ∧
          e ≠ HeapError.endless) := by
  cases hrun : (destroyList l).run h with
  | ok value h' =>
      rcases destroyable_of_run hrun with ⟨elements, hlist⟩
      exact Or.inl ⟨elements, hlist, hlist.lists.chain.nodup,
        hrun ▸ run_destroyList hlist⟩
  | error e h' =>
      refine Or.inr ⟨?_, e, h', rfl, ?_⟩
      · intro elements hlist
        rw [run_destroyList hlist] at hrun
        cases hrun
      · rintro rfl
        have hbound : h.live.length < h.memory.cells.length + 1 := by
          have hle := List.length_filter_le
            (fun address => decide (address ∉ h.freed))
            (List.range h.memory.cells.length)
          rw [List.length_range] at hle
          exact Nat.lt_succ_of_le hle
        exact destroyLoop_ends hbound hrun

/-!
## After adds
-/

section Adds

variable {m m' : Memory}

theorem length_cells_linkElt {earlier : List (Nat × Elt)} {last : Nat × Elt}
    (hlists : Lists m m.handle (earlier ++ [last]))
    (hrun : (linkElt address).run m = .ok () m') :
    m'.cells.length = m.cells.length := by
  cases hhandle : m.handle with
  | none =>
      rw [hhandle] at hlists
      exact absurd hlists.nil_of_none (by simp)
  | some first =>
      have hlast := hlists.cells last (by simp)
      have hlast' : ({ m with handle := some last.1 } : Memory).cells[last.1]?
          = some last.2 := hlast
      have hwalk := run_walkToTail hlists hlists.length_le
      rw [run_linkElt_of_some hhandle, run_bind_of_ok hwalk] at hrun
      change (load (some last.1) >>= _).run _ = _ at hrun
      rw [run_bind_of_ok (run_load hlast')] at hrun
      have hstore := (run_store hlast').symm.trans hrun
      cases hstore
      exact List.length_set

theorem length_cells_addNode {key : String} {value : Json}
    (hlists : Lists m m.handle elements)
    (hrun : (addNode true key value).run m = .ok () m') :
    m'.cells.length = m.cells.length + 1 := by
  have hnew : (newElt true key value).run m = .ok m.cells.length
      { m with cells := m.cells ++ [⟨key, value, none⟩] } := rfl
  have happend := hlists.append [⟨key, value, none⟩]
  unfold addNode at hrun
  rw [run_bind_of_ok hnew] at hrun
  rcases List.eq_nil_or_concat elements with rfl | ⟨earlier, last, rfl⟩
  · have hnone := hlists.none_of_nil
    rw [run_linkElt_of_none
      (m := { m with cells := m.cells ++ [⟨key, value, none⟩] }) hnone] at hrun
    cases hrun
    exact List.length_append
  · rw [List.concat_eq_append] at happend
    rw [length_cells_linkElt happend hrun]
    exact List.length_append

theorem length_cells_addAll {calls : List AddCall}
    (hlists : Lists m m.handle elements)
    (hcalls : forall call, call ∈ calls -> call.allocated = true)
    (hrun : (addAll calls).run m = .ok () m') :
    m'.cells.length = m.cells.length + calls.length := by
  induction calls generalizing m elements with
  | nil =>
      cases hrun
      rfl
  | cons call calls ih =>
      have hperform := call.perform_eq
      rw [hcalls call List.mem_cons_self] at hperform
      rcases run_addNode hlists call.entry.1 call.entry.2 with
        ⟨m1, elements1, hadd, hlists1, _⟩
      have hlength := length_cells_addNode hlists hadd
      have hrest : (addAll calls).run m1 = .ok () m' := by
        change (call.perform >>= fun _ => addAll calls).run m = _ at hrun
        rw [hperform, run_bind_of_ok hadd] at hrun
        exact hrun
      rw [ih hlists1 (fun other hmem => hcalls other
        (List.mem_cons_of_mem call hmem)) hrest, hlength, List.length_cons,
        Nat.add_assoc, Nat.add_comm 1]

end Adds

end Utils
end XdsService
