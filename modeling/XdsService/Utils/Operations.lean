import XdsService.Foundation.Refinement
import XdsService.Utils.Adding
import XdsService.Utils.Indexing

/-!
# Using a list

All the functions of `list.h` but `destroy_list`, called in any order on the
list of one variable.  What they come to is said on the plain list of the keys
and values that the variable reaches, where there are no pointers left.
-/

namespace XdsService
namespace Utils

open Foundation
open Foundation.Program
open Foundation.Refinement

/-!
## The calls
-/

inductive Operation where
  | add (call : AddCall)
  | setValue (val : Json) (index : Int)
  | getElt (index : Int)
  | findEltFromKey (key : String)
  | findKeyValue (key : String)

/-- What the caller gets; of an element it reads the key and the value. -/
inductive Answer where
  | done
  | code (rc : Int)
  | element (entry : Option (String × Json))
  | value (value : Json)

def readEntry (p : Option Nat) : ListProgram Answer :=
  match p with
  | none => pure (Answer.element none)
  | some address => do
      let elt <- load (some address)
      pure (Answer.element (some elt.entry))

def Operation.perform (operation : Operation) : ListProgram Answer := do
  let m <- get
  match operation with
  | add call => do
      call.perform
      pure Answer.done
  | setValue val index => do
      let rc <- Utils.setValue m.handle val index
      pure (Answer.code rc)
  | getElt index => do
      let p <- Utils.getElt m.handle index
      readEntry p
  | findEltFromKey key => do
      let p <- Utils.findEltFromKey m.handle key
      readEntry p
  | findKeyValue key => do
      let value <- Utils.findKeyValue m.handle key
      pure (Answer.value value)

/-!
## What they come to
-/

abbrev EntryList : Type := List (String × Json)

def EntryList.withKey (entries : EntryList) (key : String) :
    Option (String × Json) :=
  entries.find? fun entry => strcasecmp entry.1 key

/--
The answer and the entries behind it.  Nothing is said of an add without memory,
of `set_value` where there is no element, and of `get_elt` for an index above 0
there.
-/
def Operation.specify : Operation -> StateT EntryList Option Answer
  | add call => fun entries =>
      if call.allocated then
        some (Answer.done, keepLast entries call.entry)
      else
        none
  | setValue val index => fun entries =>
      if entries.isEmpty then
        none
      else
        match entries[index.toNat]? with
        | none => some (Answer.code (-1), entries)
        | some entry =>
            some (Answer.code 0, entries.set index.toNat (entry.1, val))
  | getElt index => fun entries =>
      if entries.isEmpty ∧ 0 < index then
        none
      else
        some (Answer.element entries[index.toNat]?, entries)
  | findEltFromKey key => fun entries =>
      some (Answer.element (entries.withKey key), entries)
  | findKeyValue key => fun entries =>
      some (Answer.value ((entries.withKey key).elim Json.null Prod.snd),
        entries)

/-- The variable reaches these entries, which are two at the most. -/
structure Represents (m : Memory) (entries : EntryList) : Prop where
  reached : exists elements, Lists m m.handle elements ∧
    elements.map (fun e => e.2.entry) = entries
  short : entries.length ≤ 2

/-- The program wrote or read through NULL. -/
def IsNullAccess (e : ListError) : Prop := e = ListError.nullPointer

variable {m : Memory} {l : Option Nat} {elements : List (Nat × Elt)}

theorem represents_start (cells : List Elt) :
    Represents (Memory.start cells) [] where
  reached := ⟨[], lists_nil _, rfl⟩
  short := Nat.zero_le 2

theorem keepLast_length_le (entries : EntryList) (entry : String × Json) :
    (keepLast entries entry).length ≤ 2 := by
  unfold keepLast
  cases entries.getLast? with
  | none => exact Nat.le_succ 1
  | some last => exact Nat.le_refl 2

/-!
## One call
-/

theorem run_readEntry (h : Lists m l elements) {found : Option (Nat × Elt)}
    (hfound : forall e, found = some e -> e ∈ elements) :
    (readEntry (found.map Prod.fst)).run m =
      .ok (Answer.element (found.map fun e => e.2.entry)) m := by
  cases found with
  | none => rfl
  | some e =>
      have hcell := h.cells e (hfound e rfl)
      show (load (some e.1) >>= _).run m = _
      rw [run_bind_of_ok (run_load hcell)]
      rfl

theorem withKey_entries (elements : List (Nat × Elt)) (key : String) :
    EntryList.withKey (elements.map fun e => e.2.entry) key =
      (elements.find? fun e => strcasecmp e.2.key key).map
        fun e => e.2.entry :=
  List.find?_map

theorem run_specify_setValue_of_missing {entries : EntryList} {val : Json}
    {index : Int} (hne : entries ≠ [])
    (hentry : entries[index.toNat]? = none) :
    (Operation.setValue val index).specify.run entries =
      some (Answer.code (-1), entries) := by
  simp [Operation.specify, StateT.run, hne, hentry]

theorem run_specify_setValue_of_found {entries : EntryList} {val : Json}
    {index : Int} {entry : String × Json}
    (hentry : entries[index.toNat]? = some entry) :
    (Operation.setValue val index).specify.run entries =
      some (Answer.code 0, entries.set index.toNat (entry.1, val)) := by
  have hne : entries ≠ [] := by
    rintro rfl
    cases hentry
  simp [Operation.specify, StateT.run, hne, hentry]

theorem run_specify_getElt {entries : EntryList} {index : Int}
    (h : entries = [] -> ¬ 0 < index) :
    (Operation.getElt index).specify.run entries =
      some (Answer.element entries[index.toNat]?, entries) :=
  if_neg fun hopen => h (List.isEmpty_iff.mp hopen.1) hopen.2

theorem run_specify_getElt_of_open {index : Int} (h : 0 < index) :
    (Operation.getElt index).specify.run [] = none :=
  if_pos ⟨rfl, h⟩

theorem run_getElt_none {index : Int} (h : index ≤ 0) (m : Memory) :
    (getElt none index).run m = .ok none m := by
  unfold getElt
  rw [Int.toNat_of_nonpos h]
  rfl

theorem run_getElt_none_of_pos {index : Int} (h : 0 < index) (m : Memory) :
    (getElt none index).run m = .error ListError.nullPointer m := by
  unfold getElt
  cases hsteps : index.toNat with
  | zero => omega
  | succ steps => exact run_bind_of_error (run_advance_none m steps)

theorem refines_add (call : AddCall) :
    Refines Represents IsNullAccess (Operation.add call).perform
      (Operation.add call).specify := by
  intro m entries h
  rcases h.reached with ⟨elements, hlists, rfl⟩
  show Follows _ _ ((call.perform >>= fun _ => pure Answer.done).run m)
    (if call.allocated then _ else none)
  rw [call.perform_eq]
  cases call.allocated with
  | false => exact Follows.leftOpen rfl
  | true =>
      rcases run_addNode hlists call.entry.1 call.entry.2 with
        ⟨m', elements', hrun, hlists', hentries'⟩
      rw [run_bind_of_ok hrun]
      refine Follows.returned ⟨⟨elements', hlists', hentries'⟩, ?_⟩
      exact keepLast_length_le _ _

theorem refines_setValue (val : Json) (index : Int) :
    Refines Represents IsNullAccess (Operation.setValue val index).perform
      (Operation.setValue val index).specify := by
  intro m entries h
  rcases h.reached with ⟨elements, hlists, rfl⟩
  show Follows _ _
    ((setValue m.handle val index >>= fun rc => pure (Answer.code rc)).run m) _
  cases elements with
  | nil =>
      rw [hlists.none_of_nil, run_bind_of_error (run_setValue_none val index m)]
      exact Follows.leftOpen rfl
  | cons e rest =>
      have hentry : ((e :: rest).map fun e => e.2.entry)[index.toNat]? =
          (e :: rest)[index.toNat]?.map fun e => e.2.entry :=
        List.getElem?_map
      cases hk : (e :: rest)[index.toNat]? with
      | none =>
          rw [hk] at hentry
          rw [run_bind_of_ok (run_setValue_of_missing hlists hk val),
            run_specify_setValue_of_missing (by simp) hentry]
          exact Follows.returned h
      | some found =>
          rw [hk] at hentry
          rw [run_bind_of_ok (run_setValue_of_found hlists hk val),
            run_specify_setValue_of_found hentry]
          refine Follows.returned ⟨⟨_, hlists.write_value hk val, ?_⟩, ?_⟩
          · rw [List.map_set]
            rfl
          · rw [List.length_set]
            exact h.short

theorem refines_getElt (index : Int) :
    Refines Represents IsNullAccess (Operation.getElt index).perform
      (Operation.getElt index).specify := by
  intro m entries h
  rcases h.reached with ⟨elements, hlists, rfl⟩
  show Follows _ _ ((getElt m.handle index >>= readEntry).run m) _
  cases elements with
  | nil =>
      rw [hlists.none_of_nil, List.map_nil]
      by_cases hindex : 0 < index
      · rw [run_bind_of_error (run_getElt_none_of_pos hindex m),
          run_specify_getElt_of_open hindex]
        exact Follows.leftOpen rfl
      · rw [run_bind_of_ok (run_getElt_none (Int.not_lt.mp hindex) m),
          run_specify_getElt (fun _ => hindex)]
        exact Follows.returned h
  | cons e rest =>
      have hfound : forall e', (e :: rest)[index.toNat]? = some e' ->
          e' ∈ e :: rest := fun e' he' => List.mem_of_getElem? he'
      rw [run_bind_of_ok (run_getElt hlists index),
        run_readEntry hlists hfound,
        run_specify_getElt (by simp), List.getElem?_map]
      exact Follows.returned h

theorem refines_findEltFromKey (key : String) :
    Refines Represents IsNullAccess (Operation.findEltFromKey key).perform
      (Operation.findEltFromKey key).specify := by
  intro m entries h
  rcases h.reached with ⟨elements, hlists, rfl⟩
  show Follows _ _ ((findEltFromKey m.handle key >>= readEntry).run m)
    (some (Answer.element (EntryList.withKey _ key), _))
  have hfound : forall e, (elements.find? fun e => strcasecmp e.2.key key) =
      some e -> e ∈ elements := fun e he => List.mem_of_find?_eq_some he
  rw [run_bind_of_ok (run_findEltFromKey hlists key), withKey_entries,
    run_readEntry hlists hfound]
  exact Follows.returned h

theorem refines_findKeyValue (key : String) :
    Refines Represents IsNullAccess (Operation.findKeyValue key).perform
      (Operation.findKeyValue key).specify := by
  intro m entries h
  rcases h.reached with ⟨elements, hlists, rfl⟩
  show Follows _ _ ((findKeyValue m.handle key >>= fun value =>
      pure (Answer.value value)).run m)
    (some (Answer.value ((EntryList.withKey _ key).elim Json.null Prod.snd), _))
  rw [run_bind_of_ok (run_findKeyValue hlists key), withKey_entries,
    Option.elim_map]
  exact Follows.returned h

theorem refines_perform (operation : Operation) :
    Refines Represents IsNullAccess operation.perform operation.specify := by
  cases operation with
  | add call => exact refines_add call
  | setValue val index => exact refines_setValue val index
  | getElt index => exact refines_getElt index
  | findEltFromKey key => exact refines_findEltFromKey key
  | findKeyValue key => exact refines_findKeyValue key

/-!
## Any calls in a row
-/

/--
Calls in any order answer what the list of entries answers; where nothing is
said of a call, it goes through NULL.
-/
theorem operations_refined (cells : List Elt) (operations : List Operation) :
    Follows Represents IsNullAccess
      ((operations.mapM Operation.perform).run (Memory.start cells))
      ((operations.mapM Operation.specify).run []) :=
  refines_mapM refines_perform operations (Memory.start cells) []
    (represents_start cells)

end Utils
end XdsService
