import XdsService.Utils.Elements

/-!
# Adding elements

The walk to the tail goes through the variable of the caller.  An add to a
list of several elements leaves the variable at the last of them, and what
was before it is lost.
-/

namespace XdsService
namespace Utils

open Foundation
open Foundation.Cells
open Foundation.Program

/-- A call of `add_elt` or `add_key`, and whether its malloc succeeds. -/
inductive AddCall where
  | elt (allocated : Bool) (key : String) (value : Json)
  | keyOnly (allocated : Bool) (key : String)

namespace AddCall

def allocated : AddCall -> Bool
  | elt allocated _ _ => allocated
  | keyOnly allocated _ => allocated

def entry : AddCall -> String × Json
  | elt _ key value => (key, value)
  | keyOnly _ key => (key, Json.null)

def perform : AddCall -> ListProgram Unit
  | elt allocated key value => addElt allocated key value
  | keyOnly allocated key => addKey allocated key

theorem perform_eq (call : AddCall) :
    call.perform = addNode call.allocated call.entry.1 call.entry.2 := by
  cases call with
  | elt allocated key value => rfl
  | keyOnly allocated key => rfl

end AddCall

def addAll (calls : List AddCall) : ListProgram Unit :=
  calls.forM AddCall.perform

/--
The list reached from the variable is what was added, in order, and the
functions that read a list find it there.
-/
structure Keeps (m : Memory) (elements : List (Nat × Elt))
    (added : List (String × Json)) : Prop where
  lists : Lists m m.handle elements
  entries : elements.map (fun e => e.2.entry) = added
  getElt : forall k : Nat, k < added.length ->
    (getElt m.handle k).run m = .ok (elements[k]?.map Prod.fst) m
  findEltFromKey : forall key, (findEltFromKey m.handle key).run m =
    .ok ((elements.find? fun e => strcasecmp e.2.key key).map Prod.fst) m
  findKeyValue : forall key, (findKeyValue m.handle key).run m =
    .ok ((added.find? fun entry => strcasecmp entry.1 key).elim Json.null
      Prod.snd) m

/-- After the calls the list keeps every element that they added. -/
def KeepsAdded (cells : List Elt) (calls : List AddCall) : Prop :=
  exists m elements, (addAll calls).run (Memory.start cells) = .ok () m ∧
    Keeps m elements (calls.map AddCall.entry)

variable {m : Memory} {l : Option Nat} {elements : List (Nat × Elt)}

/-!
## One call
-/

/-- What remains of the list when an entry is added. -/
def keepLast (entries : List (String × Json)) (entry : String × Json) :
    List (String × Json) :=
  entries.getLast?.toList ++ [entry]

theorem Lists.append (h : Lists m l elements) (more : List Elt) :
    Lists { m with cells := m.cells ++ more } l elements where
  chain := h.chain.append more
  cells := by
    intro e he
    have hcell := h.cells e he
    have hlt := (List.getElem?_eq_some_iff.mp hcell).1
    exact (List.getElem?_append_left hlt).trans hcell

theorem run_walkToTail {earlier : List (Nat × Elt)} {last : Nat × Elt}
    (h : Lists m m.handle (earlier ++ [last])) {tests : Nat}
    (htests : (earlier ++ [last]).length ≤ tests) :
    (walkToTail tests).run m = .ok () { m with handle := some last.1 } := by
  induction earlier generalizing m tests with
  | nil =>
      cases tests with
      | zero => cases htests
      | succ tests =>
          rcases h.cons_inv with ⟨hhandle, hcell, hrest⟩
          have hload : (load m.handle).run m = .ok last.2 m := by
            rw [hhandle]
            exact run_load hcell
          unfold walkToTail
          show (load m.handle >>= _).run m = _
          rw [run_bind_of_ok hload, hrest.none_of_nil, ← hhandle]
          rfl
  | cons e rest ih =>
      cases tests with
      | zero => cases htests
      | succ tests =>
          rcases h.cons_inv with ⟨hhandle, hcell, hrest⟩
          have hload : (load m.handle).run m = .ok e.2 m := by
            rw [hhandle]
            exact run_load hcell
          unfold walkToTail
          show (load m.handle >>= _).run m = _
          rw [run_bind_of_ok hload]
          cases hnext : e.2.next with
          | none =>
              rw [hnext] at hrest
              exact absurd hrest.nil_of_none (by simp)
          | some next =>
              rw [hnext] at hrest
              exact ih (m := { m with handle := some next })
                ⟨hrest.chain, hrest.cells⟩ (Nat.le_of_succ_le_succ htests)

theorem run_linkElt_of_none (h : m.handle = none) (address : Nat) :
    (linkElt address).run m = .ok () { m with handle := some address } := by
  rcases m with ⟨cells, handle⟩
  cases h
  rfl

theorem run_linkElt_of_some {first : Nat} (h : m.handle = some first)
    (address : Nat) :
    (linkElt address).run m = (walkToTail m.cells.length >>= fun _ => do
      let m <- get
      let tail <- load m.handle
      store m.handle { tail with next := some address }).run m := by
  rcases m with ⟨cells, handle⟩
  cases h
  rfl

theorem run_linkElt {earlier : List (Nat × Elt)} {last : Nat × Elt}
    {address : Nat} {elt : Elt}
    (h : Lists m m.handle (earlier ++ [last]))
    (hcell : m.cells[address]? = some elt) (hnext : elt.next = none)
    (hne : address ≠ last.1) :
    exists m', (linkElt address).run m = .ok () m' ∧
      Lists m' m'.handle
        [(last.1, { last.2 with next := some address }), (address, elt)] := by
  have hlast := h.cells last (List.mem_append_right _ List.mem_cons_self)
  cases hhandle : m.handle with
  | none =>
      rw [hhandle] at h
      exact absurd h.nil_of_none (by simp)
  | some first =>
      have hwalk := run_walkToTail h h.length_le
      refine ⟨({ m with handle := some last.1 } : Memory).write last.1
        { last.2 with next := some address }, ?_, ?_⟩
      · have hlast' : ({ m with handle := some last.1 } : Memory).cells[last.1]?
            = some last.2 := hlast
        rw [run_linkElt_of_some hhandle, run_bind_of_ok hwalk]
        show (load (some last.1) >>= _).run _ = _
        rw [run_bind_of_ok (run_load hlast')]
        exact run_store hlast'
      · have hlt := (List.getElem?_eq_some_iff.mp hlast).1
        refine Lists.cons (List.getElem?_set_self hlt) ?_
        refine Lists.cons ((List.getElem?_set_ne hne.symm).trans hcell) ?_
        rw [hnext]
        exact lists_nil _

theorem run_addNode (h : Lists m m.handle elements) (key : String)
    (value : Json) :
    exists m' elements', (addNode true key value).run m = .ok () m' ∧
      Lists m' m'.handle elements' ∧
      elements'.map (fun e => e.2.entry) =
        keepLast (elements.map fun e => e.2.entry) (key, value) := by
  have hnew : (newElt true key value).run m = .ok m.cells.length
      { m with cells := m.cells ++ [⟨key, value, none⟩] } := rfl
  have hcell : (m.cells ++ [(⟨key, value, none⟩ : Elt)])[m.cells.length]? =
      some ⟨key, value, none⟩ := List.getElem?_concat_length
  have happend := h.append [⟨key, value, none⟩]
  unfold addNode
  rw [run_bind_of_ok hnew]
  rcases List.eq_nil_or_concat elements with rfl | ⟨earlier, last, rfl⟩
  · refine ⟨⟨m.cells ++ [⟨key, value, none⟩], some m.cells.length⟩,
      [(m.cells.length, ⟨key, value, none⟩)], ?_, ?_, rfl⟩
    · have hnone := h.none_of_nil
      exact run_linkElt_of_none
        (m := { m with cells := m.cells ++ [⟨key, value, none⟩] }) hnone _
    · exact Lists.cons hcell (lists_nil _)
  · have hlt : last.1 < m.cells.length :=
      h.chain.lt_length (by simp)
    rw [List.concat_eq_append] at happend
    rcases run_linkElt happend hcell rfl (Nat.ne_of_gt hlt) with
      ⟨m', hrun, hlists⟩
    refine ⟨m', _, hrun, hlists, ?_⟩
    simp [keepLast, Elt.entry]

/-!
## All the calls
-/

theorem allocated_of_run_eq_ok {calls : List AddCall} {m' : Memory}
    (hrun : (addAll calls).run m = .ok () m') :
    forall call, call ∈ calls -> call.allocated = true := by
  induction calls generalizing m with
  | nil =>
      intro call hcall
      cases hcall
  | cons first rest ih =>
      rcases run_bind_eq_ok (m := first.perform) hrun with ⟨_, m1, hfirst, hrest⟩
      intro call hcall
      rcases List.mem_cons.mp hcall with rfl | hcall
      · rw [call.perform_eq] at hfirst
        cases hallocated : call.allocated with
        | true => rfl
        | false =>
            rw [hallocated] at hfirst
            cases hfirst
      · exact ih hrest call hcall

theorem run_addAll {calls : List AddCall}
    (h : Lists m m.handle elements)
    (hcalls : forall call, call ∈ calls -> call.allocated = true) :
    exists m' elements', (addAll calls).run m = .ok () m' ∧
      Lists m' m'.handle elements' ∧
      elements'.map (fun e => e.2.entry) =
        (calls.map AddCall.entry).foldl keepLast
          (elements.map fun e => e.2.entry) := by
  induction calls generalizing m elements with
  | nil => exact ⟨m, elements, rfl, h, rfl⟩
  | cons call rest ih =>
      rcases run_addNode h call.entry.1 call.entry.2 with
        ⟨m1, elements1, hcall, hlists1, hentries1⟩
      rw [← hcalls call List.mem_cons_self, ← call.perform_eq] at hcall
      rcases ih hlists1 fun c hc => hcalls c (List.mem_cons_of_mem _ hc) with
        ⟨m2, elements2, hrest, hlists2, hentries2⟩
      refine ⟨m2, elements2, ?_, hlists2, ?_⟩
      · show (call.perform >>= fun _ => addAll rest).run m = _
        rw [run_bind_of_ok hcall]
        exact hrest
      · rw [hentries2, hentries1]
        rfl

theorem foldl_keepLast (entries : List (String × Json)) :
    entries.foldl keepLast [] = entries.drop (entries.length - 2) := by
  induction entries using List.reverseRecOn with
  | nil => rfl
  | append_singleton entries entry ih =>
      rw [List.foldl_append, ih, List.foldl_cons, List.foldl_nil, keepLast,
        List.getLast?_drop, List.length_append, List.length_singleton]
      cases entries using List.reverseRecOn with
      | nil => rfl
      | append_singleton entries last =>
          rw [List.length_append, List.length_singleton, if_neg (by omega),
            List.getLast?_concat, List.append_assoc,
            List.drop_append_of_le_length (by omega)]
          simp

/-- Of all the elements that were added the last two are left. -/
theorem lists_last_two (cells : List Elt) {calls : List AddCall}
    (hcalls : forall call, call ∈ calls -> call.allocated = true) :
    exists m elements, (addAll calls).run (Memory.start cells) = .ok () m ∧
      Lists m m.handle elements ∧
      elements.map (fun e => e.2.entry) =
        (calls.map AddCall.entry).drop (calls.length - 2) := by
  rcases run_addAll (m := Memory.start cells) (lists_nil _) hcalls with
    ⟨m, elements, hrun, hlists, hentries⟩
  refine ⟨m, elements, hrun, hlists, ?_⟩
  rw [hentries, List.map_nil, foldl_keepLast, List.length_map]

theorem Lists.keeps (h : Lists m m.handle elements) :
    Keeps m elements (elements.map fun e => e.2.entry) where
  lists := h
  entries := rfl
  getElt := by
    intro k hk
    cases elements with
    | nil => cases hk
    | cons e rest => exact run_getElt h k
  findEltFromKey := run_findEltFromKey h
  findKeyValue := by
    intro key
    rw [run_findKeyValue h key, List.find?_map, Option.elim_map]
    rfl

/--
The list keeps every element exactly where at most two calls were made and
each of them got its memory.
-/
theorem keeps_added_iff (cells : List Elt) (calls : List AddCall) :
    KeepsAdded cells calls <->
      calls.length ≤ 2 ∧
        forall call, call ∈ calls -> call.allocated = true := by
  constructor
  · intro h
    rcases h with ⟨m, elements, hrun, hkeeps⟩
    have hcalls := allocated_of_run_eq_ok hrun
    refine ⟨?_, hcalls⟩
    rcases lists_last_two cells hcalls with ⟨m', elements', hrun', hlists, hlast⟩
    rw [hrun] at hrun'
    cases hrun'
    have haddresses := hkeeps.lists.chain.unique hlists.chain
    have hlength := congrArg List.length hkeeps.entries
    have hlength' := congrArg List.length hlast
    have hlength'' := congrArg List.length haddresses
    simp only [List.length_map, List.length_drop] at hlength hlength' hlength''
    omega
  · intro h
    rcases h with ⟨hlength, hcalls⟩
    rcases lists_last_two cells hcalls with ⟨m, elements, hrun, hlists, hlast⟩
    refine ⟨m, elements, hrun, ?_⟩
    rw [Nat.sub_eq_zero_of_le hlength, List.drop_zero] at hlast
    rw [← hlast]
    exact hlists.keeps

def threeAdds : List AddCall :=
  [AddCall.elt true "a" (Json.int 1), AddCall.elt true "b" (Json.int 2),
    AddCall.elt true "c" (Json.int 3)]

/-- Of three elements the first is lost: the variable is left at the second. -/
theorem third_add_loses_first : ¬ KeepsAdded [] threeAdds := by
  intro h
  rcases h with ⟨m, elements, hrun, hkeeps⟩
  have hok : (addAll threeAdds).run (Memory.start []) = .ok ()
      ⟨[⟨"a", Json.int 1, some 1⟩, ⟨"b", Json.int 2, some 2⟩,
        ⟨"c", Json.int 3, none⟩], some 1⟩ := rfl
  rw [hok] at hrun
  cases hrun
  have hfind := hkeeps.findKeyValue "a"
  cases hfind

end Utils
end XdsService
