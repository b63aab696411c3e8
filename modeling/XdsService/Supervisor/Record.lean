import Mathlib.Data.List.TakeDrop
import XdsService.Supervisor.Api

/-!
# The record of the traced pids

How the handlers write `TracePidsNum` and `TracePidsArr`, and what the loops
over the record compute while it does not change.
-/

namespace XdsService
namespace Supervisor

open Foundation
open Program

/-!
## Programs that leave the record alone
-/

structure SameRecord (w w' : World) : Prop where
  num : w'.tracePidsNum = w.tracePidsNum
  arr : w'.tracePidsArr = w.tracePidsArr

instance : Std.Refl SameRecord := ⟨fun _ => ⟨rfl, rfl⟩⟩

instance : IsTrans World SameRecord where
  trans := fun _ _ _ hab hbc =>
    ⟨hbc.num.trans hab.num, hbc.arr.trans hab.arr⟩

theorem SameRecord.recordIs {w w' : World} (h : SameRecord w w')
    {ps : List Int} (hps : w.RecordIs ps) : w'.RecordIs ps := by
  constructor
  · rw [h.num]
    exact hps.num
  · unfold World.cells
    rw [h.arr]
    exact hps.held

theorem Quiet.sameRecord {w w' : World} (h : Quiet w w') : SameRecord w w' :=
  ⟨h.num, h.arr⟩

/-- Faults and jumps alike. -/
def AnyExit (_ : Exit) : Prop := True

theorem sameRecord_traceDrop (env : Env) (pid : Int) :
    Moves SameRecord AnyExit (traceDrop env pid) where
  along := fun _ => ⟨rfl, rfl⟩
  exits := fun _ => trivial

theorem sameRecord_traceDaemonMacro (env : Env) (dd : Daemon)
    (level : Option String) (l : Locals) :
    Moves SameRecord AnyExit (traceDaemonMacro env dd level l) where
  along := by
    intro w
    simp only [traceDaemonMacro, EStateM.run_bind, run_traceDaemon]
    split
    · exact ⟨rfl, rfl⟩
    · exact ⟨rfl, rfl⟩
  exits := fun _ => trivial

/-!
## Loops over the record

A loop that reads `TracePidsArr[j]` for each `j` below `TracePidsNum` and leaves
the record alone is the same loop over the list of the recorded pids.
-/

section Loop

variable {β : Type} {step : β -> Int -> Handler β}

private theorem foldlM_readPid_aux
    (hstep : forall b pid, Moves SameRecord AnyExit (step b pid))
    {done todo : List Int} {w : World} (h : w.RecordIs (done ++ todo))
    (b : β) :
    ((List.range' done.length todo.length).foldlM
        (fun b j => do let pid <- readPid j; step b pid) b).run w =
      (todo.foldlM step b).run w := by
  induction todo generalizing done w b with
  | nil => rfl
  | cons pid rest ih =>
      have hread : (readPid done.length).run w = .ok pid w := by
        rw [run_readPid h (by simp)]
        simp
      rw [List.length_cons, List.range'_succ, List.foldlM_cons,
        List.foldlM_cons, bind_assoc, run_bind_of_ok hread]
      cases hrun : (step b pid).run w with
      | error e w1 =>
          rw [run_bind_of_error hrun, run_bind_of_error hrun]
      | ok b1 w1 =>
          rw [run_bind_of_ok hrun, run_bind_of_ok hrun]
          have hsame : SameRecord w w1 := (hstep b pid).ok hrun
          have hnext : w1.RecordIs ((done ++ [pid]) ++ rest) := by
            simpa using hsame.recordIs h
          simpa using ih hnext b1

theorem foldlM_readPid (hstep : forall b pid, Moves SameRecord AnyExit (step b pid))
    {ps : List Int} {w : World} (h : w.RecordIs ps) (b : β) :
    ((List.range w.tracePidsNum).foldlM
        (fun b j => do let pid <- readPid j; step b pid) b).run w =
      (ps.foldlM step b).run w := by
  have hps : w.RecordIs ([] ++ ps) := h
  have hloop := foldlM_readPid_aux hstep hps b
  rw [h.num, List.range_eq_range']
  exact hloop

end Loop

/-!
## Filling the record from the request
-/

/-- The pids of the request, as the record takes them. -/
def requestedPids (lib : Libs) (a : TraceArgs) : List Int :=
  match a.pids.items? with
  | none => []
  | some items => items.map lib.getInt

theorem run_writePid {w : World} {cells : List (Option Int)}
    (harr : w.tracePidsArr = some cells) {k : Nat} (hk : k < cells.length)
    (pid : Int) :
    (writePid k pid).run w =
      .ok () { w with tracePidsArr := some (cells.set k (some pid)) } := by
  show writePid k pid w = _
  unfold writePid World.cells
  rw [harr]
  exact if_pos hk

section Allocation

variable {env : Env} {w : World} {n : Nat}

theorem run_mallocTracePids_of_allocated
    (h : env.alloc w.log (Allocation.mallocPids n) = true) :
    (mallocTracePids env n).run w =
      .ok true { w.emit (Event.alloc (Allocation.mallocPids n) true) with
        tracePidsArr := some (List.replicate n none) } := by
  show mallocTracePids env n w = _
  simp [mallocTracePids, h]

theorem run_mallocTracePids_of_not_allocated
    (h : env.alloc w.log (Allocation.mallocPids n) = false) :
    (mallocTracePids env n).run w =
      .ok false { w.emit (Event.alloc (Allocation.mallocPids n) false) with
        tracePidsArr := none } := by
  show mallocTracePids env n w = _
  simp [mallocTracePids, h]

theorem run_reallocTracePids_of_allocated
    (h : env.alloc w.log (Allocation.reallocPids n) = true) :
    (reallocTracePids env n).run w =
      .ok true { w.emit (Event.alloc (Allocation.reallocPids n) true) with
        tracePidsArr := some
          (w.cells.take n ++ List.replicate (n - w.cells.length) none) } := by
  show reallocTracePids env n w = _
  simp [reallocTracePids, h]

theorem run_reallocTracePids_of_not_allocated
    (h : env.alloc w.log (Allocation.reallocPids n) = false) :
    (reallocTracePids env n).run w =
      .ok false (w.emit (Event.alloc (Allocation.reallocPids n) false)) := by
  show reallocTracePids env n w = _
  simp [reallocTracePids, h, World.emit]

end Allocation

theorem run_fillPids (lib : Libs) {done : List Int} {items : List Json}
    {w : World}
    (harr : w.tracePidsArr =
      some (done.map some ++ List.replicate items.length none)) :
    (fillPids lib done.length items).run w =
      .ok () { w with
        tracePidsArr := some ((done ++ items.map lib.getInt).map some) } := by
  induction items generalizing done w with
  | nil =>
      have hsame : w.tracePidsArr = some (done.map some) := by
        simpa using harr
      simp only [fillPids, EStateM.run_pure, List.map_nil, List.append_nil,
        ← hsame]
  | cons item rest ih =>
      have hset : (done.map some ++
            List.replicate (item :: rest).length (none : Option Int)).set
              done.length (some (lib.getInt item)) =
          (done ++ [lib.getInt item]).map some ++
            List.replicate rest.length none := by
        simp [List.replicate_succ]
      have hwrite := run_writePid harr (k := done.length) (by simp)
        (lib.getInt item)
      rw [hset] at hwrite
      rw [fillPids, run_bind_of_ok hwrite]
      have hlen : done.length + 1 = (done ++ [lib.getInt item]).length := by
        simp
      rw [hlen, ih rfl]
      simp

def World.afterPrefill (w : World) (lib : Libs) (items : List Json) : World where
  tracePidsNum := items.length
  tracePidsArr := some ((items.map lib.getInt).map some)
  log := w.log ++ [Event.alloc (Allocation.mallocPids items.length) true]

theorem run_prefillRecord_of_none {lib : Libs} {env : Env} {a : TraceArgs}
    (h : a.pids.items? = none) (w : World) :
    (prefillRecord lib env a).run w = .ok () w := by
  unfold prefillRecord
  rw [h]
  rfl

theorem run_prefillRecord_of_allocated {lib : Libs} {env : Env}
    {a : TraceArgs} {items : List Json} (h : a.pids.items? = some items)
    {w : World}
    (halloc : env.alloc w.log (Allocation.mallocPids items.length) = true) :
    (prefillRecord lib env a).run w = .ok () (w.afterPrefill lib items) := by
  have hmalloc := run_mallocTracePids_of_allocated
    (w := { w with tracePidsNum := items.length }) halloc
  have hfill := fun w harr =>
    run_fillPids (w := w) lib (show w.tracePidsArr =
      some (([] : List Int).map some ++ List.replicate items.length none)
      from harr)
  unfold prefillRecord
  simp only [h, EStateM.run_bind, run_setTracePidsNum, hmalloc, if_true]
  exact hfill _ rfl

theorem run_prefillRecord_of_not_allocated {lib : Libs} {env : Env}
    {a : TraceArgs} {items : List Json} (h : a.pids.items? = some items)
    {w : World}
    (halloc : env.alloc w.log (Allocation.mallocPids items.length) = false) :
    exists w', (prefillRecord lib env a).run w = .error Exit.gotoError w' ∧
      w'.log = w.log ++
        [Event.alloc (Allocation.mallocPids items.length) false,
          Event.fail "failed" "out of memory"] := by
  have hmalloc := run_mallocTracePids_of_not_allocated
    (w := { w with tracePidsNum := items.length }) halloc
  unfold prefillRecord
  simp only [h, EStateM.run_bind, run_setTracePidsNum, hmalloc]
  exact ⟨_, rfl, by simp⟩

theorem afterPrefill_recordIs (w : World) (lib : Libs) (items : List Json) :
    (w.afterPrefill lib items).RecordIs (items.map lib.getInt) := by
  constructor
  · simp [World.afterPrefill]
  · exact List.prefix_refl _

/-!
## Rewriting the record after a match
-/

def World.afterOverwrite (w : World) (pid : Int) : World where
  tracePidsNum := 1
  tracePidsArr := some [some pid]
  log := w.log ++ [Event.alloc (Allocation.mallocPids 1) true]

def World.afterAppend (w : World) (pid : Int) : World where
  tracePidsNum := w.tracePidsNum + 1
  tracePidsArr := some ((w.cells.take (w.tracePidsNum + 1) ++
    List.replicate (w.tracePidsNum + 1 - w.cells.length) none).set
      w.tracePidsNum (some pid))
  log := w.log ++
    [Event.alloc (Allocation.reallocPids (w.tracePidsNum + 1)) true]

theorem run_overwriteRecord_of_allocated {env : Env} {w : World}
    (halloc : env.alloc w.log (Allocation.mallocPids 1) = true) (pid : Int) :
    (overwriteRecord env pid).run w = .ok () (w.afterOverwrite pid) := by
  have hmalloc := run_mallocTracePids_of_allocated
    (w := { w with tracePidsNum := 1 }) halloc
  simp only [overwriteRecord, EStateM.run_bind, run_setTracePidsNum, hmalloc,
    if_true]
  rfl

theorem run_overwriteRecord_of_not_allocated {env : Env} {w : World}
    (halloc : env.alloc w.log (Allocation.mallocPids 1) = false)
    (pid : Int) :
    exists w', (overwriteRecord env pid).run w = .error Exit.gotoError w' ∧
      w'.log = w.log ++ [Event.alloc (Allocation.mallocPids 1) false,
        Event.fail "failed" "out of memory"] := by
  have hmalloc := run_mallocTracePids_of_not_allocated
    (w := { w with tracePidsNum := 1 }) halloc
  simp only [overwriteRecord, EStateM.run_bind, run_setTracePidsNum, hmalloc]
  exact ⟨_, rfl, by simp⟩

theorem run_appendRecord_of_allocated {env : Env} {w : World}
    (halloc : env.alloc w.log
      (Allocation.reallocPids (w.tracePidsNum + 1)) = true) (pid : Int) :
    (appendRecord env pid).run w = .ok () (w.afterAppend pid) := by
  have hrealloc := run_reallocTracePids_of_allocated
    (w := { w with tracePidsNum := w.tracePidsNum + 1 }) halloc
  simp only [appendRecord, EStateM.run_bind, EStateM.run_get,
    run_setTracePidsNum, hrealloc, if_true]
  rw [run_writePid rfl]
  · rfl
  · simp only [List.length_append, List.length_take, List.length_replicate]
    omega

theorem run_appendRecord_of_not_allocated {env : Env} {w : World}
    (halloc : env.alloc w.log
      (Allocation.reallocPids (w.tracePidsNum + 1)) = false) (pid : Int) :
    exists w', (appendRecord env pid).run w = .error Exit.gotoError w' ∧
      w'.log = w.log ++
        [Event.alloc (Allocation.reallocPids (w.tracePidsNum + 1)) false,
          Event.fail "failed" "out of memory"] := by
  have hrealloc := run_reallocTracePids_of_not_allocated
    (w := { w with tracePidsNum := w.tracePidsNum + 1 }) halloc
  simp only [appendRecord, EStateM.run_bind, EStateM.run_get,
    run_setTracePidsNum, hrealloc]
  exact ⟨_, rfl, by simp⟩

theorem afterOverwrite_recordIs (w : World) (pid : Int) :
    (w.afterOverwrite pid).RecordIs [pid] :=
  ⟨rfl, List.prefix_refl _⟩

theorem afterAppend_recordIs {w : World} {ps : List Int}
    (h : w.RecordIs ps) (pid : Int) :
    (w.afterAppend pid).RecordIs (ps ++ [pid]) := by
  rcases h.held with ⟨rest, hrest⟩
  constructor
  · simp [World.afterAppend, h.num]
  · show (ps ++ [pid]).map some <+: ((w.cells.take (w.tracePidsNum + 1) ++
      List.replicate (w.tracePidsNum + 1 - w.cells.length) none).set
        w.tracePidsNum (some pid))
    rw [h.num, ← hrest]
    cases rest with
    | nil => simp [List.take_of_length_le]
    | cons c cs => simp [List.take_append, List.take_of_length_le]

end Supervisor
end XdsService
