import Mathlib.Data.Finset.Basic
import XdsService.Supervisor.Plan

/-!
# Carrying out a plan

A plan is carried out step by step until a call is refused.  This module says
what one step does, and from it what a whole plan does to the locals, the
record, the log and the traces.
-/

namespace XdsService
namespace Supervisor

open Foundation
open Program

/-!
## One step
-/

/-- The allocation that the update needs is granted in this world. -/
def updateSucceeds (env : Env) (update : RecordUpdate) (w : World) : Bool :=
  match update with
  | RecordUpdate.keep => true
  | RecordUpdate.overwrite => env.alloc w.log (Allocation.mallocPids 1)
  | RecordUpdate.append =>
      env.alloc w.log (Allocation.reallocPids (w.tracePidsNum + 1))

def World.afterUpdate (w : World) (update : RecordUpdate) (pid : Int) : World :=
  match update with
  | RecordUpdate.keep => w
  | RecordUpdate.overwrite => w.afterOverwrite pid
  | RecordUpdate.append => w.afterAppend pid

/-- The recorded pids after an update. -/
def recordAfter (update : RecordUpdate) (pid : Int) (ps : List Int) :
    List Int :=
  match update with
  | RecordUpdate.keep => ps
  | RecordUpdate.overwrite => [pid]
  | RecordUpdate.append => ps ++ [pid]

def Event.isTracing : Event -> Bool
  | alloc _ _ => true
  | service (Call.traceDrop _) _ => true
  | service (Call.traceAdd _ _ _) _ => true
  | _ => false

def Event.isAllocation : Event -> Bool
  | alloc _ _ => true
  | _ => false

section Update

variable {env : Env} {update : RecordUpdate} {w : World} {pid : Int}

theorem run_updateRecord_of_succeeds
    (h : updateSucceeds env update w = true) :
    (updateRecord env update pid).run w = .ok () (w.afterUpdate update pid) := by
  cases update with
  | keep => rfl
  | overwrite => exact run_overwriteRecord_of_allocated h pid
  | append => exact run_appendRecord_of_allocated h pid

theorem run_updateRecord_of_fails
    (h : updateSucceeds env update w = false) :
    exists w' e, (updateRecord env update pid).run w =
        .error Exit.gotoError w' ∧
      w'.log = w.log ++ [e, Event.fail "failed" "out of memory"] ∧
      e.isAllocation = true := by
  cases update with
  | keep => cases h
  | overwrite =>
      rcases run_overwriteRecord_of_not_allocated h pid with ⟨w', hrun, hlog⟩
      exact ⟨w', _, hrun, hlog, rfl⟩
  | append =>
      rcases run_appendRecord_of_not_allocated h pid with ⟨w', hrun, hlog⟩
      exact ⟨w', _, hrun, hlog, rfl⟩

theorem afterUpdate_recordIs {ps : List Int} (h : w.RecordIs ps) :
    (w.afterUpdate update pid).RecordIs (recordAfter update pid ps) := by
  cases update with
  | keep => exact h
  | overwrite => exact afterOverwrite_recordIs w pid
  | append => exact afterAppend_recordIs h pid

theorem afterUpdate_log (w : World) (update : RecordUpdate) (pid : Int) :
    exists events, (w.afterUpdate update pid).log = w.log ++ events ∧
      forall e, e ∈ events -> e.isAllocation = true := by
  cases update with
  | keep => exact ⟨[], by simp [World.afterUpdate], by simp⟩
  | overwrite => exact ⟨_, rfl, by simp [Event.isAllocation]⟩
  | append => exact ⟨_, rfl, by simp [Event.isAllocation]⟩

theorem updateSucceeds_of_allocationsSucceed
    (halloc : AllocationsSucceed env) (update : RecordUpdate) (w : World) :
    updateSucceeds env update w = true := by
  cases update with
  | keep => rfl
  | overwrite => exact halloc _ _ (by simp)
  | append => exact halloc _ _ (by simp)

end Update

theorem isTracing_of_isAllocation {e : Event} (h : e.isAllocation = true) :
    e.isTracing = true := by
  cases e <;> first | rfl | cases h

theorem addedPids_of_allocations {events : List Event}
    (h : forall e, e ∈ events -> e.isAllocation = true) :
    addedPids events = [] := by
  apply List.filterMap_eq_nil_iff.mpr
  intro e he
  have halloc := h e he
  cases e <;> first | rfl | cases halloc

theorem isDiscovery_of_isAllocation {e : Event}
    (h : e.isAllocation = true) : e.isDiscovery = true := by
  cases e <;> first | rfl | cases h

theorem traced_afterUpdate (w : World) (update : RecordUpdate) (pid : Int) :
    traced (w.afterUpdate update pid).log = traced w.log := by
  rcases afterUpdate_log w update pid with ⟨events, hlog, hall⟩
  rw [hlog]
  exact traced_append_discovery
    fun e he => isDiscovery_of_isAllocation (hall e he)

/-- The text of the answer when an add was rejected. -/
def traceFailure (pid rc : Int) : String :=
  "Trace pid " ++ toString pid ++ " error " ++ toString rc

section Macro

variable {env : Env} {level : Option String} {d : Daemon} {l : Locals}
variable {w : World}

theorem run_traceDaemonMacro_of_accepted
    (h : 0 ≤ (addReply env level w.log d.pid).rc) :
    (traceDaemonMacro env d level l).run w =
      .ok ⟨l.nbTracedDaemons + 1, l.result ++ [d.pid]⟩
        (w.afterTrace env level d.pid) := by
  have hrc : ¬ min (addReply env level w.log d.pid).rc 0 < 0 := by
    omega
  simp only [traceDaemonMacro, EStateM.run_bind, run_traceDaemon, hrc,
    if_false]
  rfl

theorem run_traceDaemonMacro_of_rejected
    (h : (addReply env level w.log d.pid).rc < 0) :
    (traceDaemonMacro env d level l).run w =
      .error Exit.gotoError ((w.afterTrace env level d.pid).emit
        (Event.fail "failed"
          (traceFailure d.pid (addReply env level w.log d.pid).rc))) := by
  have hmin : min (addReply env level w.log d.pid).rc 0 =
      (addReply env level w.log d.pid).rc := min_eq_left (by omega)
  simp only [traceDaemonMacro, EStateM.run_bind, run_traceDaemon, hmin, h,
    if_true]
  rfl

end Macro

/-!
## Whole plans

The first step of a plan either is refused, by a rejected add or by a failed
allocation, or leaves the rest of the plan to be carried out.
-/

def visitedPids : List PlanStep -> List Int
  | [] => []
  | PlanStep.crash :: rest => visitedPids rest
  | PlanStep.visit d _ :: rest => d.pid :: visitedPids rest

def recordAfterPlan : List PlanStep -> List Int -> List Int
  | [], ps => ps
  | PlanStep.crash :: rest, ps => recordAfterPlan rest ps
  | PlanStep.visit d update :: rest, ps =>
      recordAfterPlan rest (recordAfter update d.pid ps)

section RunPlan

variable {env : Env} {level : Option String}
variable {d : Daemon} {update : RecordUpdate} {rest : List PlanStep}
variable {l : Locals} {w : World}

def World.afterVisit (w : World) (env : Env) (level : Option String)
    (update : RecordUpdate) (pid : Int) : World :=
  (w.afterTrace env level pid).afterUpdate update pid

theorem run_runPlan_visit_of_accepted
    (hadd : 0 ≤ (addReply env level w.log d.pid).rc)
    (hupdate : updateSucceeds env update (w.afterTrace env level d.pid) = true) :
    (runPlan env level (PlanStep.visit d update :: rest) l).run w =
      (runPlan env level rest
        ⟨l.nbTracedDaemons + 1, l.result ++ [d.pid]⟩).run
          (w.afterVisit env level update d.pid) := by
  rw [runPlan, run_bind_of_ok (run_traceDaemonMacro_of_accepted hadd),
    run_bind_of_ok (run_updateRecord_of_succeeds hupdate)]
  rfl

theorem run_runPlan_visit_of_rejected
    (hadd : (addReply env level w.log d.pid).rc < 0) :
    (runPlan env level (PlanStep.visit d update :: rest) l).run w =
      .error Exit.gotoError ((w.afterTrace env level d.pid).emit
        (Event.fail "failed"
          (traceFailure d.pid (addReply env level w.log d.pid).rc))) := by
  rw [runPlan, run_bind_of_error (run_traceDaemonMacro_of_rejected hadd)]

theorem run_runPlan_visit_of_update_fails
    (hadd : 0 ≤ (addReply env level w.log d.pid).rc)
    (hupdate :
      updateSucceeds env update (w.afterTrace env level d.pid) = false) :
    exists w' e,
      (runPlan env level (PlanStep.visit d update :: rest) l).run w =
        .error Exit.gotoError w' ∧
      w'.log = (w.afterTrace env level d.pid).log ++
        [e, Event.fail "failed" "out of memory"] ∧
      e.isAllocation = true := by
  rcases run_updateRecord_of_fails hupdate with ⟨w', e, hrun, hlog, he⟩
  refine ⟨w', e, ?_, hlog, he⟩
  rw [runPlan, run_bind_of_ok (run_traceDaemonMacro_of_accepted hadd),
    run_bind_of_error hrun]

theorem traced_afterVisit (hadd : 0 ≤ (addReply env level w.log d.pid).rc) :
    traced (w.afterVisit env level update d.pid).log =
      insert d.pid (traced w.log) := by
  unfold World.afterVisit
  rw [traced_afterUpdate, traced_afterTrace_of_accepted hadd]

theorem afterVisit_recordIs {ps : List Int} (h : w.RecordIs ps) :
    (w.afterVisit env level update d.pid).RecordIs
      (recordAfter update d.pid ps) :=
  afterUpdate_recordIs ⟨h.num, h.held⟩

/-- The two calls of `trace_daemon` as they appear in the log. -/
def traceEvents (env : Env) (level : Option String) (log : List Event)
    (pid : Int) : List Event :=
  [dropEvent env log pid, addEvent env level log pid]

theorem isTracing_traceEvents {log : List Event} {pid : Int} :
    forall e, e ∈ traceEvents env level log pid -> e.isTracing = true := by
  intro e he
  rcases List.mem_cons.mp he with rfl | he
  · rfl
  · rw [List.mem_singleton.mp he]
    rfl

theorem addedPids_traceEvents {log : List Event} {pid : Int} :
    addedPids (traceEvents env level log pid) = [pid] := rfl

theorem afterVisit_log (w : World) (env : Env) (level : Option String)
    (update : RecordUpdate) (pid : Int) :
    exists events, (w.afterVisit env level update pid).log = w.log ++ events ∧
      (forall e, e ∈ events -> e.isTracing = true) ∧
      addedPids events = [pid] := by
  rcases afterUpdate_log (w.afterTrace env level pid) update pid with
    ⟨events, hlog, hall⟩
  refine ⟨traceEvents env level w.log pid ++ events, ?_, ?_, ?_⟩
  · rw [World.afterVisit, hlog, afterTrace_log, List.append_assoc]
    rfl
  · intro e he
    rcases List.mem_append.mp he with he | he
    · exact isTracing_traceEvents e he
    · exact isTracing_of_isAllocation (hall e he)
  · rw [addedPids_append, addedPids_traceEvents,
      addedPids_of_allocations hall]
    rfl

/-- What a plan does that is carried out to its end. -/
structure PlanDone (steps : List PlanStep) (l : Locals) (w : World)
    (l' : Locals) (w' : World) : Prop where
  locals : l' = ⟨l.nbTracedDaemons + (visitedPids steps).length,
    l.result ++ visitedPids steps⟩
  log : exists events, w'.log = w.log ++ events ∧
    (forall e, e ∈ events -> e.isTracing = true) ∧
    addedPids events = visitedPids steps
  recordIs : forall ps, w.RecordIs ps -> w'.RecordIs (recordAfterPlan steps ps)
  traced : traced w'.log = traced w.log ∪ (visitedPids steps).toFinset

theorem PlanDone.nil (l : Locals) (w : World) : PlanDone [] l w l w where
  locals := by simp [visitedPids]
  log := ⟨[], by simp [addedPids, visitedPids]⟩
  recordIs := fun ps hps => hps
  traced := by simp [visitedPids]

theorem PlanDone.cons {l' : Locals} {w' : World}
    (hadd : 0 ≤ (addReply env level w.log d.pid).rc)
    (h : PlanDone rest ⟨l.nbTracedDaemons + 1, l.result ++ [d.pid]⟩
      (w.afterVisit env level update d.pid) l' w') :
    PlanDone (PlanStep.visit d update :: rest) l w l' w' := by
  rcases afterVisit_log w env level update d.pid with
    ⟨events, hlog, hall, hadded⟩
  rcases h.log with ⟨events', hlog', hall', hadded'⟩
  constructor
  · rw [h.locals]
    simp [visitedPids, Nat.add_assoc, Nat.add_comm 1]
  · refine ⟨events ++ events', ?_, ?_, ?_⟩
    · rw [hlog', hlog, List.append_assoc]
    · intro e he
      rcases List.mem_append.mp he with he | he
      · exact hall e he
      · exact hall' e he
    · rw [addedPids_append, hadded, hadded']
      rfl
  · intro ps hps
    exact h.recordIs _ (afterVisit_recordIs hps)
  · rw [h.traced, traced_afterVisit hadd]
    ext p
    simp only [visitedPids, Finset.mem_union, Finset.mem_insert,
      List.mem_toFinset, List.mem_cons]
    rw [or_assoc]
    exact or_left_comm

theorem planDone_of_run_eq_ok {steps : List PlanStep} {l l' : Locals}
    {w w' : World} (h : (runPlan env level steps l).run w = .ok l' w') :
    PlanDone steps l w l' w' := by
  induction steps generalizing l w with
  | nil =>
      cases h
      exact PlanDone.nil _ _
  | cons step rest ih =>
      cases step with
      | crash => cases h
      | visit d update =>
          by_cases hadd : 0 ≤ (addReply env level w.log d.pid).rc
          · cases hupdate : updateSucceeds env update
              (w.afterTrace env level d.pid) with
            | true =>
                rw [run_runPlan_visit_of_accepted hadd hupdate] at h
                exact PlanDone.cons hadd (ih h)
            | false =>
                rcases run_runPlan_visit_of_update_fails hadd hupdate with
                  ⟨w1, e, hrun, _⟩
                rw [hrun] at h
                cases h
          · rw [run_runPlan_visit_of_rejected (by omega)] at h
            cases h

/--
What a plan does that is not carried out to its end: its calls are still traces
and allocations, and the jump to the label `error` comes after one answer.
-/
inductive PlanBroken (steps : List PlanStep) (w : World) :
    Exit -> World -> Prop where
  | refused {w' : World} (events : List Event) (info : String) :
      w'.log = w.log ++ events ++ [Event.fail "failed" info] ->
      (forall e, e ∈ events -> e.isTracing = true) ->
      (forall p, p ∈ addedPids events -> p ∈ visitedPids steps) ->
      PlanBroken steps w Exit.gotoError w'
  | crashed {w' : World} (events : List Event) :
      w'.log = w.log ++ events ->
      (forall e, e ∈ events -> e.isTracing = true) ->
      (forall p, p ∈ addedPids events -> p ∈ visitedPids steps) ->
      PlanStep.crash ∈ steps ->
      PlanBroken steps w (Exit.fault Fault.notArray) w'

theorem PlanBroken.cons {update : RecordUpdate} {e : Exit} {w' : World}
    (h : PlanBroken rest (w.afterVisit env level update d.pid) e w') :
    PlanBroken (PlanStep.visit d update :: rest) w e w' := by
  rcases afterVisit_log w env level update d.pid with
    ⟨events, hlog, hall, hadded⟩
  have hvisited : forall {events' : List Event},
      (forall p, p ∈ addedPids events' -> p ∈ visitedPids rest) ->
      forall p, p ∈ addedPids (events ++ events') ->
        p ∈ visitedPids (PlanStep.visit d update :: rest) := by
    intro events' hadded' p hp
    rw [addedPids_append, hadded] at hp
    rcases List.mem_append.mp hp with hp | hp
    · simp [visitedPids, List.mem_singleton.mp hp]
    · simp [visitedPids, hadded' p hp]
  have htracing : forall {events' : List Event},
      (forall e, e ∈ events' -> e.isTracing = true) ->
      forall e, e ∈ events ++ events' -> e.isTracing = true := by
    intro events' hall' e he
    rcases List.mem_append.mp he with he | he
    · exact hall e he
    · exact hall' e he
  cases h with
  | refused events' info hlog' hall' hadded' =>
      refine PlanBroken.refused (events ++ events') info ?_ (htracing hall')
        (hvisited hadded')
      rw [hlog', hlog, List.append_assoc w.log]
  | crashed events' hlog' hall' hadded' hcrash =>
      refine PlanBroken.crashed (events ++ events') ?_ (htracing hall')
        (hvisited hadded') (List.mem_cons_of_mem _ hcrash)
      rw [hlog', hlog, List.append_assoc]

theorem planBroken_of_run_eq_error {steps : List PlanStep} {l : Locals}
    {e : Exit} {w w' : World}
    (h : (runPlan env level steps l).run w = .error e w') :
    PlanBroken steps w e w' := by
  induction steps generalizing l w with
  | nil => cases h
  | cons step rest ih =>
      cases step with
      | crash =>
          cases h
          exact PlanBroken.crashed [] (List.append_nil _).symm
            (fun e he => by cases he) (fun p hp => by cases hp) (by simp)
      | visit d update =>
          by_cases hadd : 0 ≤ (addReply env level w.log d.pid).rc
          · cases hupdate : updateSucceeds env update
              (w.afterTrace env level d.pid) with
            | true =>
                rw [run_runPlan_visit_of_accepted hadd hupdate] at h
                exact PlanBroken.cons (ih h)
            | false =>
                rcases run_runPlan_visit_of_update_fails hadd hupdate with
                  ⟨w1, alloc, hrun, hlog, halloc⟩
                rw [hrun] at h
                cases h
                refine PlanBroken.refused
                  (traceEvents env level w.log d.pid ++ [alloc])
                  "out of memory" ?_ ?_ ?_
                · rw [hlog, afterTrace_log]
                  simp [traceEvents]
                · intro e he
                  rcases List.mem_append.mp he with he | he
                  · exact isTracing_traceEvents e he
                  · rw [List.mem_singleton.mp he]
                    exact isTracing_of_isAllocation halloc
                · have hnone : addedPids [alloc] = [] :=
                    addedPids_of_allocations (by simpa using halloc)
                  rw [addedPids_append, addedPids_traceEvents, hnone]
                  simp [visitedPids]
          · rw [run_runPlan_visit_of_rejected (by omega)] at h
            cases h
            refine PlanBroken.refused (traceEvents env level w.log d.pid)
              (traceFailure d.pid (addReply env level w.log d.pid).rc)
              ?_ isTracing_traceEvents ?_
            · simp [traceEvents]
            · simp [addedPids_traceEvents, visitedPids]

end RunPlan

end Supervisor
end XdsService
