import XdsService.Supervisor.Accepted

/-!
# What a failed start leaves behind

The label `error` of `trace_start` releases the record and drops nothing.  A
refused add has already dropped the traces of its own daemon, so a failed start
leaves traces behind exactly if another daemon was traced before, or if the
record could not take up a daemon that was just traced.
-/

namespace XdsService
namespace Supervisor

open Foundation
open Program

variable {lib : Libs} {env : Env} {apiname : Option String}
variable {queryJ : Json} {a : TraceArgs} {q : QueryArgs}
variable {daemons : List Daemon} {level : Option String}
variable {w w1 w' : World} {rc : Int}

/-!
## Undoing a start
-/

/-- Every accepted add is followed by a drop, and nothing is left. -/
structure Undone (w w' : World) : Prop where
  dropped : forall earlier pid requests events reply later,
    w.eventsSince w' =
      earlier ++
        Event.service (Call.traceAdd pid requests events) reply :: later ->
    reply.accepted = true ->
    pid ∈ droppedPids later
  untraced : traced w'.log = ∅
  idle : w'.Idle

theorem mem_droppedPids {pid : Int} {reply : Reply} {events : List Event}
    (h : Event.service (Call.traceDrop pid) reply ∈ events) :
    pid ∈ droppedPids events :=
  List.mem_filterMap.mpr ⟨_, h, rfl⟩

theorem mem_droppedPids_of_tracedEntry {pid : Int} {events : List Event}
    (h : Ledger.Entry.remove pid ∈ events.filterMap tracedEntry) :
    pid ∈ droppedPids events := by
  rcases List.mem_filterMap.mp h with ⟨e, he, hentry⟩
  cases e with
  | service call reply =>
      cases call with
      | traceDrop pid' =>
          by_cases haccepted : reply.accepted = true
          · simp [tracedEntry, haccepted] at hentry
            exact mem_droppedPids (hentry ▸ he)
          · simp [tracedEntry, haccepted] at hentry
      | traceAdd pid' requests events' =>
          by_cases haccepted : reply.accepted = true
          · simp [tracedEntry, haccepted] at hentry
          · simp [tracedEntry, haccepted] at hentry
      | _ => cases hentry
  | _ => cases hentry

theorem mem_traced_of_add {log earlier later : List Event} {pid : Int}
    {requests events : List String} {reply : Reply}
    (hlog : log = earlier ++
      Event.service (Call.traceAdd pid requests events) reply :: later)
    (haccepted : reply.accepted = true) (hlater : pid ∉ droppedPids later) :
    pid ∈ traced log := by
  unfold traced
  rw [Ledger.mem_replay_iff, hlog]
  refine ⟨earlier.filterMap tracedEntry, later.filterMap tracedEntry, ?_, ?_⟩
  · simp [tracedEntry, haccepted]
  · exact fun h => hlater (mem_droppedPids_of_tracedEntry h)

theorem undone_of_traced_eq_empty (hlog : w'.log = w.log ++ w.eventsSince w')
    (hnone : traced w'.log = ∅) (hidle : w'.Idle) : Undone w w' := by
  refine ⟨?_, hnone, hidle⟩
  intro earlier pid requests events reply later hevents haccepted
  by_contra hlater
  rw [hevents, ← List.append_assoc] at hlog
  have hmem := mem_traced_of_add hlog haccepted hlater
  rw [hnone] at hmem
  cases hmem

/-!
## Where a plan is refused
-/

/--
Carrying out the steps, with the pids `done` traced before, is refused so that a
traced pid stays behind: by a rejected add, which takes only its own pid away, or
by a failed allocation after an accepted add.
-/
def strandsFrom (env : Env) (level : Option String) :
    World -> List Int -> List PlanStep -> Bool
  | _, _, [] => false
  | _, _, PlanStep.crash :: _ => false
  | w, done, PlanStep.visit d update :: rest =>
      if (addReply env level w.log d.pid).rc < 0 then
        done.any fun p => decide (p ≠ d.pid)
      else if updateSucceeds env update (w.afterTrace env level d.pid) then
        strandsFrom env level (w.afterVisit env level update d.pid)
          (done ++ [d.pid]) rest
      else
        true

section StrandsFrom

variable {d : Daemon} {update : RecordUpdate} {rest steps : List PlanStep}
variable {done : List Int} {l l' : Locals}

theorem strandsFrom_visit_of_rejected
    (hadd : (addReply env level w.log d.pid).rc < 0) :
    strandsFrom env level w done (PlanStep.visit d update :: rest) =
      done.any fun p => decide (p ≠ d.pid) :=
  if_pos hadd

theorem strandsFrom_visit_of_update_fails
    (hadd : 0 ≤ (addReply env level w.log d.pid).rc)
    (hupdate :
      updateSucceeds env update (w.afterTrace env level d.pid) = false) :
    strandsFrom env level w done (PlanStep.visit d update :: rest) = true := by
  rw [strandsFrom, if_neg (by omega), hupdate]
  rfl

theorem strandsFrom_visit_of_accepted
    (hadd : 0 ≤ (addReply env level w.log d.pid).rc)
    (hupdate : updateSucceeds env update (w.afterTrace env level d.pid) = true) :
    strandsFrom env level w done (PlanStep.visit d update :: rest) =
      strandsFrom env level (w.afterVisit env level update d.pid)
        (done ++ [d.pid]) rest := by
  rw [strandsFrom, if_neg (by omega), if_pos hupdate]

theorem strandsFrom_of_run_eq_ok
    (hrun : (runPlan env level steps l).run w = .ok l' w') :
    strandsFrom env level w done steps = false := by
  induction steps generalizing l w done with
  | nil => rfl
  | cons step rest ih =>
      cases step with
      | crash => rfl
      | visit d update =>
          by_cases hadd : 0 ≤ (addReply env level w.log d.pid).rc
          · cases hupdate : updateSucceeds env update
              (w.afterTrace env level d.pid) with
            | true =>
                rw [run_runPlan_visit_of_accepted hadd hupdate] at hrun
                rw [strandsFrom_visit_of_accepted hadd hupdate]
                exact ih hrun
            | false =>
                rcases run_runPlan_visit_of_update_fails hadd hupdate with
                  ⟨w2, e, hfails, _⟩
                rw [hfails] at hrun
                cases hrun
          · rw [run_runPlan_visit_of_rejected (by omega)] at hrun
            cases hrun

/-- What stays traced when a plan is refused. -/
theorem traced_eq_empty_iff_of_refused (hdrops : AcceptsTracedDrops env)
    (hdone : traced w.log = done.toFinset)
    (hrun : (runPlan env level steps l).run w = .error Exit.gotoError w') :
    traced w'.log = ∅ <-> strandsFrom env level w done steps = false := by
  induction steps generalizing l w done with
  | nil => cases hrun
  | cons step rest ih =>
      cases step with
      | crash => cases hrun
      | visit d update =>
          by_cases hadd : 0 ≤ (addReply env level w.log d.pid).rc
          · cases hupdate : updateSucceeds env update
              (w.afterTrace env level d.pid) with
            | true =>
                rw [run_runPlan_visit_of_accepted hadd hupdate] at hrun
                rw [strandsFrom_visit_of_accepted hadd hupdate]
                refine ih ?_ hrun
                rw [traced_afterVisit hadd, hdone]
                ext p
                simp only [Finset.mem_insert, List.mem_toFinset,
                  List.mem_append, List.mem_singleton]
                exact or_comm
            | false =>
                rcases run_runPlan_visit_of_update_fails hadd hupdate with
                  ⟨w2, e, hfails, hlog, he⟩
                rw [hfails] at hrun
                cases hrun
                have htraced : traced w'.log =
                    insert d.pid (traced w.log) := by
                  have hcut : w'.log = ((w.afterTrace env level d.pid).log ++
                      [e]) ++ [Event.fail "failed" "out of memory"] := by
                    rw [hlog, List.append_assoc]
                    rfl
                  rw [hcut, traced_append_of_none rfl, traced_append_discovery,
                    traced_afterTrace_of_accepted hadd]
                  simpa using isDiscovery_of_isAllocation he
                rw [htraced, strandsFrom_visit_of_update_fails hadd hupdate]
                simp
          · have hrejected : (addReply env level w.log d.pid).rc < 0 := by
              omega
            rw [run_runPlan_visit_of_rejected hrejected] at hrun
            cases hrun
            rw [strandsFrom_visit_of_rejected hrejected, World.emit_log,
              traced_append_of_none rfl,
              traced_afterTrace_of_rejected hdrops hrejected, hdone,
              Finset.eq_empty_iff_forall_notMem, List.any_eq_false]
            refine forall_congr' fun p => ?_
            simp only [Finset.mem_erase, List.mem_toFinset, not_and, ne_eq,
              decide_not, Bool.not_eq_true', decide_eq_false_iff_not, not_not]
            tauto

end StrandsFrom

/-!
## Requests
-/

/-- The request comes to a search that strands a traced pid. -/
def Strands (lib : Libs) (env : Env) (apiname : Option String)
    (queryJ : Json) (w : World) : Prop :=
  exists q daemons w1, lib.unpackQuery queryJ = some q ∧
    ¬ (TraceArgs.ofQuery q).Unset ∧
    ListsDaemons lib env apiname (TraceArgs.ofQuery q) w daemons w1 ∧
    strandsFrom env (TraceArgs.ofQuery q).level w1 []
      (plan lib (TraceArgs.ofQuery q) daemons) = true

theorem undone_emit_fail (hidle : w.Idle) (hnone : traced w.log = ∅)
    (status info : String) : Undone w (w.emit (Event.fail status info)) := by
  refine undone_of_traced_eq_empty ?_ ?_ (hidle.emit _)
  · exact (answeredOnce_emit_fail w status info).log_eq
  · rw [World.emit_log, traced_append_of_none rfl]
    exact hnone

theorem undone_iff_of_listsDaemons (hdrops : AcceptsTracedDrops env)
    (hidle : w.Idle) (hnone : traced w.log = ∅) (hset : ¬ a.Unset)
    (hanswered : AnsweredOnce w rc w')
    (hlists : ListsDaemons lib env apiname a w daemons w1)
    (hrun : (traceStartArgs lib env apiname a).run w = .ok rc w') :
    (RequestFails w w' -> Undone w w') <->
      strandsFrom env a.level w1 [] (plan lib a daemons) = false := by
  have hsearch := listsDaemons_searching hidle hlists
  have hnone1 : traced w1.log = ([] : List Int).toFinset := by
    rw [hsearch.traced_eq, hnone]
    rfl
  rw [run_traceStartArgs_of_listsDaemons hset hidle hlists] at hrun
  cases hplan : (runPlan env a.level (plan lib a daemons) ⟨0, []⟩).run w1 with
  | ok l w2 =>
      rw [hplan] at hrun
      have haccepted := acceptedStart_of_planDone hsearch
        (planDone_of_run_eq_ok hplan) hrun
      refine ⟨fun _ => strandsFrom_of_run_eq_ok hplan, ?_⟩
      intro _ hfails
      by_cases hvisited : visitedPids (plan lib a daemons) = []
      · have htraced := haccepted.traced
        rw [hnone, hvisited] at htraced
        exact undone_of_traced_eq_empty hanswered.log_eq htraced
          (haccepted.failed hvisited).right
      · exact absurd (haccepted.started hvisited).left
          (hanswered.requestFails_iff.mp hfails)
  | error e w2 =>
      rw [hplan] at hrun
      cases e with
      | fault f => cases hrun
      | gotoError =>
          cases hrun
          have hfails := hanswered.requestFails_iff.mpr errorCode_ne_zero
          rw [← traced_eq_empty_iff_of_refused hdrops hnone1 hplan]
          constructor
          · intro h
            exact (h hfails).untraced
          · intro htraced _
            exact undone_of_traced_eq_empty hanswered.log_eq htraced
              (World.clearRecord_idle w2)

/-- A failed start is undone exactly if it strands no traced pid. -/
theorem failed_start_undone_iff (hdrops : AcceptsTracedDrops env)
    (hidle : w.Idle) (hnone : traced w.log = ∅)
    (hrun : (traceStart lib env apiname queryJ).run w = .ok rc w') :
    (RequestFails w w' -> Undone w w') <->
      ¬ Strands lib env apiname queryJ w := by
  have hanswered := (served_traceStart hidle.sessionInv hrun).answered
  unfold Strands
  cases startEntry_of_run hrun with
  | refused status info hnever =>
      refine iff_of_true (fun _ => undone_emit_fail hidle hnone status info) ?_
      intro h
      rcases h with ⟨q, _, _, hquery, hset, _⟩
      exact hnever q hquery hset hidle.num
  | entered q hquery hset hnum hrun =>
      by_cases hlists : exists daemons w1,
          ListsDaemons lib env apiname (TraceArgs.ofQuery q) w daemons w1
      · rcases hlists with ⟨daemons, w1, hlists⟩
        rw [undone_iff_of_listsDaemons hdrops hidle hnone hset hanswered hlists
          hrun]
        constructor
        · intro hstrands h
          rcases h with ⟨q', daemons', w2, hquery', _, hlists', hstrands'⟩
          rw [hquery] at hquery'
          cases hquery'
          rcases listsDaemons_unique hlists hlists' with ⟨rfl, rfl⟩
          rw [hstrands] at hstrands'
          cases hstrands'
        · intro h
          rw [← Bool.not_eq_true]
          intro hstrands
          exact h ⟨q, daemons, w1, hquery, hset, hlists, hstrands⟩
      · have hnever : forall daemons w1, ¬ ListsDaemons lib env apiname
            (TraceArgs.ofQuery q) w daemons w1 :=
          fun daemons w1 h => hlists ⟨daemons, w1, h⟩
        have hfailed := failed_of_not_listsDaemons hset hidle hnever hrun
        constructor
        · intro _ h
          rcases h with ⟨q', daemons, w1, hquery', _, hlists', _⟩
          rw [hquery] at hquery'
          cases hquery'
          exact hnever daemons w1 hlists'
        · intro _ _
          exact undone_of_traced_eq_empty hanswered.log_eq
            (hfailed.right.trans hnone) hfailed.left

def refusingEnv : Env :=
  (fleetEnv pairFleet).refusing fun call => decide (call = addCall none 20)

theorem refusingEnv_acceptsTracedDrops : AcceptsTracedDrops refusingEnv :=
  refusing_acceptsTracedDrops
    (fleetEnv_rejectsExactlyUntraced pairFleet).acceptsTracedDrops
    fun _ => rfl

theorem failed_start_undone_iff_refusing :
    exists rc w',
      (traceStart fleetLibs refusingEnv (some "xds") (wsQuery "map")).run
          World.initial = .ok rc w' ∧
        rc = errorCode ∧
        ((RequestFails World.initial w' -> Undone World.initial w') <->
          ¬ Strands fleetLibs refusingEnv (some "xds") (wsQuery "map")
            World.initial) := by
  have hreturns : returnsWith (fun rc _ => decide (rc = errorCode))
      ((traceStart fleetLibs refusingEnv (some "xds") (wsQuery "map")).run
        World.initial) = true := by
    decide +kernel
  rcases exists_of_returnsWith hreturns with ⟨rc, w', hrun, hrc⟩
  exact ⟨rc, w', hrun, of_decide_eq_true hrc,
    failed_start_undone_iff refusingEnv_acceptsTracedDrops World.initial_idle
      rfl hrun⟩

/-- Pid 10 is traced before the add for pid 20 is rejected, and stays so. -/
theorem stranded_by_rejected_add :
    AcceptsTracedDrops refusingEnv ∧
      exists rc w',
        (traceStart fleetLibs refusingEnv (some "xds") (wsQuery "gps")).run
            World.initial = .ok rc w' ∧
          RequestFails World.initial w' ∧ ¬ Undone World.initial w' ∧
          traced w'.log = {10} := by
  refine ⟨refusingEnv_acceptsTracedDrops, ?_⟩
  have hreturns : returnsWith
      (fun rc w' => decide (rc = errorCode ∧ traced w'.log = {10}))
      ((traceStart fleetLibs refusingEnv (some "xds") (wsQuery "gps")).run
        World.initial) = true := by
    decide +kernel
  rcases exists_of_returnsWith hreturns with ⟨rc, w', hrun, hcheck⟩
  rcases of_decide_eq_true hcheck with ⟨hrc, htraced⟩
  have hserved := served_traceStart World.initial_idle.sessionInv hrun
  refine ⟨rc, w', hrun, ?_, ?_, htraced⟩
  · rw [hserved.answered.requestFails_iff, hrc]
    exact errorCode_ne_zero
  · intro hundone
    exact absurd (htraced.symm.trans hundone.untraced) (by decide)

end Supervisor
end XdsService
