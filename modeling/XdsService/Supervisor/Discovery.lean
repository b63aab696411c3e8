import XdsService.Supervisor.Collecting
import XdsService.Supervisor.Fleet
import XdsService.Supervisor.Session

/-!
# An undiscovered fleet

The table is allocated before the first call, and `getDaemons` hands it out
also when the supervisor could not be asked.  `trace_start` finds it empty and
fails; `list` looks at the pointer only.
-/

namespace XdsService
namespace Supervisor

open Foundation
open Program

variable {lib : Libs} {env : Env} {apiname : Option String}
variable {queryJ : Json} {a : TraceArgs} {q : QueryArgs}
variable {w w1 w' : World} {rc : Int}

def RequestSucceeds (w w' : World) : Prop :=
  exists e, e ∈ w.eventsSince w' ∧ e.isSuccess = true

def FailsCleanly (lib : Libs) (env : Env) (apiname : Option String)
    (w : World) (request : Request) : Prop :=
  exists rc w', Serves lib env apiname w request rc w' ∧ rc ≠ 0 ∧
    AnsweredOnce w rc w' ∧ RequestFails w w' ∧ SameRecord w w'

/--
A failed discover or list call of its collection makes a request fail: `list`
in any session, `trace_start` with valid arguments while there is none.
-/
structure ReportsUndiscovered (lib : Libs) (env : Env)
    (apiname : Option String) (w : World) : Prop where
  list : ¬ Discovers env w.log ->
    FailsCleanly lib env apiname w Request.list
  success : forall rc w', Serves lib env apiname w Request.list rc w' ->
    RequestSucceeds w w' -> Discovers env w.log
  traceStart : forall queryJ q w1, w.Idle ->
    lib.unpackQuery queryJ = some q -> ¬ (TraceArgs.ofQuery q).Unset ->
    (prefillRecord lib env (TraceArgs.ofQuery q)).run w = .ok () w1 ->
    ¬ Discovers env w1.log ->
    FailsCleanly lib env apiname w (Request.traceStart queryJ)

theorem failsCleanly_of_fail {request : Request} {events : List Event}
    {status info : String}
    (hserves : Serves lib env apiname w request errorCode w')
    (hlog : w'.log = w.log ++ (events ++ [Event.fail status info]))
    (hevents : forall e, e ∈ events -> e.isDiscovery = true)
    (hsame : SameRecord w w') : FailsCleanly lib env apiname w request := by
  have hanswered : AnsweredOnce w errorCode w' :=
    answeredOnce_of_fail hlog
      fun e he => isAnswer_of_isDiscovery (hevents e he)
  exact ⟨errorCode, w', hserves, errorCode_ne_zero, hanswered,
    hanswered.requestFails_iff.mpr errorCode_ne_zero, hsame⟩

/-!
## list
-/

theorem list_fails_of_no_table (lib : Libs) (apiname : Option String)
    (halloc : env.alloc w.log Allocation.callocDaemons = false) :
    FailsCleanly lib env apiname w Request.list := by
  rcases run_getDaemons_of_no_table lib apiname halloc with ⟨rc, w1, hrun⟩
  have hquiet := (quiet_getDaemons lib env apiname).ok hrun
  rcases hquiet.log with ⟨events, hlog, hevents⟩
  have hserves : Serves lib env apiname w Request.list errorCode
      (w1.emit (Event.fail "Failed" "Error daemon list null")) := by
    show (list lib env apiname).run w = _
    unfold list
    rw [run_bind_of_ok hrun]
    rfl
  have hlog' : (w1.emit
      (Event.fail "Failed" "Error daemon list null")).log = w.log ++
        (events ++ [Event.fail "Failed" "Error daemon list null"]) := by
    rw [World.emit_log, hlog, List.append_assoc]
  exact failsCleanly_of_fail hserves hlog' hevents ⟨hquiet.num, hquiet.arr⟩

theorem list_succeeds_of_undiscovered (lib : Libs)
    (apiname : Option String)
    (halloc : env.alloc w.log Allocation.callocDaemons = true)
    (h : ¬ Discovers env w.log) :
    exists w1 : World, Serves lib env apiname w Request.list 0
      (w1.emit (Event.success (Payload.daemons []) none)) := by
  rcases run_getDaemons_of_undiscovered lib apiname h with
    ⟨rc, w1, _, hrun⟩
  refine ⟨w1, ?_⟩
  show (list lib env apiname).run w = _
  unfold list
  rw [run_bind_of_ok hrun]
  unfold allocatedTable
  rw [halloc]
  rfl

/-!
## trace_start
-/

theorem traceStart_fails_of_undiscovered (hidle : w.Idle)
    (hquery : lib.unpackQuery queryJ = some q)
    (hset : ¬ (TraceArgs.ofQuery q).Unset)
    (hprefill : (prefillRecord lib env (TraceArgs.ofQuery q)).run w =
      .ok () w1)
    (h : ¬ Discovers env w1.log) :
    FailsCleanly lib env apiname w (Request.traceStart queryJ) := by
  rcases run_getDaemons_of_undiscovered lib apiname h with
    ⟨rc, w2, _, hrun⟩
  have hempty : tableDaemons (allocatedTable env w1.log) = [] := by
    unfold allocatedTable
    split <;> rfl
  have hlists : ListsDaemons lib env apiname (TraceArgs.ofQuery q) w [] w2 :=
    ⟨_, (run_bind_of_ok hprefill).trans hrun, hempty⟩
  rcases (listsDaemons_searching hidle hlists).log with
    ⟨events, hlog, hevents⟩
  have hserves : Serves lib env apiname w (Request.traceStart queryJ) errorCode
      (w2.emit (Event.fail "failed" "No daemon found")).clearRecord := by
    show (traceStart lib env apiname queryJ).run w = _
    rw [run_traceStart_of_query hquery,
      run_traceStartArgs_of_listsDaemons hset hidle hlists]
    rfl
  have hlog' : (w2.emit
      (Event.fail "failed" "No daemon found")).clearRecord.log = w.log ++
        (events ++ [Event.fail "failed" "No daemon found"]) := by
    rw [World.clearRecord_log, World.emit_log, hlog, List.append_assoc]
  have hcleared := World.clearRecord_idle
    (w2.emit (Event.fail "failed" "No daemon found"))
  exact failsCleanly_of_fail hserves hlog' hevents
    ⟨hcleared.num.trans hidle.num.symm, hcleared.arr.trans hidle.arr.symm⟩

/--
An undiscovered fleet is reported exactly where both calls that `list` makes
succeed, or where it gets no memory for the table.
-/
theorem reports_undiscovered_iff (lib : Libs) (env : Env)
    (apiname : Option String) (w : World) :
    ReportsUndiscovered lib env apiname w <->
      Discovers env w.log ∨
        env.alloc w.log Allocation.callocDaemons = false := by
  constructor
  · intro h
    by_contra hnot
    rw [not_or, Bool.not_eq_false] at hnot
    rcases h.list hnot.1 with ⟨rc, w', hserves, hrc, _⟩
    rcases list_succeeds_of_undiscovered lib apiname hnot.2 hnot.1 with
      ⟨w1, hsuccess⟩
    rw [Serves, hserves] at hsuccess
    cases hsuccess
    exact hrc rfl
  · intro h
    constructor
    · intro hnot
      rcases h with hdiscovers | halloc
      · exact absurd hdiscovers hnot
      · exact list_fails_of_no_table lib apiname halloc
    · intro rc w' hserves hsuccess
      rcases h with hdiscovers | halloc
      · exact hdiscovers
      · rcases list_fails_of_no_table lib apiname halloc with
          ⟨rc1, w1, hfails, hrc, hanswered, _⟩
        rw [Serves, hfails] at hserves
        cases hserves
        exact absurd (hanswered.success.mp hsuccess) hrc
    · intro queryJ q w1 hidle hquery hset hprefill hnot
      exact traceStart_fails_of_undiscovered hidle hquery hset hprefill hnot

def undiscoveredEnv : Env :=
  (fleetEnv pairFleet).refusing fun call => decide (call = Call.discover)

/-- The refused discover call is answered with an empty list. -/
theorem undiscovered_listed_as_empty :
    ¬ ReportsUndiscovered fleetLibs undiscoveredEnv (some "xds")
      World.initial := by
  intro h
  have hundiscovered : ¬ Discovers undiscoveredEnv World.initial.log :=
    fun hdiscovers => absurd hdiscovers.discover (by decide)
  rcases h.list hundiscovered with ⟨rc, w', hserves, hrc, _⟩
  have hsuccess : exists w1, Serves fleetLibs undiscoveredEnv (some "xds")
      World.initial Request.list 0 w1 := ⟨_, rfl⟩
  rcases hsuccess with ⟨w1, hsuccess⟩
  rw [Serves, hserves] at hsuccess
  cases hsuccess
  exact hrc rfl

end Supervisor
end XdsService
