import Mathlib.Data.Finset.Lattice.Lemmas
import XdsService.Supervisor.Accepted

/-!
# Does the record cover the traces?

A trace is orphaned if its pid is not recorded: no later stop drops it.  A start
orphans a trace exactly if it rewrites the record for the pid asked for
after it has traced another daemon, and a stop exactly if the supervisor rejects
the drop of a traced pid.
-/

namespace XdsService
namespace Supervisor

open Foundation
open Program

variable {lib : Libs} {env : Env} {apiname : Option String}
variable {queryJ : Json} {a : TraceArgs} {q : QueryArgs}
variable {daemons : List Daemon} {ps : List Int}
variable {w0 w w1 w' : World} {rc : Int} {request : Request}
variable {moves : List RequestMove}

/-- Every traced pid is one of `TracePidsArr[0 .. TracePidsNum)`. -/
def Covered (w : World) : Prop :=
  forall p, p ∈ traced w.log ->
    exists k, k < w.tracePidsNum ∧ w.cells[k]? = some (some p)

instance (w : World) : Decidable (Covered w) := by
  unfold Covered
  infer_instance

theorem covered_iff (h : w.RecordIs ps) :
    Covered w <-> forall p, p ∈ traced w.log -> p ∈ ps := by
  constructor
  · intro hcovered p hp
    rcases hcovered p hp with ⟨k, hk, hcell⟩
    rw [h.num] at hk
    rw [h.cell hk] at hcell
    cases hcell
    exact List.getElem_mem hk
  · intro hmem p hp
    rcases List.getElem_of_mem (hmem p hp) with ⟨k, hk, rfl⟩
    exact ⟨k, by rw [h.num]; exact hk, h.cell hk⟩

theorem covered_of_traced_eq_empty (h : traced w.log = ∅) : Covered w := by
  intro p hp
  rw [h] at hp
  cases hp

theorem traced_eq_empty_of_idle (hidle : w.Idle) (hcovered : Covered w) :
    traced w.log = ∅ := by
  rw [Finset.eq_empty_iff_forall_notMem]
  intro p hp
  cases (covered_iff hidle.recordIs).mp hcovered p hp

theorem Covered.of_sameRecord (h : Covered w) (hsame : SameRecord w w')
    (htraced : traced w'.log = traced w.log) : Covered w' := by
  unfold Covered World.cells
  rw [htraced, hsame.num, hsame.arr]
  exact h

/-!
## Starts
-/

/--
A daemon with the pid asked for is listed, and in front of it one that is traced
by the other criterion.
-/
def Overwrites (lib : Libs) (a : TraceArgs) (daemons : List Daemon) : Prop :=
  Hits a daemons ∧ exists d, d ∈ inFront a daemons ∧ selects lib a d = true

theorem visitedPids_subset_record_iff :
    (forall p, p ∈ visitedPids (plan lib a daemons) ->
        p ∈ recordAfterPlan (plan lib a daemons) (requestedPids lib a)) <->
      ¬ Overwrites lib a daemons := by
  rcases recordAfterPlan_requestedPids lib a daemons with
    ⟨hhits, hrecord⟩ | ⟨hhits, hpids, hrecord⟩ | ⟨hhits, _, hrecord⟩
  · rw [hrecord]
    constructor
    · intro hvisited hover
      rcases hover.right with ⟨d, hd, hselects⟩
      have hmem := hvisited d.pid
        (mem_visitedPids_plan.mpr (Or.inr ⟨d, hd, rfl, hselects⟩))
      exact pid_ne_of_mem_inFront hhits hd (List.mem_singleton.mp hmem)
    · intro hover p hp
      rcases mem_visitedPids_plan.mp hp with ⟨_, rfl⟩ | ⟨d, hd, _, hselects⟩
      · simp
      · exact absurd ⟨hhits, d, hd, hselects⟩ hover
  · rw [hrecord]
    refine ⟨fun _ hover => hhits hover.left, ?_⟩
    intro _ p hp
    rcases mem_visitedPids_plan.mp hp with hhit | ⟨d, _, rfl, hselects⟩
    · exact absurd hhit.left hhits
    · simpa [selects, hpids] using hselects
  · rw [hrecord]
    exact ⟨fun _ hover => hhits hover.left, fun _ p hp => hp⟩

theorem covered_iff_of_acceptedStart (hnone : traced w.log = ∅)
    (h : AcceptedStart lib a daemons w rc w') :
    Covered w' <-> ¬ Overwrites lib a daemons := by
  have htraced := h.traced
  rw [hnone, Finset.empty_union] at htraced
  by_cases hvisited : visitedPids (plan lib a daemons) = []
  · rw [hvisited] at htraced
    have hover : ¬ Overwrites lib a daemons := by
      rw [← visitedPids_subset_record_iff, hvisited]
      simp
    exact ⟨fun _ => hover, fun _ => covered_of_traced_eq_empty htraced⟩
  · rw [covered_iff (h.started hvisited).right, htraced,
      ← visitedPids_subset_record_iff]
    simp

/-!
## Stops
-/

theorem traced_append_dropEvents_of_acceptsTracedDrops
    (hdrops : AcceptsTracedDrops env) (log : List Event) (ps : List Int) :
    traced (log ++ dropEvents env log ps) = traced log \ ps.toFinset := by
  induction ps generalizing log with
  | nil => simp [dropEvents, dropReplies]
  | cons pid rest ih =>
      have hcut : log ++ dropEvents env log (pid :: rest) =
          (log ++ [dropEvent env log pid]) ++
            dropEvents env (log ++ [dropEvent env log pid]) rest := by
        rw [dropEvents_cons]
        simp
      rw [hcut, ih, traced_append_dropEvent_of_acceptsTracedDrops hdrops]
      ext p
      simp only [Finset.mem_sdiff, Finset.mem_erase, List.mem_toFinset,
        List.mem_cons, not_or]
      tauto

theorem traced_stop_eq_empty (hdrops : AcceptsTracedDrops env)
    (hps : w.RecordIs ps) (hne : ps ≠ []) (hcovered : Covered w)
    (hrun : (traceStop env).run w = .ok rc w') :
    traced w'.log = ∅ := by
  rcases stopped_world hps hne hrun with ⟨_, _, hlog, htraced⟩
  rw [htraced, ← traced_append_dropEvents,
    traced_append_dropEvents_of_acceptsTracedDrops hdrops,
    Finset.sdiff_eq_empty_iff_subset]
  intro p hp
  exact List.mem_toFinset.mpr ((covered_iff hps).mp hcovered p hp)

/-!
## Runs
-/

/-- No pid is traced without being recorded, and none at all after a stop. -/
structure NoOrphan (m : RequestMove) : Prop where
  covered : Covered m.after
  stopped : IsStop m -> ¬ StopRefused m -> traced m.after.log = ∅

/-- The start, if it is one that searches daemons, overwrites no record. -/
def KeepsRecord (lib : Libs) (env : Env) (apiname : Option String)
    (m : RequestMove) : Prop :=
  forall queryJ q daemons w1,
    m.action = Request.traceStart queryJ -> lib.unpackQuery queryJ = some q ->
    ¬ (TraceArgs.ofQuery q).Unset -> m.before.tracePidsNum = 0 ->
    ListsDaemons lib env apiname (TraceArgs.ofQuery q) m.before daemons w1 ->
    ¬ Overwrites lib (TraceArgs.ofQuery q) daemons

theorem covered_emit_fail (h : Covered w) (status info : String) :
    Covered (w.emit (Event.fail status info)) :=
  h.of_sameRecord ⟨rfl, rfl⟩ (traced_append_of_none rfl)

theorem keepsRecord_traceStart_iff :
    KeepsRecord lib env apiname ⟨w, Request.traceStart queryJ, rc, w'⟩ <->
      forall q daemons w1, lib.unpackQuery queryJ = some q ->
        ¬ (TraceArgs.ofQuery q).Unset -> w.tracePidsNum = 0 ->
        ListsDaemons lib env apiname (TraceArgs.ofQuery q) w daemons w1 ->
        ¬ Overwrites lib (TraceArgs.ofQuery q) daemons := by
  constructor
  · intro h q daemons w1
    exact h queryJ q daemons w1 rfl
  · intro h queryJ' q daemons w1 hrequest
    cases hrequest
    exact h q daemons w1

theorem covered_traceStart_iff (hadds : AcceptsAdds env)
    (halloc : AllocationsSucceed env) (hinv : SessionInv w)
    (hcovered : Covered w)
    (hrun : (traceStart lib env apiname queryJ).run w = .ok rc w') :
    Covered w' <->
      KeepsRecord lib env apiname ⟨w, Request.traceStart queryJ, rc, w'⟩ := by
  rw [keepsRecord_traceStart_iff]
  cases startEntry_of_run hrun with
  | refused status info hnever =>
      refine ⟨?_, fun _ => covered_emit_fail hcovered status info⟩
      intro _ q daemons w1 hquery hset hnum
      exact absurd hnum (hnever q hquery hset)
  | entered q hquery hset hnum hrun =>
      have hidle := hinv.idle hnum
      have hnone := traced_eq_empty_of_idle hidle hcovered
      by_cases hlists : exists daemons w1,
          ListsDaemons lib env apiname (TraceArgs.ofQuery q) w daemons w1
      · rcases hlists with ⟨daemons, w1, hlists⟩
        have haccepted := acceptedStart_of_run hadds halloc hset hidle hlists
          hrun
        rw [covered_iff_of_acceptedStart hnone haccepted.right]
        constructor
        · intro hover q' daemons' w2 hquery' _ _ hlists'
          rw [hquery] at hquery'
          cases hquery'
          rw [← (listsDaemons_unique hlists hlists').left]
          exact hover
        · intro hkeeps
          exact hkeeps q daemons w1 hquery hset hnum hlists
      · have hnever : forall daemons w1, ¬ ListsDaemons lib env apiname
            (TraceArgs.ofQuery q) w daemons w1 :=
          fun daemons w1 h => hlists ⟨daemons, w1, h⟩
        have hfailed := failed_of_not_listsDaemons hset hidle hnever hrun
        refine ⟨?_, fun _ =>
          covered_of_traced_eq_empty (hfailed.right.trans hnone)⟩
        intro _ q' daemons' w2 hquery' _ _ hlists'
        rw [hquery] at hquery'
        cases hquery'
        exact absurd hlists' (hnever daemons' w2)

theorem covered_list (hcovered : Covered w)
    (hrun : (list lib env apiname).run w = .ok rc w') : Covered w' := by
  rcases run_bind_eq_ok hrun with ⟨found, w1, hget, hanswer⟩
  have hquiet := (quiet_getDaemons lib env apiname).ok hget
  rcases hquiet.log with ⟨events, hlog, hall⟩
  have htraced : traced w1.log = traced w.log := by
    rw [hlog]
    exact traced_append_discovery hall
  have hcovered1 := hcovered.of_sameRecord hquiet.sameRecord htraced
  cases htable : found.2 with
  | none =>
      rw [htable] at hanswer
      cases hanswer
      exact hcovered1.of_sameRecord ⟨rfl, rfl⟩ (traced_append_of_none rfl)
  | some table =>
      rw [htable] at hanswer
      cases hanswer
      exact hcovered1.of_sameRecord ⟨rfl, rfl⟩ (traced_append_of_none rfl)

theorem noOrphan_traceStop (hdrops : AcceptsTracedDrops env)
    (hinv : SessionInv w) (hcovered : Covered w)
    (hserves : Serves lib env apiname w Request.traceStop rc w') :
    NoOrphan ⟨w, Request.traceStop, rc, w'⟩ := by
  have hserved := served_of_serves hinv hserves
  by_cases hnum : w.tracePidsNum = 0
  · have hnone := traced_eq_empty_of_idle (hinv.idle hnum) hcovered
    have hrun : (traceStop env).run w = .ok rc w' := hserves
    rw [run_traceStop_of_idle env hnum] at hrun
    cases hrun
    have hrefused := (stopRefused_iff hserved rfl).mpr hnum
    exact ⟨covered_emit_fail hcovered _ _, fun _ h => absurd hrefused h⟩
  · rcases hinv with ⟨ps, hps, hnil⟩
    have hne : ps ≠ [] := fun heq => hnum (hnil heq).num
    have hnone := traced_stop_eq_empty hdrops hps hne hcovered hserves
    exact ⟨covered_of_traced_eq_empty hnone, fun _ _ => hnone⟩

theorem noOrphan_iff_keepsRecord (hadds : AcceptsAdds env)
    (hdrops : AcceptsTracedDrops env) (halloc : AllocationsSucceed env)
    (hinv : SessionInv w) (hcovered : Covered w)
    (hserves : Serves lib env apiname w request rc w') :
    NoOrphan ⟨w, request, rc, w'⟩ <->
      KeepsRecord lib env apiname ⟨w, request, rc, w'⟩ := by
  cases request with
  | list =>
      have hafter := covered_list hcovered hserves
      refine ⟨?_, fun _ => ⟨hafter, fun hstop => by cases hstop⟩⟩
      intro _ queryJ q daemons w1 hrequest
      cases hrequest
  | traceStop =>
      refine ⟨?_, fun _ => noOrphan_traceStop hdrops hinv hcovered hserves⟩
      intro _ queryJ q daemons w1 hrequest
      cases hrequest
  | traceStart queryJ =>
      rw [← covered_traceStart_iff hadds halloc hinv hcovered hserves]
      refine ⟨fun h => h.covered, fun h => ⟨h, fun hstop => by cases hstop⟩⟩

/-- No request of a run orphans a trace exactly if no start overwrites. -/
theorem no_orphan_run_iff (hadds : AcceptsAdds env)
    (hdrops : AcceptsTracedDrops env) (halloc : AllocationsSucceed env)
    (hidle : w0.Idle) (hnone : traced w0.log = ∅)
    (hrun : Run (Serves lib env apiname) w0 moves w) :
    (forall m, m ∈ moves -> NoOrphan m) <->
      (forall m, m ∈ moves -> KeepsRecord lib env apiname m) := by
  refine Run.forall_good_iff (I := fun w => SessionInv w ∧ Covered w)
    ⟨hidle.sessionInv, covered_of_traced_eq_empty hnone⟩ ?_ ?_ hrun
  · intro s request rc s' hI hserves
    exact noOrphan_iff_keepsRecord hadds hdrops halloc hI.left hI.right hserves
  · intro s request rc s' hI hserves hgood
    exact ⟨(served_of_serves hI.left hserves).inv, hgood.covered⟩

/-- Tracing the second daemon of the pair by its pid. -/
theorem no_orphan_run_iff_fleet :
    exists moves w,
      Run (Serves fleetLibs (fleetEnv pairFleet) (some "xds")) World.initial
        moves w ∧
      moves.length = 2 ∧
      ((forall m, m ∈ moves -> NoOrphan m) <->
        (forall m, m ∈ moves ->
          KeepsRecord fleetLibs (fleetEnv pairFleet) (some "xds") m)) := by
  have hserve : (serveAll fleetLibs (fleetEnv pairFleet) (some "xds")
      World.initial [Request.traceStart (pidQuery 20), Request.traceStop]).any
      (fun run => run.1.length = 2) = true := by
    decide +kernel
  rcases (Option.any_eq_true _ _).mp hserve with ⟨run, hrun, hlength⟩
  have hruns := run_of_serveAll hrun
  exact ⟨run.1, run.2, hruns, of_decide_eq_true hlength,
    no_orphan_run_iff (fleetEnv_acceptsAdds pairFleet)
      (fleetEnv_rejectsExactlyUntraced pairFleet).acceptsTracedDrops
      (fleetEnv_allocationsSucceed pairFleet) World.initial_idle rfl hruns⟩

/-- Asking for pid 20 traces pid 10 too, and the stop leaves it traced. -/
theorem orphan_of_pid_query :
    AcceptsAdds (fleetEnv pairFleet) ∧
      AcceptsTracedDrops (fleetEnv pairFleet) ∧
      AllocationsSucceed (fleetEnv pairFleet) ∧
      exists moves w,
        Run (Serves fleetLibs (fleetEnv pairFleet) (some "xds")) World.initial
          moves w ∧
        (exists m, m ∈ moves ∧ ¬ NoOrphan m) ∧
        w.tracePidsNum = 0 ∧ traced w.log = {10} := by
  refine ⟨fleetEnv_acceptsAdds pairFleet,
    (fleetEnv_rejectsExactlyUntraced pairFleet).acceptsTracedDrops,
    fleetEnv_allocationsSucceed pairFleet, ?_⟩
  have hserve : (serveAll fleetLibs (fleetEnv pairFleet) (some "xds")
      World.initial [Request.traceStart (pidQuery 20), Request.traceStop]).any
      (fun run => run.1.any (fun m => ¬ Covered m.after) &&
        decide (run.2.tracePidsNum = 0 ∧ traced run.2.log = {10})) = true := by
    decide +kernel
  rcases (Option.any_eq_true _ _).mp hserve with ⟨run, hrun, hcheck⟩
  rcases Bool.and_eq_true_iff.mp hcheck with ⟨horphan, hfinal⟩
  rcases List.any_eq_true.mp horphan with ⟨m, hm, hcovered⟩
  have hnot : ¬ NoOrphan m := fun h => of_decide_eq_true hcovered h.covered
  exact ⟨run.1, run.2, run_of_serveAll hrun, ⟨m, hm, hnot⟩,
    of_decide_eq_true hfinal⟩

/-!
## Retrying a stop
-/

/--
After the stop every traced pid is still recorded, so that another stop drops it
again, and there is no session if nothing is traced.
-/
structure Retryable (w : World) : Prop where
  covered : Covered w
  drops : forall p, p ∈ traced w.log ->
    forall env rc w', (traceStop env).run w = .ok rc w' ->
      p ∈ droppedPids (w.eventsSince w')
  idle : traced w.log = ∅ -> w.Idle

theorem retryable_iff_of_run (hps : w.RecordIs ps) (hne : ps ≠ [])
    (hrun : (traceStop env).run w = .ok rc w') :
    Retryable w' <->
      forall p, p ∈ traced w.log -> p ∈ acceptedDrops env w.log ps := by
  rcases stopped_world hps hne hrun with ⟨hidle, _, _, htraced⟩
  have hnone : traced w'.log = ∅ <->
      forall p, p ∈ traced w.log -> p ∈ acceptedDrops env w.log ps := by
    rw [htraced, Finset.sdiff_eq_empty_iff_subset]
    exact forall₂_congr fun p _ => List.mem_toFinset
  rw [← hnone]
  constructor
  · intro hretry
    exact traced_eq_empty_of_idle hidle hretry.covered
  · intro hempty
    refine ⟨covered_of_traced_eq_empty hempty, ?_, fun _ => hidle⟩
    intro p hp
    rw [hempty] at hp
    cases hp

/--
A stop returns, and can be retried exactly if all traced pids were dropped by
it.
-/
theorem retryable_iff (env : Env) (hps : w.RecordIs ps) (hne : ps ≠ []) :
    exists rc w', (traceStop env).run w = .ok rc w' ∧
      (Retryable w' <->
        forall p, p ∈ traced w.log -> p ∈ acceptedDrops env w.log ps) := by
  have hinv : SessionInv w := ⟨ps, hps, fun hnil => absurd hnil hne⟩
  rcases returns_traceStop env hinv with ⟨rc, w', hrun⟩
  exact ⟨rc, w', hrun, retryable_iff_of_run hps hne hrun⟩

def World.tracing (pid : Int) : World where
  tracePidsNum := 1
  tracePidsArr := some [some pid]
  log := [Event.service (addCall none pid) (respond Json.null)]

theorem tracing_recordIs (pid : Int) : (World.tracing pid).RecordIs [pid] :=
  ⟨rfl, List.prefix_refl _⟩

theorem retryable_iff_fleet :
    exists rc w',
      (traceStop (fleetEnv pairFleet)).run (World.tracing 10) = .ok rc w' ∧
        (Retryable w' <->
          forall p, p ∈ traced (World.tracing 10).log ->
            p ∈ acceptedDrops (fleetEnv pairFleet) (World.tracing 10).log
              [10]) :=
  retryable_iff (fleetEnv pairFleet) (tracing_recordIs 10) (by simp)

/-- The drop is rejected, yet the record is released. -/
theorem not_retryable_of_rejected_drop :
    exists env moves w m,
      Run (Serves fleetLibs env (some "xds")) World.initial moves w ∧
        m ∈ moves ∧ IsStop m ∧ 0 < m.before.tracePidsNum ∧
        Covered m.before ∧ ¬ Retryable m.after := by
  let env := (fleetEnv pairFleet).refusing
    fun call => decide (call = Call.traceDrop 10)
  have hserve : (serveAll fleetLibs env (some "xds") World.initial
      [Request.traceStart (pidQuery 10), Request.traceStop]).any
      (fun run => run.1.any fun m => IsStop m ∧ 0 < m.before.tracePidsNum ∧
        Covered m.before ∧ ¬ Covered m.after) = true := by
    decide +kernel
  rcases (Option.any_eq_true _ _).mp hserve with ⟨run, hrun, hcheck⟩
  rcases List.any_eq_true.mp hcheck with ⟨m, hm, hmove⟩
  rcases of_decide_eq_true hmove with ⟨hstop, hnum, hbefore, hafter⟩
  exact ⟨env, run.1, run.2, m, run_of_serveAll hrun, hm, hstop, hnum, hbefore,
    fun h => hafter h.covered⟩

end Supervisor
end XdsService
