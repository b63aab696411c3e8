import XdsService.Supervisor.Coverage

/-!
# What a session leaves traced

A session goes from a start that succeeds to the next stop.  Other clients may
list the daemons or try to start in the meantime.  Where traced pids can be
dropped, the session has traced and dropped what its criterion says, whatever
was left traced by earlier requests; so a session by an array of pids takes
away just these pids.
-/

namespace XdsService
namespace Supervisor

open Foundation
open Program

variable {lib : Libs} {env : Env} {apiname : Option String}
variable {queryJ : Json} {a : TraceArgs} {q : QueryArgs}
variable {daemons : List Daemon} {ps : List Int}
variable {w w1 w' : World} {rc : Int} {request : Request}

/-!
## Criteria
-/

/-- The pids of the daemons in front of the target that are traced as well. -/
def otherPids (lib : Libs) (a : TraceArgs) (daemons : List Daemon) :
    Finset Int :=
  (((inFront a daemons).filter fun d => selects lib a d).map
    Daemon.pid).toFinset

theorem mem_otherPids {p : Int} :
    p ∈ otherPids lib a daemons <->
      exists d, d ∈ inFront a daemons ∧ p = d.pid ∧ selects lib a d = true := by
  simp only [otherPids, List.mem_toFinset, List.mem_map, List.mem_filter]
  constructor
  · intro h
    rcases h with ⟨d, ⟨hd, hselects⟩, rfl⟩
    exact ⟨d, hd, rfl, hselects⟩
  · intro h
    rcases h with ⟨d, hd, rfl, hselects⟩
    exact ⟨d, ⟨hd, hselects⟩, rfl⟩

/-- What is traced after the session, by what was traced before it. -/
structure SessionEffect (lib : Libs) (a : TraceArgs) (daemons : List Daemon)
    (before after : Finset Int) : Prop where
  pid : Hits a daemons ->
    after = (before \ {a.pid}) ∪ otherPids lib a daemons
  pids : ¬ Hits a daemons -> a.pids.isNull = false ->
    after = before \ (requestedPids lib a).toFinset
  ws : ¬ Hits a daemons -> a.pids.isNull = true ->
    after = before \ otherPids lib a daemons

theorem mem_visitedPids_iff {p : Int} :
    p ∈ visitedPids (plan lib a daemons) <->
      (Hits a daemons ∧ p = a.pid) ∨ p ∈ otherPids lib a daemons := by
  rw [mem_visitedPids_plan, mem_otherPids]

theorem pid_notMem_otherPids (hhits : Hits a daemons) :
    a.pid ∉ otherPids lib a daemons := by
  intro hmem
  rcases mem_otherPids.mp hmem with ⟨d, hd, hpid, _⟩
  exact pid_ne_of_mem_inFront hhits hd hpid.symm

theorem otherPids_subset_requestedPids (hpids : a.pids.isNull = false) :
    otherPids lib a daemons ⊆ (requestedPids lib a).toFinset := by
  intro p hp
  rcases mem_otherPids.mp hp with ⟨d, _, rfl, hselects⟩
  rw [List.mem_toFinset]
  simpa [selects, hpids] using hselects

theorem not_hits_of_pid (h : a.pid = -1) : ¬ Hits a daemons := by
  intro hhits
  rcases hhits with ⟨d, _, htarget⟩
  exact htarget.left h

theorem visitedPids_ne_nil_of_listed (hhits : ¬ Hits a daemons)
    (hpids : a.pids.isNull = false)
    (hlisted : exists d, d ∈ daemons ∧ d.pid ∈ requestedPids lib a) :
    visitedPids (plan lib a daemons) ≠ [] := by
  rcases hlisted with ⟨d, hd, hrequested⟩
  apply List.ne_nil_of_mem (a := d.pid)
  rw [mem_visitedPids_plan, inFront_of_not_hits hhits]
  refine Or.inr ⟨d, hd, rfl, ?_⟩
  simpa [selects, hpids] using hrequested

/-- A session that traces what its plan visits and drops what it recorded. -/
theorem sessionEffect_of_plan (before : Finset Int) :
    SessionEffect lib a daemons before
      ((before ∪ (visitedPids (plan lib a daemons)).toFinset) \
        (recordAfterPlan (plan lib a daemons)
          (requestedPids lib a)).toFinset) := by
  rcases recordAfterPlan_requestedPids lib a daemons with
    ⟨hhits, hrecord⟩ | ⟨hhits, hpids, hrecord⟩ | ⟨hhits, hpids, hrecord⟩
  · refine ⟨fun _ => ?_, fun h => absurd hhits h, fun h => absurd hhits h⟩
    have hother := @pid_notMem_otherPids lib a daemons hhits
    rw [hrecord]
    ext p
    simp only [Finset.mem_sdiff, Finset.mem_union, List.mem_toFinset,
      mem_visitedPids_iff, List.mem_singleton, Finset.mem_singleton]
    by_cases hp : p = a.pid
    · simp [hp, hother]
    · simp [hp]
  · refine ⟨fun h => absurd h hhits, fun _ _ => ?_, fun _ h => ?_⟩
    · have hother := @otherPids_subset_requestedPids lib a daemons hpids
      rw [hrecord]
      ext p
      have hp := @hother p
      simp only [Finset.mem_sdiff, Finset.mem_union, List.mem_toFinset,
        mem_visitedPids_iff, hhits, false_and, false_or] at hp ⊢
      tauto
    · rw [hpids] at h
      cases h
  · refine ⟨fun h => absurd h hhits, fun _ h => ?_, fun _ _ => ?_⟩
    · rw [hpids] at h
      cases h
    · rw [hrecord]
      ext p
      simp only [Finset.mem_sdiff, Finset.mem_union, List.mem_toFinset,
        mem_visitedPids_iff, hhits, false_and, false_or]
      tauto

/-!
## Requests within a session
-/

theorem traced_list (hrun : (list lib env apiname).run w = .ok rc w') :
    traced w'.log = traced w.log := by
  rcases run_bind_eq_ok hrun with ⟨found, w1, hget, hanswer⟩
  rcases ((quiet_getDaemons lib env apiname).ok hget).log with
    ⟨events, hlog, hall⟩
  have htraced : traced w1.log = traced w.log := by
    rw [hlog]
    exact traced_append_discovery hall
  rw [← htraced]
  cases htable : found.2 with
  | none =>
      rw [htable] at hanswer
      cases hanswer
      exact traced_append_of_none rfl
  | some table =>
      rw [htable] at hanswer
      cases hanswer
      exact traced_append_of_none rfl

theorem traced_traceStart_of_tracing (hnum : 0 < w.tracePidsNum)
    (hrun : (traceStart lib env apiname queryJ).run w = .ok rc w') :
    traced w'.log = traced w.log := by
  cases startEntry_of_run hrun with
  | refused status info _ => exact traced_append_of_none rfl
  | entered q _ _ hidle _ => exact absurd hidle (Nat.ne_of_gt hnum)

/-- The session of `w` goes on in `w'`, and as many daemons are traced. -/
structure SameSession (w w' : World) : Prop where
  record : SameRecord w w'
  traced : traced w'.log = traced w.log

theorem sameSession_of_serves (hinv : SessionInv w)
    (hnum : 0 < w.tracePidsNum) (hother : request ≠ Request.traceStop)
    (hserves : Serves lib env apiname w request rc w') :
    SameSession w w' := by
  have hserved := served_of_serves hinv hserves
  cases request with
  | list =>
      cases hserved.session with
      | list hsame => exact ⟨hsame, traced_list hserves⟩
  | traceStart queryJ =>
      have hstart : IsStart ⟨w, Request.traceStart queryJ, rc, w'⟩ :=
        ⟨queryJ, rfl⟩
      rcases start_while_tracing hserved hstart hnum with ⟨_, _, _, hsame⟩
      exact ⟨hsame, traced_traceStart_of_tracing hnum hserves⟩
  | traceStop => exact absurd rfl hother

/-- Requests of other clients change nothing until the session is stopped. -/
theorem sameSession_of_run {between : List RequestMove} (hinv : SessionInv w)
    (hnum : 0 < w.tracePidsNum)
    (hrun : Run (Serves lib env apiname) w between w')
    (hopen : forall m, m ∈ between -> ¬ IsStop m) :
    SessionInv w' ∧ SameSession w w' := by
  apply Run.invariant_of_moves
    (I := fun s => SessionInv s ∧ SameSession w s) (C := fun m => ¬ IsStop m)
    ⟨hinv, ⟨⟨rfl, rfl⟩, rfl⟩⟩ _ hrun hopen
  intro s request rc s' hI hserves hother
  have hpos : 0 < s.tracePidsNum := by
    rw [hI.right.record.num]
    exact hnum
  have hstep := sameSession_of_serves hI.left hpos hother hserves
  refine ⟨(served_of_serves hI.left hserves).inv, ?_, ?_⟩
  · exact IsTrans.trans _ _ _ hI.right.record hstep.record
  · exact hstep.traced.trans hI.right.traced

/-!
## Sessions
-/

theorem traced_traceStop (hdrops : AcceptsTracedDrops env)
    (hps : w.RecordIs ps) (hne : ps ≠ [])
    (hrun : (traceStop env).run w = .ok rc w') :
    w'.Idle ∧ traced w'.log = traced w.log \ ps.toFinset := by
  rcases stopped_world hps hne hrun with ⟨hidle, _, _, htraced⟩
  refine ⟨hidle, ?_⟩
  rw [htraced, ← traced_append_dropEvents,
    traced_append_dropEvents_of_acceptsTracedDrops hdrops]

/-- A start that succeeds, on its way into the session. -/
structure Opened (lib : Libs) (env : Env) (apiname : Option String)
    (w w' : World) (q : QueryArgs) (daemons : List Daemon) : Prop where
  lists : exists w1,
    ListsDaemons lib env apiname (TraceArgs.ofQuery q) w daemons w1
  traced : traced w'.log = traced w.log ∪
    (visitedPids (plan lib (TraceArgs.ofQuery q) daemons)).toFinset
  record : w'.RecordIs (recordAfterPlan (plan lib (TraceArgs.ofQuery q) daemons)
    (requestedPids lib (TraceArgs.ofQuery q)))
  recorded : recordAfterPlan (plan lib (TraceArgs.ofQuery q) daemons)
    (requestedPids lib (TraceArgs.ofQuery q)) ≠ []

theorem opened_of_run (hinv : SessionInv w)
    (hrun : (traceStart lib env apiname queryJ).run w = .ok 0 w') :
    exists q daemons, lib.unpackQuery queryJ = some q ∧
      Opened lib env apiname w w' q daemons := by
  generalize hrc : (0 : Int) = rc at hrun
  cases startEntry_of_run hrun with
  | refused status info _ => exact absurd hrc.symm errorCode_ne_zero
  | entered q hquery hset hnum hrun =>
      have hidle := hinv.idle hnum
      rw [← hrc] at hrun
      rcases listsDaemons_of_success hset hidle hrun with ⟨daemons, w1, hlists⟩
      have haccepted := acceptedStart_of_success hset hidle hlists hrun
      have hvisited :
          visitedPids (plan lib (TraceArgs.ofQuery q) daemons) ≠ [] :=
        fun hnone => errorCode_ne_zero (haccepted.failed hnone).left.symm
      exact ⟨q, daemons, hquery, ⟨w1, hlists⟩, haccepted.traced,
        (haccepted.started hvisited).right, recordAfterPlan_ne_nil hvisited⟩

theorem sessionEffect_of_opened (hdrops : AcceptsTracedDrops env)
    (hopened : Opened lib env apiname w w1 q daemons) {w2 : World}
    (hsame : SameSession w1 w2) (hstop : (traceStop env).run w2 = .ok rc w') :
    w'.Idle ∧ SessionEffect lib (TraceArgs.ofQuery q) daemons
      (traced w.log) (traced w'.log) := by
  have hrecord := hsame.record.recordIs hopened.record
  rcases traced_traceStop hdrops hrecord hopened.recorded hstop with
    ⟨hidle, htraced⟩
  rw [htraced, hsame.traced, hopened.traced]
  exact ⟨hidle, sessionEffect_of_plan _⟩

def twoSessions : List Request :=
  [Request.traceStart (pidQuery 20), Request.traceStop,
    Request.traceStart (pidsQuery [10, 20]), Request.list, Request.traceStop]

theorem moves_of_twoSessions {moves : List RequestMove}
    (h : moves.map Move.action = twoSessions) :
    exists m1 m2 m3 m4 m5, moves = [m1, m2, m3, m4, m5] ∧
      m3.action = Request.traceStart (pidsQuery [10, 20]) ∧
      m4.action = Request.list ∧ m5.action = Request.traceStop := by
  rcases List.map_eq_cons_iff.mp h with ⟨m1, rest1, rfl, _, h1⟩
  rcases List.map_eq_cons_iff.mp h1 with ⟨m2, rest2, rfl, _, h2⟩
  rcases List.map_eq_cons_iff.mp h2 with ⟨m3, rest3, rfl, h3, h4⟩
  rcases List.map_eq_cons_iff.mp h4 with ⟨m4, rest4, rfl, h5, h6⟩
  rcases List.map_eq_cons_iff.mp h6 with ⟨m5, rest5, rfl, h7, h8⟩
  rw [List.map_eq_nil_iff.mp h8]
  exact ⟨m1, m2, m3, m4, m5, rfl, h3, h5, h7⟩

section Runs

variable {moves earlier between : List RequestMove}
variable {start stop : RequestMove}

/--
A session at the end of any run, with requests of other clients in between and
whatever earlier requests left traced.
-/
theorem session_effect (hdrops : AcceptsTracedDrops env)
    (hrun : Run (Serves lib env apiname) World.initial
      (earlier ++ start :: (between ++ [stop])) w)
    (hstart : start.action = Request.traceStart queryJ)
    (hanswer : start.answer = 0)
    (hopen : forall m, m ∈ between -> ¬ IsStop m) (hstop : IsStop stop) :
    w.Idle ∧ exists q daemons w1,
      lib.unpackQuery queryJ = some q ∧
      ListsDaemons lib env apiname (TraceArgs.ofQuery q) start.before daemons
        w1 ∧
      SessionEffect lib (TraceArgs.ofQuery q) daemons
        (traced start.before.log) (traced w.log) := by
  rcases Run.split hrun with ⟨s1, hearlier, hrest⟩
  rcases Run.cons_inv hrest with ⟨hbefore, hstarts, hrest⟩
  rcases Run.split hrest with ⟨s2, hbetween, hlast⟩
  rcases Run.cons_inv hlast with ⟨hbefore', hstops, hend⟩
  have hinv : SessionInv start.before := by
    rw [hbefore]
    exact served_of_run_snoc World.initial_idle hearlier
  rw [← hbefore, hstart, hanswer] at hstarts
  have hserved := served_of_serves hinv hstarts
  rcases opened_of_run hinv hstarts with ⟨q, daemons, hquery, hopened⟩
  have hnum : 0 < start.after.tracePidsNum := by
    rw [hopened.record.num]
    exact List.length_pos_of_ne_nil hopened.recorded
  have hsame := sameSession_of_run hserved.inv hnum hbetween hopen
  rw [hstop] at hstops
  rw [Run.nil_inv hend]
  rcases sessionEffect_of_opened hdrops hopened hsame.right hstops with
    ⟨hidle, heffect⟩
  rcases hopened.lists with ⟨w1, hlists⟩
  exact ⟨hidle, q, daemons, w1, hquery, hlists, heffect⟩

/-- The first session leaves pid 10 traced, and the second one takes it away. -/
theorem session_effect_fleet :
    exists before w : World, traced before.log = {10} ∧ traced w.log = ∅ ∧
      w.Idle ∧ exists q daemons w1,
        fleetLibs.unpackQuery (pidsQuery [10, 20]) = some q ∧
        ListsDaemons fleetLibs (fleetEnv pairFleet) (some "xds")
          (TraceArgs.ofQuery q) before daemons w1 ∧
        SessionEffect fleetLibs (TraceArgs.ofQuery q) daemons
          (traced before.log) (traced w.log) := by
  have hserve : (serveAll fleetLibs (fleetEnv pairFleet) (some "xds")
      World.initial twoSessions).any (fun run =>
        decide (run.1.map Move.answer = [0, 0, 0, 0, 0]) &&
        decide (run.1.map (fun m => traced m.before.log) =
          [∅, {10, 20}, {10}, {10, 20}, {10, 20}]) &&
        decide (traced run.2.log = ∅)) = true := by
    decide +kernel
  rcases (Option.any_eq_true _ _).mp hserve with ⟨run, hrun, hcheck⟩
  simp only [Bool.and_eq_true, decide_eq_true_eq] at hcheck
  rcases hcheck with ⟨⟨hanswers, htraced⟩, hfinal⟩
  have hruns := run_of_serveAll hrun
  rcases moves_of_twoSessions (actions_of_serveAll hrun) with
    ⟨m1, m2, m3, m4, m5, hmoves, hstart, hlist, hstop⟩
  rw [hmoves] at hruns hanswers htraced
  simp only [List.map_cons, List.map_nil, List.cons.injEq] at hanswers htraced
  have hbetween : forall m, m ∈ [m4] -> ¬ IsStop m := by
    intro m hm hstops
    rw [List.mem_singleton.mp hm] at hstops
    cases hlist.symm.trans hstops
  have hcut : Run (Serves fleetLibs (fleetEnv pairFleet) (some "xds"))
      World.initial ([m1, m2] ++ m3 :: ([m4] ++ [m5])) run.2 := hruns
  exact ⟨m3.before, run.2, htraced.right.right.left, hfinal,
    session_effect (fleetEnv_rejectsExactlyUntraced pairFleet).acceptsTracedDrops
      hcut hstart hanswers.right.right.left hbetween hstop⟩

/--
Pids left traced by earlier requests can be taken away: a start that gives them
in an array, where one of them is listed, and the next stop leave all other pids
as they were.
-/
theorem orphans_recovered (hadds : AcceptsAdds env)
    (hdrops : AcceptsTracedDrops env) (halloc : AllocationsSucceed env)
    (hrun : Run (Serves lib env apiname) World.initial moves w)
    (hnum : w.tracePidsNum = 0) (hquery : lib.unpackQuery queryJ = some q)
    (hpid : (TraceArgs.ofQuery q).pid = -1)
    (hpids : (TraceArgs.ofQuery q).pids.isNull = false)
    (hlists : ListsDaemons lib env apiname (TraceArgs.ofQuery q) w daemons w1)
    (hlisted : exists d, d ∈ daemons ∧
      d.pid ∈ requestedPids lib (TraceArgs.ofQuery q)) :
    exists w2 rc w', Run (Serves lib env apiname) World.initial
        (moves ++ [⟨w, Request.traceStart queryJ, 0, w2⟩,
          ⟨w2, Request.traceStop, rc, w'⟩]) w' ∧
      w'.Idle ∧
      traced w'.log =
        traced w.log \ (requestedPids lib (TraceArgs.ofQuery q)).toFinset := by
  have hinv := served_of_run_snoc World.initial_idle hrun
  have hset : ¬ (TraceArgs.ofQuery q).Unset := by
    intro hunset
    exact absurd hunset.right.left (ne_true_of_eq_false hpids)
  have hhits : ¬ Hits (TraceArgs.ofQuery q) daemons := not_hits_of_pid hpid
  have hvisited := visitedPids_ne_nil_of_listed hhits hpids hlisted
  have hcrash : PlanStep.crash ∉ plan lib (TraceArgs.ofQuery q) daemons := by
    intro h
    exact absurd (crash_mem_plan_iff.mp h).left (ne_true_of_eq_false hpids)
  rcases acceptedStart_cases hadds halloc hset (hinv.idle hnum) hlists with
    ⟨_, rc, w2, hstart, haccepted⟩ | ⟨hmem, _⟩
  · rw [(haccepted.started hvisited).left] at hstart
    rw [← run_traceStart_of_query hquery] at hstart
    have hstarts : Serves lib env apiname w (Request.traceStart queryJ) 0 w2 :=
      hstart
    have hinv2 := (served_of_serves hinv hstarts).inv
    rcases returns_traceStop env hinv2 with ⟨rc', w', hstop⟩
    have hstops : Serves lib env apiname w2 Request.traceStop rc' w' := hstop
    rcases traced_traceStop hdrops (haccepted.started hvisited).right
      (recordAfterPlan_ne_nil hvisited) hstop with ⟨hidle, htraced⟩
    refine ⟨w2, rc', w', ?_, hidle, ?_⟩
    · have hboth := Run.snoc (Run.snoc hrun hstarts) hstops
      rw [List.append_assoc] at hboth
      exact hboth
    · rw [htraced, haccepted.traced]
      exact (sessionEffect_of_plan (traced w.log)).pids hhits hpids
  · exact absurd hmem hcrash

theorem orphans_recovered_fleet :
    exists moves w queryJ q, Run (Serves fleetLibs (fleetEnv pairFleet)
        (some "xds")) World.initial moves w ∧ traced w.log = {10} ∧
      exists w2 rc w', Run (Serves fleetLibs (fleetEnv pairFleet) (some "xds"))
          World.initial (moves ++ [⟨w, Request.traceStart queryJ, 0, w2⟩,
            ⟨w2, Request.traceStop, rc, w'⟩]) w' ∧
        w'.Idle ∧
        traced w'.log = traced w.log \
          (requestedPids fleetLibs (TraceArgs.ofQuery q)).toFinset := by
  let q : QueryArgs :=
    ⟨none, some (Json.array [Json.int 10]), none, none⟩
  have hserve : (serveAll fleetLibs (fleetEnv pairFleet) (some "xds")
      World.initial [Request.traceStart (pidQuery 20), Request.traceStop]).any
      (fun run => decide (run.2.tracePidsNum = 0 ∧ traced run.2.log = {10}) &&
        returnsWith (fun found _ =>
            (tableDaemons found.2).any fun d => decide (d.pid = 10))
          ((do
            prefillRecord fleetLibs (fleetEnv pairFleet) (TraceArgs.ofQuery q)
            getDaemons fleetLibs (fleetEnv pairFleet) (some "xds") :
              Handler _).run run.2)) = true := by
    decide +kernel
  rcases (Option.any_eq_true _ _).mp hserve with ⟨run, hrun, hcheck⟩
  rcases Bool.and_eq_true_iff.mp hcheck with ⟨hfinal, hreturns⟩
  rcases of_decide_eq_true hfinal with ⟨hnum, htraced⟩
  rcases exists_of_returnsWith hreturns with ⟨found, w1, hget, hany⟩
  rcases List.any_eq_true.mp hany with ⟨d, hd, hpid⟩
  have hlisted : d.pid ∈ requestedPids fleetLibs (TraceArgs.ofQuery q) := by
    rw [of_decide_eq_true hpid]
    decide
  exact ⟨run.1, run.2, pidsQuery [10], q, run_of_serveAll hrun, htraced,
    orphans_recovered (fleetEnv_acceptsAdds pairFleet)
      (fleetEnv_rejectsExactlyUntraced pairFleet).acceptsTracedDrops
      (fleetEnv_allocationsSucceed pairFleet) (run_of_serveAll hrun) hnum rfl
      rfl rfl ⟨found, hget, rfl⟩ ⟨d, hd, hlisted⟩⟩

end Runs

end Supervisor
end XdsService
