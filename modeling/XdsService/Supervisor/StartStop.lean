import Mathlib.Data.List.Nodup
import XdsService.Supervisor.Accepted

/-!
# A start and the stop that follows

A stop drops the recorded pids one by one.  It succeeds if each of them is
recorded once and was traced by the start; whether that is so depends on how the
record was filled.
-/

namespace XdsService
namespace Supervisor

open Foundation
open Program

variable {lib : Libs} {env : Env} {apiname : Option String}
variable {queryJ : Json} {a : TraceArgs} {q : QueryArgs}
variable {d : Daemon} {daemons : List Daemon} {ps : List Int}
variable {w w0 w1 w2 : World} {rc : Int}

/-!
## Records without repetitions
-/

def MatchesTwice (lib : Libs) (a : TraceArgs) (d : Daemon) : Prop :=
  scanMatches lib a.ws d.wsServers = true ∧
    scanMatches lib a.ws d.wsClients = true

/-- A record that is not rewritten for the pid asked for has no surplus pid. -/
structure RecordsOnce (lib : Libs) (a : TraceArgs) (daemons : List Daemon) :
    Prop where
  pids : ¬ Hits a daemons -> a.pids.isNull = false ->
    (requestedPids lib a).Nodup ∧
      forall p, p ∈ requestedPids lib a -> exists d, d ∈ daemons ∧ d.pid = p
  ws : ¬ Hits a daemons -> a.pids.isNull = true ->
    (forall d, d ∈ daemons -> ¬ MatchesTwice lib a d) ∧
      ((daemons.filter (selects lib a)).map Daemon.pid).Nodup

theorem visitedPids_otherPlan_of_ws (hpids : a.pids.isNull = true) :
    visitedPids (otherPlan lib a d) =
      (if scanMatches lib a.ws d.wsServers then [d.pid] else []) ++
        (if scanMatches lib a.ws d.wsClients then [d.pid] else []) := by
  have hother : otherPlan lib a d = wsPlan lib a d :=
    if_neg (by simp [hpids])
  rw [hother, visitedPids_wsPlan]

theorem mem_visitedPids_plan_of_not_hits (hhits : ¬ Hits a daemons)
    {p : Int} :
    p ∈ visitedPids (plan lib a daemons) <->
      p ∈ (daemons.filter (selects lib a)).map Daemon.pid := by
  rw [mem_visitedPids_plan, inFront_of_not_hits hhits, List.mem_map]
  constructor
  · intro h
    rcases h with hhit | ⟨d, hd, hp, hselects⟩
    · exact absurd hhit.left hhits
    · exact ⟨d, List.mem_filter.mpr ⟨hd, hselects⟩, hp.symm⟩
  · intro h
    rcases h with ⟨d, hd, hp⟩
    rcases List.mem_filter.mp hd with ⟨hmem, hselects⟩
    exact Or.inr ⟨d, hmem, hp.symm, hselects⟩

/-- The visits by socket name repeat a pid only in one of two ways. -/
theorem nodup_visitedPids_iff (hpids : a.pids.isNull = true)
    (hhits : ¬ Hits a daemons) :
    (visitedPids (plan lib a daemons)).Nodup <->
      (forall d, d ∈ daemons -> ¬ MatchesTwice lib a d) ∧
        ((daemons.filter (selects lib a)).map Daemon.pid).Nodup := by
  induction daemons with
  | nil => simp [plan, visitedPids]
  | cons d rest ih =>
      have htarget : ¬ a.IsTarget d := fun h => hhits ⟨d, by simp, h⟩
      have hrest : ¬ Hits a rest := fun h =>
        hhits ((hits_cons_of_not_isTarget htarget rest).mpr h)
      have hmem : d.pid ∈ visitedPids (plan lib a rest) <-> _ :=
        mem_visitedPids_plan_of_not_hits hrest
      have hselects : selects lib a d =
          (scanMatches lib a.ws d.wsServers ||
            scanMatches lib a.ws d.wsClients) :=
        if_neg (by simp [hpids])
      rw [plan_cons_of_not_isTarget htarget, visitedPids_append,
        visitedPids_otherPlan_of_ws hpids]
      simp only [List.forall_mem_cons, List.filter_cons, hselects, MatchesTwice]
      cases hs : scanMatches lib a.ws d.wsServers with
      | false =>
          cases hc : scanMatches lib a.ws d.wsClients with
          | false =>
              simpa [MatchesTwice] using ih hrest
          | true =>
              simp [ih hrest, hmem, MatchesTwice]
              tauto
      | true =>
          cases hc : scanMatches lib a.ws d.wsClients with
          | false =>
              simp [ih hrest, hmem, MatchesTwice]
              tauto
          | true => simp

theorem mem_visitedPids_of_requested (hhits : ¬ Hits a daemons)
    (hpids : a.pids.isNull = false) {p : Int}
    (hp : p ∈ requestedPids lib a) :
    p ∈ visitedPids (plan lib a daemons) <->
      exists d, d ∈ daemons ∧ d.pid = p := by
  have hselects : forall d : Daemon, d.pid = p -> selects lib a d = true := by
    intro d hd
    simp [selects, hpids, hd, hp]
  rw [mem_visitedPids_plan_of_not_hits hhits, List.mem_map]
  constructor
  · intro h
    rcases h with ⟨d, hd, hdp⟩
    exact ⟨d, (List.mem_filter.mp hd).left, hdp⟩
  · intro h
    rcases h with ⟨d, hd, hdp⟩
    exact ⟨d, List.mem_filter.mpr ⟨hd, hselects d hdp⟩, hdp⟩

/-- What is recorded after a start, each pid once and traced by it. -/
theorem recordsOnce_iff :
    ((recordAfterPlan (plan lib a daemons) (requestedPids lib a)).Nodup ∧
        forall p, p ∈ recordAfterPlan (plan lib a daemons)
            (requestedPids lib a) ->
          p ∈ visitedPids (plan lib a daemons)) <->
      RecordsOnce lib a daemons := by
  rcases recordAfterPlan_requestedPids lib a daemons with
    ⟨hhits, hrecord⟩ | ⟨hhits, hpids, hrecord⟩ | ⟨hhits, hpids, hrecord⟩
  · rw [hrecord]
    constructor
    · intro _
      exact ⟨fun h => absurd hhits h, fun h => absurd hhits h⟩
    · intro _
      refine ⟨List.nodup_singleton _, ?_⟩
      intro p hp
      exact mem_visitedPids_plan.mpr
        (Or.inl ⟨hhits, List.mem_singleton.mp hp⟩)
  · rw [hrecord]
    constructor
    · intro h
      refine ⟨fun _ _ => ⟨h.left, fun p hp => ?_⟩, fun _ hnull => ?_⟩
      · exact (mem_visitedPids_of_requested hhits hpids hp).mp (h.right p hp)
      · rw [hpids] at hnull
        cases hnull
    · intro h
      rcases h.pids hhits hpids with ⟨hnodup, hlisted⟩
      exact ⟨hnodup, fun p hp =>
        (mem_visitedPids_of_requested hhits hpids hp).mpr (hlisted p hp)⟩
  · rw [hrecord]
    constructor
    · intro h
      refine ⟨fun _ hnull => ?_, fun _ _ => ?_⟩
      · rw [hpids] at hnull
        cases hnull
      · exact (nodup_visitedPids_iff hpids hhits).mp h.left
    · intro h
      exact ⟨(nodup_visitedPids_iff hpids hhits).mpr (h.ws hhits hpids),
        fun p hp => hp⟩

/-!
## The stop
-/

theorem rejectedDrops_eq_zero (hexact : RejectsExactlyUntraced env)
    {log : List Event} (hnodup : ps.Nodup)
    (htraced : forall p, p ∈ ps -> p ∈ traced log) :
    rejectedDrops env log ps = 0 := by
  induction ps generalizing log with
  | nil => rfl
  | cons pid rest ih =>
      rcases List.nodup_cons.mp hnodup with ⟨hpid, hrest⟩
      have haccepted : ¬ (env.service log (Call.traceDrop pid)).rc < 0 :=
        fun h => (hexact log pid).mp h (htraced pid (by simp))
      rw [rejectedDrops_cons, if_neg haccepted, Nat.zero_add]
      apply ih hrest
      intro p hp
      rw [traced_append_dropEvent_of_acceptsTracedDrops
        hexact.acceptsTracedDrops, Finset.mem_erase]
      exact ⟨fun heq => hpid (heq ▸ hp), htraced p (by simp [hp])⟩

/-- One drop at most for each pid, none for one that is not the start's own. -/
structure StopsCleanly (w w1 : World) (rc : Int) (w2 : World) : Prop where
  once : (droppedPids (w1.eventsSince w2)).Nodup
  own : forall p, p ∈ droppedPids (w1.eventsSince w2) ->
    p ∈ addedPids (w.eventsSince w1)
  success : rc = 0

theorem droppedPids_of_stop (hps : w1.RecordIs ps) (hne : ps ≠ [])
    (hrun : (traceStop env).run w1 = .ok rc w2) :
    droppedPids (w1.eventsSince w2) = ps := by
  rcases stopped_world hps hne hrun with ⟨_, _, hlog, _⟩
  rw [List.append_assoc] at hlog
  have hanswer : droppedPids
      [stopAnswer (rejectedDrops env w1.log ps)] = [] := by
    unfold stopAnswer
    split
    · rfl
    · rfl
  rw [World.eventsSince_of_log hlog, droppedPids_append,
    droppedPids_dropEvents, hanswer, List.append_nil]

theorem stopsCleanly_iff_of_acceptedStart
    (hexact : RejectsExactlyUntraced env)
    (haccepted : AcceptedStart lib a daemons w 0 w1)
    (hrun : (traceStop env).run w1 = .ok rc w2) :
    StopsCleanly w w1 rc w2 <-> RecordsOnce lib a daemons := by
  have hvisited : visitedPids (plan lib a daemons) ≠ [] := fun h =>
    errorCode_ne_zero (haccepted.failed h).left.symm
  have hps := (haccepted.started hvisited).right
  have hne := recordAfterPlan_ne_nil hvisited
  have hdropped := droppedPids_of_stop hps hne hrun
  rcases stopped_world hps hne hrun with ⟨_, hrc, _, _⟩
  rw [← recordsOnce_iff]
  constructor
  · intro h
    have honce := h.once
    have hown := h.own
    rw [hdropped] at honce hown
    rw [haccepted.added] at hown
    exact ⟨honce, hown⟩
  · intro h
    have htraced : forall p, p ∈ recordAfterPlan (plan lib a daemons)
        (requestedPids lib a) -> p ∈ traced w1.log := by
      intro p hp
      rw [haccepted.traced]
      exact Finset.mem_union_right _ (List.mem_toFinset.mpr (h.right p hp))
    constructor
    · rw [hdropped]
      exact h.left
    · rw [hdropped, haccepted.added]
      exact h.right
    · rw [hrc, rejectedDrops_eq_zero hexact h.left htraced]
      rfl

/--
The stop after a successful start returns, and succeeds exactly if the pids are
recorded so.
-/
theorem stop_after_start_iff (hexact : RejectsExactlyUntraced env)
    (hquery : lib.unpackQuery queryJ = some q) (hidle : w.Idle)
    (hlists : ListsDaemons lib env apiname (TraceArgs.ofQuery q) w daemons w0)
    (hstart : (traceStart lib env apiname queryJ).run w = .ok 0 w1) :
    exists rc w2, (traceStop env).run w1 = .ok rc w2 ∧
      (StopsCleanly w w1 rc w2 <->
        RecordsOnce lib (TraceArgs.ofQuery q) daemons) := by
  have hinv := (served_traceStart hidle.sessionInv hstart).inv
  rcases returns_traceStop env hinv with ⟨rc, w2, hstop⟩
  rw [run_traceStart_of_query hquery] at hstart
  have hset : ¬ (TraceArgs.ofQuery q).Unset := by
    intro hset
    rw [run_traceStartArgs_of_unset hset] at hstart
    cases hstart
  exact ⟨rc, w2, hstop, stopsCleanly_iff_of_acceptedStart hexact
    (acceptedStart_of_success hset hidle hlists hstart) hstop⟩

theorem stop_after_start_iff_fleet :
    exists daemons w0 w1,
      ListsDaemons fleetLibs (fleetEnv pairFleet) (some "xds")
          (TraceArgs.ofQuery ⟨some 10, none, none, none⟩) World.initial daemons
          w0 ∧
        (traceStart fleetLibs (fleetEnv pairFleet) (some "xds")
          (pidQuery 10)).run World.initial = .ok 0 w1 ∧
        exists rc w2, (traceStop (fleetEnv pairFleet)).run w1 = .ok rc w2 ∧
          (StopsCleanly World.initial w1 rc w2 <->
            RecordsOnce fleetLibs
              (TraceArgs.ofQuery ⟨some 10, none, none, none⟩) daemons) := by
  have hreturns : returnsWith (fun rc _ => decide (rc = 0))
      ((traceStart fleetLibs (fleetEnv pairFleet) (some "xds")
        (pidQuery 10)).run World.initial) = true := by
    decide +kernel
  rcases exists_of_returnsWith hreturns with ⟨rc, w1, hstart, hrc⟩
  rw [of_decide_eq_true hrc] at hstart
  have hset : ¬ (TraceArgs.ofQuery ⟨some 10, none, none, none⟩).Unset := by
    decide
  rcases listsDaemons_of_success hset World.initial_idle hstart with
    ⟨daemons, w0, hlists⟩
  exact ⟨daemons, w0, w1, hlists, hstart,
    stop_after_start_iff (fleetEnv_rejectsExactlyUntraced pairFleet) rfl
      World.initial_idle hlists hstart⟩

/-- A daemon that matches twice is recorded and dropped twice. -/
theorem stop_fails_after_double_match :
    AcceptsAdds (fleetEnv pairFleet) ∧
      RejectsExactlyUntraced (fleetEnv pairFleet) ∧
      exists w1 rc w2,
        (traceStart fleetLibs (fleetEnv pairFleet) (some "xds")
          (wsQuery "unix")).run World.initial = .ok 0 w1 ∧
        (traceStop (fleetEnv pairFleet)).run w1 = .ok rc w2 ∧
        ¬ StopsCleanly World.initial w1 rc w2 ∧
        droppedPids (w1.eventsSince w2) = [10, 20, 20] ∧ rc = errorCode := by
  refine ⟨fleetEnv_acceptsAdds pairFleet,
    fleetEnv_rejectsExactlyUntraced pairFleet, ?_⟩
  have hreturns : returnsWith
      (fun rc w1 => decide (rc = 0) &&
        returnsWith
          (fun rc w2 => decide (droppedPids (w1.eventsSince w2) = [10, 20, 20] ∧
            rc = errorCode))
          ((traceStop (fleetEnv pairFleet)).run w1))
      ((traceStart fleetLibs (fleetEnv pairFleet) (some "xds")
        (wsQuery "unix")).run World.initial) = true := by
    decide +kernel
  rcases exists_of_returnsWith hreturns with ⟨rc, w1, hstart, hcheck⟩
  rcases Bool.and_eq_true_iff.mp hcheck with ⟨hrc, hreturns'⟩
  rcases exists_of_returnsWith hreturns' with ⟨rc', w2, hstop, hcheck'⟩
  rw [of_decide_eq_true hrc] at hstart
  rcases of_decide_eq_true hcheck' with ⟨hdropped, hrc'⟩
  refine ⟨w1, rc', w2, hstart, hstop, ?_, hdropped, hrc'⟩
  intro hclean
  exact errorCode_ne_zero (hrc'.symm.trans hclean.success)

end Supervisor
end XdsService
